/-! # Entities

An entity is a workload with a name, a namespace and the cgroups that its tasks run in.
-/

namespace StorageTrace

/-- An entity as a directory lists it. -/
structure EntityInfo where
  name : String
  namespaceName : String := "default"
  cgroups : List UInt64 := []
  deriving DecidableEq, Repr, Inhabited

/-- An entity as the configuration names it; cgroup zero stands for none. -/
structure FixedEntity where
  name : String
  namespaceName : String := "default"
  cgroup : UInt64 := 0
  deriving DecidableEq, Repr, Inhabited

namespace FixedEntity

def toInfo (entity : FixedEntity) : EntityInfo :=
  { name := entity.name
    namespaceName := entity.namespaceName
    cgroups := if entity.cgroup = 0 then [] else [entity.cgroup] }

end FixedEntity

end StorageTrace
