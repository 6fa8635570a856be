import StorageTrace.Cgroup
import StorageTrace.SystemError

/-! # Entity directories

A directory lists the entities of a namespace, or of all. Entities come from the configuration, from
a scan of the cgroup tree, or from several directories merged by name.
-/

namespace StorageTrace

/-- Why a listing failed. -/
inductive ListingError where
  | unavailable (text : String)
  | unreadableRoot (root : String) (cause : SystemError)
  | member (name : String) (cause : ListingError)
  deriving DecidableEq, Repr, Inhabited

namespace ListingError

/-- The texts of a failure and of its causes, outermost first. -/
def chain : ListingError → List String
  | .unavailable text => [text]
  | .unreadableRoot root cause =>
    [s!"scanning cgroups under {root}", s!"reading {root}", cause.message]
  | .member name cause => s!"listing {name} directory" :: cause.chain

def message (error : ListingError) : String := ": ".intercalate error.chain

end ListingError

/-- What stands at the root of a cgroup scan. -/
inductive CgroupRoot where
  | unreadable (cause : SystemError)
  | tree (nodes : List CgroupNode)
  deriving Inhabited

/-- A source of entities. -/
inductive Directory where
  | fixed (entities : List FixedEntity)
  | cgroup (root : String) (content : CgroupRoot) (namespaceName : String)
  | failing (name text : String)
  | composite (members : List Directory)
  deriving Inhabited

/-- Whether a scope takes in a namespace; the empty scope takes in every one. -/
def inScope (scope namespaceName : String) : Bool := scope = "" || scope = namespaceName

namespace EntityInfo

/-- Appends ids to a list, each only if the list does not hold it yet. -/
def addIds (known new : List UInt64) : List UInt64 :=
  new.foldl (fun ids id => if ids.contains id then ids else ids ++ [id]) known

/-- Adds an entity to a listing. An entity of the same name only passes its new ids on. -/
def mergeInto (listed : List EntityInfo) (info : EntityInfo) : List EntityInfo :=
  if listed.any fun known => known.name = info.name then
    listed.map fun known =>
      if known.name = info.name then { known with cgroups := addIds known.cgroups info.cgroups }
      else known
  else listed ++ [info]

/-- One entry for each name, in order of first appearance. -/
def merge (infos : List EntityInfo) : List EntityInfo := infos.foldl mergeInto []

end EntityInfo

namespace Directory

def name : Directory → String
  | .fixed _ => "static"
  | .cgroup _ _ _ => "cgroup"
  | .failing name _ => name
  | .composite _ => "composite"

mutual

/-- The entities of a directory that are in scope. -/
def list (scope : String) : Directory → Except ListingError (List EntityInfo)
  | .fixed entities =>
    .ok ((entities.map FixedEntity.toInfo).filter fun info => inScope scope info.namespaceName)
  | .cgroup root content namespaceName =>
    if inScope scope namespaceName then
      match content with
      | .unreadable cause => .error (.unreadableRoot root cause)
      | .tree nodes => .ok (CgroupNode.entities namespaceName nodes)
    else .ok []
  | .failing _ text => .error (.unavailable text)
  | .composite members =>
    match listMembers scope members with
    | .ok infos => .ok (EntityInfo.merge infos)
    | .error cause => .error cause

/-- The listings of several directories, one after the other; the first failure is that of all. -/
def listMembers (scope : String) : List Directory → Except ListingError (List EntityInfo)
  | [] => .ok []
  | member :: rest =>
    match list scope member with
    | .error cause => .error (.member member.name cause)
    | .ok infos =>
      match listMembers scope rest with
      | .error cause => .error cause
      | .ok others => .ok (infos ++ others)

end

end Directory

/-- Which entity each cgroup belongs to. -/
structure OwnerIndex where
  owners : Table UInt64 String := Table.empty

namespace OwnerIndex

/-- Every cgroup that a listing names, with the entity that names it. -/
def claims (infos : List EntityInfo) : List (UInt64 × String) :=
  infos.flatMap fun info => info.cgroups.map fun id => (id, info.name)

/-- Gives a cgroup to an entity unless it has an owner. -/
def claim (owners : Table UInt64 String) (entry : UInt64 × String) : Table UInt64 String :=
  if owners.contains entry.1 then owners else owners.insert entry.1 entry.2

/-- The index of a listing. A cgroup that several entities name belongs to the first of them. -/
def ofListing (infos : List EntityInfo) : OwnerIndex :=
  ⟨(claims infos).foldl claim Table.empty⟩

def resolve (index : OwnerIndex) (cgroup : UInt64) : Option String := index.owners.find? cgroup

def size (index : OwnerIndex) : Nat := index.owners.size

end OwnerIndex

end StorageTrace
