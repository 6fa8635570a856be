import StorageTrace.Entity
import StorageTrace.Names
import StorageTrace.PodUid
import StorageTrace.Table

/-! # Cgroup trees

A pod owns the directory that names it and every directory below, whatever those are called. The
scan goes nine levels deep and collects the cgroup ids of each pod.
-/

namespace StorageTrace

/-- What a cgroup directory holds: directories with their ids and what is in them, and files. -/
inductive CgroupNode where
  | directory (name : String) (id : UInt64) (children : List CgroupNode)
  | file (name : String)
  deriving Inhabited

namespace CgroupNode

/-- What is right below a place, each directory with what is below it, out of lists of paths. Directories
come with ids. Only so many levels are built. -/
def ofPaths (dirs : List (List String × UInt64)) (levels : Nat) (above : List String)
    (files : List (List String) := []) : List CgroupNode :=
  match levels with
  | 0 => []
  | levels + 1 =>
    let right (path : List String) : Bool := !path.isEmpty && path.dropLast = above
    ((files.filter right).map fun path => .file (path.getLastD "")) ++
      (dirs.filter fun dir => right dir.1).map fun dir =>
        .directory (dir.1.getLastD "") dir.2 (ofPaths dirs levels dir.1 files)

/-- How many levels below the root are looked at. -/
def maxLevels : Nat := 9

/-- Adds the id of a directory to those of a pod. -/
def record (pods : Table String (List UInt64)) (pod : String) (id : UInt64) :
    Table String (List UInt64) :=
  pods.insert pod ((pods.find? pod).getD [] ++ [id])

/-- Adds the directories below a place to the pods that own them. A directory belongs to the pod that owns
the place, or else to the one that it names itself. -/
def scan (above : Option String) : Nat → List CgroupNode → Table String (List UInt64) →
    Table String (List UInt64)
  | 0, _, pods => pods
  | levels + 1, nodes, pods =>
    nodes.foldl (fun pods node =>
      match node with
      | .file _ => pods
      | .directory name id children =>
        let owner := above.or (PodUid.ofName? name)
        let grown := match owner with
          | some pod => record pods pod id
          | none => pods
        scan owner levels children grown) pods

/-- The pods found, in ascending order of uids, each with its ids in the order of the scan. -/
def entities (namespaceName : String) (roots : List CgroupNode) : List EntityInfo :=
  (scan none maxLevels roots Table.empty).sorted.map fun (pod, cgroups) =>
    { name := pod, namespaceName, cgroups }

end CgroupNode

end StorageTrace
