import StorageTrace.SystemError

/-! # Paths in a working directory

What a path leads to for a program whose working directory holds a few files. Outside of it only the
directories that paths go through are known, and the device that is always empty.
-/

namespace StorageTrace

/-- The files that a program finds in the directory it runs in, by name. -/
structure WorkingDirectory where
  files : List (String × String)
  deriving Inhabited

namespace WorkingDirectory

/-- Where a walk along a path stands. -/
inductive Position where
  | here
  | above
  | root
  | devices
  | file (text : String)
  deriving DecidableEq, Repr, Inhabited

/-- The greatest number of bytes of a name. -/
def nameLimit : Nat := 255

/-- The greatest number of bytes of a path. -/
def pathLimit : Nat := 4095

/-- The directory that a directory stands in. -/
def parent : Position → Position
  | .root | .devices => .root
  | _ => .above

/-- What has a name in a directory. -/
def entry? (directory : WorkingDirectory) (position : Position) (name : String) : Option Position :=
  match position with
  | .here => (directory.files.lookup name).map .file
  | .root => if name = "dev" then some .devices else none
  | .devices => if name = "null" then some (.file "") else none
  | .above | .file _ => none

/-- Follows one name of a path. -/
def step (directory : WorkingDirectory) (position : Position) (name : String) :
    Except SystemError Position :=
  match position with
  | .file _ => .error .notDirectory
  | position =>
    if name = "" || name = "." then .ok position
    else if name = ".." then .ok (parent position)
    else if nameLimit < name.utf8ByteSize then .error .nameTooLong
    else
      match directory.entry? position name with
      | some next => .ok next
      | none => .error .noEntry

/-- Follows a path to its end. -/
def follow (directory : WorkingDirectory) (path : String) : Except SystemError Position :=
  if path.toList.contains '\x00' then .error .zeroInText
  else if path = "" then .error .noEntry
  else if pathLimit < path.utf8ByteSize then .error .nameTooLong
  else
    (path.splitOn "/").foldlM directory.step (if path.toList.head? = some '/' then .root else .here)

/-- The text of the file at a path. -/
def read (directory : WorkingDirectory) (path : String) : Except SystemError String :=
  match directory.follow path with
  | .ok (.file text) => .ok text
  | .ok _ => .error .isDirectory
  | .error cause => .error cause

end WorkingDirectory

end StorageTrace
