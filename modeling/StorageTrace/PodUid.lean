/-! # Pod directories

A pod's cgroup directory carries the pod's uid in its name: as `pod<uid>`, or as a slice
`<anything>-pod<uid>.slice` in which the dashes of the uid are written as underscores.
-/

namespace StorageTrace

namespace PodUid

/-- What follows the last occurrence of a marker. -/
def afterLast? (marker : List Char) : List Char → Option (List Char)
  | [] => none
  | first :: rest =>
    match afterLast? marker rest with
    | some tail => some tail
    | none =>
      if marker.isPrefixOf (first :: rest) then some ((first :: rest).drop marker.length) else none

/-- A list without an ending that it is known by. -/
def withoutEnding? (ending name : List Char) : Option (List Char) :=
  if ending.isSuffixOf name then some (name.take (name.length - ending.length)) else none

/-- A list without a beginning that it is known by. -/
def withoutBeginning? (beginning name : List Char) : Option (List Char) :=
  if beginning.isPrefixOf name then some (name.drop beginning.length) else none

def sliceEnding : List Char := ".slice".toList

def sliceMarker : List Char := "-pod".toList

def plainBeginning : List Char := "pod".toList

/-- ASCII digits, the letters a to f in either case, and the dash. -/
def isUidChar (c : Char) : Bool :=
  c.isDigit || ('a' ≤ c && c ≤ 'f') || ('A' ≤ c && c ≤ 'F') || c = '-'

/-- Undoes the spelling of dashes in slices. -/
def unescape (uid : List Char) : List Char := uid.map fun c => if c = '_' then '-' else c

/-- The uid in the characters of a directory's name. A slice is taken at its word; the plain form
must spell a uid. -/
def ofChars? (name : List Char) : Option (List Char) :=
  match withoutEnding? sliceEnding name with
  | some stem =>
    match afterLast? sliceMarker stem with
    | some uid => if uid.isEmpty then none else some (unescape uid)
    | none => none
  | none =>
    match withoutBeginning? plainBeginning name with
    | some uid => if !uid.isEmpty && uid.all isUidChar then some uid else none
    | none => none

/-- The uid in a directory's name. -/
def ofName? (name : String) : Option String := (ofChars? name.toList).map String.ofList

end PodUid

end StorageTrace
