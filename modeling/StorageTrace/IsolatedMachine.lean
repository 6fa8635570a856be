import StorageTrace.HostAddress
import StorageTrace.SystemError

/-! # A machine on its own

Whether an address can be listened on is for the machine to say: programs ask it and are not built on
any answer. This is the answer of a machine that looks hosts up without asking any other machine and has
no interface with an address. Addresses of four octets are free to be listened on there, of those of
eight groups only the ones that mean every interface or stand for four octets.
-/

namespace StorageTrace

/-- Why an address cannot be listened on. -/
inductive ListenError where
  | noPort
  | badPort
  | badName
  | unansweredName
  | system (cause : SystemError)
  deriving DecidableEq, Repr, Inhabited

namespace ListenError

/-- The text about a name without an address. -/
def nameText (reason : String) : String := "failed to lookup address information: " ++ reason

def message : ListenError → String
  | .noPort => "invalid socket address"
  | .badPort => "invalid port value"
  | .badName => nameText "Name or service not known"
  | .unansweredName => nameText "Temporary failure in name resolution"
  | .system cause => cause.message

end ListenError

namespace HostName

/-- Characters of names. -/
def isNameChar (c : Char) : Bool := c.isAlphanum || c = '-' || c = '_'

/-- Whether a part of a name between points is well formed. -/
def isLabel (label : List Char) : Bool :=
  !label.isEmpty && label.length ≤ 63 && label.all isNameChar

/-- Labels with a character put in front of the first. -/
def prepend (c : Char) : List (List Char) → List (List Char)
  | [] => [[c]]
  | label :: rest => (c :: label) :: rest

/-- What stands between the points of a name. A backslash announces the number of a character by three
digits, or any other character, which then divides nothing. -/
def fields? : List Char → Option (List (List Char))
  | [] => some [[]]
  | '.' :: rest => do return [] :: (← fields? rest)
  | ['\\'] => none
  | '\\' :: c :: rest =>
    if c.isDigit then
      match rest with
      | tens :: ones :: rest => do
        let number ← Numeral.ofDigits? 10 [c, tens, ones]
        if number < 256 then return prepend (Char.ofNat number) (← fields? rest) else none
      | _ => none
    else do return prepend c (← fields? rest)
  | c :: rest => do return prepend c (← fields? rest)

/-- The parts of a name. A point at its end starts no other part. -/
def labels? (name : List Char) : Option (List (List Char)) :=
  (fields? name).map fun fields => if fields.getLast? = some [] then fields.dropLast else fields

/-- The number of bytes that labels take up, each behind a byte for its length. -/
def encodedLength (labels : List (List Char)) : Nat :=
  labels.foldl (fun total label => total + label.length + 1) 0

/-- Whether a text can be the name of a host. -/
def isWellFormed (name : List Char) : Bool :=
  name = ['.'] || (labels? name).any fun labels =>
    labels.all isLabel && (labels.headD []).head? ≠ some '-' && encodedLength labels ≤ 254

/-- Whether a name is that of the machine itself, in either case. -/
def isLocal (name : List Char) : Bool := String.ofList (name.map Char.toLower) = "localhost"

end HostName

namespace IsolatedMachine

/-- The host and the port of an address, behind the last colon. -/
def split? (address : String) : Option (List Char × List Char) :=
  let chars := address.toList
  let port := (chars.reverse.takeWhile (· ≠ ':')).reverse
  if chars.contains ':' then some (chars.take (chars.length - port.length - 1), port) else none

/-- A port fits two bytes. A plus sign may stand first. -/
def port? (digits : List Char) : Option Nat := do
  let value ← Numeral.ofDigits? 10 (Numeral.withoutSign '+' digits)
  if value < UInt16.size then some value else none

/-- The loopback address of four octets. -/
def loopback : HostAddress := .four 0x7F000001

/-- The address of a host that is written as such or known by name. -/
def lookUp (host : List Char) : Except ListenError HostAddress :=
  if host.contains '\x00' then .error (.system .zeroInText)
  else
    match HostAddress.ofChars? host with
    | some address => .ok address
    | none =>
      if HostName.isLocal host then .ok loopback
      else if HostName.isWellFormed host then .error .unansweredName
      else .error .badName

/-- Whether an address can be listened on. One that is of use on the link alone needs an interface. -/
def claim : HostAddress → Except SystemError Unit
  | .four _ => .ok ()
  | .six groups scope =>
    if groups.all (· = 0) || HostAddress.isMapped groups then .ok ()
    else if HostAddress.isMulticast groups then .error .invalidArgument
    else if !HostAddress.isLinkLocal groups || scope = 1 then .error .addressNotAvailable
    else if scope = 0 then .error .invalidArgument
    else .error .noDevice

/-- The host of an address. Brackets are known only in front of a port without a sign. -/
def host (written port : List Char) : Except ListenError HostAddress :=
  match HostAddress.ofBracketed? written with
  | some address => if Numeral.startsSigned port then lookUp written else .ok address
  | none => lookUp written

/-- Whether an address can be listened on, or why not. -/
def check (address : String) : Except ListenError Unit :=
  match split? address with
  | none => .error .noPort
  | some (written, port) =>
    match port? port with
    | none => .error .badPort
    | some _ => do (claim (← host written port)).mapError .system

/-- Listens on an address, or says why not. -/
def listen (address : String) : Except String Unit := (check address).mapError ListenError.message

end IsolatedMachine

end StorageTrace
