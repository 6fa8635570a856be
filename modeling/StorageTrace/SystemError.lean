/-! # Failures of the system

Why the system does not do what it is asked for: to open a path, to listen on an address, or to reach
another program.
-/

namespace StorageTrace

/-- Why a call to the system fails. -/
inductive SystemError where
  | noEntry
  | notDirectory
  | isDirectory
  | nameTooLong
  | noDevice
  | invalidArgument
  | notSupported
  | addressNotAvailable
  | networkUnreachable
  /-- The call is not made at all: a zero would end the text that it hands over. -/
  | zeroInText
  deriving DecidableEq, Repr, Inhabited

namespace SystemError

/-- The number of a failure, if it is the system that reports it. -/
def code? : SystemError → Option Nat
  | .noEntry => some 2
  | .noDevice => some 19
  | .notDirectory => some 20
  | .isDirectory => some 21
  | .invalidArgument => some 22
  | .nameTooLong => some 36
  | .notSupported => some 95
  | .addressNotAvailable => some 99
  | .networkUnreachable => some 101
  | .zeroInText => none

def description : SystemError → String
  | .noEntry => "No such file or directory"
  | .noDevice => "No such device"
  | .notDirectory => "Not a directory"
  | .isDirectory => "Is a directory"
  | .invalidArgument => "Invalid argument"
  | .nameTooLong => "File name too long"
  | .notSupported => "Operation not supported"
  | .addressNotAvailable => "Cannot assign requested address"
  | .networkUnreachable => "Network is unreachable"
  | .zeroInText => "file name contained an unexpected NUL byte"

/-- The description, with the number behind it if there is one. -/
def message (error : SystemError) : String :=
  match error.code? with
  | some code => error.description ++ " (os error " ++ toString code ++ ")"
  | none => error.description

end SystemError

end StorageTrace
