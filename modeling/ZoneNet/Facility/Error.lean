import ZoneNet.Text.Utf8

/-!
# Failures of facilities

What the operating system says when it refuses something, and what a facility reports.
-/

namespace ZoneNet

/-- A refusal by the operating system, or data it handed over that cannot be read. -/
inductive SystemError where
  | notFound
  | permissionDenied
  | alreadyExists
  | notDirectory
  | isDirectory
  /-- An argument of a program is longer than any program can be given. -/
  | argumentTooLong
  /-- A program's file is being written to. -/
  | textBusy
  | nameTooLong
  | connectionRefused
  /-- An argument of a program holds a NUL, which no program can be given. -/
  | nulByte
  /-- A file that should be text is not. -/
  | notText
  /-- A line that should be text is not. -/
  | badText (fault : Text.Utf8.Fault)
  | other (text : String)
  deriving DecidableEq, Repr

namespace SystemError

def message : SystemError → String
  | notFound => "No such file or directory (os error 2)"
  | permissionDenied => "Permission denied (os error 13)"
  | alreadyExists => "File exists (os error 17)"
  | notDirectory => "Not a directory (os error 20)"
  | isDirectory => "Is a directory (os error 21)"
  | argumentTooLong => "Argument list too long (os error 7)"
  | textBusy => "Text file busy (os error 26)"
  | nameTooLong => "File name too long (os error 36)"
  | connectionRefused => "Connection refused (os error 111)"
  | nulByte => "nul byte found in provided data"
  | notText => "stream did not contain valid UTF-8"
  | badText fault => fault.message
  | other text => text

end SystemError

/-- How the boot reacts to a failure. -/
inductive Severity where
  | fatal
  | warning
  deriving DecidableEq, Repr

/-- A failure reported by an external facility. -/
inductive FacilityError where
  /-- The facility refused the request. -/
  | rejected (operation detail : String)
  /-- No answer came within the allotted time. -/
  | timeout (operation : String) (seconds : UInt64)
  /-- The facility could not be reached or started. -/
  | io (operation : String) (cause : SystemError)
  /-- The bound on the request lies beyond the last second that can be told. -/
  | unboundable (operation : String)
  deriving DecidableEq, Repr

namespace FacilityError

def message : FacilityError → String
  | rejected operation detail => operation ++ " failed: " ++ detail
  | timeout operation seconds =>
    operation ++ " timed out after " ++ toString seconds.toNat ++ "s"
  | io operation cause => operation ++ ": " ++ cause.message
  | unboundable operation => operation ++ ": time bound out of range"

/-- The messages of what stands behind a failure, nearest first. -/
def causes : FacilityError → List String
  | io _ cause => [cause.message]
  | _ => []

def isTimeout : FacilityError → Bool
  | timeout .. => true
  | _ => false

end FacilityError

end ZoneNet
