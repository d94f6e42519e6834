/-!
# Faults of files

Why an operation on a file fails, with the message of the operating system.
-/

namespace CaseRouting.Files

inductive FileError where
  | absent
  | exists
  | busy
  | notDirectory
  | isDirectory
  | nameTooLong
  | nullInName
  | illFormedText
  | other (message : String)
  deriving DecidableEq

/-- A message with the number of the condition. -/
def numbered (text : String) (n : Nat) : String :=
  text ++ " (os error " ++ toString n ++ ")"

def FileError.message : FileError → String
  | .absent => numbered "No such file or directory" 2
  | .exists => numbered "File exists" 17
  | .busy => numbered "Device or resource busy" 16
  | .notDirectory => numbered "Not a directory" 20
  | .isDirectory => numbered "Is a directory" 21
  | .nameTooLong => numbered "File name too long" 36
  | .nullInName => "file name contained an unexpected NUL byte"
  | .illFormedText => "stream did not contain valid UTF-8"
  | .other message => message

end CaseRouting.Files
