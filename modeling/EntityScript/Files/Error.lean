/-!
# File errors

Why a file cannot be read or written.
-/

namespace EntityScript

/-- Why a file cannot be read or written. -/
inductive FileError where
  | notFound
  /-- The content is not text in UTF-8. -/
  | invalidData
  | isADirectory
  | notADirectory
  /-- The path holds a character that no path can hold. -/
  | invalidInput
  /-- A part of the path is longer than a name may be. -/
  | invalidFilename
  /-- Any other reason of the system. -/
  | other
deriving DecidableEq, Repr

namespace FileError

/-- The name of a file error. -/
def name : FileError → String
  | notFound => "NotFound"
  | invalidData => "InvalidData"
  | isADirectory => "IsADirectory"
  | notADirectory => "NotADirectory"
  | invalidInput => "InvalidInput"
  | invalidFilename => "InvalidFilename"
  | other => "Other"

end FileError

/-- The text that bytes are in UTF-8. -/
def textOfBytes (bytes : ByteArray) : Except FileError String :=
  match String.fromUTF8? bytes with
  | some s => .ok s
  | none => .error .invalidData

end EntityScript
