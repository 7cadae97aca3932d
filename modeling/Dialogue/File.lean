/-!
# Files

What the library needs to know of a file: its bytes, or why there are none.
-/

namespace Dialogue

/-- Why a file could not be read, or not as text. -/
inductive FileError
  | notFound
  | invalidText
  | other (reason : String)
  deriving DecidableEq, Repr

/-- The text of a file error. -/
def FileError.message : FileError → String
  | notFound => "file not found"
  | invalidText => "file is not valid UTF-8"
  | other reason => reason

/-- The bytes of a file, or why there are none. -/
abbrev FileContent := Except FileError (List UInt8)

end Dialogue
