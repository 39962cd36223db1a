import Blockbook.Text.Basic

/-!
# Files

What can go wrong when a file is read as text, and the record of a template file.
-/

namespace Blockbook

/-- Why a file could not be read as text. -/
inductive ReadError where
  | notFound
  | isDirectory
  | notDirectory
  | nameTooLong
  | nulInPath
  | invalidUtf8
  /-- Any other reason, in the system's words. -/
  | other (reason : Text)
deriving DecidableEq, Repr

/-- The system's words for a failure. -/
def ReadError.message : ReadError → Text
  | .notFound => "No such file or directory (os error 2)"
  | .isDirectory => "Is a directory (os error 21)"
  | .notDirectory => "Not a directory (os error 20)"
  | .nameTooLong => "File name too long (os error 36)"
  | .nulInPath => "file name contained an unexpected NUL byte"
  | .invalidUtf8 => "stream did not contain valid UTF-8"
  | .other reason => reason

/-- A template and where it was read. -/
structure TemplateFile where
  path : Text
  content : Text
deriving DecidableEq, Repr

end Blockbook
