/-! # Errors of the file system -/

namespace Scriptlet

/-- Why a file could not be read or written. -/
inductive FileError where
  | notFound
  | alreadyExists
  | notADirectory
  | isADirectory
  /-- The file does not hold UTF-8 text. -/
  | notText
  deriving DecidableEq, Repr

namespace FileError

/-- The error in words. -/
def message : FileError → String
  | notFound => "No such file or directory (os error 2)"
  | alreadyExists => "File exists (os error 17)"
  | notADirectory => "Not a directory (os error 20)"
  | isADirectory => "Is a directory (os error 21)"
  | notText => "stream did not contain valid UTF-8"

end FileError

end Scriptlet
