/-
# File errors

Why an operation on a file fails, with the wording that people see.
-/

namespace FileChat

/-- Why an operation on a file fails. -/
inductive FileError
  | notFound
  | permissionDenied
  | exists
  | notADirectory
  | isADirectory
  | nameTooLong
  | tooManyLinks
  /-- A path with a NUL character names no file. -/
  | nulInPath
  /-- A program to start, or one of its arguments, has a NUL character. -/
  | nulInArgument
  | argumentTooLong
  /-- A file read as text is not valid UTF-8. -/
  | notText
  /-- Anything else, in the words of the system. -/
  | other (text : String)
  deriving Repr, DecidableEq, Inhabited

namespace FileError

/-- The wording of a failure. -/
def message : FileError → String
  | .notFound => "No such file or directory (os error 2)"
  | .permissionDenied => "Permission denied (os error 13)"
  | .exists => "File exists (os error 17)"
  | .notADirectory => "Not a directory (os error 20)"
  | .isADirectory => "Is a directory (os error 21)"
  | .nameTooLong => "File name too long (os error 36)"
  | .tooManyLinks => "Too many levels of symbolic links (os error 40)"
  | .nulInPath => "file name contained an unexpected NUL byte"
  | .nulInArgument => "nul byte found in provided data"
  | .argumentTooLong => "Argument list too long (os error 7)"
  | .notText => "stream did not contain valid UTF-8"
  | .other text => text

end FileError

end FileChat
