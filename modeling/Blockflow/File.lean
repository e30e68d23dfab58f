/-!
# Files

What can go wrong with files, in the words and with the numbers of the operating system.
-/

namespace Blockflow

/-- Why a file cannot be read or written. -/
inductive FileError where
  /-- There is no such file, or no directory for it. -/
  | missing
  /-- Something in its path is no directory. -/
  | notDirectory
  /-- It is a directory. -/
  | isDirectory
  /-- It may not be touched. -/
  | denied
  /-- It is no text. -/
  | notText
  /-- Something else, in the words of the system. -/
  | other (message : String)
deriving DecidableEq, Inhabited

namespace FileError

/-- The error in words. -/
def message : FileError → String
  | .missing => "No such file or directory (os error 2)"
  | .notDirectory => "Not a directory (os error 20)"
  | .isDirectory => "Is a directory (os error 21)"
  | .denied => "Permission denied (os error 13)"
  | .notText => "stream did not contain valid UTF-8"
  | .other m => m

end FileError

end Blockflow
