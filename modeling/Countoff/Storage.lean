/-!
# Storage problems

Why a file or a directory could not be read, written or made. The first five are the answers of
the operating system, with its number for each.
-/

namespace Countoff

/-- Why the file system, or a reader of its bytes, refused. -/
inductive StorageProblem where
  | missing
  | alreadyExists
  | notDirectory
  | isDirectory
  | nameTooLong
  /-- A path with a NUL never reaches the operating system. -/
  | nulInPath
  | notText
  | other (text : String)
  deriving DecidableEq

namespace StorageProblem

def text : StorageProblem → String
  | .missing => "No such file or directory (os error 2)"
  | .alreadyExists => "File exists (os error 17)"
  | .notDirectory => "Not a directory (os error 20)"
  | .isDirectory => "Is a directory (os error 21)"
  | .nameTooLong => "File name too long (os error 36)"
  | .nulInPath => "file name contained an unexpected NUL byte"
  | .notText => "stream did not contain valid UTF-8"
  | .other text => text

end StorageProblem

end Countoff
