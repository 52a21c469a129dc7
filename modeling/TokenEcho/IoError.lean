/-!
# Failures of reading and writing

The causes for which a file or a stream cannot be used, with the words that report them.
-/

namespace TokenEcho

inductive IoError where
  | notFound
  | notDirectory
  | isDirectory
  | permissionDenied
  | nameTooLong
  | tooManyLinks
  | zeroByteInName
  | notUtf8
  | full
  | system (words : String) (number : Nat)
deriving DecidableEq, Inhabited

namespace IoError

/-- The failure with a number of the system's, which has its own words for it. -/
def ofSystem (words : String) : Nat → IoError
  | 2 => notFound
  | 13 => permissionDenied
  | 20 => notDirectory
  | 21 => isDirectory
  | 36 => nameTooLong
  | 40 => tooManyLinks
  | number => system words number

/-- The report of a failure; the system's own failures come with their number. -/
def message : IoError → String
  | notFound => "No such file or directory (os error 2)"
  | notDirectory => "Not a directory (os error 20)"
  | isDirectory => "Is a directory (os error 21)"
  | permissionDenied => "Permission denied (os error 13)"
  | nameTooLong => "File name too long (os error 36)"
  | tooManyLinks => "Too many levels of symbolic links (os error 40)"
  | zeroByteInName => "file name contained an unexpected NUL byte"
  | notUtf8 => "stream did not contain valid UTF-8"
  | full => "failed to write whole buffer"
  | system words number => words ++ " (os error " ++ Nat.repr number ++ ")"

end IoError

end TokenEcho
