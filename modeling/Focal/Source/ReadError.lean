/-!
# Source files that cannot be read

A file may be missing, locked away or not text.  Any other reason is kept in the words and by the
number of the operating system.
-/

namespace Focal

/-- Why a source file could not be read. -/
inductive ReadError where
  /-- There is no such file. -/
  | notFound
  /-- The file may not be read. -/
  | permissionDenied
  /-- The file is not text in UTF-8. -/
  | invalidText
  /-- Anything else, in the words of the system. -/
  | other (text : String)
deriving Repr, DecidableEq

namespace ReadError

/-- A reason in the words and by the number of the operating system. -/
def system (words : String) (number : Nat) : ReadError :=
  .other (words ++ " (os error " ++ toString number ++ ")")

/-- A component of the path that has others after it is not a directory. -/
def notDirectory : ReadError :=
  system "Not a directory" 20

/-- The path leads to a directory. -/
def isDirectory : ReadError :=
  system "Is a directory" 21

/-- The path, or a component of it, is longer than the system allows. -/
def nameTooLong : ReadError :=
  system "File name too long" 36

end ReadError

end Focal
