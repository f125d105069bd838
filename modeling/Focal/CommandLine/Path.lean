import Focal.Text.Lines

/-!
# Paths

A path is a text whose components are parted by slashes.  Of the components, the empty ones and a
single point mean the place itself, and two points mean the place above it.
-/

namespace Focal.Path

/-- The pieces of a text between the slashes, of which there is one more than slashes. -/
def pieces : List Char → List (List Char)
  | [] => [[]]
  | character :: rest =>
      if character = '/' then [] :: pieces rest
      else Text.extendFirst character (pieces rest)

/-- The components of a path, the empty ones included. -/
def components (path : String) : List String :=
  (pieces path.toList).map String.ofList

/-- Whether a component means the place itself. -/
def isHere (component : String) : Bool :=
  component == "" || component == "."

/-- The last component of a path, if it names a file. -/
def fileName? (path : String) : Option String :=
  match ((components path).filter fun component => !isHere component).getLast? with
  | some name => if name = ".." then none else some name
  | none => none

/-- What follows the last point of a file name, unless that point is its first character. -/
def extension? (name : String) : Option String :=
  let after := (name.toList.reverse.takeWhile (· != '.')).reverse
  let stem := name.toList.take (name.toList.length - after.length - 1)
  if after.length < name.toList.length && !stem.isEmpty then some (String.ofList after) else none

/-- Whether a path has the extension of scripts, in any case. -/
def isScript (path : String) : Bool :=
  match (fileName? path).bind extension? with
  | some extension => extension.toList.map Char.toLower == "manta".toList
  | none => false

end Focal.Path
