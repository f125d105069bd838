import Focal.CommandLine.Path
import Focal.Source.ReadError

/-!
# Files in memory

A tree of files under one directory, in which relative paths are resolved as an operating system
would do it.  It lets the command line run without a disk.
-/

namespace Focal

/-- Files by the names of the directories they are in and their own. -/
structure FileTree where
  files : List (List String × ByteArray)

namespace FileTree

/-- What stands at a place of the tree. -/
inductive Node where
  | file (content : ByteArray)
  | directory

/-- The most bytes that the name of a file can have. -/
def longestName : Nat := 255

/-- The most bytes that a path can have. -/
def longestPath : Nat := 4095

/-- What stands at a place. -/
def node? (tree : FileTree) (place : List String) : Option Node :=
  match tree.files.find? (·.1 = place) with
  | some (_, content) => some (.file content)
  | none =>
      if place.isEmpty || tree.files.any (fun entry => place.isPrefixOf entry.1) then
        some .directory
      else none

/-- Walk along the components of a path from above the tree, where no names are known. -/
def walkAbove : List String → Except ReadError Node
  | [] => .ok .directory
  | component :: rest =>
      if Path.isHere component || component == ".." then walkAbove rest
      else if longestName < component.utf8ByteSize then .error .nameTooLong
      else .error .notFound

/-- Walk from a place along the components of a path. -/
def walk (tree : FileTree) (place : List String) : List String → Except ReadError Node
  | [] =>
      match tree.node? place with
      | some node => .ok node
      | none => .error .notFound
  | component :: rest =>
      match tree.node? place with
      | none => .error .notFound
      | some (.file _) => .error .notDirectory
      | some .directory =>
          if Path.isHere component then tree.walk place rest
          else if component = ".." then
            if place.isEmpty then walkAbove rest else tree.walk place.dropLast rest
          else if longestName < component.utf8ByteSize then
            .error .nameTooLong
          else tree.walk (place ++ [component]) rest

/-- What stands at the end of a path. -/
def resolve (tree : FileTree) (path : String) : Except ReadError Node :=
  if longestPath < path.utf8ByteSize then .error .nameTooLong
  else
    match Path.components path with
    | "" :: [] => .error .notFound
    | "" :: rest => walkAbove rest
    | components => tree.walk [] components

/-- The text of a file. -/
def read (tree : FileTree) (path : String) : Except ReadError String :=
  match tree.resolve path with
  | .ok (.file content) =>
      match String.fromUTF8? content with
      | some text => .ok text
      | none => .error .invalidText
  | .ok .directory => .error .isDirectory
  | .error error => .error error

end FileTree

end Focal
