/-! Reading files by path. A `FileTree` is a working directory held in memory; paths are
resolved in it step by step, so that a path may lead through directories and back. Nothing is
known of what lies outside. -/
namespace TokenScan

inductive ReadFault where
  | notFound
  | notDirectory
  | isDirectory
  | nameTooLong
  | notText
  | other (message : String)
  deriving DecidableEq, Repr

def ReadFault.message : ReadFault → String
  | .notFound => "No such file or directory (os error 2)"
  | .notDirectory => "Not a directory (os error 20)"
  | .isDirectory => "Is a directory (os error 21)"
  | .nameTooLong => "File name too long (os error 36)"
  | .notText => "stream did not contain valid UTF-8"
  | .other message => message

structure FileTree where
  files : List (List String × ByteArray)
  /-- Those that hold files are directories without being listed. -/
  directories : List (List String)

namespace FileTree

def parts (path : String) : List String := path.splitOn "/"

def plainParts (path : String) : List String :=
  (parts path).filter fun part => part != "" && part != "."

def ofLists (files : List (String × ByteArray)) (directories : List String) : FileTree :=
  ⟨files.map fun file => (plainParts file.1, file.2), directories.map plainParts⟩

def file? (tree : FileTree) (place : List String) : Option ByteArray := tree.files.lookup place

def isDirectory (tree : FileTree) (place : List String) : Bool :=
  place.isEmpty || tree.directories.any place.isPrefixOf ||
    tree.files.any fun file => place.isPrefixOf file.1 && place != file.1

/-- The longest name that a directory can hold, in bytes. -/
def longestName : Nat := 255

/-- The directory or file that a path leads to, from a directory of the tree; none is a directory
outside the tree. A name is looked up only in a directory, and so is a part that stays there. -/
def resolve (tree : FileTree) : List String → Option (List String) → Except ReadFault (Option (List String))
  | [], place => .ok place
  | part :: path, none =>
    if part = "" ∨ part = "." ∨ part = ".." then tree.resolve path none
    else if longestName < part.utf8ByteSize then .error .nameTooLong
    else .error .notFound
  | part :: path, some place =>
    if !tree.isDirectory place then .error .notDirectory
    else if part = "" ∨ part = "." then tree.resolve path (some place)
    else if part = ".." then tree.resolve path (if place.isEmpty then none else some place.dropLast)
    else if longestName < part.utf8ByteSize then .error .nameTooLong
    else
      let next := place ++ [part]
      if tree.isDirectory next || (tree.file? next).isSome then tree.resolve path (some next)
      else .error .notFound

/-- The contents of the file that a path leads to. An absolute path starts outside the tree. -/
def read (tree : FileTree) (path : String) : Except ReadFault ByteArray := do
  if path = "" then throw .notFound
  match ← tree.resolve (parts path) (if path.startsWith "/" then none else some []) with
  | none => throw .isDirectory
  | some place =>
    match tree.file? place with
    | some contents => return contents
    | none => throw .isDirectory

end FileTree

end TokenScan
