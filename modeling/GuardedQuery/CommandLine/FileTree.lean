import GuardedQuery.Catalog.Error
import GuardedQuery.Text.Split

/-! # Trees of files

A command line reads the files that it names. What it reads is a function from paths to texts, and
a tree of files gives such a function: it says what is at the end of a path. -/

namespace GuardedQuery.CommandLine

/-- A place in a tree: the names that lead to it from the root. -/
abbrev Place := List String

/-- The directories of a tree and its files with their texts. Every place on the way to one of them
is a directory as well. -/
structure FileTree where
  directories : List Place
  files : List (Place × String)
  deriving DecidableEq

namespace FileTree

/-- The greatest number of bytes in a name. -/
def longestName : Nat := 255

/-- The greatest number of bytes in a path. -/
def longestPath : Nat := 4095

/-- The text of the file at a place. -/
def text? (t : FileTree) (place : Place) : Option String :=
  t.files.lookup place

def isDirectory (t : FileTree) (place : Place) : Bool :=
  place.isEmpty || t.directories.any (fun directory => place.isPrefixOf directory) ||
    t.files.any fun (file, _) => place != file && place.isPrefixOf file

/-- The place that a name leads to from another place. The root is above itself. -/
def enter (t : FileTree) (place : Place) (name : String) : Except ReadFailure Place :=
  if !t.isDirectory place then .error .notDirectory
  else if name = "" || name = "." then .ok place
  else if name = ".." then .ok place.dropLast
  else if longestName < name.utf8ByteSize then .error .nameTooLong
  else
    let next := place ++ [name]
    if t.isDirectory next || (t.text? next).isSome then .ok next else .error .missing

/-- The place at the end of a path, which starts from `here` unless it starts with a slash. -/
def follow (t : FileTree) (here : Place) (path : String) : Except ReadFailure Place :=
  if path = "" then .error .missing
  else if longestPath < path.utf8ByteSize then .error .nameTooLong
  else (Text.split '/' path).foldlM t.enter (if path.startsWith "/" then [] else here)

/-- The text at the end of a path. -/
def read (t : FileTree) (here : Place) (path : String) : Except ReadFailure String := do
  match t.text? (← t.follow here path) with
  | some text => .ok text
  | none => .error .directory

end FileTree

end GuardedQuery.CommandLine
