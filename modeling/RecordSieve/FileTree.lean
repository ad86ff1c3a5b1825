/-
RecordSieve.FileTree — text files below a directory, held in memory.

A path is relative to that directory.  It is walked name by name, and
every name but the last must be a directory, also where a name only
stands for the same or the enclosing directory.  A path that leaves the
tree leads nowhere.
-/
import RecordSieve.Text.Segment

namespace RecordSieve

/-- Text files below a directory: the names that lead to each, and its text. -/
structure FileTree where
  files : List (List String × String) := []

namespace FileTree

/-- The names between the slashes of a path, empty ones included. -/
def names (path : String) : List String :=
  (Text.splitWhere (· == '/') path.toList).map String.ofList

/-- The tree of files given by their paths. -/
def ofPaths (files : List (String × String)) : FileTree :=
  ⟨files.map fun (path, text) => (names path, text)⟩

/-- Whether some names lead to a directory: the root, or one that holds
a file. -/
def isDirectory (tree : FileTree) (place : List String) : Bool :=
  place.isEmpty || tree.files.any fun (names, _) =>
    place.isPrefixOf names && place.length < names.length

/-- The place that a path leads to from a directory. -/
def walk (tree : FileTree) (place : List String) : List String → Option (List String)
  | [] => some place
  | name :: rest =>
    if !tree.isDirectory place then none
    else if name == "" || name == "." then tree.walk place rest
    else if name == ".." then
      if place.isEmpty then none else tree.walk place.dropLast rest
    else tree.walk (place ++ [name]) rest

/-- The text of the file at a path. -/
def file? (tree : FileTree) (path : String) : Option String :=
  match names path with
  | "" :: _ :: _ => none
  | names => (tree.walk [] names).bind fun place => tree.files.lookup place

end FileTree

end RecordSieve
