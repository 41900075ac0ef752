import ElfScope.Text.Utf8

/-!
# Files

What a path leads to: a file with its contents, a directory, or the reason why there is nothing. A
tree of directories decides it by following the path. Locations list the names from the innermost
outward, so the directory around a location is its tail.
-/

namespace ElfScope

/-- Why a file cannot be opened or read. Nothing has this name (`notFound`), a file is used as if it
were a directory (`notDirectory`) or a directory as if it were a file (`isDirectory`), it is of a
kind that cannot be mapped (`notMappable`), a name is too long (`nameTooLong`) or holds a NUL
character (`nulInName`), or the contents are not text (`notText`). -/
inductive FileFault where
  | notFound
  | notDirectory
  | isDirectory
  | notMappable
  | nameTooLong
  | nulInName
  | notText
  deriving DecidableEq, Repr

/-- What is said about a file that cannot be opened or read. -/
def FileFault.message : FileFault → String
  | .notFound => "No such file or directory (os error 2)"
  | .notDirectory => "Not a directory (os error 20)"
  | .isDirectory => "Is a directory (os error 21)"
  | .notMappable => "No such device (os error 19)"
  | .nameTooLong => "File name too long (os error 36)"
  | .nulInName => "file name contained an unexpected NUL byte"
  | .notText => "stream did not contain valid UTF-8"

/-- What a name stands for: a file with its contents, or a directory. -/
inductive Entry where
  | file (contents : Bytes)
  | directory
  deriving DecidableEq, Repr

/-- All files that a program can reach, by their paths: `entry` is what a path leads to. -/
structure Files where
  entry : String → Except FileFault Entry

/-- The contents of a file as text. -/
def Entry.text : Entry → Except FileFault String
  | .directory => .error .isDirectory
  | .file contents =>
    match Utf8.decode contents with
    | none => .error .notText
    | some text => .ok text

namespace Files

/-- The contents of the file at `path`, as text. -/
def text (files : Files) (path : String) : Except FileFault String := do
  (← files.entry path).text

end Files

/-! ## Trees -/

/-- A place in a tree: the names that lead to it, the innermost first. -/
abbrev Location := List String

/-- What a tree holds, by location. The outermost location is always a directory, and `inner` says
what the others hold. -/
structure FileTree where
  inner : Location → Option Entry

namespace FileTree

/-- What a location holds. -/
def entry? (tree : FileTree) : Location → Option Entry
  | [] => some .directory
  | location => tree.inner location

/-- The parts of a path between slashes. -/
def parts (path : String) : List String :=
  path.splitToList (· == '/')

/-- The longest name a directory can hold, in bytes. -/
def longestName : Nat := 255

/-- The longest path that can be followed, in bytes. -/
def longestPath : Nat := 4095

/-- The location one name away: an empty name and `.` stay, and `..` goes outward. -/
def step (here : Location) (name : String) : Location :=
  if name = "" ∨ name = "." then here
  else if name = ".." then here.tail
  else name :: here

/-- Follows names from a location. Whatever is left behind has to be a directory. -/
def walk (tree : FileTree) (here : Location) : List String → Except FileFault Location
  | [] => .ok here
  | name :: rest =>
    match tree.entry? here with
    | none => .error .notFound
    | some (.file _) => .error .notDirectory
    | some .directory =>
      if name.utf8ByteSize > longestName then .error .nameTooLong
      else walk tree (step here name) rest

/-- What a path leads to from a directory. -/
def find (tree : FileTree) (directory : Location) (path : String) : Except FileFault Entry := do
  if path.toList.contains '\x00' then throw .nulInName
  if path = "" then throw .notFound
  if path.utf8ByteSize > longestPath then throw .nameTooLong
  let location ← match parts path with
    | "" :: inner => walk tree [] inner
    | names => walk tree directory names
  match tree.entry? location with
  | none => throw .notFound
  | some entry => return entry

/-- The files that are reached from a directory. -/
def files (tree : FileTree) (directory : Location) : Files :=
  ⟨tree.find directory⟩

/-- The location that a path names from a directory, where all that it passes are directories. -/
def below (directory : Location) (path : String) : Location :=
  (parts path).foldl step directory

/-- What a list of locations holds: the directories around them are there, too. -/
def lookup (entries : List (Location × Entry)) (location : Location) : Option Entry :=
  match entries.lookup location with
  | some entry => some entry
  | none =>
    if entries.any fun (inner, _) => location.isSuffixOf inner then some .directory else none

/-- The tree that holds the given entries. -/
def ofList (entries : List (Location × Entry)) : FileTree :=
  ⟨lookup entries⟩

end FileTree

end ElfScope
