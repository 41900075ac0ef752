import ElfScope.Files
import ElfScope.Toml.Document

/-!
# The workspace

The root of a workspace is the nearest directory, from the working directory outward, whose
manifest holds the text `[workspace]`. Its manifest says which packages the workspace covers.
-/

namespace ElfScope

/-- Why there is no workspace to work on: a manifest on the way to the root cannot be read
(`unreadable`), no directory is the root of a workspace (`noRoot`), or the manifest of the root is
`malformed`. -/
inductive WorkspaceError where
  | unreadable (fault : FileFault)
  | noRoot
  | malformed
  deriving DecidableEq, Repr

/-- What is said where there is no workspace to work on. -/
def WorkspaceError.message : WorkspaceError → String
  | .unreadable fault => fault.message
  | .noRoot => "Could not find workspace root (no Cargo.toml with [workspace] found)"
  | .malformed => "Failed to parse Cargo.toml"

/-- A workspace: its root directory, and the packages it covers, unless others are asked for. -/
structure Workspace where
  root : Location
  packages : List String
  deriving DecidableEq, Repr

namespace Workspace

/-- The name of a manifest. -/
def manifestName : String := "Cargo.toml"

/-- The text by which a manifest is taken for that of a workspace. -/
def marker : String := "[workspace]"

/-- Whether a text occurs in another. -/
def occurs (part : List Char) : List Char → Bool
  | [] => part.isEmpty
  | char :: rest => part.isPrefixOf (char :: rest) || occurs part rest

/-- Whether a manifest is taken for that of a workspace. -/
def isMarked (text : String) : Bool :=
  occurs marker.toList text.toList

/-- The text of the manifest in a directory, if there is a manifest. -/
def manifest? (tree : FileTree) (directory : Location) : Option (Except FileFault String) :=
  (tree.entry? (manifestName :: directory)).map Entry.text

/-- The nearest root from a directory outward, and the text of its manifest. -/
def findRoot (tree : FileTree) : Location → Except WorkspaceError (Location × String)
  | [] =>
    match manifest? tree [] with
    | none => .error .noRoot
    | some (.error fault) => .error (.unreadable fault)
    | some (.ok text) => if isMarked text then .ok ([], text) else .error .noRoot
  | name :: outer =>
    match manifest? tree (name :: outer) with
    | none => findRoot tree outer
    | some (.error fault) => .error (.unreadable fault)
    | some (.ok text) =>
      if isMarked text then .ok (name :: outer, text) else findRoot tree outer

/-- The packages that are covered where the manifest names none. -/
def defaultPackages : List String := ["elfview-elf", "elfview"]

/-- A field that may be missing, read as a record. A record that is written as a list holds all
its fields. -/
def optionalRecord? (fields : Toml.Fields) (name : String) : Option (Option Toml.Fields) :=
  match fields, fields.get? name 0 with
  | .named _, none => some none
  | .positional _, none => none
  | _, some value => do return some (← value.fields?)

/-- The packages that the table of a manifest names. The table has to hold a workspace. -/
def packagesOf? (entries : Toml.Entries) : Option (List String) := do
  let workspace ← (← entries.get? "workspace").fields?
  match ← optionalRecord? workspace "metadata" with
  | none => return defaultPackages
  | some metadata =>
    match ← optionalRecord? metadata "elfview" with
    | none => return defaultPackages
    | some own => (← own.get? "packages" 0).texts?

/-- The packages that a manifest names. -/
def parsePackages? (text : String) : Option (List String) := do
  packagesOf? (← Toml.parse text)

/-- The workspace around a directory. -/
def load (tree : FileTree) (directory : Location) : Except WorkspaceError Workspace :=
  match findRoot tree directory with
  | .error error => .error error
  | .ok (root, text) =>
    match parsePackages? text with
    | none => .error .malformed
    | some packages => .ok ⟨root, packages⟩

/-- The packages to work on: the one asked for, else all that the workspace covers. -/
def select (workspace : Workspace) (package : Option String) : List String :=
  match package with
  | some name => [name]
  | none => workspace.packages

end Workspace

end ElfScope
