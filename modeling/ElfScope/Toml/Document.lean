import ElfScope.Toml.Entries
import ElfScope.Toml.Scalar

/-!
# TOML documents

`parse` reads a document into its table, or refuses it. The document is read into statements
first, which are the keys with their values and the headers; then each header's table is filled
with the keys below it.
-/

namespace ElfScope.Toml

open Entries (Pair)

/-- The rest of a list of values. -/
def arrayTail (item : Reader Value) : List Char → Reader (List Value)
  | [], _ => none
  | _ :: bound, input =>
    match skipBlank false input with
    | ']' :: rest => some ([], rest)
    | input => do
      let (value, rest) ← item input
      match skipBlank false rest with
      | ']' :: rest => return ([value], rest)
      | ',' :: rest =>
        let (values, rest) ← arrayTail item bound rest
        return (value :: values, rest)
      | _ => failure

/-- A key, an equals sign, and a value. -/
def pair (item : Reader Value) : Reader Pair := fun input => do
  let ((path, key), rest) ← key input
  match rest with
  | '=' :: rest =>
    let (value, rest) ← item (skipSpace rest)
    return (⟨path, key, value⟩, rest)
  | _ => failure

/-- The pairs of a table between braces, of which there is one at least. -/
def inlinePairs (item : Reader Value) : List Char → Reader (List Pair)
  | [], _ => none
  | _ :: bound, input => do
    let (first, rest) ← pair item input
    match skipSpace rest with
    | '\x7d' :: rest => return ([first], rest)
    | ',' :: rest =>
      let (pairs, rest) ← inlinePairs item bound rest
      return (first :: pairs, rest)
    | _ => failure

/-- The rest of a table between braces. -/
def inlineTail (item : Reader Value) : Reader Value := fun input =>
  match skipSpace input with
  | '\x7d' :: rest => some (.table .inline ∅, rest)
  | input => do
    let (pairs, rest) ← inlinePairs item input input
    return (.table .inline (← Entries.addAll pairs ∅), rest)

/-- A value whose lists and tables are nested less than `depth` deep. -/
def value : Nat → Reader Value
  | _, '"' :: rest => (string ('"' :: rest)).map fun (content, rest) => (.text content, rest)
  | _, '\x27' :: rest =>
    (string ('\x27' :: rest)).map fun (content, rest) => (.text content, rest)
  | 0, '[' :: _ => none
  | 0, '\x7b' :: _ => none
  | depth + 1, '[' :: rest =>
    (arrayTail (value depth) ('[' :: rest) rest).map fun (items, rest) => (.array items, rest)
  | depth + 1, '\x7b' :: rest => inlineTail (value depth) rest
  | _, input => Scalar.read input

/-- A statement of a document: a key and its value (`pair`), the header of a `table`, or the header
of one more table in a list (`element`). -/
inductive Statement where
  | pair (pair : Pair)
  | table (path : List String) (key : String)
  | element (path : List String) (key : String)

/-- A header. -/
def header : Reader Statement
  | '[' :: '[' :: rest => do
    let ((path, key), rest) ← key rest
    match rest with
    | ']' :: ']' :: rest => return (.element path key, rest)
    | _ => failure
  | '[' :: rest => do
    let ((path, key), rest) ← key rest
    match rest with
    | ']' :: rest => return (.table path key, rest)
    | _ => failure
  | _ => none

/-- A statement, without the end of its line. -/
def statement (input : List Char) : Option (Statement × List Char) :=
  match input with
  | '[' :: _ => header input
  | _ => (pair (value (depthLimit - 1)) input).map fun (pair, rest) => (.pair pair, rest)

/-- All statements, one a line at most. -/
def statements : Nat → List Char → Option (List Statement)
  | 0, _ => none
  | fuel + 1, input =>
    match skipSpace input with
    | [] => some []
    | input =>
      match lineEnd? input with
      | some rest => statements fuel rest
      | none => do
        let (first, rest) ← statement input
        let rest ← lineEnd? rest
        return first :: (← statements fuel rest)

/-- A header with the pairs below it: whether it adds to a list of tables (`isElement`), its outer
keys and its last key, and the pairs. -/
structure Section where
  isElement : Bool
  path : List String
  key : String
  pairs : List Pair

/-- The pairs in front of the first header, and the sections. -/
def sections : List Statement → List Pair × List Section
  | [] => ([], [])
  | .pair pair :: rest =>
    let (pairs, later) := sections rest
    (pair :: pairs, later)
  | .table path key :: rest =>
    let (pairs, later) := sections rest
    ([], ⟨false, path, key, pairs⟩ :: later)
  | .element path key :: rest =>
    let (pairs, later) := sections rest
    ([], ⟨true, path, key, pairs⟩ :: later)

/-- Adds a section to the table of the document. -/
def addSection (entries : Entries) (part : Section) : Option Entries :=
  Entries.within
    (if part.isElement then Entries.appendTable part.pairs part.key
      else Entries.openTable part.pairs part.key)
    part.path entries

/-- The table of a document. A byte order mark may lead it. -/
def parse (text : String) : Option Entries := do
  let input := match text.toList with
    | '\uFEFF' :: rest => rest
    | input => input
  let (pairs, later) := sections (← statements (input.length + 1) input)
  let entries ← Entries.addAll pairs ∅
  later.foldlM addSection entries

end ElfScope.Toml
