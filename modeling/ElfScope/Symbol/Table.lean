import ElfScope.Log.Event
import ElfScope.Section.Basic
import ElfScope.Symbol.Basic
import ElfScope.Traced

/-!
# The symbol table

The symbols are the entries of the first section that holds a symbol table, and their names come
from the section it links to. `SymbolTable.locate` settles where both are, and refuses by the
first defect it meets; `SymbolTable.read` then reads entry after entry up to the first name that
cannot be read.
-/

namespace ElfScope

/-- The bytes that symbols are read from: the indices of the symbol table and of its string table,
the number of entries, and the contents of both. -/
structure SymbolSource where
  table : Nat
  strings : UInt32
  count : Nat
  entries : Bytes
  names : StringTable

namespace SymbolTable

/-- The first symbol table among the sections, with its index. -/
def find? (sections : List SectionHeader) : Option (Nat × SectionHeader) :=
  match sections.findIdx? (·.kind == SectionKind.symbolTable) with
  | none => none
  | some index => sections[index]?.map (index, ·)

/-- The section that a link names: not the first one, which stands for none. -/
def linked? (sections : List SectionHeader) (link : UInt32) : Option SectionHeader :=
  if link = 0 then none else sections[link.toNat]?

/-- The bytes that the symbols are read from. -/
def locate (data : Bytes) (sections : List SectionHeader) : Except SymbolError SymbolSource :=
  match find? sections with
  | none => .error .noSymbolTable
  | some (table, holder) =>
    match linked? sections holder.link with
    | none => .error (.badStringTableLink table holder.link sections.length)
    | some strings => do
      if holder.size.toNat % Symbol.recordSize ≠ 0 then
        throw (.misalignedTable table holder.size)
      let entries ← (holder.contents data).mapError .range
      let names ← (strings.contents data).mapError .range
      return {
        table
        strings := holder.link
        count := holder.size.toNat / Symbol.recordSize
        entries
        names := .ofBytes names }

/-- The symbols of the entries, the first of them at `index`. -/
def readEntries (order : ByteOrder) (names : StringTable) (mode : LabelMode) :
    Nat → List Bytes → Traced Event (Except SymbolError (List Symbol))
  | _, [] => return .ok []
  | index, entry :: rest =>
    match Symbol.decode order names mode index entry with
    | .error error => return .error error
    | .ok symbol => do
      Traced.emit (.symbol index symbol.name symbol.value)
      Except.map (symbol :: ·) <$> readEntries order names mode (index + 1) rest

/-- The symbols of a file. -/
def read (data : Bytes) (order : ByteOrder) (sections : List SectionHeader) (mode : LabelMode) :
    Traced Event (Except SymbolError (List Symbol)) :=
  match locate data sections with
  | .error error => return .error error
  | .ok source => do
    Traced.emit (.extractingSymbols source.table source.strings source.count)
    readEntries order source.names mode 0
      (Bytes.records Symbol.recordSize source.count source.entries)

end SymbolTable

end ElfScope
