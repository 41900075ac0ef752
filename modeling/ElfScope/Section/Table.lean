import ElfScope.Log.Event
import ElfScope.Section.Basic
import ElfScope.StringTable
import ElfScope.Traced

/-!
# The section header table

The entries lie `sectionEntrySize` bytes apart and only the first 64 bytes of each count. Names
come from the section that the header names; where it names none, or one that leaves the file,
all sections stay nameless, and an offset that names no string leaves its own section nameless.
-/

namespace ElfScope

/-- Where the names of the sections come from. The header names no section of the table
(`unusable`), or one that leaves the file (`outOfBounds`), or one that holds a `table` of names. -/
inductive NameSource where
  | unusable
  | outOfBounds
  | table (names : StringTable)

namespace SectionTable

/-- Where the names of `sections` come from. -/
def nameSource (data : Bytes) (header : FileHeader) (sections : List SectionHeader) :
    NameSource :=
  if header.nameSection = 0 then .unusable
  else
    match sections[header.nameSection.toNat]? with
    | none => .unusable
    | some holder =>
      match holder.contents data with
      | .error _ => .outOfBounds
      | .ok bytes => .table (.ofBytes bytes)

/-- The section under the name that the table gives to it. -/
def rename (names : StringTable) (entry : SectionHeader) : SectionHeader :=
  { entry with name := (names.text entry.nameOffset).toOption }

/-- The sections under their names. -/
def resolveNames (data : Bytes) (header : FileHeader) (sections : List SectionHeader) :
    Traced Event (List SectionHeader) :=
  match nameSource data header sections with
  | .unusable => do
    Traced.emit (.noNameTable header.nameSection)
    return sections
  | .outOfBounds => do
    Traced.emit (.nameTableOutOfBounds header.nameSection)
    return sections
  | .table names => return sections.map (rename names)

/-- The events that report the sections, the first of them at `index`. -/
def reports : Nat → List SectionHeader → List Event
  | _, [] => []
  | index, entry :: rest =>
    .sectionHeader index entry.kind entry.name :: reports (index + 1) rest

/-- The bytes of the whole table. -/
def slice (data : Bytes) (header : FileHeader) : Except RangeError Bytes :=
  data.slice header.sectionOffset
    (header.sectionCount.toUInt64 * header.sectionEntrySize.toUInt64)

/-- Reads the table that a header describes. -/
def read (data : Bytes) (header : FileHeader) :
    Traced Event (Except SectionError (List SectionHeader)) :=
  if header.sectionCount = 0 then do
    Traced.emit .noSectionHeaders
    return .ok []
  else if header.sectionEntrySize.toNat < SectionHeader.recordSize then
    return .error (.badEntrySize header.sectionEntrySize)
  else
    match slice data header with
    | .error _ =>
      return .error (.truncatedTable header.sectionOffset header.sectionCount
        header.sectionEntrySize data.size)
    | .ok table => do
      Traced.emit (.parsingSections header.sectionOffset header.sectionCount
        header.sectionEntrySize)
      let entries := Bytes.records header.sectionEntrySize.toNat header.sectionCount.toNat table
      match entries.mapM (SectionHeader.decode header.order) with
      | .error error => return .error (.range error)
      | .ok sections =>
        let sections ← resolveNames data header sections
        Traced.emitAll (reports 0 sections)
        return .ok sections

end SectionTable

end ElfScope
