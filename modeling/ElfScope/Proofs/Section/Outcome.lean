import ElfScope.Proofs.FileHeader.Outcome
import ElfScope.Proofs.Section
import ElfScope.Proofs.StringTable

/-!
# What becomes of the section header table

`SectionTable.Reads` lists the outcomes that reading the table of a header can have, each with the
condition under which it is the one. Every condition rules out the ones in front of it, so the
relation also settles which of several defects is reported. The conditions count in natural numbers,
so that no offset and no size wraps around. Names are settled last, and whatever they are, the table
is accepted or refused alike (`table_decides`).
-/

namespace ElfScope

namespace SectionTable

variable {data : Bytes} {header : FileHeader} {sections : List SectionHeader}

/-! ## The outcomes -/

/-- What the string at an offset gives as the name of a section, with the names in `strings`. There
is no name if no zero byte is at the offset or behind it, be the offset inside the strings or not
(`unresolved`). Otherwise the name ends in front of the first zero byte (`resolved`). -/
inductive NameReads (strings : Bytes) (offset : UInt32) : Option String → Prop where
  | unresolved
      (hnone : ∀ position, offset.toNat ≤ position → strings[position]? ≠ some 0) :
      NameReads strings offset none
  | resolved {stop : Nat} (hstop : strings.EndsAt offset.toNat stop) :
      NameReads strings offset (some (Utf8.decodeLossy (strings.extract offset.toNat stop)))

/-- What the sections of a table bear as their names. None has a name where the header names no
section of the table (`unusable`), or one that leaves the file (`outside`). Otherwise each has its
own name, or none, from that section (`inside`). -/
inductive NamesRead (data : Bytes) (header : FileHeader) (sections : List SectionHeader) :
    Prop where
  | unusable
      (hindex : header.nameSection.toNat = 0
        ∨ header.sectionCount.toNat ≤ header.nameSection.toNat)
      (hnames : ∀ entry ∈ sections, entry.name = none) : NamesRead data header sections
  | outside {holder : SectionHeader} (hindex : header.nameSection.toNat ≠ 0)
      (hholder : sections[header.nameSection.toNat]? = some holder)
      (houtside : data.size < holder.offset.toNat + holder.size.toNat)
      (hnames : ∀ entry ∈ sections, entry.name = none) : NamesRead data header sections
  | inside {holder : SectionHeader} (hindex : header.nameSection.toNat ≠ 0)
      (hholder : sections[header.nameSection.toNat]? = some holder)
      (hfits : holder.offset.toNat + holder.size.toNat ≤ data.size)
      (hnames : ∀ entry ∈ sections,
        NameReads (holder.body data) entry.nameOffset entry.name) :
      NamesRead data header sections

/-- What reading the table of a header gives, in the order in which the defects are met.

The header declares no sections (`empty`). Or it declares some, and the entries are smaller than a
section header (`badEntrySize`). Or they are wide enough, and the table leaves the file
(`truncatedTable`). Or it lies inside the file, and the sections are its entries under their names
(`table`). -/
inductive Reads (data : Bytes) (header : FileHeader) :
    Except SectionError (List SectionHeader) → Prop where
  | empty (hcount : header.sectionCount = 0) : Reads data header (.ok [])
  | badEntrySize (hcount : header.sectionCount ≠ 0)
      (hsize : header.sectionEntrySize.toNat < 64) :
      Reads data header (.error (.badEntrySize header.sectionEntrySize))
  | truncatedTable (hcount : header.sectionCount ≠ 0)
      (hsize : 64 ≤ header.sectionEntrySize.toNat)
      (houtside : data.size < header.sectionOffset.toNat
        + header.sectionCount.toNat * header.sectionEntrySize.toNat) :
      Reads data header (.error (.truncatedTable header.sectionOffset header.sectionCount
        header.sectionEntrySize data.size))
  | table {sections : List SectionHeader} (hcount : header.sectionCount ≠ 0)
      (hsize : 64 ≤ header.sectionEntrySize.toNat)
      (hfits : header.sectionOffset.toNat
        + header.sectionCount.toNat * header.sectionEntrySize.toNat ≤ data.size)
      (hfields : sections.map SectionHeader.unnamed = entries data header)
      (hnames : NamesRead data header sections) : Reads data header (.ok sections)

/-! ## Names -/

/-- A name is what the string table gives, if it gives any. -/
theorem nameReads_iff {strings : Bytes} {offset : UInt32} {name : Option String} :
    ((StringTable.ofBytes strings).text offset).toOption = name
      ↔ NameReads strings offset name := by
  constructor
  · rintro rfl
    obtain ⟨hsize, hget⟩ | ⟨-, hnone, hget⟩ | ⟨stop, hstop, hget⟩ :=
      StringTable.get_cases strings offset
    · rw [StringTable.text, hget]
      refine .unresolved fun position hle hzero => ?_
      rw [Array.getElem?_eq_none (by omega)] at hzero
      cases hzero
    · rw [StringTable.text, hget]
      exact .unresolved hnone
    · rw [StringTable.text, hget]
      exact .resolved hstop
  · intro h
    cases h with
    | unresolved hnone =>
      obtain ⟨-, hget⟩ | ⟨-, -, hget⟩ | ⟨stop, hstop, -⟩ := StringTable.get_cases strings offset
      · rw [StringTable.text, hget]
        rfl
      · rw [StringTable.text, hget]
        rfl
      · exact absurd hstop.zero (hnone stop hstop.le)
    | resolved hstop =>
      rw [StringTable.text, StringTable.get_eq_ok hstop.zero hstop.le hstop.first]
      rfl

/-- The sections of a table take their names in one of the ways. -/
theorem namesRead_named (hlength : sections.length = header.sectionCount.toNat)
    (hnone : ∀ entry ∈ sections, entry.name = none) :
    NamesRead data header (named data header sections) := by
  rw [named]
  cases hholder : nameHolder? header sections with
  | none =>
    obtain hindex | hindex := nameHolder?_eq_none_iff.1 hholder
    · exact .unusable (.inl hindex) hnone
    · exact .unusable (.inr (hlength ▸ hindex)) hnone
  | some holder =>
    obtain ⟨hindex, hfound⟩ := nameHolder?_eq_some_iff.1 hholder
    dsimp only
    split
    case isTrue hfits =>
      -- The section with the names bears one itself, and is still where it was.
      refine @NamesRead.inside data header _ (rename (.ofBytes (holder.body data)) holder) hindex
        ?_ hfits ?_
      · rw [List.getElem?_map, hfound, Option.map_some]
      · intro entry hentry
        obtain ⟨nameless, -, rfl⟩ := List.mem_map.1 hentry
        exact nameReads_iff.1 rfl
    case isFalse hfits => exact .outside hindex hfound (Nat.lt_of_not_le hfits) hnone

/-- A section is its fields and its name. -/
theorem unnamed_eq_self {entry : SectionHeader} (h : entry.name = none) :
    entry.unnamed = entry := by
  cases entry
  simp_all [SectionHeader.unnamed]

/-- A section whose name is what its offset gives is given this name. -/
theorem rename_unnamed {strings : Bytes} {entry : SectionHeader}
    (h : NameReads strings entry.nameOffset entry.name) :
    rename (.ofBytes strings) entry.unnamed = entry := by
  have hname := nameReads_iff.2 h
  cases entry
  simp_all [SectionHeader.unnamed, rename]

/-- The sections of a table bear their names in one of the ways only. -/
theorem NamesRead.named_eq (h : NamesRead data header sections)
    (hlength : sections.length = header.sectionCount.toNat) :
    named data header (sections.map SectionHeader.unnamed) = sections := by
  have hnameless (hnames : ∀ entry ∈ sections, entry.name = none) :
      sections.map SectionHeader.unnamed = sections :=
    (List.map_congr_left fun entry hentry => unnamed_eq_self (hnames entry hentry)).trans
      sections.map_id
  rw [named, nameHolder?_map_unnamed]
  cases h with
  | unusable hindex hnames =>
    rw [nameHolder?_eq_none_iff.2 (hlength ▸ hindex)]
    exact hnameless hnames
  | outside hindex hholder houtside hnames =>
    rw [nameHolder?_eq_some_iff.2 ⟨hindex, hholder⟩]
    exact (if_neg (Nat.not_le_of_lt houtside)).trans (hnameless hnames)
  | inside hindex hholder hfits hnames =>
    rw [nameHolder?_eq_some_iff.2 ⟨hindex, hholder⟩]
    refine (if_pos hfits).trans ?_
    rw [List.map_map]
    exact (List.map_congr_left fun entry hentry => rename_unnamed (hnames entry hentry)).trans
      sections.map_id

/-! ## The decision -/

/-- The table of a header is read in one of these ways. -/
theorem reads_value_read (data : Bytes) (header : FileHeader) :
    Reads data header (read data header).value := by
  rw [value_read]
  split
  case isTrue hcount => exact .empty hcount
  case isFalse hcount =>
  split
  case isTrue hsize => exact .badEntrySize hcount hsize
  case isFalse hsize =>
  split
  case isTrue hfits =>
    exact .table hcount (Nat.le_of_not_lt hsize) hfits (by simp)
      (namesRead_named (length_entries data header) fun _ => name_of_mem_entries)
  case isFalse hfits =>
    exact .truncatedTable hcount (Nat.le_of_not_lt hsize) (Nat.lt_of_not_le hfits)

/-- The table of a header is read in one of the ways only. -/
theorem Reads.value_eq {outcome : Except SectionError (List SectionHeader)}
    (h : Reads data header outcome) : (read data header).value = outcome := by
  rw [value_read]
  cases h with
  | empty hcount => exact if_pos hcount
  | badEntrySize hcount hsize => rw [if_neg hcount, if_pos hsize]
  | truncatedTable hcount hsize houtside =>
    rw [if_neg hcount, if_neg (Nat.not_lt_of_le hsize), if_neg (Nat.not_le_of_lt houtside)]
  | @table sections hcount hsize hfits hfields hnames =>
    have hlength : sections.length = header.sectionCount.toNat := by
      rw [← length_entries data header, ← hfields, List.length_map]
    rw [if_neg hcount, if_neg (Nat.not_lt_of_le hsize), if_pos hfits, ← hfields,
      hnames.named_eq hlength]

/-- Files of one size have tables of one length, or are refused alike, whatever their bytes are and
whichever section the header names as the one with the names. -/
theorem length_value_read {other : Bytes} (hsize : other.size = data.size) (nameSection : UInt16) :
    (read other { header with nameSection }).value.map List.length
      = (read data header).value.map List.length := by
  rw [value_read, value_read, hsize]
  dsimp only
  split
  case isTrue => rfl
  split
  case isTrue => rfl
  split
  case isFalse => rfl
  case isTrue => simp only [Except.map, length_named, length_entries]

/-- The table of a header is read in the one way that `Reads` allows. Another section with the names
leaves the fields of all sections as they are, and other bytes, of names or of anything else, leave
it accepted with as many sections, or refused for the same defect. -/
theorem table_decides (data : Bytes) (header : FileHeader) :
    (∀ outcome, (read data header).value = outcome ↔ Reads data header outcome) ∧
      ∀ nameSection : UInt16,
        (read data { header with nameSection }).value.map (List.map SectionHeader.unnamed)
            = (read data header).value.map (List.map SectionHeader.unnamed) ∧
          ∀ other : Bytes, other.size = data.size →
            (read other { header with nameSection }).value.map List.length
              = (read data header).value.map List.length := by
  refine ⟨fun outcome => ⟨?_, Reads.value_eq⟩, fun nameSection => ⟨?_, fun other hsize => ?_⟩⟩
  · rintro rfl
    exact reads_value_read data header
  · exact value_read_nameSection data header nameSection
  · exact length_value_read hsize nameSection

/-- A table that starts at the last offset there is, so that its end is no word. -/
def wrapped : FileHeader :=
  { FileHeader.solitary with
    sectionOffset := 0xffffffffffffffff, sectionCount := 0xffff, sectionEntrySize := 0xffff }

/-- The table at the last offset leaves every file of one byte, and is reported as the header
describes it. -/
theorem read_wrapped :
    (read #[7] wrapped).value
      = .error (.truncatedTable 0xffffffffffffffff 0xffff 0xffff 1) ∧
    (#[8] : Bytes).size = (#[7] : Bytes).size ∧
    (read #[8] { wrapped with nameSection := 1 }).value.map List.length
      = .error (.truncatedTable 0xffffffffffffffff 0xffff 0xffff 1) := by
  obtain ⟨houtcome, hnames⟩ := table_decides #[7] wrapped
  have hread : (read #[7] wrapped).value
      = .error (.truncatedTable 0xffffffffffffffff 0xffff 0xffff 1) :=
    (houtcome _).2 (.truncatedTable (by decide) (by decide) (by decide))
  refine ⟨hread, rfl, ?_⟩
  rw [(hnames 1).2 #[8] rfl, hread]
  rfl

end SectionTable

end ElfScope
