import ElfScope.Proofs.Number
import ElfScope.Section.Table

/-!
# Reading the section header table

An entry of 64 bytes or more is always read, and its numbers are those at the ten fixed places
(`SectionHeader.decode_eq_ofBytes`). So the table is decided by its count, its stride and the size
of the file alone (`SectionTable.value_read`). The names come last and change nothing else
(`SectionTable.map_unnamed_named`).
-/

namespace ElfScope

variable {data : Bytes} {order : ByteOrder}

/-! ## One section header -/

namespace SectionHeader

/-- The ten numbers of a section header, without the name. -/
def unnamed (header : SectionHeader) : SectionHeader :=
  { header with name := none }

/-- The section header whose numbers stand at `offset`. -/
def ofBytes (order : ByteOrder) (data : Bytes) (offset : Nat) : SectionHeader where
  nameOffset := .ofNat (order.numberAt data 4 offset)
  name := none
  kind := .ofNat (order.numberAt data 4 (offset + 4))
  flags := .ofNat (order.numberAt data 8 (offset + 8))
  address := .ofNat (order.numberAt data 8 (offset + 16))
  offset := .ofNat (order.numberAt data 8 (offset + 24))
  size := .ofNat (order.numberAt data 8 (offset + 32))
  link := .ofNat (order.numberAt data 4 (offset + 40))
  info := .ofNat (order.numberAt data 4 (offset + 44))
  alignment := .ofNat (order.numberAt data 8 (offset + 48))
  entrySize := .ofNat (order.numberAt data 8 (offset + 56))

/-- The contents of the section lie inside a file of `size` bytes. -/
def Fits (header : SectionHeader) (size : Nat) : Prop :=
  header.offset.toNat + header.size.toNat ≤ size

/-- `Fits` is decidable by one comparison of numbers. -/
instance (header : SectionHeader) (size : Nat) : Decidable (header.Fits size) :=
  inferInstanceAs (Decidable (_ ≤ _))

/-- A section that lies inside a file lies inside a larger one. -/
theorem Fits.mono {header : SectionHeader} {size larger : Nat} (h : header.Fits size)
    (hle : size ≤ larger) : header.Fits larger :=
  Nat.le_trans h hle

/-- The contents of a section that lies inside the file. -/
def body (header : SectionHeader) (data : Bytes) : Bytes :=
  data.part header.offset.toNat header.size.toNat

/-- A section without its name has no name to lose. -/
@[simp]
theorem unnamed_comp_unnamed : unnamed ∘ unnamed = unnamed := rfl

/-- The numbers of a section header come without a name. -/
@[simp]
theorem unnamed_ofBytes (order : ByteOrder) (data : Bytes) (offset : Nat) :
    (ofBytes order data offset).unnamed = ofBytes order data offset := rfl

/-- No field of an entry of 64 bytes or more lies outside of it. -/
theorem decode_eq_ofBytes {entry : Bytes} (h : 64 ≤ entry.size) :
    decode order entry = .ok (ofBytes order entry 0) := by
  simp (disch := simp; omega) only [decode, FieldReader.u32_eq, FieldReader.u64_eq]
  rfl

/-- The numbers of a section header in a part of a file are those at its place in the file. -/
theorem ofBytes_part {start length offset : Nat} (h : offset + 64 ≤ length) :
    ofBytes order (data.part start length) offset = ofBytes order data (start + offset) := by
  simp (disch := omega) only [ofBytes, ByteOrder.numberAt_part, Nat.add_assoc]

/-- A section header depends on 64 bytes only. -/
theorem ofBytes_congr {other : Bytes} {offset : Nat}
    (h : other.part offset 64 = data.part offset 64) :
    ofBytes order other offset = ofBytes order data offset := by
  have hzero : ofBytes order (other.part offset 64) 0 = ofBytes order (data.part offset 64) 0 := by
    rw [h]
  rwa [ofBytes_part (by omega), ofBytes_part (by omega)] at hzero

/-- An encoded section header has 64 bytes. -/
@[simp]
theorem size_encode (order : ByteOrder) (header : SectionHeader) :
    (header.encode order).size = 64 := by
  simp [encode]

/-- The numbers of a section header are read back as they were written. -/
theorem ofBytes_of_holds {header : SectionHeader} {offset : Nat}
    (h : data.Holds offset (header.encode order)) : ofBytes order data offset = header.unnamed := by
  simp only [encode, Bytes.holds_append, Array.size_append, ByteOrder.size_encode,
    Nat.reduceAdd] at h
  obtain ⟨⟨⟨⟨⟨⟨⟨⟨⟨h0, h4⟩, h8⟩, h16⟩, h24⟩, h32⟩, h40⟩, h44⟩, h48⟩, h56⟩ := h
  simp only [ofBytes, unnamed, ByteOrder.u32_of_holds h0, ByteOrder.u32_of_holds h4,
    ByteOrder.u64_of_holds h8, ByteOrder.u64_of_holds h16, ByteOrder.u64_of_holds h24,
    ByteOrder.u64_of_holds h32, ByteOrder.u32_of_holds h40, ByteOrder.u32_of_holds h44,
    ByteOrder.u64_of_holds h48, ByteOrder.u64_of_holds h56]

/-- The numbers in 64 bytes are written back as they stand there. -/
theorem holds_encode_ofBytes {offset : Nat} (h : offset + 64 ≤ data.size) :
    data.Holds offset ((ofBytes order data offset).encode order) := by
  simp only [encode, Bytes.holds_append, Array.size_append, ByteOrder.size_encode, Nat.reduceAdd]
  refine ⟨⟨⟨⟨⟨⟨⟨⟨⟨?_, ?_⟩, ?_⟩, ?_⟩, ?_⟩, ?_⟩, ?_⟩, ?_⟩, ?_⟩, ?_⟩
  case refine_1 | refine_2 | refine_7 | refine_8 => exact ByteOrder.holds_u32 (by omega)
  all_goals exact ByteOrder.holds_u64 (by omega)

/-- The name of a section is no part of the encoding of its header. -/
@[simp]
theorem encode_unnamed (order : ByteOrder) (header : SectionHeader) :
    header.unnamed.encode order = header.encode order := rfl

/-- The contents of a section inside the file are read. -/
theorem contents_eq_ok {header : SectionHeader} (h : header.Fits data.size) :
    header.contents data = .ok (header.body data) :=
  Bytes.slice_eq_part h

/-- The contents of a section that leaves the file are reported as a range outside. -/
theorem contents_eq_error {header : SectionHeader} (h : ¬ header.Fits data.size) :
    header.contents data = .error ⟨header.offset, header.size, data.size⟩ :=
  Bytes.slice_eq_error (Nat.lt_of_not_le h)

/-- The bytes of a section inside the file are as many as its header declares. -/
theorem size_body {header : SectionHeader} (h : header.Fits data.size) :
    (header.body data).size = header.size.toNat :=
  Bytes.size_part h

end SectionHeader

/-! ## The table -/

namespace SectionTable

/-- The section headers whose numbers stand where a header puts the table. -/
def entries (data : Bytes) (header : FileHeader) : List SectionHeader :=
  (List.range header.sectionCount.toNat).map fun index =>
    .ofBytes header.order data
      (header.sectionOffset.toNat + index * header.sectionEntrySize.toNat)

/-- The section that a header names as the one with the section names: not the first one, which
stands for none. -/
def nameHolder? (header : FileHeader) (sections : List SectionHeader) : Option SectionHeader :=
  if header.nameSection = 0 then none else sections[header.nameSection.toNat]?

/-- The sections under the names that the file gives to them, if it gives any. -/
def named (data : Bytes) (header : FileHeader) (sections : List SectionHeader) :
    List SectionHeader :=
  match nameHolder? header sections with
  | none => sections
  | some holder =>
    if holder.Fits data.size then sections.map (rename (.ofBytes (holder.body data))) else sections

/-- The names come from a section of the table, but not from the first. -/
theorem nameHolder?_eq_some_iff {header : FileHeader} {sections : List SectionHeader}
    {holder : SectionHeader} :
    nameHolder? header sections = some holder ↔
      header.nameSection.toNat ≠ 0 ∧ sections[header.nameSection.toNat]? = some holder := by
  have hzero : header.nameSection.toNat = 0 ↔ header.nameSection = 0 := by
    rw [← UInt16.toNat_inj]
    rfl
  by_cases h : header.nameSection = 0 <;> simp [nameHolder?, hzero, h]

/-- A header names no section of the table if it names the first one or one behind the last. -/
theorem nameHolder?_eq_none_iff {header : FileHeader} {sections : List SectionHeader} :
    nameHolder? header sections = none ↔
      header.nameSection.toNat = 0 ∨ sections.length ≤ header.nameSection.toNat := by
  have hzero : header.nameSection.toNat = 0 ↔ header.nameSection = 0 := by
    rw [← UInt16.toNat_inj]
    rfl
  by_cases h : header.nameSection = 0 <;> simp [nameHolder?, hzero, h]

/-- Names come from the section that the header names, if there is one and it lies inside the
file. -/
theorem nameSource_eq (data : Bytes) (header : FileHeader) (sections : List SectionHeader) :
    nameSource data header sections =
      match nameHolder? header sections with
      | none => .unusable
      | some holder =>
        if holder.Fits data.size then .table (.ofBytes (holder.body data)) else .outOfBounds := by
  unfold nameSource nameHolder?
  split
  · rfl
  cases sections[header.nameSection.toNat]? with
  | none => rfl
  | some holder =>
    by_cases h : holder.Fits data.size
    · simp only [SectionHeader.contents_eq_ok h, if_pos h]
    · simp only [SectionHeader.contents_eq_error h, if_neg h]

/-- Names come from the section that the header names, if that lies inside the file. -/
theorem value_resolveNames (data : Bytes) (header : FileHeader) (sections : List SectionHeader) :
    (resolveNames data header sections).value = named data header sections := by
  rw [resolveNames, nameSource_eq, named]
  cases nameHolder? header sections with
  | none => rfl
  | some holder => by_cases h : holder.Fits data.size <;> simp [h]

/-- Which section holds the names does not depend on the names. -/
theorem nameHolder?_map_unnamed (header : FileHeader) (sections : List SectionHeader) :
    nameHolder? header (sections.map SectionHeader.unnamed)
      = (nameHolder? header sections).map SectionHeader.unnamed := by
  by_cases h : header.nameSection = 0 <;> simp [nameHolder?, h]

/-- Naming sections changes nothing but their names. -/
@[simp]
theorem map_unnamed_named (data : Bytes) (header : FileHeader) (sections : List SectionHeader) :
    (named data header sections).map SectionHeader.unnamed
      = sections.map SectionHeader.unnamed := by
  unfold named
  split
  · rfl
  split
  · simp [rename, SectionHeader.unnamed]
  · rfl

/-- Naming sections keeps their number. -/
@[simp]
theorem length_named (data : Bytes) (header : FileHeader) (sections : List SectionHeader) :
    (named data header sections).length = sections.length := by
  have hlength := congrArg List.length (map_unnamed_named data header sections)
  rwa [List.length_map, List.length_map] at hlength

/-- The entries of a table come without names. -/
@[simp]
theorem map_unnamed_entries (data : Bytes) (header : FileHeader) :
    (entries data header).map SectionHeader.unnamed = entries data header := by
  simp [entries]

/-- A table has as many entries as the header declares. -/
@[simp]
theorem length_entries (data : Bytes) (header : FileHeader) :
    (entries data header).length = header.sectionCount.toNat := by
  simp [entries]

/-- Entries bear no names yet. -/
theorem name_of_mem_entries {header : FileHeader} {entry : SectionHeader}
    (h : entry ∈ entries data header) : entry.name = none := by
  obtain ⟨index, -, rfl⟩ := List.mem_map.1 h
  rfl

/-- Entry `index` starts `index` strides behind the start of the table. -/
theorem getElem?_entries {header : FileHeader} {index : Nat}
    (h : index < header.sectionCount.toNat) :
    (entries data header)[index]? = some (.ofBytes header.order data
      (header.sectionOffset.toNat + index * header.sectionEntrySize.toNat)) := by
  simp [entries, h]

/-- The product of two counts below `2 ^ 16` is a word. -/
theorem tableSize_lt (header : FileHeader) :
    header.sectionCount.toNat * header.sectionEntrySize.toNat < 2 ^ 64 := by
  have hcount := header.sectionCount.toNat_lt
  have hsize := header.sectionEntrySize.toNat_lt
  have hproduct := Nat.mul_lt_mul'' hcount hsize
  omega

/-- The product of two counts does not wrap. -/
theorem toNat_tableSize (header : FileHeader) :
    (header.sectionCount.toUInt64 * header.sectionEntrySize.toUInt64).toNat
      = header.sectionCount.toNat * header.sectionEntrySize.toNat := by
  rw [UInt64.toNat_mul, UInt16.toNat_toUInt64, UInt16.toNat_toUInt64]
  exact Nat.mod_eq_of_lt (tableSize_lt header)

/-- Reading succeeds throughout where it succeeds for each entry. -/
theorem mapM_eq_ok {ε α β : Type} {f : α → Except ε β} {g : α → β} {items : List α}
    (h : ∀ item ∈ items, f item = .ok (g item)) : items.mapM f = .ok (items.map g) := by
  induction items with
  | nil => rfl
  | cons item rest ih =>
    rw [List.mapM_cons, h item (by simp), ih fun other hmem => h other (by simp [hmem])]
    rfl

/-- The table of a header, if it lies inside the file. -/
theorem slice_eq_ok {header : FileHeader}
    (h : header.sectionOffset.toNat
      + header.sectionCount.toNat * header.sectionEntrySize.toNat ≤ data.size) :
    slice data header = .ok (data.part header.sectionOffset.toNat
      (header.sectionCount.toNat * header.sectionEntrySize.toNat)) := by
  rw [slice, Bytes.slice_eq_part (by rwa [toNat_tableSize]), toNat_tableSize]

/-- Every entry of a table inside the file is read. -/
theorem mapM_decode_records {header : FileHeader} (hsize : 64 ≤ header.sectionEntrySize.toNat)
    (hbound : header.sectionOffset.toNat
      + header.sectionCount.toNat * header.sectionEntrySize.toNat ≤ data.size) :
    (Bytes.records header.sectionEntrySize.toNat header.sectionCount.toNat
        (data.part header.sectionOffset.toNat
          (header.sectionCount.toNat * header.sectionEntrySize.toNat))).mapM
        (SectionHeader.decode header.order)
      = .ok (entries data header) := by
  rw [Bytes.records_part (Nat.le_refl _), List.mapM_map]
  refine mapM_eq_ok fun index hindex => ?_
  have hle := Nat.mul_le_mul_right header.sectionEntrySize.toNat
    (Nat.succ_le_of_lt (List.mem_range.1 hindex))
  rw [Nat.succ_mul] at hle
  have hentry : 64 ≤ (data.part (header.sectionOffset.toNat
      + index * header.sectionEntrySize.toNat) header.sectionEntrySize.toNat).size := by
    rwa [Bytes.size_part (by omega)]
  rw [Function.comp_apply, SectionHeader.decode_eq_ofBytes hentry,
    SectionHeader.ofBytes_part (by omega), Nat.add_zero]

/-- A header describes a table that can be read or one with a defect, and which of the two does not
depend on the bytes of the table. -/
theorem value_read (data : Bytes) (header : FileHeader) :
    (read data header).value =
      if header.sectionCount = 0 then .ok []
      else if header.sectionEntrySize.toNat < 64 then
        .error (.badEntrySize header.sectionEntrySize)
      else if header.sectionOffset.toNat
          + header.sectionCount.toNat * header.sectionEntrySize.toNat ≤ data.size then
        .ok (named data header (entries data header))
      else
        .error (.truncatedTable header.sectionOffset header.sectionCount header.sectionEntrySize
          data.size) := by
  unfold read
  by_cases hcount : header.sectionCount = 0
  · rw [if_pos hcount, if_pos hcount]
    rfl
  rw [if_neg hcount, if_neg hcount, SectionHeader.recordSize]
  by_cases hsize : header.sectionEntrySize.toNat < 64
  · rw [if_pos hsize, if_pos hsize]
    rfl
  rw [if_neg hsize, if_neg hsize]
  by_cases hbound : header.sectionOffset.toNat
      + header.sectionCount.toNat * header.sectionEntrySize.toNat ≤ data.size
  · rw [if_pos hbound, slice_eq_ok hbound]
    simp only [Traced.value_bind, mapM_decode_records (Nat.le_of_not_lt hsize) hbound,
      value_resolveNames]
    rfl
  · rw [if_neg hbound, slice, Bytes.slice_eq_error (by rw [toNat_tableSize]; omega)]
    rfl

/-- A header that names another section as the one with the names describes the same table. -/
theorem value_read_nameSection (data : Bytes) (header : FileHeader) (nameSection : UInt16) :
    (read data { header with nameSection }).value.map (List.map SectionHeader.unnamed)
      = (read data header).value.map (List.map SectionHeader.unnamed) := by
  have hentries : entries data { header with nameSection } = entries data header := rfl
  rw [value_read, value_read, hentries]
  dsimp only
  split
  case isTrue => rfl
  split
  case isTrue => rfl
  split
  case isFalse => rfl
  case isTrue => simp only [Except.map, map_unnamed_named]

/-- No table is refused for a field. -/
theorem value_read_ne_range (header : FileHeader) (error : RangeError) :
    (read data header).value ≠ .error (.range error) := by
  rw [value_read]
  intro h
  split at h
  case isTrue => cases h
  split at h
  case isTrue => cases h
  split at h <;> cases h

end SectionTable

end ElfScope
