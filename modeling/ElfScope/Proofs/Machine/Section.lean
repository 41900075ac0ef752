import ElfScope.Proofs.Machine.Header
import ElfScope.Proofs.Section
import ElfScope.Proofs.StringTable

/-!
# The section header table on a machine

The table, its names and the strings of a table, read by operations that may crash. The stride is
known not to be zero before the table is divided, two 16-bit numbers have a product that is a word,
and the section of names is looked up only where it is one (`string_eq`, `readSections_eq`).
-/

namespace ElfScope.Machine

open Outcome

/-- The numbers of an entry. -/
def decodeSection (order : ByteOrder) (entry : Bytes) : Outcome RangeError SectionHeader := do
  let reader : FieldReader := ⟨entry, order⟩
  return {
    nameOffset := ← u32 reader 0
    name := none
    kind := ← u32 reader 4
    flags := ← u64 reader 8
    address := ← u64 reader 16
    offset := ← u64 reader 24
    size := ← u64 reader 32
    link := ← u32 reader 40
    info := ← u32 reader 44
    alignment := ← u64 reader 48
    entrySize := ← u64 reader 56 }

/-- The contents of a section. -/
def contents (entry : SectionHeader) (data : Bytes) : Outcome RangeError Bytes :=
  readAt data entry.offset entry.size

/-- The string at `offset` of a table, without the zero byte that ends it. -/
def string (table : Bytes) (offset : UInt32) : Outcome StringError Bytes :=
  match (tail? table offset.toNat).filter (!·.isEmpty) with
  | none => refused .outOfRange
  | some remaining =>
    match remaining.findIdx? (· == 0) with
    | none => refused .unterminated
    | some stop => range remaining 0 stop

/-- The section under the name that a table gives to it. -/
def rename (table : Bytes) (entry : SectionHeader) : Outcome SectionError SectionHeader := do
  let found ← (string table entry.nameOffset).attempt
  return { entry with name := (found.map Utf8.decodeLossy).toOption }

/-- The sections under their names. -/
def resolveNames (data : Bytes) (header : FileHeader) (sections : List SectionHeader) :
    Outcome SectionError (List SectionHeader) := do
  let index := header.nameSection.toNat
  if index = 0 ∨ sections.length ≤ index then return sections
  else
    let holder ← element sections index
    match ← (contents holder data).attempt with
    | .error _ => return sections
    | .ok table => sections.mapM (rename table)

/-- Reads the table that a header describes. -/
def readSections (data : Bytes) (header : FileHeader) :
    Outcome SectionError (List SectionHeader) :=
  if header.sectionCount = 0 then return []
  else if header.sectionEntrySize.toNat < 64 then refused (.badEntrySize header.sectionEntrySize)
  else do
    let length ← product header.sectionCount.toUInt64 header.sectionEntrySize.toUInt64
    let table ← (readAt data header.sectionOffset length).mapError fun _ =>
      .truncatedTable header.sectionOffset header.sectionCount header.sectionEntrySize
        (UInt64.ofNat data.size).toNat
    let entries ← pieces header.sectionEntrySize.toNat table
    let sections ← (entries.mapM (decodeSection header.order)).mapError .range
    resolveNames data header sections

/-- A section header is decoded without a crash. -/
theorem decodeSection_eq {entry : Bytes} (h : entry.size < 2 ^ 63) (order : ByteOrder) :
    decodeSection order entry = settled (SectionHeader.decode order entry) := by
  have hreader : (FieldReader.mk entry order).record.size < 2 ^ 63 := h
  simp only [decodeSection, u32_eq hreader, u64_eq hreader, pure_eq, settled_bind]
  rfl

/-- The contents of a section are read without a crash. -/
theorem contents_eq {data : Bytes} (h : data.size < 2 ^ 63) (entry : SectionHeader) :
    contents entry data = settled (entry.contents data) :=
  readAt_eq h entry.offset entry.size

/-- The first zero byte in the rest of a table is the first one in the table from there on. -/
theorem string_eq (table : Bytes) (offset : UInt32) :
    string table offset = settled ((StringTable.ofBytes table).get offset) := by
  by_cases hsize : table.size ≤ offset.toNat
  · rw [string, filter_tail?_of_le hsize, StringTable.get_eq_outOfRange hsize]
    rfl
  have hget := Bytes.getElem?_extract_size table offset.toNat
  rw [string, filter_tail?_of_lt (by omega)]
  dsimp only
  cases hfind : (table.extract offset.toNat table.size).findIdx? (· == 0) with
  | none =>
    have hnone (position : Nat) (hle : offset.toNat ≤ position) : table[position]? ≠ some 0 := by
      intro hzero
      have hindex : offset.toNat + (position - offset.toNat) = position := by omega
      rw [← hindex, ← hget] at hzero
      have hne := Array.findIdx?_eq_none_iff.1 hfind 0 (Array.mem_of_getElem? hzero)
      simp at hne
    rw [StringTable.get_eq_unterminated (by omega) hnone]
    rfl
  | some stop =>
    obtain ⟨hlt, hzero, hfirst⟩ := Array.findIdx?_eq_some_iff_getElem.1 hfind
    have hstop : offset.toNat + stop ≤ table.size := by
      simp only [Array.size_extract] at hlt
      omega
    have hend : table[offset.toNat + stop]? = some 0 := by
      rw [← hget, Array.getElem?_eq_getElem hlt]
      simpa using hzero
    have hbefore (position : Nat) (hle : offset.toNat ≤ position)
        (hposition : position < offset.toNat + stop) : table[position]? ≠ some 0 := by
      intro hmem
      have hindex : offset.toNat + (position - offset.toNat) = position := by omega
      rw [← hindex, ← hget] at hmem
      obtain ⟨hin, hvalue⟩ := Array.getElem?_eq_some_iff.1 hmem
      exact hfirst (position - offset.toNat) (by omega) (by simp [hvalue])
    rw [StringTable.get_eq_ok hend (by omega) hbefore]
    dsimp only
    rw [range_eq (by omega) (by omega), Array.extract_extract]
    simp [hstop]

/-- A section is given its name without a crash. -/
theorem rename_eq (table : Bytes) (entry : SectionHeader) :
    rename table entry = settled (.ok (SectionTable.rename (.ofBytes table) entry)) := by
  rw [rename, string_eq, attempt_settled]
  rfl

/-- All sections are given their names without a crash. -/
theorem resolveNames_eq {data : Bytes} (h : data.size < 2 ^ 63) (header : FileHeader)
    (sections : List SectionHeader) :
    resolveNames data header sections
      = settled (.ok (SectionTable.named data header sections)) := by
  rw [resolveNames, SectionTable.named]
  cases hholder : SectionTable.nameHolder? header sections with
  | none =>
    rw [if_pos (SectionTable.nameHolder?_eq_none_iff.1 hholder)]
    rfl
  | some holder =>
    obtain ⟨hne, hget⟩ := SectionTable.nameHolder?_eq_some_iff.1 hholder
    have hlt := (List.getElem?_eq_some_iff.1 hget).1
    rw [if_neg (by omega), element_eq hget, settled_ok_bind, contents_eq h, attempt_settled,
      settled_ok_bind]
    by_cases hfits : holder.Fits data.size
    · rw [SectionHeader.contents_eq_ok hfits]
      simp only [if_pos hfits]
      rw [mapM_settled fun entry _ => rename_eq _ entry, SectionTable.mapM_eq_ok fun _ _ => rfl]
    · rw [SectionHeader.contents_eq_error hfits]
      simp only [if_neg hfits]
      rfl

/-- The table of sections is read without a crash. -/
theorem readSections_eq {data : Bytes} (h : data.size < 2 ^ 63) (header : FileHeader) :
    readSections data header = settled (SectionTable.read data header).value := by
  rw [readSections, SectionTable.value_read]
  by_cases hzero : header.sectionCount = 0
  · rw [if_pos hzero, if_pos hzero]
    rfl
  by_cases hnarrow : header.sectionEntrySize.toNat < 64
  · rw [if_neg hzero, if_neg hzero, if_pos hnarrow, if_pos hnarrow]
    rfl
  have hproduct : (product header.sectionCount.toUInt64 header.sectionEntrySize.toUInt64 :
        Outcome SectionError UInt64)
      = settled (.ok (header.sectionCount.toUInt64 * header.sectionEntrySize.toUInt64)) :=
    product_eq (by simpa using SectionTable.tableSize_lt header)
  rw [if_neg hzero, if_neg hzero, if_neg hnarrow, if_neg hnarrow, hproduct, settled_ok_bind,
    readAt_eq h, ← SectionTable.slice, toNat_size h]
  by_cases hbound : header.sectionOffset.toNat
      + header.sectionCount.toNat * header.sectionEntrySize.toNat ≤ data.size
  · have htable := Bytes.size_part hbound
    have hdecode : ∀ entry ∈ Bytes.records header.sectionEntrySize.toNat
          header.sectionCount.toNat (data.part header.sectionOffset.toNat
            (header.sectionCount.toNat * header.sectionEntrySize.toNat)),
        decodeSection header.order entry = settled (SectionHeader.decode header.order entry) := by
      intro entry hmem
      have hle := Bytes.size_le_of_mem_records hmem
      exact decodeSection_eq (by omega) header.order
    rw [if_pos hbound, SectionTable.slice_eq_ok hbound, mapError_settled_ok, settled_ok_bind,
      pieces_eq (by omega), settled_ok_bind, htable, Nat.mul_div_cancel _ (by omega),
      mapM_settled hdecode, SectionTable.mapM_decode_records (Nat.le_of_not_lt hnarrow) hbound]
    exact resolveNames_eq h header _
  · have hslice : SectionTable.slice data header = .error ⟨header.sectionOffset,
        header.sectionCount.toUInt64 * header.sectionEntrySize.toUInt64, data.size⟩ :=
      Bytes.slice_eq_error (by rw [SectionTable.toNat_tableSize]; omega)
    rw [if_neg hbound, hslice]
    rfl

end ElfScope.Machine
