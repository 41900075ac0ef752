import ElfScope.Proofs.Inspection
import ElfScope.Proofs.Symbol.Outcome

/-!
# Files that grow

Bytes behind the end of a file repair what was missing and change nothing else. `Grows` lists what
may become of each outcome of an inspection, and `inspect_append` says that nothing else does.
-/

namespace ElfScope

variable {data ext : Bytes} {header : FileHeader} {sections : List SectionHeader}

/-! ## What may change -/

/-- What may become of the symbols when a file grows to `size` bytes.

All but a range outside the file stays as it is (`same`). Such a range may be outside the larger
file too (`outside`). Or it is inside, and the symbols are read (`found`), or a name starts outside
of the strings (`nameOutOfRange`) or does not end in them (`unterminatedName`). -/
inductive SymbolsGrow (size : Nat) :
    Except SymbolError (List Symbol) → Except SymbolError (List Symbol) → Prop where
  | same {symbols : Except SymbolError (List Symbol)}
      (hrange : ∀ error, symbols ≠ .error (.range error)) : SymbolsGrow size symbols symbols
  | found {error : RangeError} {symbols : List Symbol} :
      SymbolsGrow size (.error (.range error)) (.ok symbols)
  | outside {error : RangeError} {offset length : UInt64} :
      SymbolsGrow size (.error (.range error)) (.error (.range ⟨offset, length, size⟩))
  | nameOutOfRange {error : RangeError} {index : Nat} {offset : UInt32} :
      SymbolsGrow size (.error (.range error)) (.error (.nameOutOfRange index offset))
  | unterminatedName {error : RangeError} {index : Nat} {offset : UInt32} :
      SymbolsGrow size (.error (.range error)) (.error (.unterminatedName index offset))

/-- The sections have no names (`name_eq`), because the section with the names, which the header
names, leaves a file of `size` bytes (`outside`). -/
structure Nameless (size : Nat) (header : FileHeader) (sections : List SectionHeader) : Prop where
  outside : ∃ holder, SectionTable.nameHolder? header sections = some holder ∧ ¬ holder.Fits size
  name_eq : ∀ entry ∈ sections, entry.name = none

/-- What may become of the outcome of an inspection when a file grows from `size` bytes to `larger`.

A final defect of the header stays (`header`), but a header that was cut off may turn out to be
anything (`cutOff`). Entries that are too small stay too small (`badEntrySize`). A table that leaves
the file leaves the larger file too (`truncatedTable`), or is inside it (`completedTable`). What was
inspected stays, except that names and symbols may appear (`inspected`). -/
inductive Grows (size larger : Nat) :
    Except InspectError Inspection → Except InspectError Inspection → Prop where
  | header {error : HeaderError} (hfinal : error.IsFinal) :
      Grows size larger (.error (.header error)) (.error (.header error))
  | cutOff {length : Nat} {outcome : Except InspectError Inspection} :
      Grows size larger (.error (.header (.truncated length))) outcome
  | badEntrySize {found : UInt16} :
      Grows size larger (.error (.sections (.badEntrySize found)))
        (.error (.sections (.badEntrySize found)))
  | truncatedTable {offset : UInt64} {count entrySize : UInt16} :
      Grows size larger (.error (.sections (.truncatedTable offset count entrySize size)))
        (.error (.sections (.truncatedTable offset count entrySize larger)))
  | completedTable {offset : UInt64} {count entrySize : UInt16} {inspection : Inspection} :
      Grows size larger (.error (.sections (.truncatedTable offset count entrySize size)))
        (.ok inspection)
  | inspected {before after : Inspection} (hheader : after.header = before.header)
      (hunnamed : after.sections.map SectionHeader.unnamed
        = before.sections.map SectionHeader.unnamed)
      (hnames : after.sections = before.sections ∨ Nameless size before.header before.sections)
      (hsymbols : SymbolsGrow larger before.symbols after.symbols) :
      Grows size larger (.ok before) (.ok after)

/-! ## The header -/

/-- The first bytes of a file stay when others are appended. -/
theorem Bytes.first?_append {count : Nat} {found : Vector UInt8 count}
    (h : data.first? count = some found) : (data ++ ext).first? count = some found := by
  rw [first?] at h
  split at h
  case isFalse => cases h
  case isTrue hle =>
    have hpart : (data ++ ext).part 0 count = data.part 0 count := part_append (by omega)
    rw [← h, first?, dif_pos (by rw [Array.size_append]; omega)]
    refine congrArg some (Vector.toArray_inj.1 ?_)
    simpa [part] using hpart

namespace FileHeader

/-- The header of a file that is long enough stays, and so does its defect. -/
theorem decode_append (h : 64 ≤ data.size) : decode (data ++ ext) = decode data := by
  obtain ⟨block, hfirst⟩ : ∃ block, data.first? FileHeader.size = some block := ⟨_, dif_pos h⟩
  rw [decode_of_first? hfirst, decode_of_first? (Bytes.first?_append hfirst)]

/-- A header is refused for a defect that stays, or because the file is too short. -/
theorem decode_error (ext : Bytes) {error : HeaderError} (h : decode data = .error error) :
    decode (data ++ ext) = .error error ∧ error.IsFinal ∨ ∃ length, error = .truncated length := by
  by_cases hsize : 64 ≤ data.size
  · exact .inl ⟨(decode_append hsize).trans h, isFinal_of_decode hsize h⟩
  · rw [decode_of_lt (by omega)] at h
    obtain ⟨found, hfirst, hfound, hshort⟩ | hshort := shortfall_cases data
    · cases hshort.symm.trans (Except.error.inj h)
      exact .inl ⟨decode_of_badMagic (Bytes.first?_append hfirst) hfound, trivial⟩
    · exact .inr ⟨data.size, (Except.error.inj h).symm.trans hshort⟩

end FileHeader

/-! ## The sections -/

/-- The contents of a section inside the file stay. -/
theorem SectionHeader.body_append {entry : SectionHeader} (h : entry.Fits data.size) :
    entry.body (data ++ ext) = entry.body data :=
  Bytes.part_append h

namespace SectionTable

/-- The entries of a table inside the file stay. -/
theorem entries_append (hsize : 64 ≤ header.sectionEntrySize.toNat)
    (hbound : header.sectionOffset.toNat
      + header.sectionCount.toNat * header.sectionEntrySize.toNat ≤ data.size) :
    entries (data ++ ext) header = entries data header := by
  refine List.map_congr_left fun index hindex => SectionHeader.ofBytes_congr ?_
  have hle := Nat.mul_le_mul_right header.sectionEntrySize.toNat
    (Nat.succ_le_of_lt (List.mem_range.1 hindex))
  rw [Nat.succ_mul] at hle
  exact Bytes.part_append (by omega)

/-- Names stay, unless the section with the names leaves the file. -/
theorem named_append (hunnamed : ∀ {entry : SectionHeader}, entry ∈ sections → entry.name = none) :
    named (data ++ ext) header sections = named data header sections
      ∨ Nameless data.size header (named data header sections) := by
  cases hholder : nameHolder? header sections with
  | none => exact .inl (by simp only [named, hholder])
  | some holder =>
    by_cases hfits : holder.Fits data.size
    · have hlarger : holder.Fits (data ++ ext).size :=
        hfits.mono (by rw [Array.size_append]; omega)
      refine .inl ?_
      simp only [named, hholder, if_pos hfits, if_pos hlarger, SectionHeader.body_append hfits]
    · have hsame : named data header sections = sections := by
        simp only [named, hholder, if_neg hfits]
      rw [hsame]
      exact .inr ⟨⟨holder, hholder, hfits⟩, fun _ => hunnamed⟩

end SectionTable

/-! ## The symbols -/

namespace SymbolTable

variable {order : ByteOrder} {mode : LabelMode}

/-- Where no range is outside the file, the symbols stay. -/
theorem value_read_append_of_ne_range
    (h : ∀ error, place data.size sections ≠ .error (.range error)) :
    (read (data ++ ext) order sections mode).value = (read data order sections mode).value ∧
      ∀ error, (read data order sections mode).value ≠ .error (.range error) := by
  have hle : data.size ≤ (data ++ ext).size := by rw [Array.size_append]; omega
  have hlocate := locate_eq_map data sections
  have hlarger := locate_eq_map (data ++ ext) sections
  rw [place_mono hle h] at hlarger
  cases hplace : place data.size sections with
  | error error =>
    rw [hplace] at hlocate hlarger
    rw [value_read, value_read, hlocate, hlarger]
    refine ⟨rfl, fun cause hcause => h cause ?_⟩
    rw [hplace]
    exact congrArg _ (Except.error.inj hcause)
  | ok found =>
    obtain ⟨table, holder, strings⟩ := found
    have hplaced := place_eq_ok_iff.1 hplace
    rw [hplace] at hlocate hlarger
    have hsource : locate (data ++ ext) sections = locate data sections := by
      rw [hlarger, hlocate]
      simp only [Except.map, source, SectionHeader.body_append hplaced.holder_fits,
        SectionHeader.body_append hplaced.strings_fits]
    rw [value_read (data ++ ext), hsource, ← value_read]
    exact ⟨rfl, value_read_ne_range hplaced⟩

/-- A range outside the file may be inside the larger one, and then the names are read. -/
theorem value_read_append_of_range {error : RangeError}
    (h : place data.size sections = .error (.range error)) :
    SymbolsGrow (data ++ ext).size (read data order sections mode).value
      (read (data ++ ext) order sections mode).value := by
  obtain ⟨table, holder, strings, hfirst, hlinked, haligned, -⟩ := place_eq_range h
  have hread : (read data order sections mode).value = .error (.range error) := by
    rw [value_read, locate_eq_map, h]
    rfl
  have hlarger := locate_eq_map (data ++ ext) sections
  rw [hread]
  obtain hok | ⟨offset, length, houtside⟩ :=
    place_of_linked (data ++ ext).size hfirst hlinked haligned
  · rw [hok] at hlarger
    cases hgrown : (read (data ++ ext) order sections mode).value with
    | ok symbols => exact .found
    | error cause =>
      obtain ⟨index, -, -, hentry⟩ := (value_read_eq_error_iff (place_eq_ok_iff.1 hok)).1 hgrown
      cases hentry with
      | nameOutOfRange => exact .nameOutOfRange
      | unterminatedName => exact .unterminatedName
  · rw [value_read, hlarger, houtside]
    exact .outside

/-- What becomes of the symbols under the same sections when bytes are appended to the file. -/
theorem value_read_append :
    SymbolsGrow (data ++ ext).size (read data order sections mode).value
      (read (data ++ ext) order sections mode).value := by
  by_cases hrange : ∃ error, place data.size sections = .error (.range error)
  · obtain ⟨error, hplace⟩ := hrange
    exact value_read_append_of_range hplace
  · obtain ⟨hsame, hne⟩ : (read (data ++ ext) order sections mode).value
          = (read data order sections mode).value ∧
        ∀ error, (read data order sections mode).value ≠ .error (.range error) :=
      value_read_append_of_ne_range fun error hplace => hrange ⟨error, hplace⟩
    rw [hsame]
    exact .same hne

end SymbolTable

/-! ## The whole inspection -/

/-- What is known about a file whose table lies inside stays, but for missing names and symbols. -/
theorem grows_of_table_le {mode : LabelMode} (hstride : 64 ≤ header.sectionEntrySize.toNat)
    (hbound : header.sectionOffset.toNat
      + header.sectionCount.toNat * header.sectionEntrySize.toNat ≤ data.size)
    (before after : List SectionHeader)
    (hbefore : before = SectionTable.named data header (SectionTable.entries data header))
    (hafter : after = SectionTable.named (data ++ ext) header
      (SectionTable.entries (data ++ ext) header)) :
    Grows data.size (data ++ ext).size
      (.ok ⟨header, before, (SymbolTable.read data header.order before mode).value⟩)
      (.ok ⟨header, after, (SymbolTable.read (data ++ ext) header.order after mode).value⟩) := by
  rw [SectionTable.entries_append hstride hbound] at hafter
  have hunnamed : after.map SectionHeader.unnamed = before.map SectionHeader.unnamed := by
    rw [hbefore, hafter, SectionTable.map_unnamed_named, SectionTable.map_unnamed_named]
  refine .inspected rfl hunnamed ?_ ?_
  · rw [hbefore, hafter]
    exact SectionTable.named_append SectionTable.name_of_mem_entries
  · dsimp only
    rw [SymbolTable.value_read_of_unnamed hunnamed]
    exact SymbolTable.value_read_append

/-- A file with more bytes behind its end is inspected with an outcome that has grown. -/
theorem inspect_append (data ext : Bytes) (mode : LabelMode) :
    Grows data.size (data ++ ext).size (inspect data mode).value
      (inspect (data ++ ext) mode).value := by
  rw [value_inspect, value_inspect]
  cases hdecode : FileHeader.decode data with
  | error error =>
    obtain ⟨happend, hfinal⟩ | ⟨length, rfl⟩ := FileHeader.decode_error ext hdecode
    · rw [happend]
      exact .header hfinal
    · exact .cutOff
  | ok header =>
    have hheader : FileHeader.decode (data ++ ext) = .ok header :=
      (FileHeader.decode_append (FileHeader.size_le_of_decode hdecode)).trans hdecode
    rw [hheader]
    -- From here on the cases are those of the table, which the header decides with the size.
    simp only [SectionTable.value_read]
    by_cases hzero : header.sectionCount = 0
    · simp only [if_pos hzero]
      exact .inspected rfl rfl (.inl rfl) SymbolTable.value_read_append
    by_cases hnarrow : header.sectionEntrySize.toNat < 64
    · simp only [if_neg hzero, if_pos hnarrow]
      exact .badEntrySize
    simp only [if_neg hzero, if_neg hnarrow]
    have hsize : (data ++ ext).size = data.size + ext.size := Array.size_append
    by_cases hbound : header.sectionOffset.toNat
        + header.sectionCount.toNat * header.sectionEntrySize.toNat ≤ data.size
    · have hlarger : header.sectionOffset.toNat
          + header.sectionCount.toNat * header.sectionEntrySize.toNat ≤ (data ++ ext).size := by
        omega
      simp only [if_pos hbound, if_pos hlarger]
      exact grows_of_table_le (Nat.le_of_not_lt hnarrow) hbound _ _ rfl rfl
    simp only [if_neg hbound]
    by_cases hlarger : header.sectionOffset.toNat
        + header.sectionCount.toNat * header.sectionEntrySize.toNat ≤ (data ++ ext).size
    · simp only [if_pos hlarger]
      exact .completedTable
    · simp only [if_neg hlarger]
      exact .truncatedTable

end ElfScope
