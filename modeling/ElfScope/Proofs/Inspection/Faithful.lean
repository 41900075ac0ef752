import ElfScope.Proofs.Inspection.RoundTrip

/-!
# What is read is written back

Whatever is accepted, nothing of it is lost: the bytes of the header, of each section header and of
each symbol are the ones that writing them gives (`inspect_faithful`).
-/

namespace ElfScope

variable {data : Bytes} {order : ByteOrder} {mode : LabelMode}

/-! ## Sections and symbols -/

/-- The bytes of an entry of the section header table are those of the section header that is read
from it, under any name. -/
theorem SectionTable.holds_of_read {header : FileHeader} {sections : List SectionHeader}
    {index : Nat} {entry : SectionHeader} (h : (read data header).value = .ok sections)
    (hentry : sections[index]? = some entry) :
    data.Holds (header.sectionOffset.toNat + index * header.sectionEntrySize.toNat)
      (entry.encode header.order) := by
  rw [value_read] at h
  split at h
  case isTrue =>
    cases h
    cases hentry
  split at h
  case isTrue => cases h
  case isFalse hstride =>
    split at h
    case isFalse => cases h
    case isTrue hbound =>
      cases h
      -- Names aside, the entry is the one whose numbers stand in the table.
      have hunnamed : (entries data header)[index]? = some entry.unnamed := by
        rw [← map_unnamed_entries data header, ← map_unnamed_named data header, List.getElem?_map,
          hentry]
        rfl
      obtain ⟨hlt, -⟩ := List.getElem?_eq_some_iff.1 hunnamed
      rw [length_entries] at hlt
      rw [getElem?_entries hlt] at hunnamed
      have hle := Nat.mul_le_mul_right header.sectionEntrySize.toNat (Nat.succ_le_of_lt hlt)
      rw [Nat.succ_mul] at hle
      rw [← SectionHeader.encode_unnamed, ← Option.some.inj hunnamed]
      exact SectionHeader.holds_encode_ofBytes (by omega)

/-- The bytes of an entry of the symbol table are those of the symbol that is read from it. -/
theorem SymbolTable.EntryReads.holds {holder strings : SectionHeader} {index : Nat}
    {symbol : Symbol} (hholder : holder.Fits data.size) (hindex : index < holder.size.toNat / 24)
    (h : EntryReads data order mode holder strings index (.ok symbol)) :
    data.Holds (holder.offset.toNat + 24 * index) (symbol.encode order) := by
  have hsize : (entryBytes data holder index).size = 24 := size_entryBytes hholder hindex
  cases h with
  | named hstop =>
    exact (Symbol.holds_encode_ofBytes (Nat.le_of_eq hsize.symm)).of_part
      (entry_le hholder hindex)

/-- The type and the binding make up the info byte. -/
theorem Symbol.binding_add_type (symbol : Symbol) :
    16 * symbol.binding.toNat + symbol.type.toNat = symbol.info.toNat := by
  have hbinding : symbol.binding.toNat = symbol.info.toNat / 16 := by
    rw [binding, UInt8.toNat_shiftRight]
    exact Nat.shiftRight_eq_div_pow _ 4
  have htype : symbol.type.toNat = symbol.info.toNat % 16 := by
    rw [type, UInt8.toNat_and]
    exact Nat.and_two_pow_sub_one_eq_mod _ 4
  omega

/-! ## The whole inspection -/

/-- The bytes `content` are all `length` bytes from `offset` on. -/
def Bytes.Spans (data : Bytes) (offset length : Nat) (content : Bytes) : Prop :=
  content.size = length ∧ data.Holds offset content

/-- What is known about a file is what stands in it: each record that was read is, written back, all
of the bytes that it was read from.

The header is the first 64 bytes (`header`), a section header the first 64 bytes of its entry of the
table (`sections`), and a symbol 24 bytes of the first symbol table (`symbols`). The type and the
binding of a symbol are all of its info byte (`info`). -/
structure Inspection.Faithful (inspection : Inspection) (data : Bytes) : Prop where
  header : data.Spans 0 64 inspection.header.encode
  sections : ∀ index entry, inspection.sections[index]? = some entry →
    data.Spans (inspection.header.sectionOffset.toNat
      + index * inspection.header.sectionEntrySize.toNat) 64 (entry.encode inspection.header.order)
  symbols : ∀ found, inspection.symbols = .ok found →
    ∃ table holder, SymbolTable.IsFirst inspection.sections table holder ∧
      ∀ index symbol, found[index]? = some symbol →
        data.Spans (holder.offset.toNat + 24 * index) 24
          (symbol.encode inspection.header.order)
  info : ∀ found, inspection.symbols = .ok found → ∀ symbol ∈ found,
    16 * symbol.binding.toNat + symbol.type.toNat = symbol.info.toNat

/-- Nothing that is accepted is misread or lost. -/
theorem inspect_faithful {inspection : Inspection}
    (h : (inspect data mode).value = .ok inspection) : inspection.Faithful data := by
  rw [value_inspect] at h
  cases hdecode : FileHeader.decode data with
  | error error =>
    rw [hdecode] at h
    cases h
  | ok header =>
    rw [hdecode] at h
    dsimp only at h
    cases hread : (SectionTable.read data header).value with
    | error error =>
      rw [hread] at h
      cases h
    | ok sections =>
      rw [hread] at h
      cases h
      constructor
      case header => exact ⟨header.size_encode, FileHeader.holds_encode_of_decode hdecode⟩
      case sections =>
        intro index entry hentry
        exact ⟨entry.size_encode _, SectionTable.holds_of_read hread hentry⟩
      case symbols =>
        intro found hfound
        cases SymbolTable.value_read_eq_iff.1 hfound with
        | @symbols table holder strings _ hplaced hlength hentries =>
          refine ⟨table, holder, hplaced.first, fun index symbol hsymbol => ?_⟩
          obtain ⟨hlt, -⟩ := List.getElem?_eq_some_iff.1 hsymbol
          have hentry := hentries index symbol hsymbol
          exact ⟨symbol.size_encode _, hentry.holds hplaced.holder_fits (hlength ▸ hlt)⟩
      case info => exact fun found _ symbol _ => symbol.binding_add_type

/-! ## The sample, written back -/

/-- A file that holds a header and section headers is accepted with them. -/
theorem Encodes.value_inspect {header : FileHeader} {sections : List SectionHeader}
    (h : Encodes data header sections) (mode : LabelMode) :
    (inspect data mode).value = .ok ⟨header,
      SectionTable.named data header (sections.map SectionHeader.unnamed),
      (SymbolTable.read data header.order sections mode).value⟩ := by
  have hsymbols : (SymbolTable.read data header.order
      (SectionTable.named data header (sections.map SectionHeader.unnamed)) mode).value
      = (SymbolTable.read data header.order sections mode).value :=
    SymbolTable.value_read_of_unnamed (by simp)
  rw [ElfScope.value_inspect, h.decode_eq]
  simp only [h.value_read, hsymbols]

/-- A file that holds a header and section headers is accepted, with the symbols of the sections. -/
theorem Encodes.accepted {header : FileHeader} {sections : List SectionHeader}
    (h : Encodes data header sections) (mode : LabelMode) : ∃ inspection,
      (inspect data mode).value = .ok inspection ∧
      inspection.symbols = (SymbolTable.read data header.order sections mode).value :=
  ⟨_, h.value_inspect mode, rfl⟩

namespace Sample

/-- The symbol of a file that is laid out like the sample is read. -/
theorem value_read_layout {entry : Symbol} {content : Bytes} (hsize : content.size = 9)
    (hname : content.Names entry.nameOffset.toNat entry.name) (mode : LabelMode) :
    (SymbolTable.read (layout entry content) header.order sections mode).value
      = .ok [entry.shown mode 0] := by
  apply SymbolTable.value_read_of_holds_one (placed_layout hsize) rfl (holds_layout hsize).2.1
  rwa [body_layout hsize]

/-- The symbol table of the sample holds its one symbol. -/
theorem value_read (mode : LabelMode) :
    (SymbolTable.read image header.order sections mode).value = .ok [symbol.shown mode 0] :=
  value_read_layout rfl (by decide) mode

end Sample

/-- The bytes of the sample are those of what is read from it. -/
theorem inspect_faithful_sample : ∃ inspection,
    (inspect Sample.image .full).value = .ok inspection ∧
      inspection.symbols = .ok [Sample.symbol] ∧ inspection.Faithful Sample.image := by
  obtain ⟨inspection, hvalue, hsymbols⟩ := Sample.encodes.accepted .full
  exact ⟨inspection, hvalue, hsymbols.trans (Sample.value_read .full), inspect_faithful hvalue⟩

end ElfScope
