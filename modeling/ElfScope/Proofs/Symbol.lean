import ElfScope.Proofs.StringTable
import ElfScope.Proofs.Symbol.Place

/-!
# Reading the symbol table

An entry of 24 bytes or more is its numbers and its name, and fails by its name only
(`Symbol.decode_eq_map`). The symbols of a file are the entries of its symbol table, one after the
other (`SymbolTable.value_read`).
-/

namespace ElfScope

variable {data : Bytes} {order : ByteOrder} {names : StringTable} {mode : LabelMode}

/-! ## One entry -/

namespace Symbol

/-- The entry as the one at `index` is shown: under that index, with the labels of the mode. -/
def shown (mode : LabelMode) (index : Nat) (symbol : Symbol) : Symbol :=
  { symbol with
    index
    typeLabel := Label.ofType mode symbol.type
    bindingLabel := Label.ofBinding mode symbol.binding
    visibilityLabel := Label.ofVisibility mode symbol.visibility }

/-- The entry whose numbers stand in 24 bytes, under a name. -/
def ofBytes (order : ByteOrder) (mode : LabelMode) (index : Nat) (name : String) (entry : Bytes) :
    Symbol :=
  shown mode index {
    index
    name
    nameOffset := .ofNat (order.numberAt entry 4 0)
    info := .ofNat (order.numberAt entry 1 4)
    other := .ofNat (order.numberAt entry 1 5)
    sectionIndex := .ofNat (order.numberAt entry 2 6)
    value := .ofNat (order.numberAt entry 8 8)
    size := .ofNat (order.numberAt entry 8 16)
    typeLabel := ""
    bindingLabel := ""
    visibilityLabel := "" }

/-- No field of an entry of 24 bytes or more lies outside of it, so only its name may fail. -/
theorem decode_eq_map {index : Nat} {entry : Bytes} (h : 24 ≤ entry.size) :
    decode order names mode index entry =
      ((names.text (.ofNat (order.numberAt entry 4 0))).mapError
        (nameError index (.ofNat (order.numberAt entry 4 0)))).map
        fun name => ofBytes order mode index name entry := by
  simp (disch := simp; omega) only [decode, FieldReader.u8_eq, FieldReader.u16_eq,
    FieldReader.u32_eq, FieldReader.u64_eq]
  change Except.bind (((names.text (.ofNat (order.numberAt entry 4 0))).mapError _)) _ = _
  cases names.text (.ofNat (order.numberAt entry 4 0)) <;> rfl

/-- An encoded symbol has 24 bytes. -/
@[simp]
theorem size_encode (order : ByteOrder) (symbol : Symbol) : (symbol.encode order).size = 24 := by
  simp [encode]

/-- The numbers of an entry are read back as they were written. -/
theorem ofBytes_of_holds {symbol : Symbol} {index : Nat} {entry : Bytes}
    (h : entry.Holds 0 (symbol.encode order)) :
    ofBytes order mode index symbol.name entry = symbol.shown mode index := by
  simp only [encode, Bytes.holds_append, Array.size_append, ByteOrder.size_encode, Nat.reduceAdd,
    Nat.zero_add] at h
  obtain ⟨⟨⟨⟨⟨h0, h4⟩, h5⟩, h6⟩, h8⟩, h16⟩ := h
  simp only [ofBytes, shown, ByteOrder.u32_of_holds h0, ByteOrder.u8_of_holds h4,
    ByteOrder.u8_of_holds h5, ByteOrder.u16_of_holds h6, ByteOrder.u64_of_holds h8,
    ByteOrder.u64_of_holds h16]
  rfl

/-- The numbers in 24 bytes are written back as they stand there. -/
theorem holds_encode_ofBytes {index : Nat} {name : String} {entry : Bytes} (h : 24 ≤ entry.size) :
    entry.Holds 0 ((ofBytes order mode index name entry).encode order) := by
  simp only [encode, Bytes.holds_append, Array.size_append, ByteOrder.size_encode, Nat.reduceAdd,
    Nat.zero_add]
  refine ⟨⟨⟨⟨⟨?_, ?_⟩, ?_⟩, ?_⟩, ?_⟩, ?_⟩
  case refine_1 => exact ByteOrder.holds_u32 (by omega)
  case refine_2 | refine_3 => exact ByteOrder.holds_u8 (by omega)
  case refine_4 => exact ByteOrder.holds_u16 (by omega)
  all_goals exact ByteOrder.holds_u64 (by omega)

/-- An entry whose name can be resolved is read back as it was written. -/
theorem decode_of_holds {symbol : Symbol} {index : Nat} {entry : Bytes}
    (h : entry.Holds 0 (symbol.encode order))
    (hname : names.text symbol.nameOffset = .ok symbol.name) :
    decode order names mode index entry = .ok (symbol.shown mode index) := by
  have hsize : 24 ≤ entry.size := by simpa using h.1
  have hoffset : UInt32.ofNat (order.numberAt entry 4 0) = symbol.nameOffset := by
    simp only [encode, Bytes.holds_append] at h
    exact ByteOrder.u32_of_holds h.1.1.1.1.1
  rw [decode_eq_map hsize, hoffset, hname]
  exact congrArg _ (ofBytes_of_holds h)

end Symbol

/-! ## The table -/

namespace SymbolTable

/-- The symbols are the entries of the table, one after the other. -/
theorem value_read (data : Bytes) (order : ByteOrder) (sections : List SectionHeader)
    (mode : LabelMode) :
    (read data order sections mode).value =
      match locate data sections with
      | .error error => .error error
      | .ok source => (readEntries order source.names mode 0
          (Bytes.records Symbol.recordSize source.count source.entries)).value := by
  rw [read]
  cases locate data sections <;> rfl

/-- Names of sections play no part in reading the symbols. -/
theorem read_map_unnamed (data : Bytes) (order : ByteOrder) (sections : List SectionHeader)
    (mode : LabelMode) :
    read data order (sections.map SectionHeader.unnamed) mode = read data order sections mode := by
  rw [read, read, locate_map_unnamed]

/-- Sections that differ in their names only have the same symbols. -/
theorem value_read_of_unnamed {sections others : List SectionHeader}
    (h : sections.map SectionHeader.unnamed = others.map SectionHeader.unnamed) :
    (read data order sections mode).value = (read data order others mode).value := by
  rw [← read_map_unnamed data order sections, h, read_map_unnamed]

/-- The 24 bytes of entry `index` of a symbol table. -/
def entryBytes (data : Bytes) (holder : SectionHeader) (index : Nat) : Bytes :=
  data.part (holder.offset.toNat + 24 * index) 24

/-- The records of a symbol table are its entries. -/
theorem records_body (data : Bytes) (holder : SectionHeader) :
    Bytes.records 24 (holder.size.toNat / 24) (holder.body data)
      = (List.range (holder.size.toNat / 24)).map (entryBytes data holder) := by
  rw [SectionHeader.body, Bytes.records_part (Nat.div_mul_le_self _ _)]
  refine List.map_congr_left fun index _ => ?_
  rw [entryBytes, Nat.mul_comm]

/-- Entry `index` of a symbol table inside the file lies inside the file. -/
theorem entry_le {holder : SectionHeader} (h : holder.Fits data.size) {index : Nat}
    (hindex : index < holder.size.toNat / 24) :
    holder.offset.toNat + 24 * index + 24 ≤ data.size := by
  have hfits : holder.offset.toNat + holder.size.toNat ≤ data.size := h
  omega

/-- Each entry of a symbol table inside the file has 24 bytes. -/
theorem size_entryBytes {holder : SectionHeader} (h : holder.Fits data.size) {index : Nat}
    (hindex : index < holder.size.toNat / 24) : (entryBytes data holder index).size = 24 :=
  Bytes.size_part (entry_le h hindex)

end SymbolTable

end ElfScope
