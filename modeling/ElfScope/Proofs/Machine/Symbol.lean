import ElfScope.Proofs.Machine.Section
import ElfScope.Proofs.Symbol

/-!
# The symbol table on a machine

The symbols, read by operations that may crash. The link is compared with the number of sections
before it is followed, and the entries are pieces of the table (`readSymbols_eq`).
-/

namespace ElfScope.Machine

open Outcome

/-- The entry at `index`, with its name from a table. -/
def decodeSymbol (order : ByteOrder) (table : Bytes) (mode : LabelMode) (index : Nat)
    (entry : Bytes) : Outcome SymbolError Symbol := do
  let reader : FieldReader := ⟨entry, order⟩
  let nameOffset ← (u32 reader 0).mapError .range
  let info ← (u8 reader 4).mapError .range
  let other ← (u8 reader 5).mapError .range
  let name ← (string table nameOffset).mapError (Symbol.nameError index nameOffset)
  return {
    index
    name := Utf8.decodeLossy name
    nameOffset
    info
    other
    sectionIndex := ← (u16 reader 6).mapError .range
    value := ← (u64 reader 8).mapError .range
    size := ← (u64 reader 16).mapError .range
    typeLabel := Label.ofType mode (info &&& 0xf)
    bindingLabel := Label.ofBinding mode (info >>> 4)
    visibilityLabel := Label.ofVisibility mode (other &&& 0x3) }

/-- The symbols of the entries, the first of them at `index`. -/
def readEntries (order : ByteOrder) (table : Bytes) (mode : LabelMode) :
    Nat → List Bytes → Outcome SymbolError (List Symbol)
  | _, [] => return []
  | index, entry :: rest => do
    let symbol ← decodeSymbol order table mode index entry
    let symbols ← readEntries order table mode (index + 1) rest
    return symbol :: symbols

/-- The symbols of a file. -/
def readSymbols (data : Bytes) (header : FileHeader) (sections : List SectionHeader)
    (mode : LabelMode) : Outcome SymbolError (List Symbol) :=
  match SymbolTable.find? sections with
  | none => refused .noSymbolTable
  | some (table, holder) =>
    let link := holder.link.toNat
    if link ≠ 0 ∧ link < sections.length then do
      let strings ← element sections link
      if (← remainder holder.size 24) ≠ 0 then refused (.misalignedTable table holder.size)
      else
        let entries ← (contents holder data).mapError .range
        let names ← (contents strings data).mapError .range
        let entries ← pieces 24 entries
        readEntries header.order names mode 0 entries
    else refused (.badStringTableLink table holder.link sections.length)

/-- A value and an error are changed in any order in front of what follows. -/
theorem mapError_map_bind {ε δ α β γ : Type} (f : ε → δ) (g : α → β) (result : Except ε α)
    (next : β → Except δ γ) :
    ((result.map g).mapError f >>= next) = (result.mapError f >>= fun value => next (g value)) := by
  cases result <;> rfl

/-- A symbol is decoded without a crash. -/
theorem decodeSymbol_eq {entry : Bytes} (h : entry.size < 2 ^ 63) (order : ByteOrder)
    (table : Bytes) (mode : LabelMode) (index : Nat) :
    decodeSymbol order table mode index entry
      = settled (Symbol.decode order (.ofBytes table) mode index entry) := by
  have hreader : (FieldReader.mk entry order).record.size < 2 ^ 63 := h
  simp only [decodeSymbol, Symbol.decode, StringTable.text, u8_eq hreader, u16_eq hreader,
    u32_eq hreader, u64_eq hreader, string_eq, mapError_settled, pure_eq, settled_bind,
    mapError_map_bind]
  rfl

/-- The entries of a symbol table are read without a crash. -/
theorem readEntries_eq {entries : List Bytes} (h : ∀ entry ∈ entries, entry.size < 2 ^ 63)
    (order : ByteOrder) (table : Bytes) (mode : LabelMode) (index : Nat) :
    readEntries order table mode index entries
      = settled (SymbolTable.readEntries order (.ofBytes table) mode index entries).value := by
  induction entries generalizing index with
  | nil => rfl
  | cons entry rest ih =>
    have hrest := ih (fun other hmem => h other (by simp [hmem])) (index + 1)
    rw [readEntries, SymbolTable.readEntries, decodeSymbol_eq (h entry (by simp)), hrest]
    cases Symbol.decode order (.ofBytes table) mode index entry with
    | error error => rfl
    | ok symbol =>
      simp only [settled_ok_bind, Traced.value_bind, Traced.value_map]
      cases (SymbolTable.readEntries order (.ofBytes table) mode (index + 1) rest).value <;> rfl

/-- The entries are the pieces of a table, which are no larger than the table. -/
theorem readPieces_eq {table : Bytes} (h : table.size < 2 ^ 63) (order : ByteOrder)
    (names : Bytes) (mode : LabelMode) :
    (pieces 24 table >>= readEntries order names mode 0)
      = settled (SymbolTable.readEntries order (.ofBytes names) mode 0
          (Bytes.records 24 (table.size / 24) table)).value := by
  rw [pieces_eq (by decide), settled_ok_bind]
  refine readEntries_eq (fun entry hmem => ?_) order names mode 0
  have hle := Bytes.size_le_of_mem_records hmem
  omega

/-- The symbols are read without a crash. -/
theorem readSymbols_eq {data : Bytes} (h : data.size < 2 ^ 63) (header : FileHeader)
    (sections : List SectionHeader) (mode : LabelMode) :
    readSymbols data header sections mode
      = settled (SymbolTable.read data header.order sections mode).value := by
  rw [readSymbols, SymbolTable.value_read, SymbolTable.locate]
  cases SymbolTable.find? sections with
  | none => rfl
  | some found =>
    obtain ⟨table, holder⟩ := found
    dsimp only
    cases hlinked : SymbolTable.linked? sections holder.link with
    | none =>
      have hnone := SymbolTable.linked?_eq_none_iff.1 hlinked
      rw [if_neg (by omega)]
      rfl
    | some strings =>
      obtain ⟨hne, hget⟩ := SymbolTable.linked?_eq_some_iff.1 hlinked
      have hlt := (List.getElem?_eq_some_iff.1 hget).1
      have hrest : (remainder holder.size 24 : Outcome SymbolError UInt64)
          = settled (.ok (holder.size % 24)) := remainder_eq (by decide)
      have haligned : holder.size % 24 ≠ 0 ↔ holder.size.toNat % 24 ≠ 0 := by
        rw [ne_eq, ← UInt64.toNat_inj, UInt64.toNat_mod]
        rfl
      rw [if_pos ⟨hne, hlt⟩, element_eq hget, settled_ok_bind, hrest, settled_ok_bind,
        contents_eq h, contents_eq h]
      dsimp only
      rw [Symbol.recordSize]
      by_cases hmod : holder.size.toNat % 24 ≠ 0
      · rw [if_pos hmod, if_pos (haligned.2 hmod)]
        rfl
      rw [if_neg hmod, if_neg (mt haligned.1 hmod)]
      cases hentries : holder.contents data with
      | error error => rfl
      | ok entries =>
        have hsize : entries.size = holder.size.toNat := Bytes.size_of_slice hentries
        have hle := (Bytes.slice_eq_ok_iff.1 hentries).1
        cases strings.contents data with
        | error error => rfl
        | ok names =>
          rw [mapError_settled_ok, settled_ok_bind, mapError_settled_ok, settled_ok_bind,
            readPieces_eq (by omega), hsize]
          rfl

end ElfScope.Machine
