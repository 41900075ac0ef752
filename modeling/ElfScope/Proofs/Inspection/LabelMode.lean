import ElfScope.Proofs.Inspection.Faithful
import ElfScope.Proofs.Symbol.Label

/-!
# What the style of the labels changes

To read symbols in one style is to read them in another and to label them anew
(`SymbolTable.value_read_relabelled`): the style changes the labels and nothing else. Full labels
settle the numbers that compatible labels are made from, so entries that look the same in the full
style look the same in the compatible one (`labelModes_agree`).
-/

namespace ElfScope

/-! ## One entry -/

namespace Symbol

/-- The symbol with the labels of a style. -/
def relabelled (mode : LabelMode) (symbol : Symbol) : Symbol :=
  symbol.shown mode symbol.index

/-- The symbol without its labels. -/
def unlabelled (symbol : Symbol) : Symbol :=
  { symbol with typeLabel := "", bindingLabel := "", visibilityLabel := "" }

/-- Without its labels a symbol is the same, whatever labels it was given. -/
@[simp]
theorem unlabelled_comp_relabelled (mode : LabelMode) :
    unlabelled ∘ relabelled mode = unlabelled := rfl

/-- Whether an entry can be read does not depend on the style, and the style is seen in the labels
only. -/
theorem decode_relabelled {order : ByteOrder} {names : StringTable} {index : Nat} {entry : Bytes}
    (h : 24 ≤ entry.size) (mode other : LabelMode) :
    decode order names mode index entry
      = (decode order names other index entry).map (relabelled mode) := by
  rw [decode_eq_map h, decode_eq_map h]
  cases names.text (.ofNat (order.numberAt entry 4 0)) <;> rfl

end Symbol

/-! ## All entries -/

namespace SymbolTable

/-- To read symbols in one style is to read them in another and to label them anew. -/
theorem value_read_relabelled (data : Bytes) (order : ByteOrder) (sections : List SectionHeader)
    (mode other : LabelMode) :
    (read data order sections mode).value
      = (read data order sections other).value.map (List.map (Symbol.relabelled mode)) := by
  cases hplace : place data.size sections with
  | error error =>
    rw [value_read, value_read, locate_eq_map, hplace]
    rfl
  | ok found =>
    obtain ⟨table, holder, strings⟩ := found
    have hplaced := place_eq_ok_iff.1 hplace
    have houtcomes : outcomes data order mode holder strings
        = (outcomes data order other holder strings).map
            (Except.map (Symbol.relabelled mode)) := by
      rw [outcomes, outcomes, List.map_map]
      refine List.map_congr_left fun index hindex => ?_
      have hentry := size_entryBytes hplaced.holder_fits (List.mem_range.1 hindex)
      exact Symbol.decode_relabelled (Nat.le_of_eq hentry.symm) mode other
    rw [value_read_of_placed hplaced, value_read_of_placed hplaced, houtcomes, mapM_id_map]

/-- Without the labels, what becomes of the symbols does not depend on the style. -/
theorem value_read_unlabelled (data : Bytes) (order : ByteOrder) (sections : List SectionHeader)
    (mode other : LabelMode) :
    (read data order sections mode).value.map (List.map Symbol.unlabelled)
      = (read data order sections other).value.map (List.map Symbol.unlabelled) := by
  rw [value_read_relabelled data order sections mode other]
  cases (read data order sections other).value with
  | error error => rfl
  | ok symbols =>
    simp only [Except.map, List.map_map, Symbol.unlabelled_comp_relabelled]

/-- An entry of a symbol table as the two styles show it. -/
inductive ShownBoth : Symbol → Symbol → Prop where
  | entry {data : Bytes} {order : ByteOrder} {sections : List SectionHeader}
      {compats fulls : List Symbol} {index : Nat} {compat full : Symbol}
      (hcompats : (read data order sections .compat).value = .ok compats)
      (hfulls : (read data order sections .full).value = .ok fulls)
      (hcompat : compats[index]? = some compat) (hfull : fulls[index]? = some full) :
      ShownBoth compat full

/-- The compatible labels are made from the numbers that the full ones label. -/
theorem ShownBoth.labelled {compat full : Symbol} (h : ShownBoth compat full) :
    full.Labelled .full ∧ compat = full.relabelled .compat := by
  cases h with
  | @entry data order sections compats fulls index _ _ hcompats hfulls hcompat hfull =>
    rw [value_read_relabelled data order sections .compat .full, hfulls] at hcompats
    cases hcompats
    rw [List.getElem?_map, hfull] at hcompat
    cases hcompat
    exact ⟨labelled_of_read hfulls (List.mem_of_getElem? hfull), rfl⟩

variable {compat full compat' full' : Symbol}

/-- Each full label settles the compatible one in its place. -/
theorem ShownBoth.refines (h : ShownBoth compat full) (h' : ShownBoth compat' full') :
    (full.typeLabel = full'.typeLabel → compat.typeLabel = compat'.typeLabel) ∧
    (full.bindingLabel = full'.bindingLabel → compat.bindingLabel = compat'.bindingLabel) ∧
    (full.visibilityLabel = full'.visibilityLabel →
      compat.visibilityLabel = compat'.visibilityLabel) := by
  obtain ⟨hfull, rfl⟩ := h.labelled
  obtain ⟨hfull', rfl⟩ := h'.labelled
  refine ⟨fun htype => ?_, fun hbinding => ?_, fun hvisibility => ?_⟩
  · rw [hfull.type, hfull'.type] at htype
    exact congrArg (Label.ofType .compat)
      (Label.eq_of_label_eq Label.ofType_full_inj full.type_lt full'.type_lt htype)
  · rw [hfull.binding, hfull'.binding] at hbinding
    exact congrArg (Label.ofBinding .compat)
      (Label.eq_of_label_eq Label.ofBinding_full_inj full.binding_lt full'.binding_lt hbinding)
  · rw [hfull.visibility, hfull'.visibility] at hvisibility
    exact congrArg (Label.ofVisibility .compat)
      (Label.eq_of_label_eq Label.ofVisibility_full_inj full.visibility_lt full'.visibility_lt
        hvisibility)

end SymbolTable

/-! ## The whole inspection -/

/-- The inspection without the labels of its symbols. -/
def Inspection.unlabelled (inspection : Inspection) : Inspection :=
  { inspection with symbols := inspection.symbols.map (List.map Symbol.unlabelled) }

/-- Up to the labels, an inspection does not depend on their style. -/
theorem inspect_unlabelled (data : Bytes) (mode other : LabelMode) :
    (inspect data mode).value.map Inspection.unlabelled
      = (inspect data other).value.map Inspection.unlabelled := by
  rw [value_inspect, value_inspect]
  cases FileHeader.decode data with
  | error error => rfl
  | ok header =>
    dsimp only
    cases (SectionTable.read data header).value with
    | error error => rfl
    | ok sections =>
      have hsymbols := SymbolTable.value_read_unlabelled data header.order sections mode other
      exact congrArg (Except.ok ∘ Inspection.mk header sections) hsymbols

/-- The style of the labels changes the labels and nothing else. Symbols are refused for the same
reason in both styles or read in both, with the same entries but for the labels; full labels that
are equal stand for compatible labels that are; and a file is inspected with the same outcome but
for the labels. -/
theorem labelModes_agree :
    (∀ (data : Bytes) (order : ByteOrder) (sections : List SectionHeader),
      (SymbolTable.read data order sections .compat).value.map (List.map Symbol.unlabelled)
        = (SymbolTable.read data order sections .full).value.map (List.map Symbol.unlabelled)) ∧
    (∀ compat full compat' full' : Symbol,
      SymbolTable.ShownBoth compat full → SymbolTable.ShownBoth compat' full' →
        (full.typeLabel = full'.typeLabel → compat.typeLabel = compat'.typeLabel) ∧
        (full.bindingLabel = full'.bindingLabel → compat.bindingLabel = compat'.bindingLabel) ∧
        (full.visibilityLabel = full'.visibilityLabel →
          compat.visibilityLabel = compat'.visibilityLabel)) ∧
    ∀ data : Bytes, (inspect data .compat).value.map Inspection.unlabelled
      = (inspect data .full).value.map Inspection.unlabelled := by
  refine ⟨fun data order sections => ?_, fun compat full compat' full' h h' => h.refines h',
    fun data => ?_⟩
  · exact SymbolTable.value_read_unlabelled data order sections .compat .full
  · exact inspect_unlabelled data .compat .full

/-! ## Entries that look the same -/

/-- An entry at the end of the sample's names that shares its labels, but not its other byte. -/
def Sample.lookalike : Symbol :=
  { Sample.symbol with name := "ße", nameOffset := 5, other := 0xff }

/-- A symbol of the sample is shown in both styles under the same name. -/
theorem Sample.shownBoth {entry : Symbol} (hindex : entry.index = 0)
    (hfull : entry.relabelled .full = entry)
    (hname : Sample.names.Names entry.nameOffset.toNat entry.name) :
    SymbolTable.ShownBoth (entry.relabelled .compat) entry := by
  have hread (mode : LabelMode) : (SymbolTable.read (layout entry names) header.order sections
      mode).value = .ok [entry.relabelled mode] := by
    rw [value_read_layout rfl hname, Symbol.relabelled, hindex]
  have hfulls := hread .full
  rw [hfull] at hfulls
  exact .entry (hread .compat) hfulls List.getElem?_cons_zero List.getElem?_cons_zero

/-- Two protected symbols, both of which are internal in the compatible style. -/
theorem labelModes_lookalike :
    SymbolTable.ShownBoth (Sample.symbol.relabelled .compat) Sample.symbol ∧
    SymbolTable.ShownBoth (Sample.lookalike.relabelled .compat) Sample.lookalike ∧
    Sample.symbol.other ≠ Sample.lookalike.other ∧
    Sample.symbol.visibilityLabel = Sample.lookalike.visibilityLabel ∧
    (Sample.symbol.relabelled .compat).visibilityLabel = "INTERNAL" ∧
    (Sample.lookalike.relabelled .compat).visibilityLabel = "INTERNAL" := by
  have hsymbol : SymbolTable.ShownBoth (Sample.symbol.relabelled .compat) Sample.symbol :=
    Sample.shownBoth rfl rfl (by decide)
  have hother : SymbolTable.ShownBoth (Sample.lookalike.relabelled .compat) Sample.lookalike :=
    Sample.shownBoth rfl rfl (by decide)
  have hsame := (labelModes_agree.2.1 _ _ _ _ hsymbol hother).2.2 rfl
  exact ⟨hsymbol, hother, by decide, rfl, rfl, hsame.symm⟩

end ElfScope
