import ElfScope.Proofs.Symbol.Outcome
import ElfScope.Proofs.Text.Column

/-!
# The labels of symbols

Labels are solid in either style. The full style labels every type, every binding and every
visibility in its own way (`Symbol.eq_of_labels`), and the symbols that are read carry the labels
of their own numbers (`SymbolTable.labelled_of_read`).
-/

namespace ElfScope

open Text (Solid solid_decimal)

namespace Label

/-- A type label has no blanks and no newlines. -/
theorem solid_ofType (mode : LabelMode) (type : UInt8) : Solid (ofType mode type) := by
  unfold ofType
  split
  case h_9 => exact solid_decimal _
  all_goals decide

/-- A binding label has no blanks and no newlines. -/
theorem solid_ofBinding (mode : LabelMode) (binding : UInt8) : Solid (ofBinding mode binding) := by
  unfold ofBinding
  split
  case h_6 => exact solid_decimal _
  all_goals decide

/-- A visibility label has no blanks and no newlines. -/
theorem solid_ofVisibility (mode : LabelMode) (visibility : UInt8) :
    Solid (ofVisibility mode visibility) := by
  unfold ofVisibility
  split <;> decide

/-- Labels that differ for all numbers below a bound tell the bytes below it apart. -/
theorem eq_of_label_eq {label : UInt8 → String} {bound : Nat}
    (hlabel : ∀ first < bound, ∀ second < bound,
      label (.ofNat first) = label (.ofNat second) → first = second)
    {first second : UInt8} (hfirst : first.toNat < bound) (hsecond : second.toNat < bound)
    (h : label first = label second) : first = second := by
  have hnumbers : first.toNat = second.toNat :=
    hlabel first.toNat hfirst second.toNat hsecond (by simpa using h)
  exact UInt8.toNat_inj.1 hnumbers

/-- In the full style, no two types have the same label. -/
theorem ofType_full_inj : ∀ first < 16, ∀ second < 16,
    ofType .full (.ofNat first) = ofType .full (.ofNat second) → first = second := by
  decide +kernel

/-- In the full style, no two bindings have the same label. -/
theorem ofBinding_full_inj : ∀ first < 16, ∀ second < 16,
    ofBinding .full (.ofNat first) = ofBinding .full (.ofNat second) → first = second := by
  decide +kernel

/-- In the full style, no two visibilities have the same label. -/
theorem ofVisibility_full_inj : ∀ first < 4, ∀ second < 4,
    ofVisibility .full (.ofNat first) = ofVisibility .full (.ofNat second) → first = second := by
  decide +kernel

end Label

namespace Symbol

/-- There are sixteen types. -/
theorem type_lt (symbol : Symbol) : symbol.type.toNat < 16 := by
  rw [type, UInt8.toNat_and]
  exact Nat.lt_succ_of_le Nat.and_le_right

/-- There are sixteen bindings. -/
theorem binding_lt (symbol : Symbol) : symbol.binding.toNat < 16 := by
  have hinfo := symbol.info.toNat_lt
  have hbinding : symbol.binding.toNat = symbol.info.toNat / 16 := by
    rw [binding, UInt8.toNat_shiftRight]
    exact Nat.shiftRight_eq_div_pow _ 4
  omega

/-- There are four visibilities. -/
theorem visibility_lt (symbol : Symbol) : symbol.visibility.toNat < 4 := by
  rw [visibility, UInt8.toNat_and]
  exact Nat.lt_succ_of_le Nat.and_le_right

/-- The labels of a symbol are those of its own type, binding and visibility. -/
structure Labelled (mode : LabelMode) (symbol : Symbol) : Prop where
  type : symbol.typeLabel = Label.ofType mode symbol.type
  binding : symbol.bindingLabel = Label.ofBinding mode symbol.binding
  visibility : symbol.visibilityLabel = Label.ofVisibility mode symbol.visibility

/-- In the full style, labels settle what they label. -/
theorem eq_of_labels {first second : Symbol} (hfirst : first.Labelled .full)
    (hsecond : second.Labelled .full) (htype : first.typeLabel = second.typeLabel)
    (hbinding : first.bindingLabel = second.bindingLabel)
    (hvisibility : first.visibilityLabel = second.visibilityLabel) :
    first.type = second.type ∧ first.binding = second.binding ∧
      first.visibility = second.visibility := by
  rw [hfirst.type, hsecond.type] at htype
  rw [hfirst.binding, hsecond.binding] at hbinding
  rw [hfirst.visibility, hsecond.visibility] at hvisibility
  exact ⟨Label.eq_of_label_eq Label.ofType_full_inj first.type_lt second.type_lt htype,
    Label.eq_of_label_eq Label.ofBinding_full_inj first.binding_lt second.binding_lt hbinding,
    Label.eq_of_label_eq Label.ofVisibility_full_inj first.visibility_lt second.visibility_lt
      hvisibility⟩

end Symbol

/-- Symbols that are read carry their own labels. -/
theorem SymbolTable.labelled_of_read {data : Bytes} {order : ByteOrder}
    {sections : List SectionHeader} {mode : LabelMode} {found : List Symbol}
    (h : (read data order sections mode).value = .ok found) {symbol : Symbol}
    (hmem : symbol ∈ found) : symbol.Labelled mode := by
  obtain ⟨index, hsymbol⟩ := List.getElem?_of_mem hmem
  cases value_read_eq_iff.1 h with
  | symbols _ _ hentries =>
    cases hentries index symbol hsymbol
    exact ⟨rfl, rfl, rfl⟩

end ElfScope
