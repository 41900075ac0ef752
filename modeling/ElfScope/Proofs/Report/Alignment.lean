import ElfScope.Proofs.Report.Symbol

/-!
# Columns under their heads

A row is its cells with a blank between them, and a cell that is wider than its column pushes the
cells behind it to the right. The labels of types and bindings fit their columns in either style,
and so do the compatible ones of visibilities. So the columns of the symbol report line up with
their heads exactly if the numbers in front of them are small and, for the name, no full label of a
visibility is too wide (`linesUp_iff`). One is (`protected_shifts_name`).
-/

namespace ElfScope

/-! ## How wide labels are -/

namespace Label

/-- A type label has at most seven characters. -/
theorem length_ofType_le (mode : LabelMode) (type : UInt8) : (ofType mode type).length ≤ 7 := by
  have hdecimal : (Text.decimal type.toNat).length ≤ 7 :=
    (Text.length_decimal_le_iff (by decide)).2 (Nat.lt_trans type.toNat_lt (by decide))
  unfold ofType
  split
  case h_9 => exact hdecimal
  all_goals decide

/-- A binding label has at most six characters. -/
theorem length_ofBinding_le (mode : LabelMode) (binding : UInt8) :
    (ofBinding mode binding).length ≤ 6 := by
  have hdecimal : (Text.decimal binding.toNat).length ≤ 6 :=
    (Text.length_decimal_le_iff (by decide)).2 (Nat.lt_trans binding.toNat_lt (by decide))
  unfold ofBinding
  split
  case h_6 => exact hdecimal
  all_goals decide

/-- The full label of a protected symbol has nine letters. -/
theorem length_ofVisibility_le_iff {mode : LabelMode} {visibility : UInt8} :
    (ofVisibility mode visibility).length ≤ 8 ↔ ¬ (mode = .full ∧ visibility = 3) := by
  constructor
  · rintro hle ⟨rfl, rfl⟩
    exact absurd hle (by decide)
  · intro hprotected
    unfold ofVisibility
    split
    case h_3 => exact absurd ⟨rfl, rfl⟩ hprotected
    all_goals decide

end Label

/-! ## Rows of cells -/

namespace Text

/-- What a row has in front of a cell: the cells before it, with a blank behind each. -/
def front (cells : List String) (place : Nat) : String :=
  String.join ((cells.take place).map (· ++ " "))

/-- The character of a line at which a word first starts. -/
def wordAt (line word : String) : Nat :=
  line.toList.tails.findIdx (word.toList.isPrefixOf ·)

/-- A cell stands behind what a row has in front of it. -/
theorem intercalate_eq_front_append {cells : List String} {place : Nat} {cell : String}
    (h : cells[place]? = some cell) :
    ∃ behind, " ".intercalate cells = front cells place ++ (cell ++ behind) := by
  induction cells generalizing place with
  | nil => cases h
  | cons first rest ih =>
    cases place with
    | zero =>
      cases h
      cases rest with
      | nil => exact ⟨"", by simp [front]⟩
      | cons next rest =>
        exact ⟨" " ++ " ".intercalate (next :: rest), by simp [front, String.append_assoc]⟩
    | succ place =>
      rw [List.getElem?_cons_succ] at h
      obtain ⟨behind, hbehind⟩ := ih h
      have hrest : rest ≠ [] := List.ne_nil_of_mem (List.mem_of_getElem? h)
      refine ⟨behind, ?_⟩
      rw [String.intercalate_cons_of_ne_nil hrest, hbehind]
      simp [front, String.append_assoc]

/-- A cell starts behind as many characters as the cells before it and their blanks have. -/
theorem length_front (cells : List String) (place : Nat) :
    (front cells place).length = (((cells.map String.length).take place).map (· + 1)).sum := by
  have hblank : " ".length = 1 := rfl
  simp [front, String.length_join, Function.comp_def, hblank]

end Text

namespace Report

open Text (decimal front hex hexColumn padLeft padRight wordAt)

/-! ## The cells of a symbol -/

/-- The cells of a row. The colon belongs to the index. -/
def symbolCells (symbol : Symbol) : List String :=
  [padLeft ' ' 7 (decimal symbol.index ++ ":"),
    hexColumn 16 symbol.value.toNat,
    padLeft ' ' 5 (hex symbol.size.toNat),
    padRight 7 symbol.typeLabel,
    padRight 6 symbol.bindingLabel,
    padRight 8 symbol.visibilityLabel,
    padLeft ' ' 3 (decimal symbol.sectionIndex.toNat),
    symbol.name]

/-- The row of a symbol is made of its cells with a blank between any two. -/
theorem symbolRow_eq_intercalate (symbol : Symbol) :
    symbolRow symbol = " ".intercalate (symbolCells symbol) := by
  rw [symbolRow_eq, symbolCells]
  simp only [String.intercalate_cons_cons, String.intercalate_singleton, String.append_assoc]

/-- How wide all of them but the name are planned to be. -/
def symbolWidths : List Nat :=
  [7, 16, 5, 7, 6, 8, 3]

/-- How wide they are: labels of types and bindings never push what is behind them. -/
theorem lengths_symbolCells {mode : LabelMode} {symbol : Symbol} (h : symbol.Labelled mode) :
    (symbolCells symbol).map String.length =
      [max 7 ((decimal symbol.index).length + 1), 16, max 5 (hex symbol.size.toNat).length, 7, 6,
        max 8 symbol.visibilityLabel.length, max 3 (decimal symbol.sectionIndex.toNat).length,
        symbol.name.length] := by
  have hcolon : (decimal symbol.index ++ ":").length = (decimal symbol.index).length + 1 :=
    String.length_append _ _
  have hvalue : (hexColumn 16 symbol.value.toNat).length = 16 :=
    Text.length_hexColumn (by decide) symbol.value.toNat_lt
  have htype : symbol.typeLabel.length ≤ 7 := h.type ▸ Label.length_ofType_le mode symbol.type
  have hbinding : symbol.bindingLabel.length ≤ 6 :=
    h.binding ▸ Label.length_ofBinding_le mode symbol.binding
  simp only [symbolCells, List.map_cons, List.map_nil, Text.length_padLeft, Text.length_padRight,
    hcolon, hvalue, Nat.max_eq_left htype, Nat.max_eq_left hbinding]

/-- A column whose text starts where the column does. -/
inductive Column where
  | type
  | binding
  | visibility
  | name
  deriving DecidableEq

namespace Column

/-- Its head. -/
def head : Column → String
  | type => "Type"
  | binding => "Bind"
  | visibility => "Vis"
  | name => "Name"

/-- Its place among the columns. -/
def place : Column → Nat
  | type => 3
  | binding => 4
  | visibility => 5
  | name => 7

/-- What it shows of a symbol. -/
def text (symbol : Symbol) : Column → String
  | type => symbol.typeLabel
  | binding => symbol.bindingLabel
  | visibility => symbol.visibilityLabel
  | name => symbol.name

/-- What the row of a symbol has in front of it. -/
def lead (symbol : Symbol) (column : Column) : String :=
  front (symbolCells symbol) column.place

/-- Its text starts at the character at which its head starts. -/
def LinesUp (symbol : Symbol) (column : Column) : Prop :=
  (column.lead symbol).length = wordAt symbolColumns column.head

/-- `LinesUp` is decidable by counting characters. -/
instance (symbol : Symbol) (column : Column) : Decidable (column.LinesUp symbol) :=
  inferInstanceAs (Decidable (_ = _))

/-- The text of a column stands behind what is in front of it. -/
theorem symbolRow_eq_lead_append (symbol : Symbol) (column : Column) :
    ∃ behind, symbolRow symbol = column.lead symbol ++ (column.text symbol ++ behind) := by
  have hcell : ∃ blanks,
      (symbolCells symbol)[column.place]? = some (column.text symbol ++ blanks) := by
    cases column with
    | type | binding | visibility => exact ⟨_, rfl⟩
    | name => exact ⟨"", by rw [String.append_empty]; rfl⟩
  obtain ⟨blanks, hcell⟩ := hcell
  obtain ⟨behind, hbehind⟩ := Text.intercalate_eq_front_append hcell
  refine ⟨blanks ++ behind, ?_⟩
  rw [symbolRow_eq_intercalate, hbehind, lead, String.append_assoc]

/-- Heads start where the columns are planned to. -/
theorem wordAt_head (column : Column) :
    wordAt symbolColumns column.head = ((symbolWidths.take column.place).map (· + 1)).sum := by
  cases column <;> decide

/-- Columns are pushed by the numbers in front of them and by the label of the visibility. -/
theorem linesUp_iff_length_le {mode : LabelMode} {symbol : Symbol} (h : symbol.Labelled mode)
    (column : Column) : column.LinesUp symbol ↔
      (decimal symbol.index).length ≤ 6 ∧ (hex symbol.size.toNat).length ≤ 5 ∧
        (column = name → (decimal symbol.sectionIndex.toNat).length ≤ 3 ∧
          symbol.visibilityLabel.length ≤ 8) := by
  rw [LinesUp, lead, Text.length_front, lengths_symbolCells h, wordAt_head, symbolWidths]
  cases column with
  | type | binding | visibility =>
    simp only [place, List.take_succ_cons, List.take_zero, List.map_cons, List.map_nil,
      List.sum_cons, List.sum_nil, reduceCtorEq, false_implies, and_true]
    omega
  | name =>
    simp only [place, List.take_succ_cons, List.take_zero, List.map_cons, List.map_nil,
      List.sum_cons, List.sum_nil, true_implies]
    omega

end Column

/-- The symbol report has a row for each symbol, in which each column shows its own text. The labels
line up with their heads exactly if the index and the size of the symbol fit their columns; the name
does exactly if moreover the index of the section fits its own and the symbol is not labelled as
protected, by visibility 3. -/
theorem linesUp_iff {data : Bytes} {order : ByteOrder} {sections : List SectionHeader}
    {mode : LabelMode} {symbols : List Symbol} {index : Nat} {symbol : Symbol}
    (h : (SymbolTable.read data order sections mode).value = .ok symbols)
    (hsymbol : symbols[index]? = some symbol) :
    (symbolLines symbols)[index + 2]? = some (symbolRow symbol) ∧
    ∀ column : Column,
      (∃ behind, symbolRow symbol = column.lead symbol ++ (column.text symbol ++ behind)) ∧
      (column.LinesUp symbol ↔ index < 10 ^ 6 ∧ symbol.size.toNat < 16 ^ 5 ∧
        (column = .name → symbol.sectionIndex.toNat < 10 ^ 3 ∧
          ¬ (mode = .full ∧ symbol.other &&& 3 = 3))) := by
  have hlabelled := SymbolTable.labelled_of_read h (List.mem_of_getElem? hsymbol)
  have hindex : symbol.index = index := (SymbolTable.value_read_eq_iff.1 h).index_eq hsymbol
  refine ⟨by simp [symbolLines, hsymbol], fun column => ?_⟩
  refine ⟨column.symbolRow_eq_lead_append symbol, ?_⟩
  rw [column.linesUp_iff_length_le hlabelled, hindex, hlabelled.visibility, Symbol.visibility,
    Label.length_ofVisibility_le_iff, Text.length_decimal_le_iff (by decide),
    Text.length_decimal_le_iff (by decide), Text.length_hex_le_iff (by decide)]

/-! ## A label that is too wide -/

/-- A protected symbol whose numbers all fit their columns. -/
def guarded : Symbol :=
  { Sample.symbol with sectionIndex := 1 }

/-- The symbol table of the file with the protected symbol holds this one. -/
theorem value_read_guarded : (SymbolTable.read (Sample.layout guarded Sample.names)
    Sample.header.order Sample.sections .full).value = .ok [guarded] :=
  Sample.value_read_layout rfl (by decide) .full

/-- Its labels line up with their heads, and its name does not. -/
theorem linesUp_guarded :
    (SymbolTable.read (Sample.layout guarded Sample.names) Sample.header.order Sample.sections
      .full).value = .ok [guarded] ∧
    ∀ column : Column, column.LinesUp guarded ↔ column ≠ .name := by
  refine ⟨value_read_guarded, fun column => ?_⟩
  have hcolumn := (linesUp_iff value_read_guarded (List.getElem?_cons_zero)).2 column
  rw [hcolumn.2]
  cases column <;> decide

/-- The name starts one character behind the one at which its head starts. -/
theorem protected_shifts_name : ∃ inspection,
    (inspect (Sample.layout guarded Sample.names) .full).value = .ok inspection ∧
    inspection.symbols = .ok [guarded] ∧
    symbolLines [guarded] = ["Symbol table:",
      "   Num:    Value          Size Type    Bind   Vis      Ndx Name",
      "     0: 1122334455667788    10 FUNC    WEAK   PROTECTED   1 größe"] ∧
    (Column.name.lead guarded).length = 60 ∧ wordAt symbolColumns "Name" = 59 := by
  have hencodes : Encodes (Sample.layout guarded Sample.names) Sample.header Sample.sections :=
    Sample.encodes_layout rfl
  obtain ⟨inspection, hvalue, hsymbols⟩ := hencodes.accepted .full
  exact ⟨inspection, hvalue, hsymbols.trans value_read_guarded, rfl, by decide, by decide⟩

end Report

end ElfScope
