import ElfScope.Proofs.Inspection.Faithful
import ElfScope.Proofs.Report.Table
import ElfScope.Proofs.Symbol.Label

/-!
# The symbol report, read back

The columns of a row are solid except for the name, which comes last. So a row is read back from
the left (`symbolRow_inj`). In the full style the labels settle the numbers that they stand for, and
the symbol report settles all it shows of the symbols (`alike_of_symbolReport_eq`).
-/

namespace ElfScope

/-- Two symbols agree in everything that the report shows: their positions, their values and sizes,
the sections they are defined in, their names, their types and bindings (`info`), and their
visibilities, the low two bits of `other`. -/
structure Symbol.Alike (first second : Symbol) : Prop where
  index : first.index = second.index
  value : first.value = second.value
  size : first.size = second.size
  sectionIndex : first.sectionIndex = second.sectionIndex
  name : first.name = second.name
  info : first.info = second.info
  visibility : first.other &&& 3 = second.other &&& 3

/-- The labels of a symbol are solid. -/
structure Symbol.SolidLabels (symbol : Symbol) : Prop where
  type : Text.Solid symbol.typeLabel
  binding : Text.Solid symbol.bindingLabel
  visibility : Text.Solid symbol.visibilityLabel

/-- The labels that a style gives to a symbol are solid. -/
theorem Symbol.Labelled.solid {mode : LabelMode} {symbol : Symbol} (h : symbol.Labelled mode) :
    symbol.SolidLabels where
  type := h.type ▸ Label.solid_ofType mode _
  binding := h.binding ▸ Label.solid_ofBinding mode _
  visibility := h.visibility ▸ Label.solid_ofVisibility mode _

namespace Report

open Text (Solid decimal hex hexColumn padLeft padRight solid_decimal solid_hex solid_hexColumn)

/-! ## One row -/

/-- A row, column by column from the left. The colon belongs to the index, so that a blank stands
behind every column. -/
theorem symbolRow_eq (symbol : Symbol) :
    symbolRow symbol = padLeft ' ' 7 (decimal symbol.index ++ ":") ++ " "
      ++ (hexColumn 16 symbol.value.toNat ++ " "
      ++ (padLeft ' ' 5 (hex symbol.size.toNat) ++ " "
      ++ (padRight 7 symbol.typeLabel ++ " "
      ++ (padRight 6 symbol.bindingLabel ++ " "
      ++ (padRight 8 symbol.visibilityLabel ++ " "
      ++ (padLeft ' ' 3 (decimal symbol.sectionIndex.toNat) ++ " " ++ symbol.name)))))) := by
  have hindex : padLeft ' ' 6 (decimal symbol.index) ++ ":"
      = padLeft ' ' 7 (decimal symbol.index ++ ":") := Text.padLeft_append ' ' 6 _ ":"
  have hcolon : ": " = ":" ++ " " := rfl
  rw [← hindex]
  unfold symbolRow
  simp only [hcolon, String.append_assoc]

/-- A row settles each of its columns. -/
theorem symbolRow_inj {first second : Symbol} (hfirst : first.SolidLabels)
    (hsecond : second.SolidLabels) (h : symbolRow first = symbolRow second) :
    first.index = second.index ∧ first.value = second.value ∧ first.size = second.size ∧
      first.typeLabel = second.typeLabel ∧ first.bindingLabel = second.bindingLabel ∧
      first.visibilityLabel = second.visibilityLabel ∧
      first.sectionIndex = second.sectionIndex ∧ first.name = second.name := by
  have hsolid (index : Nat) : Solid (decimal index ++ ":") :=
    (solid_decimal index).append (by decide)
  have hne (index : Nat) : decimal index ++ ":" ≠ "" := by
    simp
  rw [symbolRow_eq, symbolRow_eq] at h
  obtain ⟨hindex, h⟩ := Text.padLeft_blank_inj (hsolid _) (hsolid _) (hne _) (hne _) h
  obtain ⟨hvalue, h⟩ := Text.append_blank_inj (solid_hexColumn _ _) (solid_hexColumn _ _) h
  obtain ⟨hsize, h⟩ := Text.padLeft_blank_inj (solid_hex _) (solid_hex _) (Text.hex_ne_empty _)
    (Text.hex_ne_empty _) h
  obtain ⟨htype, h⟩ := Text.padRight_blank_inj hfirst.type hsecond.type h
  obtain ⟨hbinding, h⟩ := Text.padRight_blank_inj hfirst.binding hsecond.binding h
  obtain ⟨hvisibility, h⟩ := Text.padRight_blank_inj hfirst.visibility hsecond.visibility h
  obtain ⟨hsection, hname⟩ := Text.padLeft_blank_inj (solid_decimal _) (solid_decimal _)
    (Text.decimal_ne_empty _) (Text.decimal_ne_empty _) h
  refine ⟨Text.decimal_injective ((String.append_left_inj _).1 hindex),
    UInt64.toNat_inj.1 (Text.hexColumn_injective 16 hvalue),
    UInt64.toNat_inj.1 (Text.hex_injective hsize), htype, hbinding, hvisibility,
    UInt16.toNat_inj.1 (Text.decimal_injective hsection), hname⟩

/-- In the full style a row settles its symbol, as far as it shows it. -/
theorem alike_of_symbolRow_eq {first second : Symbol} (hfirst : first.Labelled .full)
    (hsecond : second.Labelled .full) (h : symbolRow first = symbolRow second) :
    first.Alike second := by
  obtain ⟨hindex, hvalue, hsize, htype, hbinding, hvisibility, hsection, hname⟩ :=
    symbolRow_inj hfirst.solid hsecond.solid h
  obtain ⟨htype, hbinding, hvisibility⟩ :=
    Symbol.eq_of_labels hfirst hsecond htype hbinding hvisibility
  have hinfo : first.info.toNat = second.info.toNat := by
    rw [← first.binding_add_type, ← second.binding_add_type, htype, hbinding]
  exact ⟨hindex, hvalue, hsize, hsection, hname, UInt8.toNat_inj.1 hinfo, hvisibility⟩

/-! ## All rows -/

/-- A row holds the newlines of the name and no others. -/
theorem newlines_symbolRow {symbol : Symbol} (h : symbol.SolidLabels) :
    newlines (symbolRow symbol) = newlines symbol.name := by
  have hblank : newlines " " = 0 := rfl
  have hcolon : newlines ": " = 0 := rfl
  unfold symbolRow
  simp only [newlines_append, newlines_padLeft, newlines_padRight, newlines_decimal,
    newlines_hex, newlines_hexColumn, hblank, hcolon, newlines_of_solid h.type,
    newlines_of_solid h.binding, newlines_of_solid h.visibility, Nat.zero_add]

/-- The report is a table, with a row for each symbol. -/
theorem symbolLines_eq (symbols : List Symbol) :
    symbolLines symbols = table "Symbol table:" symbolColumns (fun _ => symbolRow) symbols := by
  have hrows : symbols.map symbolRow = symbols.mapIdx fun _ => symbolRow := by
    apply List.ext_getElem?
    simp
  rw [symbolLines, table, hrows]

/-- Symbols that are read are reported under their names. -/
theorem namedRows_of_read {data : Bytes} {order : ByteOrder} {sections : List SectionHeader}
    {mode : LabelMode} {symbols : List Symbol}
    (h : (SymbolTable.read data order sections mode).value = .ok symbols) :
    NamedRows "Symbol table:" symbolColumns (fun _ => symbolRow) Symbol.name symbols where
  title := rfl
  columns := rfl
  row _ _ hmem := newlines_symbolRow (SymbolTable.labelled_of_read h hmem).solid

/-- Symbol tables whose names hold no newlines and that are reported by the same text, in the full
style, agree entry by entry in all that the report shows. -/
theorem alike_of_symbolReport_eq {data other : Bytes} {order otherOrder : ByteOrder}
    {sections others : List SectionHeader} {first second : List Symbol}
    (hfirst : (SymbolTable.read data order sections .full).value = .ok first)
    (hsecond : (SymbolTable.read other otherOrder others .full).value = .ok second)
    (hnames : ∀ symbol ∈ first, '\n' ∉ symbol.name.toList)
    (hothers : ∀ symbol ∈ second, '\n' ∉ symbol.name.toList)
    (h : text (symbolLines first) = text (symbolLines second)) :
    List.Forall₂ Symbol.Alike first second := by
  rw [symbolLines_eq, symbolLines_eq] at h
  apply (namedRows_of_read hfirst).forall₂_of_text_eq (namedRows_of_read hsecond) hnames hothers
    ?_ h
  intro _ a ha b hb hrow
  exact alike_of_symbolRow_eq (SymbolTable.labelled_of_read hfirst ha)
    (SymbolTable.labelled_of_read hsecond hb) hrow

/-! ## Symbols that look the same -/

/-- A symbol whose name looks like columns and whose size is wider than its own. -/
def oddSymbol : Symbol where
  index := 0
  name := "4 main"
  nameOffset := 1
  info := 0x1b
  other := 3
  sectionIndex := 0xfff1
  value := 0x1122334455667788
  size := 0x123456789
  typeLabel := "11"
  bindingLabel := "GLOBAL"
  visibilityLabel := "PROTECTED"

/-- The symbol with its name at another place and with further bits beside its visibility. -/
def twinSymbol : Symbol :=
  { oddSymbol with nameOffset := 0, other := 0xff }

/-- The report does not tell them apart, although they stand in different files. -/
theorem alike_twinSymbol :
    (SymbolTable.read (Sample.layout oddSymbol #[0, 0x34, 0x20, 0x6d, 0x61, 0x69, 0x6e, 0, 0])
      .big Sample.sections .full).value = .ok [oddSymbol] ∧
    (SymbolTable.read (Sample.layout twinSymbol #[0x34, 0x20, 0x6d, 0x61, 0x69, 0x6e, 0, 0, 0])
      .big Sample.sections .full).value = .ok [twinSymbol] ∧
    text (symbolLines [oddSymbol]) = text (symbolLines [twinSymbol]) ∧
    List.Forall₂ Symbol.Alike [oddSymbol] [twinSymbol] := by
  have hread := @Sample.value_read_layout oddSymbol
    #[0, 0x34, 0x20, 0x6d, 0x61, 0x69, 0x6e, 0, 0] rfl (by decide) .full
  have hother := @Sample.value_read_layout twinSymbol
    #[0x34, 0x20, 0x6d, 0x61, 0x69, 0x6e, 0, 0, 0] rfl (by decide) .full
  have htext : text (symbolLines [oddSymbol]) = text (symbolLines [twinSymbol]) := rfl
  exact ⟨hread, hother, htext, alike_of_symbolReport_eq hread hother (by decide) (by decide) htext⟩

end Report

end ElfScope
