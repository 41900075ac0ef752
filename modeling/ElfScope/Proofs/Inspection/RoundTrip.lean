import ElfScope.Proofs.Inspection
import ElfScope.Proofs.Symbol.Outcome

/-!
# What is written is read back

`Encodes data header sections` says that a file holds the bytes of a header and, where the header
puts the table, those of the section headers, whatever else it holds. Such a file is inspected with
this header and these sections. Its names and symbols are the ones that are written into it
(`inspect_of_encodes`).
-/

namespace ElfScope

section Reading

variable {data : Bytes} {header : FileHeader} {sections : List SectionHeader}

/-- The encoding byte that declares a byte order. -/
def ByteOrder.encoding : ByteOrder → UInt8
  | .little => 1
  | .big => 2

/-- The identification is the one of a 64-bit file in the order of the header: it starts with the
magic number, its class is the 64-bit one, and its encoding byte declares the byte order. -/
structure FileHeader.Acceptable (header : FileHeader) : Prop where
  magic : header.ident.magic = #v[0x7f, 0x45, 0x4c, 0x46]
  fileClass : header.ident.fileClass = 2
  encoding : header.ident.encoding = header.order.encoding

/-- A file that holds a header at its start and section headers where the header puts them.

The identification fits the header (`acceptable`). There are as many sections as it declares
(`count`), one at least (`nonempty`), and the entries are wide enough for a section header
(`stride`). The header is at the start of the file (`header_holds`), the table lies inside the file
(`table_le`), and each section header is at the start of its entry (`entry_holds`). -/
structure Encodes (data : Bytes) (header : FileHeader) (sections : List SectionHeader) :
    Prop where
  acceptable : header.Acceptable
  count : header.sectionCount.toNat = sections.length
  nonempty : sections ≠ []
  stride : 64 ≤ header.sectionEntrySize.toNat
  header_holds : data.Holds 0 header.encode
  table_le : header.sectionOffset.toNat + sections.length * header.sectionEntrySize.toNat
    ≤ data.size
  entry_holds : ∀ index entry, sections[index]? = some entry →
    data.Holds (header.sectionOffset.toNat + index * header.sectionEntrySize.toNat)
      (entry.encode header.order)

/-! ## Header and sections -/

/-- The identification of an acceptable header is accepted. -/
theorem FileHeader.Acceptable.check_eq (h : header.Acceptable) :
    header.ident.check = .ok header.order := by
  have horder : ByteOrder.ofEncoding? header.ident.encoding = some header.order := by
    rw [h.encoding]
    cases header.order <;> rfl
  have hmagic : header.ident.magic = ElfScope.magic := h.magic
  rw [Identification.check, if_neg (not_not_intro hmagic), if_neg (not_not_intro h.fileClass),
    horder]

namespace Encodes

/-- The header that a file holds is read out of it. -/
theorem decode_eq (h : Encodes data header sections) : FileHeader.decode data = .ok header :=
  FileHeader.decode_of_holds h.header_holds h.acceptable.check_eq

/-- The numbers in the table are the ones that were written. -/
theorem entries_eq (h : Encodes data header sections) :
    SectionTable.entries data header = sections.map SectionHeader.unnamed := by
  apply List.ext_getElem?
  intro index
  by_cases hlt : index < sections.length
  · have hentry : sections[index]? = some sections[index] := List.getElem?_eq_getElem hlt
    rw [SectionTable.getElem?_entries (h.count ▸ hlt), List.getElem?_map, hentry, Option.map_some,
      SectionHeader.ofBytes_of_holds (h.entry_holds index _ hentry)]
  · rw [List.getElem?_eq_none, List.getElem?_eq_none] <;> simp [h.count] <;> omega

/-- The table is accepted with these sections, under their names. -/
theorem value_read (h : Encodes data header sections) :
    (SectionTable.read data header).value
      = .ok (SectionTable.named data header (sections.map SectionHeader.unnamed)) := by
  have hcount : header.sectionCount ≠ 0 := by
    intro hzero
    have hlength := h.count
    rw [hzero] at hlength
    exact h.nonempty (List.eq_nil_of_length_eq_zero hlength.symm)
  rw [SectionTable.value_read, if_neg hcount, if_neg (Nat.not_lt_of_le h.stride),
    if_pos (h.count ▸ h.table_le), h.entries_eq]

end Encodes

/-! ## Names and symbols -/

/-- The section of names that the header declares lies inside the file, and gives `name` to the
section at `index`. -/
def SectionTable.Gives (data : Bytes) (header : FileHeader) (sections : List SectionHeader)
    (index : Nat) (name : String) : Prop :=
  ∃ holder entry, nameHolder? header sections = some holder ∧ holder.Fits data.size ∧
    sections[index]? = some entry ∧ (holder.body data).Names entry.nameOffset.toNat name

/-- The first symbol table and its strings lie inside the file, and hold these symbols with these
names. -/
def SymbolTable.Encodes (data : Bytes) (order : ByteOrder) (sections : List SectionHeader)
    (symbols : List Symbol) : Prop :=
  ∃ table holder strings, Placed data.size sections table holder strings ∧
    holder.size.toNat = 24 * symbols.length ∧
    (∀ index symbol, symbols[index]? = some symbol →
      data.Holds (holder.offset.toNat + 24 * index) (symbol.encode order)) ∧
    ∀ symbol ∈ symbols, (strings.body data).Names symbol.nameOffset.toNat symbol.name

/-- A section takes the name that is given to it. -/
theorem SectionTable.name_of_gives {index : Nat} {name : String}
    (h : Gives data header sections index name) :
    ((named data header (sections.map SectionHeader.unnamed))[index]?).map SectionHeader.name
      = some (some name) := by
  obtain ⟨holder, entry, hholder, hfits, hentry, hname⟩ := h
  have hunnamed : nameHolder? header (sections.map SectionHeader.unnamed)
      = some holder.unnamed := by
    rw [nameHolder?_map_unnamed, hholder, Option.map_some]
  have hfound : (StringTable.ofBytes (holder.unnamed.body data)).text entry.unnamed.nameOffset
      = .ok name := StringTable.text_eq_ok hname
  rw [named, hunnamed]
  simp only [if_pos (show holder.unnamed.Fits data.size from hfits), List.getElem?_map, hentry,
    Option.map_some, rename, hfound]
  rfl

/-- A file that holds a header and section headers is inspected with them, each section under the
name that is given to it, and with the symbols that stand in its first symbol table. -/
theorem inspect_of_encodes (mode : LabelMode) (h : Encodes data header sections) :
    ∃ inspection, (inspect data mode).value = .ok inspection ∧
      inspection.header = header ∧
      inspection.sections.map SectionHeader.unnamed = sections.map SectionHeader.unnamed ∧
      (∀ index name, SectionTable.Gives data header sections index name →
        (inspection.sections[index]?).map SectionHeader.name = some (some name)) ∧
      (∀ symbols, SymbolTable.Encodes data header.order sections symbols →
        inspection.symbols = .ok (symbols.mapIdx (Symbol.shown mode))) := by
  have hvalue : (inspect data mode).value = .ok {
      header
      sections := SectionTable.named data header (sections.map SectionHeader.unnamed)
      symbols := (SymbolTable.read data header.order
        (SectionTable.named data header (sections.map SectionHeader.unnamed)) mode).value } := by
    rw [value_inspect, h.decode_eq]
    simp only [h.value_read]
  refine ⟨_, hvalue, rfl, ?_, ?_, ?_⟩
  · rw [SectionTable.map_unnamed_named]
    simp
  · intro index name hgives
    exact SectionTable.name_of_gives hgives
  · rintro symbols ⟨table, holder, strings, hplaced, hsize, hentries, hnames⟩
    have hread : (SymbolTable.read data header.order
        (SectionTable.named data header (sections.map SectionHeader.unnamed)) mode).value
        = (SymbolTable.read data header.order sections mode).value :=
      SymbolTable.value_read_of_unnamed (by simp)
    dsimp only
    rw [hread]
    exact SymbolTable.value_read_of_holds hplaced hsize hentries hnames

end Reading

/-! ## A file that is read back -/

namespace Sample

/-- A big-endian header whose entries are eight bytes wider than a section header. -/
def header : FileHeader where
  ident := ⟨#v[0x7f, 0x45, 0x4c, 0x46, 2, 2, 1, 0, 0, 0, 0, 0, 0, 0, 0, 0]⟩
  order := .big
  objectType := 1
  machine := 43
  version := 1
  entry := 0x0102030405060708
  programOffset := 0
  sectionOffset := 97
  flags := 0xfffefdfc
  headerSize := 64
  programEntrySize := 56
  programCount := 0
  sectionEntrySize := 72
  sectionCount := 3
  nameSection := 2

/-- A section header with zeros throughout. -/
def null : SectionHeader where
  nameOffset := 0
  name := none
  kind := 0
  flags := 0
  address := 0
  offset := 0
  size := 0
  link := 0
  info := 0
  alignment := 0
  entrySize := 0

/-- The symbol table, with one entry. -/
def table : SectionHeader :=
  { null with
    nameOffset := 1, kind := 2, offset := 64, size := 24, link := 2 }

/-- The section with all names. -/
def strings : SectionHeader :=
  { null with nameOffset := 5, kind := 3, offset := 88, size := 9 }

/-- The sections of the sample: the empty one, the symbol table and the strings. -/
def sections : List SectionHeader := [null, table, strings]

/-- A weak function. -/
def symbol : Symbol where
  index := 0
  name := "größe"
  nameOffset := 1
  info := 0x22
  other := 3
  sectionIndex := 0xfff1
  value := 0x1122334455667788
  size := 16
  typeLabel := "FUNC"
  bindingLabel := "WEAK"
  visibilityLabel := "PROTECTED"

/-- The names, of which one is the end of the other. -/
def names : Bytes := #[0, 0x67, 0x72, 0xc3, 0xb6, 0xc3, 0x9f, 0x65, 0]

/-- An entry of the table, with bytes behind the section header. -/
def wide (entry : SectionHeader) : Bytes :=
  entry.encode .big ++ Array.replicate 8 0xff

/-- The header, a symbol, some names and the table, one behind the other. -/
def layout (entry : Symbol) (content : Bytes) : Bytes :=
  header.encode ++ entry.encode .big ++ content ++ wide null ++ wide table ++ wide strings

section Layout

variable {entry : Symbol} {content : Bytes} (hsize : content.size = 9)
include hsize

/-- A file of the layout has 313 bytes. -/
theorem size_layout : (layout entry content).size = 313 := by
  simp [layout, wide, hsize]

/-- Each piece is where it was put. -/
theorem holds_layout : (layout entry content).Holds 0 header.encode ∧
    (layout entry content).Holds 64 (entry.encode .big) ∧
    (layout entry content).Holds 88 content ∧
    (layout entry content).Holds 97 (null.encode .big) ∧
    (layout entry content).Holds 169 (table.encode .big) ∧
    (layout entry content).Holds 241 (strings.encode .big) := by
  have h := Bytes.holds_zero_self (layout entry content)
  simp only [layout, wide, Bytes.holds_append, Array.size_append, FileHeader.size_encode,
    Symbol.size_encode, SectionHeader.size_encode, Array.size_replicate, hsize, Nat.reduceAdd,
    Nat.zero_add] at h
  obtain ⟨⟨⟨⟨⟨hheader, hsymbol⟩, hnames⟩, hnull, -⟩, htable, -⟩, hstrings, -⟩ := h
  exact ⟨hheader, hsymbol, hnames, hnull, htable, hstrings⟩

/-- The contents of the strings are the ones put there. -/
theorem body_layout : strings.body (layout entry content) = content :=
  (holds_layout hsize).2.2.1.part_eq hsize

/-- The file holds its header and its sections. -/
theorem encodes_layout : Encodes (layout entry content) header sections where
  acceptable := ⟨by decide, by decide, by decide⟩
  count := rfl
  nonempty := by decide
  stride := by decide
  header_holds := (holds_layout hsize).1
  table_le := by
    rw [size_layout hsize]
    decide
  entry_holds := by
    obtain ⟨-, -, -, hnull, htable, hstrings⟩ := @holds_layout entry content hsize
    intro index entry hentry
    obtain ⟨hlt, rfl⟩ := List.getElem?_eq_some_iff.1 hentry
    match index, hlt with
    | 0, _ => exact hnull
    | 1, _ => exact htable
    | 2, _ => exact hstrings

/-- The symbols of the file come from its second section. -/
theorem placed_layout :
    SymbolTable.Placed (layout entry content).size sections 1 table strings where
  first := by
    refine ⟨rfl, rfl, fun index _ hindex hentry => ?_⟩
    obtain rfl : index = 0 := by omega
    cases hentry
    decide
  linked := rfl
  aligned := rfl
  holder_fits := by
    rw [size_layout hsize]
    decide
  strings_fits := by
    rw [size_layout hsize]
    decide

end Layout

/-- The header, the symbol, the names and the table, one behind the other. -/
def image : Bytes :=
  header.encode ++ symbol.encode .big ++ names ++ wide null ++ wide table ++ wide strings

/-- The sample has 313 bytes. -/
theorem size_image : image.size = 313 := size_layout rfl

/-- Each piece of the image is where it was put. -/
theorem holds : image.Holds 0 header.encode ∧ image.Holds 64 (symbol.encode .big) ∧
    image.Holds 88 names ∧ image.Holds 97 (null.encode .big) ∧
    image.Holds 169 (table.encode .big) ∧ image.Holds 241 (strings.encode .big) :=
  holds_layout rfl

/-- The contents of the strings of the sample are its names. -/
theorem body_strings : strings.body image = names := body_layout rfl

/-- The image holds its header and its sections. -/
theorem encodes : Encodes image header sections := encodes_layout rfl

/-- The symbols of the image come from its second section. -/
theorem placed : SymbolTable.Placed image.size sections 1 table strings := placed_layout rfl

end Sample

/-- The sample is read back with the names of its sections and with its symbol. -/
theorem inspect_sample : Encodes Sample.image Sample.header Sample.sections ∧
    ∃ inspection, (inspect Sample.image .full).value = .ok inspection ∧
      inspection.header = Sample.header ∧
      (inspection.sections[1]?).map SectionHeader.name = some (some "größe") ∧
      (inspection.sections[2]?).map SectionHeader.name = some (some "ße") ∧
      inspection.symbols = .ok [Sample.symbol] := by
  obtain ⟨inspection, hvalue, hheader, -, hnames, hsymbols⟩ :=
    inspect_of_encodes .full Sample.encodes
  have hfits : Sample.strings.Fits Sample.image.size := Sample.placed.strings_fits
  refine ⟨Sample.encodes, inspection, hvalue, hheader, ?_, ?_, ?_⟩
  · refine hnames 1 "größe" ⟨Sample.strings, Sample.table, rfl, hfits, rfl, ?_⟩
    rw [Sample.body_strings]
    decide
  · refine hnames 2 "ße" ⟨Sample.strings, Sample.strings, rfl, hfits, rfl, ?_⟩
    rw [Sample.body_strings]
    decide
  · refine hsymbols [Sample.symbol] ⟨1, Sample.table, Sample.strings, Sample.placed, rfl, ?_, ?_⟩
    · intro index symbol hsymbol
      cases index with
      | zero =>
        cases hsymbol
        exact Sample.holds.2.1
      | succ index => cases hsymbol
    · intro symbol hmem
      obtain rfl := List.mem_singleton.1 hmem
      rw [Sample.body_strings]
      decide

end ElfScope
