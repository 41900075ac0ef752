import ElfScope.Proofs.Inspection.Faithful

/-!
# What symbols are read from

Symbols come out of two lists of sections alike when the lists agree on a few fields: those that
say where the first symbol table and its strings are (`SymbolTable.SameSource.read_eq`). The name of
a section is not among them, so whichever section a file header names as the one with the names,
the symbols stay the same (`symbols_framed`).
-/

namespace ElfScope

/-! ## Sections in the same place -/

namespace SectionHeader

/-- Two section headers put their contents in the same place. -/
structure SamePlace (header other : SectionHeader) : Prop where
  offset : header.offset = other.offset
  size : header.size = other.size

/-- Sections in the same place have the same contents. -/
theorem SamePlace.contents_eq {header other : SectionHeader} (h : header.SamePlace other)
    (data : Bytes) : header.contents data = other.contents data := by
  rw [contents, contents, h.offset, h.size]

end SectionHeader

namespace SymbolTable

/-- Two lists of sections agree on what symbols are read from.

They are equally long, and either has its first symbol table where the other has, or neither has one
(`first`). The symbol tables link to the same section (`link`) and are in the same place (`place`),
and so are the sections they link to, unless the link is zero or leads behind the last section
(`strings`). -/
structure SameSource (sections others : List SectionHeader) : Prop where
  length : sections.length = others.length
  first (table : Nat) : (∃ holder, IsFirst sections table holder)
    ↔ ∃ other, IsFirst others table other
  link {table : Nat} {holder other : SectionHeader} (hholder : IsFirst sections table holder)
    (hother : IsFirst others table other) : holder.link = other.link
  place {table : Nat} {holder other : SectionHeader} (hholder : IsFirst sections table holder)
    (hother : IsFirst others table other) : holder.SamePlace other
  strings {table : Nat} {holder other strings names : SectionHeader}
    (hholder : IsFirst sections table holder) (hother : IsFirst others table other)
    (hlink : holder.link ≠ 0) (hstrings : sections[holder.link.toNat]? = some strings)
    (hnames : others[other.link.toNat]? = some names) : strings.SamePlace names

variable {sections others : List SectionHeader}

/-- Lists with symbols agree if their first symbol tables do. -/
theorem SameSource.of_first {table : Nat} {holder other : SectionHeader}
    (hlength : sections.length = others.length) (hholder : IsFirst sections table holder)
    (hother : IsFirst others table other) (hlink : holder.link = other.link)
    (hplace : holder.SamePlace other)
    (hstrings : ∀ strings names, sections[holder.link.toNat]? = some strings →
      others[other.link.toNat]? = some names → strings.SamePlace names) :
    SameSource sections others := by
  have hsettled {table' : Nat} {holder' other' : SectionHeader}
      (hholder' : IsFirst sections table' holder') (hother' : IsFirst others table' other') :
      holder = holder' ∧ other = other' :=
    ⟨(hholder.unique hholder').2, (hother.unique hother').2⟩
  refine ⟨hlength, fun table' => ⟨?_, ?_⟩, ?_, ?_, ?_⟩
  case refine_1 =>
    rintro ⟨_, hholder'⟩
    obtain ⟨rfl, -⟩ := hholder.unique hholder'
    exact ⟨other, hother⟩
  case refine_2 =>
    rintro ⟨_, hother'⟩
    obtain ⟨rfl, -⟩ := hother.unique hother'
    exact ⟨holder, hholder⟩
  case refine_3 =>
    intro _ _ _ hholder' hother'
    obtain ⟨rfl, rfl⟩ := hsettled hholder' hother'
    exact hlink
  case refine_4 =>
    intro _ _ _ hholder' hother'
    obtain ⟨rfl, rfl⟩ := hsettled hholder' hother'
    exact hplace
  case refine_5 =>
    intro _ _ _ strings names hholder' hother' _
    obtain ⟨rfl, rfl⟩ := hsettled hholder' hother'
    exact hstrings strings names

/-- Where no symbol table is found, the other list has none either. -/
theorem SameSource.find?_none (h : SameSource sections others) (hnone : find? sections = none) :
    find? others = none := by
  cases hfind : find? others with
  | none => rfl
  | some found =>
    obtain ⟨holder, hfirst⟩ := (h.first found.1).2 ⟨found.2, find?_eq_some_iff.1 hfind⟩
    rw [find?_eq_some_iff.2 hfirst] at hnone
    cases hnone

/-- The bytes that symbols are read from are the same, and so is the first defect. -/
theorem SameSource.locate_eq (h : SameSource sections others) (data : Bytes) :
    locate data sections = locate data others := by
  rw [locate, locate]
  cases hfind : find? sections with
  | none => rw [h.find?_none hfind]
  | some found =>
    obtain ⟨table, holder⟩ := found
    have hholder := find?_eq_some_iff.1 hfind
    obtain ⟨other, hother⟩ := (h.first table).1 ⟨holder, hholder⟩
    have hlink := h.link hholder hother
    have hplace := h.place hholder hother
    rw [find?_eq_some_iff.2 hother]
    dsimp only
    rw [← hlink, ← h.length]
    cases hstrings : linked? sections holder.link with
    | none => rw [linked?_eq_none_of_length h.length hstrings]
    | some strings =>
      cases hnames : linked? others holder.link with
      | none =>
        rw [linked?_eq_none_of_length h.length.symm hnames] at hstrings
        cases hstrings
      | some names =>
        obtain ⟨hne, hstrings⟩ := linked?_eq_some_iff.1 hstrings
        obtain ⟨-, hnames⟩ := linked?_eq_some_iff.1 hnames
        have hsame := h.strings hholder hother (mt link_eq_zero_iff.2 hne) hstrings
          (hlink ▸ hnames)
        dsimp only
        rw [hplace.size, hplace.contents_eq data, hsame.contents_eq data]

/-- Nothing else about the sections is looked at, be it for a symbol, an error or an event. -/
theorem SameSource.read_eq (h : SameSource sections others) (data : Bytes) (order : ByteOrder)
    (mode : LabelMode) : read data order sections mode = read data order others mode := by
  rw [read, read, h.locate_eq data]

end SymbolTable

/-! ## The section with the names -/

namespace SectionTable

/-- What does not look at names does not notice. -/
theorem map_read_nameSection {α : Type} {use : List SectionHeader → α}
    (huse : ∀ sections, use (sections.map SectionHeader.unnamed) = use sections) (data : Bytes)
    (header : FileHeader) (nameSection : UInt16) :
    (read data { header with nameSection }).value.map use
      = (read data header).value.map use := by
  have hunnamed (outcome : Except SectionError (List SectionHeader)) :
      outcome.map use = (outcome.map (List.map SectionHeader.unnamed)).map use := by
    cases outcome with
    | error error => rfl
    | ok sections => exact congrArg Except.ok (huse sections).symm
  rw [hunnamed, value_read_nameSection, ← hunnamed]

end SectionTable

/-- Symbols are read alike, or refused alike, from all sections that agree on where the first symbol
table and its strings are; and a header that names another section as the one with the names leaves
all but the names as it is: whether there are sections, their fields and the symbols. -/
theorem symbols_framed :
    (∀ (data : Bytes) (mode : LabelMode) (header other : FileHeader)
      (sections others : List SectionHeader),
      header.order = other.order → SymbolTable.SameSource sections others →
        SymbolTable.read data header.order sections mode
          = SymbolTable.read data other.order others mode) ∧
    ∀ (data : Bytes) (header : FileHeader) (nameSection : UInt16),
      (SectionTable.read data { header with nameSection }).value.map
          (List.map SectionHeader.unnamed)
        = (SectionTable.read data header).value.map (List.map SectionHeader.unnamed) ∧
      ∀ mode, (SectionTable.read data { header with nameSection }).value.map
          (SymbolTable.read data header.order · mode)
        = (SectionTable.read data header).value.map
          (SymbolTable.read data header.order · mode) := by
  constructor
  · intro data mode header other sections others horder h
    rw [h.read_eq data header.order mode, horder]
  · intro data header nameSection
    refine ⟨SectionTable.value_read_nameSection data header nameSection, fun mode => ?_⟩
    exact SectionTable.map_read_nameSection
      (fun sections => SymbolTable.read_map_unnamed data header.order sections mode)
      data header nameSection

/-! ## Sections with little in common -/

namespace Sample

/-- The symbol table and its strings with other fields, and another section in front of them. -/
def estranged : List SectionHeader :=
  [{ null with kind := 1, offset := 7 },
    { table with name := some "größe", info := 1, alignment := 8, entrySize := 24 },
    { strings with kind := 2, flags := 2, link := 1 }]

/-- Symbols are read from the same source under the sections of the sample and under the estranged
ones. -/
theorem sameSource_estranged : SymbolTable.SameSource sections estranged := by
  have hother : SymbolTable.IsFirst estranged 1 estranged[1] := by
    refine ⟨rfl, rfl, fun index _ hindex hentry => ?_⟩
    obtain rfl : index = 0 := by omega
    cases hentry
    decide
  refine .of_first rfl placed.first hother rfl ⟨rfl, rfl⟩ fun _ _ hstrings hnames => ?_
  cases hstrings
  cases hnames
  exact ⟨rfl, rfl⟩

end Sample

/-- The sample's symbol is read through sections none of which is the same as its own. -/
theorem symbols_framed_estranged :
    (∀ entry ∈ Sample.estranged, entry ∉ Sample.sections) ∧
    SymbolTable.SameSource Sample.sections Sample.estranged ∧
    (SymbolTable.read Sample.image .big Sample.estranged .full).value = .ok [Sample.symbol] := by
  refine ⟨by decide, Sample.sameSource_estranged, ?_⟩
  have hread := symbols_framed.1 Sample.image .full Sample.header
    { Sample.header with machine := 62, nameSection := 0 } Sample.sections Sample.estranged rfl
    Sample.sameSource_estranged
  exact (congrArg Traced.value hread).symm.trans (Sample.value_read .full)

end ElfScope
