import ElfScope.Proofs.Report.Table
import ElfScope.Proofs.Section.Flag
import ElfScope.Report.Basic

/-!
# The section report, read back

The name of a section comes first in its row and may hold blanks, brackets and digits, and all other
columns are solid. So a row is read back from the right (`sectionRow_inj`), and the section report
settles all it shows of the sections (`alike_of_sectionReport_eq`). Of a name it shows all but the
blanks at its end, and of a flag word the twelve bits that belong to flags.
-/

namespace ElfScope

/-- The name that the report shows: a section without a name is shown as `<corrupt>`. -/
def SectionHeader.shownName (entry : SectionHeader) : String :=
  entry.name.getD "<corrupt>"

/-- Two sections agree in everything that the report shows: their names up to blanks at the end, the
twelve bits of their flag words that belong to flags, and all other fields as they are. -/
structure SectionHeader.Alike (first second : SectionHeader) : Prop where
  name : Text.trimmed first.shownName = Text.trimmed second.shownName
  kind : first.kind = second.kind
  address : first.address = second.address
  offset : first.offset = second.offset
  size : first.size = second.size
  entrySize : first.entrySize = second.entrySize
  flags : first.flags &&& 0x80000ff7 = second.flags &&& 0x80000ff7
  link : first.link = second.link
  info : first.info = second.info
  alignment : first.alignment = second.alignment

/-- No name is shown with a newline if no name holds one. -/
theorem SectionHeader.newline_not_mem_shownName_iff {entry : SectionHeader} :
    '\n' ∉ entry.shownName.toList ↔ ∀ name ∈ entry.name, '\n' ∉ name.toList := by
  rw [shownName]
  cases entry.name with
  | none => exact iff_of_true (by decide) (fun _ hmem => nomatch hmem)
  | some name => simp

namespace Report

open Text (padRight solid_decimal)

/-! ## One row -/

/-- Rows of the same place are those of sections that are alike. -/
theorem sectionRow_inj {index : Nat} {first second : SectionHeader}
    (h : sectionRow index first = sectionRow index second) : first.Alike second := by
  -- Ten solid columns stand behind the name. A flag word without letters leaves its column blank.
  obtain ⟨h, halignment⟩ := Text.blank_append_inj (solid_decimal _) (solid_decimal _) h
  obtain ⟨h, hinfo⟩ := Text.blank_padLeft_decimal_inj h
  obtain ⟨h, hlink⟩ := Text.blank_padLeft_decimal_inj h
  obtain ⟨h, hletters⟩ := Text.blank_padLeft_inj (FlagSet.solid_letters _)
    (FlagSet.solid_letters _) h
  obtain ⟨h, hentrySize⟩ := Text.blank_hexColumn_inj h
  obtain ⟨h, hsize⟩ := Text.blank_hexColumn_inj h
  obtain ⟨h, hoffset⟩ := Text.blank_hexColumn_inj h
  obtain ⟨h, haddress⟩ := Text.blank_hexColumn_inj h
  obtain ⟨h, hkind⟩ := Text.blank_padRight_inj (SectionKind.solid_label _)
    (SectionKind.solid_label _) (SectionKind.label_ne_empty _) (SectionKind.label_ne_empty _) h
  have hname : padRight 18 first.shownName = padRight 18 second.shownName :=
    (String.append_right_inj _).1 h
  exact {
    name := by simpa using congrArg Text.trimmed hname
    kind := SectionKind.label_injective hkind
    address := UInt64.toNat_inj.1 haddress
    offset := UInt64.toNat_inj.1 hoffset
    size := UInt64.toNat_inj.1 hsize
    entrySize := UInt64.toNat_inj.1 hentrySize
    flags := SectionHeader.letters_flagSet_eq_iff.1 hletters
    link := UInt32.toNat_inj.1 hlink
    info := UInt32.toNat_inj.1 hinfo
    alignment := UInt64.toNat_inj.1 (Text.decimal_injective halignment) }

/-- A row holds the newlines of the name and no others. -/
theorem newlines_sectionRow (index : Nat) (entry : SectionHeader) :
    newlines (sectionRow index entry) = newlines entry.shownName := by
  have hblank : newlines " " = 0 := rfl
  have hopen : newlines "  [" = 0 := rfl
  have hclose : newlines "] " = 0 := rfl
  unfold sectionRow
  simp only [newlines_append, newlines_padLeft, newlines_padRight, newlines_decimal,
    newlines_hexColumn, hblank, hopen, hclose, newlines_of_solid (SectionKind.solid_label _),
    newlines_of_solid (FlagSet.solid_letters _), Nat.zero_add, Nat.add_zero]
  rfl

/-! ## All rows -/

/-- The report is a table, with a row for each section. -/
theorem sectionLines_eq (sections : List SectionHeader) :
    sectionLines sections = table "Section Headers:" sectionColumns sectionRow sections := by
  rw [sectionLines, table, sectionRows_eq]
  simp only [Nat.zero_add]

/-- Sections are reported under their names. -/
theorem namedRows_sections (sections : List SectionHeader) :
    NamedRows "Section Headers:" sectionColumns sectionRow SectionHeader.shownName sections where
  title := rfl
  columns := rfl
  row index entry _ := newlines_sectionRow index entry

/-- Sections whose names hold no newlines and that are reported by the same text agree, one by one,
in all that the report shows. -/
theorem alike_of_sectionReport_eq {first second : List SectionHeader}
    (hnames : ∀ entry ∈ first, ∀ name ∈ entry.name, '\n' ∉ name.toList)
    (hothers : ∀ entry ∈ second, ∀ name ∈ entry.name, '\n' ∉ name.toList)
    (h : text (sectionLines first) = text (sectionLines second)) :
    List.Forall₂ SectionHeader.Alike first second := by
  rw [sectionLines_eq, sectionLines_eq] at h
  apply (namedRows_sections first).forall₂_of_text_eq (namedRows_sections second) ?_ ?_ ?_ h
  · exact fun entry hmem => SectionHeader.newline_not_mem_shownName_iff.2 (hnames entry hmem)
  · exact fun entry hmem => SectionHeader.newline_not_mem_shownName_iff.2 (hothers entry hmem)
  · exact fun index a _ b _ hrow => sectionRow_inj hrow

/-! ## Sections that look the same -/

/-- A section whose name looks like columns and whose place in the file is wider than its own. -/
def oddSection : SectionHeader where
  nameOffset := 1
  name := some "] 0 [NOTE"
  kind := 0x7fffffff
  flags := 0x80000030
  address := 0
  offset := 0x123456789abc
  size := 16
  link := 70000
  info := 0
  alignment := 4
  entrySize := 0

/-- The odd section, and one without flags and without a name. -/
def oddSections : List SectionHeader := [oddSection, { oddSection with name := none, flags := 0 }]

/-- The same sections with blanks at the end of the first name, with a further bit that belongs to
no flag, and with a second name that reads as if it were missing. -/
def twinSections : List SectionHeader :=
  [{ oddSection with nameOffset := 9, name := some "] 0 [NOTE  ", flags := 0x80001030 },
    { oddSection with name := some "<corrupt>", flags := 0 }]

/-- The report does not tell the odd sections from their twins. -/
theorem alike_oddSections :
    (∀ entry ∈ oddSections, ∀ name ∈ entry.name, '\n' ∉ name.toList) ∧
    (∀ entry ∈ twinSections, ∀ name ∈ entry.name, '\n' ∉ name.toList) ∧
    text (sectionLines oddSections) = text (sectionLines twinSections) ∧
    oddSections ≠ twinSections ∧
    List.Forall₂ SectionHeader.Alike oddSections twinSections := by
  have hnames : ∀ entry ∈ oddSections, ∀ name ∈ entry.name, '\n' ∉ name.toList := by decide
  have hothers : ∀ entry ∈ twinSections, ∀ name ∈ entry.name, '\n' ∉ name.toList := by decide
  have htext : text (sectionLines oddSections) = text (sectionLines twinSections) := by
    decide +kernel
  exact ⟨hnames, hothers, htext, by decide, alike_of_sectionReport_eq hnames hothers htext⟩

end Report

end ElfScope
