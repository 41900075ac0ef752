import ElfScope.Proofs.Report.Section
import ElfScope.Proofs.Report.Symbol

/-!
# A line for each row

Names are printed as the file holds them. So a report has a line of its own for each entry exactly
if no name holds a newline (`rowEach_reports_iff`), and a name with a newline splits its row
(`newline_splits_row`).
-/

namespace ElfScope.Report

/-- In the reports on a file, the sections and the symbols have a line each, the line of their row,
exactly if no name of theirs holds a newline. -/
theorem rowEach_reports_iff {data : Bytes} {mode : LabelMode} {inspection : Inspection}
    (h : (inspect data mode).value = .ok inspection) :
    (RowEach (text (sectionLines inspection.sections)) sectionRow inspection.sections ↔
      ∀ entry ∈ inspection.sections, ∀ name ∈ entry.name, '\n' ∉ name.toList) ∧
    ∀ symbols, inspection.symbols = .ok symbols →
      (RowEach (text (symbolLines symbols)) (fun _ => symbolRow) symbols ↔
        ∀ symbol ∈ symbols, '\n' ∉ symbol.name.toList) := by
  constructor
  · rw [sectionLines_eq, (namedRows_sections inspection.sections).rowEach_iff]
    exact forall₂_congr fun entry _ => SectionHeader.newline_not_mem_shownName_iff
  · intro symbols hsymbols
    rw [symbols_of_inspect h] at hsymbols
    rw [symbolLines_eq]
    exact (namedRows_of_read hsymbols).rowEach_iff

/-! ## A name with a newline -/

/-- Names of which one holds a newline. -/
def splitNames : Bytes := #[0, 0x61, 0x0a, 0x62, 0, 0x63, 0, 0, 0]

/-- A symbol whose name holds none. -/
def plainSymbol : Symbol :=
  { Sample.symbol with nameOffset := 5, name := "c" }

/-- The sections under these names. -/
def splitSections : List SectionHeader :=
  [{ Sample.null with name := some "" }, { Sample.table with name := some "a\nb" },
    { Sample.strings with name := some "c" }]

/-- A file whose symbol table has the name with the newline. -/
theorem value_inspect_split :
    (inspect (Sample.layout plainSymbol splitNames) .full).value
      = .ok ⟨Sample.header, splitSections, .ok [plainSymbol]⟩ := by
  have hnamed : SectionTable.named (Sample.layout plainSymbol splitNames) Sample.header
      (Sample.sections.map SectionHeader.unnamed) = splitSections := by
    have hholder : SectionTable.nameHolder? Sample.header
        (Sample.sections.map SectionHeader.unnamed) = some Sample.strings := rfl
    have hfits : Sample.strings.Fits (Sample.layout plainSymbol splitNames).size :=
      (Sample.placed_layout rfl).strings_fits
    have hbody : Sample.strings.body (Sample.layout plainSymbol splitNames) = splitNames :=
      Sample.body_layout rfl
    rw [SectionTable.named, hholder]
    simp only [if_pos hfits, hbody]
    decide
  rw [(Sample.encodes_layout rfl).value_inspect, Sample.value_read_layout rfl (by decide), hnamed]
  rfl

/-- Its symbols have a line each, and its sections do not. -/
theorem rowEach_split :
    (inspect (Sample.layout plainSymbol splitNames) .full).value
      = .ok ⟨Sample.header, splitSections, .ok [plainSymbol]⟩ ∧
    ¬ RowEach (text (sectionLines splitSections)) sectionRow splitSections ∧
    RowEach (text (symbolLines [plainSymbol])) (fun _ => symbolRow) [plainSymbol] := by
  obtain ⟨hsections, hsymbols⟩ := rowEach_reports_iff value_inspect_split
  refine ⟨value_inspect_split, ?_, (hsymbols [plainSymbol] rfl).2 (by decide)⟩
  rw [hsections]
  decide

/-- The section report has a line too many. -/
theorem newline_splits_row : ∃ inspection,
    (inspect (Sample.layout plainSymbol splitNames) .full).value = .ok inspection ∧
      inspection.sections.length + 2 < newlines (text (sectionLines inspection.sections)) := by
  refine ⟨_, value_inspect_split, ?_⟩
  rw [sectionLines_eq, (namedRows_sections splitSections).newlines_text_table]
  decide

end ElfScope.Report
