import ElfScope.Proofs.Inspection.RoundTrip
import ElfScope.Proofs.Machine.Symbol

/-!
# Inspection on a machine

A file is inspected by operations that may crash, and none of them does (`crashFree`): each is
preceded by the check that it needs, whatever the file holds, and whatever header and sections a
reader is called with.
-/

namespace ElfScope.Machine

open Outcome

/-- Inspects a file. -/
def inspect (data : Bytes) (mode : LabelMode) : Outcome InspectError Inspection := do
  let header ← (decodeHeader data).mapError .header
  let sections ← (readSections data header).mapError .sections
  let symbols ← (readSymbols data header sections mode).attempt
  return { header, sections, symbols }

/-- A file is inspected without a crash. -/
theorem inspect_eq {data : Bytes} (h : data.size < 2 ^ 63) (mode : LabelMode) :
    inspect data mode = settled (ElfScope.inspect data mode).value := by
  rw [inspect, value_inspect, decodeHeader_eq h]
  cases FileHeader.decode data with
  | error error => rfl
  | ok header =>
    dsimp only
    rw [mapError_settled_ok, settled_ok_bind, readSections_eq h]
    cases (SectionTable.read data header).value with
    | error error => rfl
    | ok sections =>
      dsimp only
      rw [mapError_settled_ok, settled_ok_bind, readSymbols_eq h, attempt_settled]
      rfl

/-- No reader crashes on these bytes, and none reports a range of its own: a range outside the file
is that of a section.

The header is read or refused (`header_eq`), and no field is outside of it (`header_range`). So is
the table of any header, forged or not (`sections_eq`, `sections_range`), the contents of any
section (`contents_eq`), and any string of a string table with these bytes (`string_eq`). The
symbols under any sections are read or refused (`symbols_eq`), and a range outside the file is that
of the first symbol table or of the section it links to (`symbols_range`). So the file is inspected
or refused (`inspect_eq`), and no inspection ends in a crash (`inspect_ne_crash`). -/
structure CrashFree (data : Bytes) : Prop where
  header_eq : decodeHeader data = settled (FileHeader.decode data)
  header_range : ∀ error, FileHeader.decode data ≠ .error (.range error)
  sections_eq : ∀ header, readSections data header = settled (SectionTable.read data header).value
  sections_range : ∀ header error,
    (SectionTable.read data header).value ≠ .error (.range error)
  contents_eq : ∀ entry, contents entry data = settled (entry.contents data)
  string_eq : ∀ offset, string data offset = settled ((StringTable.ofBytes data).get offset)
  symbols_eq : ∀ header sections mode, readSymbols data header sections mode
    = settled (SymbolTable.read data header.order sections mode).value
  symbols_range : ∀ order sections mode error,
    (SymbolTable.read data order sections mode).value = .error (.range error) →
      ∃ table holder, SymbolTable.IsFirst sections table holder ∧
        (error = ⟨holder.offset, holder.size, data.size⟩ ∨
          ∃ strings, SymbolTable.linked? sections holder.link = some strings ∧
            error = ⟨strings.offset, strings.size, data.size⟩)
  inspect_eq : ∀ mode, inspect data mode = settled (ElfScope.inspect data mode).value
  inspect_ne_crash : ∀ mode cause, inspect data mode ≠ crash cause

/-- No reader crashes on a file that fits into memory. -/
theorem crashFree {data : Bytes} (h : data.size < 2 ^ 63) : CrashFree data where
  header_eq := decodeHeader_eq h
  header_range := FileHeader.decode_ne_range
  sections_eq := readSections_eq h
  sections_range := SectionTable.value_read_ne_range
  contents_eq := contents_eq h
  string_eq := string_eq data
  symbols_eq := readSymbols_eq h
  symbols_range := fun _ _ _ _ => SymbolTable.value_read_range
  inspect_eq := inspect_eq h
  inspect_ne_crash := fun mode cause => by
    rw [inspect_eq h]
    exact settled_ne_crash _ cause

/-- The sample is small enough, also for a header with a table at the end of all words. -/
theorem crashFree_sample : Sample.image.size < 2 ^ 63 ∧
    (∀ mode, inspect Sample.image mode = settled (ElfScope.inspect Sample.image mode).value) ∧
    readSections Sample.image { Sample.header with sectionOffset := 0xffffffffffffffff }
      = refused (.truncatedTable 0xffffffffffffffff 3 72 313) := by
  have hsize : Sample.image.size < 2 ^ 63 := by
    rw [Sample.size_image]
    decide
  refine ⟨hsize, (crashFree hsize).inspect_eq, ((crashFree hsize).sections_eq _).trans ?_⟩
  rw [SectionTable.value_read, Sample.size_image]
  rfl

end ElfScope.Machine
