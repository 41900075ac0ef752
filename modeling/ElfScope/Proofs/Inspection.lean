import ElfScope.Inspection
import ElfScope.Proofs.FileHeader
import ElfScope.Proofs.Symbol

/-!
# Inspecting a file, stage by stage

The outcome of `inspect` is the outcome of its three stages (`value_inspect`), of which the last has
an outcome of its own (`symbols_of_inspect`).
-/

namespace ElfScope

/-- An inspection reads the header, then the sections under it, then the symbols, and fails at the
first of the former two that cannot be read. -/
theorem value_inspect (data : Bytes) (mode : LabelMode) :
    (inspect data mode).value =
      match FileHeader.decode data with
      | .error error => .error (.header error)
      | .ok header =>
        match (SectionTable.read data header).value with
        | .error error => .error (.sections error)
        | .ok sections => .ok {
            header
            sections
            symbols := (SymbolTable.read data header.order sections mode).value } := by
  rw [inspect]
  cases FileHeader.decode data with
  | error error => rfl
  | ok header =>
    dsimp only [Traced.value_bind]
    cases (SectionTable.read data header).value <;> rfl

/-- The symbols of an inspected file are read from its sections. -/
theorem symbols_of_inspect {data : Bytes} {mode : LabelMode} {inspection : Inspection}
    (h : (inspect data mode).value = .ok inspection) :
    inspection.symbols
      = (SymbolTable.read data inspection.header.order inspection.sections mode).value := by
  rw [value_inspect] at h
  split at h
  case h_1 => cases h
  case h_2 =>
    split at h
    case h_1 => cases h
    case h_2 =>
      cases h
      rfl

end ElfScope
