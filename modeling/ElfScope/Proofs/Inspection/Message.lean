import ElfScope.Inspection
import ElfScope.Proofs.Text.Phrase

/-!
# Errors, told apart by their messages

The message of an error opens with words that belong to its kind, and then shows each of its fields.
So a message settles the error, within each stage and across the stages (`messages_identify`).
-/

namespace ElfScope

open Text (EndsNumber append_ne_append decimal decimal_append_inj decimal_append_ne
  decimal_injective decimal_words_inj hexLiteral_injective hexLiteral_words_inj)

-- To derive the equations of a message takes long, so its definition is unfolded as it stands.

/-! ## One stage -/

/-- No two range errors have the same message. -/
theorem RangeError.message_injective : Function.Injective message := by
  intro first second h
  delta message at h
  simp only [String.append_assoc, String.append_right_inj] at h
  obtain ⟨hlength, h⟩ := decimal_words_inj (by decide) h
  obtain ⟨hoffset, hsize⟩ := hexLiteral_words_inj (by decide) h
  rw [RangeError.mk.injEq]
  exact ⟨UInt64.toNat_inj.1 hoffset, UInt64.toNat_inj.1 hlength, hexLiteral_injective hsize⟩

/-- No two defects of a header have the same message. -/
theorem HeaderError.message_injective : Function.Injective message := by
  intro first second h
  delta message at h
  cases first <;> cases second
  case truncated.truncated length other =>
    simp only [String.append_assoc, String.append_right_inj, String.append_left_inj] at h
    rw [decimal_injective h]
  case badMagic.badMagic found other =>
    have hbytes := Text.intercalate_hexByte_inj (by simp) ((String.append_right_inj _).1 h)
    rw [Vector.toList_inj.1 hbytes]
  case unsupportedClass.unsupportedClass found other =>
    simp only [String.append_assoc, String.append_right_inj, String.append_left_inj] at h
    rw [UInt8.toNat_inj.1 (decimal_injective h)]
  case unsupportedEncoding.unsupportedEncoding found other =>
    simp only [String.append_assoc, String.append_right_inj, String.append_left_inj] at h
    rw [UInt8.toNat_inj.1 (decimal_injective h)]
  case range.range error other =>
    rw [RangeError.message_injective ((String.append_right_inj _).1 h)]
  -- Messages of different kinds open differently.
  all_goals
    simp only [String.append_assoc] at h
    exact absurd h (append_ne_append (by decide) _ _)

/-- No two defects of a section header table have the same message. -/
theorem SectionError.message_injective : Function.Injective message := by
  intro first second h
  delta message at h
  cases first <;> cases second
  case truncatedTable.truncatedTable =>
    simp only [String.append_assoc, String.append_right_inj] at h
    obtain ⟨hcount, h⟩ := decimal_words_inj (by decide) h
    obtain ⟨hentrySize, h⟩ := decimal_words_inj (by decide) h
    obtain ⟨hoffset, hfileSize⟩ := hexLiteral_words_inj (by decide) h
    rw [SectionError.truncatedTable.injEq]
    exact ⟨UInt64.toNat_inj.1 hoffset, UInt16.toNat_inj.1 hcount, UInt16.toNat_inj.1 hentrySize,
      hexLiteral_injective hfileSize⟩
  case badEntrySize.badEntrySize found other =>
    simp only [String.append_assoc, String.append_right_inj, String.append_left_inj] at h
    rw [UInt16.toNat_inj.1 (decimal_injective h)]
  case range.range error other =>
    rw [RangeError.message_injective ((String.append_right_inj _).1 h)]
  all_goals
    simp only [String.append_assoc] at h
    exact absurd h (append_ne_append (by decide) _ _)

/-- A message about one symbol has a number where one about the table has a word. -/
theorem symbol_ne_table (index : Nat) (rest message : String) :
    "symbol " ++ (decimal index ++ rest) ≠ "symbol table: " ++ message := by
  have htable : "symbol table: " = "symbol " ++ "table: " := rfl
  intro h
  rw [htable, String.append_assoc, String.append_right_inj] at h
  have hwords : EndsNumber "table: " := by decide
  exact decimal_append_ne (hwords.append message) h

/-- What is wrong with a name stands behind the index of its symbol. -/
theorem nameOutOfRange_ne_unterminatedName (index other : Nat) (rest message : String) :
    "symbol " ++ (decimal index ++ (": name offset " ++ rest))
      ≠ "symbol " ++ (decimal other
        ++ (": unterminated name at string table offset " ++ message)) := by
  intro h
  rw [String.append_right_inj] at h
  have hname : EndsNumber ": name offset " := by decide
  have hend : EndsNumber ": unterminated name at string table offset " := by decide
  obtain ⟨-, hwords⟩ := decimal_append_inj (hname.append rest) (hend.append message) h
  exact append_ne_append (by decide) _ _ hwords

/-- Only the absence of symbols is told without numbers. -/
theorem SymbolError.eq_noSymbolTable {error : SymbolError}
    (h : error.message = "no symbol table") : error = .noSymbolTable := by
  delta message at h
  cases error
  case noSymbolTable => rfl
  all_goals
    simp only [String.append_assoc] at h
    exact absurd h (@append_ne_append _ "no symbol table" (by decide) _ "")

/-- No two defects of a symbol table have the same message. -/
theorem SymbolError.message_injective : Function.Injective message := by
  intro first second h
  by_cases hfirst : first = noSymbolTable
  · rw [hfirst] at h ⊢
    exact (eq_noSymbolTable h.symm).symm
  by_cases hsecond : second = noSymbolTable
  · rw [hsecond] at h ⊢
    exact eq_noSymbolTable h
  delta message at h
  cases first <;> cases second
  any_goals exact absurd rfl hfirst
  any_goals exact absurd rfl hsecond
  case badStringTableLink.badStringTableLink =>
    simp only [String.append_assoc, String.append_right_inj] at h
    obtain ⟨hlink, h⟩ := decimal_words_inj (by decide) h
    obtain ⟨htable, h⟩ := decimal_words_inj (by decide) h
    rw [SymbolError.badStringTableLink.injEq]
    exact ⟨htable, UInt32.toNat_inj.1 hlink, decimal_injective ((String.append_left_inj _).1 h)⟩
  case misalignedTable.misalignedTable =>
    simp only [String.append_assoc, String.append_right_inj] at h
    obtain ⟨htable, h⟩ := decimal_words_inj (by decide) h
    rw [SymbolError.misalignedTable.injEq]
    exact ⟨htable, UInt64.toNat_inj.1 (hexLiteral_injective ((String.append_left_inj _).1 h))⟩
  case nameOutOfRange.nameOutOfRange =>
    simp only [String.append_assoc, String.append_right_inj] at h
    obtain ⟨hindex, h⟩ := decimal_words_inj (by decide) h
    rw [SymbolError.nameOutOfRange.injEq]
    exact ⟨hindex, UInt32.toNat_inj.1 (hexLiteral_injective ((String.append_left_inj _).1 h))⟩
  case unterminatedName.unterminatedName =>
    simp only [String.append_assoc, String.append_right_inj] at h
    obtain ⟨hindex, hoffset⟩ := decimal_words_inj (by decide) h
    rw [SymbolError.unterminatedName.injEq]
    exact ⟨hindex, UInt32.toNat_inj.1 (hexLiteral_injective hoffset)⟩
  case range.range error other =>
    rw [RangeError.message_injective ((String.append_right_inj _).1 h)]
  all_goals simp only [String.append_assoc] at h
  -- The messages about one symbol and about the whole table share their first word.
  case nameOutOfRange.unterminatedName =>
    exact absurd h (nameOutOfRange_ne_unterminatedName _ _ _ _)
  case unterminatedName.nameOutOfRange =>
    exact absurd h.symm (nameOutOfRange_ne_unterminatedName _ _ _ _)
  case nameOutOfRange.range | unterminatedName.range => exact absurd h (symbol_ne_table _ _ _)
  case range.nameOutOfRange | range.unterminatedName =>
    exact absurd h.symm (symbol_ne_table _ _ _)
  all_goals exact absurd h (append_ne_append (by decide) _ _)

/-! ## All stages -/

/-- No two reasons why a file cannot be inspected have the same message. -/
theorem InspectError.message_injective : Function.Injective message := by
  intro first second h
  delta message at h
  cases first <;> cases second
  case header.header error other =>
    rw [HeaderError.message_injective ((String.append_right_inj _).1 h)]
  case sections.sections error other =>
    rw [SectionError.message_injective ((String.append_right_inj _).1 h)]
  case symbols.symbols error other =>
    rw [SymbolError.message_injective ((String.append_right_inj _).1 h)]
  all_goals exact absurd h (append_ne_append (by decide) _ _)

/-- Errors are the same if they say the same, in each stage and wherever a file is refused. -/
theorem messages_identify :
    (∀ first second : InspectError, first.message = second.message ↔ first = second) ∧
    (∀ first second : HeaderError, first.message = second.message ↔ first = second) ∧
    (∀ first second : SectionError, first.message = second.message ↔ first = second) ∧
    ∀ first second : SymbolError, first.message = second.message ↔ first = second := by
  refine ⟨?_, ?_, ?_, ?_⟩
  · exact fun _ _ => InspectError.message_injective.eq_iff
  · exact fun _ _ => HeaderError.message_injective.eq_iff
  · exact fun _ _ => SectionError.message_injective.eq_iff
  · exact fun _ _ => SymbolError.message_injective.eq_iff

end ElfScope
