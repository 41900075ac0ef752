import ElfScope.Proofs.Text.Column

/-!
# Numbers among words

A message sets numbers among fixed words. Words that no digit leads end the number in front of them
(`EndsNumber`), so that a message is read back number by number (`decimal_words_inj`,
`hexLiteral_words_inj`). Messages that open with words of which neither starts the other are
different (`append_ne_append`).
-/

namespace ElfScope.Text

/-! ## Words behind a number -/

/-- Words that end a number in front of them: something other than a digit leads them. -/
def EndsNumber (words : String) : Prop :=
  words.toList.head?.map hexDigit? = some none

/-- `EndsNumber` is decidable by a look at the first character. -/
instance (words : String) : Decidable (EndsNumber words) :=
  inferInstanceAs (Decidable (_ = _))

/-- Words end a number exactly if there is a first character and it is no digit. -/
theorem endsNumber_iff {words : String} :
    EndsNumber words ↔ ∃ char, words.toList.head? = some char ∧ hexDigit? char = none :=
  Option.map_eq_some_iff

/-- Words that end a number end it with others behind them. -/
theorem EndsNumber.append {words : String} (h : EndsNumber words) (rest : String) :
    EndsNumber (words ++ rest) := by
  obtain ⟨char, hchar, hdigit⟩ := endsNumber_iff.1 h
  refine endsNumber_iff.2 ⟨char, ?_, hdigit⟩
  rw [String.toList_append, List.head?_append, hchar]
  rfl

section Numbers

variable {base first second : Nat} {words rest other : String}

/-- The digits in front of such words are all digits at the start of the text. -/
theorem takeWhile_toDigits_append (hbase : 1 < base) (hle : base ≤ 16) (hrest : EndsNumber rest)
    (number : Nat) :
    (Nat.toDigits base number ++ rest.toList).takeWhile (fun char => (hexDigit? char).isSome)
      = Nat.toDigits base number := by
  obtain ⟨char, hchar, hdigit⟩ := endsNumber_iff.1 hrest
  obtain ⟨chars, hchars⟩ := List.head?_eq_some_iff.1 hchar
  have hdigits : ∀ char ∈ Nat.toDigits base number, (hexDigit? char).isSome = true := by
    intro char hmem
    obtain ⟨digit, hlt, rfl⟩ := exists_digitChar_of_mem_toDigits hbase hmem
    rw [hexDigit?_digitChar digit (by omega)]
    rfl
  rw [List.takeWhile_append_of_pos hdigits, hchars, List.takeWhile_cons, hdigit]
  exact List.append_nil _

/-- The digits of a number and words that end it, one behind the other, determine both. -/
theorem toDigits_append_inj (hbase : 1 < base) (hle : base ≤ 16) (hrest : EndsNumber rest)
    (hother : EndsNumber other)
    (h : Nat.toDigits base first ++ rest.toList = Nat.toDigits base second ++ other.toList) :
    Nat.toDigits base first = Nat.toDigits base second ∧ rest = other := by
  have hdigits : Nat.toDigits base first = Nat.toDigits base second := by
    rw [← takeWhile_toDigits_append hbase hle hrest, h, takeWhile_toDigits_append hbase hle hother]
  rw [hdigits] at h
  exact ⟨hdigits, String.toList_inj.1 (List.append_cancel_left h)⟩

/-- A number in front of such words and the words behind it are settled. -/
theorem decimal_append_inj (hrest : EndsNumber rest) (hother : EndsNumber other)
    (h : decimal first ++ rest = decimal second ++ other) : first = second ∧ rest = other := by
  have hchars := congrArg String.toList h
  simp only [String.toList_append, toList_decimal] at hchars
  obtain ⟨hdigits, hwords⟩ := toDigits_append_inj (by decide) (by decide) hrest hother hchars
  exact ⟨decimal_injective (congrArg String.ofList hdigits), hwords⟩

/-- A hexadecimal literal and words that end it, one behind the other, determine both. -/
theorem hexLiteral_append_inj (hrest : EndsNumber rest) (hother : EndsNumber other)
    (h : hexLiteral first ++ rest = hexLiteral second ++ other) :
    first = second ∧ rest = other := by
  rw [hexLiteral, hexLiteral, String.append_assoc, String.append_assoc,
    String.append_right_inj] at h
  have hchars := congrArg String.toList h
  simp only [String.toList_append, toList_hex] at hchars
  obtain ⟨hdigits, hwords⟩ := toDigits_append_inj (by decide) (by decide) hrest hother hchars
  exact ⟨hex_injective (congrArg String.ofList hdigits), hwords⟩

/-- A decimal and what is behind the same words determine both. -/
theorem decimal_words_inj (hwords : EndsNumber words)
    (h : decimal first ++ (words ++ rest) = decimal second ++ (words ++ other)) :
    first = second ∧ rest = other := by
  obtain ⟨hnumber, hrest⟩ := decimal_append_inj (hwords.append rest) (hwords.append other) h
  exact ⟨hnumber, (String.append_right_inj words).1 hrest⟩

/-- A hexadecimal literal and what is behind the same words determine both. -/
theorem hexLiteral_words_inj (hwords : EndsNumber words)
    (h : hexLiteral first ++ (words ++ rest) = hexLiteral second ++ (words ++ other)) :
    first = second ∧ rest = other := by
  obtain ⟨hnumber, hrest⟩ := hexLiteral_append_inj (hwords.append rest) (hwords.append other) h
  exact ⟨hnumber, (String.append_right_inj words).1 hrest⟩

/-- A number does not start like words that would end it. -/
theorem decimal_append_ne (hother : EndsNumber other) : decimal first ++ rest ≠ other := by
  rintro rfl
  obtain ⟨char, hchar, hdigit⟩ := endsNumber_iff.1 hother
  obtain ⟨digit, digits, hdigits⟩ := List.exists_cons_of_ne_nil (@Nat.toDigits_ne_nil first 10)
  simp only [String.toList_append, toList_decimal, hdigits, List.cons_append, List.head?_cons,
    Option.some.injEq] at hchar
  subst hchar
  obtain ⟨value, hlt, rfl⟩ := exists_digitChar_of_mem_toDigits (by decide)
    (hdigits ▸ List.mem_cons_self : digit ∈ Nat.toDigits 10 first)
  rw [hexDigit?_digitChar value (by omega)] at hdigit
  cases hdigit

end Numbers

/-! ## Words in front -/

/-- Texts that open with words of which neither starts the other are different. -/
theorem append_ne_append {first second : String}
    (h : ¬ (first.toList <+: second.toList ∨ second.toList <+: first.toList))
    (rest other : String) : first ++ rest ≠ second ++ other := by
  intro heq
  have hchars := congrArg String.toList heq
  rw [String.toList_append, String.toList_append] at hchars
  exact h (List.prefix_or_prefix_of_prefix ⟨_, rfl⟩ ⟨_, hchars.symm⟩)

/-! ## Bytes with blanks between them -/

/-- A blank in front of texts with blanks between them is one in front of each. -/
theorem blank_append_intercalate {texts : List String} (hne : texts ≠ []) :
    " " ++ " ".intercalate texts = String.join (texts.map (" " ++ ·)) := by
  induction texts with
  | nil => exact absurd rfl hne
  | cons text rest ih =>
    cases rest with
    | nil => simp
    | cons other others =>
      rw [String.intercalate_cons_cons, List.map_cons, String.join_cons, ← ih (by simp)]
      simp only [String.append_assoc]

/-- Bytes are settled by their digits with blanks between them. -/
theorem intercalate_hexByte_inj {first second : List UInt8} (hlength : first.length = second.length)
    (h : " ".intercalate (first.map hexByte) = " ".intercalate (second.map hexByte)) :
    first = second := by
  by_cases hne : first = []
  · subst hne
    exact (List.eq_nil_of_length_eq_zero hlength.symm).symm
  · have hother : second ≠ [] := by
      rintro rfl
      exact hne (List.eq_nil_of_length_eq_zero hlength)
    have hblank := congrArg (" " ++ ·) h
    rw [blank_append_intercalate (by simpa using hne),
      blank_append_intercalate (by simpa using hother), List.map_map, List.map_map] at hblank
    exact hexBytes_inj hlength hblank

end ElfScope.Text
