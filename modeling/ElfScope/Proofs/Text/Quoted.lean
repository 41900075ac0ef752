import ElfScope.Proofs.Text.Phrase
import ElfScope.Text.Quoted

/-!
# Quoted texts, read back

A text between quotes can be told from every other one (`quoted_injective`). Each character is
written as itself, as a mark behind a backslash, or by its code point (`Escaped`), and which of the
three it is shows in the first two characters, so the characters are read back one by one
(`Escaped.append_inj`).
-/

namespace ElfScope.Text

/-- The marks that stand for a character behind a backslash. -/
def marks : List (Char × Char) :=
  [('\x00', '0'), ('\t', 't'), ('\n', 'n'), ('\r', 'r'), ('"', '"'), ('\\', '\\')]

/-- `Escaped char chars` says that `chars` stand for `char` between quotes: the character itself
(`plain`), its mark behind a backslash (`marked`), or its code point in braces (`coded`). -/
inductive Escaped : Char → List Char → Prop where
  | plain {char : Char} (hne : char ≠ '\\') : Escaped char [char]
  | marked {char mark : Char} (hmark : (char, mark) ∈ marks) : Escaped char ['\\', mark]
  | coded (char : Char) :
      Escaped char ('\\' :: 'u' :: '\x7b' :: (Nat.toDigits 16 char.toNat ++ ['\x7d']))

/-- Every character is written in one of the three ways. -/
theorem escaped_escape (char : Char) : Escaped char (escape char) := by
  unfold escape
  split
  case h_7 hne =>
    split
    · exact .plain hne
    · exact .coded char
  all_goals exact .marked (by decide)

/-- No mark stands for two characters. -/
theorem eq_of_mem_marks :
    ∀ first ∈ marks, ∀ second ∈ marks, first.2 = second.2 → first.1 = second.1 := by
  decide

/-- No mark reads like the beginning of a code point. -/
theorem ne_of_mem_marks : ∀ pair ∈ marks, pair.2 ≠ 'u' := by
  decide

/-- Code points are read back up to the closing brace. -/
theorem toDigits_brace_inj {first second : Nat} {rest other : List Char}
    (h : Nat.toDigits 16 first ++ '\x7d' :: rest = Nat.toDigits 16 second ++ '\x7d' :: other) :
    first = second ∧ rest = other := by
  have hends (chars : List Char) : EndsNumber (String.ofList ('\x7d' :: chars)) := by
    rw [endsNumber_iff, String.toList_ofList]
    exact ⟨_, rfl, by decide⟩
  have hsame : Nat.toDigits 16 first ++ (String.ofList ('\x7d' :: rest)).toList
      = Nat.toDigits 16 second ++ (String.ofList ('\x7d' :: other)).toList := by
    rwa [String.toList_ofList, String.toList_ofList]
  obtain ⟨hdigits, hrest⟩ := toDigits_append_inj (by decide) (by decide) (hends rest) (hends other)
    hsame
  refine ⟨hex_injective (congrArg String.ofList hdigits), ?_⟩
  exact (List.cons.inj (String.ofList_inj.1 hrest)).2

/-- What stands for a character is told from what follows it. -/
theorem Escaped.append_inj {first second : Char} {chars others rest other : List Char}
    (hfirst : Escaped first chars) (hsecond : Escaped second others)
    (h : chars ++ rest = others ++ other) : first = second ∧ rest = other := by
  cases hfirst with
  | plain hne =>
    cases hsecond with
    | plain => exact List.cons.inj h
    | marked | coded => exact absurd (List.cons.inj h).1 hne
  | marked hmark =>
    cases hsecond with
    | plain hne => exact absurd (List.cons.inj h).1.symm hne
    | marked hother =>
      obtain ⟨-, htail⟩ := List.cons.inj h
      obtain ⟨hmarks, hrest⟩ := List.cons.inj htail
      exact ⟨eq_of_mem_marks _ hmark _ hother hmarks, hrest⟩
    | coded =>
      obtain ⟨-, htail⟩ := List.cons.inj h
      exact absurd (List.cons.inj htail).1 (ne_of_mem_marks _ hmark)
  | coded =>
    cases hsecond with
    | plain hne => exact absurd (List.cons.inj h).1.symm hne
    | marked hother =>
      obtain ⟨-, htail⟩ := List.cons.inj h
      exact absurd (List.cons.inj htail).1.symm (ne_of_mem_marks _ hother)
    | coded =>
      simp only [List.cons_append, List.append_assoc, List.nil_append, List.cons.injEq,
        true_and] at h
      obtain ⟨hcode, hrest⟩ := toDigits_brace_inj h
      exact ⟨Char.toNat_inj.1 hcode, hrest⟩

/-- Something stands for every character. -/
theorem Escaped.ne_nil {char : Char} {chars : List Char} (h : Escaped char chars) : chars ≠ [] := by
  cases h <;> exact List.cons_ne_nil _ _

/-- Characters are read back one by one. -/
theorem flatMap_escape_injective : Function.Injective (List.flatMap escape) := by
  intro first second h
  induction first generalizing second with
  | nil =>
    cases second with
    | nil => rfl
    | cons char rest =>
      rw [List.flatMap_nil, List.flatMap_cons] at h
      exact absurd (List.append_eq_nil_iff.1 h.symm).1 (escaped_escape char).ne_nil
  | cons char rest ih =>
    cases second with
    | nil =>
      rw [List.flatMap_nil, List.flatMap_cons] at h
      exact absurd (List.append_eq_nil_iff.1 h).1 (escaped_escape char).ne_nil
    | cons other others =>
      rw [List.flatMap_cons, List.flatMap_cons] at h
      obtain ⟨rfl, hrest⟩ := (escaped_escape char).append_inj (escaped_escape other) h
      rw [ih hrest]

/-- Different texts are different between quotes. -/
theorem quoted_injective : Function.Injective quoted := by
  intro first second h
  obtain ⟨-, hchars⟩ := List.cons.inj (String.ofList_inj.1 h)
  exact String.toList_inj.1 (flatMap_escape_injective (List.append_cancel_right hchars))

end ElfScope.Text
