import ElfScope.Proofs.Text.Column
import ElfScope.Section.Basic
import Mathlib.Data.List.Basic
import Mathlib.Data.Nat.Bitwise

/-!
# The labels of sections

Every kind has a label of its own (`SectionKind.label_injective`), and the letters of a flag word
settle all of its bits that belong to flags (`FlagSet.truncate_eq_of_letters_eq`). Labels and
letters are solid, but a flag word may have no letters at all.
-/

namespace ElfScope

open Text (Solid hexLiteral)

/-! ## Kinds -/

namespace SectionKind

/-- A kind is labelled by its name or by its number. -/
theorem label_cases (kind : UInt32) :
    (kind, label kind) ∈ names ∨ label kind = hexLiteral kind.toNat := by
  cases hfound : names.lookup kind with
  | none => exact .inr (by rw [label, hfound, Option.getD_none])
  | some name =>
    obtain ⟨before, behind, hsplit, -⟩ := List.lookup_eq_some_iff.1 hfound
    refine .inl ?_
    rw [label, hfound, Option.getD_some, hsplit]
    exact List.mem_append_right before List.mem_cons_self

/-- No two kinds have the same name. -/
theorem eq_of_mem_names : ∀ first ∈ names, ∀ second ∈ names,
    first.2 = second.2 → first.1 = second.1 := by
  decide

/-- No name is written like a number. -/
theorem hexLiteral_not_mem_names {kind : UInt32} {number : Nat} :
    (kind, hexLiteral number) ∉ names := by
  have hnames : ∀ entry ∈ names, entry.2.toList.head? ≠ some '0' := by decide
  intro hmem
  exact hnames _ hmem (by simp [hexLiteral])

/-- Different kinds are labelled differently. -/
theorem label_injective : Function.Injective label := by
  intro first second h
  rcases label_cases first with hfirst | hfirst <;> rcases label_cases second with hsecond | hsecond
  · exact eq_of_mem_names _ hfirst _ hsecond h
  · rw [h, hsecond] at hfirst
    exact absurd hfirst hexLiteral_not_mem_names
  · rw [← h, hfirst] at hsecond
    exact absurd hsecond hexLiteral_not_mem_names
  · rw [hfirst, hsecond, hexLiteral, hexLiteral] at h
    exact UInt32.toNat_inj.1 (Text.hex_injective ((String.append_right_inj _).1 h))

/-- The label of a kind has no blanks and no newlines. -/
theorem solid_label (kind : UInt32) : Solid (label kind) := by
  have hnames : ∀ entry ∈ names, Solid entry.2 := by decide
  rcases label_cases kind with hmem | hnumber
  · exact hnames (kind, label kind) hmem
  · exact hnumber ▸ Text.solid_hexLiteral _

/-- The label of a kind is not empty. -/
theorem label_ne_empty (kind : UInt32) : label kind ≠ "" := by
  have hnames : ∀ entry ∈ names, entry.2 ≠ "" := by decide
  rcases label_cases kind with hmem | hnumber
  · exact hnames (kind, label kind) hmem
  · simp [hnumber, hexLiteral]

end SectionKind

/-! ## Flags -/

namespace SectionFlag

/-- The list of all flags holds each of them. -/
theorem mem_all (flag : SectionFlag) : flag ∈ all := by
  cases flag <;> decide

/-- No two flags have the same letter. -/
theorem letter_injective : Function.Injective letter := by
  have hletters : ∀ first ∈ all, ∀ second ∈ all,
      letter first = letter second → first = second := by
    decide
  exact fun first second => hletters first (mem_all first) second (mem_all second)

/-- Every flag has one bit. -/
theorem exists_mask_eq (flag : SectionFlag) : ∃ position, flag.mask.toNat = 2 ^ position := by
  have hbits : ∀ flag ∈ all, ∃ position < 32, flag.mask.toNat = 2 ^ position := by decide
  obtain ⟨position, -, hmask⟩ := hbits flag (mem_all flag)
  exact ⟨position, hmask⟩

end SectionFlag

namespace FlagSet

/-- Of a flag's bit, a set holds all or nothing. -/
theorem and_mask (set : FlagSet) (flag : SectionFlag) :
    set.bits &&& flag.mask = if set.contains flag then flag.mask else 0 := by
  obtain ⟨position, hmask⟩ := flag.exists_mask_eq
  have hbit : (set.bits &&& flag.mask).toNat
      = (set.bits.toNat.testBit position).toNat * flag.mask.toNat := by
    rw [UInt64.toNat_and, hmask, Nat.and_two_pow]
  have hcases : set.bits &&& flag.mask = flag.mask ∨ set.bits &&& flag.mask = 0 := by
    cases hset : set.bits.toNat.testBit position with
    | true => exact .inl (UInt64.toNat_inj.1 (by simpa [hset] using hbit))
    | false => exact .inr (UInt64.toNat_inj.1 (by simpa [hset] using hbit))
  split
  case isTrue hcontains => exact eq_of_beq hcontains
  case isFalse hcontains => exact hcases.resolve_left fun h => hcontains (beq_iff_eq.2 h)

/-- Some bits together with those of some flags. -/
def withFlags (bits : UInt64) (flags : List SectionFlag) : UInt64 :=
  flags.foldl (fun bits flag => bits ||| flag.mask) bits

/-- A set holds the bits of those flags that it contains. -/
theorem and_withFlags (set : FlagSet) (bits : UInt64) (flags : List SectionFlag) :
    set.bits &&& withFlags bits flags
      = withFlags (set.bits &&& bits) (flags.filter set.contains) := by
  induction flags generalizing bits with
  | nil => rfl
  | cons flag rest ih =>
    have hdistrib : set.bits &&& (bits ||| flag.mask)
        = set.bits &&& bits ||| set.bits &&& flag.mask := by
      apply UInt64.toNat_inj.1
      simp only [UInt64.toNat_and, UInt64.toNat_or, Nat.and_or_distrib_left]
    have hstep := ih (bits ||| flag.mask)
    rw [hdistrib, and_mask] at hstep
    rw [withFlags, List.foldl_cons, ← withFlags, hstep, List.filter_cons]
    split
    case isTrue => rfl
    case isFalse => rw [UInt64.or_zero]

/-- The known bits of a set are the bits of its flags. -/
theorem bits_truncate (set : FlagSet) :
    set.truncate.bits = withFlags 0 (SectionFlag.all.filter set.contains) := by
  have hbits := and_withFlags set 0 SectionFlag.all
  rwa [UInt64.and_zero] at hbits

/-- Letters settle the known bits. -/
theorem truncate_eq_of_letters_eq {set other : FlagSet} (h : set.letters = other.letters) :
    set.truncate = other.truncate := by
  have hflags : SectionFlag.all.filter set.contains = SectionFlag.all.filter other.contains :=
    List.map_injective_iff.2 SectionFlag.letter_injective (String.ofList_inj.1 h)
  have hbits : set.truncate.bits = other.truncate.bits := by
    rw [bits_truncate, bits_truncate, hflags]
  rw [truncate, truncate, FlagSet.mk.injEq]
  exact hbits

/-- The letters of a set have no blanks and no newlines among them. -/
theorem solid_letters (set : FlagSet) : Solid set.letters := by
  have hletter : ∀ flag ∈ SectionFlag.all, flag.letter ≠ ' ' ∧ flag.letter ≠ '\n' := by decide
  have hmem {char : Char} (h : char ∈ set.letters.toList) : char ≠ ' ' ∧ char ≠ '\n' := by
    rw [letters, String.toList_ofList] at h
    obtain ⟨flag, hflag, rfl⟩ := List.mem_map.1 h
    exact hletter flag (List.mem_of_mem_filter hflag)
  exact ⟨fun h => (hmem h).1 rfl, fun h => (hmem h).2 rfl⟩

end FlagSet

end ElfScope
