import ElfScope.Proofs.Section.Label

/-!
# What the letters of a section say

The letters of a flag word are those of its flags, in the order of `WAXMSILOGTCE`. Bits that belong
to no flag have no letter (`FlagSet.letters_truncate`), and a flag is in the union of two words
exactly if it is in one of them (`FlagSet.contains_or`). So the letters say of each of the twelve
known bits whether it is set, and nothing else (`SectionHeader.letters_say`).
-/

namespace ElfScope

namespace FlagSet

variable {set other : FlagSet} {flag : SectionFlag}

/-- The letters of all flags. -/
theorem map_letter_all : SectionFlag.all.map SectionFlag.letter = "WAXMSILOGTCE".toList := by
  decide

/-- The bits that belong to flags, as one number. -/
theorem knownBits_eq : knownBits = 0x80000ff7 := by
  decide

/-- The bit of a flag is a known one. -/
theorem knownBits_and_mask (flag : SectionFlag) : knownBits &&& flag.mask = flag.mask := by
  cases flag <;> decide

/-- Whether a set holds a flag is a matter of known bits. -/
theorem contains_truncate (set : FlagSet) (flag : SectionFlag) :
    set.truncate.contains flag = set.contains flag := by
  rw [contains, truncate, UInt64.and_assoc, knownBits_and_mask, contains]

/-- Bits without a flag behind them have no letters. -/
theorem letters_truncate (set : FlagSet) : set.truncate.letters = set.letters := by
  have hcontains : set.truncate.contains = set.contains := funext (contains_truncate set)
  rw [letters, hcontains, letters]

/-- Letters say what the known bits are, and nothing else. -/
theorem letters_eq_iff : set.letters = other.letters ↔ set.truncate = other.truncate := by
  constructor
  · intro h
    exact truncate_eq_of_letters_eq h
  · intro h
    rw [← letters_truncate set, h, letters_truncate other]

/-- Two sets agree on their flags exactly if they agree on the bits that belong to flags. -/
theorem truncate_eq_iff :
    set.truncate = other.truncate ↔ set.bits &&& 0x80000ff7 = other.bits &&& 0x80000ff7 := by
  rw [truncate, truncate, FlagSet.mk.injEq, knownBits_eq]

/-- The letters of a set are some of all letters, in the order of all letters. -/
theorem letters_sublist (set : FlagSet) :
    set.letters.toList.Sublist "WAXMSILOGTCE".toList := by
  rw [letters, String.toList_ofList, ← map_letter_all]
  exact List.filter_sublist.map SectionFlag.letter

/-- A letter stands for its flag. -/
theorem letter_mem_letters_iff :
    flag.letter ∈ set.letters.toList ↔ set.contains flag = true := by
  rw [letters, String.toList_ofList, List.mem_map_of_injective SectionFlag.letter_injective,
    List.mem_filter]
  exact and_iff_right flag.mem_all

/-! ## Unions -/

/-- A set holds a flag if the flag's bit is set. -/
theorem contains_eq_testBit {position : Nat} (h : flag.mask.toNat = 2 ^ position) :
    set.contains flag = set.bits.toNat.testBit position := by
  rw [Bool.eq_iff_iff, contains, beq_iff_eq, ← UInt64.toNat_inj, UInt64.toNat_and, h,
    Nat.and_two_pow]
  cases set.bits.toNat.testBit position with
  | true => simp
  | false => simpa using (Nat.two_pow_pos position).ne

/-- A flag is in the union of two words exactly if it is in one of them. -/
theorem contains_or (first second : UInt64) (flag : SectionFlag) :
    contains ⟨first ||| second⟩ flag = (contains ⟨first⟩ flag || contains ⟨second⟩ flag) := by
  obtain ⟨position, hmask⟩ := flag.exists_mask_eq
  rw [contains_eq_testBit hmask, contains_eq_testBit hmask, contains_eq_testBit hmask,
    UInt64.toNat_or, Nat.testBit_or]

/-- The letters of a union are all the letters that one of the two sets has. -/
theorem toList_letters_or (first second : UInt64) :
    (letters ⟨first ||| second⟩).toList = "WAXMSILOGTCE".toList.filter fun letter =>
      letter ∈ (letters ⟨first⟩).toList ∨ letter ∈ (letters ⟨second⟩).toList := by
  rw [letters, String.toList_ofList, ← map_letter_all, List.filter_map]
  refine congrArg (List.map SectionFlag.letter) (List.filter_congr ?_)
  intro flag _
  rw [contains_or, Function.comp_apply, Bool.eq_iff_iff, decide_eq_true_iff, Bool.or_eq_true,
    letter_mem_letters_iff, letter_mem_letters_iff]

end FlagSet

namespace SectionHeader

/-- The letters of a section are those of its whole flag word. -/
theorem letters_flagSet (header : SectionHeader) :
    header.flagSet.letters = FlagSet.letters ⟨header.flags⟩ :=
  FlagSet.letters_truncate ⟨header.flags⟩

/-- Two sections have the same letters exactly if their flag words agree on the twelve bits that
belong to flags. -/
theorem letters_flagSet_eq_iff {first second : SectionHeader} :
    first.flagSet.letters = second.flagSet.letters ↔
      first.flags &&& 0x80000ff7 = second.flags &&& 0x80000ff7 := by
  rw [letters_flagSet, letters_flagSet, FlagSet.letters_eq_iff, FlagSet.truncate_eq_iff]

/-- What the letters of two sections say about their flag words.

The letters are the same exactly if the words agree on the twelve bits that belong to flags
(`same`). They are some of all letters, in the order of all letters (`ordered`). The other bits of
the word make no difference to them (`whole`). A section with the flags of both has the letters of
both (`union`). -/
structure LettersSay (first second : SectionHeader) : Prop where
  same : first.flagSet.letters = second.flagSet.letters ↔
    first.flags &&& 0x80000ff7 = second.flags &&& 0x80000ff7
  ordered : first.flagSet.letters.toList.Sublist "WAXMSILOGTCE".toList
  whole : first.flagSet.letters = FlagSet.letters ⟨first.flags⟩
  union : ∀ both : SectionHeader, both.flags = first.flags ||| second.flags →
    both.flagSet.letters.toList = "WAXMSILOGTCE".toList.filter fun letter =>
      letter ∈ first.flagSet.letters.toList ∨ letter ∈ second.flagSet.letters.toList

/-- Letters are a faithful code of the known flags. -/
theorem letters_say (first second : SectionHeader) : LettersSay first second where
  same := letters_flagSet_eq_iff
  ordered := FlagSet.letters_sublist first.flagSet
  whole := letters_flagSet first
  union := by
    intro both hboth
    rw [letters_flagSet, letters_flagSet, letters_flagSet, hboth]
    exact FlagSet.toList_letters_or first.flags second.flags

end SectionHeader

end ElfScope
