import ElfScope.Proofs.Utf8

/-!
# Well-formed bytes

The bytes that are decoded without an ill-formed run are those of the text that they are decoded to
(`decode_eq_some_iff`): a character has no other bytes than its own. While a character is open, the
bytes read so far are the first of every character that it may become (`Unfinished.Behind`).
-/

namespace ElfScope.Utf8

/-! ## The bytes of a character, from its number -/

/-- A number that is one of a character is read back from it. -/
theorem toNat_ofNat {number : Nat} (h : number.isValidChar) :
    (Char.ofNat number).val.toNat = number := by
  rw [Char.ofNat, dif_pos h]
  rfl

/-- A byte is settled by its number. -/
theorem ofNat_eq_byte {number : Nat} (byte : UInt8) (h : number = byte.toNat) :
    UInt8.ofNat number = byte := by
  rw [h, UInt8.ofNat_toNat]

/-- A byte below 128 encodes its own character. -/
theorem encodeChar_one {byte : UInt8} (h : byte.toNat < 0x80) :
    String.utf8EncodeChar (Char.ofNat byte.toNat) = [byte] := by
  rw [String.utf8EncodeChar, toNat_ofNat (.inl (by omega))]
  rw [if_pos (by omega), UInt8.ofNat_toNat]

/-- Two bytes in range encode the character that they make. -/
theorem encodeChar_two {first second : UInt8} {number : Nat}
    (hnumber : number = 64 * (first.toNat - 0xC0) + (second.toNat - 0x80))
    (hfirst : 0xC2 ≤ first.toNat ∧ first.toNat < 0xE0)
    (hsecond : 0x80 ≤ second.toNat ∧ second.toNat ≤ 0xBF) :
    String.utf8EncodeChar (Char.ofNat number) = [first, second] := by
  rw [String.utf8EncodeChar, toNat_ofNat (.inl (by omega))]
  rw [if_neg (by omega), if_pos (by omega), ofNat_eq_byte first (by omega),
    ofNat_eq_byte second (by omega)]

/-- Three bytes in range encode the character that they make, if it needs them. -/
theorem encodeChar_three {first second third : UInt8} {number : Nat}
    (hnumber : number
      = 64 * (64 * (first.toNat - 0xE0) + (second.toNat - 0x80)) + (third.toNat - 0x80))
    (hscalar : number.isValidChar) (hwide : 0x800 ≤ number)
    (hfirst : 0xE0 ≤ first.toNat ∧ first.toNat < 0xF0)
    (hsecond : 0x80 ≤ second.toNat ∧ second.toNat ≤ 0xBF)
    (hthird : 0x80 ≤ third.toNat ∧ third.toNat ≤ 0xBF) :
    String.utf8EncodeChar (Char.ofNat number) = [first, second, third] := by
  rw [String.utf8EncodeChar, toNat_ofNat hscalar]
  rw [if_neg (by omega), if_neg (by omega), if_pos (by omega),
    ofNat_eq_byte first (by omega), ofNat_eq_byte second (by omega),
    ofNat_eq_byte third (by omega)]

/-- Four bytes in range encode the character that they make, if it needs them. -/
theorem encodeChar_four {first second third fourth : UInt8} {number : Nat}
    (hnumber : number
      = 64 * (64 * (64 * (first.toNat - 0xF0) + (second.toNat - 0x80)) + (third.toNat - 0x80))
        + (fourth.toNat - 0x80))
    (hscalar : number.isValidChar) (hwide : 0x10000 ≤ number)
    (hfirst : 0xF0 ≤ first.toNat ∧ first.toNat < 0xF8)
    (hsecond : 0x80 ≤ second.toNat ∧ second.toNat ≤ 0xBF)
    (hthird : 0x80 ≤ third.toNat ∧ third.toNat ≤ 0xBF)
    (hfourth : 0x80 ≤ fourth.toNat ∧ fourth.toNat ≤ 0xBF) :
    String.utf8EncodeChar (Char.ofNat number) = [first, second, third, fourth] := by
  rw [String.utf8EncodeChar, toNat_ofNat hscalar]
  rw [if_neg (by omega), if_neg (by omega), if_neg (by omega),
    ofNat_eq_byte first (by omega), ofNat_eq_byte second (by omega),
    ofNat_eq_byte third (by omega), ofNat_eq_byte fourth (by omega)]

/-! ## What completes an open character -/

namespace Unfinished

/-- The bytes that complete a character, and its number: the byte to come is the last one (`last`),
or others are to come behind it (`further`). -/
inductive Completes : Unfinished → List UInt8 → Nat → Prop where
  | last {begun : Unfinished} {byte : UInt8} (hmissing : begun.missing ≤ 1)
      (hrange : begun.low ≤ byte.toNat ∧ byte.toNat ≤ begun.high) :
      Completes begun [byte] (64 * begun.bits + (byte.toNat - 0x80))
  | further {begun : Unfinished} {byte : UInt8} {tail : List UInt8} {number : Nat}
      (hmissing : ¬ begun.missing ≤ 1)
      (hrange : begun.low ≤ byte.toNat ∧ byte.toNat ≤ begun.high)
      (hnext : Completes ⟨64 * begun.bits + (byte.toNat - 0x80), begun.missing - 1, 0x80, 0xBF⟩
        tail number) :
      Completes begun (byte :: tail) number

variable {begun : Unfinished} {tail : List UInt8} {bits low high number : Nat}

/-- Bytes that complete a character make its number. -/
theorem Completes.becomes (h : Completes begun tail number) : begun.Becomes number := by
  induction h with
  | last hmissing hrange => exact .last hmissing hrange.1 hrange.2
  | further hmissing hrange _ ih => exact .further hmissing hrange.1 hrange.2 ih

/-- A character with one byte to come is completed by a byte in range. -/
theorem Completes.one (h : Completes ⟨bits, 1, low, high⟩ tail number) :
    ∃ byte, tail = [byte] ∧ (low ≤ byte.toNat ∧ byte.toNat ≤ high) ∧
      number = 64 * bits + (byte.toNat - 0x80) := by
  cases h with
  | @last _ byte _ hrange => exact ⟨byte, rfl, hrange, rfl⟩
  | further hmissing => exact absurd (Nat.le_refl 1) hmissing

/-- A character with two bytes to come has one to come behind a byte in range. -/
theorem Completes.two (h : Completes ⟨bits, 2, low, high⟩ tail number) :
    ∃ byte rest, tail = byte :: rest ∧ (low ≤ byte.toNat ∧ byte.toNat ≤ high) ∧
      Completes ⟨64 * bits + (byte.toNat - 0x80), 1, 0x80, 0xBF⟩ rest number := by
  cases h with
  | last hmissing => exact absurd hmissing (Nat.not_succ_le_self 1)
  | @further _ byte rest _ _ hrange hnext => exact ⟨byte, rest, rfl, hrange, hnext⟩

/-- A character with three bytes to come has two to come behind a byte in range. -/
theorem Completes.three (h : Completes ⟨bits, 3, low, high⟩ tail number) :
    ∃ byte rest, tail = byte :: rest ∧ (low ≤ byte.toNat ∧ byte.toNat ≤ high) ∧
      Completes ⟨64 * bits + (byte.toNat - 0x80), 2, 0x80, 0xBF⟩ rest number := by
  cases h with
  | last hmissing => exact absurd (show 3 ≤ 1 from hmissing) (by decide)
  | @further _ byte rest _ _ hrange hnext => exact ⟨byte, rest, rfl, hrange, hnext⟩

/-- The bytes `front` are the first of every character that is still possible. -/
def Behind (front : List UInt8) (begun : Unfinished) : Prop :=
  ∀ tail number, begun.Completes tail number →
    String.utf8EncodeChar (Char.ofNat number) = front ++ tail

/-- The first of two bytes leads every character that is still possible. -/
theorem behind_two {lead : UInt8} (hlead : 0xC2 ≤ lead.toNat ∧ lead.toNat < 0xE0) :
    Behind [lead] ⟨lead.toNat - 0xC0, 1, 0x80, 0xBF⟩ := by
  intro tail number h
  obtain ⟨second, rfl, hsecond, hnumber⟩ := h.one
  exact encodeChar_two hnumber hlead hsecond

/-- The first of three bytes leads every character that is still possible. -/
theorem behind_three {lead : UInt8} (hsound : Sound ⟨bits, 2, low, high⟩)
    (hlead : 0xE0 ≤ lead.toNat ∧ lead.toNat < 0xF0) (hbits : bits = lead.toNat - 0xE0)
    (hlow : 0x80 ≤ low) (hhigh : high ≤ 0xBF) (hwide : 0x20 ≤ 64 * bits + (low - 0x80)) :
    Behind [lead] ⟨bits, 2, low, high⟩ := by
  intro tail number h
  have hscalar : number.isValidChar := (hsound number h.becomes).2
  obtain ⟨second, rest, rfl, hsecond, hrest⟩ := h.two
  obtain ⟨third, rfl, hthird, hnumber⟩ := hrest.one
  rw [hbits] at hnumber hwide
  exact encodeChar_three hnumber hscalar (by omega) hlead ⟨by omega, by omega⟩ hthird

/-- The first of four bytes leads every character that is still possible. -/
theorem behind_four {lead : UInt8} (hsound : Sound ⟨bits, 3, low, high⟩)
    (hlead : 0xF0 ≤ lead.toNat ∧ lead.toNat < 0xF8) (hbits : bits = lead.toNat - 0xF0)
    (hlow : 0x80 ≤ low) (hhigh : high ≤ 0xBF) (hwide : 0x10 ≤ 64 * bits + (low - 0x80)) :
    Behind [lead] ⟨bits, 3, low, high⟩ := by
  intro tail number h
  have hscalar : number.isValidChar := (hsound number h.becomes).2
  obtain ⟨second, others, rfl, hsecond, hothers⟩ := h.three
  obtain ⟨third, rest, rfl, hthird, hrest⟩ := hothers.two
  obtain ⟨fourth, rfl, hfourth, hnumber⟩ := hrest.one
  rw [hbits] at hnumber hwide
  exact encodeChar_four hnumber hscalar (by omega) hlead ⟨by omega, by omega⟩ hthird hfourth

/-- A leading byte is the first of every character that it leaves open. -/
theorem behind_ofByte {byte : UInt8} (h : Start.ofByte byte = .longer begun) :
    Behind [byte] begun := by
  have hsound : begun.Sound := by
    have hstart := sound_ofByte byte
    rw [h] at hstart
    exact hstart
  unfold Start.ofByte at h
  dsimp only at h
  split at h
  · cases h
  split at h
  · cases h
  split at h
  · rw [← Start.longer.inj h]
    exact behind_two ⟨by omega, by omega⟩
  iterate 3
    split at h
    · rw [← Start.longer.inj h] at hsound ⊢
      exact behind_three hsound ⟨by omega, by omega⟩ (by omega) (by omega) (by omega) (by omega)
  iterate 3
    split at h
    · rw [← Start.longer.inj h] at hsound ⊢
      exact behind_four hsound ⟨by omega, by omega⟩ (by omega) (by omega) (by omega) (by omega)
  cases h

end Unfinished

/-! ## Whole texts -/

open Unfinished (Behind)

/-- Bytes that hold characters only are the bytes of these characters. -/
theorem eq_flatMap_of_items {bytes : List UInt8} {chars : List Char} :
    (items none bytes = chars.map some → bytes = chars.flatMap String.utf8EncodeChar) ∧
    ∀ begun front, Behind front begun → items (some begun) bytes = chars.map some →
      front ++ bytes = chars.flatMap String.utf8EncodeChar := by
  induction bytes generalizing chars with
  | nil =>
    refine ⟨fun h => ?_, fun begun front _ h => ?_⟩
    · cases chars with
      | nil => rfl
      | cons => cases h
    · cases chars with
      | nil => cases h
      | cons => cases h
  | cons byte rest ih =>
    refine ⟨fun h => ?_, fun begun front hbehind h => ?_⟩
    · -- A character starts here: it is this byte, or this byte leaves it open.
      rw [items, step, start] at h
      have hsound := sound_ofByte byte
      cases hstart : Start.ofByte byte with
      | malformed =>
        rw [hstart] at h
        cases chars <;> cases h
      | longer begun =>
        rw [hstart] at h
        exact ih.2 begun [byte] (Unfinished.behind_ofByte hstart) h
      | whole char =>
        rw [hstart] at h hsound
        obtain ⟨hbyte, rfl⟩ := hsound
        cases chars with
        | nil => cases h
        | cons char others =>
          obtain ⟨hchar, hothers⟩ := List.cons.inj h
          rw [List.flatMap_cons, ← Option.some.inj hchar, encodeChar_one hbyte, ih.1 hothers,
            List.singleton_append]
    · -- A character is open: this byte completes it, or leaves it open.
      rw [items] at h
      simp only [step] at h
      split at h
      case isTrue hrange =>
        split at h
        case isTrue hmissing =>
          cases chars with
          | nil => cases h
          | cons char others =>
            obtain ⟨hchar, hothers⟩ := List.cons.inj h
            rw [List.flatMap_cons, ← Option.some.inj hchar, hbehind _ _ (.last hmissing hrange),
              List.append_assoc, ← ih.1 hothers, List.singleton_append]
        case isFalse hmissing =>
          rw [List.append_cons]
          refine ih.2 _ (front ++ [byte]) ?_ h
          intro tail number htail
          rw [hbehind _ _ (.further hmissing hrange htail), List.append_cons]
      case isFalse =>
        cases chars <;> cases h

/-- All items are characters exactly if they are those that are collected. -/
theorem mapM_id_eq_some_iff {items : List (Option Char)} {chars : List Char} :
    items.mapM id = some chars ↔ items = chars.map some := by
  induction items generalizing chars with
  | nil => cases chars <;> simp
  | cons item rest ih =>
    rw [List.mapM_cons]
    cases item with
    | none => cases chars <;> simp
    | some char =>
      cases chars with
      | nil => simp [Option.bind_eq_some_iff]
      | cons first others =>
        rw [List.map_cons, List.cons.injEq, ← ih]
        cases rest.mapM id <;> simp

/-- Bytes are decoded to a text exactly if they are its bytes. -/
theorem decode_eq_some_iff {bytes : Bytes} {text : String} :
    decode bytes = some text ↔ bytes = encode text := by
  constructor
  · intro h
    obtain ⟨chars, hchars, rfl⟩ := Option.map_eq_some_iff.1 h
    have hbytes := eq_flatMap_of_items.1 (mapM_id_eq_some_iff.1 hchars)
    rw [encode, String.toList_ofList, ← hbytes, Array.toArray_toList]
  · rintro rfl
    have hitems : items none (encode text).toList = text.toList.map some := by
      rw [encode, List.toList_toArray, items_flatMap_encodeChar]
    rw [decode, mapM_id_eq_some_iff.2 hitems, Option.map_some, String.ofList_toList]

/-- Texts are told apart by their bytes. -/
theorem encode_injective : Function.Injective encode := by
  intro text other h
  have htext := decode_eq_some_iff.2 (rfl : encode text = encode text)
  rw [decode_eq_some_iff.2 h] at htext
  exact (Option.some.inj htext).symm

end ElfScope.Utf8
