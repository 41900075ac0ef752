import ElfScope.Text.Utf8

/-!
# UTF-8 round trip

The machine of `Utf8.items` reads the bytes of a character as that character, whatever is behind
them (`items_encodeChar`). So a text is read back from its own bytes (`decodeLossy_encode`), and
these hold no zero byte unless the text holds the zero character (`zero_not_mem_encode`).

Conversely, the numbers that an open character may become are scalar values of more than one byte
(`Unfinished.Sound`), and a byte that continues it leaves some of them. So only a zero byte is read
as the zero character (`zero_not_mem_decodeLossy`), be the bytes well-formed or not.
-/

namespace ElfScope.Utf8

variable {rest : List UInt8}

/-! ## Single bytes -/

/-- A byte below `0x80` is a character of its own. -/
theorem items_whole {number : Nat} (h : number < 0x80) :
    items none (UInt8.ofNat number :: rest) = some (Char.ofNat number) :: items none rest := by
  have hbyte : (UInt8.ofNat number).toNat = number := by
    simp; omega
  have hstart : Start.ofByte (UInt8.ofNat number) = .whole (Char.ofNat number) := by
    simp only [Start.ofByte, hbyte, if_pos h]
  rw [items, step, start, hstart]
  rfl

/-- A byte that starts a longer character leaves it open. -/
theorem items_longer {byte : UInt8} {begun : Unfinished} (h : Start.ofByte byte = .longer begun) :
    items none (byte :: rest) = items (some begun) rest := by
  rw [items, step, start, h]
  rfl

/-- The byte that carries the lowest six bits of a number behind a leading byte. -/
theorem toNat_tail (number : Nat) :
    (UInt8.ofNat (number % 0x40 + 0x80)).toNat = number % 0x40 + 0x80 := by
  simp; omega

/-- A fitting byte continues a character of which more bytes are missing. -/
theorem items_continue {number bits missing low high : Nat} (hlow : low ≤ number % 0x40 + 0x80)
    (hhigh : number % 0x40 + 0x80 ≤ high) :
    items (some ⟨bits, missing + 2, low, high⟩) (UInt8.ofNat (number % 0x40 + 0x80) :: rest)
      = items (some ⟨64 * bits + number % 0x40, missing + 1, 0x80, 0xBF⟩) rest := by
  have hmissing : ¬ missing + 2 ≤ 1 := by omega
  rw [items, step, toNat_tail, if_pos ⟨hlow, hhigh⟩]
  simp only [if_neg hmissing, Nat.add_sub_cancel]
  rfl

/-- A fitting byte completes a character of which one byte is missing. -/
theorem items_complete {number bits low high : Nat} (hlow : low ≤ number % 0x40 + 0x80)
    (hhigh : number % 0x40 + 0x80 ≤ high) :
    items (some ⟨bits, 1, low, high⟩) (UInt8.ofNat (number % 0x40 + 0x80) :: rest)
      = some (Char.ofNat (64 * bits + number % 0x40)) :: items none rest := by
  rw [items, step, toNat_tail, if_pos ⟨hlow, hhigh⟩]
  simp only [Nat.le_refl, if_true, Nat.add_sub_cancel]
  rfl

/-! ## Leading bytes -/

/-- The first of two bytes starts a character with one byte to come. -/
theorem ofByte_two {number : Nat} (hlow : 0x80 ≤ number) (hhigh : number ≤ 0x7FF) :
    Start.ofByte (UInt8.ofNat (number / 64 % 0x20 + 0xC0))
      = .longer ⟨number / 64, 1, 0x80, 0xBF⟩ := by
  have hbyte : (UInt8.ofNat (number / 64 % 0x20 + 0xC0)).toNat = number / 64 + 0xC0 := by
    simp; omega
  simp only [Start.ofByte, hbyte]
  rw [if_neg (by omega), if_neg (by omega), if_pos (by omega), Nat.add_sub_cancel]

/-- The range of the second byte excludes numbers that fit into two bytes, and surrogates. -/
theorem ofByte_three {number : Nat} (hlow : 0x800 ≤ number) (hhigh : number ≤ 0xFFFF)
    (hscalar : number < 0xD800 ∨ 0xDFFF < number) :
    ∃ low high, Start.ofByte (UInt8.ofNat (number / 4096 % 0x10 + 0xE0))
        = .longer ⟨number / 4096, 2, low, high⟩ ∧
      low ≤ number / 64 % 0x40 + 0x80 ∧ number / 64 % 0x40 + 0x80 ≤ high := by
  have hbyte : (UInt8.ofNat (number / 4096 % 0x10 + 0xE0)).toNat = number / 4096 + 0xE0 := by
    simp; omega
  simp only [Start.ofByte, hbyte]
  rw [if_neg (by omega), if_neg (by omega), if_neg (by omega)]
  split
  case isTrue h => exact ⟨0xA0, 0xBF, by rw [show number / 4096 = 0 by omega], by omega, by omega⟩
  split
  case isTrue h => exact ⟨0x80, 0x9F, by rw [show number / 4096 = 0xD by omega], by omega, by omega⟩
  rw [if_pos (by omega), Nat.add_sub_cancel]
  exact ⟨0x80, 0xBF, rfl, by omega, by omega⟩

/-- The range of the second byte excludes numbers that fit into three bytes, and those above
U+10FFFF. -/
theorem ofByte_four {number : Nat} (hlow : 0x10000 ≤ number) (hhigh : number < 0x110000) :
    ∃ low high, Start.ofByte (UInt8.ofNat (number / 262144 % 0x08 + 0xF0))
        = .longer ⟨number / 262144, 3, low, high⟩ ∧
      low ≤ number / 4096 % 0x40 + 0x80 ∧ number / 4096 % 0x40 + 0x80 ≤ high := by
  have hbyte : (UInt8.ofNat (number / 262144 % 0x08 + 0xF0)).toNat = number / 262144 + 0xF0 := by
    simp; omega
  simp only [Start.ofByte, hbyte]
  rw [if_neg (by omega), if_neg (by omega), if_neg (by omega), if_neg (by omega),
    if_neg (by omega), if_neg (by omega)]
  split
  case isTrue h => exact ⟨0x90, 0xBF, by rw [show number / 262144 = 0 by omega], by omega, by omega⟩
  split
  case isTrue h => exact ⟨0x80, 0xBF, by rw [Nat.add_sub_cancel], by omega, by omega⟩
  rw [if_pos (by omega)]
  exact ⟨0x80, 0x8F, by rw [show number / 262144 = 4 by omega], by omega, by omega⟩

/-! ## Characters and texts -/

/-- The two bytes of a character are read as this character. -/
theorem items_two {number : Nat} (hlow : 0x80 ≤ number) (hhigh : number ≤ 0x7FF) :
    items none (UInt8.ofNat (number / 64 % 0x20 + 0xC0)
        :: UInt8.ofNat (number % 0x40 + 0x80) :: rest)
      = some (Char.ofNat number) :: items none rest := by
  have hbits : 64 * (number / 64) + number % 0x40 = number := by omega
  rw [items_longer (ofByte_two hlow hhigh), items_complete (by omega) (by omega), hbits]

/-- The three bytes of a character are read as this character. -/
theorem items_three {number : Nat} (hlow : 0x800 ≤ number) (hhigh : number ≤ 0xFFFF)
    (hscalar : number < 0xD800 ∨ 0xDFFF < number) :
    items none (UInt8.ofNat (number / 4096 % 0x10 + 0xE0)
        :: UInt8.ofNat (number / 64 % 0x40 + 0x80) :: UInt8.ofNat (number % 0x40 + 0x80) :: rest)
      = some (Char.ofNat number) :: items none rest := by
  obtain ⟨low, high, hlead, hle, hge⟩ := ofByte_three hlow hhigh hscalar
  have hbits : 64 * (64 * (number / 4096) + number / 64 % 0x40) + number % 0x40 = number := by
    omega
  rw [items_longer hlead, items_continue hle hge, items_complete (by omega) (by omega), hbits]

/-- The four bytes of a character are read as this character. -/
theorem items_four {number : Nat} (hlow : 0x10000 ≤ number) (hhigh : number < 0x110000) :
    items none (UInt8.ofNat (number / 262144 % 0x08 + 0xF0)
        :: UInt8.ofNat (number / 4096 % 0x40 + 0x80) :: UInt8.ofNat (number / 64 % 0x40 + 0x80)
        :: UInt8.ofNat (number % 0x40 + 0x80) :: rest)
      = some (Char.ofNat number) :: items none rest := by
  obtain ⟨low, high, hlead, hle, hge⟩ := ofByte_four hlow hhigh
  have hbits : 64 * (64 * (64 * (number / 262144) + number / 4096 % 0x40) + number / 64 % 0x40)
      + number % 0x40 = number := by
    omega
  rw [items_longer hlead, items_continue hle hge, items_continue (by omega) (by omega),
    items_complete (by omega) (by omega), hbits]

/-- The bytes of a character are read as that character. -/
theorem items_encodeChar (char : Char) :
    items none (String.utf8EncodeChar char ++ rest) = some char :: items none rest := by
  have hscalar : char.val.toNat < 0xD800 ∨ 0xDFFF < char.val.toNat ∧ char.val.toNat < 0x110000 :=
    char.valid
  have hchar : Char.ofNat char.val.toNat = char := Char.ofNat_toNat char
  rw [String.utf8EncodeChar]
  split
  case isTrue h => rw [List.singleton_append, items_whole (by omega), hchar]
  split
  case isTrue h =>
    simp only [List.cons_append, List.nil_append]
    rw [items_two (by omega) h, hchar]
  split
  case isTrue h =>
    simp only [List.cons_append, List.nil_append]
    rw [items_three (by omega) h (by omega), hchar]
  case isFalse h =>
    simp only [List.cons_append, List.nil_append]
    rw [items_four (by omega) (by omega), hchar]

/-- The bytes of characters are read as those characters. -/
theorem items_flatMap_encodeChar (chars : List Char) :
    items none (chars.flatMap String.utf8EncodeChar) = chars.map some := by
  induction chars with
  | nil => rfl
  | cons char rest ih => rw [List.flatMap_cons, items_encodeChar, ih, List.map_cons]

/-- A text is read back from its own bytes. -/
theorem decodeLossy_encode (text : String) : decodeLossy (encode text) = text := by
  simp [decodeLossy, encode, items_flatMap_encodeChar, Function.comp_def]

/-- No byte of a character beyond the first 128 is zero. -/
theorem zero_ne_ofNat {number : Nat} (hlow : 0x80 ≤ number) (hhigh : number < 0x100) :
    (0 : UInt8) ≠ UInt8.ofNat number := by
  intro h
  have htoNat : (0 : UInt8).toNat = (UInt8.ofNat number).toNat := congrArg UInt8.toNat h
  simp at htoNat
  omega

/-- Only the zero character has a zero byte. -/
theorem eq_zero_of_mem_encodeChar {char : Char} (h : 0 ∈ String.utf8EncodeChar char) :
    char = '\x00' := by
  rw [String.utf8EncodeChar] at h
  split at h
  case isTrue hlt =>
    have hbyte : (0 : UInt8).toNat = (UInt8.ofNat char.val.toNat).toNat :=
      congrArg UInt8.toNat (List.mem_singleton.1 h)
    have hzero : char.val.toNat = 0 := by
      rw [UInt8.toNat_ofNat', Nat.mod_eq_of_lt (by omega)] at hbyte
      exact hbyte.symm
    rw [← Char.ofNat_toNat char]
    exact congrArg Char.ofNat hzero
  -- Every byte of a longer character is `0x80` or above.
  split at h
  case isTrue =>
    simp only [List.mem_cons, List.not_mem_nil, or_false] at h
    obtain h | h := h <;> exact absurd h (zero_ne_ofNat (by omega) (by omega))
  split at h
  case isTrue =>
    simp only [List.mem_cons, List.not_mem_nil, or_false] at h
    obtain h | h | h := h <;> exact absurd h (zero_ne_ofNat (by omega) (by omega))
  case isFalse =>
    simp only [List.mem_cons, List.not_mem_nil, or_false] at h
    obtain h | h | h | h := h <;> exact absurd h (zero_ne_ofNat (by omega) (by omega))

/-- The bytes of a text without the zero character hold no zero byte. -/
theorem zero_not_mem_encode {text : String} (h : '\x00' ∉ text.toList) : 0 ∉ encode text := by
  simp only [encode, List.mem_toArray, List.mem_flatMap]
  rintro ⟨char, hmem, hbyte⟩
  exact h (eq_zero_of_mem_encodeChar hbyte ▸ hmem)

/-- Well-formed bytes are the ones of the text in them. -/
theorem encode_decodeLossy {bytes : Bytes} (h : ByteArray.IsValidUTF8 ⟨bytes⟩) :
    encode (decodeLossy bytes) = bytes := by
  obtain ⟨chars, hchars⟩ := h
  have hbytes : bytes = encode (String.ofList chars) := by
    have hdata := congrArg ByteArray.data hchars
    simpa [encode, List.utf8Encode] using hdata
  rw [hbytes, decodeLossy_encode]

/-! ## What an open character may become -/

/-- The number of a character that bytes in range complete: the byte to come is the last one
(`last`), or others are to come behind it (`further`). -/
inductive Unfinished.Becomes : Unfinished → Nat → Prop where
  | last {begun : Unfinished} {byte : Nat} (hmissing : begun.missing ≤ 1)
      (hlow : begun.low ≤ byte) (hhigh : byte ≤ begun.high) :
      Becomes begun (64 * begun.bits + (byte - 0x80))
  | further {begun : Unfinished} {byte number : Nat} (hmissing : ¬ begun.missing ≤ 1)
      (hlow : begun.low ≤ byte) (hhigh : byte ≤ begun.high)
      (hnext : Becomes ⟨64 * begun.bits + (byte - 0x80), begun.missing - 1, 0x80, 0xBF⟩ number) :
      Becomes begun number

/-- An open character becomes a scalar value that takes more than one byte. -/
def Unfinished.Sound (begun : Unfinished) : Prop :=
  ∀ number, begun.Becomes number →
    0x80 ≤ number ∧ (number < 0xD800 ∨ 0xDFFF < number ∧ number < 0x110000)

variable {bits low high number : Nat}

/-- One byte to come leaves a character between two bounds. -/
theorem Unfinished.Becomes.one (h : Becomes ⟨bits, 1, low, high⟩ number) :
    64 * bits + (low - 0x80) ≤ number ∧ number ≤ 64 * bits + (high - 0x80) := by
  cases h with
  | last _ hlow hhigh => dsimp only at hlow hhigh ⊢; omega
  | further hmissing => exact absurd (Nat.le_refl 1) hmissing

/-- Two bytes to come leave a character between two bounds. -/
theorem Unfinished.Becomes.two (h : Becomes ⟨bits, 2, low, high⟩ number) :
    64 * (64 * bits + (low - 0x80)) ≤ number ∧
      number ≤ 64 * (64 * bits + (high - 0x80)) + 63 := by
  cases h with
  | last hmissing => exact absurd hmissing (Nat.not_succ_le_self 1)
  | further _ hlow hhigh hnext =>
    have hrange := hnext.one
    dsimp only at hlow hhigh hrange
    omega

/-- Three bytes to come leave a character between two bounds. -/
theorem Unfinished.Becomes.three (h : Becomes ⟨bits, 3, low, high⟩ number) :
    64 * (64 * (64 * bits + (low - 0x80))) ≤ number ∧
      number ≤ 64 * (64 * (64 * bits + (high - 0x80)) + 63) + 63 := by
  cases h with
  | last hmissing => exact absurd (show 3 ≤ 1 from hmissing) (by decide)
  | further _ hlow hhigh hnext =>
    have hrange := hnext.two
    dsimp only at hlow hhigh hrange
    omega

/-- What a byte stands for is the character it is, or an open character of this kind. -/
def Start.Sound (byte : UInt8) : Start → Prop
  | .whole char => byte.toNat < 0x80 ∧ char = Char.ofNat byte.toNat
  | .longer begun => begun.Sound
  | .malformed => True

/-- The leading byte and the range of the second byte leave such numbers only. -/
theorem sound_ofByte (byte : UInt8) : (Start.ofByte byte).Sound byte := by
  unfold Start.ofByte
  dsimp only
  split
  case isTrue hlt => exact ⟨hlt, rfl⟩
  split
  case isTrue => trivial
  split
  case isTrue =>
    intro number hnumber
    have hrange := hnumber.one
    omega
  iterate 3
    split
    case isTrue =>
      intro number hnumber
      have hrange := hnumber.two
      omega
  iterate 3
    split
    case isTrue =>
      intro number hnumber
      have hrange := hnumber.three
      omega
  trivial

/-- A number of a character other than zero is not read as the zero character. -/
theorem ofNat_ne_zero (hpos : number ≠ 0)
    (hscalar : number < 0xD800 ∨ 0xDFFF < number ∧ number < 0x110000) :
    Char.ofNat number ≠ '\x00' := by
  intro h
  have hnumber : (Char.ofNat number).toNat = number := by
    rw [Char.ofNat, dif_pos hscalar]
    rfl
  rw [h] at hnumber
  exact hpos hnumber.symm

/-- Where a character may start, a byte leaves only such characters open. -/
theorem sound_start (byte : UInt8) : ∀ begun ∈ (start byte).2, begun.Sound := by
  intro begun hbegun
  have hsound := sound_ofByte byte
  unfold start at hbegun
  cases hstart : Start.ofByte byte with
  | longer unfinished =>
    rw [hstart] at hsound hbegun
    obtain rfl : unfinished = begun := Option.some.inj hbegun
    exact hsound
  | whole | malformed =>
    rw [hstart] at hbegun
    cases hbegun

/-- Where a character may start, only the zero byte is the zero character. -/
theorem zero_not_mem_start {byte : UInt8} (h : byte ≠ 0) : some '\x00' ∉ (start byte).1 := by
  have hsound := sound_ofByte byte
  unfold start
  cases hstart : Start.ofByte byte with
  | whole char =>
    rw [hstart] at hsound
    obtain ⟨hlt, rfl⟩ := hsound
    have hpos : byte.toNat ≠ 0 := fun hzero => h (UInt8.toNat_inj.1 hzero)
    have hne := ofNat_ne_zero hpos (.inl (by omega))
    simpa using hne.symm
  | longer | malformed => simp

variable {state : Option Unfinished} {byte : UInt8}

/-- One more byte leaves a part of the numbers, or starts anew. -/
theorem sound_step (h : ∀ begun ∈ state, begun.Sound) :
    ∀ begun ∈ (step state byte).2, begun.Sound := by
  cases state with
  | none => exact sound_start byte
  | some unfinished =>
    simp only [step]
    split
    case isTrue hrange =>
      split
      case isTrue => simp
      case isFalse hmissing =>
        intro begun hbegun number hnumber
        obtain rfl := Option.some.inj hbegun
        exact h unfinished rfl number (.further hmissing hrange.1 hrange.2 hnumber)
    case isFalse => exact sound_start byte

/-- A byte completes the zero character only if it is zero itself. -/
theorem zero_not_mem_step (h : ∀ begun ∈ state, begun.Sound) (hbyte : byte ≠ 0) :
    some '\x00' ∉ (step state byte).1 := by
  cases state with
  | none => exact zero_not_mem_start hbyte
  | some unfinished =>
    simp only [step]
    split
    case isTrue hrange =>
      split
      case isTrue hmissing =>
        obtain ⟨hwide, hscalar⟩ := h unfinished rfl _ (.last hmissing hrange.1 hrange.2)
        have hne := ofNat_ne_zero (by omega) hscalar
        simpa using hne.symm
      case isFalse => simp
    case isFalse => simpa using zero_not_mem_start hbyte

/-- Bytes without zero hold no zero character. -/
theorem zero_not_mem_items {bytes : List UInt8} (hbytes : 0 ∉ bytes)
    (h : ∀ begun ∈ state, begun.Sound) : some '\x00' ∉ items state bytes := by
  induction bytes generalizing state with
  | nil => cases state <;> simp [items]
  | cons byte rest ih =>
    obtain ⟨hbyte, hrest⟩ := not_or.1 (mt List.mem_cons.2 hbytes)
    rw [items]
    dsimp only
    rw [List.mem_append, not_or]
    exact ⟨zero_not_mem_step h (Ne.symm hbyte), ih hrest (sound_step h)⟩

/-- The text in bytes without zero does not hold the zero character. -/
theorem zero_not_mem_decodeLossy {bytes : Bytes} (h : 0 ∉ bytes) :
    '\x00' ∉ (decodeLossy bytes).toList := by
  intro hmem
  rw [decodeLossy, String.toList_ofList] at hmem
  obtain ⟨item, hitem, hchar⟩ := List.mem_map.1 hmem
  cases item with
  | none => exact absurd hchar (by decide)
  | some char =>
    obtain rfl : char = '\x00' := hchar
    exact zero_not_mem_items (mt Array.mem_toList_iff.1 h) (by simp) hitem

end ElfScope.Utf8
