import ElfScope.Proofs.Bytes
import ElfScope.Proofs.Utf8
import ElfScope.StringTable
import Mathlib.Data.Nat.Find

/-!
# Looking strings up

The string at an offset ends in front of the first zero byte from there on (`get_eq_ok`), and there
is none without such a byte (`get_eq_unterminated`); nothing else can happen (`get_cases`). So a
text whose bytes stand in the table, with a zero byte behind them, is found under the offset of the
first (`text_eq_ok`).

In the other direction, each of the three answers says where the zero bytes are
(`get_eq_ok_iff`, `get_eq_outOfRange_iff`, `get_eq_unterminated_iff`). What they say holds of every
later offset as well, so a string shares its bytes with its own tails (`get_tail`).
-/

namespace ElfScope

namespace Bytes

variable {bytes : Bytes} {index stop count : Nat}

/-- The first zero byte is found, wherever it is among the bytes that are searched. -/
theorem zeroFrom_eq (hzero : bytes[stop]? = some 0) (hindex : index ≤ stop)
    (hstop : stop < index + count)
    (hfirst : ∀ position, index ≤ position → position < stop → bytes[position]? ≠ some 0) :
    bytes.zeroFrom count index = stop := by
  induction count generalizing index with
  | zero => omega
  | succ count ih =>
    rw [zeroFrom]
    -- The search ends here or goes on with one byte less and the same stop.
    by_cases heq : index = stop
    · rw [if_pos (heq ▸ hzero), heq]
    · rw [if_neg (hfirst index (Nat.le_refl _) (by omega))]
      exact ih (by omega) (by omega) fun position hle => hfirst position (by omega)

/-- The string from `offset` on ends at `stop`: a zero byte is there (`zero`), and it is the `first`
one from the offset on. -/
structure EndsAt (bytes : Bytes) (offset stop : Nat) : Prop where
  zero : bytes[stop]? = some 0
  le : offset ≤ stop
  first : ∀ position, offset ≤ position → position < stop → bytes[position]? ≠ some 0

/-- A string has one end at most. -/
theorem EndsAt.unique {offset other : Nat} (h : bytes.EndsAt offset stop)
    (hother : bytes.EndsAt offset other) : stop = other := by
  obtain hlt | heq | hlt := Nat.lt_trichotomy stop other
  · exact absurd h.zero (hother.first stop h.le hlt)
  · exact heq
  · exact absurd hother.zero (h.first other hother.le hlt)

/-- An offset behind another one, and not behind the end of the string there, has the same end. -/
theorem EndsAt.of_le {offset later : Nat} (h : bytes.EndsAt offset stop) (hle : offset ≤ later)
    (hstop : later ≤ stop) : bytes.EndsAt later stop where
  zero := h.zero
  le := hstop
  first := fun position hposition => h.first position (Nat.le_trans hle hposition)

/-- The bytes in front of the end are held there, and a zero byte behind them. -/
theorem EndsAt.holds {offset : Nat} (h : bytes.EndsAt offset stop) :
    bytes.Holds offset (bytes.extract offset stop) ∧
      bytes[offset + (bytes.extract offset stop).size]? = some 0 := by
  have hle := h.le
  have hlt : stop < bytes.size := (Array.getElem?_eq_some_iff.1 h.zero).1
  have hsize : (bytes.extract offset stop).size = stop - offset := by
    rw [Array.size_extract, Nat.min_eq_left (Nat.le_of_lt hlt)]
  have hend : offset + (stop - offset) = stop := by omega
  rw [Holds, hsize, part, hend]
  exact ⟨⟨Nat.le_of_lt hlt, rfl⟩, h.zero⟩

/-- No zero byte is in front of the end of a string. -/
theorem EndsAt.zero_not_mem {offset : Nat} (h : bytes.EndsAt offset stop) :
    0 ∉ bytes.extract offset stop := by
  intro hmem
  obtain ⟨index, hindex⟩ := Array.mem_iff_getElem?.1 hmem
  rw [Array.getElem?_extract] at hindex
  split at hindex
  case isTrue hlt => exact h.first (offset + index) (by omega) (by omega) hindex
  case isFalse => cases hindex

/-- Bytes without zero end where a zero byte follows them. -/
theorem endsAt_of_holds {offset : Nat} {content : Bytes} (hcontent : bytes.Holds offset content)
    (hend : bytes[offset + content.size]? = some 0) (hzero : 0 ∉ content) :
    bytes.EndsAt offset (offset + content.size) where
  zero := hend
  le := Nat.le_add_right _ _
  first := by
    intro position hle hlt hmem
    have hbyte : content[position - offset]? = bytes[offset + (position - offset)]? := by
      rw [← hcontent.2, getElem?_part, if_pos (by omega)]
    rw [show offset + (position - offset) = position by omega, hmem] at hbyte
    exact hzero (Array.mem_of_getElem? hbyte)

/-- Where zero bytes follow, one of them is the first. -/
theorem exists_endsAt {offset position : Nat} (hle : offset ≤ position)
    (hzero : bytes[position]? = some 0) : ∃ stop, bytes.EndsAt offset stop := by
  have hexists : ∃ stop, offset ≤ stop ∧ bytes[stop]? = some 0 := ⟨position, hle, hzero⟩
  obtain ⟨hstop, hstopZero⟩ := Nat.find_spec hexists
  refine ⟨Nat.find hexists, hstopZero, hstop, fun earlier hearlier hlt hzero => ?_⟩
  exact Nat.find_min hexists hlt ⟨hearlier, hzero⟩

/-- `text` stands at `offset`, with a zero byte behind it, and holds none itself. -/
def Names (bytes : Bytes) (offset : Nat) (text : String) : Prop :=
  '\x00' ∉ text.toList ∧ bytes.Holds offset (Utf8.encode text ++ #[0])

/-- `Names` is decidable by a look at the characters and a comparison of bytes. -/
instance (bytes : Bytes) (offset : Nat) (text : String) : Decidable (bytes.Names offset text) :=
  inferInstanceAs (Decidable (_ ∧ _))

end Bytes

namespace StringTable

variable {bytes content : Bytes} {offset : UInt32}

/-- A string ends in front of the first zero byte from its offset on. -/
theorem get_eq_ok {stop : Nat} (hzero : bytes[stop]? = some 0) (hstop : offset.toNat ≤ stop)
    (hfirst : ∀ position, offset.toNat ≤ position → position < stop → bytes[position]? ≠ some 0) :
    (ofBytes bytes).get offset = .ok (bytes.extract offset.toNat stop) := by
  have hsize : stop < (ofBytes bytes).bytes.size := (Array.getElem?_eq_some_iff.1 hzero).1
  have hextent : stop < (ofBytes bytes).extent := Bytes.le_terminated hsize hzero
  have hscan : (ofBytes bytes).bytes.zeroFrom ((ofBytes bytes).extent - offset.toNat) offset.toNat
      = stop := Bytes.zeroFrom_eq hzero hstop (by omega) hfirst
  rw [get, if_neg (by omega), if_neg (by omega), hscan]
  rfl

/-- Without a zero byte from an offset on, the string there does not end. -/
theorem get_eq_unterminated (hsize : offset.toNat < bytes.size)
    (hnone : ∀ position, offset.toNat ≤ position → bytes[position]? ≠ some 0) :
    (ofBytes bytes).get offset = .error .unterminated := by
  have hin : offset.toNat < (ofBytes bytes).bytes.size := hsize
  have hextent : (ofBytes bytes).extent ≤ offset.toNat := by
    cases hlast : (ofBytes bytes).extent with
    | zero => exact Nat.zero_le _
    | succ last =>
      apply Nat.lt_of_not_le
      exact fun hle => hnone last hle (Bytes.getElem?_terminated hlast).2
  rw [get, if_neg (by omega), if_pos hextent]

/-- An offset at the end of the table or behind it is out of range. -/
theorem get_eq_outOfRange (h : bytes.size ≤ offset.toNat) :
    (ofBytes bytes).get offset = .error .outOfRange :=
  if_pos h

/-- Looking a string up has one of three outcomes, and the zero bytes decide which. -/
theorem get_cases (bytes : Bytes) (offset : UInt32) :
    (bytes.size ≤ offset.toNat ∧ (ofBytes bytes).get offset = .error .outOfRange) ∨
      (offset.toNat < bytes.size ∧
        (∀ position, offset.toNat ≤ position → bytes[position]? ≠ some 0) ∧
        (ofBytes bytes).get offset = .error .unterminated) ∨
      ∃ stop, bytes.EndsAt offset.toNat stop ∧
        (ofBytes bytes).get offset = .ok (bytes.extract offset.toNat stop) := by
  by_cases hsize : bytes.size ≤ offset.toNat
  · exact .inl ⟨hsize, get_eq_outOfRange hsize⟩
  have hin : offset.toNat < bytes.size := Nat.lt_of_not_le hsize
  by_cases hnone : ∀ position, offset.toNat ≤ position → bytes[position]? ≠ some 0
  · exact .inr (.inl ⟨hin, hnone, get_eq_unterminated hin hnone⟩)
  · obtain ⟨position, hle, hzero⟩ : ∃ position, offset.toNat ≤ position ∧
        bytes[position]? = some 0 := by
      simpa using hnone
    obtain ⟨stop, hstop⟩ := Bytes.exists_endsAt hle hzero
    exact .inr (.inr ⟨stop, hstop, get_eq_ok hstop.zero hstop.le hstop.first⟩)

/-- A string that is found stands at its offset, in front of a zero byte and without one. -/
theorem get_eq_ok_iff : (ofBytes bytes).get offset = .ok content ↔
    bytes.Holds offset.toNat content ∧ bytes[offset.toNat + content.size]? = some 0 ∧
      0 ∉ content := by
  constructor
  · intro hfound
    obtain ⟨-, hget⟩ | ⟨-, -, hget⟩ | ⟨stop, hstop, hget⟩ := get_cases bytes offset
    · cases hget.symm.trans hfound
    · cases hget.symm.trans hfound
    · obtain rfl := Except.ok.inj (hget.symm.trans hfound)
      exact ⟨hstop.holds.1, hstop.holds.2, hstop.zero_not_mem⟩
  · rintro ⟨hcontent, hend, hzero⟩
    have hstop := Bytes.endsAt_of_holds hcontent hend hzero
    rw [get_eq_ok hstop.zero hstop.le hstop.first]
    exact congrArg _ hcontent.2

/-- An offset is out of range exactly at the end of the table and behind it. -/
theorem get_eq_outOfRange_iff :
    (ofBytes bytes).get offset = .error .outOfRange ↔ bytes.size ≤ offset.toNat := by
  refine ⟨fun hfound => ?_, get_eq_outOfRange⟩
  obtain ⟨hsize, -⟩ | ⟨-, -, hget⟩ | ⟨stop, -, hget⟩ := get_cases bytes offset
  · exact hsize
  · cases hget.symm.trans hfound
  · cases hget.symm.trans hfound

/-- A string does not end exactly if it starts inside the table and no zero byte follows. -/
theorem get_eq_unterminated_iff : (ofBytes bytes).get offset = .error .unterminated ↔
    offset.toNat < bytes.size ∧
      ∀ position, offset.toNat ≤ position → bytes[position]? ≠ some 0 := by
  refine ⟨fun hfound => ?_, fun h => get_eq_unterminated h.1 h.2⟩
  obtain ⟨-, hget⟩ | ⟨hsize, hnone, -⟩ | ⟨stop, -, hget⟩ := get_cases bytes offset
  · cases hget.symm.trans hfound
  · exact ⟨hsize, hnone⟩
  · cases hget.symm.trans hfound

/-- Behind an offset whose string does not end, no string ends. -/
theorem get_unterminated_behind {later : UInt32}
    (h : (ofBytes bytes).get offset = .error .unterminated) (hle : offset.toNat ≤ later.toNat)
    (hlater : later.toNat < bytes.size) : (ofBytes bytes).get later = .error .unterminated := by
  obtain ⟨-, hnone⟩ := get_eq_unterminated_iff.1 h
  exact get_eq_unterminated hlater fun position hposition =>
    hnone position (Nat.le_trans hle hposition)

/-- An offset inside a string names the tail of it that starts there. -/
theorem get_tail {later : UInt32} {skipped : Nat} (h : (ofBytes bytes).get offset = .ok content)
    (hlater : later.toNat = offset.toNat + skipped) (hskipped : skipped ≤ content.size) :
    (ofBytes bytes).get later = .ok (content.extract skipped) := by
  obtain ⟨hcontent, hend, hzero⟩ := get_eq_ok_iff.1 h
  have hstop := (Bytes.endsAt_of_holds hcontent hend hzero).of_le
    (show offset.toNat ≤ later.toNat by omega) (by omega)
  have hextract : bytes.extract later.toNat (offset.toNat + content.size)
      = content.extract skipped := by
    calc bytes.extract later.toNat (offset.toNat + content.size)
        = (bytes.part offset.toNat content.size).extract skipped content.size := by
          rw [Bytes.part, Array.extract_extract, Nat.min_self, hlater]
      _ = content.extract skipped := by rw [hcontent.2]
  rw [get_eq_ok hstop.zero hstop.le hstop.first, hextract]

/-- Bytes without zero that a zero byte follows are found under their offset. -/
theorem get_of_holds (h : bytes.Holds offset.toNat (content ++ #[0])) (hzero : 0 ∉ content) :
    (ofBytes bytes).get offset = .ok content := by
  obtain ⟨hcontent, hlast⟩ := Bytes.holds_append.1 h
  have hend : bytes[offset.toNat + content.size]? = some 0 := by
    have hget := congrArg (·[0]?) hlast.2
    simpa [Bytes.getElem?_part] using hget
  exact get_eq_ok_iff.2 ⟨hcontent, hend, hzero⟩

/-- A text whose bytes stand in the table is found under its offset. -/
theorem text_eq_ok {text : String} (h : bytes.Names offset.toNat text) :
    (ofBytes bytes).text offset = .ok text := by
  rw [StringTable.text, get_of_holds h.2 (Utf8.zero_not_mem_encode h.1)]
  exact congrArg _ (Utf8.decodeLossy_encode text)

end StringTable

end ElfScope
