import ElfScope.Text.Utf8

/-!
# String tables

A string table holds strings that end in a zero byte, and a string is named by the offset of its
first byte. An offset may point into the middle of a string and then names its tail. The strings
end where the last zero byte is, and the bytes behind it belong to none.
-/

namespace ElfScope

namespace Bytes

/-- How many of the first `count` bytes are left without those behind the last zero byte. -/
def terminated (bytes : Bytes) : Nat → Nat
  | 0 => 0
  | count + 1 => if bytes[count]? = some 0 then count + 1 else terminated bytes count

/-- The position of the first zero byte among the `count` bytes from `index` on, or behind them. -/
def zeroFrom (bytes : Bytes) : Nat → Nat → Nat
  | 0, index => index
  | count + 1, index =>
    if bytes[index]? = some 0 then index else zeroFrom bytes count (index + 1)

/-- No zero byte is behind the terminated bytes. -/
theorem le_terminated {bytes : Bytes} {count index : Nat} (h : index < count)
    (hzero : bytes[index]? = some 0) : index < bytes.terminated count := by
  induction count with
  | zero => omega
  | succ count ih =>
    rw [terminated]
    split
    case isTrue => omega
    case isFalse hcount =>
      have : index ≠ count := fun heq => hcount (heq ▸ hzero)
      exact ih (by omega)

/-- The terminated bytes end in a zero byte, if there are any. -/
theorem getElem?_terminated {bytes : Bytes} {count last : Nat}
    (h : bytes.terminated count = last + 1) : last < count ∧ bytes[last]? = some 0 := by
  induction count with
  | zero => simp [terminated] at h
  | succ count ih =>
    rw [terminated] at h
    split at h
    case isTrue hzero => exact ⟨by omega, by rwa [show last = count by omega]⟩
    case isFalse => exact ⟨Nat.lt_succ_of_lt (ih h).1, (ih h).2⟩

end Bytes

/-- The bytes of a string table. Its strings lie in the first `extent` bytes, which end in the last
zero byte. -/
structure StringTable where
  bytes : Bytes
  extent : Nat
  extent_eq : extent = bytes.terminated bytes.size

/-- Why an offset names no string: it is at the end of the table or beyond (`outOfRange`), or no
zero byte follows in the table (`unterminated`). -/
inductive StringError where
  | outOfRange
  | unterminated
  deriving DecidableEq, Repr

namespace StringTable

/-- The string table with the given contents. -/
def ofBytes (bytes : Bytes) : StringTable :=
  ⟨bytes, bytes.terminated bytes.size, rfl⟩

/-- The string at `offset`, without the zero byte that ends it. -/
def get (table : StringTable) (offset : UInt32) : Except StringError Bytes :=
  if table.bytes.size ≤ offset.toNat then .error .outOfRange
  else if table.extent ≤ offset.toNat then .error .unterminated
  else
    let stop := table.bytes.zeroFrom (table.extent - offset.toNat) offset.toNat
    .ok (table.bytes.extract offset.toNat stop)

/-- The string at `offset` as text, with U+FFFD for what is not UTF-8. -/
def text (table : StringTable) (offset : UInt32) : Except StringError String :=
  (table.get offset).map Utf8.decodeLossy

end StringTable

end ElfScope
