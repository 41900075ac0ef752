import ElfScope.Text.Column

/-!
# Bytes and ranges

The contents of a file are an array of bytes. `Bytes.slice` is the only way a range is read: it
answers exactly when the range lies inside, counted over the natural numbers, so no offset or
length can wrap around.
-/

namespace ElfScope

/-- The contents of a file or of a part of it. -/
abbrev Bytes := Array UInt8

/-- A range that leaves the bytes it was read from: `length` bytes from `offset` on were asked for,
and there are `size` bytes. -/
structure RangeError where
  offset : UInt64
  length : UInt64
  size : Nat
  deriving DecidableEq, Repr

/-- What is said about a range that leaves the data. -/
def RangeError.message (error : RangeError) : String :=
  "read of " ++ Text.decimal error.length.toNat ++ " bytes at offset "
    ++ Text.hexLiteral error.offset.toNat ++ " exceeds image size " ++ Text.hexLiteral error.size

namespace Bytes

/-- The `length` bytes from `offset` on. -/
def slice (data : Bytes) (offset length : UInt64) : Except RangeError Bytes :=
  if offset.toNat + length.toNat ≤ data.size then
    .ok (data.extract offset.toNat (offset.toNat + length.toNat))
  else
    .error ⟨offset, length, data.size⟩

/-- The first `count` bytes, if there are that many. -/
def first? (count : Nat) (data : Bytes) : Option (Vector UInt8 count) :=
  if h : count ≤ data.size then some ⟨data.extract 0 count, by simp [h]⟩ else none

/-- The first `count` records of `size` bytes each. -/
def records (size count : Nat) (data : Bytes) : List Bytes :=
  (List.range count).map fun index => data.extract (index * size) (index * size + size)

/-- A range is read exactly when it lies inside the data. -/
theorem slice_eq_ok_iff {data part : Bytes} {offset length : UInt64} :
    slice data offset length = .ok part ↔
      offset.toNat + length.toNat ≤ data.size ∧
        part = data.extract offset.toNat (offset.toNat + length.toNat) := by
  unfold slice
  split
  case isTrue h => simp [h, eq_comm]
  case isFalse h => simp [h]

/-- A range that is read has the length asked for. -/
theorem size_of_slice {data part : Bytes} {offset length : UInt64}
    (h : slice data offset length = .ok part) : part.size = length.toNat := by
  obtain ⟨hle, rfl⟩ := slice_eq_ok_iff.1 h
  simp only [Array.size_extract]
  omega

/-- There are as many records as were asked for. -/
@[simp]
theorem length_records (size count : Nat) (data : Bytes) :
    (records size count data).length = count := by
  simp [records]

end Bytes

end ElfScope
