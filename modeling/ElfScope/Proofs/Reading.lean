import ElfScope.Proofs.Number

/-!
# Ranges and fields

A range of a range is a range of the whole (`Bytes.slice_slice`). Bytes in the one order stand for
the same number as the reversed bytes in the other (`ByteOrder.decode_reverse`), and a number of
twice the width is made of two numbers, one behind the other (`ByteOrder.numberAt_add`).
`FieldReader.read` reads a field of any width. It answers for the bytes of the field alone, so a
field of a record is the field at its place in the file (`reads_exactly`).
-/

namespace ElfScope

/-! ## Ranges of ranges -/

namespace Bytes

variable {data part : Bytes} {offset length inner count : UInt64}

/-- What is read of a range is this part of the bytes. -/
theorem eq_part_of_slice (h : slice data offset length = .ok part) :
    part = data.part offset.toNat length.toNat :=
  (slice_eq_ok_iff.1 h).2

/-- A range is read exactly if it ends inside the bytes, where nothing wraps around. -/
theorem exists_slice_eq_ok_iff :
    (∃ part, slice data offset length = .ok part) ↔
      offset.toNat + length.toNat ≤ data.size := by
  constructor
  · intro h
    obtain ⟨part, hpart⟩ := h
    exact (slice_eq_ok_iff.1 hpart).1
  · intro h
    exact ⟨_, slice_eq_part h⟩

/-- The bytes of a range that is read are those of the whole from its offset on. -/
theorem getElem?_of_slice (h : slice data offset length = .ok part) {index : Nat}
    (hindex : index < length.toNat) : part[index]? = data[offset.toNat + index]? := by
  rw [eq_part_of_slice h, getElem?_part, if_pos hindex]

/-- A range of one byte is this byte. -/
theorem part_one {position : Nat} (h : position < data.size) :
    data.part position 1 = #[data[position]] := by
  apply Array.ext_getElem?
  intro index
  rw [getElem?_part]
  split
  case isTrue hlt =>
    obtain rfl : index = 0 := by omega
    simp [h]
  case isFalse hlt => rw [Array.getElem?_eq_none (Nat.not_lt.1 hlt)]

/-- In files of less than `2 ^ 63` bytes, offsets that can be reached are added without
wrapping. -/
theorem toNat_add_of_le (hsize : data.size < 2 ^ 63) (h : offset.toNat + inner.toNat ≤ data.size) :
    (offset + inner).toNat = offset.toNat + inner.toNat := by
  rw [UInt64.toNat_add]
  exact Nat.mod_eq_of_lt (by omega)

/-- A range of a range is a range of the whole. -/
theorem slice_slice (hsize : data.size < 2 ^ 63) (h : slice data offset length = .ok part)
    (hle : inner.toNat + count.toNat ≤ length.toNat) :
    slice part inner count = slice data (offset + inner) count := by
  have hinside : offset.toNat + length.toNat ≤ data.size := (slice_eq_ok_iff.1 h).1
  have hoffset : (offset + inner).toNat = offset.toNat + inner.toNat :=
    toNat_add_of_le hsize (by omega)
  have hpart : inner.toNat + count.toNat ≤ part.size := by rwa [size_of_slice h]
  have hwhole : (offset + inner).toNat + count.toNat ≤ data.size := by omega
  rw [slice_eq_part hpart, slice_eq_part hwhole, eq_part_of_slice h, part_part hle, hoffset]

/-- What leaves a range is no part of it, whatever stands behind the range. -/
theorem slice_slice_error (h : slice data offset length = .ok part)
    (hlt : length.toNat < inner.toNat + count.toNat) :
    slice part inner count = .error ⟨inner, count, length.toNat⟩ := by
  rw [slice_eq_error (by rwa [size_of_slice h]), size_of_slice h]

end Bytes

/-! ## Numbers in both orders -/

namespace ByteOrder

variable {order : ByteOrder} {data : Bytes}

/-- A single byte stands for its own number in either order. -/
theorem decode_singleton (order : ByteOrder) (byte : UInt8) :
    order.decode #[byte] = byte.toNat := by
  cases order <;> simp [decode]

/-- Bytes in the one order are the reversed bytes in the other. -/
theorem decode_reverse (bytes : Bytes) : decode .big bytes = decode .little bytes.reverse := by
  rw [decode, decode, Array.toList_reverse, List.foldr_reverse]
  congr 1
  funext high byte
  exact Nat.add_comm _ _

/-- In the little order, the bytes in front are the low ones. -/
theorem decode_little_append (first second : Bytes) :
    decode .little (first ++ second)
      = decode .little first + 256 ^ first.size * decode .little second := by
  obtain ⟨bytes⟩ := first
  induction bytes with
  | nil => simp [decode]
  | cons byte rest ih =>
    have hfirst : (⟨byte :: rest⟩ : Bytes) = #[byte] ++ ⟨rest⟩ := by simp
    have hsize : (#[byte] ++ ⟨rest⟩ : Bytes).size = rest.length + 1 := by simp
    rw [hfirst, Array.append_assoc, decode_little_cons, decode_little_cons, ih, hsize,
      List.size_toArray, Nat.mul_add, Nat.add_assoc, Nat.pow_succ', Nat.mul_assoc]

/-- In the big order, the first bytes are the high ones. -/
theorem decode_big_append (first second : Bytes) :
    decode .big (first ++ second)
      = 256 ^ second.size * decode .big first + decode .big second := by
  rw [decode_reverse, Array.reverse_append, decode_little_append, Array.size_reverse,
    ← decode_reverse, ← decode_reverse, Nat.add_comm]

/-- A number made of two, of which the first stands in front of the other, each in as many bytes as
the width says. -/
def combine : ByteOrder → Nat → Nat → Nat → Nat
  | .little, width, first, second => first + 2 ^ (8 * width) * second
  | .big, width, first, second => 2 ^ (8 * width) * first + second

/-- A number of twice the width is made of the two numbers in its place. -/
theorem numberAt_add {width offset : Nat} (h : offset + (width + width) ≤ data.size) :
    order.numberAt data (width + width) offset
      = order.combine width (order.numberAt data width offset)
          (order.numberAt data width (offset + width)) := by
  have hfirst : (data.part offset width).size = width := Bytes.size_part (by omega)
  have hsecond : (data.part (offset + width) width).size = width := Bytes.size_part (by omega)
  have hweight : 256 ^ width = 2 ^ (8 * width) := by rw [Nat.pow_mul]
  rw [numberAt, Bytes.part_add]
  cases order with
  | little => rw [decode_little_append, hfirst, hweight, combine, numberAt, numberAt]
  | big => rw [decode_big_append, hsecond, hweight, combine, numberAt, numberAt]

end ByteOrder

/-! ## Fields of all widths -/

/-- How many bytes wide a field is. -/
inductive FieldWidth where
  | one
  | two
  | four
  | eight
  deriving DecidableEq, Repr

/-- The number of bytes of a field. -/
def FieldWidth.size : FieldWidth → UInt64
  | .one => 1
  | .two => 2
  | .four => 4
  | .eight => 8

namespace FieldReader

open ByteOrder (numberAt)

variable {reader : FieldReader} {width : FieldWidth} {offset : UInt64}

/-- The number in a field. -/
def read (reader : FieldReader) (width : FieldWidth) (offset : UInt64) : Except RangeError Nat :=
  match width with
  | .one => UInt8.toNat <$> reader.u8 offset
  | .two => UInt16.toNat <$> reader.u16 offset
  | .four => UInt32.toNat <$> reader.u32 offset
  | .eight => UInt64.toNat <$> reader.u64 offset

/-- A field that leaves its record is reported as it was asked for. -/
theorem number_eq_error {size : UInt64} (h : reader.record.size < offset.toNat + size.toNat) :
    reader.number size offset = .error ⟨offset, size, reader.record.size⟩ := by
  rw [number, Bytes.slice_eq_error h]
  rfl

/-- A number that is read is less than the power that its bytes have room for. -/
theorem number_lt {size : UInt64} {found : Nat} (h : reader.number size offset = .ok found) :
    found < 256 ^ size.toNat := by
  by_cases hle : offset.toNat + size.toNat ≤ reader.record.size
  · rw [number_eq hle, Except.ok.injEq] at h
    exact h ▸ ByteOrder.numberAt_lt hle
  · rw [number_eq_error (Nat.not_le.1 hle)] at h
    cases h

/-- Nothing of a number is lost in words that hold all numbers of its width. -/
theorem map_number {word : Type} {size : UInt64} (ofNat : Nat → word) (toNat : word → Nat)
    (hword : ∀ found, found < 256 ^ size.toNat → toNat (ofNat found) = found) :
    toNat <$> (return ofNat (← reader.number size offset) : Except RangeError word)
      = reader.number size offset := by
  cases h : reader.number size offset with
  | error error => rfl
  | ok found => exact congrArg Except.ok (hword found (number_lt h))

/-- A field is read as a number of its width. -/
theorem read_eq_number (reader : FieldReader) (width : FieldWidth) (offset : UInt64) :
    reader.read width offset = reader.number width.size offset := by
  cases width with
  | one => exact map_number UInt8.ofNat UInt8.toNat fun _ => UInt8.toNat_ofNat_of_lt'
  | two => exact map_number UInt16.ofNat UInt16.toNat fun _ => UInt16.toNat_ofNat_of_lt'
  | four => exact map_number UInt32.ofNat UInt32.toNat fun _ => UInt32.toNat_ofNat_of_lt'
  | eight => exact map_number UInt64.ofNat UInt64.toNat fun _ => UInt64.toNat_ofNat_of_lt'

/-- A field inside the record is read. -/
theorem read_eq (h : offset.toNat + width.size.toNat ≤ reader.record.size) :
    reader.read width offset
      = .ok (reader.order.numberAt reader.record width.size.toNat offset.toNat) := by
  rw [read_eq_number, number_eq h]

/-- A field that leaves the record is reported as it was asked for. -/
theorem read_eq_error (h : reader.record.size < offset.toNat + width.size.toNat) :
    reader.read width offset = .error ⟨offset, width.size, reader.record.size⟩ := by
  rw [read_eq_number, number_eq_error h]

/-- A field is read exactly if it lies inside the record, and it is the number there. -/
theorem read_eq_ok_iff {found : Nat} :
    reader.read width offset = .ok found ↔
      offset.toNat + width.size.toNat ≤ reader.record.size ∧
        found = reader.order.numberAt reader.record width.size.toNat offset.toNat := by
  by_cases h : offset.toNat + width.size.toNat ≤ reader.record.size
  · rw [read_eq h, Except.ok.injEq, eq_comm, and_iff_right h]
  · rw [read_eq_error (Nat.not_le.1 h)]
    simp [h]

/-! ## What is read -/

variable {data part : Bytes} {order : ByteOrder} {start length : UInt64}

/-- A field of one byte is that byte. -/
theorem read_one_iff {found : Nat} :
    reader.read .one offset = .ok found ↔
      ∃ byte, reader.record[offset.toNat]? = some byte ∧ found = byte.toNat := by
  have hsize : FieldWidth.one.size.toNat = 1 := rfl
  rw [read_eq_ok_iff, hsize]
  constructor
  · intro h
    obtain ⟨hle, hfound⟩ := h
    have hlt : offset.toNat < reader.record.size := hle
    refine ⟨reader.record[offset.toNat], Array.getElem?_eq_getElem hlt, ?_⟩
    rw [hfound, numberAt, Bytes.part_one hlt, ByteOrder.decode_singleton]
  · intro h
    obtain ⟨byte, hbyte, hfound⟩ := h
    obtain ⟨hlt, rfl⟩ := Array.getElem?_eq_some_iff.1 hbyte
    exact ⟨hlt, by rw [hfound, numberAt, Bytes.part_one hlt, ByteOrder.decode_singleton]⟩

/-- In the big order, a field is read like its reversed bytes in the little order. -/
theorem read_reverse (h : data.slice offset width.size = .ok part) :
    (FieldReader.mk data .big).read width offset
      = (FieldReader.mk part.reverse .little).read width 0 := by
  have hle : offset.toNat + width.size.toNat ≤ data.size := (Bytes.slice_eq_ok_iff.1 h).1
  have hsize : part.reverse.size = width.size.toNat := by
    rw [Array.size_reverse, Bytes.size_of_slice h]
  have hzero : (0 : UInt64).toNat = 0 := rfl
  have hreversed : (0 : UInt64).toNat + width.size.toNat ≤ part.reverse.size := by omega
  rw [read_eq hle, read_eq hreversed]
  simp only [numberAt]
  rw [hzero, ← hsize, Bytes.part_zero_size, ← ByteOrder.decode_reverse, hsize,
    ← Bytes.eq_part_of_slice h]

/-- A field is made of its two halves. -/
theorem read_halves {half whole : FieldWidth} (hsize : reader.record.size < 2 ^ 63)
    (hwhole : whole.size.toNat = half.size.toNat + half.size.toNat) {found : Nat} :
    reader.read whole offset = .ok found ↔
      ∃ first second, reader.read half offset = .ok first ∧
        reader.read half (offset + half.size) = .ok second ∧
        found = reader.order.combine half.size.toNat first second := by
  simp only [read_eq_ok_iff, hwhole]
  constructor
  · intro h
    obtain ⟨hle, hfound⟩ := h
    have hoffset : (offset + half.size).toNat = offset.toNat + half.size.toNat :=
      Bytes.toNat_add_of_le hsize (by omega)
    refine ⟨_, _, ⟨by omega, rfl⟩, ⟨by omega, rfl⟩, ?_⟩
    rw [hfound, ByteOrder.numberAt_add hle, hoffset]
  · intro h
    obtain ⟨first, second, ⟨hfirst, hfirstEq⟩, ⟨hsecond, hsecondEq⟩, hfound⟩ := h
    have hoffset : (offset + half.size).toNat = offset.toNat + half.size.toNat :=
      Bytes.toNat_add_of_le hsize hfirst
    have hle : offset.toNat + (half.size.toNat + half.size.toNat) ≤ reader.record.size := by omega
    refine ⟨hle, ?_⟩
    rw [hfound, hfirstEq, hsecondEq, hoffset, ByteOrder.numberAt_add hle]

/-- A field of a record is the field at its place in the file. -/
theorem read_slice (hsize : data.size < 2 ^ 63) (h : data.slice start length = .ok part)
    (hle : offset.toNat + width.size.toNat ≤ length.toNat) :
    (FieldReader.mk part order).read width offset
      = (FieldReader.mk data order).read width (start + offset) := by
  rw [read_eq_number, read_eq_number, number, number, Bytes.slice_slice hsize h hle]

/-- A field that leaves a record of a file is reported with the length of the record. -/
theorem read_slice_error (h : data.slice start length = .ok part)
    (hlt : length.toNat < offset.toNat + width.size.toNat) :
    (FieldReader.mk part order).read width offset
      = .error ⟨offset, width.size, length.toNat⟩ := by
  rw [read_eq_error (by rwa [Bytes.size_of_slice h]), Bytes.size_of_slice h]

end FieldReader

/-- How ranges of a file are read, and the fields in it.

A range is read exactly if it lies inside the file, where nothing wraps around (`inside`). What is
read are the bytes of the range (`bytes`), and a range that leaves the file is reported as it was
asked for (`outside`). A range of a range is a range of the file (`nested`), and what leaves a range
is not read from it, even if it lies inside the file (`confined`).

A field is read exactly if its range is (`field`), and a field of one byte is that byte (`byte`). A
wider one is made of its two halves, the first of which is the low one in the little order and the
high one in the big order (`halves`). In the big order, a field is read like its reversed bytes in
the little order (`reversed`). A field of a record is the field at its place in the file (`record`),
and what leaves a record is no field of it, even if it lies inside the file (`beyond`). -/
structure ReadsExactly (data : Bytes) : Prop where
  inside : ∀ offset length, (∃ part, data.slice offset length = .ok part) ↔
    offset.toNat + length.toNat ≤ data.size
  bytes : ∀ offset length part, data.slice offset length = .ok part →
    part.size = length.toNat ∧
      ∀ index, index < length.toNat → part[index]? = data[offset.toNat + index]?
  outside : ∀ offset length, data.size < offset.toNat + length.toNat →
    data.slice offset length = .error ⟨offset, length, data.size⟩
  nested : ∀ offset length part, data.slice offset length = .ok part →
    ∀ inner count, inner.toNat + count.toNat ≤ length.toNat →
      part.slice inner count = data.slice (offset + inner) count
  confined : ∀ offset length part, data.slice offset length = .ok part →
    ∀ inner count, length.toNat < inner.toNat + count.toNat →
      part.slice inner count = .error ⟨inner, count, length.toNat⟩
  field : ∀ order width offset,
    (∃ found, (FieldReader.mk data order).read width offset = .ok found) ↔
      ∃ part, data.slice offset width.size = .ok part
  byte : ∀ order offset found, (FieldReader.mk data order).read .one offset = .ok found ↔
    ∃ byte, data[offset.toNat]? = some byte ∧ found = byte.toNat
  halves : ∀ half whole : FieldWidth, whole.size.toNat = half.size.toNat + half.size.toNat →
    ∀ order offset found, (FieldReader.mk data order).read whole offset = .ok found ↔
      ∃ first second, (FieldReader.mk data order).read half offset = .ok first ∧
        (FieldReader.mk data order).read half (offset + half.size) = .ok second ∧
        found = order.combine half.size.toNat first second
  reversed : ∀ width offset part, data.slice offset width.size = .ok part →
    (FieldReader.mk data .big).read width offset
      = (FieldReader.mk part.reverse .little).read width 0
  record : ∀ start length part, data.slice start length = .ok part →
    ∀ order width offset, offset.toNat + width.size.toNat ≤ length.toNat →
      (FieldReader.mk part order).read width offset
        = (FieldReader.mk data order).read width (start + offset)
  beyond : ∀ start length part, data.slice start length = .ok part →
    ∀ order width offset, length.toNat < offset.toNat + width.size.toNat →
      (FieldReader.mk part order).read width offset = .error ⟨offset, width.size, length.toNat⟩

/-- Ranges and fields are read exactly, wherever they are asked for. -/
theorem reads_exactly (data : Bytes) (hsize : data.size < 2 ^ 63) : ReadsExactly data where
  inside := fun _ _ => Bytes.exists_slice_eq_ok_iff
  bytes := fun _ _ _ h => ⟨Bytes.size_of_slice h, fun _ => Bytes.getElem?_of_slice h⟩
  outside := fun _ _ => Bytes.slice_eq_error
  nested := fun _ _ _ h _ _ => Bytes.slice_slice hsize h
  confined := fun _ _ _ h _ _ => Bytes.slice_slice_error h
  field := by
    intro order width offset
    simp only [FieldReader.read_eq_ok_iff, exists_and_left, exists_eq, and_true,
      Bytes.exists_slice_eq_ok_iff]
  byte := fun _ _ _ => FieldReader.read_one_iff
  halves := fun _ _ hwhole _ _ _ => FieldReader.read_halves hsize hwhole
  reversed := fun _ _ _ h => FieldReader.read_reverse h
  record := fun _ _ _ h _ _ _ => FieldReader.read_slice hsize h
  beyond := fun _ _ _ h _ _ _ => FieldReader.read_slice_error h

/-- Eight bytes, of which two are asked for at the last offset that there is: nothing wraps around
to the start. -/
theorem reads_exactly_eight :
    let data : Bytes := #[0x12, 0x34, 0x56, 0x78, 0x9a, 0xbc, 0xde, 0xf0]
    data.size < 2 ^ 63 ∧ ReadsExactly data ∧
      data.slice 0xffffffffffffffff 2 = .error ⟨0xffffffffffffffff, 2, 8⟩ := by
  intro data
  have hsize : data.size < 2 ^ 63 := by decide
  exact ⟨hsize, reads_exactly data hsize, (reads_exactly data hsize).outside _ _ (by decide)⟩

end ElfScope
