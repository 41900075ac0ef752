import ElfScope.ByteOrder
import ElfScope.Proofs.Bytes

/-!
# Numbers in files

Writing a number and reading it back is the identity in both byte orders (`decode_encode`), and so
is reading bytes and writing them back (`encode_decode`). `ByteOrder.numberAt` is the number at an
offset of a file. It is what a field reader answers for every field inside its record.
-/

namespace ElfScope

namespace ByteOrder

variable {order : ByteOrder} {data content : Bytes} {width offset number : Nat}

/-! ## Reading and writing -/

/-- A number is encoded in as many bytes as it is wide. -/
@[simp]
theorem size_encode (order : ByteOrder) (width number : Nat) :
    (order.encode width number).size = width := by
  induction width generalizing number with
  | zero => rfl
  | succ width ih =>
    cases order with
    | little => simp [encode, ih, Nat.add_comm]
    | big => simp [encode, ih]

/-- The leading byte counts for itself, the others for 256 times as much. -/
theorem decode_little_cons (byte : UInt8) (rest : Bytes) :
    decode .little (#[byte] ++ rest) = byte.toNat + 256 * decode .little rest := by
  simp [decode]

/-- The last byte counts for itself, the others for 256 times as much. -/
theorem decode_big_push (rest : Bytes) (byte : UInt8) :
    decode .big (rest ++ #[byte]) = 256 * decode .big rest + byte.toNat := by
  simp [decode]

/-- A number is read back as it was written. -/
theorem decode_encode (h : number < 256 ^ width) :
    order.decode (order.encode width number) = number := by
  induction width generalizing number with
  | zero =>
    have hzero : number = 0 := by simpa using h
    cases order <;> simp [decode, encode, hzero]
  | succ width ih =>
    have hrest : number / 256 < 256 ^ width := by
      rw [Nat.pow_succ] at h
      exact Nat.div_lt_of_lt_mul (by omega)
    have hbyte : (UInt8.ofNat number).toNat = number % 256 := by simp
    -- The last eight bits are the first byte in one order and the last byte in the other.
    cases order with
    | little =>
      rw [encode, decode_little_cons, ih hrest, hbyte]
      omega
    | big =>
      rw [encode, decode_big_push, ih hrest, hbyte]
      omega

/-- Bytes divide into the first one and the rest. -/
theorem exists_eq_cons {bytes : Bytes} (h : bytes.size = width + 1) :
    ∃ byte rest, bytes = #[byte] ++ rest ∧ rest.size = width := by
  obtain ⟨_ | ⟨byte, rest⟩⟩ := bytes
  · simp at h
  · exact ⟨byte, ⟨rest⟩, by simp, by simpa using h⟩

/-- Bytes divide into the last one and what is in front of it. -/
theorem exists_eq_push {bytes : Bytes} (h : bytes.size = width + 1) :
    ∃ rest byte, bytes = rest ++ #[byte] ∧ rest.size = width := by
  have hne : bytes.size ≠ 0 := by omega
  obtain ⟨rest, byte, rfl⟩ := Array.eq_push_of_size_ne_zero hne
  exact ⟨rest, byte, by simp, by simpa using h⟩

/-- The byte in the last eight bits. -/
theorem ofNat_byte_add (byte : UInt8) (rest : Nat) :
    UInt8.ofNat (byte.toNat + 256 * rest) = byte := by
  apply UInt8.toNat_inj.1
  have hlt := byte.toNat_lt
  rw [UInt8.toNat_ofNat']
  omega

/-- The number in front of the last eight bits. -/
theorem byte_add_div (byte : UInt8) (rest : Nat) : (byte.toNat + 256 * rest) / 256 = rest := by
  have hlt := byte.toNat_lt
  omega

/-- Bytes stand for a number below the next power of 256. -/
theorem decode_lt {bytes : Bytes} (h : bytes.size = width) : order.decode bytes < 256 ^ width := by
  induction width generalizing bytes with
  | zero =>
    obtain rfl := Array.eq_empty_of_size_eq_zero h
    cases order <;> simp [decode]
  | succ width ih =>
    rw [Nat.pow_succ]
    cases order with
    | little =>
      obtain ⟨byte, rest, rfl, hrest⟩ := exists_eq_cons h
      have hlow := byte.toNat_lt
      have hhigh := ih hrest
      rw [decode_little_cons]
      omega
    | big =>
      obtain ⟨rest, byte, rfl, hrest⟩ := exists_eq_push h
      have hlow := byte.toNat_lt
      have hhigh := ih hrest
      rw [decode_big_push]
      omega

/-- Bytes are written back as they were read. -/
theorem encode_decode {bytes : Bytes} (h : bytes.size = width) :
    order.encode width (order.decode bytes) = bytes := by
  induction width generalizing bytes with
  | zero => exact (Array.eq_empty_of_size_eq_zero h).symm
  | succ width ih =>
    -- The byte in the last eight bits is the first one or the last one, as in `decode_encode`.
    cases order with
    | little =>
      obtain ⟨byte, rest, rfl, hrest⟩ := exists_eq_cons h
      rw [decode_little_cons, encode, ofNat_byte_add, byte_add_div, ih hrest]
    | big =>
      obtain ⟨rest, byte, rfl, hrest⟩ := exists_eq_push h
      rw [decode_big_push, Nat.add_comm (256 * _), encode, ofNat_byte_add, byte_add_div, ih hrest]

/-! ## Numbers at an offset -/

/-- The number that the `width` bytes at `offset` stand for. -/
def numberAt (order : ByteOrder) (data : Bytes) (width offset : Nat) : Nat :=
  order.decode (data.part offset width)

/-- A number of a part is a number of the whole. -/
theorem numberAt_part {start length : Nat} (h : offset + width ≤ length) :
    order.numberAt (data.part start length) width offset
      = order.numberAt data width (start + offset) := by
  rw [numberAt, Bytes.part_part h, numberAt]

/-- A number that has been written is the one that stands there. -/
theorem numberAt_of_holds (h : data.Holds offset (order.encode width number))
    (hlt : number < 256 ^ width) : order.numberAt data width offset = number := by
  rw [numberAt, h.part_eq (size_encode order width number), decode_encode hlt]

/-- Numbers that stand in equal parts are equal. -/
theorem numberAt_congr {other : Bytes} {start length : Nat}
    (h : other.part start length = data.part start length) (hstart : start ≤ offset)
    (hstop : offset + width ≤ start + length) :
    order.numberAt other width offset = order.numberAt data width offset := by
  have hinner : offset - start + width ≤ length := by omega
  have hoffset : start + (offset - start) = offset := by omega
  rw [← hoffset, ← numberAt_part hinner, h, numberAt_part hinner]

/-- A number of two bytes is read back where its encoding is. -/
theorem u16_of_holds {word : UInt16} (h : data.Holds offset (order.encode 2 word.toNat)) :
    UInt16.ofNat (order.numberAt data 2 offset) = word := by
  rw [numberAt_of_holds h word.toNat_lt, UInt16.ofNat_toNat]

/-- A number of four bytes is read back where its encoding is. -/
theorem u32_of_holds {word : UInt32} (h : data.Holds offset (order.encode 4 word.toNat)) :
    UInt32.ofNat (order.numberAt data 4 offset) = word := by
  rw [numberAt_of_holds h word.toNat_lt, UInt32.ofNat_toNat]

/-- A number of eight bytes is read back where its encoding is. -/
theorem u64_of_holds {word : UInt64} (h : data.Holds offset (order.encode 8 word.toNat)) :
    UInt64.ofNat (order.numberAt data 8 offset) = word := by
  rw [numberAt_of_holds h word.toNat_lt, UInt64.ofNat_toNat]

/-- A byte is read back where it is. -/
theorem u8_of_holds {word : UInt8} (h : data.Holds offset (order.encode 1 word.toNat)) :
    UInt8.ofNat (order.numberAt data 1 offset) = word := by
  rw [numberAt_of_holds h word.toNat_lt, UInt8.ofNat_toNat]

/-- The bytes of a number are the ones that stand there. -/
theorem holds_encode_numberAt (h : offset + width ≤ data.size) :
    data.Holds offset (order.encode width (order.numberAt data width offset)) := by
  rw [numberAt, encode_decode (Bytes.size_part h)]
  exact Bytes.holds_part h

/-- A number is less than the power that its bytes have room for. -/
theorem numberAt_lt (h : offset + width ≤ data.size) :
    order.numberAt data width offset < 256 ^ width :=
  decode_lt (Bytes.size_part h)

/-- Where a byte is read, there is its encoding. -/
theorem holds_u8 (h : offset + 1 ≤ data.size) :
    data.Holds offset (order.encode 1 (UInt8.ofNat (order.numberAt data 1 offset)).toNat) := by
  rw [UInt8.toNat_ofNat_of_lt' (numberAt_lt h)]
  exact holds_encode_numberAt h

/-- Where a number of two bytes is read, there is its encoding. -/
theorem holds_u16 (h : offset + 2 ≤ data.size) :
    data.Holds offset (order.encode 2 (UInt16.ofNat (order.numberAt data 2 offset)).toNat) := by
  rw [UInt16.toNat_ofNat_of_lt' (numberAt_lt h)]
  exact holds_encode_numberAt h

/-- Where a number of four bytes is read, there is its encoding. -/
theorem holds_u32 (h : offset + 4 ≤ data.size) :
    data.Holds offset (order.encode 4 (UInt32.ofNat (order.numberAt data 4 offset)).toNat) := by
  rw [UInt32.toNat_ofNat_of_lt' (numberAt_lt h)]
  exact holds_encode_numberAt h

/-- Where a number of eight bytes is read, there is its encoding. -/
theorem holds_u64 (h : offset + 8 ≤ data.size) :
    data.Holds offset (order.encode 8 (UInt64.ofNat (order.numberAt data 8 offset)).toNat) := by
  rw [UInt64.toNat_ofNat_of_lt' (numberAt_lt h)]
  exact holds_encode_numberAt h

end ByteOrder

/-! ## Fields of a record -/

namespace FieldReader

variable {reader : FieldReader} {offset : UInt64}

/-- A field inside the record is read. -/
theorem number_eq {width : UInt64} (h : offset.toNat + width.toNat ≤ reader.record.size) :
    reader.number width offset
      = .ok (reader.order.numberAt reader.record width.toNat offset.toNat) := by
  rw [number, Bytes.slice_eq_part h]
  rfl

/-- Inside a record a byte is read as it is there. -/
theorem u8_eq (h : offset.toNat + 1 ≤ reader.record.size) :
    reader.u8 offset = .ok (.ofNat (reader.order.numberAt reader.record 1 offset.toNat)) := by
  rw [u8, number_eq h]
  rfl

/-- Inside a record a number of two bytes is read as it is there. -/
theorem u16_eq (h : offset.toNat + 2 ≤ reader.record.size) :
    reader.u16 offset = .ok (.ofNat (reader.order.numberAt reader.record 2 offset.toNat)) := by
  rw [u16, number_eq h]
  rfl

/-- Inside a record a number of four bytes is read as it is there. -/
theorem u32_eq (h : offset.toNat + 4 ≤ reader.record.size) :
    reader.u32 offset = .ok (.ofNat (reader.order.numberAt reader.record 4 offset.toNat)) := by
  rw [u32, number_eq h]
  rfl

/-- Inside a record a number of eight bytes is read as it is there. -/
theorem u64_eq (h : offset.toNat + 8 ≤ reader.record.size) :
    reader.u64 offset = .ok (.ofNat (reader.order.numberAt reader.record 8 offset.toNat)) := by
  rw [u64, number_eq h]
  rfl

end FieldReader

end ElfScope
