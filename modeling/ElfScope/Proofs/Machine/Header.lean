import ElfScope.Proofs.FileHeader
import ElfScope.Proofs.Machine.Operations

/-!
# The header on a machine

Ranges, fields and the header, read by operations that may crash. `readAt` compares the end of a
range with the size of the file before it takes the range, and what it answers is as long as it was
asked for, so the copies and indices behind it are in order (`readAt_eq`, `field_bind`,
`decodeHeader_eq`).
-/

namespace ElfScope.Machine

open Outcome

/-! ## Ranges and fields -/

/-- The `length` bytes from `offset` on. -/
def readAt (data : Bytes) (offset length : UInt64) : Outcome RangeError Bytes :=
  let size := UInt64.ofNat data.size
  let error : RangeError := ⟨offset, length, size.toNat⟩
  match sum? offset length with
  | none => refused error
  | some stop => if size < stop then refused error else range data offset.toNat stop.toNat

/-- The `width` bytes at `offset` of a record, in an array of their own. -/
def field (reader : FieldReader) (width : Nat) (offset : UInt64) :
    Outcome RangeError (Vector UInt8 width) := do
  let bytes ← readAt reader.record offset (.ofNat width)
  copy width bytes

/-- The byte at `offset`. -/
def u8 (reader : FieldReader) (offset : UInt64) : Outcome RangeError UInt8 := do
  let bytes ← field reader 1 offset
  element bytes.toList 0

/-- The two-byte number at `offset`. -/
def u16 (reader : FieldReader) (offset : UInt64) : Outcome RangeError UInt16 := do
  let bytes ← field reader 2 offset
  return .ofNat (reader.order.decode bytes.toArray)

/-- The four-byte number at `offset`. -/
def u32 (reader : FieldReader) (offset : UInt64) : Outcome RangeError UInt32 := do
  let bytes ← field reader 4 offset
  return .ofNat (reader.order.decode bytes.toArray)

/-- The eight-byte number at `offset`. -/
def u64 (reader : FieldReader) (offset : UInt64) : Outcome RangeError UInt64 := do
  let bytes ← field reader 8 offset
  return .ofNat (reader.order.decode bytes.toArray)

/-- The size of a file that fits into memory is a word. -/
theorem toNat_size {data : Bytes} (h : data.size < 2 ^ 63) :
    (UInt64.ofNat data.size).toNat = data.size := by
  rw [UInt64.toNat_ofNat']
  exact Nat.mod_eq_of_lt (by omega)

/-- Reading a range is reading a slice: it crashes nowhere. -/
theorem readAt_eq {data : Bytes} (h : data.size < 2 ^ 63) (offset length : UInt64) :
    readAt data offset length = settled (data.slice offset length) := by
  by_cases hsum : offset.toNat + length.toNat < 2 ^ 64
  · have hstop : (offset + length).toNat = offset.toNat + length.toNat := by
      rw [UInt64.toNat_add]
      exact Nat.mod_eq_of_lt hsum
    simp only [readAt, sum?, if_pos hsum, UInt64.lt_iff_toNat_lt, toNat_size h, hstop]
    by_cases hbound : data.size < offset.toNat + length.toNat
    · rw [if_pos hbound, Bytes.slice_eq_error hbound]
      rfl
    · rw [if_neg hbound, Bytes.slice_eq_part (by omega), range_eq (by omega) (by omega)]
      rfl
  -- A sum that is no word is beyond the end of the file.
  · simp only [readAt, sum?, if_neg hsum, toNat_size h]
    rw [Bytes.slice_eq_error (by omega)]
    rfl

section Fields

variable {reader : FieldReader} (h : reader.record.size < 2 ^ 63) (offset : UInt64)

include h

/-- The bytes of a field fill their array, wherever the field may be. -/
theorem field_bind {α : Type} (width : UInt64) (f : Nat → α)
    {next : Vector UInt8 width.toNat → Outcome RangeError α}
    (hnext : ∀ bytes, next bytes = settled (.ok (f (reader.order.decode bytes.toArray)))) :
    (field reader width.toNat offset >>= next)
      = settled (reader.number width offset >>= fun number => .ok (f number)) := by
  rw [field, readAt_eq h, UInt64.ofNat_toNat, FieldReader.number]
  cases hslice : reader.record.slice offset width with
  | error error => rfl
  | ok bytes =>
    rw [settled_ok_bind, copy_eq (Bytes.size_of_slice hslice), settled_ok_bind, hnext]
    rfl

/-- Reading a byte crashes nowhere. -/
theorem u8_eq : u8 reader offset = settled (reader.u8 offset) := by
  refine field_bind h offset 1 UInt8.ofNat fun bytes => ?_
  have hlength : bytes.toList.length = 1 := bytes.length_toList
  obtain ⟨byte, hbyte⟩ := List.length_eq_one_iff.1 hlength
  have hnumber : reader.order.decode bytes.toArray = byte.toNat := by
    rw [show bytes.toArray = #[byte] from Array.toList_inj.1 hbyte]
    cases reader.order <;> simp [ByteOrder.decode]
  rw [hnumber, UInt8.ofNat_toNat]
  exact element_eq (by rw [hbyte]; rfl)

/-- Reading a number of two bytes crashes nowhere. -/
theorem u16_eq : u16 reader offset = settled (reader.u16 offset) :=
  field_bind h offset 2 UInt16.ofNat fun _ => rfl

/-- Reading a number of four bytes crashes nowhere. -/
theorem u32_eq : u32 reader offset = settled (reader.u32 offset) :=
  field_bind h offset 4 UInt32.ofNat fun _ => rfl

/-- Reading a number of eight bytes crashes nowhere. -/
theorem u64_eq : u64 reader offset = settled (reader.u64 offset) :=
  field_bind h offset 8 UInt64.ofNat fun _ => rfl

end Fields

/-! ## The header -/

/-- The numbers of a header behind its identification. -/
def decodeFields (ident : Identification) (order : ByteOrder) (block : Bytes) :
    Outcome RangeError FileHeader := do
  let reader : FieldReader := ⟨block, order⟩
  return {
    ident
    order
    objectType := ← u16 reader 16
    machine := ← u16 reader 18
    version := ← u32 reader 20
    entry := ← u64 reader 24
    programOffset := ← u64 reader 32
    sectionOffset := ← u64 reader 40
    flags := ← u32 reader 48
    headerSize := ← u16 reader 52
    programEntrySize := ← u16 reader 54
    programCount := ← u16 reader 56
    sectionEntrySize := ← u16 reader 58
    sectionCount := ← u16 reader 60
    nameSection := ← u16 reader 62 }

/-- The byte order that acceptable identification bytes declare. -/
def checkIdentification (bytes : Vector UInt8 16) : Outcome HeaderError ByteOrder := do
  if (← range bytes.toArray 0 4) ≠ magic.toArray then
    let found ← copy 4 (← range bytes.toArray 0 4)
    refused (.badMagic found)
  else if (← element bytes.toList 4) ≠ 2 then
    let found ← element bytes.toList 4
    refused (.unsupportedClass found)
  else
    let encoding ← element bytes.toList 5
    match ByteOrder.ofEncoding? encoding with
    | none => refused (.unsupportedEncoding encoding)
    | some order => return order

/-- The header at the start of a file. -/
def decodeHeader (data : Bytes) : Outcome HeaderError FileHeader := do
  match ← (readAt data 0 64).attempt with
  | .error _ => refused (FileHeader.shortfall data)
  | .ok block =>
    let ident ← copy 16 (← range block 0 16)
    let order ← checkIdentification ident
    (decodeFields ⟨ident⟩ order block).mapError .range

/-- The fields of a header are decoded without a crash. -/
theorem decodeFields_eq {block : Bytes} (h : block.size < 2 ^ 63) (ident : Identification)
    (order : ByteOrder) :
    decodeFields ident order block = settled (FileHeader.decodeFields ident order block) := by
  have hreader : (FieldReader.mk block order).record.size < 2 ^ 63 := h
  simp only [decodeFields, u16_eq hreader, u32_eq hreader, u64_eq hreader, pure_eq, settled_bind]
  rfl

/-- The magic number is the first four bytes of the identification. -/
theorem extract_ident (ident : Identification) :
    ident.bytes.toArray.extract 0 4 = ident.magic.toArray := by
  apply Array.ext
  · simp
  · intro index hindex _
    have hlt : index < 4 := by simpa using hindex
    match index, hlt with
    | 0, _ | 1, _ | 2, _ | 3, _ => simp [Identification.magic]

/-- The identification is checked without a crash. -/
theorem checkIdentification_eq (ident : Identification) :
    checkIdentification ident.bytes = settled ident.check := by
  have hrange : (range ident.bytes.toArray 0 4 : Outcome HeaderError Bytes)
      = settled (.ok ident.magic.toArray) := by
    rw [range_eq (by omega) (by simp), extract_ident]
  have hcopy : (copy 4 ident.magic.toArray : Outcome HeaderError (Vector UInt8 4))
      = settled (.ok ident.magic) := copy_eq (by simp)
  have hclass : (element ident.bytes.toList 4 : Outcome HeaderError UInt8)
      = settled (.ok ident.fileClass) := element_eq (by simp [Identification.fileClass])
  have hencoding : (element ident.bytes.toList 5 : Outcome HeaderError UInt8)
      = settled (.ok ident.encoding) := element_eq (by simp [Identification.encoding])
  simp only [checkIdentification, Identification.check, hrange, hcopy, hclass, hencoding,
    settled_ok_bind, ne_eq, Vector.toArray_inj]
  split
  · rfl
  split
  · rfl
  cases ByteOrder.ofEncoding? ident.encoding <;> rfl

/-- The header of a file is decoded without a crash. -/
theorem decodeHeader_eq {data : Bytes} (h : data.size < 2 ^ 63) :
    decodeHeader data = settled (FileHeader.decode data) := by
  rw [decodeHeader, readAt_eq h, attempt_settled, settled_ok_bind]
  by_cases hsize : 64 ≤ data.size
  · have hblock : (data.part 0 64).size = 64 := Bytes.size_part (by omega)
    have hslice : data.slice 0 64 = .ok (data.part 0 64) := Bytes.slice_eq_part hsize
    have hrange : (range (data.part 0 64) 0 16 : Outcome HeaderError Bytes)
        = settled (.ok (data.part 0 16)) := by
      have hpart : (data.part 0 64).part 0 16 = data.part (0 + 0) 16 := Bytes.part_part (by omega)
      rw [range_eq (by omega) (by omega)]
      exact congrArg (fun bytes => settled (.ok bytes)) hpart
    have hcopy : (copy 16 (data.part 0 16) : Outcome HeaderError (Vector UInt8 16))
        = settled (.ok (Identification.ofBytes data (by omega)).bytes) :=
      copy_eq (Bytes.size_part (by omega))
    rw [hslice, FileHeader.decode_eq_map hsize]
    simp only [hrange, hcopy, settled_ok_bind, checkIdentification_eq]
    cases (Identification.ofBytes data (by omega)).check with
    | error error => rfl
    | ok order =>
      rw [settled_ok_bind, decodeFields_eq (by omega), mapError_settled,
        FileHeader.decodeFields_eq_ofBytes (by omega), FileHeader.ofBytes_part]
      rfl
  · have hslice : data.slice 0 64 = .error ⟨0, 64, data.size⟩ :=
      Bytes.slice_eq_error (Nat.lt_of_not_le hsize)
    rw [hslice, FileHeader.decode_of_lt (Nat.lt_of_not_le hsize)]
    rfl

end ElfScope.Machine
