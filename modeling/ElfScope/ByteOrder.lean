import ElfScope.Bytes

/-!
# Numbers in a byte order

A number of `w` bytes is read and written in either order. `FieldReader` reads the fields of one
record: the offset of a field counts from the start of the record.
-/

namespace ElfScope

/-- The order in which the bytes of a number stand in a file: the least significant byte leads
(`little`), or the most significant one does (`big`). -/
inductive ByteOrder where
  | little
  | big
  deriving DecidableEq, Repr

namespace ByteOrder

/-- The number that the bytes stand for. -/
def decode : ByteOrder → Bytes → Nat
  | .little, bytes => bytes.toList.foldr (fun byte rest => byte.toNat + 256 * rest) 0
  | .big, bytes => bytes.toList.foldl (fun high byte => 256 * high + byte.toNat) 0

/-- The `width` bytes that stand for a number below `256 ^ width`. -/
def encode (order : ByteOrder) : Nat → Nat → Bytes
  | 0, _ => #[]
  | width + 1, number =>
    match order with
    | .little => #[UInt8.ofNat number] ++ encode order width (number / 256)
    | .big => encode order width (number / 256) ++ #[UInt8.ofNat number]

/-- The name of the order in reports of a reader's state. -/
def name : ByteOrder → String
  | .little => "little"
  | .big => "big"

end ByteOrder

/-- Reads numbers, which are in `order`, out of one `record`. -/
structure FieldReader where
  record : Bytes
  order : ByteOrder

namespace FieldReader

/-- The number in the `width` bytes at `offset`. -/
def number (reader : FieldReader) (width offset : UInt64) : Except RangeError Nat := do
  let field ← Bytes.slice reader.record offset width
  return reader.order.decode field

/-- The byte at `offset`. -/
def u8 (reader : FieldReader) (offset : UInt64) : Except RangeError UInt8 :=
  return UInt8.ofNat (← reader.number 1 offset)

/-- The two-byte number at `offset`. -/
def u16 (reader : FieldReader) (offset : UInt64) : Except RangeError UInt16 :=
  return UInt16.ofNat (← reader.number 2 offset)

/-- The four-byte number at `offset`. -/
def u32 (reader : FieldReader) (offset : UInt64) : Except RangeError UInt32 :=
  return UInt32.ofNat (← reader.number 4 offset)

/-- The eight-byte number at `offset`. -/
def u64 (reader : FieldReader) (offset : UInt64) : Except RangeError UInt64 :=
  return UInt64.ofNat (← reader.number 8 offset)

end FieldReader

end ElfScope
