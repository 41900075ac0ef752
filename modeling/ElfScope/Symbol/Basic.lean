import ElfScope.ByteOrder
import ElfScope.StringTable
import ElfScope.Symbol.Label

/-!
# Symbols

One entry of the symbol table: six numbers in 24 bytes, the name they point to, and the labels of
its type, binding and visibility. `Symbol.decode` reads an entry; `Symbol.encode` writes the
numbers back.
-/

namespace ElfScope

/-- An entry of the symbol table.

`index` is its position in the table. Its name starts at `nameOffset` of the string table. `info`
has the type in the low half and the binding in the high half, and `other` has the visibility in the
low two bits. `sectionIndex` is the index of the section it is defined in, `value` is an address
where it is defined, and `size` is the size of what it names. Its type, its binding and its
visibility have a label each. -/
structure Symbol where
  index : Nat
  name : String
  nameOffset : UInt32
  info : UInt8
  other : UInt8
  sectionIndex : UInt16
  value : UInt64
  size : UInt64
  typeLabel : String
  bindingLabel : String
  visibilityLabel : String
  deriving DecidableEq, Repr

/-- Why a file has no readable symbol table. No section holds symbols (`noSymbolTable`), or the
symbol table names no section as its string table (`badStringTableLink`), does not divide into
entries (`misalignedTable`), or leaves the file, as its string table may do (`range`). A name starts
outside the string table (`nameOutOfRange`), or does not end in it (`unterminatedName`). -/
inductive SymbolError where
  | noSymbolTable
  | badStringTableLink (table : Nat) (link : UInt32) (count : Nat)
  | misalignedTable (table : Nat) (size : UInt64)
  | nameOutOfRange (index : Nat) (offset : UInt32)
  | unterminatedName (index : Nat) (offset : UInt32)
  | range (error : RangeError)
  deriving DecidableEq, Repr

namespace Symbol

/-- The size of an entry. -/
def recordSize : Nat := 24

/-- The type, the low half of the info byte. -/
def type (symbol : Symbol) : UInt8 := symbol.info &&& 0xf

/-- The binding, the high half of the info byte. -/
def binding (symbol : Symbol) : UInt8 := symbol.info >>> 4

/-- The visibility, the low two bits of the other byte. -/
def visibility (symbol : Symbol) : UInt8 := symbol.other &&& 0x3

/-- The error of the entry at `index` whose name at `offset` cannot be read. -/
def nameError (index : Nat) (offset : UInt32) : StringError → SymbolError
  | .outOfRange => .nameOutOfRange index offset
  | .unterminated => .unterminatedName index offset

/-- The entry at `index`, with its name from `names`. -/
def decode (order : ByteOrder) (names : StringTable) (mode : LabelMode) (index : Nat)
    (entry : Bytes) : Except SymbolError Symbol := do
  let reader : FieldReader := ⟨entry, order⟩
  let nameOffset ← (reader.u32 0).mapError .range
  let info ← (reader.u8 4).mapError .range
  let other ← (reader.u8 5).mapError .range
  let name ← (names.text nameOffset).mapError (nameError index nameOffset)
  return {
    index
    name
    nameOffset
    info
    other
    sectionIndex := ← (reader.u16 6).mapError .range
    value := ← (reader.u64 8).mapError .range
    size := ← (reader.u64 16).mapError .range
    typeLabel := Label.ofType mode (info &&& 0xf)
    bindingLabel := Label.ofBinding mode (info >>> 4)
    visibilityLabel := Label.ofVisibility mode (other &&& 0x3) }

/-- The 24 bytes of an entry. -/
def encode (order : ByteOrder) (symbol : Symbol) : Bytes :=
  order.encode 4 symbol.nameOffset.toNat
    ++ order.encode 1 symbol.info.toNat
    ++ order.encode 1 symbol.other.toNat
    ++ order.encode 2 symbol.sectionIndex.toNat
    ++ order.encode 8 symbol.value.toNat
    ++ order.encode 8 symbol.size.toNat

end Symbol

namespace SymbolError

/-- Whether the error is more than the absence of symbols. -/
def isFatal : SymbolError → Bool
  | .noSymbolTable => false
  | _ => true

/-- What is said about an unreadable symbol table. -/
def message : SymbolError → String
  | .noSymbolTable => "no symbol table"
  | .badStringTableLink table link count =>
    "bad string table link " ++ Text.decimal link.toNat ++ " in section " ++ Text.decimal table
      ++ " (" ++ Text.decimal count ++ " sections)"
  | .misalignedTable table size =>
    "misaligned symbol table in section " ++ Text.decimal table ++ ": size "
      ++ Text.hexLiteral size.toNat ++ " is not a multiple of " ++ Text.decimal Symbol.recordSize
  | .nameOutOfRange index offset =>
    "symbol " ++ Text.decimal index ++ ": name offset " ++ Text.hexLiteral offset.toNat
      ++ " outside string table"
  | .unterminatedName index offset =>
    "symbol " ++ Text.decimal index ++ ": unterminated name at string table offset "
      ++ Text.hexLiteral offset.toNat
  | .range error => "symbol table: " ++ error.message

end SymbolError

end ElfScope
