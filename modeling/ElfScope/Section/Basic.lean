import ElfScope.FileHeader
import ElfScope.Section.Label

/-!
# Section headers

One entry of the section header table: ten numbers at fixed offsets of its first 64 bytes, and
the name that a string table gives to it. `SectionHeader.decode` reads the numbers and
`SectionHeader.encode` writes them back.
-/

namespace ElfScope

/-- The header of a section.

Its name starts at `nameOffset` of the table of section names; `name` is the name, if it could be
found there. `kind` says what the section holds, and `flags` is its flag word. It has an `address`
in memory, and its contents are `size` bytes from `offset` on in the file. `link` is the index of a
section that belongs to it, and `info` holds what else the kind asks for. `alignment` is what it
needs, and `entrySize` is the size of one entry where its contents are entries. -/
structure SectionHeader where
  nameOffset : UInt32
  name : Option String
  kind : UInt32
  flags : UInt64
  address : UInt64
  offset : UInt64
  size : UInt64
  link : UInt32
  info : UInt32
  alignment : UInt64
  entrySize : UInt64
  deriving DecidableEq, Repr

/-- Why a file has no readable section header table: the table leaves the file (`truncatedTable`),
an entry is smaller than a section header (`badEntrySize`), or a field lies outside its entry
(`range`). -/
inductive SectionError where
  | truncatedTable (offset : UInt64) (count entrySize : UInt16) (fileSize : Nat)
  | badEntrySize (found : UInt16)
  | range (error : RangeError)
  deriving DecidableEq, Repr

namespace SectionHeader

/-- The size of a section header. -/
def recordSize : Nat := 64

/-- The numbers of an entry. -/
def decode (order : ByteOrder) (entry : Bytes) : Except RangeError SectionHeader := do
  let reader : FieldReader := ⟨entry, order⟩
  return {
    nameOffset := ← reader.u32 0
    name := none
    kind := ← reader.u32 4
    flags := ← reader.u64 8
    address := ← reader.u64 16
    offset := ← reader.u64 24
    size := ← reader.u64 32
    link := ← reader.u32 40
    info := ← reader.u32 44
    alignment := ← reader.u64 48
    entrySize := ← reader.u64 56 }

/-- The first 64 bytes of an entry. -/
def encode (order : ByteOrder) (header : SectionHeader) : Bytes :=
  order.encode 4 header.nameOffset.toNat
    ++ order.encode 4 header.kind.toNat
    ++ order.encode 8 header.flags.toNat
    ++ order.encode 8 header.address.toNat
    ++ order.encode 8 header.offset.toNat
    ++ order.encode 8 header.size.toNat
    ++ order.encode 4 header.link.toNat
    ++ order.encode 4 header.info.toNat
    ++ order.encode 8 header.alignment.toNat
    ++ order.encode 8 header.entrySize.toNat

/-- The flags among the bits of the flag word. -/
def flagSet (header : SectionHeader) : FlagSet :=
  FlagSet.truncate ⟨header.flags⟩

/-- The contents of the section. -/
def contents (header : SectionHeader) (data : Bytes) : Except RangeError Bytes :=
  data.slice header.offset header.size

end SectionHeader

/-- What is said about an unreadable section header table. -/
def SectionError.message : SectionError → String
  | .truncatedTable offset count entrySize fileSize =>
    "truncated section table: " ++ Text.decimal count.toNat ++ " entries of "
      ++ Text.decimal entrySize.toNat ++ " bytes at offset " ++ Text.hexLiteral offset.toNat
      ++ " exceed file size " ++ Text.hexLiteral fileSize
  | .badEntrySize found =>
    "section header entry size " ++ Text.decimal found.toNat ++ " is smaller than "
      ++ Text.decimal SectionHeader.recordSize
  | .range error => "section table: " ++ error.message

end ElfScope
