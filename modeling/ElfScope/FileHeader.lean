import ElfScope.ByteOrder

/-!
# The file header

The first 64 bytes of a file: 16 bytes of identification, then fifteen numbers in the byte order
that the identification declares. `FileHeader.decode` refuses a file by its first defect, in this
order: a wrong magic number as far as four bytes show it, fewer than 64 bytes, a class other than
64-bit, an unknown byte order. `FileHeader.encode` writes the 64 bytes back.
-/

namespace ElfScope

/-- The four bytes every file starts with. -/
def magic : Vector UInt8 4 := #v[0x7f, 0x45, 0x4c, 0x46]

/-- The sixteen identification bytes at the start of a file. -/
structure Identification where
  bytes : Vector UInt8 16
  deriving DecidableEq

namespace Identification

/-- The first four bytes. -/
def magic (ident : Identification) : Vector UInt8 4 :=
  #v[ident.bytes[0], ident.bytes[1], ident.bytes[2], ident.bytes[3]]

/-- The width of addresses: 1 for 32 bits, 2 for 64. -/
def fileClass (ident : Identification) : UInt8 := ident.bytes[4]

/-- The byte order: 1 for little endian, 2 for big endian. -/
def encoding (ident : Identification) : UInt8 := ident.bytes[5]

/-- The version of the format. -/
def version (ident : Identification) : UInt8 := ident.bytes[6]

/-- The operating system and conventions the file is for. -/
def osabi (ident : Identification) : UInt8 := ident.bytes[7]

/-- The version of those conventions. -/
def abiVersion (ident : Identification) : UInt8 := ident.bytes[8]

end Identification

/-- The header of a 64-bit file. All numbers of the file are in the same `order`. `entry` is the
address at which execution starts, and `flags` are those of the machine. `programOffset` and
`sectionOffset` say where the tables of program headers and of section headers start; `programCount`
and `sectionCount` are the numbers of their entries, and `programEntrySize` and `sectionEntrySize`
the sizes of these. `headerSize` is the size of this header, and `nameSection` the index of the
section that holds the section names. -/
structure FileHeader where
  ident : Identification
  order : ByteOrder
  objectType : UInt16
  machine : UInt16
  version : UInt32
  entry : UInt64
  programOffset : UInt64
  sectionOffset : UInt64
  flags : UInt32
  headerSize : UInt16
  programEntrySize : UInt16
  programCount : UInt16
  sectionEntrySize : UInt16
  sectionCount : UInt16
  nameSection : UInt16
  deriving DecidableEq

/-- Why a file has no readable header. There are only `length` bytes (`truncated`), the file starts
with other bytes than the magic number (`badMagic`), its class is not the 64-bit one
(`unsupportedClass`), its byte order is neither little nor big endian (`unsupportedEncoding`), or a
field lies outside the header (`range`). -/
inductive HeaderError where
  | truncated (length : Nat)
  | badMagic (found : Vector UInt8 4)
  | unsupportedClass (found : UInt8)
  | unsupportedEncoding (found : UInt8)
  | range (error : RangeError)
  deriving DecidableEq

/-- The size of the header. -/
def FileHeader.size : Nat := 64

/-- What is said about an unreadable header. -/
def HeaderError.message : HeaderError → String
  | .truncated length =>
    "truncated header: " ++ Text.decimal length ++ " bytes, need " ++ Text.decimal FileHeader.size
  | .badMagic found =>
    "bad magic at offset 0x0: " ++ " ".intercalate (found.toList.map Text.hexByte)
  | .unsupportedClass found =>
    "unsupported class " ++ Text.decimal found.toNat ++ " at offset 0x4 (expected ELFCLASS64)"
  | .unsupportedEncoding found =>
    "unsupported data encoding " ++ Text.decimal found.toNat ++ " at offset 0x5"
  | .range error => "header: " ++ error.message

namespace ByteOrder

/-- The byte order that an encoding byte declares. -/
def ofEncoding? (encoding : UInt8) : Option ByteOrder :=
  if encoding = 1 then some .little
  else if encoding = 2 then some .big
  else none

end ByteOrder

namespace FileHeader

/-- The numbers of a header behind its identification. -/
def decodeFields (ident : Identification) (order : ByteOrder) (block : Bytes) :
    Except RangeError FileHeader := do
  let reader : FieldReader := ⟨block, order⟩
  return {
    ident
    order
    objectType := ← reader.u16 16
    machine := ← reader.u16 18
    version := ← reader.u32 20
    entry := ← reader.u64 24
    programOffset := ← reader.u64 32
    sectionOffset := ← reader.u64 40
    flags := ← reader.u32 48
    headerSize := ← reader.u16 52
    programEntrySize := ← reader.u16 54
    programCount := ← reader.u16 56
    sectionEntrySize := ← reader.u16 58
    sectionCount := ← reader.u16 60
    nameSection := ← reader.u16 62 }

/-- The defect of a file with fewer bytes than a header has: a wrong magic number is reported
ahead of the length where the file is long enough to show one. -/
def shortfall (data : Bytes) : HeaderError :=
  match data.first? 4 with
  | some found => if found = magic then .truncated data.size else .badMagic found
  | none => .truncated data.size

/-- The header at the start of a file. -/
def decode (data : Bytes) : Except HeaderError FileHeader :=
  match data.first? FileHeader.size with
  | none => .error (shortfall data)
  | some block =>
    let ident : Identification := ⟨block.extract 0 16⟩
    if ident.magic ≠ magic then .error (.badMagic ident.magic)
    else if ident.fileClass ≠ 2 then .error (.unsupportedClass ident.fileClass)
    else
      match ByteOrder.ofEncoding? ident.encoding with
      | none => .error (.unsupportedEncoding ident.encoding)
      | some order => (decodeFields ident order block.toArray).mapError .range

/-- The bytes of a header. -/
def encode (header : FileHeader) : Bytes :=
  let number := header.order.encode
  header.ident.bytes.toArray
    ++ number 2 header.objectType.toNat
    ++ number 2 header.machine.toNat
    ++ number 4 header.version.toNat
    ++ number 8 header.entry.toNat
    ++ number 8 header.programOffset.toNat
    ++ number 8 header.sectionOffset.toNat
    ++ number 4 header.flags.toNat
    ++ number 2 header.headerSize.toNat
    ++ number 2 header.programEntrySize.toNat
    ++ number 2 header.programCount.toNat
    ++ number 2 header.sectionEntrySize.toNat
    ++ number 2 header.sectionCount.toNat
    ++ number 2 header.nameSection.toNat

end FileHeader

end ElfScope
