import ElfScope.FileHeader

/-!
# The header report

Twenty lines that show all bytes of a header: the identification in hexadecimal, then a labelled
line per number, the labels in a column of 35 characters.
-/

namespace ElfScope.Report

/-- A number that has no name. -/
def unknown (number : Nat) : String :=
  "<unknown: " ++ Text.hexLiteral number ++ ">"

/-- The name of a class. -/
def className : UInt8 → String
  | 1 => "ELF32"
  | 2 => "ELF64"
  | other => unknown other.toNat

/-- The name of a byte order. -/
def encodingName : UInt8 → String
  | 1 => "2's complement, little endian"
  | 2 => "2's complement, big endian"
  | other => unknown other.toNat

/-- The name of the format's version. -/
def versionName (version : UInt8) : String :=
  if version = 1 then "1 (current)" else Text.decimal version.toNat

/-- The name of an operating system. -/
def osabiName : UInt8 → String
  | 0 => "UNIX - System V"
  | 1 => "UNIX - HP-UX"
  | 2 => "UNIX - NetBSD"
  | 3 => "UNIX - GNU"
  | 6 => "UNIX - Solaris"
  | 7 => "UNIX - AIX"
  | 8 => "UNIX - IRIX"
  | 9 => "UNIX - FreeBSD"
  | 10 => "UNIX - TRU64"
  | 12 => "UNIX - OpenBSD"
  | 97 => "ARM"
  | 255 => "Standalone App"
  | other => unknown other.toNat

/-- The name of an object type. -/
def objectTypeName : UInt16 → String
  | 0 => "NONE (None)"
  | 1 => "REL (Relocatable file)"
  | 2 => "EXEC (Executable file)"
  | 3 => "DYN (Shared object file)"
  | 4 => "CORE (Core file)"
  | other => unknown other.toNat

/-- A labelled line. -/
def fieldLine (label value : String) : String :=
  "  " ++ Text.padRight 35 (label ++ ":") ++ value

/-- A size in bytes. -/
def byteCount (number : UInt16) : String :=
  Text.decimal number.toNat ++ " (bytes)"

/-- A position in the file. -/
def filePosition (number : UInt64) : String :=
  Text.hexLiteral number.toNat ++ " (bytes into file)"

/-- The line that shows the identification bytes. -/
def magicLine (ident : Identification) : String :=
  "  Magic:  " ++ String.join (ident.bytes.toList.map fun byte => " " ++ Text.hexByte byte)

/-- The lines of the header report. -/
def headerLines (header : FileHeader) : List String := [
  "ELF Header:",
  magicLine header.ident,
  fieldLine "Class" (className header.ident.fileClass),
  fieldLine "Data" (encodingName header.ident.encoding),
  fieldLine "Version" (versionName header.ident.version),
  fieldLine "OS/ABI" (osabiName header.ident.osabi),
  fieldLine "ABI Version" (Text.decimal header.ident.abiVersion.toNat),
  fieldLine "Type" (objectTypeName header.objectType),
  fieldLine "Machine" (Text.hexLiteral header.machine.toNat),
  fieldLine "Version" (Text.hexLiteral header.version.toNat),
  fieldLine "Entry point address" (Text.hexLiteral header.entry.toNat),
  fieldLine "Start of program headers" (filePosition header.programOffset),
  fieldLine "Start of section headers" (filePosition header.sectionOffset),
  fieldLine "Flags" (Text.hexLiteral header.flags.toNat),
  fieldLine "Size of this header" (byteCount header.headerSize),
  fieldLine "Size of program headers" (byteCount header.programEntrySize),
  fieldLine "Number of program headers" (Text.decimal header.programCount.toNat),
  fieldLine "Size of section headers" (byteCount header.sectionEntrySize),
  fieldLine "Number of section headers" (Text.decimal header.sectionCount.toNat),
  fieldLine "Section header string table index" (Text.decimal header.nameSection.toNat)]

end ElfScope.Report
