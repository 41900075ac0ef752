import ElfScope.Report.Basic
import ElfScope.Report.Header
import ElfScope.Sink

/-!
# Writing reports

The reports are written into a sink piece by piece, down to the single characters that fill a
column. The first piece that the sink does not accept whole ends the writing.
-/

namespace ElfScope.Report

/-- Something that writes into a sink, and stops where the sink is full. -/
abbrev Writing := ExceptT SinkError (StateM Sink) Unit

/-- Writes a text. -/
def put (text : String) : Writing :=
  fun sink => sink.writeAll (Utf8.encode text)

/-- Writes a text and the newline that ends its line. -/
def putLine (line : String) : Writing := do
  put line
  put "\n"

/-! ## Columns -/

/-- Writes a character several times. -/
def putFill (fill : Char) : Nat → Writing
  | 0 => return ()
  | count + 1 => do
    put (String.ofList [fill])
    putFill fill count

/-- Writes a column that ends in a text. -/
def putLeft (fill : Char) (width : Nat) (text : String) : Writing := do
  putFill fill (width - text.length)
  put text

/-- Writes a column that starts with a text. -/
def putRight (width : Nat) (text : String) : Writing := do
  put text
  putFill ' ' (width - text.length)

/-- Writes hexadecimal digits behind `0x`. -/
def putLiteral (number : Nat) : Writing := do
  put "0x"
  put (Text.hex number)

/-! ## The header report -/

/-- Writes a labelled line. -/
def putField (label : String) (value : Writing) : Writing := do
  put "  "
  putRight 35 (label ++ ":")
  value
  put "\n"

/-- Writes a size in bytes. -/
def putByteCount (number : UInt16) : Writing := do
  put (Text.decimal number.toNat)
  put " (bytes)"

/-- Writes a position in the file. -/
def putPosition (number : UInt64) : Writing := do
  putLiteral number.toNat
  put " (bytes into file)"

/-- Writes the line that shows the identification bytes. -/
def putMagic (ident : Identification) : Writing := do
  put "  Magic:  "
  forM ident.bytes.toList fun byte => do
    put " "
    putLeft '0' 2 (Text.hex byte.toNat)
  put "\n"

/-- Writes the header report. -/
def putHeader (header : FileHeader) : Writing := do
  putLine "ELF Header:"
  putMagic header.ident
  putField "Class" (put (className header.ident.fileClass))
  putField "Data" (put (encodingName header.ident.encoding))
  putField "Version" (put (versionName header.ident.version))
  putField "OS/ABI" (put (osabiName header.ident.osabi))
  putField "ABI Version" (put (Text.decimal header.ident.abiVersion.toNat))
  putField "Type" (put (objectTypeName header.objectType))
  putField "Machine" (putLiteral header.machine.toNat)
  putField "Version" (putLiteral header.version.toNat)
  putField "Entry point address" (putLiteral header.entry.toNat)
  putField "Start of program headers" (putPosition header.programOffset)
  putField "Start of section headers" (putPosition header.sectionOffset)
  putField "Flags" (putLiteral header.flags.toNat)
  putField "Size of this header" (putByteCount header.headerSize)
  putField "Size of program headers" (putByteCount header.programEntrySize)
  putField "Number of program headers" (put (Text.decimal header.programCount.toNat))
  putField "Size of section headers" (putByteCount header.sectionEntrySize)
  putField "Number of section headers" (put (Text.decimal header.sectionCount.toNat))
  putField "Section header string table index" (put (Text.decimal header.nameSection.toNat))

/-! ## The section report -/

/-- Writes the row of the section at `index`. -/
def putSectionRow (index : Nat) (entry : SectionHeader) : Writing := do
  put "  ["
  putLeft ' ' 2 (Text.decimal index)
  put "] "
  putRight 18 (entry.name.getD missingName)
  put " "
  putRight 12 (SectionKind.label entry.kind)
  put " "
  putLeft '0' 16 (Text.hex entry.address.toNat)
  put " "
  putLeft '0' 8 (Text.hex entry.offset.toNat)
  put " "
  putLeft '0' 8 (Text.hex entry.size.toNat)
  put " "
  putLeft '0' 8 (Text.hex entry.entrySize.toNat)
  put " "
  putLeft ' ' 3 entry.flagSet.letters
  put " "
  putLeft ' ' 3 (Text.decimal entry.link.toNat)
  put " "
  putLeft ' ' 3 (Text.decimal entry.info.toNat)
  put " "
  put (Text.decimal entry.alignment.toNat)
  put "\n"

/-- Writes the section report. -/
def putSections (sections : List SectionHeader) : Writing := do
  putLine "Section Headers:"
  putLine sectionColumns
  forM sections.zipIdx fun (entry, index) => putSectionRow index entry

/-! ## The symbol report -/

/-- Writes the row of a symbol. -/
def putSymbolRow (symbol : Symbol) : Writing := do
  putLeft ' ' 6 (Text.decimal symbol.index)
  put ": "
  putLeft '0' 16 (Text.hex symbol.value.toNat)
  put " "
  putLeft ' ' 5 (Text.hex symbol.size.toNat)
  put " "
  putRight 7 symbol.typeLabel
  put " "
  putRight 6 symbol.bindingLabel
  put " "
  putRight 8 symbol.visibilityLabel
  put " "
  putLeft ' ' 3 (Text.decimal symbol.sectionIndex.toNat)
  put " "
  put symbol.name
  put "\n"

/-- Writes the symbol report. -/
def putSymbols (symbols : List Symbol) : Writing := do
  putLine "Symbol table:"
  putLine symbolColumns
  forM symbols putSymbolRow

end ElfScope.Report
