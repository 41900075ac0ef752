import ElfScope.Configuration
import ElfScope.FileHeader
import ElfScope.Symbol.Basic
import ElfScope.Text.Quoted

/-!
# Log events

What is reported about a run: each event has a level, a target that filters select it by, a
message, and named fields. `Event.line` is the line that shows an event.
-/

namespace ElfScope

/-- How important an event is. -/
inductive Level where
  | error
  | warn
  | info
  | debug
  | trace
  deriving DecidableEq, Repr

namespace Level

/-- The position of a level, the most important one first. -/
def rank : Level → Nat
  | .error => 1
  | .warn => 2
  | .info => 3
  | .debug => 4
  | .trace => 5

/-- The name of a level. -/
def name : Level → String
  | .error => "ERROR"
  | .warn => "WARN"
  | .info => "INFO"
  | .debug => "DEBUG"
  | .trace => "TRACE"

end Level

/-- Something worth reporting. A file of `length` bytes was mapped (`mappedFile`) or read
(`readFile`), and its header was accepted (`parsedHeader`). The header declares no sections
(`noSectionHeaders`), or their table lies inside the file (`parsingSections`). It names no section
as the table of section names (`noNameTable`), or one that leaves the file (`nameTableOutOfBounds`).
A section header was read (`sectionHeader`). The symbol table and its string table lie inside the
file (`extractingSymbols`), and a symbol was read (`symbol`); or there are no symbols to show
(`extractionFailed`). A configuration file was accepted (`loadedConfiguration`). A file was
inspected (`inspectionComplete`), or it holds no symbol table though one was asked for
(`noSymbolTable`). -/
inductive Event where
  | mappedFile (path : String) (length : Nat)
  | readFile (path : String) (length : Nat)
  | parsedHeader (header : FileHeader)
  | noSectionHeaders
  | parsingSections (offset : UInt64) (count entrySize : UInt16)
  | noNameTable (index : UInt16)
  | nameTableOutOfBounds (index : UInt16)
  | sectionHeader (index : Nat) (kind : UInt32) (name : Option String)
  | extractingSymbols (table : Nat) (strings : UInt32) (count : Nat)
  | symbol (index : Nat) (name : String) (value : UInt64)
  | extractionFailed (error : SymbolError)
  | loadedConfiguration (path : String) (configuration : Configuration)
  | inspectionComplete (sections symbols : Nat)
  | noSymbolTable (file : String)
  deriving DecidableEq

namespace Event

/-- The level of an event. -/
def level : Event → Level
  | .sectionHeader .. | .symbol .. => .trace
  | .noSymbolTable .. => .info
  | _ => .debug

/-- The part of the program that an event comes from, which filters name. -/
def target : Event → String
  | .mappedFile .. | .readFile .. => "elfview_elf::image::file"
  | .parsedHeader .. => "elfview_elf::header"
  | .noSectionHeaders | .parsingSections .. | .noNameTable .. | .nameTableOutOfBounds ..
  | .sectionHeader .. => "elfview_elf::section"
  | .extractingSymbols .. | .symbol .. => "elfview_elf::symbol"
  | .extractionFailed .. => "elfview_elf"
  | .loadedConfiguration .. => "elfview::config"
  | .inspectionComplete .. | .noSymbolTable .. => "elfview::run"

/-- What an event says. -/
def message : Event → String
  | .mappedFile .. => "mapped input file"
  | .readFile .. => "read input file"
  | .parsedHeader .. => "parsed ELF header"
  | .noSectionHeaders => "no section headers"
  | .parsingSections .. => "parsing section headers"
  | .noNameTable .. => "no usable section name table"
  | .nameTableOutOfBounds .. => "section name table out of bounds"
  | .sectionHeader .. => "section header"
  | .extractingSymbols .. => "extracting symbols"
  | .symbol .. => "symbol"
  | .extractionFailed .. => "symbol extraction failed"
  | .loadedConfiguration .. => "loaded configuration"
  | .inspectionComplete .. => "inspection complete"
  | .noSymbolTable .. => "no symbol table"

/-- A truth value as a field shows it. -/
def flagText (flag : Bool) : String :=
  if flag then "true" else "false"

/-- A name that may be missing, as a field shows it. -/
def nameText : Option String → String
  | none => "None"
  | some name => "Some(" ++ Text.quoted name ++ ")"

/-- The fields of an event: their names and what they show. -/
def fields : Event → List (String × String)
  | .mappedFile path length | .readFile path length =>
    [("path", path), ("len", Text.decimal length)]
  | .parsedHeader header =>
    [("e_type", Text.decimal header.objectType.toNat),
      ("e_machine", Text.decimal header.machine.toNat),
      ("e_shoff", Text.decimal header.sectionOffset.toNat),
      ("e_shnum", Text.decimal header.sectionCount.toNat),
      ("big_endian", flagText (header.order == .big))]
  | .noSectionHeaders => []
  | .parsingSections offset count entrySize =>
    [("offset", Text.decimal offset.toNat), ("count", Text.decimal count.toNat),
      ("entry_size", Text.decimal entrySize.toNat)]
  | .noNameTable index | .nameTableOutOfBounds index =>
    [("e_shstrndx", Text.decimal index.toNat)]
  | .sectionHeader index kind name =>
    [("index", Text.decimal index), ("sh_type", Text.decimal kind.toNat),
      ("name", nameText name)]
  | .extractingSymbols table strings count =>
    [("section", Text.decimal table), ("strtab", Text.decimal strings.toNat),
      ("count", Text.decimal count)]
  | .symbol index name value =>
    [("index", Text.decimal index), ("name", name), ("value", Text.decimal value.toNat)]
  | .extractionFailed error =>
    [("error", error.message), ("fatal", flagText error.isFatal)]
  | .loadedConfiguration path configuration =>
    [("path", path), ("config", configuration.describe)]
  | .inspectionComplete sections symbols =>
    [("sections", Text.decimal sections), ("symbols", Text.decimal symbols)]
  | .noSymbolTable file => [("file", file)]

/-- The line that shows an event: its level in a column of five, its message, and its fields. -/
def line (event : Event) : String :=
  Text.padLeft ' ' 5 event.level.name ++ " " ++ event.message
    ++ String.join (event.fields.map fun (name, value) => " " ++ name ++ "=" ++ value) ++ "\n"

end Event

end ElfScope
