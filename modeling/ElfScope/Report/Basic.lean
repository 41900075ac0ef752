import ElfScope.Report.Header
import ElfScope.Section.Basic
import ElfScope.Symbol.Basic

/-!
# Reports

A report is a list of lines, and every line ends in a newline. The sections and the symbols have a
row each, behind a title and a line of column heads; a value that is wider than its column pushes
the rest of its row to the right. The full report shows the header and, where they are given, the
sections and the symbols, each behind an empty line.
-/

namespace ElfScope.Report

/-! ## Sections -/

/-- What stands in the place of a name that could not be found. -/
def missingName : String := "<corrupt>"

/-- The row of the section at `index`. -/
def sectionRow (index : Nat) (entry : SectionHeader) : String :=
  "  [" ++ Text.padLeft ' ' 2 (Text.decimal index) ++ "] "
    ++ Text.padRight 18 (entry.name.getD missingName) ++ " "
    ++ Text.padRight 12 (SectionKind.label entry.kind) ++ " "
    ++ Text.hexColumn 16 entry.address.toNat ++ " "
    ++ Text.hexColumn 8 entry.offset.toNat ++ " "
    ++ Text.hexColumn 8 entry.size.toNat ++ " "
    ++ Text.hexColumn 8 entry.entrySize.toNat ++ " "
    ++ Text.padLeft ' ' 3 entry.flagSet.letters ++ " "
    ++ Text.padLeft ' ' 3 (Text.decimal entry.link.toNat) ++ " "
    ++ Text.padLeft ' ' 3 (Text.decimal entry.info.toNat) ++ " "
    ++ Text.decimal entry.alignment.toNat

/-- The rows of the sections, the first of them at `index`. -/
def sectionRows : Nat → List SectionHeader → List String
  | _, [] => []
  | index, entry :: rest => sectionRow index entry :: sectionRows (index + 1) rest

/-- The column heads of the section report. -/
def sectionColumns : String :=
  "  [Nr] Name               Type         Address          Offset   Size     EntSize  Flg Lk  Inf Al"

/-- The lines of the section report. -/
def sectionLines (sections : List SectionHeader) : List String :=
  "Section Headers:" :: sectionColumns :: sectionRows 0 sections

/-! ## Symbols -/

/-- The row of a symbol. -/
def symbolRow (symbol : Symbol) : String :=
  Text.padLeft ' ' 6 (Text.decimal symbol.index) ++ ": "
    ++ Text.hexColumn 16 symbol.value.toNat ++ " "
    ++ Text.padLeft ' ' 5 (Text.hex symbol.size.toNat) ++ " "
    ++ Text.padRight 7 symbol.typeLabel ++ " "
    ++ Text.padRight 6 symbol.bindingLabel ++ " "
    ++ Text.padRight 8 symbol.visibilityLabel ++ " "
    ++ Text.padLeft ' ' 3 (Text.decimal symbol.sectionIndex.toNat) ++ " "
    ++ symbol.name

/-- The column heads of the symbol report. -/
def symbolColumns : String :=
  "   Num:    Value          Size Type    Bind   Vis      Ndx Name"

/-- The lines of the symbol report. -/
def symbolLines (symbols : List Symbol) : List String :=
  "Symbol table:" :: symbolColumns :: symbols.map symbolRow

/-! ## The full report -/

/-- A line with the newline that ends it. -/
def endLine (line : String) : String :=
  line ++ "\n"

/-- The text of some lines. -/
def text (lines : List String) : String :=
  String.join (lines.map endLine)

/-- The lines of a part behind an empty line, if there is such a part. -/
def part {α : Type} (lines : α → List String) : Option α → List String
  | none => []
  | some content => "" :: lines content

/-- The lines of the full report. -/
def lines (header : FileHeader) (sections : Option (List SectionHeader))
    (symbols : Option (List Symbol)) : List String :=
  headerLines header ++ part sectionLines sections ++ part symbolLines symbols

/-- The full report. -/
def full (header : FileHeader) (sections : Option (List SectionHeader))
    (symbols : Option (List Symbol)) : String :=
  text (lines header sections symbols)

end ElfScope.Report
