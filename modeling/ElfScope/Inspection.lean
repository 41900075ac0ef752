import ElfScope.Section.Table
import ElfScope.Symbol.Table

/-!
# Inspection

`inspect` reads the header, the section headers and the symbols of a file. It fails where the
header or the section header table cannot be read; the symbols are kept as an outcome of their
own, so trouble with them loses nothing else.
-/

namespace ElfScope

/-- Why a file cannot be inspected: its header, its section header table or its symbol table cannot
be read. -/
inductive InspectError where
  | header (error : HeaderError)
  | sections (error : SectionError)
  | symbols (error : SymbolError)
  deriving DecidableEq

namespace InspectError

/-- What the failing part says. -/
def cause : InspectError → String
  | .header error => error.message
  | .sections error => error.message
  | .symbols error => error.message

/-- What is said about a file that cannot be inspected. -/
def message : InspectError → String
  | .header error => "header error: " ++ error.message
  | .sections error => "section error: " ++ error.message
  | .symbols error => "symbol error: " ++ error.message

end InspectError

/-- What is known about a file: its header, its section headers in the order of the table, and its
symbols, or why there are none. -/
structure Inspection where
  header : FileHeader
  sections : List SectionHeader
  symbols : Except SymbolError (List Symbol)

/-- Reports that there are no symbols, if so. -/
def reportSymbols : Except SymbolError (List Symbol) → Traced Event Unit
  | .ok _ => return ()
  | .error error => Traced.emit (.extractionFailed error)

/-- Inspects a file and reports on the way. -/
def inspect (data : Bytes) (mode : LabelMode) :
    Traced Event (Except InspectError Inspection) :=
  match FileHeader.decode data with
  | .error error => return .error (.header error)
  | .ok header => do
    Traced.emit (.parsedHeader header)
    match ← SectionTable.read data header with
    | .error error => return .error (.sections error)
    | .ok sections => do
      let symbols ← SymbolTable.read data header.order sections mode
      reportSymbols symbols
      return .ok { header, sections, symbols }

end ElfScope
