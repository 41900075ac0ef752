import ElfScope.Symbol.Label

/-!
# Configuration

What a configuration file can set, and how a file is read.
-/

namespace ElfScope

/-- How the contents of a file are obtained: the file is `mapped` into memory, or read into a buffer
(`buffered`). -/
inductive ReadMode where
  | mapped
  | buffered
  deriving DecidableEq, Repr

/-- The contents of a configuration file: the label style and the way the input is read, each if it
is set. -/
structure Configuration where
  labels : Option LabelMode
  readMode : Option ReadMode
  deriving DecidableEq, Repr

namespace Configuration

/-- A setting as the log shows it. -/
def describeSetting (setting : Option String) : String :=
  match setting with
  | none => "None"
  | some value => "Some(" ++ value ++ ")"

/-- A label style as the log shows it. -/
def describeLabels : LabelMode → String
  | .compat => "Compat"
  | .full => "Full"

/-- A reading mode as the log shows it. -/
def describeReadMode : ReadMode → String
  | .mapped => "Mmap"
  | .buffered => "Buffered"

/-- The configuration as the log shows it. -/
def describe (configuration : Configuration) : String :=
  "FileConfig \x7b report: ReportSection \x7b labels: "
    ++ describeSetting (configuration.labels.map describeLabels)
    ++ " \x7d, reader: ReaderSection \x7b mode: "
    ++ describeSetting (configuration.readMode.map describeReadMode)
    ++ " \x7d \x7d"

end Configuration

end ElfScope
