import ElfScope.CommandLine.Tool
import ElfScope.Configuration
import ElfScope.Files
import ElfScope.Log.Event
import ElfScope.Toml.Document
import ElfScope.Traced

/-!
# Settings

The settings of a run come from its arguments, else from the configuration file, else from the
defaults, each on its own. The configuration file is the one the arguments name, else the one the
environment names, and it has to be sound even where the arguments override all of it.
-/

namespace ElfScope

namespace Configuration

/-- The empty configuration. -/
def empty : Configuration := ⟨none, none⟩

/-- The reading mode of a name. -/
def readModeOfName? : String → Option ReadMode
  | "mmap" => some .mapped
  | "buffered" => some .buffered
  | _ => none

/-- A setting that may be missing, given by the word that chooses it. -/
def chosen? {α : Type} (ofName? : String → Option α) : Option Toml.Value → Option (Option α)
  | none => some none
  | some value => do return some (← ofName? (← value.choice?))

/-- The only setting of a section, which may be missing with the section. -/
def sectionSetting? {α : Type} (name : String) (ofName? : String → Option α) :
    Option Toml.Value → Option (Option α)
  | none => some none
  | some value => do
    let fields ← value.fields?
    if fields.allNamed [name] then chosen? ofName? (fields.get? name 0) else none

/-- The configuration in the table of a document. It holds no other keys than the known ones. -/
def ofEntries? (entries : Toml.Entries) : Option Configuration := do
  let fields := Toml.Fields.named entries
  if !fields.allNamed ["report", "reader"] then failure
  let labels ← sectionSetting? "labels" LabelMode.ofName? (fields.get? "report" 0)
  let readMode ← sectionSetting? "mode" readModeOfName? (fields.get? "reader" 1)
  return ⟨labels, readMode⟩

/-- The configuration in the text of a file. -/
def parse? (text : String) : Option Configuration := do
  ofEntries? (← Toml.parse text)

end Configuration

/-- Why a configuration file cannot be used: it is `unreadable`, or its text is `malformed` or holds
something unknown. -/
inductive ConfigurationError where
  | unreadable (path : String) (fault : FileFault)
  | malformed (path text : String)
  deriving DecidableEq, Repr

/-- What is said about a configuration file that cannot be used. What is wrong with a malformed text
is for the reader of documents to explain, and `explain` gives its words. -/
def ConfigurationError.message (explain : String → String) : ConfigurationError → String
  | .unreadable path fault => "Failed to read config " ++ path ++ ": " ++ fault.message
  | .malformed path text => "Failed to parse config " ++ path ++ ": " ++ explain text

/-- How a run goes about its work: the file to report on, the label style, and how the file is
read. -/
structure Settings where
  file : String
  labels : LabelMode
  readMode : ReadMode
  deriving DecidableEq, Repr

namespace Settings

/-- Reads a configuration file. -/
def loadConfiguration (files : Files) (path : String) :
    Traced Event (Except ConfigurationError Configuration) :=
  match files.text path with
  | .error fault => return .error (.unreadable path fault)
  | .ok text =>
    match Configuration.parse? text with
    | none => return .error (.malformed path text)
    | some configuration => do
      Traced.emit (.loadedConfiguration path configuration)
      return .ok configuration

/-- The settings that arguments and a configuration give. -/
def merge (arguments : ToolArguments) (configuration : Configuration) : Settings where
  file := arguments.file
  labels := (arguments.labels.or configuration.labels).getD .compat
  readMode := if arguments.buffered then .buffered else configuration.readMode.getD .mapped

/-- The configuration file that is used, if one is. -/
def configurationPath? (arguments : ToolArguments) (environment : Option String) :
    Option String :=
  arguments.config.or environment

/-- The settings of a run. -/
def resolve (files : Files) (environment : Option String) (arguments : ToolArguments) :
    Traced Event (Except ConfigurationError Settings) :=
  match configurationPath? arguments environment with
  | none => return .ok (merge arguments Configuration.empty)
  | some path => do
    let configuration ← loadConfiguration files path
    return configuration.map (merge arguments)

end Settings

end ElfScope
