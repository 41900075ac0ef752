import ElfScope.Image
import ElfScope.Inspection
import ElfScope.Log.Filter
import ElfScope.Report.Basic
import ElfScope.Settings

/-!
# Runs of the tools

A run is a list of effects, which are output, diagnostics and log events, and an outcome. It
depends on the arguments, the files and the configuration named by the environment only; which
log events are shown, and where, is decided afterwards by `Run.standardError`. How the reader of
documents explains what is wrong with a text is a parameter (`explain`) of what is said about a
failure.

The header tool writes its report before it fails for the sake of the symbols; the symbol tool
then writes nothing.
-/

namespace ElfScope

/-- What a run does to the outside: it reports an event (`log`), or writes a text to the standard
output (`output`) or to the standard error (`diagnostic`). -/
inductive Effect where
  | log (event : Event)
  | output (text : String)
  | diagnostic (text : String)
  deriving DecidableEq

/-- Why a run fails: the configuration cannot be used, the file cannot be read or inspected, or its
symbols cannot be read. -/
inductive RunError where
  | configuration (error : ConfigurationError)
  | file (error : FileError)
  | inspection (path : String) (error : InspectError)
  | symbols (path : String) (error : SymbolError)
  deriving DecidableEq

/-- What is said about a failed run: its causes from the outermost inward. A cause that is part of
what is said about the whole is said again. -/
def RunError.message (explain : String → String) : RunError → String
  | .configuration error => error.message explain
  | .file error => error.message ++ ": " ++ error.fault.message
  | .inspection path error => path ++ ": " ++ error.message ++ ": " ++ error.cause
  | .symbols path error => path ++ ": " ++ error.message

/-- A run: its effects and its outcome. -/
abbrev Run := Traced Effect (Except RunError Unit)

namespace Run

/-- What a tool says when there is no symbol table. -/
def missingTableNote : String := "Symbol table not found in the ELF file.\n"

/-- Finds the settings and inspects the file. -/
def load (files : Files) (environment : Option String) (arguments : ToolArguments) :
    Traced Event (Except RunError (Settings × Inspection)) := do
  match ← Settings.resolve files environment arguments with
  | .error error => return .error (.configuration error)
  | .ok settings =>
    match ← Image.load files settings.file settings.readMode with
    | .error error => return .error (.file error)
    | .ok image =>
      match ← inspect image.bytes settings.labels with
      | .error error => return .error (.inspection settings.file error)
      | .ok inspection =>
        let symbols := match inspection.symbols with
          | .ok symbols => symbols.length
          | .error _ => 0
        Traced.emit (.inspectionComplete inspection.sections.length symbols)
        return .ok (settings, inspection)

/-- The symbols to report: none, with a note, where there is no symbol table. -/
def symbolsOrNote (settings : Settings) (symbols : Except SymbolError (List Symbol)) :
    Traced Effect (Except RunError (Option (List Symbol))) :=
  match symbols with
  | .ok symbols => return .ok (some symbols)
  | .error .noSymbolTable => do
    Traced.emit (.log (.noSymbolTable settings.file))
    Traced.emit (.diagnostic missingTableNote)
    return .ok none
  | .error error => return .error (.symbols settings.file error)

/-- The symbols that the header tool reports: none, where none are asked for. -/
def wantedSymbols (arguments : ToolArguments) (settings : Settings) (inspection : Inspection) :
    Traced Effect (Except RunError (Option (List Symbol))) :=
  if arguments.symbols || arguments.all then symbolsOrNote settings inspection.symbols
  else return .ok none

/-- The report of the header tool, and then its failure if the symbols cannot be read. -/
def reportHeader (arguments : ToolArguments) (settings : Settings) (inspection : Inspection) :
    Run := do
  let sections := if arguments.sections || arguments.all then some inspection.sections else none
  match ← wantedSymbols arguments settings inspection with
  | .ok symbols =>
    Traced.emit (.output (Report.full inspection.header sections symbols))
    return .ok ()
  | .error error =>
    Traced.emit (.output (Report.full inspection.header sections none))
    return .error error

/-- The report of the symbol tool. -/
def reportSymbols (settings : Settings) (inspection : Inspection) : Run := do
  match ← symbolsOrNote settings inspection.symbols with
  | .error error => return .error error
  | .ok none => return .ok ()
  | .ok (some symbols) =>
    Traced.emit (.output (Report.text (Report.symbolLines symbols)))
    return .ok ()

/-- Runs a tool. -/
def ofTool (tool : Tool) (files : Files) (environment : Option String)
    (arguments : ToolArguments) : Run := do
  match ← (load files environment arguments).mapEmitted .log with
  | .error error => return .error error
  | .ok (settings, inspection) =>
    match tool with
    | .header => reportHeader arguments settings inspection
    | .symbols => reportSymbols settings inspection

/-- The line by which a tool says why it failed. -/
def failureLine (explain : String → String) (tool : Tool) (error : RunError) : String :=
  tool.name ++ ": error: " ++ error.message explain ++ "\n"

/-- The effects of a run, its failure told at the end. -/
def effects (explain : String → String) (tool : Tool) (run : Run) : List Effect :=
  match run.value with
  | .ok () => run.emitted
  | .error error => run.emitted ++ [.diagnostic (failureLine explain tool error)]

/-- The exit status of a run. -/
def exitStatus (run : Run) : Nat :=
  match run.value with
  | .ok () => 0
  | .error _ => 1

/-- What an effect writes to the standard output. -/
def outputText : Effect → String
  | .output text => text
  | _ => ""

/-- What an effect writes to the standard error. -/
def errorText (filter : Log.Filter) : Effect → String
  | .log event => if filter.shows event then event.line else ""
  | .diagnostic text => text
  | .output _ => ""

/-- What some effects write to the standard output. -/
def standardOutput (effects : List Effect) : String :=
  String.join (effects.map outputText)

/-- What some effects write to the standard error, with the log events that a filter shows. -/
def standardError (filter : Log.Filter) (effects : List Effect) : String :=
  String.join (effects.map (errorText filter))

/-- The level up to which events are shown where no filter is requested. -/
def defaultLevel (arguments : ToolArguments) : Level :=
  if arguments.quiet then .error
  else
    match arguments.verbose with
    | 0 => .warn
    | 1 => .debug
    | _ => .trace

/-- The filter of a run: the requested one, or the one that the arguments ask for. -/
def filter (requested : Option String) (arguments : ToolArguments) : Log.Filter :=
  Log.Filter.select requested (defaultLevel arguments)

end Run

end ElfScope
