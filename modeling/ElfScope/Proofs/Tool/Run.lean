import ElfScope.Proofs.Inspection.Faithful
import ElfScope.Tool.Run

/-!
# What a run leaves behind

A `Transcript` is what is left of a run outside of the program. A tool first finds its settings and
inspects the file, in which the parts that it is to report have no say (`load_parts`), and then
reports. Both tools ask for the symbols in the same way and differ in the text that they write
(`reportHeader_of_wanted`, `reportSymbols_eq`).
-/

namespace ElfScope

namespace Log.Filter

/-- A filter that shows no event at all. -/
def Silent (filter : Filter) : Prop :=
  ∀ event, filter.shows event = false

/-- No event is important enough for warnings. -/
theorem silent_upTo_warn : (upTo .warn).Silent := by
  intro event
  cases event <;> rfl

/-- A filter that shows errors only shows nothing, since no event is an error. -/
theorem silent_upTo_error : (upTo .error).Silent := by
  intro event
  cases event <;> rfl

end Log.Filter

/-- What is left of a run: what it wrote to the standard output and to the standard error, and its
exit status. -/
structure Transcript where
  output : String
  error : String
  status : Nat
  deriving DecidableEq, Repr

namespace Run

/-- What is left of the run of a tool whose log is filtered. -/
def transcript (explain : String → String) (tool : Tool) (filter : Log.Filter) (run : Run) :
    Transcript where
  output := standardOutput (effects explain tool run)
  error := standardError filter (effects explain tool run)
  status := exitStatus run

end Run

namespace Tool

/-- What is left of a tool that is run with some words, if it accepts them. -/
def transcript (tool : Tool) (explain : String → String) (files : Files)
    (environment requested : Option String) (words : List String) :
    Except CommandLine.UsageError Transcript := do
  let arguments ← ToolArguments.parse tool words
  return Run.transcript explain tool (Run.filter requested arguments)
    (Run.ofTool tool files environment arguments)

/-- A tool that accepts its words leaves behind what its run does. -/
theorem transcript_eq_ok {tool : Tool} {explain : String → String} {files : Files}
    {environment requested : Option String} {words : List String} {arguments : ToolArguments}
    (h : ToolArguments.parse tool words = .ok arguments) :
    tool.transcript explain files environment requested words
      = .ok (Run.transcript explain tool (Run.filter requested arguments)
          (Run.ofTool tool files environment arguments)) := by
  rw [transcript, h]
  rfl

end Tool

namespace Run

/-- Where no filter is requested and no more of the log is asked for, nothing of it is shown. -/
theorem silent_filter {arguments : ToolArguments} (h : arguments.verbose = 0) :
    (filter none arguments).Silent := by
  unfold filter defaultLevel
  rw [h]
  cases arguments.quiet with
  | true => exact Log.Filter.silent_upTo_error
  | false => exact Log.Filter.silent_upTo_warn

/-! ## Texts of effects -/

/-- No effects write nothing to the standard output. -/
@[simp]
theorem standardOutput_nil : standardOutput [] = "" := rfl

/-- Effects one after the other write one after the other to the standard output. -/
@[simp]
theorem standardOutput_append (first second : List Effect) :
    standardOutput (first ++ second) = standardOutput first ++ standardOutput second := by
  rw [standardOutput, List.map_append, String.join_append, standardOutput, standardOutput]

/-- The first effect is the first to write to the standard output. -/
@[simp]
theorem standardOutput_cons (effect : Effect) (rest : List Effect) :
    standardOutput (effect :: rest) = outputText effect ++ standardOutput rest := by
  rw [standardOutput, List.map_cons, String.join_cons, standardOutput]

/-- No effects write nothing to the standard error. -/
@[simp]
theorem standardError_nil (filter : Log.Filter) : standardError filter [] = "" := rfl

/-- Effects one after the other write one after the other to the standard error. -/
@[simp]
theorem standardError_append (filter : Log.Filter) (first second : List Effect) :
    standardError filter (first ++ second)
      = standardError filter first ++ standardError filter second := by
  rw [standardError, List.map_append, String.join_append, standardError, standardError]

/-- The first effect is the first to write to the standard error. -/
@[simp]
theorem standardError_cons (filter : Log.Filter) (effect : Effect) (rest : List Effect) :
    standardError filter (effect :: rest)
      = errorText filter effect ++ standardError filter rest := by
  rw [standardError, List.map_cons, String.join_cons, standardError]

/-- Log events leave the standard output alone. -/
@[simp]
theorem standardOutput_map_log (events : List Event) : standardOutput (events.map .log) = "" := by
  induction events with
  | nil => rfl
  | cons event rest ih => rw [List.map_cons, standardOutput_cons, ih]; rfl

/-- On the standard error stand the lines of those that are shown. -/
theorem standardError_logs (filter : Log.Filter) (events : List Event) :
    standardError filter (events.map .log)
      = String.join ((events.filter filter.shows).map Event.line) := by
  induction events with
  | nil => rfl
  | cons event rest ih =>
    rw [List.map_cons, standardError_cons, ih, List.filter_cons, errorText]
    split
    case isTrue => rw [List.map_cons, String.join_cons]
    case isFalse => rw [String.empty_append]

/-- Where no event is shown, they leave the standard error alone, too. -/
theorem standardError_map_log {filter : Log.Filter} (h : filter.Silent) (events : List Event) :
    standardError filter (events.map .log) = "" := by
  have hnone : events.filter filter.shows = [] :=
    List.filter_eq_nil_iff.2 fun event _ => by rw [h event]; exact Bool.false_ne_true
  rw [standardError_logs, hnone]
  rfl

/-- What a tool says about the outcome of its run. -/
def verdict (explain : String → String) (tool : Tool) : Except RunError Unit → String
  | .ok () => ""
  | .error error => failureLine explain tool error

/-- A failure is told behind everything else. -/
theorem transcript_eq (explain : String → String) (tool : Tool) (filter : Log.Filter) (run : Run) :
    run.transcript explain tool filter
      = ⟨standardOutput run.emitted,
          standardError filter run.emitted ++ verdict explain tool run.value, exitStatus run⟩ := by
  rw [transcript, effects]
  cases hvalue : run.value with
  | ok => simp [verdict]
  | error error => simp [verdict, outputText, errorText]

/-- What a run leaves at the standard output is what its effects write there. -/
theorem transcript_output (explain : String → String) (tool : Tool) (filter : Log.Filter)
    (run : Run) : (run.transcript explain tool filter).output = standardOutput run.emitted := by
  rw [transcript_eq]

/-! ## Up to the inspection -/

variable {files : Files} {environment : Option String} {arguments : ToolArguments} {tool : Tool}
  {settings : Settings} {inspection : Inspection}

/-- The report of a tool on an inspected file. -/
def report (tool : Tool) (arguments : ToolArguments) (settings : Settings)
    (inspection : Inspection) : Run :=
  match tool with
  | .header => reportHeader arguments settings inspection
  | .symbols => reportSymbols settings inspection

/-- A file that cannot be inspected is not reported on. -/
theorem ofTool_of_error {error : RunError}
    (h : (load files environment arguments).value = .error error) :
    ofTool tool files environment arguments
      = ⟨(load files environment arguments).emitted.map .log, .error error⟩ := by
  unfold ofTool
  simp only [bind, Traced.value_mapEmitted, Traced.emitted_mapEmitted, h]
  simp [pure]

/-- A file that has been inspected is reported on. -/
theorem ofTool_of_ok (h : (load files environment arguments).value = .ok (settings, inspection)) :
    ofTool tool files environment arguments
      = ⟨(load files environment arguments).emitted.map .log
            ++ (report tool arguments settings inspection).emitted,
          (report tool arguments settings inspection).value⟩ := by
  unfold ofTool
  simp only [bind, Traced.value_mapEmitted, Traced.emitted_mapEmitted, h]
  cases tool <;> rfl

/-- First come the settings, then the file, and then its inspection. -/
theorem value_load (files : Files) (environment : Option String) (arguments : ToolArguments) :
    (load files environment arguments).value =
      match (Settings.resolve files environment arguments).value with
      | .error error => .error (.configuration error)
      | .ok settings =>
        match (Image.load files settings.file settings.readMode).value with
        | .error error => .error (.file error)
        | .ok image =>
          match (inspect image.bytes settings.labels).value with
          | .error error => .error (.inspection settings.file error)
          | .ok inspection => .ok (settings, inspection) := by
  rw [load, Traced.value_bind]
  cases (Settings.resolve files environment arguments).value with
  | error error => rfl
  | ok settings =>
    dsimp only
    rw [Traced.value_bind]
    cases (Image.load files settings.file settings.readMode).value with
    | error error => rfl
    | ok image =>
      dsimp only
      rw [Traced.value_bind]
      cases (inspect image.bytes settings.labels).value <;> rfl

/-- Inspecting succeeds where settings are found, the file is there and its parts are accepted. -/
theorem load_eq_ok {image : Image}
    (hsettings : (Settings.resolve files environment arguments).value = .ok settings)
    (himage : (Image.load files settings.file settings.readMode).value = .ok image)
    (hinspection : (inspect image.bytes settings.labels).value = .ok inspection) :
    (load files environment arguments).value = .ok (settings, inspection) := by
  rw [value_load]
  simp only [hsettings, himage, hinspection]

/-- The choice of parts has no say in what is inspected. -/
theorem load_parts (files : Files) (environment : Option String) (arguments : ToolArguments)
    (sections symbols all : Bool) :
    load files environment { arguments with sections, symbols, all }
      = load files environment arguments := rfl

/-! ## Asking for the symbols -/

/-- Symbols are found, or there is no symbol table, or there is another error. -/
theorem symbols_cases (symbols : Except SymbolError (List Symbol)) :
    (∃ found, symbols = .ok found) ∨ symbols = .error .noSymbolTable ∨
      ∃ error, error ≠ .noSymbolTable ∧ symbols = .error error := by
  cases symbols with
  | ok found => exact .inl ⟨found, rfl⟩
  | error error =>
    by_cases habsent : error = .noSymbolTable
    · exact .inr (.inl (congrArg Except.error habsent))
    · exact .inr (.inr ⟨error, habsent, rfl⟩)

/-- Symbols that were read are used without a note. -/
theorem symbolsOrNote_ok (settings : Settings) (symbols : List Symbol) :
    symbolsOrNote settings (.ok symbols) = ⟨[], .ok (some symbols)⟩ := rfl

/-- Where there is no symbol table, a note is left. -/
theorem symbolsOrNote_missing (settings : Settings) :
    symbolsOrNote settings (.error .noSymbolTable)
      = ⟨[.log (.noSymbolTable settings.file), .diagnostic missingTableNote], .ok none⟩ := rfl

/-- Where the symbols cannot be read, the run fails without a note. -/
theorem symbolsOrNote_fatal (settings : Settings) {error : SymbolError}
    (h : error ≠ .noSymbolTable) :
    symbolsOrNote settings (.error error) = ⟨[], .error (.symbols settings.file error)⟩ := by
  cases error with
  | noSymbolTable => exact absurd rfl h
  | badStringTableLink | misalignedTable | nameOutOfRange | unterminatedName | range => rfl

/-- Asking for the symbols writes nothing to the standard output. -/
theorem standardOutput_symbolsOrNote (settings : Settings)
    (symbols : Except SymbolError (List Symbol)) :
    standardOutput (symbolsOrNote settings symbols).emitted = "" := by
  rcases symbols_cases symbols with ⟨found, rfl⟩ | rfl | ⟨error, hfatal, rfl⟩
  · rfl
  · rfl
  · rw [symbolsOrNote_fatal settings hfatal, standardOutput_nil]

/-! ## Reports -/

/-- The sections that the header tool reports. -/
def reportedSections (arguments : ToolArguments) (inspection : Inspection) :
    Option (List SectionHeader) :=
  if arguments.sections || arguments.all then some inspection.sections else none

/-- The header tool that is not asked for symbols reports, whatever they are. -/
theorem reportHeader_of_unwanted (h : (arguments.symbols || arguments.all) = false) :
    reportHeader arguments settings inspection
      = ⟨[.output (Report.full inspection.header (reportedSections arguments inspection) none)],
          .ok ()⟩ := by
  unfold reportHeader wantedSymbols
  rw [h]
  rfl

/-- The header tool that is asked for symbols writes its report behind the note, if there is one,
and fails behind the report. -/
theorem reportHeader_of_wanted (h : (arguments.symbols || arguments.all) = true) :
    reportHeader arguments settings inspection
      = ⟨(symbolsOrNote settings inspection.symbols).emitted
            ++ [.output (Report.full inspection.header (reportedSections arguments inspection)
              inspection.symbols.toOption)],
          (symbolsOrNote settings inspection.symbols).value.map fun _ => ()⟩ := by
  unfold reportHeader wantedSymbols
  rw [h, if_pos rfl]
  rcases symbols_cases inspection.symbols with ⟨found, hfound⟩ | habsent | ⟨error, hfatal, hfault⟩
  · rw [hfound]
    rfl
  · rw [habsent]
    rfl
  · rw [hfault, symbolsOrNote_fatal settings hfatal]
    rfl

/-- What the symbol tool writes where the symbols are known. -/
def symbolReport (symbols : Except SymbolError (List Symbol)) : List Effect :=
  match symbols with
  | .ok symbols => [.output (Report.text (Report.symbolLines symbols))]
  | .error _ => []

/-- The symbol tool asks for the symbols in the same way. -/
theorem reportSymbols_eq (settings : Settings) (inspection : Inspection) :
    reportSymbols settings inspection
      = ⟨(symbolsOrNote settings inspection.symbols).emitted ++ symbolReport inspection.symbols,
          (symbolsOrNote settings inspection.symbols).value.map fun _ => ()⟩ := by
  unfold reportSymbols
  rcases symbols_cases inspection.symbols with ⟨found, hfound⟩ | habsent | ⟨error, hfatal, hfault⟩
  · rw [hfound]
    rfl
  · rw [habsent]
    rfl
  · rw [hfault, symbolsOrNote_fatal settings hfatal]
    rfl

/-! ## Runs on an inspected file -/

/-- The header tool that is not asked for the symbols reports the rest. -/
theorem ofTool_header_of_unwanted (hwanted : (arguments.symbols || arguments.all) = false)
    (h : (load files environment arguments).value = .ok (settings, inspection)) :
    ofTool .header files environment arguments
      = ⟨(load files environment arguments).emitted.map .log ++
            [.output (Report.full inspection.header (reportedSections arguments inspection) none)],
          .ok ()⟩ := by
  rw [ofTool_of_ok h, report, reportHeader_of_unwanted hwanted]

/-- The header tool that is asked for the symbols asks for them and reports what there is. -/
theorem ofTool_header_of_wanted (hwanted : (arguments.symbols || arguments.all) = true)
    (h : (load files environment arguments).value = .ok (settings, inspection)) :
    ofTool .header files environment arguments
      = ⟨(load files environment arguments).emitted.map .log ++
            ((symbolsOrNote settings inspection.symbols).emitted ++
              [.output (Report.full inspection.header (reportedSections arguments inspection)
                inspection.symbols.toOption)]),
          (symbolsOrNote settings inspection.symbols).value.map fun _ => ()⟩ := by
  rw [ofTool_of_ok h, report, reportHeader_of_wanted hwanted]

/-- The symbol tool asks for the symbols and reports these. -/
theorem ofTool_symbols
    (h : (load files environment arguments).value = .ok (settings, inspection)) :
    ofTool .symbols files environment arguments
      = ⟨(load files environment arguments).emitted.map .log ++
            ((symbolsOrNote settings inspection.symbols).emitted ++
              symbolReport inspection.symbols),
          (symbolsOrNote settings inspection.symbols).value.map fun _ => ()⟩ := by
  rw [ofTool_of_ok h, report, reportSymbols_eq]

end Run

/-! ## Images -/

namespace Image

variable {files : Files} {path : String}

/-- A file is read whole, whichever way. -/
theorem load_file {contents : Bytes} (h : files.entry path = .ok (.file contents))
    (mode : ReadMode) :
    ∃ image, (load files path mode).value = .ok image ∧ image.bytes = contents := by
  unfold load
  rw [h]
  dsimp only
  split
  · exact ⟨⟨.mapped, contents⟩, rfl, rfl⟩
  · exact ⟨⟨.owned, contents⟩, rfl, rfl⟩

/-- Nothing else is read, whichever way. -/
theorem load_fails (h : ∀ contents, files.entry path ≠ .ok (.file contents)) (mode : ReadMode) :
    ∃ error, (load files path mode).value = .error error ∧ error.path = path := by
  unfold load
  cases hentry : files.entry path with
  | error fault => exact ⟨_, rfl, rfl⟩
  | ok entry =>
    cases entry with
    | file contents => exact absurd hentry (h contents)
    | directory => cases mode <;> exact ⟨_, rfl, rfl⟩

/-- A file that cannot be read is named. -/
theorem path_of_load {mode : ReadMode} {error : FileError}
    (h : (load files path mode).value = .error error) : error.path = path := by
  by_cases hentry : ∃ contents, files.entry path = .ok (.file contents)
  · obtain ⟨contents, hentry⟩ := hentry
    obtain ⟨image, hvalue, -⟩ := load_file hentry mode
    cases hvalue.symm.trans h
  · obtain ⟨fault, hvalue, hpath⟩ := load_fails (not_exists.1 hentry) mode
    cases hvalue.symm.trans h
    exact hpath

end Image

/-! ## The sample as a file -/

namespace Sample

/-- The sample is the only file. -/
def files : Files :=
  ⟨fun path => if path = "sample" then .ok (.file image) else .error .notFound⟩

/-- The arguments that ask for it with full labels. -/
def arguments : ToolArguments where
  file := "sample"
  config := none
  labels := some .full
  buffered := false
  quiet := false
  verbose := 0
  sections := false
  symbols := false
  all := false

/-- A reader of documents that says of any text only that it is malformed. -/
def explain : String → String :=
  fun _ => "TOML parse error"

/-- What these arguments set. -/
def settings : Settings :=
  ⟨"sample", .full, .mapped⟩

/-- The sample is inspected, and its symbol is found. -/
theorem load_eq : ∃ inspection,
    (Run.load files none arguments).value = .ok (settings, inspection) ∧
      inspection.symbols = .ok [symbol] := by
  obtain ⟨inspection, hvalue, hsymbols⟩ := encodes.accepted .full
  have hentry : files.entry settings.file = .ok (.file image) := by
    simp [files, settings]
  obtain ⟨loaded, himage, hbytes⟩ := Image.load_file hentry settings.readMode
  refine ⟨inspection, Run.load_eq_ok rfl himage ?_, hsymbols.trans (value_read .full)⟩
  rw [hbytes]
  exact hvalue

/-- A header that declares no sections. -/
def bareHeader : FileHeader :=
  { header with sectionCount := 0, nameSection := 0 }

/-- A file with this header and nothing else is the only file. -/
def bareFiles : Files :=
  ⟨fun path => if path = "bare" then .ok (.file bareHeader.encode) else .error .notFound⟩

end Sample

end ElfScope
