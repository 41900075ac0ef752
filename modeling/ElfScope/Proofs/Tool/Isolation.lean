import ElfScope.Proofs.CommandLine.Tool
import ElfScope.Proofs.Report
import ElfScope.Proofs.Tool.Run

/-!
# Trouble with the symbols stays with the symbols

The header tool reports the header and the sections of a file whatever is wrong with its symbols
(`symbols_isolated`). Where the symbols are not asked for, nothing of them is seen. Where they are,
there comes behind the rest what is left to say: the symbols, a note that there are none, or the
failure of the tool.
-/

namespace ElfScope

/-- The same arguments without the request for the symbols. -/
def ToolArguments.withoutSymbols (arguments : ToolArguments) : ToolArguments :=
  { arguments with
    sections := arguments.sections || arguments.all
    symbols := false
    all := false }

/-- What is left of the header tool. -/
def Tool.headerTranscript (explain : String → String) (filter : Log.Filter) (files : Files)
    (environment : Option String) (arguments : ToolArguments) : Transcript :=
  Run.transcript explain .header filter (Run.ofTool .header files environment arguments)

/-- Two transcripts are the same, what the log shows aside: the same is reported, the exit status is
the same, and without a log the same is said (`error`). -/
structure Transcript.Alike (filter : Log.Filter) (first second : Transcript) : Prop where
  output : first.output = second.output
  status : first.status = second.status
  error : filter.Silent → first.error = second.error

/-- How the header tool treats the symbols of a file that it has inspected: `left` is what is left
of it, and `plain` what is left of it without the request for the symbols.

Where the symbols are not asked for, it succeeds, and leaves behind what it leaves behind on any
other file with the same header and sections, if the same parts of them are asked for (`unwanted`).
Where they cannot be read, it reports what it reports without them, and then fails (`fatal`). Where
there is no symbol table, it reports the same, and says so (`absent`). Where they can be read, they
are reported behind that (`present`). Without a log, nothing is said about the rest (`quiet`). -/
structure Isolated (explain : String → String) (filter : Log.Filter) (arguments : ToolArguments)
    (settings : Settings) (inspection : Inspection) (plain left : Transcript) : Prop where
  unwanted : (arguments.symbols || arguments.all) = false →
    left.status = 0 ∧
    ∀ otherFiles otherEnvironment otherArguments otherSettings other,
      (Run.load otherFiles otherEnvironment otherArguments).value = .ok (otherSettings, other) →
      (otherArguments.symbols || otherArguments.all) = false →
      otherArguments.sections = arguments.sections →
      other.header = inspection.header → other.sections = inspection.sections →
      (Tool.headerTranscript explain filter otherFiles otherEnvironment otherArguments).Alike filter
        left
  fatal : (arguments.symbols || arguments.all) = true → ∀ error,
    inspection.symbols = .error error → error ≠ .noSymbolTable →
    left.output = plain.output ∧ left.status = 1 ∧
      left.error = plain.error
        ++ ("read-elf: error: " ++ (settings.file ++ ": " ++ error.message) ++ "\n")
  absent : (arguments.symbols || arguments.all) = true →
    inspection.symbols = .error .noSymbolTable →
    left.output = plain.output ∧ left.status = 0 ∧
      (filter.Silent → left.error = "Symbol table not found in the ELF file.\n")
  present : (arguments.symbols || arguments.all) = true → ∀ symbols,
    inspection.symbols = .ok symbols →
    (∃ rest, rest ≠ "" ∧ left.output = plain.output ++ rest) ∧ left.status = 0 ∧
      left.error = plain.error
  quiet : filter.Silent → plain.error = ""

namespace Run

variable {explain : String → String} {files : Files} {environment : Option String}
  {arguments : ToolArguments} {settings : Settings} {inspection : Inspection}

/-- What the log shows of the way to the inspection. -/
def loadLog (filter : Log.Filter) (files : Files) (environment : Option String)
    (arguments : ToolArguments) : String :=
  standardError filter ((load files environment arguments).emitted.map .log)

/-- What the header tool reports without the symbols. -/
def plainReport (arguments : ToolArguments) (inspection : Inspection) : String :=
  Report.full inspection.header (reportedSections arguments inspection) none

/-- Without a log, nothing is shown of the way to the inspection. -/
theorem loadLog_of_silent {filter : Log.Filter} (hfilter : filter.Silent) :
    loadLog filter files environment arguments = "" :=
  standardError_map_log hfilter _

/-! ## What is left in each case -/

/-- Where the symbols are not asked for, the header tool reports the rest and succeeds. -/
theorem headerTranscript_of_unwanted (filter : Log.Filter)
    (hwanted : (arguments.symbols || arguments.all) = false)
    (h : (load files environment arguments).value = .ok (settings, inspection)) :
    Tool.headerTranscript explain filter files environment arguments
      = ⟨plainReport arguments inspection, loadLog filter files environment arguments, 0⟩ := by
  rw [Tool.headerTranscript, ofTool_header_of_unwanted hwanted h, transcript_eq]
  simp [outputText, errorText, verdict, exitStatus, plainReport, loadLog]

/-- Without the request for the symbols, the header tool reports the rest and succeeds. -/
theorem headerTranscript_withoutSymbols (filter : Log.Filter)
    (h : (load files environment arguments).value = .ok (settings, inspection)) :
    Tool.headerTranscript explain filter files environment arguments.withoutSymbols
      = ⟨plainReport arguments inspection, loadLog filter files environment arguments, 0⟩ := by
  have hreport : plainReport arguments.withoutSymbols inspection
      = plainReport arguments inspection := by
    simp [plainReport, reportedSections, ToolArguments.withoutSymbols]
  rw [← hreport]
  exact headerTranscript_of_unwanted filter rfl h

section Wanted

variable (hwanted : (arguments.symbols || arguments.all) = true)
  (h : (load files environment arguments).value = .ok (settings, inspection))

include hwanted h

/-- Where the symbols cannot be read, the header tool reports the rest and fails. -/
theorem headerTranscript_of_fatal (filter : Log.Filter) {error : SymbolError}
    (hsymbols : inspection.symbols = .error error) (hfatal : error ≠ .noSymbolTable) :
    Tool.headerTranscript explain filter files environment arguments
      = ⟨plainReport arguments inspection,
          loadLog filter files environment arguments
            ++ failureLine explain .header (.symbols settings.file error), 1⟩ := by
  rw [Tool.headerTranscript, ofTool_header_of_wanted hwanted h, hsymbols,
    symbolsOrNote_fatal settings hfatal, transcript_eq]
  simp [outputText, errorText, verdict, exitStatus, plainReport, loadLog, Except.map,
    Except.toOption]

/-- Where there is no symbol table, the header tool reports the rest, says so and succeeds. -/
theorem headerTranscript_of_absent (filter : Log.Filter)
    (hsymbols : inspection.symbols = .error .noSymbolTable) :
    Tool.headerTranscript explain filter files environment arguments
      = ⟨plainReport arguments inspection,
          loadLog filter files environment arguments
            ++ errorText filter (.log (.noSymbolTable settings.file)) ++ missingTableNote, 0⟩ := by
  rw [Tool.headerTranscript, ofTool_header_of_wanted hwanted h, hsymbols,
    symbolsOrNote_missing, transcript_eq]
  simp [outputText, errorText, verdict, exitStatus, plainReport, loadLog, Except.map,
    Except.toOption, String.append_assoc]

/-- Where there are symbols, the header tool reports them behind the rest and succeeds. -/
theorem headerTranscript_of_present (filter : Log.Filter) {symbols : List Symbol}
    (hsymbols : inspection.symbols = .ok symbols) :
    Tool.headerTranscript explain filter files environment arguments
      = ⟨plainReport arguments inspection ++ ("\n" ++ Report.text (Report.symbolLines symbols)),
          loadLog filter files environment arguments, 0⟩ := by
  rw [Tool.headerTranscript, ofTool_header_of_wanted hwanted h, hsymbols,
    symbolsOrNote_ok, transcript_eq]
  simp [outputText, errorText, verdict, exitStatus, plainReport, loadLog, Except.map,
    Except.toOption, Report.full_some_symbols, String.append_assoc]

end Wanted

/-! ## All cases together -/

/-- Trouble with the symbols of an inspected file stays with the symbols. -/
theorem isolated (filter : Log.Filter)
    (h : (load files environment arguments).value = .ok (settings, inspection)) :
    Isolated explain filter arguments settings inspection
      (Tool.headerTranscript explain filter files environment arguments.withoutSymbols)
      (Tool.headerTranscript explain filter files environment arguments) := by
  rw [headerTranscript_withoutSymbols filter h]
  constructor
  case unwanted =>
    intro hwanted
    rw [headerTranscript_of_unwanted filter hwanted h]
    refine ⟨rfl, ?_⟩
    intro otherFiles otherEnvironment otherArguments otherSettings other hother hotherWanted
      hparts hheader hsections
    rw [headerTranscript_of_unwanted filter hotherWanted hother]
    have hreport : plainReport otherArguments other = plainReport arguments inspection := by
      obtain ⟨-, hall⟩ := Bool.or_eq_false_iff.1 hwanted
      obtain ⟨-, hotherAll⟩ := Bool.or_eq_false_iff.1 hotherWanted
      rw [plainReport, plainReport, reportedSections, reportedSections, hall, hotherAll, hparts,
        hheader, hsections]
    constructor
    case output => rw [hreport]
    case status => rfl
    case error =>
      intro hfilter
      rw [loadLog_of_silent hfilter, loadLog_of_silent hfilter]
  case fatal =>
    intro hwanted error hsymbols hfatal
    rw [headerTranscript_of_fatal hwanted h filter hsymbols hfatal]
    dsimp only
    exact ⟨rfl, rfl, rfl⟩
  case absent =>
    intro hwanted hsymbols
    rw [headerTranscript_of_absent hwanted h filter hsymbols]
    dsimp only
    refine ⟨rfl, rfl, fun hfilter => ?_⟩
    rw [loadLog_of_silent hfilter, errorText, hfilter]
    rfl
  case present =>
    intro hwanted symbols hsymbols
    rw [headerTranscript_of_present hwanted h filter hsymbols]
    dsimp only
    refine ⟨⟨_, ?_, rfl⟩, rfl, rfl⟩
    simp
  case quiet => exact loadLog_of_silent

/-- To ask for everything is to ask for the sections and for the symbols. -/
theorem ofTool_all (files : Files) (environment : Option String) (arguments : ToolArguments)
    (sections symbols : Bool) :
    ofTool .header files environment { arguments with sections, symbols, all := true }
      = ofTool .header files environment
          { arguments with sections := true, symbols := true, all := false } := by
  have hreport : ∀ settings inspection,
      reportHeader { arguments with sections, symbols, all := true } settings inspection
        = reportHeader { arguments with sections := true, symbols := true, all := false } settings
            inspection := by
    intro settings inspection
    unfold reportHeader wantedSymbols
    rw [Bool.or_true, Bool.or_true]
    rfl
  -- The file is inspected before any choice of parts is looked at.
  unfold ofTool
  simp only [load_parts, hreport]

end Run

/-- On a file that can be inspected, the header tool keeps trouble with the symbols to the symbols.
To ask for everything is to ask for the sections and for the symbols, on any file. -/
theorem symbols_isolated (explain : String → String) (filter : Log.Filter) (files : Files)
    (environment : Option String) (arguments : ToolArguments) :
    (∀ settings inspection,
      (Run.load files environment arguments).value = .ok (settings, inspection) →
      Isolated explain filter arguments settings inspection
        (Tool.headerTranscript explain filter files environment arguments.withoutSymbols)
        (Tool.headerTranscript explain filter files environment arguments)) ∧
    (∀ sections symbols,
      Run.ofTool .header files environment { arguments with sections, symbols, all := true }
        = Run.ofTool .header files environment
            { arguments with sections := true, symbols := true, all := false }) ∧
    ∀ words requested, ToolArguments.parse .symbols words = .ok arguments →
      Tool.header.transcript explain files environment requested ("-a" :: words)
        = Tool.header.transcript explain files environment requested ("-S" :: "-s" :: words) := by
  refine ⟨fun settings inspection h => Run.isolated filter h, fun sections symbols => ?_,
    fun words requested hwords => ?_⟩
  · exact Run.ofTool_all files environment arguments sections symbols
  · obtain ⟨-, -, hall⟩ := ToolArguments.parts_of_parse_symbols hwords
    have hboth : arguments.choosing [.sections, .symbols]
        = { arguments with sections := true, symbols := true, all := false } := by
      rw [← hall]
      rfl
    rw [Tool.transcript_eq_ok (ToolArguments.parse_header_all hwords),
      Tool.transcript_eq_ok (ToolArguments.parse_header_sections_symbols hwords), hboth,
      ← Run.ofTool_all files environment arguments arguments.sections arguments.symbols]
    rfl

/-- The symbol of the sample is reported behind its header, and nothing else is said. -/
theorem symbols_isolated_sample :
    ∃ asking inspection, asking = { Sample.arguments with symbols := true } ∧
      (Run.load Sample.files none asking).value = .ok (Sample.settings, inspection) ∧
      inspection.symbols = .ok [Sample.symbol] ∧
      ∃ rest, rest ≠ "" ∧
        Tool.headerTranscript Sample.explain (Run.filter none asking) Sample.files none asking
          = ⟨(Tool.headerTranscript Sample.explain (Run.filter none asking) Sample.files none
              asking.withoutSymbols).output ++ rest, "", 0⟩ := by
  obtain ⟨inspection, hload, hsymbols⟩ := Sample.load_eq
  -- The arguments stay folded, lest every comparison of two runs inspects the sample.
  obtain ⟨asking, hasking⟩ : ∃ asking, asking = { Sample.arguments with symbols := true } :=
    ⟨_, rfl⟩
  have hparts : Run.load Sample.files none asking
      = Run.load Sample.files none Sample.arguments := by
    rw [hasking]
    exact Run.load_parts Sample.files none Sample.arguments false true false
  have hwanted : (asking.symbols || asking.all) = true := by
    rw [hasking]
    rfl
  have hsilent : (Run.filter none asking).Silent := Run.silent_filter (by rw [hasking]; rfl)
  rw [← hparts] at hload
  have hisolated :=
    (symbols_isolated Sample.explain (Run.filter none asking) Sample.files none asking).1 _ _ hload
  obtain ⟨⟨rest, hrest, houtput⟩, hstatus, herror⟩ := hisolated.present hwanted _ hsymbols
  rw [hisolated.quiet hsilent] at herror
  refine ⟨asking, inspection, hasking, hload, hsymbols, rest, hrest, ?_⟩
  rw [← houtput, ← herror, ← hstatus]

end ElfScope
