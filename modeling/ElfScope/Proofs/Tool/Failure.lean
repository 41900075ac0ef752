import ElfScope.Proofs.Report
import ElfScope.Proofs.Settings
import ElfScope.Proofs.Tool.Run

/-!
# What is said about a run

Where the log shows nothing, a run says that there is no symbol table, or why it failed, or nothing
at all (`Run.ends_ofTool`). The words of a failure are those of the program, which hold no newline,
the path of a file, which is printed as it is given, and the explanation of a malformed
configuration, which comes from the reader of documents. So a failure is told on one line exactly if
neither the path nor the explanation holds a newline (`failure_oneLine_iff`). The note about a
missing table is no failure, and it is not silenced by the option that leaves errors only
(`quiet_cases`).
-/

namespace ElfScope

open Report (newlines newlines_append newlines_decimal newlines_hexLiteral newlines_hexByte
  newlines_intercalate newlines_eq_zero_iff)

/-! ## Messages -/

section Messages

-- To derive the equations of a message takes long, so its definition is unfolded as it stands.

/-- The message of a range error has no newlines. -/
theorem RangeError.newlines_message (error : RangeError) : newlines error.message = 0 := by
  delta message
  simp only [newlines_append, newlines_decimal, newlines_hexLiteral]
  simp [newlines]

/-- The message of the defect of a header has no newlines. -/
theorem HeaderError.newlines_message (error : HeaderError) : newlines error.message = 0 := by
  delta message
  cases error with
  | badMagic found =>
    have hbytes : newlines (" ".intercalate (found.toList.map Text.hexByte)) = 0 := by
      refine newlines_intercalate rfl fun text hmem => ?_
      obtain ⟨byte, -, rfl⟩ := List.mem_map.1 hmem
      exact newlines_hexByte byte
    simp only [newlines_append, hbytes]
    simp [newlines]
  | truncated | unsupportedClass | unsupportedEncoding | range =>
    simp only [newlines_append, newlines_decimal, RangeError.newlines_message]
    simp [newlines]

/-- The message of the defect of a section header table has no newlines. -/
theorem SectionError.newlines_message (error : SectionError) : newlines error.message = 0 := by
  delta message
  cases error with
  | truncatedTable | badEntrySize | range =>
    simp only [newlines_append, newlines_decimal, newlines_hexLiteral, RangeError.newlines_message]
    simp [newlines]

/-- The message of the defect of a symbol table has no newlines. -/
theorem SymbolError.newlines_message (error : SymbolError) : newlines error.message = 0 := by
  delta message
  cases error with
  | noSymbolTable => rfl
  | badStringTableLink | misalignedTable | nameOutOfRange | unterminatedName | range =>
    simp only [newlines_append, newlines_decimal, newlines_hexLiteral, RangeError.newlines_message]
    simp [newlines]

/-- What is said of a file that cannot be inspected has no newlines. -/
theorem InspectError.newlines_cause (error : InspectError) : newlines error.cause = 0 := by
  cases error with
  | header error | sections error | symbols error => exact error.newlines_message

/-- The failing part is named in front of the cause. -/
theorem InspectError.newlines_message (error : InspectError) : newlines error.message = 0 := by
  delta message
  cases error with
  | header error | sections error | symbols error =>
    dsimp only
    rw [newlines_append, error.newlines_message]
    rfl

/-- What is said of a file that cannot be opened or read has no newlines. -/
theorem FileFault.newlines_message (fault : FileFault) : newlines fault.message = 0 := by
  cases fault <;> rfl

/-- Of the newlines of a message, all are those of the path that it names. -/
theorem FileError.newlines_message (error : FileError) :
    newlines error.message = newlines error.path := by
  have hstep : newlines error.step.name = 0 := by cases error.step <;> rfl
  have hblank : newlines " " = 0 := rfl
  have hcolon : newlines ": " = 0 := rfl
  rw [message, newlines_append, newlines_append, newlines_append, newlines_append, hstep, hblank,
    hcolon, error.fault.newlines_message, Nat.zero_add]
  rfl

/-- How the reader of documents explains what is wrong with a configuration, if that is for it to
explain. -/
def ConfigurationError.explanation (explain : String → String) : ConfigurationError → String
  | .unreadable _ _ => ""
  | .malformed _ text => explain text

/-- Of the newlines of a message, all are those of the path and of the explanation. -/
theorem ConfigurationError.newlines_message (explain : String → String)
    (error : ConfigurationError) :
    newlines (error.message explain)
      = newlines error.path + newlines (error.explanation explain) := by
  delta message
  cases error with
  | unreadable path fault =>
    have hfront : newlines "Failed to read config " = 0 := rfl
    have hcolon : newlines ": " = 0 := rfl
    dsimp only
    rw [newlines_append, newlines_append, newlines_append, hfront, hcolon, fault.newlines_message,
      Nat.zero_add]
    rfl
  | malformed path text =>
    have hfront : newlines "Failed to parse config " = 0 := rfl
    have hcolon : newlines ": " = 0 := rfl
    dsimp only
    rw [newlines_append, newlines_append, newlines_append, hfront, hcolon, Nat.zero_add]
    rfl

end Messages

namespace RunError

/-- The file that a failure is about. -/
def path : RunError → String
  | .configuration error => error.path
  | .file error => error.path
  | .inspection path _ | .symbols path _ => path

/-- How the reader of documents explains a failure, if that is for it to explain. -/
def explanation (explain : String → String) : RunError → String
  | .configuration error => error.explanation explain
  | .file _ | .inspection _ _ | .symbols _ _ => ""

/-- What is said about a failure holds the newlines of the path and of the explanation, and no
others. -/
theorem newlines_message (explain : String → String) (error : RunError) :
    newlines (error.message explain)
      = newlines error.path + newlines (error.explanation explain) := by
  have hcolon : newlines ": " = 0 := rfl
  cases error with
  | configuration error => exact error.newlines_message explain
  | file error =>
    rw [message, newlines_append, newlines_append, error.newlines_message, hcolon,
      error.fault.newlines_message]
    rfl
  | inspection path error =>
    rw [message, newlines_append, newlines_append, newlines_append, newlines_append, hcolon,
      error.newlines_message, error.newlines_cause]
    rfl
  | symbols path error =>
    rw [message, newlines_append, newlines_append, hcolon, error.newlines_message]
    rfl

/-- Only the explanation of a malformed configuration can hold a newline. -/
theorem newlines_explanation_eq_zero_iff {explain : String → String} {error : RunError} :
    newlines (error.explanation explain) = 0 ↔
      ∀ path text, error = .configuration (.malformed path text) →
        '\n' ∉ (explain text).toList := by
  rw [newlines_eq_zero_iff]
  constructor
  · intro hnewline path text herror
    subst herror
    exact hnewline
  · intro hmalformed
    cases error with
    | file | inspection | symbols =>
      show '\n' ∉ "".toList
      decide
    | configuration error =>
      cases error with
      | unreadable =>
        show '\n' ∉ "".toList
        decide
      | malformed path text => exact hmalformed path text rfl

end RunError

namespace Run

variable {files : Files} {environment : Option String} {arguments : ToolArguments} {tool : Tool}
  {settings : Settings} {inspection : Inspection}

/-- The line of a failure has its own newline at the end. -/
theorem newlines_failureLine (explain : String → String) (tool : Tool) (error : RunError) :
    newlines (failureLine explain tool error)
      = newlines error.path + newlines (error.explanation explain) + 1 := by
  have hfront : newlines ": error: " = 0 := rfl
  have hend : newlines "\n" = 1 := rfl
  have hname : newlines tool.name = 0 := by cases tool <;> rfl
  simp [failureLine, hfront, hend, hname, error.newlines_message]

/-! ## How a run ends -/

/-- The paths that a run is told: the file, and the configuration file, if there is one. -/
def paths (environment : Option String) (arguments : ToolArguments) : List String :=
  arguments.file :: (Settings.configurationPath? arguments environment).toList

/-- Whether a tool is asked for the symbols. -/
def asksForSymbols (tool : Tool) (arguments : ToolArguments) : Bool :=
  match tool with
  | .header => arguments.symbols || arguments.all
  | .symbols => true

/-- A tool is asked for the symbols of a file that has been inspected and has no symbol table. -/
def LacksSymbols (tool : Tool) (arguments : ToolArguments)
    (loaded : Except RunError (Settings × Inspection)) : Prop :=
  asksForSymbols tool arguments = true ∧ ∃ settings inspection,
    loaded = .ok (settings, inspection) ∧ inspection.symbols = .error .noSymbolTable

/-- What a run says besides its log, its failure aside, and its outcome. It says nothing and fails,
on account of a file whose path it was told (`failed`). Or it says that there is no symbol table and
succeeds (`noted`). Or it says nothing and succeeds (`reported`). -/
inductive Ends (tool : Tool) (environment : Option String) (arguments : ToolArguments)
    (loaded : Except RunError (Settings × Inspection)) : String → Except RunError Unit → Prop
  | failed {error : RunError} (hpath : error.path ∈ paths environment arguments) :
      Ends tool environment arguments loaded "" (.error error)
  | noted (hlacks : LacksSymbols tool arguments loaded) :
      Ends tool environment arguments loaded missingTableNote (.ok ())
  | reported (hlacks : ¬ LacksSymbols tool arguments loaded) :
      Ends tool environment arguments loaded "" (.ok ())

/-- A run that succeeds to inspect a file inspects the one it was asked for. -/
theorem file_of_load (h : (load files environment arguments).value = .ok (settings, inspection)) :
    settings.file = arguments.file := by
  rw [value_load] at h
  cases hsettings : (Settings.resolve files environment arguments).value with
  | error error =>
    rw [hsettings] at h
    cases h
  | ok found =>
    have hfile := Settings.file_of_resolve hsettings
    rw [hsettings] at h
    dsimp only at h
    split at h
    · cases h
    split at h
    · cases h
    · cases h
      exact hfile

/-- A file that cannot be inspected is told by its path. -/
theorem path_of_load {error : RunError}
    (h : (load files environment arguments).value = .error error) :
    error.path ∈ paths environment arguments := by
  rw [value_load] at h
  cases hsettings : (Settings.resolve files environment arguments).value with
  | error fault =>
    rw [hsettings] at h
    cases h
    refine List.mem_cons_of_mem _ ?_
    rw [Settings.path_of_resolve hsettings]
    exact List.mem_cons_self
  | ok settings =>
    have hfile := Settings.file_of_resolve hsettings
    have hpath : error.path = settings.file := by
      rw [hsettings] at h
      dsimp only at h
      split at h
      case h_1 himage =>
        cases h
        exact Image.path_of_load himage
      split at h
      · cases h
        rfl
      · cases h
    rw [hpath, hfile]
    exact List.mem_cons_self

/-- A tool that is asked for the symbols asks for them, and then writes to the standard output. -/
theorem report_of_asked (filter : Log.Filter) (h : asksForSymbols tool arguments = true) :
    ∃ effects, standardError filter effects = "" ∧
      report tool arguments settings inspection
        = ⟨(symbolsOrNote settings inspection.symbols).emitted ++ effects,
            (symbolsOrNote settings inspection.symbols).value.map fun _ => ()⟩ := by
  cases tool with
  | header => exact ⟨_, rfl, reportHeader_of_wanted h⟩
  | symbols =>
    refine ⟨_, ?_, reportSymbols_eq settings inspection⟩
    cases inspection.symbols <;> rfl

/-- Where the log shows nothing, every run ends in one of three ways. -/
theorem ends_ofTool {filter : Log.Filter} (hfilter : filter.Silent) (tool : Tool) (files : Files)
    (environment : Option String) (arguments : ToolArguments) :
    Ends tool environment arguments (load files environment arguments).value
      (standardError filter (ofTool tool files environment arguments).emitted)
      (ofTool tool files environment arguments).value := by
  cases hload : (load files environment arguments).value with
  | error error =>
    rw [ofTool_of_error hload]
    dsimp only
    rw [standardError_map_log hfilter]
    exact .failed (path_of_load hload)
  | ok loaded =>
    obtain ⟨settings, inspection⟩ := loaded
    rw [ofTool_of_ok hload]
    dsimp only
    rw [standardError_append, standardError_map_log hfilter, String.empty_append]
    cases hasks : asksForSymbols tool arguments with
    | false =>
      cases tool with
      | symbols => cases hasks
      | header =>
        rw [report, reportHeader_of_unwanted hasks]
        exact .reported fun hlacks => Bool.false_ne_true (hasks.symm.trans hlacks.1)
    | true =>
      obtain ⟨effects, heffects, hreport⟩ := report_of_asked filter hasks
      rw [hreport]
      dsimp only
      rw [standardError_append, heffects, String.append_empty]
      rcases symbols_cases inspection.symbols with
        ⟨found, hfound⟩ | habsent | ⟨error, hfatal, hfault⟩
      · rw [hfound]
        refine .reported ?_
        rintro ⟨-, _, _, hloaded, hmissing⟩
        cases hloaded
        rw [hfound] at hmissing
        cases hmissing
      · rw [habsent, symbolsOrNote_missing]
        have hnote : standardError filter
            [.log (.noSymbolTable settings.file), .diagnostic missingTableNote]
              = missingTableNote := by
          simp [errorText, hfilter _]
        rw [hnote]
        exact .noted ⟨hasks, settings, inspection, rfl, habsent⟩
      · rw [hfault, symbolsOrNote_fatal settings hfatal]
        refine .failed ?_
        rw [RunError.path, file_of_load hload]
        exact List.mem_cons_self

end Run

/-! ## Failures -/

/-- Where the log shows nothing, all that is said about a failed run is the name of the tool and the
message of its failure, ended by a newline. This is one line exactly if the path that the failure is
about, one of those that the tool was told, holds no newline, and neither does the explanation of a
malformed configuration. -/
theorem failure_oneLine_iff {words : List String} {tool : Tool} {arguments : ToolArguments}
    {requested : Option String} (h : ToolArguments.parse tool words = .ok arguments)
    (hfilter : (Run.filter requested arguments).Silent) (explain : String → String)
    (files : Files) (environment : Option String) :
    ∃ left, tool.transcript explain files environment requested words = .ok left ∧
      (left.status = 1 → ∃ error,
        (Run.ofTool tool files environment arguments).value = .error error ∧
        left.error = tool.name ++ ": error: " ++ error.message explain ++ "\n" ∧
        error.path ∈ Run.paths environment arguments ∧
        (newlines left.error = 1 ↔ '\n' ∉ error.path.toList ∧
          ∀ path text, error = .configuration (.malformed path text) →
            '\n' ∉ (explain text).toList)) := by
  refine ⟨_, Tool.transcript_eq_ok h, ?_⟩
  have hends := Run.ends_ofTool hfilter tool files environment arguments
  rw [Run.transcript_eq, Run.exitStatus]
  dsimp only
  generalize Run.standardError _ _ = said at hends ⊢
  generalize (Run.ofTool tool files environment arguments).value = outcome at hends ⊢
  cases hends with
  | noted _ =>
    intro hstatus
    cases hstatus
  | reported _ =>
    intro hstatus
    cases hstatus
  | @failed error hpath =>
    intro _
    refine ⟨error, rfl, String.empty_append, hpath, ?_⟩
    rw [Run.verdict, String.empty_append, Run.newlines_failureLine, Nat.add_eq_right,
      Nat.add_eq_zero_iff, newlines_eq_zero_iff, RunError.newlines_explanation_eq_zero_iff]

/-- Arguments for a file that is not there. -/
def Sample.missing (quiet : Bool) : ToolArguments :=
  { Sample.arguments with file := "missing", labels := none, quiet }

/-- A run on a file that is missing fails to open it. -/
theorem Sample.value_missing (tool : Tool) (quiet : Bool) :
    (Run.ofTool tool bareFiles none (missing quiet)).value
      = .error (.file ⟨"missing", .opening, .notFound⟩) := rfl

/-- A file that is missing leaves one line at the standard error. -/
theorem failure_oneLine_missing :
    ToolArguments.parse .header ["missing"] = .ok (Sample.missing false) ∧
    ∃ left,
      Tool.header.transcript Sample.explain Sample.bareFiles none none ["missing"] = .ok left ∧
      left.status = 1 ∧ newlines left.error = 1 := by
  have hparse : ToolArguments.parse .header ["missing"] = .ok (Sample.missing false) := rfl
  obtain ⟨left, hleft, hfails⟩ :=
    failure_oneLine_iff hparse (Run.silent_filter rfl) Sample.explain Sample.bareFiles none
  have hstatus : left.status = 1 := by
    obtain rfl := Except.ok.inj (hleft.symm.trans (Tool.transcript_eq_ok hparse))
    rfl
  obtain ⟨error, hvalue, -, -, hlines⟩ := hfails hstatus
  obtain rfl := Except.error.inj ((Sample.value_missing .header false).symm.trans hvalue)
  refine ⟨hparse, left, hleft, hstatus, hlines.2 ⟨by decide, ?_⟩⟩
  intro path text herror
  cases herror

/-- A path with a newline splits the line, without any log. -/
theorem newline_splits_failure :
    ∃ left,
      Tool.header.transcript Sample.explain Sample.bareFiles none (some "off") ["new\nline"]
        = .ok left ∧
      left.status = 1 ∧
      left.error = "read-elf: error: open new\nline: No such file or directory (os error 2): "
        ++ "No such file or directory (os error 2)\n" ∧
      newlines left.error = 2 :=
  ⟨_, rfl, rfl, rfl, rfl⟩

/-! ## Quiet runs -/

/-- A run that is asked for errors only says why it failed; or, if it succeeds, that there is no
symbol table where it was asked for the symbols of a file without one, and else nothing. -/
theorem quiet_cases {words : List String} {tool : Tool} {arguments : ToolArguments}
    (h : ToolArguments.parse tool words = .ok arguments) (hquiet : arguments.quiet = true)
    (explain : String → String) (files : Files) (environment : Option String) :
    ∃ left, tool.transcript explain files environment none words = .ok left ∧
      ((left.status = 1 ∧ ∃ error,
          (Run.ofTool tool files environment arguments).value = .error error ∧
          left.error = tool.name ++ ": error: " ++ error.message explain ++ "\n") ∨
        (left.status = 0 ∧
          Run.LacksSymbols tool arguments (Run.load files environment arguments).value ∧
          left.error = "Symbol table not found in the ELF file.\n") ∨
        (left.status = 0 ∧
          ¬ Run.LacksSymbols tool arguments (Run.load files environment arguments).value ∧
          left.error = "")) := by
  have hfilter : (Run.filter none arguments).Silent := by
    rw [Run.filter, Run.defaultLevel, hquiet]
    exact Log.Filter.silent_upTo_error
  refine ⟨_, Tool.transcript_eq_ok h, ?_⟩
  have hends := Run.ends_ofTool hfilter tool files environment arguments
  rw [Run.transcript_eq, Run.exitStatus]
  dsimp only
  generalize Run.standardError _ _ = said at hends ⊢
  generalize (Run.ofTool tool files environment arguments).value = outcome at hends ⊢
  cases hends with
  | @failed error _ => exact .inl ⟨rfl, error, rfl, String.empty_append⟩
  | noted hlacks => exact .inr (.inl ⟨rfl, hlacks, String.append_empty⟩)
  | reported hlacks => exact .inr (.inr ⟨rfl, hlacks, String.append_empty⟩)

/-- A quiet run says no more of a missing file than that it is missing. -/
theorem quiet_missing :
    ToolArguments.parse .symbols ["-q", "missing"] = .ok (Sample.missing true) ∧
    ∃ left,
      Tool.symbols.transcript Sample.explain Sample.bareFiles none none ["-q", "missing"]
        = .ok left ∧
      left.status = 1 ∧
      left.error = "read-symtab: error: open missing: No such file or directory (os error 2): "
        ++ "No such file or directory (os error 2)\n" := by
  have hparse : ToolArguments.parse .symbols ["-q", "missing"] = .ok (Sample.missing true) := rfl
  obtain ⟨left, hleft, hcases⟩ := quiet_cases hparse rfl Sample.explain Sample.bareFiles none
  have hstatus : left.status = 1 := by
    obtain rfl := Except.ok.inj (hleft.symm.trans (Tool.transcript_eq_ok hparse))
    rfl
  refine ⟨hparse, left, hleft, hstatus, ?_⟩
  rcases hcases with ⟨-, error, hvalue, herror⟩ | ⟨hzero, -⟩ | ⟨hzero, -⟩
  · obtain rfl := Except.error.inj ((Sample.value_missing .symbols true).symm.trans hvalue)
    exact herror
  · cases hstatus.symm.trans hzero
  · cases hstatus.symm.trans hzero

/-- The note about a missing symbol table is printed in a quiet run, too. -/
theorem note_despite_quiet :
    ∃ left,
      Tool.symbols.transcript Sample.explain Sample.bareFiles none none ["-q", "bare"]
        = .ok left ∧
      left.status = 0 ∧ left.error = "Symbol table not found in the ELF file.\n" :=
  ⟨_, rfl, rfl, rfl⟩

end ElfScope
