import ElfScope.Proofs.CommandLine.Tool
import ElfScope.Proofs.Report
import ElfScope.Proofs.Tool.Run

/-!
# Two views of the symbols

The header tool that is asked for the symbols and the symbol tool tell the same story about a file:
the symbols behind the header, and the symbols alone (`views_of_parse`). They inspect the file in
the same way and ask for the symbols in the same way, so their logs, their notes and their failures
are the same, and each failure is told under the name of the tool.
-/

namespace ElfScope

/-- What is left of the header tool without symbols (`plain`), of the header tool with symbols
(`both`) and of the symbol tool (`alone`) that were run on the same file, which was `loaded`.

The exit status is the same (`status`), and what is said is the same, the name of the tool in front
of a failure aside (`error`). Symbols that were found stand behind the header, and alone (`found`);
where there are none, the header is all that is reported (`missing`). A file that cannot be
inspected is not reported on (`unloaded`). -/
structure Views (explain : String → String) (loaded : Except RunError (Settings × Inspection))
    (plain both alone : Transcript) : Prop where
  status : both.status = alone.status
  error : (both.status = 0 ∧ both.error = alone.error) ∨
    (both.status = 1 ∧ ∃ notes failure,
      both.error = notes ++ ("read-elf: error: " ++ RunError.message explain failure ++ "\n") ∧
      alone.error = notes ++ ("read-symtab: error: " ++ RunError.message explain failure ++ "\n"))
  found : ∀ settings inspection symbols, loaded = .ok (settings, inspection) →
    inspection.symbols = .ok symbols → both.output = plain.output ++ "\n" ++ alone.output
  missing : ∀ settings inspection error, loaded = .ok (settings, inspection) →
    inspection.symbols = .error error → alone.output = "" ∧ both.output = plain.output
  unloaded : ∀ error, loaded = .error error → both.output = "" ∧ alone.output = ""

namespace Run

variable {explain : String → String} {files : Files} {environment : Option String}
  {arguments : ToolArguments} {settings : Settings} {inspection : Inspection}

/-- Two tools that say the same up to their failure, and fail for the same reason if they fail, say
the same, their names in front of the failure aside. -/
theorem error_alike {filter : Log.Filter} {first second : Run}
    (hnotes : standardError filter first.emitted = standardError filter second.emitted)
    (hvalue : first.value = second.value) :
    ((transcript explain .header filter first).status = 0 ∧
      (transcript explain .header filter first).error
        = (transcript explain .symbols filter second).error) ∨
    ((transcript explain .header filter first).status = 1 ∧ ∃ notes failure,
      (transcript explain .header filter first).error
        = notes ++ ("read-elf: error: " ++ RunError.message explain failure ++ "\n") ∧
      (transcript explain .symbols filter second).error
        = notes ++ ("read-symtab: error: " ++ RunError.message explain failure ++ "\n")) := by
  rw [transcript_eq, transcript_eq, ← hnotes, ← hvalue, exitStatus]
  dsimp only
  cases first.value with
  | ok => exact .inl ⟨rfl, rfl⟩
  | error failure => exact .inr ⟨rfl, _, failure, rfl, rfl⟩

/-- The views of a file that cannot be inspected. -/
theorem views_of_error (explain : String → String) (filter : Log.Filter) {error : RunError}
    (h : (load files environment arguments).value = .error error) :
    Views explain (.error error)
      (transcript explain .header filter (ofTool .header files environment arguments))
      (transcript explain .header filter
        (ofTool .header files environment (arguments.choosing [.symbols])))
      (transcript explain .symbols filter (ofTool .symbols files environment arguments)) := by
  have hload : load files environment (arguments.choosing [.symbols])
      = load files environment arguments := load_parts ..
  have hboth : (load files environment (arguments.choosing [.symbols])).value = .error error :=
    hload.symm ▸ h
  rw [ofTool_of_error hboth, ofTool_of_error h, ofTool_of_error h, hload]
  constructor
  case status => rfl
  case error => exact error_alike rfl rfl
  case found =>
    intro _ _ _ hloaded
    cases hloaded
  case missing =>
    intro _ _ _ hloaded
    cases hloaded
  case unloaded =>
    intro fault _
    rw [transcript_output, transcript_output]
    exact ⟨standardOutput_map_log _, standardOutput_map_log _⟩

/-- The views of a file that was inspected. -/
theorem views_of_ok (explain : String → String) (filter : Log.Filter)
    (hsymbols : (arguments.symbols || arguments.all) = false)
    (h : (load files environment arguments).value = .ok (settings, inspection)) :
    Views explain (.ok (settings, inspection))
      (transcript explain .header filter (ofTool .header files environment arguments))
      (transcript explain .header filter
        (ofTool .header files environment (arguments.choosing [.symbols])))
      (transcript explain .symbols filter (ofTool .symbols files environment arguments)) := by
  have hload : load files environment (arguments.choosing [.symbols])
      = load files environment arguments := load_parts ..
  have hboth : (load files environment (arguments.choosing [.symbols])).value
      = .ok (settings, inspection) := hload.symm ▸ h
  have hsections : reportedSections (arguments.choosing [.symbols]) inspection
      = reportedSections arguments inspection := rfl
  rw [ofTool_header_of_unwanted hsymbols h, ofTool_header_of_wanted rfl hboth, ofTool_symbols h,
    hload, hsections]
  constructor
  case status => rfl
  case error =>
    refine error_alike ?_ rfl
    -- Behind the notes there are reports only, and these go to the standard output.
    have hreport : standardError filter (symbolReport inspection.symbols) = "" := by
      cases inspection.symbols <;> rfl
    simp [hreport, errorText]
  case found =>
    intro _ _ symbols hloaded hfound
    cases hloaded
    simp [transcript_output, standardOutput_symbolsOrNote, hfound, outputText, symbolReport,
      Except.toOption, Report.full_some_symbols]
  case missing =>
    intro _ _ error hloaded hmissing
    cases hloaded
    simp [transcript_output, standardOutput_symbolsOrNote, hmissing, outputText, symbolReport,
      Except.toOption]
  case unloaded =>
    intro _ hloaded
    cases hloaded

end Run

/-- The header tool that is asked for the symbols and the symbol tool are two views of the same
symbols, on any words that the symbol tool accepts: the header tool accepts these words, too, with
the same meaning, and the option `-s` in front of them or any other way to ask for the symbols. -/
theorem views_of_parse {words : List String} {arguments : ToolArguments}
    (h : ToolArguments.parse .symbols words = .ok arguments) (explain : String → String)
    (files : Files) (environment requested : Option String) :
    ∃ plain both alone,
      Tool.header.transcript explain files environment requested words = .ok plain ∧
      Tool.header.transcript explain files environment requested ("-s" :: words) = .ok both ∧
      (∀ asking, ToolArguments.parse .header asking = .ok (arguments.choosing [.symbols]) →
        Tool.header.transcript explain files environment requested asking = .ok both) ∧
      Tool.symbols.transcript explain files environment requested words = .ok alone ∧
      Views explain (Run.load files environment arguments).value plain both alone := by
  obtain ⟨-, hsymbols, hall⟩ := ToolArguments.parts_of_parse_symbols h
  have hunwanted : (arguments.symbols || arguments.all) = false := by rw [hsymbols, hall]; rfl
  refine ⟨_, _, _, Tool.transcript_eq_ok (ToolArguments.parse_header_of_symbols h),
    Tool.transcript_eq_ok (ToolArguments.parse_header_symbols h),
    fun asking hasking => Tool.transcript_eq_ok hasking, Tool.transcript_eq_ok h, ?_⟩
  cases hload : (Run.load files environment arguments).value with
  | error error => exact Run.views_of_error explain _ hload
  | ok loaded => exact Run.views_of_ok explain _ hunwanted hload

/-- The symbol of the sample is seen twice. -/
theorem views_sample :
    ToolArguments.parse .symbols ["--labels=full", "sample"] = .ok Sample.arguments ∧
    ∃ plain both alone,
      Tool.header.transcript Sample.explain Sample.files none none ["--labels=full", "sample"]
        = .ok plain ∧
      Tool.header.transcript Sample.explain Sample.files none none ["-s", "--labels=full", "sample"]
        = .ok both ∧
      Tool.symbols.transcript Sample.explain Sample.files none none ["--labels=full", "sample"]
        = .ok alone ∧
      both.output = plain.output ++ "\n" ++ alone.output ∧ both.status = alone.status := by
  have hparse : ToolArguments.parse .symbols ["--labels=full", "sample"] = .ok Sample.arguments :=
    rfl
  obtain ⟨plain, both, alone, hplain, hboth, -, halone, hviews⟩ :=
    views_of_parse hparse Sample.explain Sample.files none none
  obtain ⟨inspection, hload, hsymbols⟩ := Sample.load_eq
  exact ⟨hparse, plain, both, alone, hplain, hboth, halone,
    hviews.found _ _ _ hload hsymbols, hviews.status⟩

end ElfScope
