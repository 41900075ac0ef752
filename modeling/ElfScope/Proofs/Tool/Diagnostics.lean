import ElfScope.Proofs.CommandLine.Tool
import ElfScope.Proofs.Settings
import ElfScope.Proofs.Tool.Run
import Mathlib.Data.List.Basic

/-!
# What diagnostics leave alone

How much of the log is shown and how the file is read have no say in what is reported
(`reports_alike`). Whichever way the file is read, the same inspection of it is reported on, or none
(`Run.load_alike`). The log itself is the same for all command lines that read the file in the same
way, and a filter up to a less important level shows more of it (`Run.printedEvents_sublist`).
-/

namespace ElfScope

/-! ## Arguments -/

/-- Two runs are asked for the same report: their arguments agree, up to what is shown of the log
and how the file is read. They name the same file and the same configuration file, or none; they
choose the same label style, or none; and both ask for the sections, the symbols or everything, or
neither does. -/
structure ToolArguments.SameReport (first second : ToolArguments) : Prop where
  file : first.file = second.file
  config : first.config = second.config
  labels : first.labels = second.labels
  sections : first.sections = second.sections
  symbols : first.symbols = second.symbols
  all : first.all = second.all

/-- How much of the log is asked for: least where errors only are, and more with every request for
more. -/
def ToolArguments.verbosity (arguments : ToolArguments) : Nat :=
  if arguments.quiet then 0 else arguments.verbose + 1

/-- Arguments for the same report that read the file in the same way differ in what is shown of the
log only. -/
theorem ToolArguments.SameReport.eq_with {first second : ToolArguments}
    (h : first.SameReport second) (hbuffered : first.buffered = second.buffered) :
    first = { second with quiet := first.quiet, verbose := first.verbose } := by
  obtain ⟨hfile, hconfig, hlabels, hsections, hsymbols, hall⟩ := h
  cases first
  cases second
  simp_all

namespace Run

variable {files : Files} {environment : Option String} {first second : ToolArguments} {tool : Tool}

/-! ## Two ways to an inspection -/

/-- Two ways to an inspection come to the same. Both fail, though perhaps for different reasons,
since a directory is mapped in vain or read in vain (`failed`). Or both find the same in the same
file (`loaded`). -/
inductive LoadedAlike :
    Except RunError (Settings × Inspection) → Except RunError (Settings × Inspection) → Prop
  | failed {error other : RunError} : LoadedAlike (.error error) (.error other)
  | loaded {settings other : Settings} {inspection : Inspection}
      (hfile : settings.file = other.file) :
      LoadedAlike (.ok (settings, inspection)) (.ok (other, inspection))

/-- Arguments for the same report lead to the same inspection. -/
theorem load_alike (h : first.SameReport second) :
    LoadedAlike (load files environment first).value (load files environment second).value := by
  have hpath : Settings.configurationPath? first environment
      = Settings.configurationPath? second environment := by
    rw [Settings.configurationPath?, h.config, Settings.configurationPath?]
  rw [value_load, value_load, Settings.value_resolve, Settings.value_resolve, hpath]
  cases Settings.configuration files (Settings.configurationPath? second environment) with
  | error error => exact .failed
  | ok configuration =>
    have hfile : (Settings.merge first configuration).file
        = (Settings.merge second configuration).file := h.file
    have hlabels : (Settings.merge first configuration).labels
        = (Settings.merge second configuration).labels := by
      rw [Settings.merge, h.labels, Settings.merge]
    simp only [Except.map]
    rw [hfile, hlabels]
    generalize (Settings.merge first configuration).readMode = mode
    generalize (Settings.merge second configuration).readMode = otherMode
    by_cases hentry : ∃ contents,
        files.entry (Settings.merge second configuration).file = .ok (.file contents)
    · obtain ⟨contents, hentry⟩ := hentry
      obtain ⟨image, himage, hbytes⟩ := Image.load_file hentry mode
      obtain ⟨other, hother, hotherBytes⟩ := Image.load_file hentry otherMode
      rw [himage, hother]
      dsimp only
      rw [hbytes, hotherBytes]
      cases (inspect contents (Settings.merge second configuration).labels).value with
      | error error => exact .failed
      | ok inspection => exact .loaded hfile
    · obtain ⟨error, herror, -⟩ := Image.load_fails (not_exists.1 hentry) mode
      obtain ⟨other, hother, -⟩ := Image.load_fails (not_exists.1 hentry) otherMode
      rw [herror, hother]
      exact .failed

/-- Of the settings, a report is told the file only. -/
theorem report_congr {settings other : Settings} (inspection : Inspection)
    (h : first.SameReport second) (hfile : settings.file = other.file) :
    report tool first settings inspection = report tool second other inspection := by
  have hsymbols : symbolsOrNote settings = symbolsOrNote other := by
    funext symbols
    rcases symbols_cases symbols with ⟨found, rfl⟩ | rfl | ⟨error, hfatal, rfl⟩
    · rfl
    · rw [symbolsOrNote_missing, symbolsOrNote_missing, hfile]
    · rw [symbolsOrNote_fatal settings hfatal, symbolsOrNote_fatal other hfatal, hfile]
  cases tool with
  | header =>
    simp only [report, reportHeader, wantedSymbols, hsymbols, h.sections, h.symbols, h.all]
  | symbols => simp only [report, reportSymbols, hsymbols]

/-- Runs that are asked for the same report write the same and succeed or fail alike. -/
theorem ofTool_alike (tool : Tool) (files : Files) (environment : Option String)
    (h : first.SameReport second) :
    standardOutput (ofTool tool files environment first).emitted
        = standardOutput (ofTool tool files environment second).emitted ∧
      exitStatus (ofTool tool files environment first)
        = exitStatus (ofTool tool files environment second) := by
  have halike : LoadedAlike (load files environment first).value
      (load files environment second).value := load_alike h
  generalize hfirst : (load files environment first).value = loaded at halike
  generalize hsecond : (load files environment second).value = otherLoaded at halike
  cases halike with
  | failed =>
    rw [ofTool_of_error hfirst, ofTool_of_error hsecond]
    dsimp only
    rw [standardOutput_map_log, standardOutput_map_log]
    exact ⟨rfl, rfl⟩
  | loaded hfile =>
    rw [ofTool_of_ok hfirst, ofTool_of_ok hsecond, report_congr _ h hfile]
    dsimp only
    rw [standardOutput_append, standardOutput_append, standardOutput_map_log,
      standardOutput_map_log]
    exact ⟨rfl, rfl⟩

/-! ## The log -/

/-- The events among some effects. -/
def loggedEvents (effects : List Effect) : List Event :=
  effects.filterMap fun
    | .log event => some event
    | .output _ | .diagnostic _ => none

/-- The events that a filter shows of some effects, in order. Their lines are what is printed of the
log (`standardError_logs`). -/
def printedEvents (filter : Log.Filter) (effects : List Effect) : List Event :=
  (loggedEvents effects).filter filter.shows

/-- A filter up to a less important level leaves nothing out that another one shows. -/
theorem printedEvents_sublist {level other : Level} (h : level.rank ≤ other.rank)
    (effects : List Effect) :
    (printedEvents (Log.Filter.upTo level) effects).Sublist
      (printedEvents (Log.Filter.upTo other) effects) := by
  apply List.monotone_filter_right
  intro event hshows
  have hrank : event.level.rank ≤ level.rank := of_decide_eq_true hshows
  exact decide_eq_true (Nat.le_trans hrank h)

/-- The more of the log is asked for, the less important the events that are shown. -/
theorem defaultLevel_mono (h : first.verbosity ≤ second.verbosity) :
    (defaultLevel first).rank ≤ (defaultLevel second).rank := by
  -- The level for information is passed over, so the ranks are 1, 2, 4 and from then on 5.
  have hrank (arguments : ToolArguments) : (defaultLevel arguments).rank
      = if arguments.verbosity ≤ 1 then arguments.verbosity + 1
        else min arguments.verbosity 3 + 2 := by
    unfold ToolArguments.verbosity defaultLevel
    cases arguments.quiet with
    | true => rfl
    | false =>
      match arguments.verbose with
      | 0 | 1 => rfl
      | verbose + 2 => simp [Level.rank]
  rw [hrank, hrank]
  split <;> split <;> omega

/-- From the second step on, all of the log is shown. -/
theorem filter_of_verbose {words : List String} {arguments : ToolArguments}
    (h : ToolArguments.parse tool words = .ok arguments) (hverbose : 2 ≤ arguments.verbose) :
    filter none arguments = Log.Filter.upTo .trace := by
  have hquiet : arguments.quiet = false := ToolArguments.quiet_eq_false_of_parse h (by omega)
  obtain ⟨steps, hsteps⟩ := Nat.exists_eq_add_of_le' hverbose
  rw [filter, defaultLevel, hquiet, hsteps]
  rfl

/-- The log does not depend on how much of it is shown. -/
theorem ofTool_congr (tool : Tool) (files : Files) (environment : Option String)
    (h : first.SameReport second) (hbuffered : first.buffered = second.buffered) :
    ofTool tool files environment first = ofTool tool files environment second := by
  rw [h.eq_with hbuffered]
  rfl

end Run

/-! ## Command lines -/

/-- The events of the log that a tool prints that is run with some arguments. -/
def Tool.printedEvents (tool : Tool) (explain : String → String) (files : Files)
    (environment requested : Option String) (arguments : ToolArguments) : List Event :=
  Run.printedEvents (Run.filter requested arguments)
    (Run.effects explain tool (Run.ofTool tool files environment arguments))

/-- Command lines that ask for the same report get the same report and the same exit status, however
the file is read, since both ways give its contents, and whatever is shown of the log. If they read
it in the same way and request no filter, the more verbose one prints whatever of the log the other
one prints, and two that are made more verbose twice or more often print the same. -/
theorem reports_alike {words otherWords : List String} {tool : Tool}
    {first second : ToolArguments} (h : ToolArguments.parse tool words = .ok first)
    (hother : ToolArguments.parse tool otherWords = .ok second) (hsame : first.SameReport second)
    (explain : String → String) (files : Files) (environment : Option String) :
    (∀ requested otherRequested, ∃ left otherLeft,
      tool.transcript explain files environment requested words = .ok left ∧
      tool.transcript explain files environment otherRequested otherWords = .ok otherLeft ∧
      left.output = otherLeft.output ∧ left.status = otherLeft.status) ∧
    (∀ contents, files.entry first.file = .ok (.file contents) → ∀ mode, ∃ image,
      (Image.load files first.file mode).value = .ok image ∧ image.bytes = contents) ∧
    (first.buffered = second.buffered →
      (first.verbosity ≤ second.verbosity →
        (tool.printedEvents explain files environment none first).Sublist
          (tool.printedEvents explain files environment none second)) ∧
      (2 ≤ first.verbose → 2 ≤ second.verbose →
        tool.printedEvents explain files environment none first
          = tool.printedEvents explain files environment none second)) := by
  refine ⟨fun requested otherRequested => ?_, fun contents hentry mode => ?_,
    fun hbuffered => ⟨fun hverbosity => ?_, fun hverbose hotherVerbose => ?_⟩⟩
  · refine ⟨_, _, Tool.transcript_eq_ok h, Tool.transcript_eq_ok hother, ?_⟩
    rw [Run.transcript_output, Run.transcript_output]
    exact Run.ofTool_alike tool files environment hsame
  · exact Image.load_file hentry mode
  · rw [Tool.printedEvents, Run.ofTool_congr tool files environment hsame hbuffered]
    exact Run.printedEvents_sublist (Run.defaultLevel_mono hverbosity) _
  · rw [Tool.printedEvents, Tool.printedEvents, Run.filter_of_verbose h hverbose,
      Run.filter_of_verbose hother hotherVerbose,
      Run.ofTool_congr tool files environment hsame hbuffered]

/-- Arguments for the bare file. -/
def Sample.asking (quiet buffered : Bool) (verbose : Nat) : ToolArguments :=
  { Sample.arguments with
    file := "bare", labels := none, symbols := true, quiet, buffered, verbose }

/-- The events that the header tool prints about the bare file. -/
def Sample.printedEvents (arguments : ToolArguments) : List Event :=
  Tool.header.printedEvents explain bareFiles none none arguments

/-- The header of the bare file is reported in the same way with a log and without one. -/
theorem reports_alike_bare :
    ToolArguments.parse .header ["-qs", "bare"] = .ok (Sample.asking true false 0) ∧
    ToolArguments.parse .header ["-v", "-s", "-v", "bare"] = .ok (Sample.asking false false 2) ∧
    ToolArguments.parse .header ["--buffered", "-svvv", "bare"]
      = .ok (Sample.asking false true 3) ∧
    (∃ left other,
      Tool.header.transcript Sample.explain Sample.bareFiles none none ["-qs", "bare"] = .ok left ∧
      Tool.header.transcript Sample.explain Sample.bareFiles none (some "off")
          ["--buffered", "-svvv", "bare"] = .ok other ∧
      left.output = other.output ∧ left.status = other.status) ∧
    (Sample.printedEvents (Sample.asking true false 0)).Sublist
      (Sample.printedEvents (Sample.asking false false 2)) ∧
    (Sample.printedEvents (Sample.asking true false 0)).length = 0 ∧
    (Sample.printedEvents (Sample.asking false false 2)).length = 6 := by
  have hquiet : ToolArguments.parse .header ["-qs", "bare"] = .ok (Sample.asking true false 0) :=
    rfl
  have hverbose : ToolArguments.parse .header ["-v", "-s", "-v", "bare"]
      = .ok (Sample.asking false false 2) := rfl
  have hbuffered : ToolArguments.parse .header ["--buffered", "-svvv", "bare"]
      = .ok (Sample.asking false true 3) := rfl
  have hsame (quiet buffered otherBuffered : Bool) (verbose otherVerbose : Nat) :
      (Sample.asking quiet buffered verbose).SameReport
        (Sample.asking false otherBuffered otherVerbose) :=
    ⟨rfl, rfl, rfl, rfl, rfl, rfl⟩
  obtain ⟨houtput, -, -⟩ :=
    reports_alike hquiet hbuffered (hsame ..) Sample.explain Sample.bareFiles none
  obtain ⟨-, -, hlog⟩ :=
    reports_alike hquiet hverbose (hsame ..) Sample.explain Sample.bareFiles none
  exact ⟨hquiet, hverbose, hbuffered, houtput none (some "off"), (hlog rfl).1 (by decide), rfl, rfl⟩

end ElfScope
