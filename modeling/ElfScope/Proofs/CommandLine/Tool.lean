import ElfScope.CommandLine.Tool
import ElfScope.Proofs.CommandLine.Grammar

/-!
# Command lines of both tools

The header tool accepts whatever the symbol tool accepts, and finds the same arguments there. An
option in front that asks for a part of the report asks for that part and for nothing else
(`parse_header_choosing`).
-/

namespace ElfScope

open CommandLine (State Match Grammar)

/-- The options that choose the parts of the report. -/
def Tool.parts : List ToolOption :=
  partOptions.map (·.tag)

namespace ToolArguments

/-- The arguments, and some parts of the report chosen besides. -/
def choosing (chosen : List ToolOption) (arguments : ToolArguments) : ToolArguments :=
  { arguments with
    sections := chosen.contains .sections || arguments.sections
    symbols := chosen.contains .symbols || arguments.symbols
    all := chosen.contains .all || arguments.all }

variable {chosen : List ToolOption} {found : List (Match ToolOption)} {arguments : ToolArguments}
  {words : List String}

/-! ## Matches behind options -/

/-- An option is set by chosen parts and what is found if it is one of them or is set by what is
found. -/
theorem any_sets_options (chosen : List ToolOption) (found : List (Match ToolOption))
    (tag : ToolOption) :
    (chosen.map Match.option ++ found).any (Match.sets tag)
      = (chosen.contains tag || found.any (Match.sets tag)) := by
  rw [List.any_append, List.any_map, List.contains_eq_any_beq]
  congr 2
  funext option
  exact Bool.beq_comm

/-- Chosen parts change nothing about how often another option is set. -/
theorem countP_sets_options {tag : ToolOption} (h : tag ∉ chosen) :
    (chosen.map Match.option ++ found).countP (Match.sets tag) = found.countP (Match.sets tag) := by
  rw [List.countP_append, List.countP_map, Nat.add_eq_right, List.countP_eq_zero]
  intro option hmem hsets
  exact h (beq_iff_eq.1 hsets ▸ hmem)

/-- Chosen parts are no ordinary words. -/
theorem operand?_options (chosen : List ToolOption) (found : List (Match ToolOption)) :
    operand? (chosen.map .option ++ found) = operand? found := by
  induction chosen with
  | nil => rfl
  | cons option rest ih => exact ih

/-- Chosen parts have no values. -/
theorem value?_options (tag : ToolOption) (chosen : List ToolOption)
    (found : List (Match ToolOption)) :
    value? tag (chosen.map .option ++ found) = value? tag found := by
  induction chosen with
  | nil => rfl
  | cons option rest ih => exact ih

/-- Parts that are chosen in front are chosen, and everything else is as it was. -/
theorem ofMatches_choosing (h : ∀ option ∈ chosen, option ∈ Tool.parts) :
    ofMatches (chosen.map .option ++ found) = (ofMatches found).map (choosing chosen) := by
  have hother : ∀ tag ∉ Tool.parts, tag ∉ chosen := fun tag htag hmem => htag (h tag hmem)
  have hquiet : chosen.contains .quiet = false := by simpa using hother .quiet (by decide)
  have hbuffered : chosen.contains .buffered = false := by simpa using hother .buffered (by decide)
  unfold ofMatches
  dsimp only
  simp only [any_sets_options, hquiet, hbuffered, countP_sets_options (hother .verbose (by decide)),
    operand?_options, value?_options, Bool.false_or]
  split
  · rfl
  · cases operand? found <;> rfl

/-- Parts are chosen by the options that choose them. -/
theorem parts_of_ofMatches (h : ofMatches found = .ok arguments) :
    arguments.sections = found.any (Match.sets .sections) ∧
      arguments.symbols = found.any (Match.sets .symbols) ∧
      arguments.all = found.any (Match.sets .all) := by
  unfold ofMatches at h
  dsimp only at h
  split at h
  · cases h
  · cases hword : operand? found with
    | none =>
      rw [hword] at h
      cases h
    | some file =>
      rw [hword] at h
      cases h
      exact ⟨rfl, rfl, rfl⟩

/-! ## Command lines -/

/-- Whatever the symbol tool understands, the header tool understands behind options for parts of
the report. -/
theorem header_extends_symbols (h : ∀ option ∈ chosen, option ∈ Tool.parts) :
    Grammar.Extends (chosen.map .option).reverse Tool.symbols.grammar Tool.header.grammar where
  operands := rfl
  find test spec hfind := by
    change (Tool.sharedOptions ++ Tool.partOptions).find? test = some spec
    change Tool.sharedOptions.find? test = some spec at hfind
    rw [List.find?_append, hfind, Option.some_or]
  apart spec hspec := by
    have hother : ∀ spec ∈ Tool.sharedOptions, spec.tag ∉ Tool.parts := by decide
    rw [List.any_reverse, ← List.append_nil (chosen.map _), any_sets_options, List.any_nil,
      Bool.or_false]
    simpa using fun hmem => hother spec hspec (h spec.tag hmem)

/-- Arguments come from what the grammar of a tool finds in the words. -/
theorem parse_eq_ok {tool : Tool} (h : parse tool words = .ok arguments) :
    ∃ found, tool.grammar.parse words = .ok found ∧ ofMatches found = .ok arguments := by
  cases hfound : tool.grammar.parse words with
  | error error =>
    rw [parse, hfound] at h
    cases h
  | ok found =>
    rw [parse, hfound] at h
    exact ⟨found, rfl, h⟩

/-- The log is not made quiet and verbose at once. -/
theorem quiet_eq_false_of_parse {tool : Tool} (h : parse tool words = .ok arguments)
    (hverbose : arguments.verbose ≠ 0) : arguments.quiet = false := by
  obtain ⟨found, -, hfound⟩ := parse_eq_ok h
  unfold ofMatches at hfound
  dsimp only at hfound
  split at hfound
  case isTrue => cases hfound
  case isFalse hconflict =>
    cases hword : operand? found with
    | none =>
      rw [hword] at hfound
      cases hfound
    | some file =>
      rw [hword] at hfound
      cases hfound
      have hcount : found.countP (Match.sets .verbose) ≠ 0 := fun hzero =>
        hverbose (by rw [hzero, Nat.zero_min])
      rw [decide_eq_true hcount, Bool.and_true, Bool.not_eq_true] at hconflict
      exact hconflict

/-- The symbol tool cannot be asked for parts of the report. -/
theorem parts_of_parse_symbols (h : parse .symbols words = .ok arguments) :
    arguments.sections = false ∧ arguments.symbols = false ∧ arguments.all = false := by
  obtain ⟨found, hwords, hfound⟩ := parse_eq_ok h
  obtain ⟨hsections, hsymbols, hall⟩ := parts_of_ofMatches hfound
  have hextends := header_extends_symbols fun _ (hmem : _ ∈ Tool.parts) => hmem
  have hapart := (hextends.parse_behind hwords).2
  rw [hsections, hsymbols, hall]
  exact ⟨hapart .sections (by decide), hapart .symbols (by decide), hapart .all (by decide)⟩

/-- Words behind the options for some parts of the report mean the same to the header tool as to the
symbol tool, and those parts are chosen. -/
theorem parse_header_choosing (front : List String) (chosen : List ToolOption)
    (hparts : ∀ option ∈ chosen, option ∈ Tool.parts)
    (hfront : Tool.header.grammar.read State.initial (front ++ words)
      = Tool.header.grammar.read (State.initial.behind (chosen.map .option).reverse) words)
    (h : parse .symbols words = .ok arguments) :
    parse .header (front ++ words) = .ok (arguments.choosing chosen) := by
  obtain ⟨found, hwords, hfound⟩ := parse_eq_ok h
  obtain ⟨hread, -⟩ := (header_extends_symbols hparts).parse_behind hwords
  rw [← hfront, ← Grammar.parse_eq, List.reverse_reverse] at hread
  rw [parse, hread]
  change ofMatches (chosen.map .option ++ found) = _
  rw [ofMatches_choosing hparts, hfound]
  rfl

/-- Shared words are understood by the header tool in the same way. -/
theorem parse_header_of_symbols (h : parse .symbols words = .ok arguments) :
    parse .header words = .ok arguments :=
  parse_header_choosing [] [] (by decide) rfl h

/-- The header tool can be asked for the symbols in front of shared words. -/
theorem parse_header_symbols (h : parse .symbols words = .ok arguments) :
    parse .header ("-s" :: words) = .ok (arguments.choosing [.symbols]) :=
  parse_header_choosing ["-s"] [.symbols] (by decide) rfl h

/-- The header tool can be asked for the sections and the symbols in front of shared words. -/
theorem parse_header_sections_symbols (h : parse .symbols words = .ok arguments) :
    parse .header ("-S" :: "-s" :: words) = .ok (arguments.choosing [.sections, .symbols]) :=
  parse_header_choosing ["-S", "-s"] [.sections, .symbols] (by decide) rfl h

/-- The header tool can be asked for everything in front of shared words. -/
theorem parse_header_all (h : parse .symbols words = .ok arguments) :
    parse .header ("-a" :: words) = .ok (arguments.choosing [.all]) :=
  parse_header_choosing ["-a"] [.all] (by decide) rfl h

end ToolArguments

end ElfScope
