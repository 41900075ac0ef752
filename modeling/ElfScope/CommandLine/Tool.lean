import ElfScope.CommandLine.Grammar
import ElfScope.Symbol.Label

/-!
# The tools and their arguments

Two tools read a file: one reports the header and, if asked, the sections and the symbols; the
other reports the symbols. Both share their options, and the first has three more.
-/

namespace ElfScope

open CommandLine (UsageError Grammar OptionSpec Match)

/-- A tool: one reports the header, and the sections and the symbols if asked (`header`), and the
other the symbols (`symbols`). -/
inductive Tool where
  | header
  | symbols
  deriving DecidableEq, Repr

/-- What an option of a tool is about: the configuration file, the label style, reading the file
into a buffer, showing errors only (`quiet`) or more of the log (`verbose`), reporting the sections,
the symbols or everything, help, or the version. -/
inductive ToolOption where
  | config
  | labels
  | buffered
  | quiet
  | verbose
  | sections
  | symbols
  | all
  | help
  | version
  deriving DecidableEq, Repr

/-- The arguments of a tool: the file to report on, the configuration file and the label style if
they are given, whether the file is read into a buffer (`buffered`), whether only errors are shown
(`quiet`), how much more of the log is shown (`verbose`), and whether the sections, the symbols or
everything is reported (`sections`, `symbols`, `all`). -/
structure ToolArguments where
  file : String
  config : Option String
  labels : Option LabelMode
  buffered : Bool
  quiet : Bool
  verbose : Nat
  sections : Bool
  symbols : Bool
  all : Bool
  deriving DecidableEq, Repr

/-- The label style of a name. -/
def LabelMode.ofName? : String → Option LabelMode
  | "compat" => some .compat
  | "full" => some .full
  | _ => none

/-- The name of a label style. -/
def LabelMode.name : LabelMode → String
  | .compat => "compat"
  | .full => "full"

namespace Tool

/-- The name of a tool. -/
def name : Tool → String
  | .header => "read-elf"
  | .symbols => "read-symtab"

/-- What a tool says about its version. -/
def versionLine (tool : Tool) : String :=
  tool.name ++ " 0.1.0\n"

/-- Whether a path is given at all. -/
def isPath (path : String) : Bool :=
  path ≠ ""

/-- Whether a word names a label style. -/
def isLabelMode (word : String) : Bool :=
  (LabelMode.ofName? word).isSome

/-- The options of both tools. -/
def sharedOptions : List (OptionSpec ToolOption) := [
  ⟨.config, "config", none, .value isPath⟩,
  ⟨.labels, "labels", none, .value isLabelMode⟩,
  ⟨.buffered, "buffered", none, .flag⟩,
  ⟨.quiet, "quiet", some 'q', .flag⟩,
  ⟨.verbose, "verbose", some 'v', .counter⟩,
  ⟨.help, "help", some 'h', .stop .help⟩,
  ⟨.version, "version", some 'V', .stop .version⟩]

/-- The options that choose the parts of the report. -/
def partOptions : List (OptionSpec ToolOption) := [
  ⟨.sections, "sections", some 'S', .flag⟩,
  ⟨.symbols, "symbols", some 's', .flag⟩,
  ⟨.all, "all", some 'a', .flag⟩]

/-- The words that a tool understands. -/
def grammar : Tool → Grammar ToolOption
  | .header => ⟨sharedOptions ++ partOptions, .single isPath⟩
  | .symbols => ⟨sharedOptions, .single isPath⟩

end Tool

namespace ToolArguments

/-- How often the log can be made more verbose. -/
def verboseLimit : Nat := 255

/-- The ordinary word among the matches. -/
def operand? (found : List (Match ToolOption)) : Option String :=
  found.findSome? fun
    | .operand word => some word
    | _ => none

/-- The value of an option among the matches. -/
def value? (tag : ToolOption) (found : List (Match ToolOption)) : Option String :=
  found.findSome? fun
    | .value other value => if other = tag then some value else none
    | _ => none

/-- The arguments that the matches give. -/
def ofMatches (found : List (Match ToolOption)) : Except UsageError ToolArguments :=
  let isSet (tag : ToolOption) : Bool := found.any (Match.sets tag)
  let verbose := found.countP (Match.sets .verbose)
  if isSet .quiet && verbose ≠ 0 then .error .conflict
  else
    match operand? found with
    | none => .error .missingWord
    | some file => .ok {
        file
        config := value? .config found
        labels := (value? .labels found).bind LabelMode.ofName?
        buffered := isSet .buffered
        quiet := isSet .quiet
        verbose := min verbose verboseLimit
        sections := isSet .sections
        symbols := isSet .symbols
        all := isSet .all }

/-- The arguments that a command line gives to a tool. -/
def parse (tool : Tool) (words : List String) : Except UsageError ToolArguments := do
  ofMatches (← tool.grammar.parse words)

end ToolArguments

end ElfScope
