import ElfScope.CommandLine.Grammar
import ElfScope.Workspace.Task

/-!
# Tasks and their arguments

The first word of the command line names the task, and the rest are the task's own.
-/

namespace ElfScope

open CommandLine (UsageError Grammar OptionSpec Match)

/-- What an option of a task is about: building in `release` mode, the `package` to work on,
building without the default features, checking instead of writing, opening the result, or
`help`. -/
inductive TaskOption where
  | release
  | package
  | noDefaultFeatures
  | check
  | opens
  | help
  deriving DecidableEq, Repr

namespace Task

/-- The option that asks for help. -/
def helpOption : OptionSpec TaskOption :=
  ⟨.help, "help", some 'h', .stop .help⟩

/-- The option that names a package. Any name will do. -/
def packageOption : OptionSpec TaskOption :=
  ⟨.package, "package", some 'p', .value fun _ => true⟩

/-- The words that testing understands. -/
def testGrammar : Grammar TaskOption where
  options := [⟨.release, "release", some 'r', .flag⟩, packageOption,
    ⟨.noDefaultFeatures, "no-default-features", none, .flag⟩, helpOption]
  operands := .trailing

/-- The words that linting understands. -/
def clippyGrammar : Grammar TaskOption :=
  ⟨[packageOption, helpOption], .none⟩

/-- The words that formatting understands. -/
def fmtGrammar : Grammar TaskOption :=
  ⟨[⟨.check, "check", none, .flag⟩, helpOption], .none⟩

/-- The words that documenting understands. -/
def docGrammar : Grammar TaskOption :=
  ⟨[⟨.opens, "open", none, .flag⟩, helpOption], .none⟩

/-- The package among the matches. -/
def package? (found : List (Match TaskOption)) : Option String :=
  found.findSome? fun
    | .value _ name => some name
    | _ => none

/-- The ordinary words among the matches. -/
def operands (found : List (Match TaskOption)) : List String :=
  found.filterMap fun
    | .operand word => some word
    | _ => none

/-- Whether an option is set. -/
def isSet (tag : TaskOption) (found : List (Match TaskOption)) : Bool :=
  found.any (Match.sets tag)

/-- The outcome of asking for help about a list of commands: there is help about each task and
about help itself, and none of them has commands of its own. -/
def helpAbout : List String → UsageError
  | [] => .help
  | [name] => if ["test", "clippy", "fmt", "doc", "help"].contains name then .help else .unknownWord
  | _ => .unknownWord

/-- The task that a command line asks for. -/
def parse : List String → Except UsageError Task
  | [] => .error .missingWord
  | "test" :: words => do
    let found ← testGrammar.parse words
    return .test (package? found) (isSet .release found) (isSet .noDefaultFeatures found)
      (operands found)
  | "clippy" :: words => do
    return .clippy (package? (← clippyGrammar.parse words))
  | "fmt" :: words => do
    return .fmt (isSet .check (← fmtGrammar.parse words))
  | "doc" :: words => do
    return .doc (isSet .opens (← docGrammar.parse words))
  | "help" :: words => .error (helpAbout words)
  | "--help" :: _ => .error .help
  | word :: _ =>
    match word.toList with
    | '-' :: 'h' :: _ => .error .help
    | _ => .error .unknownWord

end Task

end ElfScope
