/-!
# Command lines

A grammar lists the options of a command and says which other words it takes. `Grammar.parse`
reads the words of a command line from left to right into matches, in the order in which they
take effect.

- A word `--name` or `--name=value` is a long option; a word that starts with one dash holds short
  options, one per character, of which the first that takes a value takes the rest of the word.
  A dash alone is an ordinary word.
- An option without its value takes the next word, if that is an ordinary one.
- Behind `--` every word is ordinary.

A value or an ordinary word takes effect when the next known option or ordinary word is met, or
at the end; what is wrong with it shows only then. The first problem met is the answer.
-/

namespace ElfScope.CommandLine

/-- Why a command line is not carried out. A word that has to be there is missing (`missingWord`),
an option or an ordinary word is not known (`unknownWord`), a value is missing or not accepted
(`invalidValue`), two options exclude each other or one is repeated (`conflict`), or a value is
attached to an option that takes none (`unexpectedValue`). `help` and `version` are what is asked
for instead. -/
inductive UsageError where
  | missingWord
  | unknownWord
  | invalidValue
  | conflict
  | unexpectedValue
  | help
  | version
  deriving DecidableEq, Repr

/-- What an option does. A `flag` is set once at most, and a `counter` any number of times. A
`value` is given once at most and has to pass a test. A `stop` ends the reading of the command
line. -/
inductive Action where
  | flag
  | counter
  | value (accepts : String → Bool)
  | stop (reason : UsageError)

/-- An option of a command: what it is known as inside the program (`tag`), its long name, its short
name if it has one, and what it does. -/
structure OptionSpec (α : Type) where
  tag : α
  long : String
  short : Option Char
  action : Action

/-- Which ordinary words a command takes: `none`, a `single` one that has to pass a test, or any
number of them behind `--` only (`trailing`). -/
inductive Operands where
  | none
  | single (accepts : String → Bool)
  | trailing

/-- The words that a command understands: its options and its ordinary words. -/
structure Grammar (α : Type) where
  options : List (OptionSpec α)
  operands : Operands

/-- Something that a command line says: an option is set (`option`) or given a value (`value`), or
there is an ordinary word (`operand`). -/
inductive Match (α : Type) where
  | option (tag : α)
  | value (tag : α) (value : String)
  | operand (word : String)
  deriving DecidableEq, Repr

/-- What has been met and has not taken effect yet: `nothing`, an option whose value may be the next
word (`awaiting`), an option and its value (`value`), or an ordinary word (`operand`). -/
inductive Pending (α : Type) where
  | nothing
  | awaiting (tag : α) (accepts : String → Bool)
  | value (tag : α) (accepts : String → Bool) (value : String)
  | operand (accepts : String → Bool) (word : String)

/-- How far a command line has been read: what has taken effect, the last first (`seen`), what has
not taken effect yet (`pending`), and how many ordinary words there were (`operands`). -/
structure State (α : Type) where
  seen : List (Match α)
  pending : Pending α
  operands : Nat

variable {α : Type} [DecidableEq α]

/-- Whether a match sets an option. -/
def Match.sets (tag : α) : Match α → Bool
  | .option other => other == tag
  | .value other _ => other == tag
  | .operand _ => false

namespace State

/-- Before the first word. -/
def initial : State α := ⟨[], .nothing, 0⟩

/-- Whether an option has taken effect. -/
def has (state : State α) (tag : α) : Bool :=
  state.seen.any (Match.sets tag)

/-- The state after something has taken effect. -/
def record (state : State α) (found : Match α) : State α :=
  { state with seen := found :: state.seen, pending := .nothing }

/-- Lets what is pending take effect. -/
def settle (state : State α) : Except UsageError (State α) :=
  match state.pending with
  | .nothing => .ok state
  | .awaiting _ _ => .error .invalidValue
  | .value tag accepts value =>
    if state.has tag then .error .conflict
    else if accepts value then .ok (state.record (.value tag value))
    else .error .invalidValue
  | .operand accepts word =>
    if accepts word then .ok (state.record (.operand word)) else .error .invalidValue

/-- Meets an option without a value of its own. -/
def meet (state : State α) (spec : OptionSpec α) : Except UsageError (State α) := do
  let state ← state.settle
  match spec.action with
  | .stop reason => throw reason
  | .flag =>
    if state.has spec.tag then throw .conflict
    return state.record (.option spec.tag)
  | .counter => return state.record (.option spec.tag)
  | .value accepts => return { state with pending := .awaiting spec.tag accepts }

/-- Meets an option with a value attached to it. -/
def meetWith (state : State α) (tag : α) (accepts : String → Bool) (value : List Char) :
    Except UsageError (State α) := do
  let state ← state.settle
  settle { state with pending := .value tag accepts (String.ofList value) }

end State

namespace Grammar

/-- A long option, from its name on. -/
def long (grammar : Grammar α) (state : State α) (body : List Char) :
    Except UsageError (State α) :=
  let name := String.ofList (body.takeWhile (· ≠ '='))
  match grammar.options.find? (·.long == name) with
  | none => .error .unknownWord
  | some spec =>
    match body.dropWhile (· ≠ '='), spec.action with
    | [], _ => state.meet spec
    | _ :: value, .value accepts => state.meetWith spec.tag accepts value
    | _ :: _, _ => .error .unexpectedValue

/-- The value in the rest of a word of short options, without the equals sign that may lead it. -/
def attached : List Char → List Char
  | '=' :: value => value
  | value => value

/-- The short options of a word. -/
def short (grammar : Grammar α) : State α → List Char → Except UsageError (State α)
  | state, [] => .ok state
  | state, name :: rest =>
    match grammar.options.find? (·.short == some name) with
    | none => .error .unknownWord
    | some spec =>
      match spec.action, rest with
      | .value _, [] => state.meet spec
      | .value accepts, _ :: _ => state.meetWith spec.tag accepts (attached rest)
      | _, _ => do
        let state ← state.meet spec
        grammar.short state rest

/-- An ordinary word that is no option's value. -/
def operand (grammar : Grammar α) (behindMarker : Bool) (state : State α) (word : String) :
    Except UsageError (State α) :=
  match grammar.operands with
  | .none => .error .unknownWord
  | .single accepts =>
    if state.operands = 0 then do
      let state ← state.settle
      return { state with pending := .operand accepts word, operands := 1 }
    else .error .unknownWord
  | .trailing =>
    if behindMarker then do
      let state ← state.settle
      return state.record (.operand word)
    else .error .unknownWord

/-- A word in front of the marker `--`. -/
def word (grammar : Grammar α) (state : State α) (word : String) :
    Except UsageError (State α) :=
  match word.toList with
  | '-' :: '-' :: body => grammar.long state body
  | '-' :: name :: rest => grammar.short state (name :: rest)
  | _ =>
    match state.pending with
    | .awaiting tag accepts => .ok { state with pending := .value tag accepts word }
    | _ => grammar.operand false state word

/-- The words behind the marker. -/
def readBehind (grammar : Grammar α) : State α → List String → Except UsageError (State α)
  | state, [] => .ok state
  | state, word :: rest => do
    let state ← grammar.operand true state word
    grammar.readBehind state rest

/-- All words. -/
def read (grammar : Grammar α) : State α → List String → Except UsageError (State α)
  | state, [] => .ok state
  | state, word :: rest =>
    if word = "--" then grammar.readBehind state rest
    else do
      let state ← grammar.word state word
      grammar.read state rest

/-- What a command line says. -/
def parse (grammar : Grammar α) (words : List String) : Except UsageError (List (Match α)) := do
  let state ← grammar.read State.initial words
  return (← state.settle).seen.reverse

end Grammar

end ElfScope.CommandLine
