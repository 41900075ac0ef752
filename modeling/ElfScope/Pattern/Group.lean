import ElfScope.Pattern.Bracket

/-!
# Groups, choices and repetitions

`Pattern.parse?` reads the text of a pattern from left to right. What has been read of the group
around the current position is its finished branches and the parts of the branch that has begun; the
groups around it wait until it is closed.
-/

namespace ElfScope.Pattern

/-- A group that waits for an inner one to be closed: the flags that change in the inner group,
whether white space is skipped in this one (`verbose`), its finished branches, the last first, and
the parts of the branch that has begun, the last first. -/
structure Frame where
  settings : List Setting
  verbose : Bool
  branches : List Pattern
  parts : List Pattern

/-- How far a pattern has been read: whether white space is skipped (`verbose`), the names of groups
so far, the finished branches and the parts of the branch that has begun, the last of each first,
and the groups around the current one, the innermost first. -/
structure State where
  verbose : Bool
  names : List (List Char)
  branches : List Pattern
  parts : List Pattern
  outer : List Frame

namespace State

/-- Before the first character. -/
def initial : State := ⟨false, [], [], [], []⟩

/-- The state behind one more part. -/
def add (state : State) (part : Pattern) : State :=
  { state with parts := part :: state.parts }

/-- The pattern that has been read of the current group. -/
def content (state : State) : Pattern :=
  let branch := Pattern.join state.parts.reverse
  if state.branches.isEmpty then branch else .choice (branch :: state.branches).reverse

/-- The state behind the bar that ends a branch. -/
def endBranch (state : State) : State :=
  { state with branches := Pattern.join state.parts.reverse :: state.branches, parts := [] }

/-- Whether white space is skipped behind some changes of flags. -/
def verboseBehind (state : State) (settings : List Setting) : Bool :=
  settings.foldl (fun verbose setting =>
    if setting.flag = .verbose then setting.isOn else verbose) state.verbose

/-- The state behind the start of a group. -/
def enter (state : State) (settings : List Setting) : State where
  verbose := state.verboseBehind settings
  names := state.names
  branches := []
  parts := []
  outer := ⟨settings, state.verbose, state.branches, state.parts⟩ :: state.outer

/-- The state behind the start of a group with a name, which no other group has. -/
def enterNamed? (state : State) (name : List Char) : Option State :=
  if state.names.contains name then none
  else some { state.enter [] with names := name :: state.names }

/-- The state behind the end of a group. -/
def leave? (state : State) : Option State :=
  match state.outer with
  | [] => none
  | frame :: outer => some {
      verbose := frame.verbose
      names := state.names
      branches := frame.branches
      parts := .group frame.settings state.content :: frame.parts
      outer := outer }

/-- The state behind a repetition of the last part, which has to be more than a change of flags. -/
def repeatLast? (state : State) : Option State :=
  match state.parts with
  | [] => none
  | .flags _ :: _ => none
  | last :: earlier => some { state with parts := .repeated last :: earlier }

/-- The state behind an opening parenthesis and what belongs to it. -/
def openGroup? (state : State) (input : List Char) : Option (State × List Char) :=
  match skip state.verbose input with
  | '?' :: 'P' :: '<' :: rest | '?' :: '<' :: rest => do
    let (name, rest) ← groupName rest
    return (← state.enterNamed? name, rest)
  | '?' :: rest => do
    match ← Pattern.settings false [] rest with
    | (settings, ':' :: rest) => return (state.enter settings, rest)
    | ([], _) => failure
    | (settings, rest) =>
      return ({ state.add (.flags settings) with verbose := state.verboseBehind settings },
        rest.tail)
  | rest => some (state.enter [], rest)

/-- What is behind the mark that makes a repetition short. -/
def skipShort : List Char → List Char
  | '?' :: rest => rest
  | rest => rest

/-- A character, an escape or a condition. -/
def atom (verbose : Bool) : Reader Pattern
  | '\\' :: rest => do
    match ← escape verbose rest with
    | (.literal char, rest) => return (.literal char, rest)
    | (.shorthand negated, rest) => return (.shorthand negated, rest)
    | (.edge, rest) => return (.edge, rest)
    | (.wordEdge, rest) => return (.wordEdge, rest)
  | '.' :: rest => some (.dot, rest)
  | '^' :: rest | '$' :: rest => some (.edge, rest)
  | char :: rest => some (.literal ⟨char, false⟩, rest)
  | [] => none

/-- The state behind what starts with a character. Repetitions with a count are not known. -/
def step? (state : State) (first : Char) (rest : List Char) : Option (State × List Char) :=
  match first with
  | '(' => state.openGroup? rest
  | ')' => do return (← state.leave?, rest)
  | '|' => some (state.endBranch, rest)
  | '[' => do
    let (part, rest) ← Bracket.read state.verbose rest
    return (state.add part, rest)
  | '?' | '*' | '+' => do return (← state.repeatLast?, skipShort rest)
  | '\x7b' => none
  | first => do
    let (part, rest) ← atom state.verbose (first :: rest)
    return (state.add part, rest)

/-- The state at the end of a pattern. It takes at most as many steps as its bound has
characters. -/
def run? : List Char → State → List Char → Option State
  | [], state, _ => some state
  | _ :: bound, state, input =>
    match skip state.verbose input with
    | [] => some state
    | first :: rest => do
      let (state, rest) ← state.step? first rest
      run? bound state rest

end State

/-- The pattern of a text. -/
def parse? (text : List Char) : Option Pattern := do
  let state ← State.initial.run? text text
  if state.outer.isEmpty then return state.content else failure

end ElfScope.Pattern
