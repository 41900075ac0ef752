import ElfScope.Pattern.Lexeme

/-!
# Sets in brackets

A set lists characters, ranges, named classes, shorthands and further sets. The operators `&&`,
`--` and `~~` combine what is in front of them with what follows. At the start, behind a caret that
negates the set, hyphens stand for themselves, and so does a closing bracket if there are none.
-/

namespace ElfScope.Pattern.Bracket

/-- A set whose closing bracket has not been read: whether it is negated, whether it has only begun,
what is in front of its last operator if it has one (`left`), and what is behind it, the last part
first (`parts`). -/
structure Level where
  negated : Bool
  isFresh : Bool
  left : Option CharSet
  parts : List CharSet

namespace Level

/-- A level with one more part. -/
def add (level : Level) (part : CharSet) : Level :=
  { level with isFresh := false, parts := part :: level.parts }

/-- The set that the parts of a level make. -/
def content (level : Level) : CharSet :=
  match level.left with
  | none => CharSet.join level.parts.reverse
  | some left => .combined left (CharSet.join level.parts.reverse)

/-- A level behind an operator. -/
def operate (level : Level) : Level :=
  { level with isFresh := false, left := some level.content, parts := [] }

end Level

/-- The level that a bracket opens. -/
def opening (verbose : Bool) (input : List Char) : Level × List Char :=
  match skip verbose input with
  | '^' :: rest => (⟨true, true, none, []⟩, rest)
  | rest => (⟨false, true, none, []⟩, rest)

/-- The names of classes of ASCII characters. -/
def classNames : List String :=
  ["alnum", "alpha", "ascii", "blank", "cntrl", "digit", "graph", "lower", "print", "punct",
    "space", "upper", "word", "xdigit"]

/-- A named class behind its opening bracket. -/
def named? : Reader CharSet
  | ':' :: input =>
    let (negated, input) := match input with
      | '^' :: rest => (true, rest)
      | rest => (false, rest)
    match input.dropWhile (· ≠ ':') with
    | ':' :: ']' :: rest =>
      if classNames.contains (String.ofList (input.takeWhile (· ≠ ':'))) then
        some (.named negated, rest)
      else none
    | _ => none
  | _ => none

/-- A character or a shorthand. -/
def unit (verbose : Bool) : Reader CharSet
  | '\\' :: rest => do
    match ← escape verbose rest with
    | (.literal char, rest) => return (.literal char, rest)
    | (.shorthand negated, rest) => return (.shorthand negated, rest)
    | _ => failure
  | char :: rest => some (.literal ⟨char, false⟩, rest)
  | [] => none

/-- The first character behind white space and the marks of comments. -/
def peekBlank : (inComment : Bool) → List Char → Option Char
  | _, [] => none
  | inComment, char :: rest =>
    if Text.isBlank char then peekBlank inComment rest
    else if !inComment && char == '#' then peekBlank true rest
    else some char

/-- The first character, behind white space if this is skipped. -/
def peek (verbose : Bool) (input : List Char) : Option Char :=
  if verbose then peekBlank false input else input.head?

/-- The range between two characters. -/
def range? : CharSet → CharSet → Option CharSet
  | .literal first, .literal last =>
    if first.char ≤ last.char then some (.range first last) else none
  | _, _ => none

/-- A character, a shorthand or a range. A hyphen in front of a closing bracket or of another hyphen
makes no range. -/
def member (verbose : Bool) : Reader CharSet := fun input => do
  let (first, rest) ← unit verbose input
  match skip verbose rest with
  | '-' :: behind =>
    let next := peek verbose behind
    if next = some ']' ∨ next = some '-' then return (first, '-' :: behind)
    else
      let (last, rest) ← unit verbose (skip verbose behind)
      return (← range? first last, rest)
  | rest => return (first, rest)

/-- Whether a character stands for itself at the start of a set. -/
def isFreshLiteral (level : Level) (char : Char) : Bool :=
  level.isFresh && (char == '-' || (char == ']' && level.parts.isEmpty))

/-- Whether a character is half an operator. -/
def isOperator (char : Char) : Bool :=
  char == '&' || char == '-' || char == '~'

/-- The rest of a set inside the `outer` ones. It takes at most as many steps as its bound has
characters. -/
def tail (verbose : Bool) : List Char → List Level → Level → Reader Level
  | [], _, _, _ => none
  | _ :: bound, outer, level, input =>
    match skip verbose input with
    | [] => none
    | first :: rest =>
      if isFreshLiteral level first then
        let level := { level.add (.literal ⟨first, false⟩) with isFresh := first == '-' }
        tail verbose bound outer level rest
      else if first = '[' then
        match named? rest with
        | some (part, rest) => tail verbose bound outer (level.add part) rest
        | none =>
          let (inner, rest) := opening verbose rest
          tail verbose bound (level :: outer) inner rest
      else if first = ']' then
        match outer with
        | [] => some (level, rest)
        | around :: outer =>
          tail verbose bound outer (around.add (.bracketed level.negated level.content)) rest
      else if isOperator first && rest.head? = some first then
        tail verbose bound outer level.operate rest.tail
      else
        match member verbose (first :: rest) with
        | some (part, rest) => tail verbose bound outer (level.add part) rest
        | none => none

/-- A set behind its opening bracket. -/
def read (verbose : Bool) : Reader Pattern := fun input => do
  let (level, rest) := opening verbose input
  let (level, rest) ← tail verbose ('[' :: input) [] level rest
  return (.set level.negated level.content, rest)

end ElfScope.Pattern.Bracket
