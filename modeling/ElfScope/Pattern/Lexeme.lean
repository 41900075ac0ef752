import ElfScope.Pattern.Basic
import ElfScope.Text.Character

/-!
# Escapes, flags and names of patterns

A reader takes the rest of a pattern and returns what it has read with the rest behind it, or
nothing where the pattern is malformed. `verbose` says whether white space and comments are skipped.
-/

namespace ElfScope.Pattern

/-- Reads something off the front of a pattern. -/
abbrev Reader (α : Type) := List Char → Option (α × List Char)

/-- What is behind white space and comments; `inComment` says whether a comment has begun. -/
def skipBlank : Bool → List Char → List Char
  | _, [] => []
  | true, char :: rest => skipBlank (char != '\n') rest
  | false, char :: rest =>
    if Text.isBlank char then skipBlank false rest
    else if char == '#' then skipBlank true rest
    else char :: rest

/-- What is behind white space and comments, if these are skipped. -/
def skip (verbose : Bool) (input : List Char) : List Char :=
  if verbose then skipBlank false input else input

/-- What an escape stands for: a character (`literal`), digits, white space or word characters or
all but these (`shorthand`), the edge of the text (`edge`), or the edge of a word or a position that
is none (`wordEdge`). -/
inductive Escape where
  | literal (literal : Literal)
  | shorthand (negated : Bool)
  | edge
  | wordEdge
  deriving DecidableEq, Repr

/-- The number that `count` hexadecimal digits continue. -/
def hexNumber (verbose : Bool) : Nat → Nat → Reader Nat
  | 0, number, input => some (number, input)
  | _ + 1, _, [] => none
  | count + 1, number, char :: rest => do
    hexNumber verbose count (16 * number + (← Text.hexDigit? char)) (skip verbose rest)

/-- The character whose number is given by `count` hexadecimal digits. -/
def hexLiteral (verbose : Bool) (count : Nat) (isByte : Bool) : Reader Escape := fun input => do
  let (number, rest) ← hexNumber verbose count 0 (skip verbose input)
  return (.literal ⟨← Text.charOf? number, isByte⟩, rest)

/-- Whether a character stands for itself behind a backslash: it is one of ASCII, but neither a
letter nor a digit nor an angle bracket. -/
def isEscapable (char : Char) : Bool :=
  char.toNat ≤ 0x7F && !char.isAlphanum && char != '<' && char != '>'

/-- What a character stands for behind a backslash. -/
def escapeOf? : Char → Option Escape
  | 'a' => some (.literal ⟨'\x07', false⟩)
  | 'f' => some (.literal ⟨'\x0c', false⟩)
  | 't' => some (.literal ⟨'\t', false⟩)
  | 'n' => some (.literal ⟨'\n', false⟩)
  | 'r' => some (.literal ⟨'\r', false⟩)
  | 'v' => some (.literal ⟨'\x0b', false⟩)
  | 'd' | 's' | 'w' => some (.shorthand false)
  | 'D' | 'S' | 'W' => some (.shorthand true)
  | 'A' | 'z' => some .edge
  | 'b' | 'B' | '<' | '>' => some .wordEdge
  | char => if isEscapable char then some (.literal ⟨char, false⟩) else none

/-- What is behind a backslash. Classes of characters by their properties are not known. -/
def escape (verbose : Bool) : Reader Escape
  | 'x' :: rest => hexLiteral verbose 2 true rest
  | 'u' :: rest => hexLiteral verbose 4 false rest
  | 'U' :: rest => hexLiteral verbose 8 false rest
  | char :: rest => (escapeOf? char).map (·, rest)
  | [] => none

/-- The flag of a letter. -/
def flagOf? : Char → Option Flag
  | 'i' => some .ignoreCase
  | 'm' => some .multiLine
  | 's' => some .dotNewline
  | 'U' => some .swapGreed
  | 'u' => some .unicode
  | 'R' => some .carriageReturn
  | 'x' => some .verbose
  | _ => none

/-- The flags of a group, up to the colon or the bracket behind them. A hyphen stands in front of
those that are cleared; no flag is given twice. -/
def settings : (negated : Bool) → List Setting → Reader (List Setting)
  | _, _, [] => none
  | negated, given, '-' :: char :: rest =>
    if negated || char == ':' || char == ')' then none
    else settings true given (char :: rest)
  | negated, given, char :: rest =>
    if char == ':' || char == ')' then some (given, char :: rest)
    else do
      let flag ← flagOf? char
      if given.any (·.flag == flag) then none
      else settings negated (given ++ [⟨flag, !negated⟩]) rest

/-- Whether a name may start with a character. -/
def startsName (char : Char) : Bool :=
  char == '_' || Text.isAlphabetic char

/-- Whether a name may go on with a character. -/
def inName (char : Char) : Bool :=
  char == '_' || char == '.' || char == '[' || char == ']' || Text.isAlphanumeric char

/-- The name of a group, up to the angle bracket behind it. -/
def groupName : Reader (List Char) := fun input =>
  match input.takeWhile (· ≠ '>'), input.dropWhile (· ≠ '>') with
  | first :: name, _ :: rest =>
    if startsName first && name.all inName then some (first :: name, rest) else none
  | _, _ => none

end ElfScope.Pattern
