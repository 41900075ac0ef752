/-!
# Patterns

A pattern is a regular expression. It is made of single characters, sets of characters, conditions
on a position and flags, which are repeated, grouped, put in sequence and offered as choices.

`Pattern.depth` says how deep its parts are nested. Characters and shorthands have no depth of their
own, and each repetition, group, set, sequence and choice adds one level.
-/

namespace ElfScope

namespace Pattern

/-- What flags change about the rest of a group: upper and lower case are the same (`ignoreCase`),
lines have edges of their own (`multiLine`), a dot stands for newlines, too (`dotNewline`),
repetitions are short unless marked (`swapGreed`), characters are all those of Unicode (`unicode`),
a carriage return is part of a newline (`carriageReturn`), or white space and comments do not count
(`verbose`). -/
inductive Flag where
  | ignoreCase
  | multiLine
  | dotNewline
  | swapGreed
  | unicode
  | carriageReturn
  | verbose
  deriving DecidableEq, Repr

/-- A flag that is set or cleared. -/
structure Setting where
  flag : Flag
  isOn : Bool
  deriving DecidableEq, Repr

/-- A single character, which may be written as a byte, with two hexadecimal digits. -/
structure Literal where
  char : Char
  isByte : Bool
  deriving DecidableEq, Repr

/-- A set of characters. It is one character (`literal`), the characters from one to another
(`range`), a class of ASCII characters by name (`named`), or digits, white space or word characters
(`shorthand`); a set in brackets of its own (`bracketed`); or the characters of several sets
(`union`), or what two sets have in common or what sets them apart (`combined`). A negated one holds
all other characters. -/
inductive CharSet where
  | literal (literal : Literal)
  | range (first last : Literal)
  | named (negated : Bool)
  | shorthand (negated : Bool)
  | bracketed (negated : Bool) (content : CharSet)
  | union (parts : List CharSet)
  | combined (left right : CharSet)

end Pattern

open Pattern (CharSet Literal Setting) in
/-- A regular expression. It is a change of flags, one character (`literal`), any character (`dot`),
the edge of the text or of a line (`edge`), the edge of a word or a position that is none
(`wordEdge`), digits, white space or word characters or all but these (`shorthand`), one of a `set`
of characters or one that is not in it, something that is repeated or may be missing (`repeated`), a
`group` with the flags that change in it, parts in sequence, or a choice of several branches. -/
inductive Pattern where
  | flags (settings : List Setting)
  | literal (literal : Literal)
  | dot
  | edge
  | wordEdge
  | shorthand (negated : Bool)
  | set (negated : Bool) (content : CharSet)
  | repeated (body : Pattern)
  | group (settings : List Setting) (body : Pattern)
  | sequence (parts : List Pattern)
  | choice (branches : List Pattern)

namespace Pattern

namespace CharSet

/-- The union of some sets. One set alone is its own union. -/
def join : List CharSet → CharSet
  | [part] => part
  | parts => .union parts

mutual

/-- How deep a set is nested. -/
def depth : CharSet → Nat
  | .literal _ | .range _ _ | .named _ | .shorthand _ => 0
  | .bracketed _ content => content.depth + 1
  | .union [] => 0
  | .union (first :: rest) => max first.depth (deepest rest) + 1
  | .combined left right => max left.depth right.depth + 1

/-- How deep the deepest of some sets is nested. -/
def deepest : List CharSet → Nat
  | [] => 0
  | first :: rest => max first.depth (deepest rest)

end

end CharSet

/-- Parts in sequence. One part alone is its own sequence. -/
def join : List Pattern → Pattern
  | [part] => part
  | parts => .sequence parts

mutual

/-- How deep a pattern is nested. -/
def depth : Pattern → Nat
  | .flags _ | .literal _ | .dot | .edge | .wordEdge | .shorthand _ => 0
  | .set _ content => content.depth + 1
  | .repeated body => body.depth + 1
  | .group _ body => body.depth + 1
  | .sequence [] => 0
  | .sequence (first :: rest) => max first.depth (deepest rest) + 1
  | .choice branches => deepest branches + 1

/-- How deep the deepest of some patterns is nested. -/
def deepest : List Pattern → Nat
  | [] => 0
  | first :: rest => max first.depth (deepest rest)

end

end Pattern

end ElfScope
