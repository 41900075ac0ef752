import ElfScope.Pattern.Basic

/-!
# Usable patterns

A pattern is used on text in UTF-8, one byte after the other, and without tables of the characters
of Unicode. So as long as its characters are those of Unicode, it has no shorthands, no edges of
words, and no characters of either case; as soon as they are those of ASCII, it has no byte above
0x7F, and nothing that stands for such a byte among others. It is nested 250 levels deep at most.
-/

namespace ElfScope.Pattern

/-- What flags have changed so far: whether upper and lower case are the same, and whether
characters are all those of Unicode. -/
structure Mode where
  ignoreCase : Bool
  unicode : Bool
  deriving DecidableEq, Repr

namespace Mode

/-- The mode at the start of a pattern. -/
def initial : Mode := ⟨false, true⟩

/-- The mode behind a change of a flag. -/
def set (mode : Mode) (setting : Setting) : Mode :=
  match setting.flag with
  | .ignoreCase => { mode with ignoreCase := setting.isOn }
  | .unicode => { mode with unicode := setting.isOn }
  | _ => mode

/-- The mode behind some changes of flags. -/
def setAll (mode : Mode) (settings : List Setting) : Mode :=
  settings.foldl set mode

end Mode

/-- Whether a character is one of ASCII. -/
def Literal.isAscii (literal : Literal) : Bool :=
  literal.char.toNat ≤ 0x7F

/-- Whether a character stands for itself in a mode. -/
def Literal.isUsable (mode : Mode) (literal : Literal) : Bool :=
  if mode.unicode then !mode.ignoreCase else literal.isAscii || !literal.isByte

namespace CharSet

mutual

/-- Whether a set has a meaning in a mode. -/
def isUsable (mode : Mode) : CharSet → Bool
  | .literal char => if mode.unicode then !mode.ignoreCase else char.isAscii
  | .range first last =>
    if mode.unicode then !mode.ignoreCase else first.isAscii && last.isAscii
  | .named negated => if mode.unicode then !mode.ignoreCase else !negated
  | .shorthand negated => !mode.unicode && !negated
  | .bracketed negated content => (mode.unicode || !negated) && content.isUsable mode
  | .union parts => areUsable mode parts
  | .combined left right => left.isUsable mode && right.isUsable mode

/-- Whether some sets have a meaning in a mode. -/
def areUsable (mode : Mode) : List CharSet → Bool
  | [] => true
  | first :: rest => first.isUsable mode && areUsable mode rest

end

end CharSet

/-- The mode behind a part that leaves it as it is, if the part is usable. -/
def unchanged (mode : Mode) (usable : Bool) : Option Mode :=
  if usable then some mode else none

mutual

/-- The mode behind a pattern, if the pattern is usable. -/
def modeBehind? (mode : Mode) : Pattern → Option Mode
  | .flags settings => some (mode.setAll settings)
  | .literal char => unchanged mode (char.isUsable mode)
  | .dot => unchanged mode mode.unicode
  | .edge => some mode
  | .wordEdge => unchanged mode !mode.unicode
  | .shorthand negated => unchanged mode (!mode.unicode && !negated)
  | .set negated content => unchanged mode ((CharSet.bracketed negated content).isUsable mode)
  | .repeated body => body.modeBehind? mode
  | .group settings body =>
    match body.modeBehind? (mode.setAll settings) with
    | some _ => some mode
    | none => none
  | .sequence parts => modeBehindAll? mode parts
  | .choice branches => modeBehindAll? mode branches

/-- The mode behind some patterns, if they are usable one behind the other. -/
def modeBehindAll? (mode : Mode) : List Pattern → Option Mode
  | [] => some mode
  | first :: rest =>
    match first.modeBehind? mode with
    | some mode => modeBehindAll? mode rest
    | none => none

end

/-- How deep a pattern may be nested. -/
def depthLimit : Nat := 250

/-- Whether a pattern is usable. -/
def isUsable (pattern : Pattern) : Bool :=
  pattern.depth ≤ depthLimit && (pattern.modeBehind? .initial).isSome

end ElfScope.Pattern
