import ElfScope.Log.Event
import ElfScope.Pattern.Group
import ElfScope.Pattern.Usable
import ElfScope.Text.Character
import ElfScope.Text.Utf8

/-!
# Log filters

A filter is a list of directives. A directive fits an event whose target starts with the
directive's own and that meets the directive's condition. Of the directives that fit an event the
narrowest decides: the one with the longest target, of those one that asks for a field, of those
the one whose field comes last in the alphabet, and of those the last. An event that no directive
fits is not shown.

`Filter.parse?` reads a list of directives separated by commas: a level alone; a target alone,
which shows all of it; or a target, a condition in brackets, or both, which an equals sign and a
level may follow. The condition may compare a field with a value: a number, or else a pattern, which
has to be usable. A number has a point, an exponent, both or neither, or it is infinity or none at
all.
-/

namespace ElfScope.Log

namespace Value

/-- What is behind the sign that may lead a number. -/
def unsigned : List Char → List Char
  | '+' :: rest => rest
  | '-' :: rest => rest
  | rest => rest

/-- Whether a text is nothing, or an exponent. -/
def isExponent : List Char → Bool
  | [] => true
  | mark :: rest =>
    (mark == 'e' || mark == 'E') && !(unsigned rest).isEmpty && (unsigned rest).all Char.isDigit

/-- Whether digits in front of a point and behind it, of which there is one at least, are a number
together with what is behind them. -/
def isDecimal (whole : List Char) : List Char → Bool
  | '.' :: rest =>
    !(whole.isEmpty && (rest.takeWhile Char.isDigit).isEmpty)
      && isExponent (rest.dropWhile Char.isDigit)
  | rest => !whole.isEmpty && isExponent rest

/-- The numbers that are written as words, in any case. -/
def words : List String := ["inf", "infinity", "nan"]

/-- Whether a value is a number. -/
def isNumber (value : List Char) : Bool :=
  let body := unsigned value
  words.contains (String.ofList (body.map Char.toLower))
    || isDecimal (body.takeWhile Char.isDigit) (body.dropWhile Char.isDigit)

/-- Whether a value is a usable pattern. -/
def isPattern (value : List Char) : Bool :=
  (Pattern.parse? value).any Pattern.isUsable

/-- Whether a field can be compared with a value. -/
def isReadable (value : List Char) : Bool :=
  isNumber value || isPattern value

end Value

/-- What a directive shows of the events it fits: nothing, or those up to a level. -/
abbrev Threshold := Option Level

/-- What a directive asks of an event besides its target: nothing (`always`), a `field` with a name,
or a span around it or a field with a value, which no event has (`never`). -/
inductive Condition where
  | always
  | field (name : String)
  | never
  deriving DecidableEq, Repr

/-- One part of a filter: the start of the targets it fits, which are all targets without one; what
it asks of an event; and what it shows. -/
structure Directive where
  target : Option String
  condition : Condition
  threshold : Threshold
  deriving DecidableEq, Repr

/-- Which events are shown. -/
abbrev Filter := List Directive

namespace Threshold

/-- Whether events of a level are shown. -/
def shows : Threshold → Level → Bool
  | none, _ => false
  | some most, level => level.rank ≤ most.rank

/-- The names of the thresholds. -/
def names : List (String × Threshold) :=
  [("off", none), ("error", some .error), ("warn", some .warn), ("info", some .info),
    ("debug", some .debug), ("trace", some .trace)]

/-- The threshold that a word names, in any case. -/
def ofName? (word : String) : Option Threshold :=
  names.lookup (word.map Char.toLower)

/-- The threshold that digits stand for, without the zeros in front. -/
def ofDigits? : List Char → Option Threshold
  | [] => some none
  | ['1'] => some (some .error)
  | ['2'] => some (some .warn)
  | ['3'] => some (some .info)
  | ['4'] => some (some .debug)
  | ['5'] => some (some .trace)
  | _ => none

/-- A number without the plus sign that may lead it. -/
def unsigned : List Char → List Char
  | '+' :: digits => digits
  | digits => digits

/-- The threshold that a number stands for. -/
def ofNumber? (word : String) : Option Threshold :=
  let digits := unsigned word.toList
  if !digits.isEmpty && digits.all Char.isDigit then ofDigits? (digits.dropWhile (· == '0'))
  else none

/-- The threshold that a word stands for: a number up to five, or a name. -/
def ofWord? (word : String) : Option Threshold :=
  (ofNumber? word).or (ofName? word)

end Threshold

namespace Condition

/-- The name under which the message of an event is one of its fields. -/
def messageName : String := "message"

/-- Whether an event meets a condition. -/
def holds (event : Event) : Condition → Bool
  | .always => true
  | .field name => name == messageName || event.fields.any (·.1 == name)
  | .never => false

/-- The name of the field that a condition asks for, empty where it asks for none. -/
def fieldName : Condition → String
  | .field name => name
  | _ => ""

/-- The condition that a field puts: its name alone, or a name, an equals sign and a value. -/
def ofField? (field : List Char) : Option Condition :=
  match field.dropWhile (· ≠ '=') with
  | [] => if field.isEmpty then none else some (.field (String.ofList field))
  | _ :: value => if Value.isReadable (value.takeWhile (· ≠ '=')) then some .never else none

/-- Reads a condition from behind its opening bracket: the name of a span, which may be empty, and
a field in braces, which may be left out but not be empty. `part` gives the text of what lies
between two positions. -/
def read? (part : List Char → List Char → List Char) (text : List Char) :
    Option (Condition × List Char) :=
  let behind := text.dropWhile fun char => char != ']' && char != '\x7b'
  match behind with
  | ']' :: rest => some (.never, rest)
  | _ :: inner => do
    match inner.dropWhile (· ≠ '\x7d') with
    | '\x7d' :: ']' :: rest =>
      let condition ← ofField? (part inner ('\x7d' :: ']' :: rest))
      return (if behind.length < text.length then .never else condition, rest)
    | _ => failure
  | [] => none

end Condition

namespace Directive

/-- Whether a directive fits an event. -/
def fits (directive : Directive) (event : Event) : Bool :=
  directive.condition.holds event &&
    match directive.target with
    | none => true
    | some start => start.toList.isPrefixOf event.target.toList

/-- How narrow the target of a directive is. -/
def narrowness (directive : Directive) : Nat :=
  match directive.target with
  | none => 0
  | some start => start.length + 1

/-- Whether a directive decides where an earlier one fits, too. -/
def outweighs (directive earlier : Directive) : Bool :=
  earlier.narrowness < directive.narrowness ||
    (earlier.narrowness == directive.narrowness &&
      earlier.condition.fieldName ≤ directive.condition.fieldName)

/-- Whether a target may start with a character. -/
def startsTarget (char : Char) : Bool :=
  Text.isAlphanumeric char || char == '-' || char == ':' || char == '_'

/-- Whether a target goes on with a character. -/
def inTarget (char : Char) : Bool :=
  char != '=' && char != '['

/-- The directive that a word alone gives: a level for all targets, or a target to show whole. -/
def ofWord (word : String) : Directive :=
  match Threshold.ofWord? word with
  | some threshold => ⟨none, .always, threshold⟩
  | none => ⟨some word, .always, some .trace⟩

/-- The threshold behind an equals sign; everything where nothing is behind it. -/
def thresholdBehind? (level : List Char) : Option Threshold :=
  if level.isEmpty then some (some .trace) else Threshold.ofWord? (String.ofList level)

/-- The target in front of a condition or a level, if there is one. -/
def targetOf (target : List Char) : Option String :=
  if target.isEmpty then none else some (String.ofList target)

/-- A text without the white space in front of it and behind it. -/
def trim (text : List Char) : List Char :=
  ((text.dropWhile Text.isBlank).reverse.dropWhile Text.isBlank).reverse

/-- The part of a text at the position of a part of the trimmed text, which is given by what is left
of the trimmed text where the part starts and where it ends. -/
def partAt (text start stop : List Char) : List Char :=
  let size := Text.byteCount (trim text)
  Text.cut (size - Text.byteCount start) (size - Text.byteCount stop) text

/-- The part of a text from a position of the trimmed text on. -/
def partFrom (text start : List Char) : List Char :=
  Text.dropBytes (Text.byteCount (trim text) - Text.byteCount start) text

/-- Reads a directive. Its parts are told apart in the trimmed text, and white space alone is no
directive; but the parts are then taken from the same positions of the text as it is, so white
space in front moves them. -/
def parse? (text : String) : Option Directive := do
  let whole := text.toList
  let body := trim whole
  let first ← body.head?
  if first ≠ '[' ∧ !startsTarget first then failure
  let behind := body.dropWhile inTarget
  let target := targetOf (partAt whole body behind)
  match behind with
  | [] => return ofWord text
  | '[' :: inner =>
    match ← Condition.read? (partAt whole) inner with
    | (condition, []) => return ⟨target, condition, some .trace⟩
    | (condition, '=' :: level) =>
      return ⟨target, condition, ← thresholdBehind? (partFrom whole level)⟩
    | _ => failure
  | _ :: level => return ⟨target, .always, ← thresholdBehind? (partFrom whole level)⟩

end Directive

namespace Filter

/-- The filter that shows all events up to a level. -/
def upTo (level : Level) : Filter := [⟨none, .always, some level⟩]

/-- The directive that decides about an event. -/
def decisive? (filter : Filter) (event : Event) : Option Directive :=
  filter.foldl (fun best directive =>
    if directive.fits event && best.all directive.outweighs then some directive else best) none

/-- Whether an event is shown. -/
def shows (filter : Filter) (event : Event) : Bool :=
  match filter.decisive? event with
  | none => false
  | some directive => directive.threshold.shows event.level

/-- Reads a filter. A text without directives shows errors only. -/
def parse? (text : String) : Option Filter :=
  match (text.splitToList (· == ',')).filter (· ≠ "") with
  | [] => some (upTo .error)
  | words => words.mapM Directive.parse?

/-- The filter of a run: the requested one, if it can be read, or one up to the level given. -/
def select (requested : Option String) (fallback : Level) : Filter :=
  (requested.bind parse?).getD (upTo fallback)

end Filter

end ElfScope.Log
