import Std.Data.TreeMap.Raw.Basic

/-!
# TOML values

The values of a TOML document. A table remembers how it came to be, since that decides what may
still be added to it; numbers with a fraction and moments in time are kept as they are written.
-/

namespace ElfScope.Toml

/-- How a table came to be: it is written between braces and complete (`inline`), it has a `header`
of its own, the header of a table inside it implies it (`implied`), or a `dotted` key does. -/
inductive Origin where
  | inline
  | header
  | implied
  | dotted
  deriving DecidableEq, Repr

/-- A value: a string (`text`), a whole number (`integer`), a number with a fraction or an exponent
as it is written (`decimal`), a truth value, a date, a time or both as they are written (`moment`),
a list of values (`array`), or values by their keys (`table`). `tables` are added one by one, each
by a header: the last and those before it, the latest first. -/
inductive Value where
  | text (content : String)
  | integer (number : Int)
  | decimal (literal : String)
  | boolean (flag : Bool)
  | moment (literal : String)
  | array (items : List Value)
  | table (origin : Origin) (entries : Std.TreeMap.Raw String Value compare)
  | tables (last : Std.TreeMap.Raw String Value compare)
    (earlier : List (Std.TreeMap.Raw String Value compare))

/-- The entries of a table, by their keys. -/
abbrev Entries := Std.TreeMap.Raw String Value compare

/-- The names and order in which a record's fields are given: by key (`named`), or by position where
the record is written as a list (`positional`). -/
inductive Fields where
  | named (entries : Entries)
  | positional (items : List Value)

namespace Fields

/-- The value of the field with a name and a position. -/
def get? (fields : Fields) (name : String) (position : Nat) : Option Value :=
  match fields with
  | .named entries => entries.get? name
  | .positional items => items[position]?

/-- Whether every key is one of the names. -/
def allNamed (fields : Fields) (names : List String) : Bool :=
  match fields with
  | .named entries => entries.keys.all names.contains
  | .positional _ => true

end Fields

namespace Value

/-- The key under which a moment in time is a record of its own. -/
def momentKey : String := "$moment"

/-- The fields of a value that is a record. -/
def fields? : Value → Option Fields
  | .table _ entries => some (.named entries)
  | .array items => some (.positional items)
  | .tables last earlier => some (.positional ((last :: earlier).reverse.map (.table .header)))
  | .moment literal => some (.named {(momentKey, .text literal)})
  | _ => none

/-- Whether a value is a list or a table without contents. -/
def isVacant : Value → Bool
  | .table _ entries => entries.isEmpty
  | .array [] => true
  | _ => false

/-- The word that a value chooses: a string, or the only key of a table that gives it nothing. -/
def choice? : Value → Option String
  | .text content => some content
  | .table _ entries =>
    match entries.toList with
    | [(key, value)] => if value.isVacant then some key else none
    | _ => none
  | _ => none

/-- The content of a string. -/
def text? : Value → Option String
  | .text content => some content
  | _ => none

/-- The contents of a list of strings. -/
def texts? : Value → Option (List String)
  | .array items => items.mapM text?
  | _ => none

end Value

end ElfScope.Toml
