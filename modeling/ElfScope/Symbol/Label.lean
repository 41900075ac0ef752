import ElfScope.Text.Column

/-!
# Symbol labels

The words by which a report shows the type, the binding and the visibility of a symbol. The
compatible style tells only the common ones apart; the full style names every standard one and
writes the others as numbers.
-/

namespace ElfScope

/-- How symbols are labelled: functions and objects, global or not, default, hidden or internal
(`compat`), or by every standard type, binding and visibility (`full`). -/
inductive LabelMode where
  | compat
  | full
  deriving DecidableEq, Repr

namespace Label

/-- The label of a symbol type. -/
def ofType (mode : LabelMode) (type : UInt8) : String :=
  match mode, type with
  | _, 2 => "FUNC"
  | _, 1 => "OBJECT"
  | .full, 0 => "NOTYPE"
  | .full, 3 => "SECTION"
  | .full, 4 => "FILE"
  | .full, 5 => "COMMON"
  | .full, 6 => "TLS"
  | .full, 10 => "IFUNC"
  | _, other => Text.decimal other.toNat

/-- The label of a symbol binding. -/
def ofBinding (mode : LabelMode) (binding : UInt8) : String :=
  match mode, binding with
  | _, 1 => "GLOBAL"
  | .compat, _ => "LOCAL"
  | .full, 0 => "LOCAL"
  | .full, 2 => "WEAK"
  | .full, 10 => "UNIQUE"
  | .full, other => Text.decimal other.toNat

/-- The label of a symbol visibility. -/
def ofVisibility (mode : LabelMode) (visibility : UInt8) : String :=
  match mode, visibility with
  | _, 0 => "DEFAULT"
  | _, 2 => "HIDDEN"
  | .full, 3 => "PROTECTED"
  | _, _ => "INTERNAL"

end Label

end ElfScope
