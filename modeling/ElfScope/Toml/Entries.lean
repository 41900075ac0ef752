import ElfScope.Toml.Value

/-!
# Building tables

A key may be given a value once. A dotted key opens tables on its way, and may pass through
tables that other dotted keys or inner headers opened, but the value goes only into a table that
dotted keys opened. A header opens a table that has none of its own yet; on its way it passes
through any table that is not written between braces, and through the last of a list of tables.
-/

namespace ElfScope.Toml.Entries

/-- Adds a value behind a dotted key. `takes` says whether the table itself takes values. -/
def addDotted (takes : Bool) : List String → String → Value → Entries → Option Entries
  | [], key, value, entries =>
    if takes && !entries.contains key then some (entries.insert key value) else none
  | outer :: path, key, value, entries =>
    match entries.get? outer with
    | none => do
      let inner ← addDotted true path key value ∅
      return entries.insert outer (.table .dotted inner)
    | some (.table .dotted inner) => do
      let inner ← addDotted true path key value inner
      return entries.insert outer (.table .dotted inner)
    | some (.table .implied inner) => do
      let inner ← addDotted false path key value inner
      return entries.insert outer (.table .implied inner)
    | some (.tables last earlier) => do
      let last ← addDotted false path key value last
      return entries.insert outer (.tables last earlier)
    | some _ => none

/-- A dotted key and its value: the parts in front of the last, the last, and the value. -/
structure Pair where
  path : List String
  key : String
  value : Value

/-- Adds the values of dotted keys, in order. -/
def addAll (pairs : List Pair) (entries : Entries) : Option Entries :=
  pairs.foldlM (fun entries pair => addDotted true pair.path pair.key pair.value entries) entries

/-- Changes the table that a header's outer keys lead to. -/
def within (change : Entries → Option Entries) : List String → Entries → Option Entries
  | [], entries => change entries
  | outer :: path, entries =>
    match entries.get? outer with
    | none => do
      let inner ← within change path ∅
      return entries.insert outer (.table .implied inner)
    | some (.table .inline _) => none
    | some (.table origin inner) => do
      let inner ← within change path inner
      return entries.insert outer (.table origin inner)
    | some (.tables last earlier) => do
      let last ← within change path last
      return entries.insert outer (.tables last earlier)
    | some _ => none

/-- Opens the table of a header and fills it. -/
def openTable (pairs : List Pair) (key : String) (entries : Entries) : Option Entries :=
  match entries.get? key with
  | none => do
    let inner ← addAll pairs ∅
    return entries.insert key (.table .header inner)
  | some (.table .implied inner) => do
    let inner ← addAll pairs inner
    return entries.insert key (.table .header inner)
  | some _ => none

/-- Adds a table to a list of tables and fills it. -/
def appendTable (pairs : List Pair) (key : String) (entries : Entries) : Option Entries :=
  match entries.get? key with
  | none => do
    let inner ← addAll pairs ∅
    return entries.insert key (.tables inner [])
  | some (.tables last earlier) => do
    let inner ← addAll pairs ∅
    return entries.insert key (.tables inner (last :: earlier))
  | some _ => none

end ElfScope.Toml.Entries
