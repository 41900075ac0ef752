import ElfScope.Toml.Document
import Mathlib.Tactic.SplitIfs
import Std.Data.TreeMap.Raw.Lemmas
import Std.Data.TreeMap.Raw.WF

/-!
# The tables of a document

A table is kept as a search tree, and nothing in the type of a value says that the tree is one. All
trees that come from a document are (`ordered_parse`): a table starts empty and grows by insertion,
whether it does so by a dotted key, by a header, or between braces. So what a look-up finds in a
table and what a list of its keys shows are the same.
-/

namespace ElfScope.Toml

/-! ## Tables that are search trees -/

mutual

/-- Every table in a value is a search tree. -/
inductive Value.Ordered : Value → Prop where
  | text (content : String) : Value.Ordered (.text content)
  | integer (number : Int) : Value.Ordered (.integer number)
  | decimal (literal : String) : Value.Ordered (.decimal literal)
  | boolean (flag : Bool) : Value.Ordered (.boolean flag)
  | moment (literal : String) : Value.Ordered (.moment literal)
  | array {items : List Value} (hitems : ∀ item ∈ items, Value.Ordered item) :
      Value.Ordered (.array items)
  | table {entries : Entries} (origin : Origin) (hentries : Entries.Ordered entries) :
      Value.Ordered (.table origin entries)
  | tables {last : Entries} {earlier : List Entries} (hlast : Entries.Ordered last)
      (hearlier : ∀ entries ∈ earlier, Entries.Ordered entries) :
      Value.Ordered (.tables last earlier)

/-- A table is a search tree, and so is every table in it. -/
inductive Entries.Ordered : Entries → Prop where
  | intro {entries : Entries} (hentries : entries.WF)
      (hvalues : ∀ key value, entries.get? key = some value → Value.Ordered value) :
      Entries.Ordered entries

end

variable {entries inner last out : Entries} {earlier : List Entries} {origin : Origin}
  {key : String} {value : Value}

/-- The table in a value is a search tree. -/
theorem Value.Ordered.ofTable (h : (Value.table origin inner).Ordered) : Entries.Ordered inner := by
  cases h with
  | table _ hentries => exact hentries

/-- The last of several tables is a search tree. -/
theorem Value.Ordered.ofLast (h : (Value.tables last earlier).Ordered) : Entries.Ordered last := by
  cases h with
  | tables hlast _ => exact hlast

/-- All tables in front of the last are search trees. -/
theorem Value.Ordered.ofEarlier (h : (Value.tables last earlier).Ordered) :
    ∀ entries ∈ earlier, Entries.Ordered entries := by
  cases h with
  | tables _ hearlier => exact hearlier

namespace Entries

/-- The tree of a table is well-formed. -/
theorem Ordered.wf (h : Ordered entries) : entries.WF := by
  cases h with
  | intro hentries _ => exact hentries

/-- Every table in a value that is found in a search tree is one. -/
theorem Ordered.found (h : Ordered entries) (hvalue : entries.get? key = some value) :
    value.Ordered := by
  cases h with
  | intro _ hvalues => exact hvalues key value hvalue

/-- The empty table is a search tree. -/
theorem ordered_empty : Ordered ∅ := by
  refine .intro .emptyc fun key value hvalue => ?_
  rw [Std.TreeMap.Raw.get?_eq_getElem?, Std.TreeMap.Raw.getElem?_emptyc] at hvalue
  cases hvalue

/-- Inserting a value changes what is found under its key, and nothing else. -/
theorem get?_insert (h : entries.WF) (key : String) (value : Value) (name : String) :
    (entries.insert key value).get? name
      = if key = name then some value else entries.get? name := by
  rw [Std.TreeMap.Raw.get?_eq_getElem?, Std.TreeMap.Raw.getElem?_insert h]
  simp only [Std.LawfulEqCmp.compare_eq_iff_eq, Std.TreeMap.Raw.get?_eq_getElem?]

/-- Inserting a value whose tables are search trees gives a search tree. -/
theorem Ordered.insert (h : Ordered entries) (hvalue : value.Ordered) :
    Ordered (entries.insert key value) := by
  refine .intro h.wf.insert fun name found hfound => ?_
  rw [get?_insert h.wf] at hfound
  split at hfound
  · cases hfound
    exact hvalue
  · exact h.found hfound

/-! ## Growing tables -/

/-- A way to change tables keeps them search trees. -/
def Preserves (change : Entries → Option Entries) : Prop :=
  ∀ ⦃entries out⦄, Ordered entries → change entries = some out → Ordered out

variable {change : Entries → Option Entries}

/-- The table under a key may be replaced by a changed one. -/
theorem Ordered.changeTable (h : Ordered entries) (hchange : Preserves change)
    (hinner : Ordered inner)
    (hout : (do return entries.insert key (.table origin (← change inner))) = some out) :
    Ordered out := by
  obtain ⟨table, htable, hout⟩ := Option.bind_eq_some_iff.1 hout
  cases hout
  exact h.insert (.table _ (hchange hinner htable))

/-- The last of the tables under a key may be replaced by a changed one. -/
theorem Ordered.changeLast (h : Ordered entries) (hchange : Preserves change)
    (hlast : Ordered last) (hearlier : ∀ table ∈ earlier, Ordered table)
    (hout : (do return entries.insert key (.tables (← change last) earlier)) = some out) :
    Ordered out := by
  obtain ⟨table, htable, hout⟩ := Option.bind_eq_some_iff.1 hout
  cases hout
  exact h.insert (.tables (hchange hlast htable) hearlier)

/-- Adding a value behind a dotted key keeps search trees. -/
theorem preserves_addDotted (takes : Bool) (path : List String) (key : String)
    (hvalue : value.Ordered) : Preserves (addDotted takes path key value) := by
  induction path generalizing takes with
  | nil =>
    intro entries out h hout
    rw [addDotted] at hout
    split at hout
    · cases hout
      exact h.insert hvalue
    · cases hout
  | cons outer path ih =>
    intro entries out h hout
    rw [addDotted] at hout
    split at hout
    case h_1 => exact h.changeTable (ih true) ordered_empty hout
    case h_2 hget => exact h.changeTable (ih true) (h.found hget).ofTable hout
    case h_3 hget => exact h.changeTable (ih false) (h.found hget).ofTable hout
    case h_4 hget =>
      exact h.changeLast (ih false) (h.found hget).ofLast (h.found hget).ofEarlier hout
    case h_5 => cases hout

/-- Steps that each keep search trees keep them one after the other. -/
theorem preserves_foldlM {α : Type} {step : Entries → α → Option Entries} {items : List α}
    (h : ∀ item ∈ items, Preserves fun entries => step entries item) :
    Preserves fun entries => items.foldlM step entries := by
  induction items with
  | nil =>
    intro entries out hentries hout
    cases hout
    exact hentries
  | cons item rest ih =>
    intro entries out hentries hout
    simp only [List.foldlM_cons] at hout
    obtain ⟨next, hnext, hout⟩ := Option.bind_eq_some_iff.1 hout
    have hitem := h item List.mem_cons_self hentries hnext
    exact ih (fun other hother => h other (List.mem_cons_of_mem item hother)) hitem hout

/-- Adding several pairs keeps search trees. -/
theorem preserves_addAll {pairs : List Pair} (h : ∀ pair ∈ pairs, pair.value.Ordered) :
    Preserves (addAll pairs) :=
  preserves_foldlM fun pair hpair => preserves_addDotted true pair.path pair.key (h pair hpair)

/-- A change that keeps search trees keeps them inside outer keys. -/
theorem preserves_within (h : Preserves change) (path : List String) :
    Preserves (within change path) := by
  induction path with
  | nil => exact fun entries out hentries hout => h hentries hout
  | cons outer path ih =>
    intro entries out hentries hout
    rw [within] at hout
    split at hout
    case h_1 => exact hentries.changeTable ih ordered_empty hout
    case h_2 => cases hout
    case h_3 hget => exact hentries.changeTable ih (hentries.found hget).ofTable hout
    case h_4 hget =>
      have hfound := hentries.found hget
      exact hentries.changeLast ih hfound.ofLast hfound.ofEarlier hout
    case h_5 => cases hout

/-- Opening the table of a header keeps search trees. -/
theorem preserves_openTable {pairs : List Pair} (h : ∀ pair ∈ pairs, pair.value.Ordered)
    (key : String) : Preserves (openTable pairs key) := by
  intro entries out hentries hout
  unfold openTable at hout
  split at hout
  case h_1 => exact hentries.changeTable (preserves_addAll h) ordered_empty hout
  case h_2 hget =>
    exact hentries.changeTable (preserves_addAll h) (hentries.found hget).ofTable hout
  case h_3 => cases hout

/-- Adding one more table to a list keeps search trees. -/
theorem preserves_appendTable {pairs : List Pair} (h : ∀ pair ∈ pairs, pair.value.Ordered)
    (key : String) : Preserves (appendTable pairs key) := by
  intro entries out hentries hout
  unfold appendTable at hout
  split at hout
  case h_1 =>
    exact hentries.changeLast (preserves_addAll h) ordered_empty (List.forall_mem_nil _) hout
  case h_2 hget =>
    have hfound := hentries.found hget
    have hbefore := List.forall_mem_cons.2 ⟨hfound.ofLast, hfound.ofEarlier⟩
    exact hentries.changeLast (preserves_addAll h) ordered_empty hbefore hout
  case h_3 => cases hout

end Entries

/-! ## Reading values -/

open Entries (Pair)

/-- What a reader yields satisfies a condition. -/
def Yields {α : Type} (suits : α → Prop) (reader : Reader α) : Prop :=
  ∀ ⦃input result rest⦄, reader input = some (result, rest) → suits result

variable {item : Reader Value}

/-- The rest of a list holds values of which each has search trees only. -/
theorem yields_arrayTail (h : Yields Value.Ordered item) (bound : List Char) :
    Yields (fun items => ∀ value ∈ items, Value.Ordered value) (arrayTail item bound) := by
  induction bound with
  | nil =>
    intro input items rest hitems
    cases hitems
  | cons char bound ih =>
    intro input items rest hitems
    rw [arrayTail] at hitems
    split at hitems
    case h_1 =>
      cases hitems
      exact List.forall_mem_nil _
    case h_2 =>
      obtain ⟨⟨value, behind⟩, hvalue, hitems⟩ := Option.bind_eq_some_iff.1 hitems
      dsimp only at hitems
      split at hitems
      case h_1 =>
        cases hitems
        exact List.forall_mem_singleton.2 (h hvalue)
      case h_2 =>
        obtain ⟨⟨values, behind⟩, hvalues, hitems⟩ := Option.bind_eq_some_iff.1 hitems
        cases hitems
        exact List.forall_mem_cons.2 ⟨h hvalue, ih hvalues⟩
      case h_3 => cases hitems

/-- A pair has a value with search trees only. -/
theorem yields_pair (h : Yields Value.Ordered item) :
    Yields (fun pair => pair.value.Ordered) (pair item) := by
  intro input result rest hresult
  obtain ⟨⟨⟨path, key⟩, behind⟩, hkey, hresult⟩ := Option.bind_eq_some_iff.1 hresult
  dsimp only at hresult
  split at hresult
  case h_1 =>
    obtain ⟨⟨value, behind⟩, hvalue, hresult⟩ := Option.bind_eq_some_iff.1 hresult
    cases hresult
    exact h hvalue
  case h_2 => cases hresult

/-- The pairs between braces have values with search trees only. -/
theorem yields_inlinePairs (h : Yields Value.Ordered item) (bound : List Char) :
    Yields (fun pairs => ∀ pair ∈ pairs, Value.Ordered pair.value) (inlinePairs item bound) := by
  induction bound with
  | nil =>
    intro input pairs rest hpairs
    cases hpairs
  | cons char bound ih =>
    intro input pairs rest hpairs
    rw [inlinePairs] at hpairs
    obtain ⟨⟨first, behind⟩, hfirst, hpairs⟩ := Option.bind_eq_some_iff.1 hpairs
    dsimp only at hpairs
    split at hpairs
    case h_1 =>
      cases hpairs
      exact List.forall_mem_singleton.2 (yields_pair h hfirst)
    case h_2 =>
      obtain ⟨⟨others, behind⟩, hothers, hpairs⟩ := Option.bind_eq_some_iff.1 hpairs
      cases hpairs
      exact List.forall_mem_cons.2 ⟨yields_pair h hfirst, ih hothers⟩
    case h_3 => cases hpairs

/-- The rest of a table between braces gives a value with search trees only. -/
theorem yields_inlineTail (h : Yields Value.Ordered item) :
    Yields Value.Ordered (inlineTail item) := by
  intro input value rest hvalue
  unfold inlineTail at hvalue
  split at hvalue
  case h_1 =>
    cases hvalue
    exact .table _ Entries.ordered_empty
  case h_2 =>
    obtain ⟨⟨pairs, behind⟩, hpairs, hvalue⟩ := Option.bind_eq_some_iff.1 hvalue
    obtain ⟨entries, hentries, hvalue⟩ := Option.bind_eq_some_iff.1 hvalue
    cases hvalue
    have hadded := Entries.preserves_addAll (yields_inlinePairs h _ hpairs)
    exact .table _ (hadded Entries.ordered_empty hentries)

/-- A value that is a single token holds no tables. -/
theorem Scalar.ordered_ofToken? {token : List Char} (h : ofToken? token = some value) :
    value.Ordered := by
  unfold ofToken? at h
  split_ifs at h
  · cases h
    exact .boolean true
  · cases h
    exact .boolean false
  · cases h
    exact .moment _
  · cases h
    exact .decimal _
  · obtain ⟨number, -, rfl⟩ := Option.map_eq_some_iff.1 h
    exact .integer number

/-- A value without brackets holds no tables. -/
theorem Scalar.yields_read : Yields Value.Ordered Scalar.read := by
  intro input value rest hvalue
  obtain ⟨found, hfound, hvalue⟩ := Option.bind_eq_some_iff.1 hvalue
  cases hvalue
  exact Scalar.ordered_ofToken? hfound

/-- What a reader yields satisfies what the function on its results ensures. -/
theorem yields_map {α β : Type} {suits : α → Prop} {f : β → α} (reader : Reader β)
    (h : ∀ result, suits (f result)) :
    Yields suits fun input => (reader input).map fun (result, rest) => (f result, rest) := by
  intro input result rest hresult
  obtain ⟨found, -, hfound⟩ := Option.map_eq_some_iff.1 hresult
  cases hfound
  exact h found.1

/-- A value is read with search trees only. -/
theorem yields_value (depth : Nat) : Yields Value.Ordered (Toml.value depth) := by
  -- A list or a table holds values that are nested less deep.
  induction depth using Nat.strongRecOn with
  | ind depth ih =>
    intro input result rest h
    rw [Toml.value.eq_def] at h
    split at h
    case h_1 => exact yields_map string Value.Ordered.text h
    case h_2 => exact yields_map string Value.Ordered.text h
    case h_3 => cases h
    case h_4 => cases h
    case h_5 inner behind =>
      obtain ⟨⟨items, behind⟩, hitems, h⟩ := Option.map_eq_some_iff.1 h
      cases h
      exact .array (yields_arrayTail (ih inner inner.lt_succ_self) _ hitems)
    case h_6 inner behind => exact yields_inlineTail (ih inner inner.lt_succ_self) h
    case h_7 => exact Scalar.yields_read h

/-! ## Reading documents -/

/-- The value of a statement is a search tree, if it has a value. -/
inductive Statement.Ordered : Statement → Prop where
  | pair {pair : Pair} (hpair : pair.value.Ordered) : Statement.Ordered (.pair pair)
  | table (path : List String) (key : String) : Statement.Ordered (.table path key)
  | element (path : List String) (key : String) : Statement.Ordered (.element path key)

/-- A header is read with search trees only. -/
theorem yields_header : Yields Statement.Ordered header := by
  intro input result rest h
  unfold header at h
  split at h
  case h_1 =>
    obtain ⟨⟨⟨path, key⟩, behind⟩, -, h⟩ := Option.bind_eq_some_iff.1 h
    dsimp only at h
    split at h
    · cases h
      exact .element path key
    · cases h
  case h_2 =>
    obtain ⟨⟨⟨path, key⟩, behind⟩, -, h⟩ := Option.bind_eq_some_iff.1 h
    dsimp only at h
    split at h
    · cases h
      exact .table path key
    · cases h
  case h_3 => cases h

/-- A statement is read with search trees only. -/
theorem yields_statement : Yields Statement.Ordered statement := by
  intro input result rest h
  unfold statement at h
  split at h
  case h_1 => exact yields_header h
  case h_2 =>
    obtain ⟨⟨pair, behind⟩, hpair, h⟩ := Option.map_eq_some_iff.1 h
    cases h
    exact .pair (yields_pair (yields_value _) hpair)

/-- All statements of a document are read with search trees only. -/
theorem ordered_statements {fuel : Nat} {input : List Char} {found : List Statement}
    (h : statements fuel input = some found) : ∀ item ∈ found, item.Ordered := by
  induction fuel generalizing input found with
  | zero => cases h
  | succ fuel ih =>
    rw [statements] at h
    split at h
    case h_1 =>
      cases h
      exact List.forall_mem_nil _
    case h_2 =>
      split at h
      case h_1 => exact ih h
      case h_2 =>
        obtain ⟨⟨first, behind⟩, hfirst, h⟩ := Option.bind_eq_some_iff.1 h
        obtain ⟨next, -, h⟩ := Option.bind_eq_some_iff.1 h
        obtain ⟨others, hothers, h⟩ := Option.bind_eq_some_iff.1 h
        cases h
        exact List.forall_mem_cons.2 ⟨yields_statement hfirst, ih hothers⟩

/-- The pairs of a document are those of its statements, in front of the headers and below them. -/
theorem ordered_sections {items : List Statement} (h : ∀ item ∈ items, item.Ordered) :
    (∀ pair ∈ (sections items).1, pair.value.Ordered) ∧
      ∀ part ∈ (sections items).2, ∀ pair ∈ part.pairs, pair.value.Ordered := by
  induction items with
  | nil => exact ⟨List.forall_mem_nil _, List.forall_mem_nil _⟩
  | cons first rest ih =>
    obtain ⟨hpairs, hlater⟩ := ih fun item hitem => h item (List.mem_cons_of_mem first hitem)
    have hfirst := h first List.mem_cons_self
    cases hfirst with
    | pair hpair => exact ⟨List.forall_mem_cons.2 ⟨hpair, hpairs⟩, hlater⟩
    | table => exact ⟨List.forall_mem_nil _, List.forall_mem_cons.2 ⟨hpairs, hlater⟩⟩
    | element => exact ⟨List.forall_mem_nil _, List.forall_mem_cons.2 ⟨hpairs, hlater⟩⟩

/-- Adding a header with the pairs below it keeps search trees. -/
theorem preserves_addSection {part : Section} (h : ∀ pair ∈ part.pairs, pair.value.Ordered) :
    Entries.Preserves fun entries => addSection entries part := by
  refine Entries.preserves_within ?_ part.path
  split
  · exact Entries.preserves_appendTable h part.key
  · exact Entries.preserves_openTable h part.key

/-- All tables of a document are search trees. -/
theorem ordered_parse {text : String} (h : parse text = some entries) : entries.Ordered := by
  obtain ⟨found, hfound, h⟩ := Option.bind_eq_some_iff.1 h
  obtain ⟨hpairs, hlater⟩ := ordered_sections (ordered_statements hfound)
  obtain ⟨leading, hleading, h⟩ := Option.bind_eq_some_iff.1 h
  have hordered := Entries.preserves_addAll hpairs Entries.ordered_empty hleading
  exact Entries.preserves_foldlM (fun part hpart => preserves_addSection (hlater part hpart))
    hordered h

end ElfScope.Toml
