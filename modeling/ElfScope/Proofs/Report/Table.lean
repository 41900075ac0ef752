import ElfScope.Proofs.Report
import Mathlib.Data.List.Forall2

/-!
# Tables, read back

A table is a title, a line of column heads, and a row for each entry. Where the rows take their
newlines from the names of the entries, each entry has a line of its own in the text exactly if no
name holds a newline (`NamedRows.rowEach_iff`). Then the text settles the rows
(`NamedRows.forall₂_of_text_eq`).
-/

namespace ElfScope.Report

variable {α : Type} {title columns : String} {row : Nat → α → String} {name : α → String}
  {entries first second : List α}

/-- The lines of a table. -/
def table (title columns : String) (row : Nat → α → String) (entries : List α) : List String :=
  title :: columns :: entries.mapIdx row

/-- Behind the title and the column heads a text has a line for each entry, and no others: there are
two more lines than entries (`count`), and the line of an entry is its row (`line`). -/
structure RowEach (text : String) (row : Nat → α → String) (entries : List α) : Prop where
  count : newlines text = entries.length + 2
  line : ∀ index entry, entries[index]? = some entry →
    (linesOf text)[index + 2]? = some (row index entry)

/-- The newlines of a table are those of the names. -/
structure NamedRows (title columns : String) (row : Nat → α → String) (name : α → String)
    (entries : List α) : Prop where
  title : newlines title = 0
  columns : newlines columns = 0
  row : ∀ index, ∀ entry ∈ entries, newlines (row index entry) = newlines (name entry)

namespace NamedRows

/-- Apart from the ends of the lines, the newlines of the text are those of the names. -/
theorem newlines_text_table (h : NamedRows title columns row name entries) :
    newlines (text (table title columns row entries))
      = entries.length + 2 + (entries.map fun entry => newlines (name entry)).sum := by
  have hrows : (entries.mapIdx row).map newlines
      = entries.map fun entry => newlines (name entry) := by
    apply List.ext_getElem?
    intro index
    rw [List.getElem?_map, List.getElem?_mapIdx, List.getElem?_map]
    cases hentry : entries[index]? with
    | none => rfl
    | some entry =>
      simp only [Option.map_some, h.row index entry (List.mem_of_getElem? hentry)]
  rw [newlines_text]
  simp only [table, List.map_cons, h.title, h.columns, hrows, List.length_cons,
    List.length_mapIdx, List.sum_cons, Nat.zero_add, Nat.add_assoc, Nat.reduceAdd]

/-- No line of a table has a newline in it if no name has one. -/
theorem newline_not_mem_table (h : NamedRows title columns row name entries)
    (hnames : ∀ entry ∈ entries, '\n' ∉ (name entry).toList) :
    ∀ line ∈ table title columns row entries, '\n' ∉ line.toList := by
  intro line hmem
  rw [← newlines_eq_zero_iff]
  simp only [table, List.mem_cons, List.mem_mapIdx] at hmem
  rcases hmem with rfl | rfl | ⟨index, hlt, rfl⟩
  · exact h.title
  · exact h.columns
  · rw [h.row index _ (List.getElem_mem hlt)]
    exact newlines_eq_zero_iff.2 (hnames _ (List.getElem_mem hlt))

/-- Each entry has a line of its own exactly if no name holds a newline. -/
theorem rowEach_iff (h : NamedRows title columns row name entries) :
    RowEach (text (table title columns row entries)) row entries
      ↔ ∀ entry ∈ entries, '\n' ∉ (name entry).toList := by
  constructor
  · intro heach entry hmem
    have hcount := heach.count
    rw [h.newlines_text_table] at hcount
    have hsum : (entries.map fun entry => newlines (name entry)).sum = 0 := by omega
    have hzero := List.sum_eq_zero_iff_forall_eq_nat.1 hsum
    exact newlines_eq_zero_iff.1 (hzero _ (List.mem_map_of_mem hmem))
  · intro hnames
    refine ⟨?_, fun index entry hentry => ?_⟩
    · rw [newlines_text_of_not_mem (h.newline_not_mem_table hnames), table, List.length_cons,
        List.length_cons, List.length_mapIdx]
    · have hrow : (entries.mapIdx row)[index]? = some (row index entry) := by
        rw [List.getElem?_mapIdx, hentry, Option.map_some]
      have hlt : index < (entries.mapIdx row).length := (List.getElem?_eq_some_iff.1 hrow).1
      rw [linesOf_text (h.newline_not_mem_table hnames)]
      exact (List.getElem?_append_left hlt).trans hrow

/-- Two lists are alike, item by item, if equal rows are those of items that are. -/
theorem forall₂_of_mapIdx_eq {alike : α → α → Prop}
    (halike : ∀ index, ∀ a ∈ first, ∀ b ∈ second, row index a = row index b → alike a b)
    (h : first.mapIdx row = second.mapIdx row) : List.Forall₂ alike first second := by
  induction first generalizing second row with
  | nil =>
    obtain rfl := List.mapIdx_eq_nil_iff.1 h.symm
    exact .nil
  | cons a rest ih =>
    cases second with
    | nil => cases List.mapIdx_eq_nil_iff.1 h
    | cons b others =>
      rw [List.mapIdx_cons, List.mapIdx_cons, List.cons.injEq] at h
      refine .cons (halike 0 a (by simp) b (by simp) h.1) (ih ?_ h.2)
      exact fun index c hc d hd => halike (index + 1) c (by simp [hc]) d (by simp [hd])

/-- Where no name holds a newline, the text of a table settles what its rows do. -/
theorem forall₂_of_text_eq {alike : α → α → Prop}
    (hfirst : NamedRows title columns row name first)
    (hsecond : NamedRows title columns row name second)
    (hnames : ∀ entry ∈ first, '\n' ∉ (name entry).toList)
    (hothers : ∀ entry ∈ second, '\n' ∉ (name entry).toList)
    (halike : ∀ index, ∀ a ∈ first, ∀ b ∈ second, row index a = row index b → alike a b)
    (h : text (table title columns row first) = text (table title columns row second)) :
    List.Forall₂ alike first second := by
  have hlines := text_inj (hfirst.newline_not_mem_table hnames)
    (hsecond.newline_not_mem_table hothers) h
  rw [table, table, List.cons.injEq, List.cons.injEq] at hlines
  exact forall₂_of_mapIdx_eq halike hlines.2.2

end NamedRows

end ElfScope.Report
