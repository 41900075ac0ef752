import ElfScope.Proofs.Text.Column
import ElfScope.Report.Basic
import Mathlib.Algebra.GroupWithZero.Nat

/-!
# Reports, part by part and line by line

The text of some lines is the texts of the lines, one behind the other. So a report with symbols is
the report without them, an empty line, and the symbol report (`full_some_symbols`). The lines are
read back from the text, if none of them holds a newline (`linesOf_text`).
-/

namespace ElfScope.Report

/-- No lines make an empty text. -/
@[simp]
theorem text_nil : text [] = "" := rfl

/-- A text starts with its first line. -/
@[simp]
theorem text_cons (line : String) (rest : List String) :
    text (line :: rest) = endLine line ++ text rest := by
  rw [text, List.map_cons, String.join_cons, text]

/-- The lines of one text and of another make the one text and then the other. -/
@[simp]
theorem text_append (first second : List String) :
    text (first ++ second) = text first ++ text second := by
  rw [text, List.map_append, String.join_append, text, text]

/-- Symbols come last, behind an empty line, and leave what is in front of them as it is. -/
theorem full_some_symbols (header : FileHeader) (sections : Option (List SectionHeader))
    (symbols : List Symbol) :
    full header sections (some symbols)
      = full header sections none ++ "\n" ++ text (symbolLines symbols) := by
  simp only [full, lines, part, text_append, text_cons, text_nil, String.append_empty, endLine,
    String.empty_append, String.append_assoc]

/-- Sections are numbered from the first row on. -/
theorem sectionRows_eq (index : Nat) (sections : List SectionHeader) :
    sectionRows index sections = sections.mapIdx fun place => sectionRow (index + place) := by
  induction sections generalizing index with
  | nil => rfl
  | cons entry rest ih =>
    rw [sectionRows, ih, List.mapIdx_cons]
    simp only [Nat.add_zero, Nat.add_right_comm index 1, Nat.add_assoc]

/-! ## Newlines -/

/-- How many newlines a text holds. -/
def newlines (text : String) : Nat :=
  text.toList.count '\n'

/-- The newlines of two texts in a row are added up. -/
@[simp]
theorem newlines_append (first second : String) :
    newlines (first ++ second) = newlines first + newlines second := by
  simp [newlines]

/-- There are no newlines in a text exactly if the character does not occur. -/
theorem newlines_eq_zero_iff {text : String} : newlines text = 0 ↔ '\n' ∉ text.toList :=
  List.count_eq_zero

/-- Filling a column adds no newline. -/
@[simp]
theorem newlines_padRight (width : Nat) (text : String) :
    newlines (Text.padRight width text) = newlines text := by
  simp [newlines, List.count_replicate]

/-- Padding has no newlines. -/
@[simp]
theorem newlines_padLeft (width : Nat) (text : String) :
    newlines (Text.padLeft ' ' width text) = newlines text := by
  simp [newlines, List.count_replicate]

/-- A text without blanks and newlines has no newlines. -/
theorem newlines_of_solid {text : String} (h : Text.Solid text) : newlines text = 0 :=
  newlines_eq_zero_iff.2 h.2

/-- A decimal has no newlines. -/
@[simp]
theorem newlines_decimal (number : Nat) : newlines (Text.decimal number) = 0 :=
  newlines_of_solid (Text.solid_decimal number)

/-- A hexadecimal has no newlines. -/
@[simp]
theorem newlines_hex (number : Nat) : newlines (Text.hex number) = 0 :=
  newlines_of_solid (Text.solid_hex number)

/-- A hexadecimal column has no newlines. -/
@[simp]
theorem newlines_hexColumn (width number : Nat) : newlines (Text.hexColumn width number) = 0 :=
  newlines_of_solid (Text.solid_hexColumn width number)

/-- A hexadecimal literal has no newlines. -/
@[simp]
theorem newlines_hexLiteral (number : Nat) : newlines (Text.hexLiteral number) = 0 :=
  newlines_of_solid (Text.solid_hexLiteral number)

/-- A hexadecimal byte has no newlines. -/
@[simp]
theorem newlines_hexByte (byte : UInt8) : newlines (Text.hexByte byte) = 0 :=
  newlines_of_solid (Text.solid_hexByte byte)

/-- Texts without newlines have none together. -/
theorem newlines_join {texts : List String} (h : ∀ text ∈ texts, newlines text = 0) :
    newlines (String.join texts) = 0 := by
  induction texts with
  | nil => rfl
  | cons text rest ih =>
    rw [String.join_cons, newlines_append, h text List.mem_cons_self,
      ih fun other hmem => h other (List.mem_cons_of_mem _ hmem)]

/-- Texts without newlines, joined without newlines, have none together. -/
theorem newlines_intercalate {separator : String} {texts : List String}
    (hseparator : newlines separator = 0) (h : ∀ text ∈ texts, newlines text = 0) :
    newlines (separator.intercalate texts) = 0 := by
  induction texts with
  | nil => rfl
  | cons text rest ih =>
    have htext := h text List.mem_cons_self
    cases rest with
    | nil => exact htext
    | cons other others =>
      rw [String.intercalate_cons_cons, newlines_append, newlines_append, htext, hseparator,
        ih fun text hmem => h text (List.mem_cons_of_mem _ hmem)]

/-- A newline ends each line, and the lines may hold more. -/
theorem newlines_text (lines : List String) :
    newlines (text lines) = lines.length + (lines.map newlines).sum := by
  induction lines with
  | nil => rfl
  | cons line rest ih =>
    have hend : newlines (endLine line) = newlines line + 1 := newlines_append line "\n"
    rw [text_cons, newlines_append, hend, ih, List.length_cons, List.map_cons, List.sum_cons]
    omega

/-- Lines without newlines are ended by one each. -/
theorem newlines_text_of_not_mem {lines : List String}
    (h : ∀ line ∈ lines, '\n' ∉ line.toList) : newlines (text lines) = lines.length := by
  have hzero : (lines.map newlines).sum = 0 := by
    apply List.sum_eq_zero_iff_forall_eq_nat.2
    intro count hcount
    obtain ⟨line, hmem, rfl⟩ := List.mem_map.1 hcount
    exact newlines_eq_zero_iff.2 (h line hmem)
  rw [newlines_text, hzero, Nat.add_zero]

/-! ## Lines -/

/-- The lines of a text: what stands in front of each newline, and at last what stands behind all
of them. -/
def linesOf (text : String) : List String :=
  (text.toList.splitOn '\n').map String.ofList

/-- Lines without newlines are the lines of their text. -/
theorem linesOf_text {lines : List String} (h : ∀ line ∈ lines, '\n' ∉ line.toList) :
    linesOf (text lines) = lines ++ [""] := by
  induction lines with
  | nil => rfl
  | cons line rest ih =>
    have hchars : (text (line :: rest)).toList = line.toList ++ '\n' :: (text rest).toList := by
      simp [endLine]
    have hrest := ih fun other hmem => h other (List.mem_cons_of_mem _ hmem)
    rw [linesOf] at hrest
    rw [linesOf, hchars,
      List.splitOn_append_cons_self_of_not_mem (h line List.mem_cons_self), List.map_cons, hrest,
      String.ofList_toList, List.cons_append]

/-- A text of lines without newlines determines the lines. -/
theorem text_inj {first second : List String} (hfirst : ∀ line ∈ first, '\n' ∉ line.toList)
    (hsecond : ∀ line ∈ second, '\n' ∉ line.toList) (h : text first = text second) :
    first = second := by
  have hlines := congrArg linesOf h
  rw [linesOf_text hfirst, linesOf_text hsecond] at hlines
  exact List.append_cancel_right hlines

end ElfScope.Report
