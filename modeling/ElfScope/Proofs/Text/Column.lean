import ElfScope.Text.Character
import ElfScope.Text.Column
import Mathlib.Algebra.Group.Nat.Defs
import Mathlib.Data.List.DropRight

/-!
# Numbers and columns, read back

Digits have a value, so different numbers are written differently (`decimal_injective`,
`hexColumn_injective`). A solid text holds no blank and no newline. Where the columns of a row are
solid and blanks stand between them, the row is read back column by column, from the left
(`padRight_blank_inj`, `padLeft_blank_inj`) or from the right (`blank_padLeft_inj`,
`blank_padRight_inj`), however much wider than its column a text may be.
-/

namespace ElfScope.Text

/-! ## The value of digits -/

/-- The number that some digits stand for. -/
def valueOf (base : Nat) (digits : List Char) : Nat :=
  digits.foldl (fun value digit => base * value + (hexDigit? digit).getD 0) 0

/-- A digit is read back from its character. -/
theorem hexDigit?_digitChar : ∀ digit < 16, hexDigit? (Nat.digitChar digit) = some digit := by
  decide

/-- The digits of a number stand for it. -/
theorem valueOf_toDigits {base : Nat} (hbase : 1 < base) (hle : base ≤ 16) (number : Nat) :
    valueOf base (Nat.toDigits base number) = number := by
  have hdigit {digit : Nat} (hlt : digit < base) :
      (hexDigit? (Nat.digitChar digit)).getD 0 = digit := by
    rw [hexDigit?_digitChar digit (by omega), Option.getD_some]
  induction number using Nat.strongRecOn with
  | ind number ih =>
    rw [Nat.toDigits_eq_if hbase]
    split
    case isTrue hlt => simp [valueOf, hdigit hlt]
    case isFalse hge =>
      have hquotient := ih (number / base) (Nat.div_lt_self (by omega) hbase)
      rw [valueOf] at hquotient
      rw [valueOf, List.foldl_append, hquotient, List.foldl_cons, List.foldl_nil,
        hdigit (Nat.mod_lt number (by omega))]
      exact Nat.div_add_mod number base

/-- Leading zeros add nothing. -/
theorem valueOf_zeros_append (base count : Nat) (digits : List Char) :
    valueOf base (List.replicate count '0' ++ digits) = valueOf base digits := by
  induction count with
  | zero => rfl
  | succ count ih => exact ih

/-- No two numbers have the same decimal. -/
theorem decimal_injective : Function.Injective decimal := by
  intro first second h
  have hvalue := congrArg (fun text => valueOf 10 text.toList) h
  simpa [valueOf_toDigits] using hvalue

/-- Numbers in a hexadecimal column are different where the texts are. -/
theorem hexColumn_injective (width : Nat) : Function.Injective (hexColumn width) := by
  intro first second h
  have hvalue := congrArg (fun text => valueOf 16 text.toList) h
  simpa [hexColumn, valueOf_zeros_append, valueOf_toDigits] using hvalue

/-- No two numbers have the same hexadecimal. -/
theorem hex_injective : Function.Injective hex := by
  intro first second h
  have hvalue := congrArg (fun text => valueOf 16 text.toList) h
  simpa [valueOf_toDigits] using hvalue

/-- No two numbers have the same hexadecimal literal. -/
theorem hexLiteral_injective : Function.Injective hexLiteral := fun _ _ h =>
  hex_injective ((String.append_right_inj _).1 h)

/-- No two bytes have the same hexadecimal digits. -/
theorem hexByte_injective : Function.Injective hexByte := fun _ _ h =>
  UInt8.toNat_inj.1 (hexColumn_injective 2 h)

/-! ## How wide texts are -/

/-- A text padded on the left is as wide as the column, or wider by itself. -/
@[simp]
theorem length_padLeft (fill : Char) (width : Nat) (text : String) :
    (padLeft fill width text).length = max width text.length := by
  rw [padLeft, String.length_append, String.length_ofList, List.length_replicate]
  omega

/-- A text padded on the right is as wide as the column, or wider by itself. -/
@[simp]
theorem length_padRight (width : Nat) (text : String) :
    (padRight width text).length = max width text.length := by
  rw [padRight, String.length_append, String.length_ofList, List.length_replicate]
  omega

/-- The numbers with few digits are those below a power. -/
theorem length_decimal_le_iff {width number : Nat} (hwidth : 0 < width) :
    (decimal number).length ≤ width ↔ number < 10 ^ width := by
  rw [decimal, String.length_ofList, Nat.length_toDigits_le_iff (by decide) hwidth]

/-- A hexadecimal fits a column exactly if its number is less than the power of sixteen. -/
theorem length_hex_le_iff {width number : Nat} (hwidth : 0 < width) :
    (hex number).length ≤ width ↔ number < 16 ^ width := by
  rw [hex, String.length_ofList, Nat.length_toDigits_le_iff (by decide) hwidth]

/-- A hexadecimal column is not wider than planned, if its number is below the power. -/
theorem length_hexColumn {width number : Nat} (hwidth : 0 < width) (h : number < 16 ^ width) :
    (hexColumn width number).length = width := by
  rw [hexColumn, length_padLeft, Nat.max_eq_left ((length_hex_le_iff hwidth).2 h)]

/-- No byte needs more than two digits. -/
theorem length_hexByte (byte : UInt8) : (hexByte byte).length = 2 :=
  length_hexColumn (by decide) byte.toNat_lt

/-- Bytes are settled by their digits behind blanks. -/
theorem hexBytes_inj {first second : List UInt8} (hlength : first.length = second.length)
    (h : String.join (first.map fun byte => " " ++ hexByte byte)
      = String.join (second.map fun byte => " " ++ hexByte byte)) : first = second := by
  induction first generalizing second with
  | nil => exact (List.eq_nil_of_length_eq_zero hlength.symm).symm
  | cons byte rest ih =>
    cases second with
    | nil => cases hlength
    | cons other others =>
      have hchars := congrArg String.toList h
      simp only [List.map_cons, String.join_cons, String.toList_append, List.append_assoc,
        List.append_cancel_left_eq] at hchars
      have hwidth : (hexByte byte).toList.length = (hexByte other).toList.length := by
        rw [String.length_toList, String.length_toList, length_hexByte, length_hexByte]
      obtain ⟨hdigits, hrest⟩ := List.append_inj hchars hwidth
      have hbyte : byte = other := hexByte_injective (String.toList_inj.1 hdigits)
      rw [hbyte, ih (Nat.succ.inj hlength) (String.toList_inj.1 hrest)]

/-! ## Solid texts -/

/-- A text without blanks and newlines. -/
def Solid (text : String) : Prop :=
  ' ' ∉ text.toList ∧ '\n' ∉ text.toList

/-- `Solid` is decidable by a look at the characters. -/
instance (text : String) : Decidable (Solid text) :=
  inferInstanceAs (Decidable (_ ∧ _))

/-- Two solid texts in a row are solid. -/
theorem Solid.append {first second : String} (h : Solid first) (hsecond : Solid second) :
    Solid (first ++ second) := by
  simp only [Solid, String.toList_append, List.mem_append, not_or]
  exact ⟨⟨h.1, hsecond.1⟩, h.2, hsecond.2⟩

/-- Digits are the characters of digits. -/
theorem exists_digitChar_of_mem_toDigits {base number : Nat} {char : Char} (hbase : 1 < base)
    (h : char ∈ Nat.toDigits base number) : ∃ digit < base, char = Nat.digitChar digit := by
  induction number using Nat.strongRecOn with
  | ind number ih =>
    rw [Nat.toDigits_eq_if hbase] at h
    split at h
    case isTrue hlt => exact ⟨number, hlt, List.mem_singleton.1 h⟩
    case isFalse hge =>
      rcases List.mem_append.1 h with hmem | hmem
      · exact ih (number / base) (Nat.div_lt_self (by omega) hbase) hmem
      · exact ⟨number % base, Nat.mod_lt number (by omega), List.mem_singleton.1 hmem⟩

/-- A character that is no digit is not among the digits of a number. -/
theorem not_mem_toDigits {base number : Nat} {char : Char} (hbase : 1 < base) (hle : base ≤ 16)
    (hchar : ∀ digit < 16, char ≠ Nat.digitChar digit) : char ∉ Nat.toDigits base number := by
  intro hmem
  obtain ⟨digit, hlt, rfl⟩ := exists_digitChar_of_mem_toDigits hbase hmem
  exact hchar digit (by omega) rfl

/-- A decimal is solid. -/
theorem solid_decimal (number : Nat) : Solid (decimal number) := by
  simp only [Solid, toList_decimal]
  exact ⟨not_mem_toDigits (by decide) (by decide) (by decide),
    not_mem_toDigits (by decide) (by decide) (by decide)⟩

/-- A hexadecimal is solid. -/
theorem solid_hex (number : Nat) : Solid (hex number) := by
  simp only [Solid, toList_hex]
  exact ⟨not_mem_toDigits (by decide) (by decide) (by decide),
    not_mem_toDigits (by decide) (by decide) (by decide)⟩

/-- A hexadecimal literal is solid. -/
theorem solid_hexLiteral (number : Nat) : Solid (hexLiteral number) :=
  Solid.append (by decide) (solid_hex number)

/-- A hexadecimal column is solid. -/
theorem solid_hexColumn (width number : Nat) : Solid (hexColumn width number) := by
  refine Solid.append ?_ (solid_hex number)
  simp [Solid]

/-- A hexadecimal byte is solid. -/
theorem solid_hexByte (byte : UInt8) : Solid (hexByte byte) :=
  solid_hexColumn 2 byte.toNat

/-- A decimal has a digit. -/
theorem decimal_ne_empty (number : Nat) : decimal number ≠ "" := by
  intro h
  have hdigits := congrArg String.toList h
  simp [Nat.toDigits_ne_nil] at hdigits

/-- A hexadecimal has a digit. -/
theorem hex_ne_empty (number : Nat) : hex number ≠ "" := by
  intro h
  have hdigits := congrArg String.toList h
  simp [Nat.toDigits_ne_nil] at hdigits

/-! ## Characters in front of a separator -/

section Separator

variable {α : Type} [BEq α] [LawfulBEq α] {separator : α} {first second rest other : List α}

/-- What stands in front of the first separator and what stands behind it are settled. -/
theorem append_cons_inj (hfirst : separator ∉ first) (hsecond : separator ∉ second)
    (h : first ++ separator :: rest = second ++ separator :: other) :
    first = second ∧ rest = other := by
  have hsplit := congrArg (List.splitOn separator) h
  rw [List.splitOn_append_cons_self_of_not_mem hfirst,
    List.splitOn_append_cons_self_of_not_mem hsecond] at hsplit
  obtain rfl := (List.cons.inj hsplit).1
  exact ⟨rfl, (List.cons.inj (List.append_cancel_left h)).2⟩

variable {count otherCount : Nat}

/-- More separators may follow, if what stands in front of them says how many. -/
theorem append_replicate_cons_inj (hfirst : separator ∉ first) (hsecond : separator ∉ second)
    (hcount : first = second → count = otherCount)
    (h : first ++ (List.replicate count separator ++ separator :: rest)
      = second ++ (List.replicate otherCount separator ++ separator :: other)) :
    first = second ∧ rest = other := by
  have hrotate (count : Nat) (behind : List α) :
      List.replicate count separator ++ separator :: behind
        = separator :: (List.replicate count separator ++ behind) := by
    rw [List.append_cons, ← List.replicate_succ', List.replicate_succ, List.cons_append]
  rw [hrotate, hrotate] at h
  obtain ⟨hsame, hrest⟩ := append_cons_inj hfirst hsecond h
  rw [hcount hsame] at hrest
  exact ⟨hsame, List.append_cancel_left hrest⟩

/-- Separators may lead, if something stands between them and the next one. -/
theorem replicate_append_cons_inj (hfirst : separator ∉ first) (hsecond : separator ∉ second)
    (hne : first ≠ []) (hother : second ≠ [])
    (h : List.replicate count separator ++ (first ++ separator :: rest)
      = List.replicate otherCount separator ++ (second ++ separator :: other)) :
    first = second ∧ rest = other := by
  have hdrop {count : Nat} {word behind : List α} (hword : separator ∉ word) (hne : word ≠ []) :
      (List.replicate count separator ++ (word ++ behind)).dropWhile (· == separator)
        = word ++ behind := by
    obtain ⟨char, chars, rfl⟩ := List.exists_cons_of_ne_nil hne
    have hchar : char ≠ separator := fun heq => hword (by simp [heq])
    rw [List.dropWhile_append_of_pos (by simp)]
    simp [hchar]
  have hwords := congrArg (List.dropWhile (· == separator)) h
  rw [hdrop hfirst hne, hdrop hsecond hother] at hwords
  exact append_cons_inj hfirst hsecond hwords

end Separator

/-! ## Columns, read from the left -/

section Columns

variable {width : Nat} {first second rest other : String}

/-- A line that starts with a solid text and a blank determines the text and what follows. -/
theorem append_blank_inj (hfirst : Solid first) (hsecond : Solid second)
    (h : first ++ " " ++ rest = second ++ " " ++ other) : first = second ∧ rest = other := by
  have hchars := congrArg String.toList h
  simp only [String.toList_append, List.append_assoc] at hchars
  obtain ⟨hwords, hrest⟩ := append_cons_inj hfirst.1 hsecond.1 hchars
  exact ⟨String.toList_inj.1 hwords, String.toList_inj.1 hrest⟩

/-- A line that starts with a column filled from the right and a blank determines the text in the
column and what follows. -/
theorem padRight_blank_inj (hfirst : Solid first) (hsecond : Solid second)
    (h : padRight width first ++ " " ++ rest = padRight width second ++ " " ++ other) :
    first = second ∧ rest = other := by
  have hchars := congrArg String.toList h
  simp only [String.toList_append, toList_padRight, List.append_assoc] at hchars
  have hcount (hsame : first.toList = second.toList) :
      width - first.length = width - second.length := by
    rw [String.toList_inj.1 hsame]
  obtain ⟨hwords, hrest⟩ := append_replicate_cons_inj hfirst.1 hsecond.1 hcount hchars
  exact ⟨String.toList_inj.1 hwords, String.toList_inj.1 hrest⟩

/-- A line that starts with a column filled from the left, which is not empty, and a blank
determines the text in the column and what follows. -/
theorem padLeft_blank_inj (hfirst : Solid first) (hsecond : Solid second)
    (hne : first ≠ "") (hother : second ≠ "")
    (h : padLeft ' ' width first ++ " " ++ rest = padLeft ' ' width second ++ " " ++ other) :
    first = second ∧ rest = other := by
  have hchars := congrArg String.toList h
  simp only [String.toList_append, toList_padLeft, List.append_assoc] at hchars
  obtain ⟨hwords, hrest⟩ := replicate_append_cons_inj hfirst.1 hsecond.1
    (mt String.toList_eq_nil_iff.1 hne) (mt String.toList_eq_nil_iff.1 hother) hchars
  exact ⟨String.toList_inj.1 hwords, String.toList_inj.1 hrest⟩

/-- What follows a column belongs to it as well. -/
theorem padLeft_append (fill : Char) (width : Nat) (text suffix : String) :
    padLeft fill width text ++ suffix
      = padLeft fill (width + suffix.length) (text ++ suffix) := by
  simp [padLeft, String.append_assoc, Nat.add_sub_add_right]

/-! ## Columns, read from the right

The characters of a row in reverse are a row whose columns are filled from the other side. -/

/-- A line that ends in a blank and a solid text determines the text and what is in front of it. -/
theorem blank_append_inj (hfirst : Solid first) (hsecond : Solid second)
    (h : rest ++ " " ++ first = other ++ " " ++ second) : rest = other ∧ first = second := by
  have hchars := congrArg (fun text => text.toList.reverse) h
  simp only [String.toList_append, List.reverse_append, List.append_assoc] at hchars
  obtain ⟨hwords, hrest⟩ := append_cons_inj (mt List.mem_reverse.1 hfirst.1)
    (mt List.mem_reverse.1 hsecond.1) hchars
  exact ⟨String.toList_inj.1 (List.reverse_inj.1 hrest),
    String.toList_inj.1 (List.reverse_inj.1 hwords)⟩

/-- A line that ends in a blank and a column filled from the left determines the text in the column
and what is in front of it. -/
theorem blank_padLeft_inj (hfirst : Solid first) (hsecond : Solid second)
    (h : rest ++ " " ++ padLeft ' ' width first = other ++ " " ++ padLeft ' ' width second) :
    rest = other ∧ first = second := by
  have hchars := congrArg (fun text => text.toList.reverse) h
  simp only [String.toList_append, toList_padLeft, List.reverse_append, List.reverse_replicate,
    List.append_assoc] at hchars
  have hcount (hsame : first.toList.reverse = second.toList.reverse) :
      width - first.length = width - second.length := by
    rw [String.toList_inj.1 (List.reverse_inj.1 hsame)]
  obtain ⟨hwords, hrest⟩ := append_replicate_cons_inj (mt List.mem_reverse.1 hfirst.1)
    (mt List.mem_reverse.1 hsecond.1) hcount hchars
  exact ⟨String.toList_inj.1 (List.reverse_inj.1 hrest),
    String.toList_inj.1 (List.reverse_inj.1 hwords)⟩

/-- A line that ends in a blank and a column filled from the right, which is not empty, determines
the text in the column and what is in front of it. -/
theorem blank_padRight_inj (hfirst : Solid first) (hsecond : Solid second)
    (hne : first ≠ "") (hother : second ≠ "")
    (h : rest ++ " " ++ padRight width first = other ++ " " ++ padRight width second) :
    rest = other ∧ first = second := by
  have hchars := congrArg (fun text => text.toList.reverse) h
  simp only [String.toList_append, toList_padRight, List.reverse_append, List.reverse_replicate,
    List.append_assoc] at hchars
  obtain ⟨hwords, hrest⟩ := replicate_append_cons_inj (mt List.mem_reverse.1 hfirst.1)
    (mt List.mem_reverse.1 hsecond.1) (by simpa using hne) (by simpa using hother) hchars
  exact ⟨String.toList_inj.1 (List.reverse_inj.1 hrest),
    String.toList_inj.1 (List.reverse_inj.1 hwords)⟩

variable {number otherNumber : Nat}

/-- A line that ends in a blank and a hexadecimal column determines the number and what is in front
of it. -/
theorem blank_hexColumn_inj
    (h : rest ++ " " ++ hexColumn width number = other ++ " " ++ hexColumn width otherNumber) :
    rest = other ∧ number = otherNumber := by
  obtain ⟨hrest, hdigits⟩ := blank_append_inj (solid_hexColumn _ _) (solid_hexColumn _ _) h
  exact ⟨hrest, hexColumn_injective width hdigits⟩

/-- A line that ends in a blank and a padded decimal determines the number and what is in front of
it. -/
theorem blank_padLeft_decimal_inj
    (h : rest ++ " " ++ padLeft ' ' width (decimal number)
      = other ++ " " ++ padLeft ' ' width (decimal otherNumber)) :
    rest = other ∧ number = otherNumber := by
  obtain ⟨hrest, hdigits⟩ := blank_padLeft_inj (solid_decimal _) (solid_decimal _) h
  exact ⟨hrest, decimal_injective hdigits⟩

end Columns

/-! ## Blanks at the end -/

/-- A text without the blanks at its end. -/
def trimmed (text : String) : String :=
  String.ofList (text.toList.rdropWhile (· == ' '))

/-- To fill a column from the right is to add blanks at the end. -/
@[simp]
theorem trimmed_padRight (width : Nat) (text : String) :
    trimmed (padRight width text) = trimmed text := by
  rw [trimmed, trimmed, toList_padRight]
  induction width - text.length with
  | zero => simp
  | succ count ih =>
    rw [List.replicate_succ', ← List.append_assoc, List.rdropWhile_concat_pos _ _ _ (by decide), ih]

end ElfScope.Text
