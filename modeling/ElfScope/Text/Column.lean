/-!
# Numbers and columns

Numbers are written in decimal or in lowercase hexadecimal, without leading zeros unless a column
asks for them. A column pads a text that is too short and leaves a longer one whole, and its
width counts characters.
-/

namespace ElfScope.Text

/-- The digits of a number, in decimal. -/
def decimal (number : Nat) : String :=
  String.ofList (Nat.toDigits 10 number)

/-- The digits of a number, in lowercase hexadecimal. -/
def hex (number : Nat) : String :=
  String.ofList (Nat.toDigits 16 number)

/-- Hexadecimal digits behind `0x`. -/
def hexLiteral (number : Nat) : String :=
  "0x" ++ hex number

/-- Fills a column of `width` characters from the left, so that `text` ends it. -/
def padLeft (fill : Char) (width : Nat) (text : String) : String :=
  String.ofList (List.replicate (width - text.length) fill) ++ text

/-- Fills a column of `width` characters from the right, so that `text` starts it. -/
def padRight (width : Nat) (text : String) : String :=
  text ++ String.ofList (List.replicate (width - text.length) ' ')

/-- Hexadecimal digits, at least `width` of them. -/
def hexColumn (width number : Nat) : String :=
  padLeft '0' width (hex number)

/-- A byte as two hexadecimal digits. -/
def hexByte (byte : UInt8) : String :=
  hexColumn 2 byte.toNat

/-- The characters of a decimal are its digits to the base ten. -/
@[simp]
theorem toList_decimal (number : Nat) : (decimal number).toList = Nat.toDigits 10 number := by
  simp [decimal]

/-- The characters of a hexadecimal are its digits to the base sixteen. -/
@[simp]
theorem toList_hex (number : Nat) : (hex number).toList = Nat.toDigits 16 number := by
  simp [hex]

/-- Padding on the left puts the missing characters in front. -/
@[simp]
theorem toList_padLeft (fill : Char) (width : Nat) (text : String) :
    (padLeft fill width text).toList =
      List.replicate (width - text.length) fill ++ text.toList := by
  simp [padLeft]

/-- Padding on the right puts the missing blanks behind. -/
@[simp]
theorem toList_padRight (width : Nat) (text : String) :
    (padRight width text).toList = text.toList ++ List.replicate (width - text.length) ' ' := by
  simp [padRight]

end ElfScope.Text
