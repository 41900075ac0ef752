import ElfScope.Toml.Lexeme
import ElfScope.Toml.Value

/-!
# Numbers, truth values and moments of TOML

A value without delimiters is a run of the characters that such values are made of, and the whole
run has to be one: a truth value, a whole number that fits 64 bits with a sign, a number with a
fraction or an exponent, or a date and time.
-/

namespace ElfScope.Toml.Scalar

/-- Whether a value without delimiters may hold a character. -/
def isBare (char : Char) : Bool :=
  char.isAlphanum || char == '_' || char == '+' || char == '-' || char == '.' || char == ':'

/-- The digits of a run in which single underscores may stand between digits. `afterDigit` says
whether a digit stands in front of the run. -/
def digits (accepts : Char → Bool) : Bool → List Char → Option (List Char)
  | afterDigit, [] => if afterDigit then some [] else none
  | afterDigit, char :: rest =>
    if char = '_' then
      if afterDigit then digits accepts false rest else none
    else if accepts char then (digits accepts true rest).map (char :: ·)
    else none

/-- The number that digits stand for. -/
def valueOf (base : Nat) (digits : List Char) : Nat :=
  digits.foldl (fun value char => base * value + (Text.hexDigit? char).getD 0) 0

/-- The digits of a whole number without a sign, of which zero alone may start with a zero. -/
def plainDigits (token : List Char) : Option (List Char) := do
  let run ← digits Char.isDigit false token
  match run with
  | '0' :: _ :: _ => failure
  | _ => return run

/-- The least whole number. -/
def least : Int := -0x8000000000000000

/-- The greatest whole number. -/
def greatest : Int := 0x7fffffffffffffff

/-- The digits of a number without the zeros in front. -/
def significant (digits : List Char) : List Char :=
  digits.dropWhile (· == '0')

/-- The most digits that a number in range can have, which it has in base two. -/
def mostDigits : Nat := 64

/-- The number that digits stand for, unless there are too many for a number in range. -/
def magnitude? (base : Nat) (digits : List Char) : Option Nat :=
  if (significant digits).length ≤ mostDigits then some (valueOf base (significant digits))
  else none

/-- A number, if it is neither below the least nor above the greatest. -/
def inRange (number : Int) : Option Int :=
  if least ≤ number ∧ number ≤ greatest then some number else none

/-- A number in another base than ten. -/
def based (base : Nat) (accepts : Char → Bool) (token : List Char) : Option Int := do
  inRange (← magnitude? base (← digits accepts false token))

/-- A sign in front of a run, and the run: whether the sign is a minus. -/
def splitSign : List Char → Bool × List Char
  | '+' :: rest => (false, rest)
  | '-' :: rest => (true, rest)
  | token => (false, token)

/-- A whole number. -/
def integer? : List Char → Option Int
  | '0' :: 'x' :: rest => based 16 (fun char => (Text.hexDigit? char).isSome) rest
  | '0' :: 'o' :: rest => based 8 (fun char => '0' ≤ char && char ≤ '7') rest
  | '0' :: 'b' :: rest => based 2 (fun char => char == '0' || char == '1') rest
  | token => do
    let (negative, rest) := splitSign token
    let magnitude : Int := ← magnitude? 10 (← plainDigits rest)
    inRange (if negative then -magnitude else magnitude)

/-- The number halfway between the greatest finite one, which is 2^1024 - 2^971, and 2^1024: it and
all above it are rounded to infinity. -/
def overflow : Nat := Nat.pow 2 1024 - Nat.pow 2 970

/-- How many digits the least overflowing number has. -/
def overflowDigits : Nat := 309

/-- The first `count` digits of a number, filled up with zeros. -/
def leading (count : Nat) (digits : List Char) : List Char :=
  digits.take count ++ List.replicate (count - digits.length) '0'

/-- Whether `digits` times ten to the `exponent` has to be rounded to infinity. The number of
digits in front of the point settles it unless it is that of the least overflowing number, and then
the digits behind the point do not matter. -/
def overflows (digits : List Char) (exponent : Int) : Bool :=
  let digits := significant digits
  let width : Int := digits.length + exponent
  if digits.isEmpty || width < overflowDigits then false
  else if overflowDigits < width then true
  else overflow ≤ valueOf 10 (leading overflowDigits digits)

/-- The exponent at which further digits stop to count: it is beyond all exponents of numbers that
are neither zero nor infinite. -/
def exponentLimit : Nat := 0x10000

/-- The exponent that digits give. Those behind the first that takes it to the limit are ignored. -/
def exponentOf (digits : List Char) : Nat :=
  digits.foldl (fun value char =>
    if value < exponentLimit then 10 * value + (Text.hexDigit? char).getD 0 else value) 0

/-- The exponent behind `e`. -/
def exponent? (token : List Char) : Option Int := do
  let (negative, rest) := splitSign token
  let magnitude : Int := exponentOf (← digits Char.isDigit false rest)
  return if negative then -magnitude else magnitude

/-- Whether a character starts an exponent. -/
def isExponentMark (char : Char) : Bool :=
  char == 'e' || char == 'E'

/-- The digits and the exponent of a number with a fraction, an exponent, or both. -/
def parts? (token : List Char) : Option (List Char × Int) := do
  let whole ← plainDigits (token.takeWhile fun char => char != '.' && !isExponentMark char)
  match token.dropWhile fun char => char != '.' && !isExponentMark char with
  | '.' :: rest =>
    let fraction ← digits Char.isDigit false (rest.takeWhile fun char => !isExponentMark char)
    match rest.dropWhile fun char => !isExponentMark char with
    | [] => return (whole ++ fraction, -fraction.length)
    | _ :: power => return (whole ++ fraction, (← exponent? power) - fraction.length)
  | _ :: power => return (whole, ← exponent? power)
  | [] => failure

/-- Whether a run is a number with a fraction or an exponent, or one of the words for infinity and
for no number. A number may overflow only below zero. -/
def isDecimal (token : List Char) : Bool :=
  let (negative, rest) := splitSign token
  if rest == "inf".toList || rest == "nan".toList then true
  else
    match parts? rest with
    | none => false
    | some (digits, exponent) => negative || !overflows digits exponent

/-- A number of two digits from `least` to `greatest`. -/
def twoDigits (least greatest : Nat) : Reader Nat
  | tens :: ones :: rest =>
    if tens.isDigit && ones.isDigit then
      let number := valueOf 10 [tens, ones]
      if least ≤ number ∧ number ≤ greatest then some (number, rest) else none
    else none
  | _ => none

/-- What is behind one given character. -/
def expect (char : Char) : List Char → Option (List Char)
  | other :: rest => if other = char then some rest else none
  | [] => none

/-- The number of days of a month. -/
def daysOfMonth (year month : Nat) : Nat :=
  if month = 2 then
    if year % 4 = 0 ∧ (year % 100 ≠ 0 ∨ year % 400 = 0) then 29 else 28
  else if month = 4 ∨ month = 6 ∨ month = 9 ∨ month = 11 then 30
  else 31

/-- What is behind a date. -/
def date? (input : List Char) : Option (List Char) := do
  let (century, rest) ← twoDigits 0 99 input
  let (yearOfCentury, rest) ← twoDigits 0 99 rest
  let rest ← expect '-' rest
  let (month, rest) ← twoDigits 1 12 rest
  let rest ← expect '-' rest
  let (_, rest) ← twoDigits 1 (daysOfMonth (100 * century + yearOfCentury) month) rest
  return rest

/-- What is behind a time of day. -/
def time? (input : List Char) : Option (List Char) := do
  let (_, rest) ← twoDigits 0 23 input
  let rest ← expect ':' rest
  let (_, rest) ← twoDigits 0 59 rest
  let rest ← expect ':' rest
  let (_, rest) ← twoDigits 0 60 rest
  match rest with
  | '.' :: fraction =>
    if (fraction.takeWhile Char.isDigit).isEmpty then failure
    return fraction.dropWhile Char.isDigit
  | _ => return rest

/-- Whether a run is nothing, or the offset of a time from universal time. -/
def isOffset : List Char → Bool
  | [] => true
  | ['Z'] => true
  | ['z'] => true
  | sign :: rest =>
    (sign == '+' || sign == '-') &&
      (do
        let (_, rest) ← twoDigits 0 23 rest
        let rest ← expect ':' rest
        let (_, rest) ← twoDigits 0 59 rest
        return rest) == some []

/-- Whether a run is a date, a time, or both. -/
def isMoment (token : List Char) : Bool :=
  match date? token with
  | none => time? token == some []
  | some [] => true
  | some (separator :: rest) =>
    (separator == 'T' || separator == 't' || separator == ' ') &&
      match time? rest with
      | none => false
      | some offset => isOffset offset

/-- The value of a run. -/
def ofToken? (token : List Char) : Option Value :=
  if token == "true".toList then some (.boolean true)
  else if token == "false".toList then some (.boolean false)
  else if isMoment token then some (.moment (String.ofList token))
  else if isDecimal token then some (.decimal (String.ofList token))
  else (integer? token).map .integer

/-- The run that a value without delimiters is made of: a space joins a date and a time. -/
def split (input : List Char) : List Char × List Char :=
  let token := input.takeWhile isBare
  let rest := input.dropWhile isBare
  match rest with
  | ' ' :: char :: more =>
    if date? token == some [] && char.isDigit then
      (token ++ ' ' :: (char :: more).takeWhile isBare, (char :: more).dropWhile isBare)
    else (token, rest)
  | _ => (token, rest)

/-- A value without delimiters. -/
def read : Reader Value := fun input => do
  let (token, rest) := split input
  return (← ofToken? token, rest)

end ElfScope.Toml.Scalar
