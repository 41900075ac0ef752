import ElfScope.Bytes

/-!
# UTF-8

Bytes are read left to right. What they hold is a list of items: a character, or `none` for a
maximal ill-formed run, that is the longest start of a character that the next byte does not
continue, or a single byte that starts none. `decode` accepts bytes without such a run;
`decodeLossy` puts U+FFFD in the place of each. Parts of a text are given by positions that are
counted in its bytes (`Text.cut`).
-/

namespace ElfScope.Utf8

/-- A character of which the first bytes have been read: the bits these bytes carry, how many bytes
are still to come (`missing`), and the least and the greatest byte that may come next (`low`,
`high`). -/
structure Unfinished where
  bits : Nat
  missing : Nat
  low : Nat
  high : Nat
  deriving DecidableEq, Repr

/-- What a byte stands for where a character may start: a character of its own (`whole`), the start
of a longer one (`longer`), or nothing (`malformed`). -/
inductive Start where
  | whole (char : Char)
  | longer (unfinished : Unfinished)
  | malformed
  deriving DecidableEq, Repr

/-- The second byte of a longer character is confined where a wider range would admit a character
that fewer bytes can hold, a surrogate, or a number above U+10FFFF. -/
def Start.ofByte (byte : UInt8) : Start :=
  let n := byte.toNat
  if n < 0x80 then .whole (Char.ofNat n)
  else if n < 0xC2 then .malformed
  else if n < 0xE0 then .longer ⟨n - 0xC0, 1, 0x80, 0xBF⟩
  else if n = 0xE0 then .longer ⟨0, 2, 0xA0, 0xBF⟩
  else if n = 0xED then .longer ⟨0xD, 2, 0x80, 0x9F⟩
  else if n < 0xF0 then .longer ⟨n - 0xE0, 2, 0x80, 0xBF⟩
  else if n = 0xF0 then .longer ⟨0, 3, 0x90, 0xBF⟩
  else if n < 0xF4 then .longer ⟨n - 0xF0, 3, 0x80, 0xBF⟩
  else if n = 0xF4 then .longer ⟨4, 3, 0x80, 0x8F⟩
  else .malformed

/-- One byte where a character may start: the items it completes and what it leaves open. -/
def start (byte : UInt8) : List (Option Char) × Option Unfinished :=
  match Start.ofByte byte with
  | .whole char => ([some char], none)
  | .longer unfinished => ([], some unfinished)
  | .malformed => ([none], none)

/-- One byte: the items it completes and what it leaves open. A byte that does not continue the
open character ends it as ill-formed and is then read afresh. -/
def step : Option Unfinished → UInt8 → List (Option Char) × Option Unfinished
  | none, byte => start byte
  | some begun, byte =>
    if begun.low ≤ byte.toNat ∧ byte.toNat ≤ begun.high then
      let bits := 64 * begun.bits + (byte.toNat - 0x80)
      if begun.missing ≤ 1 then ([some (Char.ofNat bits)], none)
      else ([], some ⟨bits, begun.missing - 1, 0x80, 0xBF⟩)
    else
      let (items, next) := start byte
      (none :: items, next)

/-- The items in the bytes, behind a character that may be open. -/
def items : Option Unfinished → List UInt8 → List (Option Char)
  | none, [] => []
  | some _, [] => [none]
  | state, byte :: rest =>
    let (done, next) := step state byte
    done ++ items next rest

/-- The text in the bytes, if they are well-formed throughout. -/
def decode (bytes : Bytes) : Option String :=
  ((items none bytes.toList).mapM id).map String.ofList

/-- The text in the bytes, with U+FFFD for each maximal ill-formed run. -/
def decodeLossy (bytes : Bytes) : String :=
  String.ofList ((items none bytes.toList).map (·.getD '\uFFFD'))

/-- The bytes of a text. -/
def encode (text : String) : Bytes :=
  (text.toList.flatMap String.utf8EncodeChar).toArray

/-- The encoding of two texts in a row is that of the one and that of the other. -/
@[simp]
theorem encode_append (first second : String) :
    encode (first ++ second) = encode first ++ encode second := by
  simp [encode]

end ElfScope.Utf8

/-!
## Parts of a text

A part of a text is given by the positions where it starts and ends, counted in bytes. A character
that the start or the end would divide is left out.
-/

namespace ElfScope.Text

/-- The number of bytes of some characters. -/
def byteCount (chars : List Char) : Nat :=
  chars.foldl (fun count char => count + char.utf8Size) 0

/-- What is left behind the first `count` bytes. -/
def dropBytes : Nat → List Char → List Char
  | 0, chars => chars
  | _, [] => []
  | count, char :: rest => dropBytes (count - char.utf8Size) rest

/-- The characters within the first `count` bytes. -/
def takeBytes : Nat → List Char → List Char
  | _, [] => []
  | count, char :: rest =>
    if char.utf8Size ≤ count then char :: takeBytes (count - char.utf8Size) rest else []

/-- The characters from one position to another. -/
def cut (start stop : Nat) (chars : List Char) : List Char :=
  takeBytes (stop - start) (dropBytes start chars)

end ElfScope.Text
