import ElfScope.ByteOrder
import ElfScope.Proofs.Bytes

/-!
# Operations that may crash

On a machine with words of 64 bits, a range, an index, a copy, a division into pieces and the
arithmetic of words are partial: misused, they end the whole program. An `Outcome` tells such a
crash from an error that is reported. What never crashes is of the form `Outcome.settled`, and
sequences of such outcomes are of this form again (`settled_bind`).
-/

namespace ElfScope.Machine

/-- What ends the program. A `range` leaves the bytes or ends in front of its start, or there is no
item with an `index`. The bytes do not fill the array they are copied to (`lengths`), or pieces are
asked for that have no bytes (`emptyPieces`). A result exceeds a word (`overflow`), or the divisor
is zero (`zeroDivisor`). -/
inductive Crash where
  | range
  | index
  | lengths
  | emptyPieces
  | overflow
  | zeroDivisor
  deriving DecidableEq, Repr

/-- How a computation ends: the program ends here (`crash`), an error is reported (`refused`), or
there is a result (`done`). -/
inductive Outcome (ε α : Type) where
  | crash (cause : Crash)
  | refused (error : ε)
  | done (value : α)
  deriving DecidableEq, Repr

namespace Outcome

variable {ε δ α β : Type}

/-- A computation stops at the first crash or error. -/
instance : Monad (Outcome ε) where
  pure := done
  bind first next :=
    match first with
    | crash cause => crash cause
    | refused error => refused error
    | done value => next value

/-- Outcomes obey the laws of sequencing. -/
instance : LawfulMonad (Outcome ε) := LawfulMonad.mk' _
  (fun outcome => by cases outcome <;> rfl)
  (fun _ _ => rfl)
  (fun outcome _ _ => by cases outcome <;> rfl)

/-- The outcome of a computation without partial operations. -/
def settled : Except ε α → Outcome ε α
  | .ok value => done value
  | .error error => refused error

/-- The same outcome with another error. -/
def mapError (f : ε → δ) : Outcome ε α → Outcome δ α
  | crash cause => crash cause
  | refused error => refused (f error)
  | done value => done value

/-- A reported error as a result to go on with. -/
def attempt : Outcome ε α → Outcome δ (Except ε α)
  | crash cause => crash cause
  | refused error => done (.error error)
  | done value => done (.ok value)

/-- A computation without partial operations does not crash. -/
theorem settled_ne_crash (result : Except ε α) (cause : Crash) :
    settled result ≠ crash cause := by
  intro h
  cases result <;> cases h

/-- A value that is given is a settled result. -/
@[simp]
theorem pure_eq (value : α) : (pure value : Outcome ε α) = settled (.ok value) := rfl

/-- Behind a settled value the computation goes on with it. -/
@[simp]
theorem settled_ok_bind (value : α) (next : α → Outcome ε β) :
    (settled (.ok value) >>= next) = next value := rfl

/-- Two settled results in a row are settled in a row. -/
@[simp]
theorem settled_bind (result : Except ε α) (next : α → Except ε β) :
    (settled result >>= fun value => settled (next value)) = settled (result >>= next) := by
  cases result <;> rfl

/-- The error of a settled result is changed in the result. -/
@[simp]
theorem mapError_settled (f : ε → δ) (result : Except ε α) :
    (settled result).mapError f = settled (result.mapError f) := by
  cases result <;> rfl

/-- There is no error to change where there is a value. -/
@[simp]
theorem mapError_settled_ok (f : ε → δ) (value : α) :
    (settled (.ok value)).mapError f = settled (.ok value) := rfl

/-- To attempt a settled result is to have it as a value. -/
@[simp]
theorem attempt_settled (result : Except ε α) :
    ((settled result).attempt : Outcome δ (Except ε α)) = settled (.ok result) := by
  cases result <;> rfl

/-- A list is gone through without a crash, if no item causes one. -/
theorem mapM_settled {f : α → Outcome ε β} {g : α → Except ε β} {items : List α}
    (h : ∀ item ∈ items, f item = settled (g item)) :
    items.mapM f = settled (items.mapM g) := by
  induction items with
  | nil => rfl
  | cons item rest ih =>
    have hrest := ih fun other hmem => h other (by simp [hmem])
    simp only [List.mapM_cons, h item (by simp), hrest, pure_eq, settled_bind]
    rfl

end Outcome

open Outcome

variable {ε α : Type}

/-! ## Bytes -/

/-- The bytes from `first` to before `stop`. -/
def range (data : Bytes) (first stop : Nat) : Outcome ε Bytes :=
  if first ≤ stop ∧ stop ≤ data.size then done (data.extract first stop) else crash .range

/-- The bytes from `first` to the end, if that is not behind the end. -/
def tail? (data : Bytes) (first : Nat) : Option Bytes :=
  if first ≤ data.size then some (data.extract first data.size) else none

/-- The item at `index`. -/
def element (items : List α) (index : Nat) : Outcome ε α :=
  match items[index]? with
  | some item => done item
  | none => crash .index

/-- The bytes as an array of `size` bytes. -/
def copy (size : Nat) (data : Bytes) : Outcome ε (Vector UInt8 size) :=
  if h : data.size = size then done ⟨data, h⟩ else crash .lengths

/-- The pieces of `size` bytes that the data divide into, without a rest. -/
def pieces (size : Nat) (data : Bytes) : Outcome ε (List Bytes) :=
  if size = 0 then crash .emptyPieces else done (Bytes.records size (data.size / size) data)

/-- A range inside the bytes is there. -/
theorem range_eq {data : Bytes} {first stop : Nat} (hle : first ≤ stop) (hstop : stop ≤ data.size) :
    (range data first stop : Outcome ε Bytes) = settled (.ok (data.extract first stop)) :=
  if_pos ⟨hle, hstop⟩

/-- At the end of the bytes or behind it there is no tail with bytes in it. -/
theorem filter_tail?_of_le {data : Bytes} {first : Nat} (h : data.size ≤ first) :
    (tail? data first).filter (!·.isEmpty) = none := by
  rw [tail?]
  split
  case isTrue => simp [Option.filter, h]
  case isFalse => rfl

/-- In front of the end of the bytes there is a tail with bytes in it. -/
theorem filter_tail?_of_lt {data : Bytes} {first : Nat} (h : first < data.size) :
    (tail? data first).filter (!·.isEmpty) = some (data.extract first data.size) := by
  rw [tail?, if_pos (by omega)]
  simp [Option.filter, h]

/-- An item that is there is found by its index. -/
theorem element_eq {items : List α} {index : Nat} {item : α} (h : items[index]? = some item) :
    (element items index : Outcome ε α) = settled (.ok item) := by
  rw [element, h]
  rfl

/-- Bytes that fill an array are copied to it. -/
theorem copy_eq {size : Nat} {data : Bytes} (h : data.size = size) :
    (copy size data : Outcome ε (Vector UInt8 size)) = settled (.ok ⟨data, h⟩) :=
  dif_pos h

/-- Pieces that are to have bytes are the records of this size. -/
theorem pieces_eq {size : Nat} {data : Bytes} (h : size ≠ 0) :
    (pieces size data : Outcome ε (List Bytes))
      = settled (.ok (Bytes.records size (data.size / size) data)) :=
  if_neg h

/-! ## Words -/

/-- The product of two words. -/
def product (first second : UInt64) : Outcome ε UInt64 :=
  if first.toNat * second.toNat < 2 ^ 64 then done (first * second) else crash .overflow

/-- The rest of a division. -/
def remainder (number divisor : UInt64) : Outcome ε UInt64 :=
  if divisor = 0 then crash .zeroDivisor else done (number % divisor)

/-- The sum of two words, if it is one. -/
def sum? (first second : UInt64) : Option UInt64 :=
  if first.toNat + second.toNat < 2 ^ 64 then some (first + second) else none

/-- A product that fits into a word is the product of words. -/
theorem product_eq {first second : UInt64} (h : first.toNat * second.toNat < 2 ^ 64) :
    (product first second : Outcome ε UInt64) = settled (.ok (first * second)) :=
  if_pos h

/-- A divisor that is not zero leaves the remainder of words. -/
theorem remainder_eq {number divisor : UInt64} (h : divisor ≠ 0) :
    (remainder number divisor : Outcome ε UInt64) = settled (.ok (number % divisor)) :=
  if_neg h

end ElfScope.Machine
