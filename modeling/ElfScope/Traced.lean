/-!
# Computations that report

A `Traced` value comes with what was emitted while it was computed, in order. The value of a
sequence is the value of the sequence of the values, and its emissions are appended.
-/

namespace ElfScope

/-- A value and what was emitted on the way to it, in order. -/
structure Traced (ε α : Type) where
  emitted : List ε
  value : α

namespace Traced

variable {ε α β : Type}

/-- What is emitted on the way to a value stands in front of what is emitted behind it. -/
instance : Monad (Traced ε) where
  map f traced := ⟨traced.emitted, f traced.value⟩
  pure value := ⟨[], value⟩
  bind first next :=
    let second := next first.value
    ⟨first.emitted ++ second.emitted, second.value⟩

/-- Emits one item. -/
def emit (item : ε) : Traced ε Unit := ⟨[item], ()⟩

/-- Emits several items. -/
def emitAll (items : List ε) : Traced ε Unit := ⟨items, ()⟩

/-- The same computation with every emission turned into another kind. -/
def mapEmitted {δ : Type} (f : ε → δ) (traced : Traced ε α) : Traced δ α :=
  ⟨traced.emitted.map f, traced.value⟩

/-- Two computations in a row emit what the first emits and then what the second emits. -/
theorem bind_eq (first : Traced ε α) (next : α → Traced ε β) :
    first >>= next = ⟨first.emitted ++ (next first.value).emitted, (next first.value).value⟩ :=
  rfl

/-- A value that is given stays what it is. -/
@[simp]
theorem value_pure (value : α) : (pure value : Traced ε α).value = value := rfl

/-- On the way to a value that is given, nothing is emitted. -/
@[simp]
theorem emitted_pure (value : α) : (pure value : Traced ε α).emitted = [] := rfl

/-- A function is applied to the value. -/
@[simp]
theorem value_map (f : α → β) (traced : Traced ε α) :
    (f <$> traced).value = f traced.value := rfl

/-- A function changes nothing about what was emitted. -/
@[simp]
theorem emitted_map (f : α → β) (traced : Traced ε α) :
    (f <$> traced).emitted = traced.emitted := rfl

/-- The value of two computations in a row is the one of the second. -/
@[simp]
theorem value_bind (first : Traced ε α) (next : α → Traced ε β) :
    (first >>= next).value = (next first.value).value := rfl

/-- What is emitted by the first computation stands in front of what the second emits. -/
@[simp]
theorem emitted_bind (first : Traced ε α) (next : α → Traced ε β) :
    (first >>= next).emitted = first.emitted ++ (next first.value).emitted := rfl

/-- Emitting an item gives no value. -/
@[simp]
theorem value_emit (item : ε) : (emit item).value = () := rfl

/-- Emitting an item emits it, and nothing else. -/
@[simp]
theorem emitted_emit (item : ε) : (emit item).emitted = [item] := rfl

/-- Emitting several items gives no value. -/
@[simp]
theorem value_emitAll (items : List ε) : (emitAll items).value = () := rfl

/-- Emitting several items emits them in their order. -/
@[simp]
theorem emitted_emitAll (items : List ε) : (emitAll items).emitted = items := rfl

/-- Changing what was emitted leaves the value as it is. -/
@[simp]
theorem value_mapEmitted {δ : Type} (f : ε → δ) (traced : Traced ε α) :
    (traced.mapEmitted f).value = traced.value := rfl

/-- Each emitted item is changed, and their order is kept. -/
@[simp]
theorem emitted_mapEmitted {δ : Type} (f : ε → δ) (traced : Traced ε α) :
    (traced.mapEmitted f).emitted = traced.emitted.map f := rfl

end Traced

end ElfScope
