import ElfScope.Bytes
import Mathlib.Algebra.Group.Nat.Defs

/-!
# Parts of a file

`Bytes.part` is a range of a file, counted in natural numbers, and `Bytes.Holds` says that given
bytes stand at an offset. Ranges of ranges are ranges (`part_part`), a concatenation is held where
its pieces are held one behind the other (`holds_append`), and a range depends on its own bytes
only (`part_congr`).
-/

namespace ElfScope.Bytes

variable {data : Bytes} {offset length : Nat}

/-- The `length` bytes from `offset` on, or as many of them as there are. -/
def part (data : Bytes) (offset length : Nat) : Bytes :=
  data.extract offset (offset + length)

/-- The bytes `content` stand at `offset`, inside the data. -/
def Holds (data : Bytes) (offset : Nat) (content : Bytes) : Prop :=
  offset + content.size ≤ data.size ∧ data.part offset content.size = content

/-- `Holds` is decidable by a comparison of sizes and one of bytes. -/
instance (data : Bytes) (offset : Nat) (content : Bytes) :
    Decidable (data.Holds offset content) :=
  inferInstanceAs (Decidable (_ ∧ _))

/-! ## Single bytes of a part -/

/-- The bytes of a part are those from its offset on, and no more than its length. -/
theorem getElem?_part (data : Bytes) (offset length index : Nat) :
    (data.part offset length)[index]? = if index < length then data[offset + index]? else none := by
  rw [part, Array.getElem?_extract]
  by_cases h : index < length
  · by_cases hin : offset + index < data.size
    · rw [if_pos (by omega), if_pos h]
    · rw [if_neg (by omega), if_pos h, Array.getElem?_eq_none (by omega)]
  · rw [if_neg (by omega), if_neg h]

/-- A part inside the bytes is as long as it was asked for. -/
theorem size_part (h : offset + length ≤ data.size) : (data.part offset length).size = length := by
  simp only [part, Array.size_extract]
  omega

/-- The bytes of a tail are those from its start on. -/
theorem getElem?_extract_size (data : Bytes) (first index : Nat) :
    (data.extract first data.size)[index]? = data[first + index]? := by
  rw [Array.getElem?_extract]
  split
  case isTrue => rfl
  case isFalse => rw [Array.getElem?_eq_none (by omega)]

/-- A part depends on its own bytes only. -/
theorem part_congr {other : Bytes}
    (h : ∀ index, offset ≤ index → index < offset + length → other[index]? = data[index]?) :
    other.part offset length = data.part offset length := by
  apply Array.ext_getElem?
  intro index
  rw [getElem?_part, getElem?_part]
  split
  case isTrue hlt => exact h (offset + index) (by omega) (by omega)
  case isFalse => rfl

/-- Bytes behind the data leave its parts as they are. -/
theorem part_append {ext : Bytes} (h : offset + length ≤ data.size) :
    (data ++ ext).part offset length = data.part offset length :=
  part_congr fun index _ hlt => Array.getElem?_append_left (by omega)

/-! ## Parts of parts -/

/-- A part of a part is a part of the whole. -/
theorem part_part {inner count : Nat} (h : inner + count ≤ length) :
    (data.part offset length).part inner count = data.part (offset + inner) count := by
  apply Array.ext_getElem?
  intro index
  rw [getElem?_part, getElem?_part, getElem?_part]
  split
  case isTrue hlt => rw [if_pos (by omega), Nat.add_assoc]
  case isFalse => rfl

/-- A part divides at any of its positions. -/
theorem part_add (data : Bytes) (offset first second : Nat) :
    data.part offset (first + second)
      = data.part offset first ++ data.part (offset + first) second := by
  simp only [part, Array.extract_append_extract]
  congr 1 <;> omega

/-- The data are their own part from the start on. -/
@[simp]
theorem part_zero_size (data : Bytes) : data.part 0 data.size = data := by
  simp [part]

/-! ## Bytes that are held -/

/-- Bytes hold themselves at their start. -/
@[simp]
theorem holds_zero_self (data : Bytes) : data.Holds 0 data :=
  ⟨by omega, part_zero_size data⟩

/-- The part of this length at an offset is what the bytes hold there. -/
theorem Holds.part_eq {content : Bytes} (h : data.Holds offset content)
    (hsize : content.size = length) : data.part offset length = content :=
  hsize ▸ h.2

/-- A part stands where it was taken from. -/
theorem holds_part (h : offset + length ≤ data.size) :
    data.Holds offset (data.part offset length) := by
  have hsize : (data.part offset length).size = length := size_part h
  exact ⟨by rwa [hsize], by rw [hsize]⟩

/-- The first bytes of a file are the ones that it holds at its start. -/
theorem first?_eq_some_iff {count : Nat} {found : Vector UInt8 count} :
    data.first? count = some found ↔ data.Holds 0 found.toArray := by
  rw [first?, Holds, Vector.size_toArray, Nat.zero_add]
  split
  case isTrue hle =>
    rw [Option.some.injEq, ← Vector.toArray_inj]
    exact ⟨fun h => ⟨hle, by simpa [part] using h⟩, fun h => by simpa [part] using h.2⟩
  case isFalse hlt =>
    constructor
    · intro h
      cases h
    · rintro ⟨hle, -⟩
      exact absurd hle hlt

/-- What a file holds is held by every file that has the same bytes there. -/
theorem Holds.of_part_eq {other content : Bytes} (h : data.Holds offset content)
    (hne : 0 < content.size)
    (hpart : other.part offset content.size = data.part offset content.size) :
    other.Holds offset content := by
  have hcontent : other.part offset content.size = content := hpart.trans h.2
  have hsize : (other.part offset content.size).size = content.size := congrArg _ hcontent
  simp only [part, Array.size_extract] at hsize
  exact ⟨by omega, hcontent⟩

/-- What a part holds stands in the whole. -/
theorem Holds.of_part {start inner : Nat} {content : Bytes}
    (h : (data.part start length).Holds inner content) (hle : start + length ≤ data.size) :
    data.Holds (start + inner) content := by
  obtain ⟨hsize, hpart⟩ := h
  rw [size_part hle] at hsize
  refine ⟨by omega, ?_⟩
  rw [← part_part hsize, hpart]

/-- Bytes one behind the other are held as one piece. -/
theorem holds_append {first second : Bytes} :
    data.Holds offset (first ++ second)
      ↔ data.Holds offset first ∧ data.Holds (offset + first.size) second := by
  simp only [Holds, Array.size_append, part_add]
  constructor
  · rintro ⟨hsize, hpart⟩
    obtain ⟨hfirst, hsecond⟩ := Array.append_inj hpart (size_part (by omega))
    exact ⟨⟨by omega, hfirst⟩, by omega, hsecond⟩
  · rintro ⟨⟨-, hfirst⟩, hsize, hsecond⟩
    exact ⟨by omega, by rw [hfirst, hsecond]⟩

/-! ## Ranges that are read -/

/-- The bytes of a range that lies inside the data. -/
theorem slice_eq_part {offset length : UInt64} (h : offset.toNat + length.toNat ≤ data.size) :
    slice data offset length = .ok (data.part offset.toNat length.toNat) :=
  slice_eq_ok_iff.2 ⟨h, rfl⟩

/-- A range that leaves the data is reported as it was asked for. -/
theorem slice_eq_error {offset length : UInt64} (h : data.size < offset.toNat + length.toNat) :
    slice data offset length = .error ⟨offset, length, data.size⟩ :=
  if_neg (by omega)

/-- The records of a part are parts of the whole. -/
theorem records_part {size count start : Nat} (h : count * size ≤ length) :
    records size count (data.part start length)
      = (List.range count).map fun index => data.part (start + index * size) size := by
  refine List.map_congr_left fun index hindex => ?_
  have hlt : index < count := List.mem_range.1 hindex
  have hle : index * size + size ≤ count * size := by
    rw [← Nat.succ_mul]
    exact Nat.mul_le_mul_right size hlt
  exact part_part (by omega)

/-- No record is larger than the data. -/
theorem size_le_of_mem_records {size count : Nat} {record : Bytes}
    (h : record ∈ records size count data) : record.size ≤ data.size := by
  obtain ⟨index, -, rfl⟩ := List.mem_map.1 h
  simp only [Array.size_extract]
  omega

end ElfScope.Bytes
