import ElfScope.Proofs.Section
import ElfScope.Symbol.Table

/-!
# Where the symbols are

The section headers and the size of a file settle where its symbols are
(`SymbolTable.locate_eq_map`), and the names of sections play no part in it
(`SymbolTable.locate_map_unnamed`). Either the symbols have their place (`SymbolTable.Placed`), or
the first defect that is met says why they have none (`SymbolTable.Misplaced`).
-/

namespace ElfScope

namespace SymbolTable

variable {data : Bytes} {sections : List SectionHeader} {table : Nat}
  {holder strings : SectionHeader}

/-! ## Finding the sections -/

/-- The search for symbols is one for the first section of kind 2. -/
theorem find?_eq (sections : List SectionHeader) :
    find? sections =
      match sections.findIdx? (·.kind == 2) with
      | none => none
      | some index => sections[index]?.map (index, ·) :=
  rfl

/-- The section at `table` is the first one that holds symbols, which are those of kind 2. -/
def IsFirst (sections : List SectionHeader) (table : Nat) (holder : SectionHeader) : Prop :=
  sections[table]? = some holder ∧ holder.kind = 2 ∧
    ∀ index entry, index < table → sections[index]? = some entry →
      entry.kind ≠ 2

/-- The search for symbols finds the first section that holds any. -/
theorem find?_eq_some_iff :
    find? sections = some (table, holder) ↔ IsFirst sections table holder := by
  have hfind : find? sections = some (table, holder) ↔
      sections.findIdx? (·.kind == 2) = some table
        ∧ sections[table]? = some holder := by
    rw [find?_eq]
    cases sections.findIdx? (·.kind == 2) with
    | none => simp
    | some index =>
      simp only [Option.map_eq_some_iff, Prod.mk.injEq, Option.some.injEq]
      constructor
      · rintro ⟨_, hget, rfl, rfl⟩
        exact ⟨rfl, hget⟩
      · rintro ⟨rfl, hget⟩
        exact ⟨holder, hget, rfl, rfl⟩
  rw [hfind, IsFirst, List.findIdx?_eq_some_iff_getElem]
  constructor
  · rintro ⟨⟨hlt, hkind, hfirst⟩, hget⟩
    obtain ⟨_, rfl⟩ := List.getElem?_eq_some_iff.1 hget
    refine ⟨hget, by simpa using hkind, fun index entry hindex hentry => ?_⟩
    obtain ⟨_, rfl⟩ := List.getElem?_eq_some_iff.1 hentry
    simpa using hfirst index hindex
  · rintro ⟨hget, hkind, hfirst⟩
    obtain ⟨hlt, rfl⟩ := List.getElem?_eq_some_iff.1 hget
    refine ⟨⟨hlt, by simpa using hkind, fun index hindex => ?_⟩, hget⟩
    simpa using hfirst index _ hindex (List.getElem?_eq_getElem (by omega))

/-- There is only one first symbol table. -/
theorem IsFirst.unique {other : Nat} {otherHolder : SectionHeader}
    (h : IsFirst sections table holder) (hother : IsFirst sections other otherHolder) :
    table = other ∧ holder = otherHolder := by
  have hfound := (find?_eq_some_iff.2 h).symm.trans (find?_eq_some_iff.2 hother)
  rwa [Option.some.injEq, Prod.mk.injEq] at hfound

/-- The search for symbols fails exactly if no section holds any. -/
theorem find?_eq_none_iff :
    find? sections = none ↔ ∀ entry ∈ sections, entry.kind ≠ 2 := by
  have hfind : find? sections = none
      ↔ sections.findIdx? (·.kind == 2) = none := by
    rw [find?_eq]
    cases hindex : sections.findIdx? (·.kind == 2) with
    | none => simp
    | some index =>
      obtain ⟨hlt, -⟩ := List.findIdx?_eq_some_iff_getElem.1 hindex
      simp [List.getElem?_eq_getElem hlt]
  rw [hfind, List.findIdx?_eq_none_iff]
  simp

/-- A link is zero exactly if its number is. -/
theorem link_eq_zero_iff {link : UInt32} : link.toNat = 0 ↔ link = 0 := by
  rw [← UInt32.toNat_inj]
  rfl

/-- A link names a section of the table, but not the first. -/
theorem linked?_eq_some_iff {link : UInt32} :
    linked? sections link = some strings ↔
      link.toNat ≠ 0 ∧ sections[link.toNat]? = some strings := by
  by_cases h : link = 0 <;> simp [linked?, link_eq_zero_iff, h]

/-- A link leads to no section if it is zero or leads behind the last. -/
theorem linked?_eq_none_iff {link : UInt32} :
    linked? sections link = none ↔ link.toNat = 0 ∨ sections.length ≤ link.toNat := by
  by_cases h : link = 0 <;> simp [linked?, link_eq_zero_iff, h]

/-- In two lists of one length a link reaches a section of both or of neither. -/
theorem linked?_eq_none_of_length {others : List SectionHeader}
    (hlength : sections.length = others.length) {link : UInt32}
    (h : linked? sections link = none) : linked? others link = none := by
  rw [linked?_eq_none_iff] at h ⊢
  rwa [← hlength]

/-- The symbol table with its index, and the section with its strings, in a file of `size` bytes;
otherwise what is wrong with them. -/
def place (size : Nat) (sections : List SectionHeader) :
    Except SymbolError (Nat × SectionHeader × SectionHeader) :=
  match find? sections with
  | none => .error .noSymbolTable
  | some (table, holder) =>
    match linked? sections holder.link with
    | none => .error (.badStringTableLink table holder.link sections.length)
    | some strings =>
      if holder.size.toNat % 24 ≠ 0 then .error (.misalignedTable table holder.size)
      else if ¬ holder.Fits size then .error (.range ⟨holder.offset, holder.size, size⟩)
      else if ¬ strings.Fits size then .error (.range ⟨strings.offset, strings.size, size⟩)
      else .ok (table, holder, strings)

/-- What the symbols are read from, once their place is settled. -/
def source (data : Bytes) (table : Nat) (holder strings : SectionHeader) : SymbolSource where
  table := table
  strings := holder.link
  count := holder.size.toNat / 24
  entries := holder.body data
  names := .ofBytes (strings.body data)

/-- The section headers and the size of the file settle where the symbols are. -/
theorem locate_eq_map (data : Bytes) (sections : List SectionHeader) :
    locate data sections = (place data.size sections).map
      fun (table, holder, strings) => source data table holder strings := by
  rw [locate, place]
  cases find? sections with
  | none => rfl
  | some found =>
    obtain ⟨table, holder⟩ := found
    dsimp only
    cases linked? sections holder.link with
    | none => rfl
    | some strings =>
      dsimp only
      rw [Symbol.recordSize]
      by_cases hsize : holder.size.toNat % 24 = 0
      · rw [if_neg (not_not_intro hsize), if_neg (not_not_intro hsize)]
        by_cases hholder : holder.Fits data.size
        · rw [if_neg (not_not_intro hholder), SectionHeader.contents_eq_ok hholder]
          by_cases hstrings : strings.Fits data.size
          · rw [if_neg (not_not_intro hstrings), SectionHeader.contents_eq_ok hstrings]
            rfl
          · rw [if_pos hstrings, SectionHeader.contents_eq_error hstrings]
            rfl
        · rw [if_pos hholder, SectionHeader.contents_eq_error hholder]
          rfl
      · rw [if_pos hsize, if_pos hsize]
        rfl

/-- The section `holder` at `table` is the symbol table of a file of `size` bytes and the section
`strings` holds its names.

Symbols come from the first section that holds any (`first`), and names from the section that it
links to (`linked`). The table divides into entries (`aligned`), and both the table and the strings
lie inside the file (`holder_fits`, `strings_fits`). -/
structure Placed (size : Nat) (sections : List SectionHeader) (table : Nat)
    (holder strings : SectionHeader) : Prop where
  first : IsFirst sections table holder
  linked : linked? sections holder.link = some strings
  aligned : holder.size.toNat % 24 = 0
  holder_fits : holder.Fits size
  strings_fits : strings.Fits size

/-- Symbols are placed exactly where they have a place in the file. -/
theorem place_eq_ok_iff {size : Nat} :
    place size sections = .ok (table, holder, strings)
      ↔ Placed size sections table holder strings := by
  constructor
  · intro h
    rw [place] at h
    split at h
    case h_1 => cases h
    case h_2 table holder hfind =>
      split at h
      case h_1 => cases h
      case h_2 strings hlinked =>
        split at h
        case isTrue => cases h
        split at h
        case isTrue => cases h
        split at h
        case isTrue => cases h
        case isFalse haligned hholder hstrings =>
          cases h
          exact ⟨find?_eq_some_iff.1 hfind, hlinked, Decidable.not_not.1 haligned,
            Decidable.not_not.1 hholder, Decidable.not_not.1 hstrings⟩
  · intro h
    rw [place, find?_eq_some_iff.2 h.first]
    simp only [h.linked, h.aligned, h.holder_fits, h.strings_fits, not_true_eq_false, ne_eq,
      if_false]

/-- Symbols are found exactly where they are placed. -/
theorem locate_eq_ok_iff {found : SymbolSource} :
    locate data sections = .ok found ↔ ∃ table holder strings,
      Placed data.size sections table holder strings ∧
        found = source data table holder strings := by
  rw [locate_eq_map]
  cases hplace : place data.size sections with
  | error error =>
    constructor
    · intro h
      cases h
    · rintro ⟨table, holder, strings, hplaced, -⟩
      rw [place_eq_ok_iff.2 hplaced] at hplace
      cases hplace
  | ok place =>
    obtain ⟨table, holder, strings⟩ := place
    constructor
    · intro h
      cases h
      exact ⟨table, holder, strings, place_eq_ok_iff.1 hplace, rfl⟩
    · rintro ⟨_, _, _, hplaced, rfl⟩
      cases hplace.symm.trans (place_eq_ok_iff.2 hplaced)
      rfl

/-! ## Symbols without a place -/

/-- Why the symbols have no place in a file of `size` bytes: the first defect that is met.

No section holds symbols (`noSymbolTable`). Or the first one that does links to no section, or to
the first one (`badStringTableLink`). Or it links to a section, and does not divide into entries
(`misalignedTable`). Or it does, and leaves the file (`tableOutside`). Or it lies inside the file,
and the section it links to leaves the file (`stringsOutside`). -/
inductive Misplaced (size : Nat) (sections : List SectionHeader) : SymbolError → Prop where
  | noSymbolTable (hnone : ∀ entry ∈ sections, entry.kind ≠ 2) :
      Misplaced size sections .noSymbolTable
  | badStringTableLink {table : Nat} {holder : SectionHeader}
      (hfirst : IsFirst sections table holder)
      (hlink : holder.link.toNat = 0 ∨ sections.length ≤ holder.link.toNat) :
      Misplaced size sections (.badStringTableLink table holder.link sections.length)
  | misalignedTable {table : Nat} {holder strings : SectionHeader}
      (hfirst : IsFirst sections table holder) (hlink : holder.link.toNat ≠ 0)
      (hlinked : sections[holder.link.toNat]? = some strings)
      (haligned : ¬ 24 ∣ holder.size.toNat) :
      Misplaced size sections (.misalignedTable table holder.size)
  | tableOutside {table : Nat} {holder strings : SectionHeader}
      (hfirst : IsFirst sections table holder) (hlink : holder.link.toNat ≠ 0)
      (hlinked : sections[holder.link.toNat]? = some strings)
      (haligned : 24 ∣ holder.size.toNat)
      (houtside : size < holder.offset.toNat + holder.size.toNat) :
      Misplaced size sections (.range ⟨holder.offset, holder.size, size⟩)
  | stringsOutside {table : Nat} {holder strings : SectionHeader}
      (hfirst : IsFirst sections table holder) (hlink : holder.link.toNat ≠ 0)
      (hlinked : sections[holder.link.toNat]? = some strings)
      (haligned : 24 ∣ holder.size.toNat)
      (hfits : holder.offset.toNat + holder.size.toNat ≤ size)
      (houtside : size < strings.offset.toNat + strings.size.toNat) :
      Misplaced size sections (.range ⟨strings.offset, strings.size, size⟩)

/-- Behind the link come the checks of the size and of the two ranges. -/
theorem place_eq_ite (size : Nat) (hfirst : IsFirst sections table holder)
    (hlink : holder.link.toNat ≠ 0) (hlinked : sections[holder.link.toNat]? = some strings) :
    place size sections =
      if holder.size.toNat % 24 ≠ 0 then .error (.misalignedTable table holder.size)
      else if ¬ holder.Fits size then .error (.range ⟨holder.offset, holder.size, size⟩)
      else if ¬ strings.Fits size then .error (.range ⟨strings.offset, strings.size, size⟩)
      else .ok (table, holder, strings) := by
  rw [place, find?_eq_some_iff.2 hfirst]
  dsimp only
  rw [linked?_eq_some_iff.2 ⟨hlink, hlinked⟩]

/-- The error of a failed search is one of the defects. -/
theorem misplaced_of_place {size : Nat} {error : SymbolError}
    (h : place size sections = .error error) : Misplaced size sections error := by
  cases hfind : find? sections with
  | none =>
    rw [place, hfind] at h
    cases h
    exact .noSymbolTable (find?_eq_none_iff.1 hfind)
  | some found =>
    obtain ⟨table, holder⟩ := found
    have hfirst : IsFirst sections table holder := find?_eq_some_iff.1 hfind
    cases hlinked : linked? sections holder.link with
    | none =>
      rw [place, hfind] at h
      dsimp only at h
      rw [hlinked] at h
      cases h
      exact .badStringTableLink hfirst (linked?_eq_none_iff.1 hlinked)
    | some strings =>
      obtain ⟨hlink, hget⟩ := linked?_eq_some_iff.1 hlinked
      rw [place_eq_ite size hfirst hlink hget] at h
      by_cases haligned : holder.size.toNat % 24 = 0
      · have hdvd : 24 ∣ holder.size.toNat := Nat.dvd_of_mod_eq_zero haligned
        rw [if_neg (not_not_intro haligned)] at h
        by_cases hholder : holder.Fits size
        · rw [if_neg (not_not_intro hholder)] at h
          by_cases hstrings : strings.Fits size
          · rw [if_neg (not_not_intro hstrings)] at h
            cases h
          · rw [if_pos hstrings] at h
            cases h
            exact .stringsOutside hfirst hlink hget hdvd hholder (Nat.lt_of_not_le hstrings)
        · rw [if_pos hholder] at h
          cases h
          exact .tableOutside hfirst hlink hget hdvd (Nat.lt_of_not_le hholder)
      · rw [if_pos haligned] at h
        cases h
        exact .misalignedTable hfirst hlink hget fun hdvd =>
          haligned (Nat.mod_eq_zero_of_dvd hdvd)

/-- Symbols have no place for the first defect that is met, and only for that. -/
theorem place_eq_error_iff {size : Nat} {error : SymbolError} :
    place size sections = .error error ↔ Misplaced size sections error := by
  refine ⟨misplaced_of_place, fun h => ?_⟩
  cases h with
  | noSymbolTable hnone => rw [place, find?_eq_none_iff.2 hnone]
  | badStringTableLink hfirst hlink =>
    rw [place, find?_eq_some_iff.2 hfirst]
    dsimp only
    rw [linked?_eq_none_iff.2 hlink]
  | misalignedTable hfirst hlink hlinked haligned =>
    rw [place_eq_ite size hfirst hlink hlinked]
    exact if_pos fun hmod => haligned (Nat.dvd_of_mod_eq_zero hmod)
  | tableOutside hfirst hlink hlinked haligned houtside =>
    rw [place_eq_ite size hfirst hlink hlinked,
      if_neg (not_not_intro (Nat.mod_eq_zero_of_dvd haligned))]
    exact if_pos (Nat.not_le_of_lt houtside)
  | @stringsOutside table holder strings hfirst hlink hlinked haligned hfits houtside =>
    have hholder : holder.Fits size := hfits
    rw [place_eq_ite size hfirst hlink hlinked,
      if_neg (not_not_intro (Nat.mod_eq_zero_of_dvd haligned)), if_neg (not_not_intro hholder)]
    exact if_pos (Nat.not_le_of_lt houtside)

/-- The range that is reported is the one of the symbol table or of its strings. -/
theorem place_eq_range {size : Nat} {error : RangeError}
    (h : place size sections = .error (.range error)) :
    ∃ table holder strings, IsFirst sections table holder ∧
      linked? sections holder.link = some strings ∧ holder.size.toNat % 24 = 0 ∧
      (error = ⟨holder.offset, holder.size, size⟩
        ∨ error = ⟨strings.offset, strings.size, size⟩) := by
  cases place_eq_error_iff.1 h with
  | tableOutside hfirst hlink hlinked haligned =>
    exact ⟨_, _, _, hfirst, linked?_eq_some_iff.2 ⟨hlink, hlinked⟩,
      Nat.mod_eq_zero_of_dvd haligned, .inl rfl⟩
  | stringsOutside hfirst hlink hlinked haligned =>
    exact ⟨_, _, _, hfirst, linked?_eq_some_iff.2 ⟨hlink, hlinked⟩,
      Nat.mod_eq_zero_of_dvd haligned, .inr rfl⟩

/-! ## Other files -/

/-- Once the sections are found and the table divides into entries, only ranges may be wrong. -/
theorem place_of_linked (size : Nat) (hfirst : IsFirst sections table holder)
    (hlinked : linked? sections holder.link = some strings)
    (haligned : holder.size.toNat % 24 = 0) :
    place size sections = .ok (table, holder, strings)
      ∨ ∃ offset length, place size sections = .error (.range ⟨offset, length, size⟩) := by
  obtain ⟨hlink, hget⟩ := linked?_eq_some_iff.1 hlinked
  rw [place_eq_ite size hfirst hlink hget, if_neg (not_not_intro haligned)]
  split
  case isTrue => exact .inr ⟨_, _, rfl⟩
  split
  case isTrue => exact .inr ⟨_, _, rfl⟩
  case isFalse => exact .inl rfl

/-- Symbols have the same place in a larger file. -/
theorem Placed.mono {size larger : Nat} (h : Placed size sections table holder strings)
    (hle : size ≤ larger) : Placed larger sections table holder strings :=
  { h with
    holder_fits := h.holder_fits.mono hle
    strings_fits := h.strings_fits.mono hle }

/-- In a larger file the symbols keep their place, and so does any defect but a range that leaves
the file. -/
theorem place_mono {size larger : Nat} (hle : size ≤ larger)
    (h : ∀ error, place size sections ≠ .error (.range error)) :
    place larger sections = place size sections := by
  cases hplace : place size sections with
  | ok found =>
    obtain ⟨table, holder, strings⟩ := found
    exact place_eq_ok_iff.2 ((place_eq_ok_iff.1 hplace).mono hle)
  | error error =>
    rw [place_eq_error_iff]
    -- The checks in front of the ranges do not look at the size.
    cases place_eq_error_iff.1 hplace with
    | noSymbolTable hnone => exact .noSymbolTable hnone
    | badStringTableLink hfirst hlink => exact .badStringTableLink hfirst hlink
    | misalignedTable hfirst hlink hlinked haligned =>
      exact .misalignedTable hfirst hlink hlinked haligned
    | tableOutside | stringsOutside => exact absurd hplace (h _)

/-- Files of one size with the same sections have their symbols in the same place, if they agree
on the symbol table and its strings. -/
theorem locate_congr {other : Bytes} (hsize : other.size = data.size)
    (hbody : ∀ table holder strings, Placed data.size sections table holder strings →
      holder.body other = holder.body data ∧ strings.body other = strings.body data) :
    locate other sections = locate data sections := by
  rw [locate_eq_map, locate_eq_map, hsize]
  cases hplace : place data.size sections with
  | error error => rfl
  | ok found =>
    obtain ⟨table, holder, strings⟩ := found
    obtain ⟨hholder, hstrings⟩ := hbody table holder strings (place_eq_ok_iff.1 hplace)
    simp only [Except.map, source, hholder, hstrings]

/-! ## Sections under other names -/

/-- The search for symbols does not depend on the names of the sections. -/
theorem find?_map_unnamed (sections : List SectionHeader) :
    find? (sections.map SectionHeader.unnamed)
      = (find? sections).map fun found => (found.1, found.2.unnamed) := by
  have hkind : (fun entry : SectionHeader => entry.kind == 2)
      ∘ SectionHeader.unnamed = (·.kind == 2) := rfl
  rw [find?_eq, find?_eq, List.findIdx?_map, hkind]
  cases sections.findIdx? (·.kind == 2) with
  | none => rfl
  | some index => cases hget : sections[index]? <;> simp [hget]

/-- A link does not depend on the names of the sections. -/
theorem linked?_map_unnamed (sections : List SectionHeader) (link : UInt32) :
    linked? (sections.map SectionHeader.unnamed) link
      = (linked? sections link).map SectionHeader.unnamed := by
  by_cases h : link = 0 <;> simp [linked?, h]

/-- Where symbols are placed does not depend on the names of the sections. -/
theorem place_map_unnamed (size : Nat) (sections : List SectionHeader) :
    place size (sections.map SectionHeader.unnamed)
      = (place size sections).map fun (table, holder, strings) =>
          (table, holder.unnamed, strings.unnamed) := by
  rw [place, place, find?_map_unnamed]
  cases find? sections with
  | none => rfl
  | some found =>
    have hlink : linked? (sections.map SectionHeader.unnamed) found.2.unnamed.link
        = (linked? sections found.2.link).map SectionHeader.unnamed :=
      linked?_map_unnamed sections found.2.link
    simp only [Option.map_some, hlink, List.length_map]
    cases linked? sections found.2.link with
    | none => rfl
    | some strings =>
      have hholder : found.2.unnamed.Fits size ↔ found.2.Fits size := Iff.rfl
      have hstrings : strings.unnamed.Fits size ↔ strings.Fits size := Iff.rfl
      have hsize : found.2.unnamed.size = found.2.size := rfl
      simp only [Option.map_some, hholder, hstrings, hsize]
      split
      case isTrue => rfl
      split
      case isTrue => rfl
      split <;> rfl

/-- Names of sections play no part in finding the symbols. -/
theorem locate_map_unnamed (data : Bytes) (sections : List SectionHeader) :
    locate data (sections.map SectionHeader.unnamed) = locate data sections := by
  rw [locate_eq_map, locate_eq_map, place_map_unnamed]
  cases place data.size sections <;> rfl

end SymbolTable

end ElfScope
