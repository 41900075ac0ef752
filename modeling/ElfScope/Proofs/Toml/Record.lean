import ElfScope.Proofs.Toml.Ordered
import Mathlib.Data.List.Nodup

/-!
# Records and choices

What a record holds and which word a value chooses, told by look-ups. The program lists the keys of
a table instead, which comes to the same in a search tree (`Fields.allNamed_iff`,
`Value.choice?_eq_some_iff`).
-/

namespace ElfScope.Toml

variable {entries : Entries} {fields : Fields} {value : Value} {key word name : String}
  {position : Nat}

/-! ## Search trees by look-ups -/

/-- A key is in a table exactly if a value is found under it. -/
theorem Entries.mem_iff (h : entries.WF) :
    key ∈ entries ↔ ∃ value, entries.get? key = some value := by
  rw [Std.TreeMap.Raw.mem_iff_isSome_getElem? h, Option.isSome_iff_exists]
  rfl

/-- A table is empty exactly if no value is found in it. -/
theorem Entries.isEmpty_iff (h : entries.WF) :
    entries.isEmpty = true ↔ ∀ key, entries.get? key = none := by
  simp only [Std.TreeMap.Raw.isEmpty_iff_forall_not_mem h, Entries.mem_iff h, not_exists,
    Option.eq_none_iff_forall_ne_some, ne_eq]

/-- A table has a single entry exactly if one look-up finds it and no other finds anything. -/
theorem Entries.toList_eq_singleton_iff (h : entries.WF) :
    entries.toList = [(key, value)] ↔
      entries.get? key = some value ∧ ∀ other, entries.get? other ≠ none → other = key := by
  have hmem : ∀ pair, pair ∈ entries.toList ↔ entries.get? pair.1 = some pair.2 :=
    fun pair => Std.TreeMap.Raw.mem_toList_iff_getElem?_eq_some h
  constructor
  · intro hlist
    rw [hlist] at hmem
    refine ⟨(hmem (key, value)).1 (List.mem_singleton_self _), fun other hother => ?_⟩
    obtain ⟨found, hfound⟩ := Option.ne_none_iff_exists'.1 hother
    exact congrArg Prod.fst (List.mem_singleton.1 ((hmem (other, found)).2 hfound))
  · rintro ⟨hvalue, hother⟩
    have hnodup : entries.toList.Nodup := by
      refine (Std.TreeMap.Raw.distinct_keys_toList h).imp fun hne hsame => hne ?_
      rw [hsame]
      exact Std.ReflCmp.compare_self
    refine List.perm_singleton.1
      ((List.perm_ext_iff_of_nodup hnodup (List.nodup_singleton _)).2 fun pair => ?_)
    rw [hmem, List.mem_singleton]
    constructor
    · intro hpair
      have hkey : pair.1 = key := hother pair.1 (Option.ne_none_iff_exists'.2 ⟨pair.2, hpair⟩)
      rw [hkey, hvalue] at hpair
      exact Prod.ext hkey (Option.some.inj hpair).symm
    · rintro rfl
      exact hvalue

/-! ## Records -/

/-- Every table in the fields of a record is a search tree. -/
inductive Fields.Ordered : Fields → Prop where
  | named {entries : Entries} (hentries : entries.Ordered) : Fields.Ordered (.named entries)
  | positional {items : List Value} (hitems : ∀ item ∈ items, item.Ordered) :
      Fields.Ordered (.positional items)

/-- The fields of a value have search trees only. -/
theorem Value.Ordered.ofFields (h : value.Ordered) (hfields : value.fields? = some fields) :
    fields.Ordered := by
  cases h with
  | text | integer | decimal | boolean => cases hfields
  | moment literal =>
    cases hfields
    exact .named (Entries.ordered_empty.insert (.text literal))
  | array hitems =>
    cases hfields
    exact .positional hitems
  | table origin hentries =>
    cases hfields
    exact .named hentries
  | tables hlast hearlier =>
    cases hfields
    refine .positional fun item hitem => ?_
    obtain ⟨table, htable, rfl⟩ := List.mem_map.1 hitem
    obtain rfl | htable := List.mem_cons.1 (List.mem_reverse.1 htable)
    · exact .table _ hlast
    · exact .table _ (hearlier table htable)

/-- A field of a record has search trees only. -/
theorem Fields.Ordered.found (h : fields.Ordered)
    (hvalue : fields.get? name position = some value) : value.Ordered := by
  cases h with
  | named hentries => exact hentries.found hvalue
  | positional hitems => exact hitems value (List.mem_of_getElem? hvalue)

/-- A record has a key. A record that is written as a list has none. -/
inductive Fields.HasKey : Fields → String → Prop where
  | named {entries : Entries} {key : String} {value : Value}
      (hvalue : entries.get? key = some value) : Fields.HasKey (.named entries) key

/-- A record that is given by keys has a key exactly if a value is found under it. -/
theorem Fields.hasKey_named_iff :
    (Fields.named entries).HasKey key ↔ ∃ value, entries.get? key = some value := by
  constructor
  · rintro ⟨hvalue⟩
    exact ⟨_, hvalue⟩
  · rintro ⟨value, hvalue⟩
    exact .named hvalue

/-- All fields of a record are named in a list exactly if each key of it is. -/
theorem Fields.allNamed_iff {names : List String} (h : fields.Ordered) :
    fields.allNamed names = true ↔ ∀ key, fields.HasKey key → key ∈ names := by
  cases h with
  | named hentries =>
    simp only [allNamed, List.all_eq_true, List.contains_iff_mem,
      Std.TreeMap.Raw.mem_keys hentries.wf, Entries.mem_iff hentries.wf, hasKey_named_iff]
  | positional hitems =>
    refine ⟨fun _ key hkey => ?_, fun _ => rfl⟩
    cases hkey

/-! ## Choices -/

/-- A value has nothing in it. -/
inductive Value.Vacant : Value → Prop where
  | array : Value.Vacant (.array [])
  | table {entries : Entries} (origin : Origin) (hnone : ∀ key, entries.get? key = none) :
      Value.Vacant (.table origin entries)

/-- A value chooses a word: it is this string, or a table with this key alone, which has nothing in
it. -/
inductive Value.Chooses : Value → String → Prop where
  | text (word : String) : Value.Chooses (.text word) word
  | key {entries : Entries} {word : String} {value : Value} (origin : Origin)
      (hvalue : entries.get? word = some value) (hvacant : value.Vacant)
      (hother : ∀ other, entries.get? other ≠ none → other = word) :
      Value.Chooses (.table origin entries) word

/-- A value is found vacant exactly if it has nothing in it. -/
theorem Value.isVacant_iff (h : value.Ordered) : value.isVacant = true ↔ value.Vacant := by
  constructor
  · intro hvacant
    cases h with
    | text | integer | decimal | boolean | moment | tables => cases hvacant
    | @array items =>
      cases items with
      | nil => exact .array
      | cons => cases hvacant
    | table origin hentries => exact .table origin ((Entries.isEmpty_iff hentries.wf).1 hvacant)
  · intro hvacant
    cases hvacant with
    | array => rfl
    | table origin hnone => exact (Entries.isEmpty_iff h.ofTable.wf).2 hnone

/-- The choice that is read from a value is the word that it chooses. -/
theorem Value.choice?_eq_some_iff (h : value.Ordered) :
    value.choice? = some word ↔ value.Chooses word := by
  constructor
  · intro hword
    unfold choice? at hword
    split at hword
    case h_1 =>
      cases hword
      exact .text word
    case h_2 origin entries =>
      split at hword
      case h_1 key inner hlist =>
        obtain ⟨hinner, hother⟩ := (Entries.toList_eq_singleton_iff h.ofTable.wf).1 hlist
        split at hword
        · cases hword
          exact .key origin hinner ((isVacant_iff (h.ofTable.found hinner)).1 ‹_›) hother
        · cases hword
      case h_2 => cases hword
    case h_3 => cases hword
  · intro hword
    cases hword with
    | text => rfl
    | key origin hinner hvacant hother =>
      have hlist := (Entries.toList_eq_singleton_iff h.ofTable.wf).2 ⟨hinner, hother⟩
      rw [choice?, hlist]
      exact if_pos ((isVacant_iff (h.ofTable.found hinner)).2 hvacant)

end ElfScope.Toml
