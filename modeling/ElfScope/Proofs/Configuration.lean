import ElfScope.Proofs.Toml.Record
import ElfScope.Settings

/-!
# What a configuration file sets

The table of a configuration file is refused for what it holds, and for nothing else: an unknown
key, a section that is no record, or a setting whose value is none of its words
(`ofEntries?_eq_none_iff`). The settings of any other table are what the words in it mean
(`labels_iff`, `readMode_iff`). The words of the label styles are `compat` and `full`, and those of
the reading modes `mmap` and `buffered` (`MeansLabels`, `MeansReadMode`).
-/

namespace ElfScope.Configuration

open Toml (Entries Fields Value)

/-! ## Words -/

/-- `MeansLabels word mode` says that a word means a label style in a configuration file. -/
inductive MeansLabels : String → LabelMode → Prop where
  | compat : MeansLabels "compat" .compat
  | full : MeansLabels "full" .full

/-- `MeansReadMode word mode` says that a word means a reading mode in a configuration file. -/
inductive MeansReadMode : String → ReadMode → Prop where
  | mapped : MeansReadMode "mmap" .mapped
  | buffered : MeansReadMode "buffered" .buffered

/-- Every word of a label style is read, and nothing else is. -/
theorem labelModeOfName?_eq_some_iff (word : String) (mode : LabelMode) :
    LabelMode.ofName? word = some mode ↔ MeansLabels word mode := by
  constructor
  · intro h
    unfold LabelMode.ofName? at h
    split at h
    · cases h
      exact .compat
    · cases h
      exact .full
    · cases h
  · intro h
    cases h <;> rfl

/-- Every word of a reading mode is read, and nothing else is. -/
theorem readModeOfName?_eq_some_iff (word : String) (mode : ReadMode) :
    readModeOfName? word = some mode ↔ MeansReadMode word mode := by
  constructor
  · intro h
    unfold readModeOfName? at h
    split at h
    · cases h
      exact .mapped
    · cases h
      exact .buffered
    · cases h
  · intro h
    cases h <;> rfl

variable {α : Type} {ofName? : String → Option α} {Means : String → α → Prop} {name part : String}
  {value setting : Value} {entries : Entries} {choice : α}

/-! ## One setting -/

/-- A value gives a setting the meaning of the word that it chooses. -/
def Gives (Means : String → α → Prop) (setting : Value) (choice : α) : Prop :=
  ∃ word, setting.Chooses word ∧ Means word choice

/-- What is wrong with a section that has one setting: it is no record (`notRecord`), it has a key
that is not known (`unknownKey`), or the value of its setting is no word with a meaning
(`notAccepted`). -/
inductive RefusedSection (name : String) (Means : String → α → Prop) (value : Value) : Prop where
  | notRecord (hnone : value.fields? = none)
  | unknownKey {fields : Fields} {key : String} (hfields : value.fields? = some fields)
      (hkey : fields.HasKey key) (hunknown : key ≠ name)
  | notAccepted {fields : Fields} {setting : Value} (hfields : value.fields? = some fields)
      (hsetting : fields.get? name 0 = some setting)
      (hnone : ∀ choice, ¬ Gives Means setting choice)

/-- A section sets its setting. -/
inductive SetsTo (name : String) (Means : String → α → Prop) (value : Value) (choice : α) :
    Prop where
  | intro {fields : Fields} {setting : Value} (hfields : value.fields? = some fields)
      (hsetting : fields.get? name 0 = some setting) (hgives : Gives Means setting choice)

/-- The table of a configuration file sets a setting in a section. -/
def Sets (entries : Entries) (part name : String) (Means : String → α → Prop) (choice : α) : Prop :=
  ∃ value, entries.get? part = some value ∧ SetsTo name Means value choice

/-- What is found in the value of a setting that is there. -/
theorem chosen?_some (setting : Value) :
    chosen? ofName? (some setting) = (setting.choice?.bind ofName?).map some := by
  rw [chosen?]
  cases setting.choice? with
  | none => rfl
  | some word => cases hword : ofName? word <;> simp [hword]

/-- What is read of a section is what is read of the value of its setting, if all its keys are
known. -/
theorem sectionSetting?_eq_some_iff {found : Option α} (h : value.Ordered) :
    sectionSetting? name ofName? (some value) = some found ↔
      ∃ fields, value.fields? = some fields ∧ (∀ key, fields.HasKey key → key = name) ∧
        chosen? ofName? (fields.get? name 0) = some found := by
  refine Option.bind_eq_some_iff.trans ?_
  refine exists_congr fun fields => and_congr_right fun hfields => ?_
  have hkeys : fields.allNamed [name] = true ↔ ∀ key, fields.HasKey key → key = name := by
    simp only [Fields.allNamed_iff (h.ofFields hfields), List.mem_singleton]
  rw [← hkeys]
  cases fields.allNamed [name] <;> simp

section Words

variable (hmeans : ∀ word choice, ofName? word = some choice ↔ Means word choice)
include hmeans

/-- A value is read as the meaning of its word. -/
theorem gives_iff (h : setting.Ordered) :
    setting.choice?.bind ofName? = some choice ↔ Gives Means setting choice := by
  simp only [Option.bind_eq_some_iff, Value.choice?_eq_some_iff h, hmeans, Gives]

/-- A value that chooses no word with a meaning is refused. -/
theorem chosen?_eq_none_iff (h : setting.Ordered) :
    chosen? ofName? (some setting) = none ↔ ∀ choice, ¬ Gives Means setting choice := by
  rw [chosen?_some, Option.map_eq_none_iff, Option.eq_none_iff_forall_ne_some]
  simp only [ne_eq, gives_iff hmeans h]

/-- A value that gives a choice is read as this choice. -/
theorem chosen?_eq_some_iff (h : setting.Ordered) :
    chosen? ofName? (some setting) = some (some choice) ↔ Gives Means setting choice := by
  simp only [chosen?_some, Option.map_eq_some_iff, Option.some.injEq, exists_eq_right,
    gives_iff hmeans h]

/-! ## One section -/

/-- A section is refused exactly if something is wrong with it. -/
theorem sectionSetting?_eq_none_iff (h : value.Ordered) :
    sectionSetting? name ofName? (some value) = none ↔ RefusedSection name Means value := by
  constructor
  · intro hnone
    by_contra hrefused
    cases hfields : value.fields? with
    | none => exact hrefused (.notRecord hfields)
    | some fields =>
      have hkeys : ∀ key, fields.HasKey key → key = name :=
        fun key hkey => by_contra fun hunknown => hrefused (.unknownKey hfields hkey hunknown)
      have hchosen : chosen? ofName? (fields.get? name 0) ≠ none := by
        cases hsetting : fields.get? name 0 with
        | none => exact Option.some_ne_none none
        | some setting =>
          rw [ne_eq, chosen?_eq_none_iff hmeans ((h.ofFields hfields).found hsetting)]
          exact fun hgives => hrefused (.notAccepted hfields hsetting hgives)
      obtain ⟨found, hfound⟩ := Option.ne_none_iff_exists'.1 hchosen
      rw [(sectionSetting?_eq_some_iff h).2 ⟨fields, hfields, hkeys, hfound⟩] at hnone
      cases hnone
  · intro hrefused
    rw [Option.eq_none_iff_forall_ne_some]
    intro found hfound
    obtain ⟨fields, hfields, hkeys, hchosen⟩ := (sectionSetting?_eq_some_iff h).1 hfound
    cases hrefused with
    | notRecord hnone =>
      rw [hfields] at hnone
      cases hnone
    | unknownKey hother hkey hunknown =>
      rw [hfields] at hother
      cases hother
      exact hunknown (hkeys _ hkey)
    | notAccepted hother hsetting hgives =>
      rw [hfields] at hother
      cases hother
      have hordered := (h.ofFields hfields).found hsetting
      rw [hsetting, (chosen?_eq_none_iff hmeans hordered).2 hgives] at hchosen
      cases hchosen

/-- What is read of any other section is the choice that it sets its setting to. -/
theorem setsTo_iff {found : Option α} (h : value.Ordered)
    (hfound : sectionSetting? name ofName? (some value) = some found) :
    found = some choice ↔ SetsTo name Means value choice := by
  obtain ⟨fields, hfields, -, hchosen⟩ := (sectionSetting?_eq_some_iff h).1 hfound
  have hsets : SetsTo name Means value choice ↔
      ∃ setting, fields.get? name 0 = some setting ∧ Gives Means setting choice := by
    constructor
    · rintro ⟨hother, hsetting, hgives⟩
      rw [hfields] at hother
      cases hother
      exact ⟨_, hsetting, hgives⟩
    · rintro ⟨setting, hsetting, hgives⟩
      exact ⟨hfields, hsetting, hgives⟩
  rw [hsets]
  cases hsetting : fields.get? name 0 with
  | none =>
    rw [hsetting] at hchosen
    cases hchosen
    simp
  | some setting =>
    rw [hsetting] at hchosen
    simp [← chosen?_eq_some_iff hmeans ((h.ofFields hfields).found hsetting), hchosen]

/-- A section that is not there is not refused. -/
theorem sectionSetting?_get?_eq_none_iff (h : entries.Ordered) :
    sectionSetting? name ofName? (entries.get? part) = none ↔
      ∃ value, entries.get? part = some value ∧ RefusedSection name Means value := by
  cases hvalue : entries.get? part with
  | none => simp [sectionSetting?]
  | some value => simp [sectionSetting?_eq_none_iff hmeans (h.found hvalue)]

/-- A section that is not there sets nothing. -/
theorem sets_iff {found : Option α} (h : entries.Ordered)
    (hfound : sectionSetting? name ofName? (entries.get? part) = some found) :
    found = some choice ↔ Sets entries part name Means choice := by
  unfold Sets
  cases hvalue : entries.get? part with
  | none =>
    rw [hvalue] at hfound
    cases hfound
    simp
  | some value =>
    rw [hvalue] at hfound
    simp [setsTo_iff hmeans (h.found hvalue) hfound]

end Words

/-! ## The whole file -/

/-- What is wrong with the table of a configuration file: it has a key that is not known
(`unknownKey`), or one of its sections is refused (`report`, `reader`). -/
inductive Refused (entries : Entries) : Prop where
  | unknownKey {key : String} {value : Value} (hvalue : entries.get? key = some value)
      (hreport : key ≠ "report") (hreader : key ≠ "reader")
  | report {value : Value} (hvalue : entries.get? "report" = some value)
      (hrefused : RefusedSection "labels" MeansLabels value)
  | reader {value : Value} (hvalue : entries.get? "reader" = some value)
      (hrefused : RefusedSection "mode" MeansReadMode value)

/-- What is read of a table is what is read of its two sections, if it has no other key. -/
theorem ofEntries?_eq_some_iff {configuration : Configuration} (h : entries.Ordered) :
    ofEntries? entries = some configuration ↔
      (∀ key value, entries.get? key = some value → key = "report" ∨ key = "reader") ∧
      sectionSetting? "labels" LabelMode.ofName? (entries.get? "report")
        = some configuration.labels ∧
      sectionSetting? "mode" readModeOfName? (entries.get? "reader")
        = some configuration.readMode := by
  have hkeys : (∀ key value, entries.get? key = some value → key = "report" ∨ key = "reader") ↔
      (Fields.named entries).allNamed ["report", "reader"] = true := by
    simp only [Fields.allNamed_iff (.named h), Fields.hasKey_named_iff, List.mem_cons,
      List.not_mem_nil, or_false, forall_exists_index]
  rw [hkeys, ofEntries?]
  cases (Fields.named entries).allNamed ["report", "reader"] with
  | false => simp
  | true =>
    have hreport : (Fields.named entries).get? "report" 0 = entries.get? "report" := rfl
    have hreader : (Fields.named entries).get? "reader" 1 = entries.get? "reader" := rfl
    rw [hreport, hreader]
    cases sectionSetting? "labels" LabelMode.ofName? (entries.get? "report") with
    | none => simp
    | some labels =>
      cases sectionSetting? "mode" readModeOfName? (entries.get? "reader") with
      | none => simp
      | some readMode => cases configuration; simp

/-- The table of a configuration file is refused exactly if something is wrong with it. -/
theorem ofEntries?_eq_none_iff (h : entries.Ordered) :
    ofEntries? entries = none ↔ Refused entries := by
  constructor
  · intro hnone
    by_contra hrefused
    have hkeys : ∀ key value, entries.get? key = some value → key = "report" ∨ key = "reader" := by
      intro key value hvalue
      by_contra hunknown
      obtain ⟨hreport, hreader⟩ := not_or.1 hunknown
      exact hrefused (.unknownKey hvalue hreport hreader)
    have hreport : sectionSetting? "labels" LabelMode.ofName? (entries.get? "report") ≠ none := by
      rw [ne_eq, sectionSetting?_get?_eq_none_iff labelModeOfName?_eq_some_iff h]
      rintro ⟨value, hvalue, hsection⟩
      exact hrefused (.report hvalue hsection)
    have hreader : sectionSetting? "mode" readModeOfName? (entries.get? "reader") ≠ none := by
      rw [ne_eq, sectionSetting?_get?_eq_none_iff readModeOfName?_eq_some_iff h]
      rintro ⟨value, hvalue, hsection⟩
      exact hrefused (.reader hvalue hsection)
    obtain ⟨labels, hlabels⟩ := Option.ne_none_iff_exists'.1 hreport
    obtain ⟨readMode, hreadMode⟩ := Option.ne_none_iff_exists'.1 hreader
    have hsome : ofEntries? entries = some ⟨labels, readMode⟩ :=
      (ofEntries?_eq_some_iff h).2 ⟨hkeys, hlabels, hreadMode⟩
    rw [hsome] at hnone
    cases hnone
  · intro hrefused
    rw [Option.eq_none_iff_forall_ne_some]
    intro configuration hsome
    obtain ⟨hkeys, hlabels, hreadMode⟩ := (ofEntries?_eq_some_iff h).1 hsome
    cases hrefused with
    | unknownKey hvalue hreport hreader => exact (hkeys _ _ hvalue).elim hreport hreader
    | report hvalue hsection =>
      rw [(sectionSetting?_get?_eq_none_iff labelModeOfName?_eq_some_iff h).2
        ⟨_, hvalue, hsection⟩] at hlabels
      cases hlabels
    | reader hvalue hsection =>
      rw [(sectionSetting?_get?_eq_none_iff readModeOfName?_eq_some_iff h).2
        ⟨_, hvalue, hsection⟩] at hreadMode
      cases hreadMode

section Settings

variable {configuration : Configuration} (h : entries.Ordered)
  (hsome : ofEntries? entries = some configuration)
include h hsome

/-- The label style of a configuration is the one that its table sets. -/
theorem labels_iff {mode : LabelMode} :
    configuration.labels = some mode ↔ Sets entries "report" "labels" MeansLabels mode :=
  sets_iff labelModeOfName?_eq_some_iff h ((ofEntries?_eq_some_iff h).1 hsome).2.1

/-- The reading mode of a configuration is the one that its table sets. -/
theorem readMode_iff {mode : ReadMode} :
    configuration.readMode = some mode ↔ Sets entries "reader" "mode" MeansReadMode mode :=
  sets_iff readModeOfName?_eq_some_iff h ((ofEntries?_eq_some_iff h).1 hsome).2.2

end Settings

end ElfScope.Configuration
