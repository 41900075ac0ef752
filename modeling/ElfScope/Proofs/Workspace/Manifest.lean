import ElfScope.Workspace.Root

/-!
# What a manifest names

The packages of a workspace stand in the list at `workspace.metadata.elfview.packages` of its
manifest. The way there may end early, at a table that is not there; the usual packages are meant
then. A manifest is refused exactly if it names no packages in either way
(`parsePackages?_eq_some_iff`).
-/

namespace ElfScope

open Toml (Entries Fields Value)

/-! ## Lists of strings -/

namespace Toml.Value

/-- A value has a text exactly if it is a string. -/
theorem text?_eq_some_iff {value : Value} {content : String} :
    value.text? = some content ↔ value = .text content := by
  cases value <;> simp [text?]

/-- All values of a list have texts exactly if all are strings. -/
theorem mapM_text?_eq_some_iff {items : List Value} {contents : List String} :
    items.mapM text? = some contents ↔ items = contents.map .text := by
  induction items generalizing contents with
  | nil => cases contents <;> simp
  | cons item rest ih =>
    rw [List.mapM_cons]
    cases contents with
    | nil => simp [Option.bind_eq_some_iff]
    | cons content others =>
      rw [List.map_cons, List.cons.injEq, ← ih, ← text?_eq_some_iff]
      cases item.text? <;> cases rest.mapM text? <;> simp

/-- A value is a list of strings exactly if its contents are. -/
theorem texts?_eq_some_iff {value : Value} {contents : List String} :
    value.texts? = some contents ↔ value = .array (contents.map .text) := by
  cases value <;> simp [texts?, mapM_text?_eq_some_iff]

end Toml.Value

namespace Workspace

/-- What is inside a record under a name, where it may be missing: nothing, if the record has keys
and none of them is this name (`missing`), or the fields of what the record has there (`given`). -/
inductive Inside (fields : Fields) (name : String) : Option Fields → Prop where
  | missing {entries : Entries} (hfields : fields = .named entries)
      (hnone : entries.get? name = none) : Inside fields name none
  | given {value : Value} {inner : Fields} (hvalue : fields.get? name 0 = some value)
      (hinner : value.fields? = some inner) : Inside fields name (some inner)

/-- The packages that the table of a manifest names. They are the usual ones if the workspace has no
metadata (`usual`), or if these have nothing to say to this program (`unaddressed`). Otherwise they
are the ones that the metadata list (`listed`). -/
inductive Names (entries : Entries) : List String → Prop where
  | usual {value : Value} {workspace : Fields} (hvalue : entries.get? "workspace" = some value)
      (hworkspace : value.fields? = some workspace)
      (hmetadata : Inside workspace "metadata" none) : Names entries ["elfview-elf", "elfview"]
  | unaddressed {value : Value} {workspace metadata : Fields}
      (hvalue : entries.get? "workspace" = some value)
      (hworkspace : value.fields? = some workspace)
      (hmetadata : Inside workspace "metadata" (some metadata))
      (hown : Inside metadata "elfview" none) : Names entries ["elfview-elf", "elfview"]
  | listed {value : Value} {workspace metadata own : Fields} {packages : List String}
      (hvalue : entries.get? "workspace" = some value)
      (hworkspace : value.fields? = some workspace)
      (hmetadata : Inside workspace "metadata" (some metadata))
      (hown : Inside metadata "elfview" (some own))
      (hpackages : own.get? "packages" 0 = some (.array (packages.map .text))) :
      Names entries packages

/-- What is read of a record that may be missing is what is inside under its name. -/
theorem optionalRecord?_eq_some_iff {fields : Fields} {name : String} {inner : Option Fields} :
    optionalRecord? fields name = some inner ↔ Inside fields name inner := by
  unfold optionalRecord?
  constructor
  · intro h
    split at h
    case h_1 entries hnone =>
      cases h
      exact .missing rfl hnone
    case h_2 => cases h
    case h_3 value hvalue =>
      obtain ⟨found, hfound, hinner⟩ := Option.bind_eq_some_iff.1 h
      cases hinner
      exact .given hvalue hfound
  · intro h
    cases h with
    | missing hfields hnone =>
      subst hfields
      have hget : (Fields.named _).get? name 0 = none := hnone
      rw [hget]
    | given hvalue hinner =>
      rw [hvalue]
      cases fields <;> simp [hinner]

/-- The packages that are read from a document are those that it names. -/
theorem packagesOf?_eq_some_iff {entries : Entries} {packages : List String} :
    packagesOf? entries = some packages ↔ Names entries packages := by
  constructor
  · intro h
    obtain ⟨value, hvalue, h⟩ := Option.bind_eq_some_iff.1 h
    obtain ⟨workspace, hworkspace, h⟩ := Option.bind_eq_some_iff.1 h
    obtain ⟨metadata, hmetadata, h⟩ := Option.bind_eq_some_iff.1 h
    rw [optionalRecord?_eq_some_iff] at hmetadata
    cases metadata with
    | none =>
      cases h
      exact .usual hvalue hworkspace hmetadata
    | some metadata =>
      obtain ⟨own, hown, h⟩ := Option.bind_eq_some_iff.1 h
      rw [optionalRecord?_eq_some_iff] at hown
      cases own with
      | none =>
        cases h
        exact .unaddressed hvalue hworkspace hmetadata hown
      | some own =>
        obtain ⟨list, hlist, h⟩ := Option.bind_eq_some_iff.1 h
        rw [Value.texts?_eq_some_iff] at h
        exact .listed hvalue hworkspace hmetadata hown (h ▸ hlist)
  · intro h
    cases h with
    | usual hvalue hworkspace hmetadata =>
      rw [← optionalRecord?_eq_some_iff] at hmetadata
      refine Option.bind_eq_some_iff.2 ⟨_, hvalue, Option.bind_eq_some_iff.2 ⟨_, hworkspace, ?_⟩⟩
      exact Option.bind_eq_some_iff.2 ⟨none, hmetadata, rfl⟩
    | unaddressed hvalue hworkspace hmetadata hown =>
      rw [← optionalRecord?_eq_some_iff] at hmetadata hown
      refine Option.bind_eq_some_iff.2 ⟨_, hvalue, Option.bind_eq_some_iff.2 ⟨_, hworkspace, ?_⟩⟩
      refine Option.bind_eq_some_iff.2 ⟨some _, hmetadata, ?_⟩
      exact Option.bind_eq_some_iff.2 ⟨none, hown, rfl⟩
    | listed hvalue hworkspace hmetadata hown hpackages =>
      rw [← optionalRecord?_eq_some_iff] at hmetadata hown
      refine Option.bind_eq_some_iff.2 ⟨_, hvalue, Option.bind_eq_some_iff.2 ⟨_, hworkspace, ?_⟩⟩
      refine Option.bind_eq_some_iff.2 ⟨some _, hmetadata, ?_⟩
      refine Option.bind_eq_some_iff.2 ⟨some _, hown, ?_⟩
      exact Option.bind_eq_some_iff.2 ⟨_, hpackages, Value.texts?_eq_some_iff.2 rfl⟩

/-- The packages that are read from a manifest are those that its document names. -/
theorem parsePackages?_eq_some_iff {text : String} {packages : List String} :
    parsePackages? text = some packages ↔
      ∃ entries, Toml.parse text = some entries ∧ Names entries packages := by
  simp only [← packagesOf?_eq_some_iff]
  exact Option.bind_eq_some_iff

end Workspace

end ElfScope
