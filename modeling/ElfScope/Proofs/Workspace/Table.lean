import ElfScope.Proofs.Workspace.Root

/-!
# Markers and tables

The search takes a manifest for that of a workspace by the text `[workspace]`, and what is loaded
then is read from the table of that name. A manifest can have the one without the other: a comment
or a string can hold the marker, and the table can be written without it. What the search finds is
the nearest table exactly if the first manifest with either of the two has both, or if there is no
table at all and nothing can be loaded from that manifest (`findsTable_iff`).
-/

namespace ElfScope.Workspace

open Location (Clear Nearest)

variable {tree : FileTree} {directory place root : Location} {text : String}

/-- A document has the table of a workspace, however it is written. -/
def HasTable (entries : Toml.Entries) : Prop :=
  ∃ origin table, entries.get? "workspace" = some (.table origin table)

/-- The manifest of a directory is a document with the table of a workspace. -/
def Tabled (tree : FileTree) (directory : Location) : Prop :=
  ∃ text entries, tree.entry? ("Cargo.toml" :: directory) = some (.file (Utf8.encode text)) ∧
    Toml.parse text = some entries ∧ HasTable entries

/-- The manifest of a directory names packages. -/
def Loadable (tree : FileTree) (directory : Location) : Prop :=
  ∃ text entries packages,
    tree.entry? ("Cargo.toml" :: directory) = some (.file (Utf8.encode text)) ∧
    Toml.parse text = some entries ∧ Names entries packages

/-- Every manifest from a directory outward can be read and is a document. -/
def Sound (tree : FileTree) (directory : Location) : Prop :=
  ∀ place, place <:+ directory → ∀ entry, tree.entry? ("Cargo.toml" :: place) = some entry →
    ∃ text entries, entry = .file (Utf8.encode text) ∧ Toml.parse text = some entries

/-- The search from a directory finds the nearest table of a workspace: the root is the nearest
directory whose manifest has the table (`root`), and without such a directory nothing is loaded
(`none`). -/
structure FindsTable (tree : FileTree) (directory : Location) : Prop where
  root : ∀ root, Nearest (Tabled tree) directory root →
    ∃ text, findRoot tree directory = .ok (root, text)
  none : (∀ place, place <:+ directory → ¬ Tabled tree place) →
    ∃ error, load tree directory = .error error

/-! ## Without manifests that cannot be read -/

/-- Around a sound directory every manifest can be read. -/
theorem Sound.readable (h : Sound tree directory) (hplace : place <:+ directory) :
    ¬ Unreadable tree place := by
  rintro ⟨entry, hentry, hnone⟩
  obtain ⟨text, entries, hfile, -⟩ := h place hplace entry hentry
  exact hnone text hfile

/-- From a sound directory the root that is found is the nearest marked directory. -/
theorem Sound.exists_findRoot_eq_ok_iff (h : Sound tree directory) :
    (∃ text, findRoot tree directory = .ok (root, text)) ↔
      Nearest (Marked tree) directory root := by
  rw [Workspace.exists_findRoot_eq_ok_iff, and_iff_left_iff_imp]
  exact fun _ nearer hnearer _ => h.readable hnearer

/-- Behind a root, loading fails exactly if its manifest names no packages. -/
theorem exists_load_eq_error_iff (h : findRoot tree directory = .ok (root, text)) :
    (∃ error, load tree directory = .error error) ↔ ¬ Loadable tree root := by
  have htext := (findRoot_eq_ok_iff.1 h).2
  have hloadable : Loadable tree root ↔ ∃ packages, parsePackages? text = some packages := by
    simp only [Loadable, parsePackages?_eq_some_iff, ← manifest?_eq_ok_iff, htext,
      Option.some.injEq, Except.ok.injEq]
    constructor
    · rintro ⟨_, entries, packages, rfl, hentries⟩
      exact ⟨packages, entries, hentries⟩
    · rintro ⟨packages, entries, hentries⟩
      exact ⟨text, entries, packages, rfl, hentries⟩
  rw [hloadable, load_of_found h]
  cases parsePackages? text <;> simp

/-! ## When the marker stands for the table -/

/-- A directory whose manifest has a marker or a table. -/
def Suggested (tree : FileTree) (directory : Location) : Prop :=
  Marked tree directory ∨ Tabled tree directory

/-- The nearest directory with a marker or a table is marked exactly if it is the nearest marked one
and no table is nearer. -/
theorem nearest_suggested_marked_iff :
    Nearest (Suggested tree) directory place ∧ Marked tree place ↔
      Nearest (Marked tree) directory place ∧ Clear (Tabled tree) directory place :=
  Location.nearest_or_iff

/-- The nearest directory with a marker or a table has a table exactly if it is the nearest with one
and no marker is nearer. -/
theorem nearest_suggested_tabled_iff :
    Nearest (Suggested tree) directory place ∧ Tabled tree place ↔
      Nearest (Tabled tree) directory place ∧ Clear (Marked tree) directory place :=
  Location.nearest_or_right_iff

/-- Where the search finds the nearest table, the nearest suggestion is marked, and it has the table
or there is none and loading fails on it. -/
theorem FindsTable.suggestion (h : FindsTable tree directory) (hsound : Sound tree directory)
    (hplace : Nearest (Suggested tree) directory place) :
    Marked tree place ∧ (Tabled tree place ∨
      (∀ outer, outer <:+ directory → ¬ Tabled tree outer) ∧ ¬ Loadable tree place) := by
  by_cases htabled : ∃ outer, outer <:+ directory ∧ Tabled tree outer
  case pos =>
    obtain ⟨outer, houter, htable⟩ := htabled
    obtain ⟨root, hroot⟩ := Location.exists_nearest houter htable
    have hmarked := hsound.exists_findRoot_eq_ok_iff.1 (h.root root hroot)
    -- The nearest of either kind is the nearest of its own kind, and so the root.
    have hsame : place = root := by
      obtain hhere | hhere := hplace.holds
      · exact (nearest_suggested_marked_iff.1 ⟨hplace, hhere⟩).1.unique hmarked
      · exact (nearest_suggested_tabled_iff.1 ⟨hplace, hhere⟩).1.unique hroot
    rw [hsame]
    exact ⟨hmarked.holds, .inl hroot.holds⟩
  case neg =>
    have hnone : ∀ outer, outer <:+ directory → ¬ Tabled tree outer :=
      fun outer houter htable => htabled ⟨outer, houter, htable⟩
    have hmarked := hplace.holds.resolve_right (hnone place hplace.around)
    obtain ⟨text, hfound⟩ := hsound.exists_findRoot_eq_ok_iff.2
      (nearest_suggested_marked_iff.1 ⟨hplace, hmarked⟩).1
    exact ⟨hmarked, .inr ⟨hnone, (exists_load_eq_error_iff hfound).1 (h.none hnone)⟩⟩

/-- The search finds the nearest table of a workspace exactly if the first manifest, from the
directory outward, that has the marker or the table has the marker, and has the table, too, unless
there is no table at all and the manifest names no packages. -/
theorem findsTable_iff (h : Sound tree directory) :
    FindsTable tree directory ↔ ∀ place, Nearest (Suggested tree) directory place →
      Marked tree place ∧ (Tabled tree place ∨
        (∀ outer, outer <:+ directory → ¬ Tabled tree outer) ∧ ¬ Loadable tree place) := by
  refine ⟨fun hfinds place hplace => hfinds.suggestion h hplace, fun hfirst => ⟨?root, ?none⟩⟩
  case root =>
    intro root hroot
    have hsuggested : Suggested tree root := .inr hroot.holds
    obtain ⟨place, hplace⟩ := Location.exists_nearest hroot.around hsuggested
    obtain ⟨hmarked, htabled | ⟨hnone, -⟩⟩ := hfirst place hplace
    · obtain rfl := (nearest_suggested_tabled_iff.1 ⟨hplace, htabled⟩).1.unique hroot
      exact h.exists_findRoot_eq_ok_iff.2 (nearest_suggested_marked_iff.1 ⟨hplace, hmarked⟩).1
    · exact absurd hroot.holds (hnone root hroot.around)
  case none =>
    intro hnone
    cases hfound : findRoot tree directory with
    | error error => exact ⟨error, by rw [load, hfound]⟩
    | ok found =>
      have hroot := h.exists_findRoot_eq_ok_iff.1 ⟨found.2, hfound⟩
      have hclear : Clear (Tabled tree) directory found.1 :=
        fun nearer hnearer _ => hnone nearer hnearer
      obtain ⟨-, htabled | ⟨-, hload⟩⟩ :=
        hfirst found.1 (nearest_suggested_marked_iff.2 ⟨hroot, hclear⟩).1
      · exact absurd htabled (hnone found.1 hroot.around)
      · exact (exists_load_eq_error_iff hfound).2 hload

/-! ## A package inside a workspace -/

/-- A workspace whose manifest has its table, and a directory `a` inside it with a manifest. -/
def nested (inner : String) : FileTree :=
  .ofList [(["Cargo.toml"], .file (Utf8.encode "[workspace]\n")),
    (["Cargo.toml", "a"], .file (Utf8.encode inner))]

/-- The outer manifest has the table of a workspace. -/
theorem manifest?_nested_outer (inner : String) :
    manifest? (nested inner) [] = some (.ok "[workspace]\n") :=
  manifest?_eq_ok_iff.2 rfl

/-- The inner manifest is the one that was put there. -/
theorem manifest?_nested_inner (inner : String) :
    manifest? (nested inner) ["a"] = some (.ok inner) :=
  manifest?_eq_ok_iff.2 rfl

/-- The inner directory is sound if its manifest is a document. -/
theorem sound_nested {inner : String} {entries : Toml.Entries}
    (h : Toml.parse inner = some entries) : Sound (nested inner) ["a"] := by
  intro place hplace entry hentry
  obtain rfl | hplace := List.suffix_cons_iff.1 hplace
  · rw [manifest?_eq_ok_iff.1 (manifest?_nested_inner inner)] at hentry
    exact ⟨inner, entries, (Option.some.inj hentry).symm, h⟩
  · obtain rfl := List.suffix_nil.1 hplace
    rw [manifest?_eq_ok_iff.1 (manifest?_nested_outer inner)] at hentry
    exact ⟨"[workspace]\n", _, (Option.some.inj hentry).symm, rfl⟩

/-- The outer directory is marked. -/
theorem marked_nested_outer (inner : String) : Marked (nested inner) [] :=
  (marked_iff (manifest?_nested_outer inner)).2 (by decide)

/-- The outer directory has a table. -/
theorem tabled_nested_outer (inner : String) : Tabled (nested inner) [] :=
  ⟨"[workspace]\n", _, manifest?_eq_ok_iff.1 (manifest?_nested_outer inner), rfl,
    .header, ∅, rfl⟩

/-- The inner directory has no table if its document has none. -/
theorem not_tabled_nested_inner {inner : String}
    (h : ((Toml.parse inner).bind fun entries => entries.get? "workspace").isNone = true) :
    ¬ Tabled (nested inner) ["a"] := by
  rintro ⟨text, entries, htext, hentries, origin, table, htable⟩
  rw [← manifest?_eq_ok_iff, manifest?_nested_inner, Option.some.injEq, Except.ok.injEq] at htext
  rw [htext, hentries, Option.bind_some, htable] at h
  cases h

/-- A package without a marker and without a table is passed over. -/
theorem findsTable_nested :
    Sound (nested "[package]\n") ["a"] ∧ FindsTable (nested "[package]\n") ["a"] := by
  have hsound : Sound (nested "[package]\n") ["a"] := sound_nested rfl
  refine ⟨hsound, (findsTable_iff hsound).2 fun place hplace => ?_⟩
  obtain rfl | houter := List.suffix_cons_iff.1 hplace.around
  · obtain hmarked | htabled := hplace.holds
    · exact absurd ((marked_iff (manifest?_nested_inner _)).1 hmarked) (by decide)
    · exact absurd htabled (not_tabled_nested_inner rfl)
  · obtain rfl := List.suffix_nil.1 houter
    exact ⟨marked_nested_outer _, .inl (tabled_nested_outer _)⟩

/-- The manifest of a package with the marker in a comment. -/
def commented : String := "# no [workspace] here\n[package]\nname = \"a\"\n"

/-- The comment is taken for a table, so that nothing is loaded, although there is a root. -/
theorem comment_hides_root :
    Sound (nested commented) ["a"] ∧ Nearest (Tabled (nested commented)) ["a"] [] ∧
      load (nested commented) ["a"] = .error .malformed ∧
      ¬ FindsTable (nested commented) ["a"] := by
  have hroot : Nearest (Tabled (nested commented)) ["a"] [] :=
    (Location.nearest_self (tabled_nested_outer commented)).cons (not_tabled_nested_inner rfl)
  have hmarked : Marked (nested commented) ["a"] :=
    (marked_iff (manifest?_nested_inner commented)).2 (by decide)
  have hsound : Sound (nested commented) ["a"] := sound_nested rfl
  obtain ⟨text, hfound⟩ := hsound.exists_findRoot_eq_ok_iff.2 (Location.nearest_self hmarked)
  refine ⟨hsound, hroot, ?_, fun hfinds => ?_⟩
  · obtain rfl : commented = text := by
      have htext := (findRoot_eq_ok_iff.1 hfound).2
      rwa [manifest?_nested_inner, Option.some.injEq, Except.ok.injEq] at htext
    have hpackages : parsePackages? commented = none := rfl
    rw [load_of_found hfound, hpackages, Option.elim_none]
  · obtain ⟨other, hother⟩ := hfinds.root [] hroot
    rw [hfound] at hother
    cases hother

end ElfScope.Workspace
