import ElfScope.Proofs.Files
import ElfScope.Proofs.Workspace.Manifest
import Mathlib.Data.List.Infix

/-!
# Where the search for the root ends

The search goes outward, one directory a step, and ends at the first manifest that settles it: one
that holds the marker, which gives the root, or one that cannot be read, which is an error. If there
is none, the outermost directory ends it (`Search`). So what lies behind the place where it ends, or
beside the way there, has no part in the answer, and neither has it in what is then loaded
(`search_decides`).
-/

namespace ElfScope

/-! ## Places around a directory -/

namespace Location

/-- Nothing that `suits` is true of is nearer to a directory than a place around it. -/
def Clear (suits : Location → Prop) (directory place : Location) : Prop :=
  ∀ nearer, nearer <:+ directory → place.length < nearer.length → ¬ suits nearer

/-- The nearest place, from a directory outward, that `suits` is true of: it is the directory itself
or lies around it (`around`), it is such a place (`holds`), and none is nearer (`clear`). -/
structure Nearest (suits : Location → Prop) (directory place : Location) : Prop where
  around : place <:+ directory
  holds : suits place
  clear : Clear suits directory place

variable {suits : Location → Prop} {directory outer place other : Location} {name : String}

/-- Nothing is nearer to a directory than the directory itself. -/
theorem clear_self (suits : Location → Prop) (directory : Location) :
    Clear suits directory directory :=
  fun _ hnearer hlength => absurd hnearer.length_le (Nat.not_le.2 hlength)

/-- One directory further in, one more place has to be ruled out. -/
theorem Clear.cons (h : Clear suits outer place) (hname : ¬ suits (name :: outer)) :
    Clear suits (name :: outer) place := by
  intro nearer hnearer hlength
  obtain rfl | hnearer := List.suffix_cons_iff.1 hnearer
  · exact hname
  · exact h nearer hnearer hlength

/-- A directory is the nearest place to itself if it is such a place. -/
theorem nearest_self (h : suits directory) : Nearest suits directory directory :=
  ⟨List.suffix_rfl, h, clear_self suits directory⟩

/-- The nearest place to the outer directory is the nearest one to a directory that is no such
place. -/
theorem Nearest.cons (h : Nearest suits outer place) (hname : ¬ suits (name :: outer)) :
    Nearest suits (name :: outer) place :=
  ⟨h.around.trans (List.suffix_cons name outer), h.holds, h.clear.cons hname⟩

/-- Of two places around a directory, one is nearer unless they are the same. -/
theorem eq_of_not_nearer (hplace : place <:+ directory) (hother : other <:+ directory)
    (hle : ¬ place.length < other.length) (hge : ¬ other.length < place.length) :
    place = other :=
  (List.suffix_of_suffix_length_le hplace hother (Nat.not_lt.1 hge)).eq_of_length
    (Nat.le_antisymm (Nat.not_lt.1 hge) (Nat.not_lt.1 hle))

/-- Where there is such a place around a directory, one is the nearest. -/
theorem exists_nearest (hplace : place <:+ directory) (hsuits : suits place) :
    ∃ nearest, Nearest suits directory nearest := by
  -- The way inward from the place: every step either finds a nearer one or rules one place out.
  induction directory with
  | nil =>
    obtain rfl := List.suffix_nil.1 hplace
    exact ⟨[], nearest_self hsuits⟩
  | cons name outer ih =>
    by_cases hname : suits (name :: outer)
    · exact ⟨name :: outer, nearest_self hname⟩
    · obtain rfl | hplace := List.suffix_cons_iff.1 hplace
      · exact absurd hsuits hname
      · obtain ⟨nearest, hnearest⟩ := ih hplace
        exact ⟨nearest, hnearest.cons hname⟩

/-- At most one place is the nearest one. -/
theorem Nearest.unique (h : Nearest suits directory place)
    (hother : Nearest suits directory other) : place = other :=
  eq_of_not_nearer h.around hother.around
    (fun hlt => h.clear other hother.around hlt hother.holds)
    (fun hlt => hother.clear place h.around hlt h.holds)

section Either

variable {others : Location → Prop}

/-- The nearest of two kinds of places is one of the first kind exactly if it is the nearest of this
kind, and none of the other kind is nearer. -/
theorem nearest_or_iff :
    Nearest (fun place => suits place ∨ others place) directory place ∧ suits place ↔
      Nearest suits directory place ∧ Clear others directory place := by
  constructor
  · rintro ⟨⟨haround, -, hclear⟩, hsuits⟩
    refine ⟨⟨haround, hsuits, ?_⟩, ?_⟩
    · exact fun nearer hnearer hlt hone => hclear nearer hnearer hlt (.inl hone)
    · exact fun nearer hnearer hlt hone => hclear nearer hnearer hlt (.inr hone)
  · rintro ⟨⟨haround, hsuits, hclear⟩, hothers⟩
    refine ⟨⟨haround, .inl hsuits, ?_⟩, hsuits⟩
    rintro nearer hnearer hlt (hone | hone)
    · exact hclear nearer hnearer hlt hone
    · exact hothers nearer hnearer hlt hone

/-- The nearest of two kinds of places is one of the second kind exactly if it is the nearest of
this kind, and none of the first kind is nearer. -/
theorem nearest_or_right_iff :
    Nearest (fun place => suits place ∨ others place) directory place ∧ others place ↔
      Nearest others directory place ∧ Clear suits directory place := by
  have hswap : (fun place => suits place ∨ others place)
      = fun place => others place ∨ suits place := funext fun place => propext or_comm
  rw [hswap]
  exact nearest_or_iff

end Either

end Location

namespace Workspace

open Location (Clear Nearest)

variable {tree : FileTree} {directory place root : Location} {text : String}

/-! ## Manifests that settle the search -/

/-- A text occurs in another if it is a part of it. -/
theorem occurs_iff {part text : List Char} : occurs part text = true ↔ part <:+: text := by
  induction text with
  | nil => rw [occurs, List.isEmpty_iff, List.infix_nil]
  | cons char rest ih =>
    rw [occurs, Bool.or_eq_true, ih, List.isPrefixOf_iff_prefix, List.infix_cons_iff]

/-- The manifest of a directory is a text that holds the marker. -/
def Marked (tree : FileTree) (directory : Location) : Prop :=
  ∃ text, tree.entry? ("Cargo.toml" :: directory) = some (.file (Utf8.encode text)) ∧
    "[workspace]".toList <:+: text.toList

/-- A directory has a manifest that is no text. -/
def Unreadable (tree : FileTree) (directory : Location) : Prop :=
  ∃ entry, tree.entry? ("Cargo.toml" :: directory) = some entry ∧
    ∀ text, entry ≠ .file (Utf8.encode text)

/-- The search ends at a directory. -/
def Settled (tree : FileTree) (directory : Location) : Prop :=
  Marked tree directory ∨ Unreadable tree directory

/-- The manifest of a directory is what it holds under this name. -/
theorem manifest?_eq (tree : FileTree) (directory : Location) :
    manifest? tree directory = (tree.entry? ("Cargo.toml" :: directory)).map Entry.text :=
  rfl

/-- A manifest is read exactly if it is a file with the bytes of the text. -/
theorem manifest?_eq_ok_iff :
    manifest? tree directory = some (.ok text) ↔
      tree.entry? ("Cargo.toml" :: directory) = some (.file (Utf8.encode text)) := by
  rw [manifest?_eq, Option.map_eq_some_iff]
  constructor
  · rintro ⟨entry, hentry, htext⟩
    rw [hentry, Entry.text_eq_ok_iff.1 htext]
  · intro h
    exact ⟨_, h, Entry.text_eq_ok_iff.2 rfl⟩

/-- A directory whose manifest can be read is marked if the text has the marker. -/
theorem marked_iff (h : manifest? tree directory = some (.ok text)) :
    Marked tree directory ↔ isMarked text = true := by
  rw [isMarked, occurs_iff]
  constructor
  · rintro ⟨found, hfound, hmarker⟩
    rw [← manifest?_eq_ok_iff, h] at hfound
    cases hfound
    exact hmarker
  · intro hmarker
    exact ⟨text, manifest?_eq_ok_iff.1 h, hmarker⟩

/-- A manifest is unreadable exactly if reading it fails. -/
theorem unreadable_iff :
    Unreadable tree directory ↔ ∃ fault, manifest? tree directory = some (.error fault) := by
  simp only [Unreadable, ← Entry.exists_text_eq_error_iff, manifest?_eq, Option.map_eq_some_iff]
  constructor
  · rintro ⟨entry, hentry, fault, hfault⟩
    exact ⟨fault, entry, hentry, hfault⟩
  · rintro ⟨fault, entry, hentry, hfault⟩
    exact ⟨entry, hentry, fault, hfault⟩

/-- A manifest that is read is not one that cannot be read. -/
theorem not_unreadable (h : manifest? tree directory = some (.ok text)) :
    ¬ Unreadable tree directory := by
  rw [unreadable_iff, h]
  rintro ⟨fault, hfault⟩
  cases hfault

/-- A directory without a manifest does not settle the search. -/
theorem not_settled_of_none (h : manifest? tree directory = none) : ¬ Settled tree directory := by
  rintro (⟨text, htext, -⟩ | hunreadable)
  · rw [← manifest?_eq_ok_iff, h] at htext
    cases htext
  · rw [unreadable_iff, h] at hunreadable
    obtain ⟨fault, hfault⟩ := hunreadable
    cases hfault

/-! ## One directory -/

/-- What comes of a directory where nothing settles the search: it goes on outward. -/
def onward (tree : FileTree) : Location → Except WorkspaceError (Location × String)
  | [] => .error .noRoot
  | _ :: outer => findRoot tree outer

/-- The search looks at one directory and goes on outward if nothing there settles it. -/
theorem findRoot_eq (tree : FileTree) (directory : Location) :
    findRoot tree directory
      = match manifest? tree directory with
        | none => onward tree directory
        | some (.error fault) => .error (.unreadable fault)
        | some (.ok text) =>
          if isMarked text then .ok (directory, text) else onward tree directory := by
  cases directory <;> rw [findRoot] <;> rfl

/-- At a directory, the search ends with its manifest, or goes on. -/
theorem findRoot_cases (tree : FileTree) (directory : Location) :
    (∃ text, manifest? tree directory = some (.ok text) ∧ Marked tree directory ∧
      findRoot tree directory = .ok (directory, text)) ∨
    (∃ fault, manifest? tree directory = some (.error fault) ∧
      findRoot tree directory = .error (.unreadable fault)) ∨
    (¬ Settled tree directory ∧ findRoot tree directory = onward tree directory) := by
  rw [findRoot_eq]
  cases hmanifest : manifest? tree directory with
  | none => exact .inr (.inr ⟨not_settled_of_none hmanifest, rfl⟩)
  | some outcome =>
    cases outcome with
    | error fault => exact .inr (.inl ⟨fault, rfl, rfl⟩)
    | ok text =>
      have hmarked := marked_iff hmanifest
      dsimp only
      split
      case isTrue hmarker => exact .inl ⟨text, rfl, hmarked.2 hmarker, rfl⟩
      case isFalse hmarker =>
        refine .inr (.inr ⟨?_, rfl⟩)
        rintro (hfound | hunreadable)
        · exact hmarker (hmarked.1 hfound)
        · exact not_unreadable hmanifest hunreadable

/-! ## The whole way -/

/-- How the search from a directory can end. The first manifest that settles it is a text with the
marker (`found`), or cannot be read (`unreadable`), or no manifest settles it (`noRoot`). -/
inductive Search (tree : FileTree) (directory : Location) :
    Except WorkspaceError (Location × String) → Prop where
  | found {root : Location} {text : String} (hroot : Nearest (Settled tree) directory root)
      (htext : manifest? tree root = some (.ok text)) :
      Search tree directory (.ok (root, text))
  | unreadable {place : Location} {fault : FileFault}
      (hplace : Nearest (Settled tree) directory place)
      (hfault : manifest? tree place = some (.error fault)) :
      Search tree directory (.error (.unreadable fault))
  | noRoot (hnone : ∀ place, place <:+ directory → ¬ Settled tree place) :
      Search tree directory (.error .noRoot)

/-- Where nothing settles the search, it ends as it ends one directory further out. -/
theorem Search.cons {outer : Location} {name : String}
    {outcome : Except WorkspaceError (Location × String)} (h : Search tree outer outcome)
    (hname : ¬ Settled tree (name :: outer)) : Search tree (name :: outer) outcome := by
  cases h with
  | found hroot htext => exact .found (hroot.cons hname) htext
  | unreadable hplace hfault => exact .unreadable (hplace.cons hname) hfault
  | noRoot hnone =>
    refine .noRoot fun place hplace => ?_
    obtain rfl | hplace := List.suffix_cons_iff.1 hplace
    · exact hname
    · exact hnone place hplace

/-- The search ends in one of the ways in which it can end. -/
theorem search_findRoot (tree : FileTree) (directory : Location) :
    Search tree directory (findRoot tree directory) := by
  -- Each step leaves the directory as it is found or passes it, and passing keeps the outcome.
  induction directory with
  | nil =>
    obtain ⟨text, htext, hmarked, h⟩ | ⟨fault, hfault, h⟩ | ⟨hpassed, h⟩ := findRoot_cases tree []
    · exact h ▸ .found (Location.nearest_self (.inl hmarked)) htext
    · have hunreadable := unreadable_iff.2 ⟨fault, hfault⟩
      exact h ▸ .unreadable (Location.nearest_self (.inr hunreadable)) hfault
    · refine h ▸ .noRoot fun place hplace => ?_
      rw [List.suffix_nil.1 hplace]
      exact hpassed
  | cons name outer ih =>
    obtain ⟨text, htext, hmarked, h⟩ | ⟨fault, hfault, h⟩ | ⟨hpassed, h⟩ :=
      findRoot_cases tree (name :: outer)
    · exact h ▸ .found (Location.nearest_self (.inl hmarked)) htext
    · have hunreadable := unreadable_iff.2 ⟨fault, hfault⟩
      exact h ▸ .unreadable (Location.nearest_self (.inr hunreadable)) hfault
    · rw [h]
      exact ih.cons hpassed

/-- The search ends in one way only. -/
theorem Search.unique {outcome other : Except WorkspaceError (Location × String)}
    (h : Search tree directory outcome) (hother : Search tree directory other) :
    outcome = other := by
  cases h with
  | found hroot htext =>
    cases hother with
    | found hplace hfound =>
      obtain rfl := hroot.unique hplace
      rw [htext] at hfound
      cases hfound
      rfl
    | unreadable hplace hfault =>
      obtain rfl := hroot.unique hplace
      rw [htext] at hfault
      cases hfault
    | noRoot hnone => exact absurd hroot.holds (hnone _ hroot.around)
  | unreadable hplace hfault =>
    cases hother with
    | found hroot htext =>
      obtain rfl := hplace.unique hroot
      rw [htext] at hfault
      cases hfault
    | unreadable hroot hfound =>
      obtain rfl := hplace.unique hroot
      rw [hfault] at hfound
      cases hfound
      rfl
    | noRoot hnone => exact absurd hplace.holds (hnone _ hplace.around)
  | noRoot hnone =>
    cases hother with
    | found hroot => exact absurd hroot.holds (hnone _ hroot.around)
    | unreadable hplace => exact absurd hplace.holds (hnone _ hplace.around)
    | noRoot => rfl

/-- The way in which the search can end is the way in which it does. -/
theorem findRoot_eq_iff {outcome : Except WorkspaceError (Location × String)} :
    findRoot tree directory = outcome ↔ Search tree directory outcome :=
  ⟨fun h => h ▸ search_findRoot tree directory, fun h => (search_findRoot tree directory).unique h⟩

/-- The root that is found is the nearest marked directory, if all manifests that are nearer can be
read, and comes with the text of its manifest. -/
theorem findRoot_eq_ok_iff :
    findRoot tree directory = .ok (root, text) ↔
      (Nearest (Marked tree) directory root ∧ Clear (Unreadable tree) directory root) ∧
        manifest? tree root = some (.ok text) := by
  rw [findRoot_eq_iff, ← Location.nearest_or_iff]
  constructor
  · intro h
    cases h with
    | found hroot htext =>
      exact ⟨⟨hroot, hroot.holds.resolve_right (not_unreadable htext)⟩, htext⟩
  · rintro ⟨⟨hroot, -⟩, htext⟩
    exact .found hroot htext

/-- A root is found exactly if it is the nearest marked directory and all manifests that are nearer
can be read. -/
theorem exists_findRoot_eq_ok_iff :
    (∃ text, findRoot tree directory = .ok (root, text)) ↔
      Nearest (Marked tree) directory root ∧ Clear (Unreadable tree) directory root := by
  constructor
  · rintro ⟨text, h⟩
    exact (findRoot_eq_ok_iff.1 h).1
  · intro h
    obtain ⟨text, htext, -⟩ := h.1.holds
    exact ⟨text, findRoot_eq_ok_iff.2 ⟨h, manifest?_eq_ok_iff.2 htext⟩⟩

/-- The search fails at a manifest exactly if it is the nearest that cannot be read and none nearer
is marked. -/
theorem findRoot_eq_unreadable_iff {fault : FileFault} :
    findRoot tree directory = .error (.unreadable fault) ↔
      ∃ place, (Nearest (Unreadable tree) directory place ∧ Clear (Marked tree) directory place) ∧
        manifest? tree place = some (.error fault) := by
  simp only [findRoot_eq_iff, ← Location.nearest_or_right_iff]
  constructor
  · intro h
    cases h with
    | @unreadable place _ hplace hfault =>
      exact ⟨place, ⟨hplace, unreadable_iff.2 ⟨fault, hfault⟩⟩, hfault⟩
  · rintro ⟨place, ⟨hplace, -⟩, hfault⟩
    exact .unreadable hplace hfault

/-- No root is found exactly if no manifest is marked and all can be read. -/
theorem findRoot_eq_noRoot_iff :
    findRoot tree directory = .error .noRoot ↔
      ∀ place, place <:+ directory → ¬ Marked tree place ∧ ¬ Unreadable tree place := by
  simp only [findRoot_eq_iff, ← not_or]
  constructor
  · intro h
    cases h with
    | noRoot hnone => exact hnone
  · exact .noRoot

/-! ## What the answer depends on -/

/-- The search from a directory gets as far as a place: nothing settles it before. -/
def Met (tree : FileTree) (directory place : Location) : Prop :=
  place <:+ directory ∧ Clear (Settled tree) directory place

/-- The search is the same in another tree if the manifest here is, and the search outward where it
goes on. -/
theorem findRoot_congr_step {other : FileTree}
    (hhere : manifest? other directory = manifest? tree directory)
    (honward : ¬ Settled tree directory → onward other directory = onward tree directory) :
    findRoot other directory = findRoot tree directory := by
  obtain ⟨text, htext, hmarked, h⟩ | ⟨fault, hfault, h⟩ | ⟨hpassed, -⟩ :=
    findRoot_cases tree directory
  · rw [h, findRoot_eq, hhere, htext]
    exact if_pos ((marked_iff htext).1 hmarked)
  · rw [h, findRoot_eq, hhere, hfault]
  · rw [findRoot_eq, findRoot_eq, hhere, honward hpassed]

/-- The search looks at no other manifests than those that it meets. -/
theorem findRoot_congr {other : FileTree}
    (h : ∀ place, Met tree directory place → manifest? other place = manifest? tree place) :
    findRoot other directory = findRoot tree directory := by
  have hhere := h directory ⟨List.suffix_rfl, Location.clear_self _ _⟩
  induction directory with
  | nil => exact findRoot_congr_step hhere fun _ => rfl
  | cons name outer ih =>
    refine findRoot_congr_step hhere fun hpassed => ?_
    -- What is met further out is met on the way from here.
    have houter : ∀ place, Met tree outer place → manifest? other place = manifest? tree place :=
      fun place hmet => h place ⟨hmet.1.trans (List.suffix_cons name outer), hmet.2.cons hpassed⟩
    exact ih houter (houter outer ⟨List.suffix_rfl, Location.clear_self _ _⟩)

/-- Behind the root, loading depends on the text of its manifest. -/
theorem load_of_found (h : findRoot tree directory = .ok (root, text)) :
    load tree directory
      = (parsePackages? text).elim (.error .malformed) fun packages => .ok ⟨root, packages⟩ := by
  unfold load
  cases hpackages : parsePackages? text <;> simp [h, hpackages]

/-- The message for a missing root is no other error's. -/
theorem message_eq_iff {error : WorkspaceError} :
    error.message = "Could not find workspace root (no Cargo.toml with [workspace] found)" ↔
      error = .noRoot := by
  cases error with
  | unreadable fault => cases fault <;> simp [WorkspaceError.message, FileFault.message]
  | noRoot => simp [WorkspaceError.message]
  | malformed => simp [WorkspaceError.message]

/-- What the search from a directory comes to, and what follows it.

The root is the nearest directory with a marked manifest, if all manifests that are nearer can be
read (`found`). Reading fails at the nearest manifest that cannot be read, if none nearer is marked
(`unreadable`). There is no root if there is neither, up to the outermost directory, and then the
message says so (`noRoot`). One of these it is (`total`).

The answer is the same in every tree with the same manifests from the directory outward up to the
first that settles it (`frame`). Behind a root, loading fails exactly if its manifest names no
packages, and the packages are those that it names (`loaded`). -/
structure Decided (tree : FileTree) (directory : Location) : Prop where
  found : ∀ root, (∃ text, findRoot tree directory = .ok (root, text)) ↔
    Nearest (Marked tree) directory root ∧ Clear (Unreadable tree) directory root
  unreadable : ∀ fault, findRoot tree directory = .error (.unreadable fault) ↔
    ∃ place, (Nearest (Unreadable tree) directory place ∧ Clear (Marked tree) directory place) ∧
      manifest? tree place = some (.error fault)
  noRoot : (∃ error, findRoot tree directory = .error error ∧
      error.message = "Could not find workspace root (no Cargo.toml with [workspace] found)") ↔
    ∀ place, place <:+ directory → ¬ Marked tree place ∧ ¬ Unreadable tree place
  total : (∃ root text, findRoot tree directory = .ok (root, text)) ∨
    (∃ fault, findRoot tree directory = .error (.unreadable fault)) ∨
    findRoot tree directory = .error .noRoot
  frame : ∀ other,
    (∀ place, Met tree directory place → manifest? other place = manifest? tree place) →
    findRoot other directory = findRoot tree directory ∧ load other directory = load tree directory
  loaded : ∀ root text, findRoot tree directory = .ok (root, text) →
    tree.entry? ("Cargo.toml" :: root) = some (.file (Utf8.encode text)) ∧
    (∀ packages, load tree directory = .ok ⟨root, packages⟩ ↔
      ∃ entries, Toml.parse text = some entries ∧ Names entries packages) ∧
    ∀ error, load tree directory = .error error ↔ error = .malformed ∧
      ∀ packages, ¬ ∃ entries, Toml.parse text = some entries ∧ Names entries packages

/-- The search for the root ends for every tree and every directory, and the manifests on its way
decide how. -/
theorem search_decides (tree : FileTree) (directory : Location) : Decided tree directory := by
  constructor
  case found => exact fun root => exists_findRoot_eq_ok_iff
  case unreadable => exact fun fault => findRoot_eq_unreadable_iff
  case noRoot =>
    simp only [message_eq_iff, ← findRoot_eq_noRoot_iff]
    exact ⟨fun ⟨error, h, herror⟩ => herror ▸ h, fun h => ⟨.noRoot, h, rfl⟩⟩
  case total =>
    have h := search_findRoot tree directory
    cases hfound : findRoot tree directory with
    | ok found => exact .inl ⟨found.1, found.2, rfl⟩
    | error error =>
      rw [hfound] at h
      cases h with
      | @unreadable _ fault _ _ => exact .inr (.inl ⟨fault, rfl⟩)
      | noRoot => exact .inr (.inr rfl)
  case frame =>
    intro other h
    have hfound := findRoot_congr h
    exact ⟨hfound, by rw [load, load, hfound]⟩
  case loaded =>
    intro root text h
    refine ⟨manifest?_eq_ok_iff.1 (findRoot_eq_ok_iff.1 h).2, ?_⟩
    simp only [← parsePackages?_eq_some_iff, load_of_found h]
    cases parsePackages? text with
    | none => simp [eq_comm]
    | some packages => simp

end Workspace

end ElfScope
