import ElfScope.Proofs.Configuration
import ElfScope.Proofs.Files
import ElfScope.Proofs.Settings

/-!
# Which source of the settings has its way

Settings come from the arguments, from one configuration file, and from defaults. Which file it is,
if any, depends on the arguments and the environment, and it has to be sound whatever the arguments
say besides. Then each setting goes its own way: the arguments come before the file, and the file
before the default (`settings_precede`).
-/

namespace ElfScope.Settings

open ElfScope.Configuration (MeansLabels MeansReadMode Refused Sets)

variable {files : Files} {environment : Option String} {arguments : ToolArguments}
  {path : String} {settings : Settings}

/-! ## The file -/

/-- The configuration file that a run consults: the one that its arguments name, else the one that
its environment names. -/
inductive Consults (arguments : ToolArguments) (environment : Option String) (path : String) :
    Prop where
  | named (hpath : arguments.config = some path)
  | surrounding (hnone : arguments.config = none) (hpath : environment = some path)

/-- Why what is at a path is no configuration: there is nothing that can be opened (`unreachable`),
it is a directory (`directory`), no text (`notText`), no document (`notToml`), or a document that
holds something else (`refused`). -/
inductive Unusable (files : Files) (path : String) : Prop where
  | unreachable {fault : FileFault} (hentry : files.entry path = .error fault)
  | directory (hentry : files.entry path = .ok .directory)
  | notText {contents : Bytes} (hentry : files.entry path = .ok (.file contents))
      (hnone : ∀ text, contents ≠ Utf8.encode text)
  | notToml {text : String} (hentry : files.entry path = .ok (.file (Utf8.encode text)))
      (hnone : Toml.parse text = none)
  | refused {text : String} {entries : Toml.Entries}
      (hentry : files.entry path = .ok (.file (Utf8.encode text)))
      (hentries : Toml.parse text = some entries) (hrefused : Refused entries)

/-- The file at a path sets a setting in a section. -/
def FileSets {α : Type} (files : Files) (path part name : String) (Means : String → α → Prop)
    (choice : α) : Prop :=
  ∃ text entries, files.entry path = .ok (.file (Utf8.encode text)) ∧
    Toml.parse text = some entries ∧ Sets entries part name Means choice

/-- What the settings of a run say about the labels: the arguments give the label style (`flag`), or
leave it to the file (`file`). -/
inductive AsksLabels (files : Files) (environment : Option String) (arguments : ToolArguments)
    (mode : LabelMode) : Prop where
  | flag (hflag : arguments.labels = some mode)
  | file {path : String} (hnone : arguments.labels = none)
      (hpath : Consults arguments environment path)
      (hsets : FileSets files path "report" "labels" MeansLabels mode)

/-- What they say about the reading mode, of which the arguments can ask for one only: the arguments
ask for it (`flag`), or the file does (`file`). -/
inductive AsksBuffered (files : Files) (environment : Option String) (arguments : ToolArguments) :
    Prop where
  | flag (hflag : arguments.buffered = true)
  | file {path : String} (hpath : Consults arguments environment path)
      (hsets : FileSets files path "reader" "mode" MeansReadMode .buffered)

/-- The path that is consulted is the one that is looked up. -/
theorem consults_iff :
    Consults arguments environment path ↔ configurationPath? arguments environment = some path := by
  rw [configurationPath?, Option.or_eq_some_iff]
  constructor
  · rintro (hpath | ⟨hnone, hpath⟩)
    · exact .inl hpath
    · exact .inr ⟨hnone, hpath⟩
  · rintro (hpath | ⟨hnone, hpath⟩)
    · exact .named hpath
    · exact .surrounding hnone hpath

/-- A configuration file is accepted exactly if it is a document that the reader of configurations
accepts. -/
theorem configuration_eq_ok_iff {found : Configuration} :
    configuration files (some path) = .ok found ↔
      ∃ text entries, files.entry path = .ok (.file (Utf8.encode text)) ∧
        Toml.parse text = some entries ∧ Configuration.ofEntries? entries = some found := by
  simp only [← Files.text_eq_ok_iff, configuration, loadConfiguration]
  cases files.text path with
  | error fault => simp
  | ok text =>
    have hparse : Configuration.parse? text = some found ↔
        ∃ entries, Toml.parse text = some entries ∧
          Configuration.ofEntries? entries = some found := Option.bind_eq_some_iff
    simp only [Except.ok.injEq, exists_and_left, exists_eq_left', ← hparse]
    cases Configuration.parse? text <;> simp

/-- A file is no configuration for one of these reasons, and for no other. -/
theorem exists_configuration_eq_error_iff :
    (∃ error, configuration files (some path) = .error error) ↔ Unusable files path := by
  have hnotOk : (∃ error, configuration files (some path) = .error error) ↔
      ∀ found, configuration files (some path) ≠ .ok found := by
    cases configuration files (some path) <;> simp
  simp only [hnotOk, ne_eq, configuration_eq_ok_iff]
  constructor
  · intro hnone
    cases hentry : files.entry path with
    | error fault => exact .unreachable hentry
    | ok entry =>
      cases entry with
      | directory => exact .directory hentry
      | file contents =>
        by_cases htext : ∃ text, contents = Utf8.encode text
        case neg => exact .notText hentry fun text hcontents => htext ⟨text, hcontents⟩
        case pos =>
          obtain ⟨text, rfl⟩ := htext
          cases hentries : Toml.parse text with
          | none => exact .notToml hentry hentries
          | some entries =>
            have hordered := Toml.ordered_parse hentries
            refine .refused hentry hentries ((Configuration.ofEntries?_eq_none_iff hordered).1 ?_)
            rw [Option.eq_none_iff_forall_ne_some]
            exact fun found hfound => hnone found ⟨text, entries, hentry, hentries, hfound⟩
  · rintro hunusable found ⟨text, entries, hentry, hentries, hfound⟩
    cases hunusable with
    | unreachable hother | directory hother =>
      rw [hentry] at hother
      cases hother
    | notText hother hnone =>
      rw [hentry] at hother
      cases hother
      exact hnone text rfl
    | notToml hother hnone =>
      rw [hentry, Except.ok.injEq, Entry.file.injEq] at hother
      rw [← Utf8.encode_injective hother, hentries] at hnone
      cases hnone
    | refused hother hparse hrefused =>
      rw [hentry, Except.ok.injEq, Entry.file.injEq] at hother
      rw [← Utf8.encode_injective hother, hentries] at hparse
      cases hparse
      rw [(Configuration.ofEntries?_eq_none_iff (Toml.ordered_parse hentries)).2 hrefused] at hfound
      cases hfound

/-- What is read of a usable file is what it sets. -/
theorem fileSets_iff {α : Type} {part name : String} {Means : String → α → Prop} {choice : α}
    {text : String} {entries : Toml.Entries}
    (hentry : files.entry path = .ok (.file (Utf8.encode text)))
    (hentries : Toml.parse text = some entries) :
    FileSets files path part name Means choice ↔ Sets entries part name Means choice := by
  constructor
  · rintro ⟨other, found, hother, hfound, hsets⟩
    rw [hentry, Except.ok.injEq, Entry.file.injEq] at hother
    rw [← Utf8.encode_injective hother, hentries] at hfound
    cases hfound
    exact hsets
  · exact fun hsets => ⟨text, entries, hentry, hentries, hsets⟩

/-! ## The settings -/

/-- No settings are found exactly if the configuration that the run consults is unusable. -/
theorem exists_resolve_eq_error_iff :
    (∃ error, (resolve files environment arguments).value = .error error) ↔
      ∃ path, Consults arguments environment path ∧ Unusable files path := by
  simp only [consults_iff, ← exists_configuration_eq_error_iff, value_resolve]
  cases configurationPath? arguments environment with
  | none => simp [configuration, Except.map]
  | some path =>
    simp only [Option.some.injEq, exists_eq_left']
    cases configuration files (some path) <;> simp [Except.map]

/-- What settings are made of. -/
theorem exists_of_resolve (h : (resolve files environment arguments).value = .ok settings) :
    ∃ found, configuration files (configurationPath? arguments environment) = .ok found ∧
      settings = merge arguments found := by
  rw [value_resolve] at h
  cases hfound : configuration files (configurationPath? arguments environment) with
  | error error =>
    rw [hfound] at h
    cases h
  | ok found =>
    rw [hfound] at h
    cases h
    exact ⟨found, rfl, rfl⟩

/-- The configuration that is found holds what the file that is consulted sets, if there is one. -/
theorem found_iff {found : Configuration}
    (h : configuration files (configurationPath? arguments environment) = .ok found) :
    (∀ mode, found.labels = some mode ↔ ∃ path, Consults arguments environment path ∧
      FileSets files path "report" "labels" MeansLabels mode) ∧
    ∀ mode, found.readMode = some mode ↔ ∃ path, Consults arguments environment path ∧
      FileSets files path "reader" "mode" MeansReadMode mode := by
  simp only [consults_iff]
  cases hpath : configurationPath? arguments environment with
  | none =>
    rw [hpath] at h
    cases h
    simp [Configuration.empty]
  | some path =>
    rw [hpath] at h
    obtain ⟨text, entries, hentry, hentries, hfound⟩ := configuration_eq_ok_iff.1 h
    have hordered := Toml.ordered_parse hentries
    simp only [Option.some.injEq, exists_eq_left', fileSets_iff hentry hentries]
    exact ⟨fun mode => Configuration.labels_iff hordered hfound,
      fun mode => Configuration.readMode_iff hordered hfound⟩

/-- Labels are as asked for, and compatible if nothing asks for any. -/
theorem labels_resolve_iff (h : (resolve files environment arguments).value = .ok settings)
    {mode : LabelMode} :
    settings.labels = mode ↔ AsksLabels files environment arguments mode ∨
      (∀ other, ¬ AsksLabels files environment arguments other) ∧ mode = .compat := by
  obtain ⟨found, hfound, rfl⟩ := exists_of_resolve h
  have hasks : ∀ other, AsksLabels files environment arguments other ↔
      arguments.labels.or found.labels = some other := by
    intro other
    rw [Option.or_eq_some_iff, (found_iff hfound).1]
    constructor
    · rintro (hflag | ⟨hnone, hpath, hsets⟩)
      · exact .inl hflag
      · exact .inr ⟨hnone, _, hpath, hsets⟩
    · rintro (hflag | ⟨hnone, path, hpath, hsets⟩)
      · exact .flag hflag
      · exact .file hnone hpath hsets
  simp only [hasks, merge]
  cases arguments.labels.or found.labels <;> simp [eq_comm]

/-- Labels that are not the default are asked for, and no others are. -/
theorem asksLabels_iff_of_ne_compat
    (h : (resolve files environment arguments).value = .ok settings)
    (hlabels : settings.labels ≠ .compat) {mode : LabelMode} :
    AsksLabels files environment arguments mode ↔ mode = settings.labels := by
  constructor
  · intro hasks
    exact ((labels_resolve_iff h).2 (.inl hasks)).symm
  · intro hmode
    subst hmode
    rcases (labels_resolve_iff h).1 rfl with hasks | ⟨-, hcompat⟩
    · exact hasks
    · exact absurd hcompat hlabels

/-- The file is read into a buffer exactly if something asks for it. -/
theorem readMode_resolve_iff (h : (resolve files environment arguments).value = .ok settings) :
    settings.readMode = .buffered ↔ AsksBuffered files environment arguments := by
  obtain ⟨found, hfound, rfl⟩ := exists_of_resolve h
  have hasks : AsksBuffered files environment arguments ↔
      arguments.buffered = true ∨ found.readMode = some .buffered := by
    rw [(found_iff hfound).2]
    constructor
    · rintro (hflag | ⟨hpath, hsets⟩)
      · exact .inl hflag
      · exact .inr ⟨_, hpath, hsets⟩
    · rintro (hflag | ⟨path, hpath, hsets⟩)
      · exact .flag hflag
      · exact .file hpath hsets
  rw [hasks, merge]
  cases arguments.buffered with
  | true => simp
  | false => rcases found.readMode with _ | _ | _ <;> simp

/-- What a configuration file comes to depends on nothing but what is at its path. -/
theorem loadConfiguration_congr {other : Files} (h : other.entry path = files.entry path) :
    loadConfiguration other path = loadConfiguration files path := by
  unfold loadConfiguration
  rw [Files.text, Files.text, h]

/-- Only the file that is consulted has a part in the settings, and in what is logged about them. -/
theorem resolve_congr {other : Files} {surroundings : Option String}
    (hpath : ∀ path, Consults arguments surroundings path ↔ Consults arguments environment path)
    (hentry : ∀ path, Consults arguments environment path → other.entry path = files.entry path) :
    resolve other surroundings arguments = resolve files environment arguments := by
  simp only [consults_iff] at hpath hentry
  have hsame : configurationPath? arguments surroundings
      = configurationPath? arguments environment := Option.ext hpath
  rw [resolve, resolve, hsame]
  cases hpath : configurationPath? arguments environment with
  | none => rfl
  | some path =>
    dsimp only
    rw [loadConfiguration_congr (hentry path hpath)]

/-- How the settings of a run come about.

Nothing but the consulted file matters, and none does if none is consulted (`consulted`); so where
the arguments name the file, the environment does not matter (`named`). There are no settings
exactly if a file is consulted that cannot be used (`fails`). Otherwise the file to report on is the
one that the arguments name (`file`), labels are as the arguments say, else as the file says, else
compatible (`labels`), and the file to report on is read into a buffer exactly if the arguments or
the consulted file say so (`readMode`). Whether the arguments or the file ask for a thing does not
matter (`matching`). -/
structure Precedence (files : Files) (environment : Option String) (arguments : ToolArguments) :
    Prop where
  consulted : ∀ other surroundings,
    (∀ path, Consults arguments surroundings path ↔ Consults arguments environment path) →
    (∀ path, Consults arguments environment path → other.entry path = files.entry path) →
    resolve other surroundings arguments = resolve files environment arguments
  named : arguments.config ≠ none → ∀ surroundings,
    resolve files surroundings arguments = resolve files environment arguments
  fails : (∃ error, (resolve files environment arguments).value = .error error) ↔
    ∃ path, Consults arguments environment path ∧ Unusable files path
  file : ∀ settings, (resolve files environment arguments).value = .ok settings →
    settings.file = arguments.file
  labels : ∀ settings, (resolve files environment arguments).value = .ok settings → ∀ mode,
    settings.labels = mode ↔ AsksLabels files environment arguments mode ∨
      (∀ other, ¬ AsksLabels files environment arguments other) ∧ mode = .compat
  readMode : ∀ settings, (resolve files environment arguments).value = .ok settings →
    (settings.readMode = .buffered ↔ AsksBuffered files environment arguments)
  matching : ∀ other surroundings words settings same,
    (resolve files environment arguments).value = .ok settings →
    (resolve other surroundings words).value = .ok same → words.file = arguments.file →
    (∀ mode, AsksLabels other surroundings words mode ↔
      AsksLabels files environment arguments mode) →
    (AsksBuffered other surroundings words ↔ AsksBuffered files environment arguments) →
    same = settings

/-- Settings are found in this way for all files, every environment and all arguments. -/
theorem settings_precede (files : Files) (environment : Option String)
    (arguments : ToolArguments) : Precedence files environment arguments where
  consulted := fun _ _ => resolve_congr
  named := by
    intro hnamed surroundings
    obtain ⟨path, hpath⟩ := Option.ne_none_iff_exists'.1 hnamed
    refine resolve_congr (fun other => ?_) fun _ _ => rfl
    simp only [consults_iff, configurationPath?, hpath, Option.some_or]
  fails := exists_resolve_eq_error_iff
  file := fun _ => file_of_resolve
  labels := fun _ h _ => labels_resolve_iff h
  readMode := fun _ => readMode_resolve_iff
  matching := by
    intro other surroundings words settings same h hsame hfile hlabels hbuffered
    have hlabel : same.labels = settings.labels := by
      rw [labels_resolve_iff hsame]
      simp only [hlabels]
      exact (labels_resolve_iff h).1 rfl
    have hmode : same.readMode = .buffered ↔ settings.readMode = .buffered := by
      rw [readMode_resolve_iff hsame, hbuffered, readMode_resolve_iff h]
    have hname : same.file = settings.file := by
      rw [file_of_resolve hsame, file_of_resolve h, hfile]
    -- There are two reading modes only, so that which one is buffered settles both.
    obtain ⟨file, labels, readMode⟩ := settings
    obtain ⟨sameFile, sameLabels, sameMode⟩ := same
    cases readMode <;> cases sameMode <;> simp_all

/-! ## A file and the options that say the same -/

/-- A file at `view.toml` that asks for full labels and for a buffer. -/
def configured : Files :=
  ⟨fun path =>
    if path = "view.toml" then
      .ok (.file (Utf8.encode "[report]\nlabels = \"full\"\n[reader]\nmode = \"buffered\"\n"))
    else .error .notFound⟩

/-- Arguments that name a file to report on and leave the rest to the configuration. -/
def plainArguments : ToolArguments :=
  ⟨"a.out", none, none, false, false, 0, false, false, false⟩

/-- Arguments that ask for full labels and for a buffer. -/
def askingArguments : ToolArguments :=
  { plainArguments with labels := some .full, buffered := true }

/-- A file that sets `mode = "buffered"` is accepted and asks for a buffer, and with its labels it
leads to the settings that the options `--labels full` and `--buffered` lead to. -/
theorem settings_precede_configured :
    ¬ Unusable configured "view.toml" ∧
    AsksBuffered configured (some "view.toml") plainArguments ∧
    (resolve configured (some "view.toml") plainArguments).value
      = .ok ⟨"a.out", .full, .buffered⟩ ∧
    ∃ same, (resolve configured none askingArguments).value = .ok same ∧
      same = ⟨"a.out", .full, .buffered⟩ := by
  have hfile : (resolve configured (some "view.toml") plainArguments).value
      = .ok ⟨"a.out", .full, .buffered⟩ := by decide
  have hoptions : (resolve configured none askingArguments).value
      = .ok ⟨"a.out", .full, .buffered⟩ := by decide
  have hprecede := settings_precede configured (some "view.toml") plainArguments
  have hother := settings_precede configured none askingArguments
  have hbuffered := (hprecede.readMode _ hfile).1 rfl
  refine ⟨?_, hbuffered, hfile, _, hoptions, ?_⟩
  · intro hunusable
    obtain ⟨error, herror⟩ := hprecede.fails.2 ⟨_, .surrounding rfl rfl, hunusable⟩
    cases hfile.symm.trans herror
  · apply hprecede.matching configured none askingArguments _ _ hfile hoptions rfl
    · -- Both ask for the labels that both settings have, and for no others.
      intro mode
      rw [asksLabels_iff_of_ne_compat hoptions (by decide),
        asksLabels_iff_of_ne_compat hfile (by decide)]
    · exact iff_of_true (.flag rfl) hbuffered

end ElfScope.Settings
