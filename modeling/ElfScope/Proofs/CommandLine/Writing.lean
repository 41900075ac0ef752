import ElfScope.Proofs.CommandLine.Tool

/-!
# Writing arguments

Arguments can be written in many ways: their options in any order, each switch by its name or by its
letter, and several letters in one word. Words say what they say one after the other, and what they
say is read into arguments without regard to its order, so that all ways to write arguments are read
back to them (`arguments_readBack`).
-/

namespace ElfScope

open CommandLine (Action Grammar Match OptionSpec State UsageError)

/-! ## Words -/

/-- An option without a value that has a letter besides its name: showing errors only (`quiet`) or
more of the log (`verbose`), or reporting the sections, the symbols or everything (`all`). -/
inductive Switch where
  | quiet
  | verbose
  | sections
  | symbols
  | all
  deriving DecidableEq, Repr

namespace Switch

/-- The option that it sets. -/
def tag : Switch → ToolOption
  | .quiet => .quiet
  | .verbose => .verbose
  | .sections => .sections
  | .symbols => .symbols
  | .all => .all

/-- Its name. -/
def name : Switch → String
  | .quiet => "quiet"
  | .verbose => "verbose"
  | .sections => "sections"
  | .symbols => "symbols"
  | .all => "all"

/-- Its letter. -/
def letter : Switch → Char
  | .quiet => 'q'
  | .verbose => 'v'
  | .sections => 'S'
  | .symbols => 's'
  | .all => 'a'

/-- What it does: it may be repeated only where that is counted. -/
def action : Switch → Action
  | .verbose => .counter
  | _ => .flag

/-- What it is to a grammar. -/
def spec (switch : Switch) : OptionSpec ToolOption :=
  ⟨switch.tag, switch.name, some switch.letter, switch.action⟩

end Switch

/-- A word with options: it gives the configuration file (`config`) or the label style (`labels`),
asks for a buffer (`buffered`), or is one switch by its name (`long`), or one or more by their
letters (`short`). -/
inductive OptionWord where
  | config (path : String)
  | labels (mode : LabelMode)
  | buffered
  | long (switch : Switch)
  | short (first : Switch) (rest : List Switch)
  deriving DecidableEq, Repr

namespace OptionWord

/-- The word as it is written. -/
def text : OptionWord → String
  | .config path => "--config=" ++ path
  | .labels .compat => "--labels=compat"
  | .labels .full => "--labels=full"
  | .buffered => "--buffered"
  | .long switch => "--" ++ switch.name
  | .short first rest => String.ofList ('-' :: (first :: rest).map Switch.letter)

/-- What the word says. -/
def said : OptionWord → List (Match ToolOption)
  | .config path => [.value .config path]
  | .labels mode => [.value .labels mode.name]
  | .buffered => [.option .buffered]
  | .long switch => [.option switch.tag]
  | .short first rest => (first :: rest).map fun switch => .option switch.tag

end OptionWord

namespace ToolArguments

/-- A switch that is set. -/
def switched (tag : ToolOption) (isSet : Bool) : List (Match ToolOption) :=
  if isSet then [.option tag] else []

/-- What has to be said to give arguments to a tool, besides the file. -/
def said (arguments : ToolArguments) : List (Match ToolOption) :=
  arguments.config.toList.map (.value .config)
    ++ arguments.labels.toList.map (fun mode => .value .labels mode.name)
    ++ switched .buffered arguments.buffered
    ++ switched .quiet arguments.quiet
    ++ List.replicate arguments.verbose (.option .verbose)
    ++ switched .sections arguments.sections
    ++ switched .symbols arguments.symbols
    ++ switched .all arguments.all

/-- Arguments that can be written for a tool: the file has a name, and so does the configuration
file if there is one; the log is not made quiet and verbose at once (`exclusive`); and the symbol
tool has no parts to choose from (`parts`). -/
structure Writable (tool : Tool) (arguments : ToolArguments) : Prop where
  file : arguments.file ≠ ""
  config : arguments.config ≠ some ""
  exclusive : arguments.quiet = true → arguments.verbose = 0
  parts : tool = .symbols →
    arguments.sections = false ∧ arguments.symbols = false ∧ arguments.all = false

/-- Words write arguments, in whatever order and form they do so. -/
def Writes (words : List OptionWord) (arguments : ToolArguments) : Prop :=
  (words.flatMap OptionWord.said).Perm arguments.said

/-- `Writes` is decidable, since it is decidable whether one list rearranges another. -/
instance (words : List OptionWord) (arguments : ToolArguments) :
    Decidable (Writes words arguments) :=
  inferInstanceAs (Decidable (List.Perm _ _))

end ToolArguments

/-! ## Options by their names -/

namespace CommandLine.State

variable {α : Type} [DecidableEq α] {state : State α} {spec : OptionSpec α} {tag : α}

/-- A flag that has not been set takes effect at once. -/
theorem meet_flag (hsettled : state.settle = .ok state) (haction : spec.action = .flag)
    (hfresh : state.has spec.tag = false) :
    state.meet spec = .ok (state.record (.option spec.tag)) := by
  simp [meet, hsettled, haction, hfresh, bind, Except.bind, pure, Except.pure]

/-- The value of an option takes effect at once. -/
theorem meetWith_value {accepts : String → Bool} {value : String}
    (hsettled : state.settle = .ok state) (hfresh : state.has tag = false)
    (hvalue : accepts value = true) :
    state.meetWith tag accepts value.toList = .ok (state.record (.value tag value)) := by
  have hhas : has { state with pending := .value tag accepts value } tag = false := hfresh
  have hpending : settle { state with pending := .value tag accepts value }
      = .ok (state.record (.value tag value)) := by simp [settle, hhas, hvalue, record]
  rw [meetWith, hsettled, String.ofList_toList]
  exact hpending

end CommandLine.State

namespace CommandLine.Grammar

variable {α : Type} [DecidableEq α] {grammar : Grammar α} {spec : OptionSpec α} {state : State α}
  {name : String}

/-- A name ends with the word or at an equals sign. -/
theorem long_cut (hname : '=' ∉ name.toList) {rest : List Char}
    (hrest : rest = [] ∨ ∃ value, rest = '=' :: value) :
    (name.toList ++ rest).takeWhile (· ≠ '=') = name.toList ∧
      (name.toList ++ rest).dropWhile (· ≠ '=') = rest := by
  have hnone : ∀ char ∈ name.toList, decide (char ≠ '=') = true :=
    fun char hmem => decide_eq_true fun hsame => hname (hsame ▸ hmem)
  rw [List.takeWhile_append_of_pos hnone, List.dropWhile_append_of_pos hnone]
  obtain rfl | ⟨value, rfl⟩ := hrest <;> simp

/-- A word that is the name of an option meets this option. -/
theorem long_alone (hname : '=' ∉ name.toList)
    (hfind : grammar.options.find? (·.long == name) = some spec) :
    grammar.long state name.toList = state.meet spec := by
  obtain ⟨htake, hdrop⟩ := long_cut hname (.inl rfl)
  rw [List.append_nil] at htake hdrop
  simp only [long, htake, hdrop, String.ofList_toList, hfind]

/-- A word with the name of an option and a value meets this option with the value. -/
theorem long_value {accepts : String → Bool} (value : List Char) (hname : '=' ∉ name.toList)
    (hfind : grammar.options.find? (·.long == name) = some spec)
    (haction : spec.action = .value accepts) :
    grammar.long state (name.toList ++ '=' :: value) = state.meetWith spec.tag accepts value := by
  obtain ⟨htake, hdrop⟩ := long_cut hname (.inr ⟨value, rfl⟩)
  simp only [long, htake, hdrop, String.ofList_toList, hfind, haction]

/-- A word behind two hyphens is an option by its name. -/
theorem word_long {word : String} {body : List Char} (h : word.toList = '-' :: '-' :: body) :
    grammar.word state word = grammar.long state body := by
  rw [Grammar.word, h]
  rfl

/-- A word behind one hyphen is made of options by their letters. -/
theorem word_short {word : String} {letter : Char} {rest : List Char}
    (h : word.toList = '-' :: letter :: rest) (hletter : letter ≠ '-') :
    grammar.word state word = grammar.short state (letter :: rest) := by
  rw [Grammar.word, h]
  split
  case h_1 hsame => exact absurd (List.cons.inj (List.cons.inj hsame).2).1 hletter
  case h_2 hsame =>
    cases hsame
    rfl
  case h_3 hnone => exact absurd rfl (hnone letter rest)

/-- A word with the name of an option and its value sets the option to the value. -/
theorem word_value {accepts : String → Bool} {word value : String}
    (h : word.toList = '-' :: '-' :: (name.toList ++ '=' :: value.toList))
    (hname : '=' ∉ name.toList) (hfind : grammar.options.find? (·.long == name) = some spec)
    (haction : spec.action = .value accepts) (hsettled : state.settle = .ok state)
    (hfresh : state.has spec.tag = false) (hvalue : accepts value = true) :
    grammar.word state word = .ok (state.record (.value spec.tag value)) := by
  rw [word_long h, long_value value.toList hname hfind haction]
  exact State.meetWith_value hsettled hfresh hvalue

end CommandLine.Grammar

/-! ## Reading options -/

namespace ToolArguments

variable {tool : Tool} {seen found : List (Match ToolOption)} {arguments : ToolArguments}
  {words : List OptionWord} {tag : ToolOption} {switch : Switch}

/-- A tool takes what a word says. -/
def Takes (tool : Tool) : Match ToolOption → Prop
  | .option tag => tool = .symbols → tag ∉ Tool.parts
  | .value .config path => path ≠ ""
  | .value _ _ | .operand _ => True

/-- Nothing but the verbosity is set twice. -/
def Once (found : List (Match ToolOption)) : Prop :=
  ∀ tag, tag ≠ .verbose → found.countP (Match.sets tag) ≤ 1

/-- What is set once is set once by any part of it. -/
theorem Once.of_append {later : List (Match ToolOption)} (h : Once (later ++ seen)) : Once seen :=
  fun tag htag => Nat.le_trans (List.sublist_append_right later seen).countP_le (h tag htag)

/-- Being set once does not depend on the order. -/
theorem Once.perm {other : List (Match ToolOption)} (h : Once found) (hperm : found.Perm other) :
    Once other :=
  fun tag htag => hperm.countP_eq (Match.sets tag) ▸ h tag htag

/-- What comes now has not come before. -/
theorem Once.fresh {first : Match ToolOption} (h : Once (first :: seen)) (htag : tag ≠ .verbose)
    (hfirst : first.sets tag = true) : seen.any (Match.sets tag) = false := by
  have hcount := h tag htag
  rw [List.countP_cons_of_pos hfirst] at hcount
  have hzero : seen.countP (Match.sets tag) = 0 := by omega
  rw [List.countP_eq_zero] at hzero
  simpa using hzero

/-- The state between two words with options. -/
def between (seen : List (Match ToolOption)) : State ToolOption := ⟨seen, .nothing, 0⟩

/-- An option that is set once has no effect before it comes. -/
theorem Once.option_fresh (h : Once (.option tag :: seen)) (htag : tag ≠ .verbose) :
    (between seen).has tag = false :=
  h.fresh htag (beq_self_eq_true tag)

/-- An option that is given a value once has no effect before it comes. -/
theorem Once.value_fresh {value : String} (h : Once (.value tag value :: seen))
    (htag : tag ≠ .verbose) : (between seen).has tag = false :=
  h.fresh htag (beq_self_eq_true tag)

/-- A switch takes effect between two words. -/
theorem meet_switch (h : Once (.option switch.tag :: seen)) :
    (between seen).meet switch.spec = .ok (between (.option switch.tag :: seen)) := by
  cases switch with
  | verbose => rfl
  | quiet | sections | symbols | all => exact State.meet_flag rfl rfl (h.option_fresh (by decide))

/-- A tool finds the switches that it takes, by their names and by their letters. -/
theorem find_switch (h : Takes tool (.option switch.tag)) :
    tool.grammar.options.find? (·.long == switch.name) = some switch.spec ∧
      tool.grammar.options.find? (·.short == some switch.letter) = some switch.spec := by
  cases tool with
  | header => cases switch <;> exact ⟨rfl, rfl⟩
  | symbols =>
    cases switch with
    | quiet | verbose => exact ⟨rfl, rfl⟩
    | sections | symbols | all => exact absurd (by decide) (h rfl)

/-- The letters of switches take effect one after the other. -/
theorem short_letters (switches : List Switch)
    (hones : Once ((switches.map fun switch => .option switch.tag).reverse ++ seen))
    (htakes : ∀ switch ∈ switches, Takes tool (.option switch.tag)) :
    tool.grammar.short (between seen) (switches.map Switch.letter)
      = .ok (between ((switches.map fun switch => .option switch.tag).reverse ++ seen)) := by
  induction switches generalizing seen with
  | nil => rfl
  | cons switch rest ih =>
    rw [List.map_cons, List.reverse_cons, List.append_assoc, List.singleton_append] at hones
    have hfirst : Once (.option switch.tag :: seen) := hones.of_append
    have hswitch := htakes switch List.mem_cons_self
    have hrest := ih hones fun other hother => htakes other (List.mem_cons_of_mem switch hother)
    have hmeet : tool.grammar.short (between seen) ((switch :: rest).map Switch.letter) =
        (do tool.grammar.short (← (between seen).meet switch.spec) (rest.map Switch.letter)) := by
      rw [List.map_cons, Grammar.short, (find_switch hswitch).2]
      cases switch <;> rfl
    rw [hmeet, meet_switch hfirst, List.map_cons, List.reverse_cons, List.append_assoc]
    exact hrest

/-- A word with options takes effect as a whole. -/
theorem word_text (word : OptionWord) (hones : Once (word.said.reverse ++ seen))
    (htakes : ∀ part ∈ word.said, Takes tool part) :
    tool.grammar.word (between seen) word.text = .ok (between (word.said.reverse ++ seen)) := by
  cases word with
  | config path =>
    have htext : (OptionWord.config path).text.toList
        = '-' :: '-' :: ("config".toList ++ '=' :: path.toList) := by
      rw [OptionWord.text, String.toList_append]
      rfl
    have hfind : tool.grammar.options.find? (·.long == "config")
        = some ⟨.config, "config", none, .value Tool.isPath⟩ := by cases tool <;> rfl
    have hpath : Tool.isPath path = true := decide_eq_true (htakes _ (List.mem_singleton_self _))
    have hfresh := Once.value_fresh hones (by decide)
    exact Grammar.word_value htext (by decide) hfind rfl rfl hfresh hpath
  | labels mode =>
    have htext : (OptionWord.labels mode).text.toList
        = '-' :: '-' :: ("labels".toList ++ '=' :: mode.name.toList) := by cases mode <;> rfl
    have hfind : tool.grammar.options.find? (·.long == "labels")
        = some ⟨.labels, "labels", none, .value Tool.isLabelMode⟩ := by cases tool <;> rfl
    have hmode : Tool.isLabelMode mode.name = true := by cases mode <;> rfl
    have hfresh := Once.value_fresh hones (by decide)
    exact Grammar.word_value htext (by decide) hfind rfl rfl hfresh hmode
  | buffered =>
    have htext : OptionWord.buffered.text.toList = '-' :: '-' :: "buffered".toList := rfl
    have hfind : tool.grammar.options.find? (·.long == "buffered")
        = some ⟨.buffered, "buffered", none, .flag⟩ := by cases tool <;> rfl
    rw [Grammar.word_long htext, Grammar.long_alone (by decide) hfind]
    exact State.meet_flag rfl rfl (Once.option_fresh hones (by decide))
  | long switch =>
    have htext : (OptionWord.long switch).text.toList = '-' :: '-' :: switch.name.toList := by
      rw [OptionWord.text, String.toList_append]
      rfl
    have hname : '=' ∉ switch.name.toList := by cases switch <;> decide
    have hfind := find_switch (htakes _ (List.mem_singleton_self _))
    rw [Grammar.word_long htext, Grammar.long_alone hname hfind.1]
    exact meet_switch hones
  | short first rest =>
    have htext : (OptionWord.short first rest).text.toList
        = '-' :: first.letter :: rest.map Switch.letter := String.toList_ofList
    have hletter : first.letter ≠ '-' := by cases first <;> decide
    rw [Grammar.word_short htext hletter]
    exact short_letters (first :: rest) hones fun switch hswitch =>
      htakes _ (List.mem_map_of_mem hswitch)

/-- No word with options is the marker. -/
theorem text_ne_marker (word : OptionWord) : word.text ≠ "--" := by
  intro hsame
  have hlist := congrArg String.toList hsame
  cases word with
  | config path => simp [OptionWord.text] at hlist
  | labels mode => cases mode <;> exact absurd hsame (by decide)
  | buffered => exact absurd hsame (by decide)
  | long switch => cases switch <;> exact absurd hsame (by decide)
  | short first rest =>
    rw [OptionWord.text, String.toList_ofList] at hlist
    cases first <;> cases hlist

/-- Words with options take effect one after the other. -/
theorem read_words (words : List OptionWord) (behind : List String)
    (hones : Once ((words.flatMap OptionWord.said).reverse ++ seen))
    (htakes : ∀ part ∈ words.flatMap OptionWord.said, Takes tool part) :
    tool.grammar.read (between seen) (words.map OptionWord.text ++ behind)
      = tool.grammar.read (between ((words.flatMap OptionWord.said).reverse ++ seen)) behind := by
  induction words generalizing seen with
  | nil => rfl
  | cons word rest ih =>
    rw [List.flatMap_cons, List.reverse_append, List.append_assoc] at hones
    rw [List.flatMap_cons, List.forall_mem_append] at htakes
    rw [List.map_cons, List.cons_append, Grammar.read, if_neg (text_ne_marker word),
      word_text word hones.of_append htakes.1, List.flatMap_cons, List.reverse_append,
      List.append_assoc, ← ih hones htakes.2]
    rfl

/-- Behind the marker comes the file. -/
theorem settle_file {file : String} (hfile : file ≠ "") (seen : List (Match ToolOption)) :
    (tool.grammar.read (between seen) ["--", file] >>= State.settle)
      = .ok ⟨.operand file :: seen, .nothing, 1⟩ := by
  have hread : tool.grammar.read (between seen) ["--", file]
      = .ok ⟨seen, .operand Tool.isPath file, 1⟩ := by cases tool <;> rfl
  have hpath : Tool.isPath file = true := decide_eq_true hfile
  rw [hread]
  exact if_pos hpath

/-- Words with options, the marker and the file are parsed into what the words say and the file. -/
theorem parse_text (words : List OptionWord) {file : String} (hfile : file ≠ "")
    (hones : Once (words.flatMap OptionWord.said))
    (htakes : ∀ part ∈ words.flatMap OptionWord.said, Takes tool part) :
    tool.grammar.parse (words.map OptionWord.text ++ ["--", file])
      = .ok (words.flatMap OptionWord.said ++ [.operand file]) := by
  have hreverse : Once ((words.flatMap OptionWord.said).reverse ++ []) := by
    rw [List.append_nil]
    exact hones.perm (List.reverse_perm _).symm
  rw [Grammar.parse_eq]
  change ((tool.grammar.read (between []) _ >>= State.settle).map _) = _
  rw [read_words words _ hreverse htakes, settle_file hfile]
  simp [Except.map]

/-! ## What is said, in any order -/

/-- How often an option has to be set to give arguments. -/
def times (arguments : ToolArguments) : ToolOption → Nat
  | .config => arguments.config.toList.length
  | .labels => arguments.labels.toList.length
  | .buffered => arguments.buffered.toNat
  | .quiet => arguments.quiet.toNat
  | .verbose => arguments.verbose
  | .sections => arguments.sections.toNat
  | .symbols => arguments.symbols.toNat
  | .all => arguments.all.toNat
  | .help | .version => 0

/-- A switch sets its own option if it is set, and no other one. -/
theorem countP_switched (other : ToolOption) (isSet : Bool) :
    (switched other isSet).countP (Match.sets tag) = if other = tag then isSet.toNat else 0 := by
  cases isSet <;> simp [switched, Match.sets, List.countP_cons]

/-- Values set their own option, each of them once, and no other one. -/
theorem countP_values {α : Type} {other : ToolOption} {say : α → Match ToolOption}
    (hsay : ∀ value, (say value).sets tag = (other == tag)) (values : List α) :
    (values.map say).countP (Match.sets tag) = if other = tag then values.length else 0 := by
  rw [List.countP_map, Function.comp_def, funext hsay]
  by_cases hsame : other = tag <;> simp [hsame]

/-- A repeated option sets itself as often as it is repeated, and no other one. -/
theorem countP_replicate (other : ToolOption) (count : Nat) :
    (List.replicate count (Match.option other)).countP (Match.sets tag)
      = if other = tag then count else 0 := by
  simp [List.countP_replicate, Match.sets]

/-- What has to be said for arguments sets an option as often as they ask for. -/
theorem countP_said (arguments : ToolArguments) (tag : ToolOption) :
    arguments.said.countP (Match.sets tag) = arguments.times tag := by
  have hconfig := countP_values (fun _ => rfl : ∀ path, (Match.value .config path).sets tag = _)
    arguments.config.toList
  have hlabels := countP_values
    (fun _ => rfl : ∀ mode : LabelMode, (Match.value .labels mode.name).sets tag = _)
    arguments.labels.toList
  simp only [said, List.countP_append, countP_switched, countP_replicate, hconfig, hlabels]
  cases tag <;> simp [times]

/-- Nothing but the verbosity has to be said twice. -/
theorem once_said (arguments : ToolArguments) : Once arguments.said := by
  intro tag htag
  rw [countP_said]
  cases tag with
  | verbose => exact absurd rfl htag
  | config => cases h : arguments.config <;> simp [times, h]
  | labels => cases h : arguments.labels <;> simp [times, h]
  | buffered | quiet | sections | symbols | all => exact Bool.toNat_le _
  | help | version => exact Nat.zero_le 1

/-- An option is set by some match if and only if the number of these is not zero. -/
theorem any_sets_eq (found : List (Match ToolOption)) (tag : ToolOption) :
    found.any (Match.sets tag) = decide (found.countP (Match.sets tag) ≠ 0) := by
  rw [Bool.eq_iff_iff, decide_eq_true_iff, ← Nat.pos_iff_ne_zero, List.countP_pos_iff,
    List.any_eq_true]

/-- The value of an option that is given at most one is that one. -/
theorem value?_eq {setting : Option String}
    (h : ∀ value, .value tag value ∈ found ↔ setting = some value) :
    value? tag found = setting := by
  cases hvalue : value? tag found with
  | some value =>
    obtain ⟨part, hpart, hsome⟩ := List.exists_of_findSome?_eq_some hvalue
    cases part with
    | option | operand => cases hsome
    | value other content =>
      dsimp only at hsome
      split at hsome
      case isTrue hother =>
        cases hsome
        exact ((h value).1 (hother ▸ hpart)).symm
      case isFalse => cases hsome
  | none =>
    rw [value?, List.findSome?_eq_none_iff] at hvalue
    symm
    rw [Option.eq_none_iff_forall_ne_some]
    intro value hsetting
    have hnone := hvalue _ ((h value).2 hsetting)
    simp at hnone

/-- The configuration file that has to be said is the one of the arguments. -/
theorem config_mem_said_iff {value : String} :
    .value .config value ∈ arguments.said ↔ arguments.config = some value := by
  simp [said, switched]

/-- The label style that has to be said is the one of the arguments. -/
theorem labels_mem_said_iff {value : String} :
    .value .labels value ∈ arguments.said ↔ arguments.labels.map LabelMode.name = some value := by
  simp [said, switched]

/-- No ordinary word has to be said besides the file. -/
theorem operand_not_mem_said {word : String} : Match.operand word ∉ arguments.said := by
  simp [said, switched]

/-- A label style is read back from its name. -/
theorem ofName?_name (mode : LabelMode) : LabelMode.ofName? mode.name = some mode := by
  cases mode <;> rfl

/-- Matches are read into arguments if they set each option as often as these do, give the same
values, and name the file. -/
theorem ofMatches_eq (hcount : ∀ tag, found.countP (Match.sets tag) = arguments.times tag)
    (hconfig : value? .config found = arguments.config)
    (hlabels : value? .labels found = arguments.labels.map LabelMode.name)
    (hfile : operand? found = some arguments.file)
    (hexclusive : arguments.quiet = true → arguments.verbose = 0) :
    ofMatches found = .ok { arguments with verbose := min arguments.verbose verboseLimit } := by
  have hswitch : ∀ isSet : Bool, decide (isSet.toNat ≠ 0) = isSet := by decide
  have hlabel :
      (arguments.labels.map LabelMode.name).bind LabelMode.ofName? = arguments.labels := by
    cases arguments.labels <;> simp [ofName?_name]
  have hconflict : (arguments.quiet && decide (arguments.verbose ≠ 0)) = false := by
    cases hquiet : arguments.quiet with
    | false => rfl
    | true => simp [hexclusive hquiet]
  unfold ofMatches
  simp only [any_sets_eq, hcount, times, hswitch, hconfig, hlabels, hlabel, hfile, hconflict]
  rfl

/-- What is said, in any order, and a file are read into the arguments that it is said for. -/
theorem ofMatches_said (hfound : found.Perm arguments.said)
    (hexclusive : arguments.quiet = true → arguments.verbose = 0) :
    ofMatches (found ++ [.operand arguments.file])
      = .ok { arguments with verbose := min arguments.verbose verboseLimit } := by
  have hvalue : ∀ tag value, .value tag value ∈ found ++ [.operand arguments.file] ↔
      .value tag value ∈ arguments.said := by
    intro tag value
    simp [hfound.mem_iff]
  refine ofMatches_eq (fun tag => ?count) ?config ?labels ?file hexclusive
  case count =>
    rw [List.countP_append, hfound.countP_eq, countP_said]
    rfl
  case config => exact value?_eq fun value => (hvalue .config value).trans config_mem_said_iff
  case labels => exact value?_eq fun value => (hvalue .labels value).trans labels_mem_said_iff
  case file =>
    have hnone : operand? found = none := by
      rw [operand?, List.findSome?_eq_none_iff]
      intro part hpart
      cases part with
      | option | value => rfl
      | operand word => exact absurd (hfound.mem_iff.1 hpart) operand_not_mem_said
    rw [operand?] at hnone
    rw [operand?, List.findSome?_append, hnone]
    rfl

/-- Arguments for the symbol tool ask for no part of the report. -/
theorem times_parts (h : arguments.Writable .symbols) (htag : tag ∈ Tool.parts) :
    arguments.times tag = 0 := by
  obtain ⟨hsections, hsymbols, hall⟩ := h.parts rfl
  have hparts : tag = .sections ∨ tag = .symbols ∨ tag = .all := by
    simpa [Tool.parts, Tool.partOptions] using htag
  obtain rfl | rfl | rfl := hparts <;> simp [times, hsections, hsymbols, hall]

/-- A tool takes all that has to be said for arguments that can be written for it. -/
theorem takes_said (h : arguments.Writable tool) : ∀ part ∈ arguments.said, Takes tool part := by
  intro part hpart
  cases part with
  | operand => trivial
  | value tag value =>
    cases tag with
    | config =>
      rintro rfl
      exact h.config (config_mem_said_iff.1 hpart)
    | labels | buffered | quiet | verbose | sections | symbols | all | help | version => trivial
  | option tag =>
    rintro rfl htag
    have hcount := countP_said arguments tag
    rw [times_parts h htag, List.countP_eq_zero] at hcount
    exact hcount _ hpart (beq_self_eq_true tag)

/-- Arguments are read back from whatever writes them. -/
theorem parse_written (h : arguments.Writable tool) (hwords : Writes words arguments) :
    parse tool (words.map OptionWord.text ++ ["--", arguments.file])
      = .ok { arguments with verbose := min arguments.verbose verboseLimit } := by
  have hones := (once_said arguments).perm hwords.symm
  have htakes : ∀ part ∈ words.flatMap OptionWord.said, Takes tool part :=
    fun part hpart => takes_said h part (hwords.mem_iff.1 hpart)
  rw [parse, parse_text words h.file hones htakes]
  exact ofMatches_said hwords h.exclusive

/-- How arguments and the command lines of both tools go together.

Arguments are read back from all words that write them, in front of the marker and the file; only
the verbosity has a limit (`written`). No command line makes the log quiet and verbose at once
(`exclusive`). What the symbol tool understands, the header tool understands in the same way, and no
parts of the report are chosen (`shared`). -/
structure ReadBack : Prop where
  written : ∀ tool words arguments, Writable tool arguments → Writes words arguments →
    parse tool (words.map OptionWord.text ++ ["--", arguments.file])
      = .ok { arguments with verbose := min arguments.verbose 255 }
  exclusive : ∀ tool words arguments, parse tool words = .ok arguments →
    ¬ (arguments.quiet = true ∧ 0 < arguments.verbose)
  shared : ∀ words arguments, parse .symbols words = .ok arguments →
    parse .header words = .ok arguments ∧
      arguments.sections = false ∧ arguments.symbols = false ∧ arguments.all = false

/-- Parsing undoes writing, for both tools and in any order. -/
theorem arguments_readBack : ReadBack where
  written := fun _ _ _ => parse_written
  exclusive := by
    rintro tool words arguments h ⟨hquiet, hverbose⟩
    rw [quiet_eq_false_of_parse h (Nat.pos_iff_ne_zero.1 hverbose)] at hquiet
    cases hquiet
  shared := fun _ _ h => ⟨parse_header_of_symbols h, parts_of_parse_symbols h⟩

/-- Words that write arguments in an order and in forms of their own. -/
def sampleWords : List OptionWord :=
  [.short .all [.verbose, .verbose], .config "a=b", .long .sections, .buffered, .labels .full,
    .short .verbose []]

/-- What they write. -/
def sampleArguments : ToolArguments :=
  ⟨"--", some "a=b", some .full, true, false, 3, true, false, true⟩

/-- The words of a command line with a repeated switch, letters in one word, and a file named like
the marker are read back. -/
theorem readBack_sample :
    parse .header
        ["-avv", "--config=a=b", "--sections", "--buffered", "--labels=full", "-v", "--", "--"]
      = .ok sampleArguments :=
  arguments_readBack.written .header sampleWords sampleArguments
    ⟨by decide, by decide, by decide, by decide⟩ (by decide)

end ToolArguments

end ElfScope
