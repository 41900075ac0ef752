import ElfScope.Workspace.Task

/-!
# Testing packages

Packages are tested one by one, as long as the calls succeed: a call is tried for every package up
to the first one whose call fails, and for none behind it (`TaskRun.testEach_append`). The words of
a call are read from the left (`CargoCall.read`), and what they say is what the call was made of
(`CargoCall.read_tail_arguments`), whatever words are passed on.
-/

namespace ElfScope

/-! ## The words of a call -/

namespace CargoCall

/-- What the words of a call say, apart from the first: the packages that are named, the options,
and what is passed on, if there is a marker for it. -/
structure Reading where
  packages : List String
  options : List String
  passed : Option (List String)
  deriving DecidableEq, Repr

/-- Reads words from the left. The word behind `-p` names a package, whatever word it is, and the
first marker `--` ends the options. -/
def read : List String → Reading
  | [] => ⟨[], [], none⟩
  | "--" :: rest => ⟨[], [], some rest⟩
  | "-p" :: name :: rest =>
    let behind := read rest
    { behind with packages := name :: behind.packages }
  | word :: rest =>
    let behind := read rest
    { behind with options := word :: behind.options }

variable {options : List String}

/-- The words that name packages are read as these packages. -/
theorem read_packageWords (names rest : List String) :
    read (packageWords names ++ rest)
      = { read rest with packages := names ++ (read rest).packages } := by
  induction names with
  | nil => rfl
  | cons name names ih =>
    change read ("-p" :: name :: (packageWords names ++ rest)) = _
    rw [read, ih]
    rfl

/-- An option neither names a package nor ends the options. -/
def IsOption (word : String) : Prop :=
  word ≠ "-p" ∧ word ≠ "--"

/-- Words that are options are read as options. -/
theorem read_options (h : ∀ word ∈ options, IsOption word) (rest : List String) :
    read (options ++ rest) = { read rest with options := options ++ (read rest).options } := by
  induction options with
  | nil => rfl
  | cons word options ih =>
    obtain ⟨hword, hoptions⟩ := List.forall_mem_cons.1 h
    rw [List.cons_append, read, ih hoptions]
    · rfl
    · exact hword.2
    · intro name _ hname _
      exact hword.1 hname

/-- What is passed on is read as such if there is any of it. -/
theorem read_extraWords (extra : List String) :
    read (extraWords extra) = ⟨[], [], if extra = [] then none else some extra⟩ := by
  cases extra with
  | nil => rfl
  | cons word rest => rfl

/-- The words of a call that neither name a package nor are passed on. -/
def optionWords (call : CargoCall) : List String :=
  (if call.release then ["--release"] else []) ++ call.flags

/-- The options of a call are options if its further ones are. -/
theorem isOption_of_mem_optionWords {call : CargoCall} (h : ∀ word ∈ call.flags, IsOption word) :
    ∀ word ∈ call.optionWords, IsOption word := by
  intro word hword
  rcases List.mem_append.1 hword with hrelease | hflag
  · split at hrelease
    · rw [List.mem_singleton.1 hrelease]
      exact ⟨by decide, by decide⟩
    · cases hrelease
  · exact h word hflag

/-- A call is written as its subcommand, its packages, its options, and what it passes on. -/
theorem arguments_eq (call : CargoCall) :
    call.arguments = call.subcommand ::
      (packageWords call.packages ++ (call.optionWords ++ extraWords call.extra)) := by
  simp [arguments, optionWords]

/-- The words of a call say what it was made of. -/
theorem read_tail_arguments {call : CargoCall} (h : ∀ word ∈ call.flags, IsOption word) :
    read call.arguments.tail
      = ⟨call.packages, call.optionWords, if call.extra = [] then none else some call.extra⟩ := by
  rw [arguments_eq, List.tail_cons, read_packageWords,
    read_options (isOption_of_mem_optionWords h), read_extraWords, List.append_nil, List.append_nil]

/-- A package can have the name of the marker, and a marker can be passed on. -/
example : read ["-p", "--", "--release", "--", "-p", "--"]
    = ⟨["--"], ["--release"], some ["-p", "--"]⟩ := by
  decide

/-- Unless a package has the name of the marker, the first marker is the one in front of what is
passed on. -/
theorem dropWhile_arguments {call : CargoCall} (hsubcommand : call.subcommand ≠ "--")
    (hpackages : "--" ∉ call.packages) (hflags : ∀ word ∈ call.flags, IsOption word) :
    call.arguments.dropWhile (· ≠ "--") = if call.extra = [] then [] else "--" :: call.extra := by
  have hfront : ∀ word ∈ call.subcommand :: (packageWords call.packages ++ call.optionWords),
      decide (word ≠ "--") = true := by
    intro word hword
    apply decide_eq_true
    rintro rfl
    rcases List.mem_cons.1 hword with hfirst | hrest
    · exact hsubcommand hfirst.symm
    · rcases List.mem_append.1 hrest with hpackage | hoption
      · obtain ⟨name, hname, hmem⟩ := List.mem_flatMap.1 hpackage
        have hmarker : "--" = name := by simpa using hmem
        exact hpackages (hmarker ▸ hname)
      · exact (isOption_of_mem_optionWords hflags "--" hoption).2 rfl
  rw [arguments_eq, ← List.append_assoc, ← List.cons_append, List.dropWhile_append_of_pos hfront]
  cases call.extra with
  | nil => rfl
  | cons word rest => rfl

end CargoCall

namespace TaskRun

variable {outcomes : Outcomes} {callFor : String → CargoCall} {call : CargoCall} {earlier : Nat}
  {name : String} {before rest packages : List String}

/-! ## One call -/

/-- A call succeeds after `earlier` others. -/
def Succeeds (outcomes : Outcomes) (earlier : Nat) (call : CargoCall) : Prop :=
  outcomes earlier call.arguments = true

/-- Whether a call succeeds is decided by its outcome. -/
instance (outcomes : Outcomes) (earlier : Nat) (call : CargoCall) :
    Decidable (Succeeds outcomes earlier call) :=
  inferInstanceAs (Decidable (_ = _))

/-- Every call is made, whatever comes of it. -/
theorem emitted_call (outcomes : Outcomes) (earlier : Nat) (call : CargoCall) :
    (TaskRun.call outcomes earlier call).emitted = [.call call.arguments] := by
  rw [TaskRun.call, Traced.bind_eq]
  rfl

/-- A call that succeeds has no error. -/
theorem value_call (h : Succeeds outcomes earlier call) :
    (TaskRun.call outcomes earlier call).value = .ok () := by
  rw [TaskRun.call, h]
  rfl

/-- The error of a call that fails names its subcommand. -/
theorem value_call_of_not (h : ¬ Succeeds outcomes earlier call) :
    (TaskRun.call outcomes earlier call).value = .error (.call call.subcommand) := by
  have houtcome : outcomes earlier call.arguments = false := Bool.not_eq_true _ ▸ h
  rw [TaskRun.call, houtcome]
  rfl

/-! ## One package after the other -/

/-- What testing a package does: it says so and makes the call. -/
def trial (callFor : String → CargoCall) (name : String) : List TaskEffect :=
  [.output ("  Testing " ++ name ++ "...\n"), .call (callFor name).arguments]

/-- The calls for some packages all succeed, the first of them after `earlier` others. -/
def AllSucceed (outcomes : Outcomes) (callFor : String → CargoCall) (earlier : Nat)
    (packages : List String) : Prop :=
  ∀ index name, packages[index]? = some name → Succeeds outcomes (earlier + index) (callFor name)

/-- The calls for no packages succeed. -/
theorem allSucceed_nil (outcomes : Outcomes) (callFor : String → CargoCall) (earlier : Nat) :
    AllSucceed outcomes callFor earlier [] := by
  intro index name h
  cases h

/-- The calls for some packages succeed exactly if the one for the first does and those for the rest
do. -/
theorem allSucceed_cons :
    AllSucceed outcomes callFor earlier (name :: rest) ↔
      Succeeds outcomes earlier (callFor name) ∧
        AllSucceed outcomes callFor (earlier + 1) rest := by
  constructor
  · intro h
    refine ⟨h 0 name rfl, ?_⟩
    intro index other hother
    rw [Nat.add_right_comm]
    exact h (index + 1) other hother
  · intro h index other hother
    obtain ⟨hname, hrest⟩ := h
    cases index with
    | zero =>
      cases hother
      exact hname
    | succ index =>
      rw [← Nat.add_assoc, Nat.add_right_comm]
      exact hrest index other hother

/-- After a call that succeeds, the others follow. -/
theorem testEach_cons (h : Succeeds outcomes earlier (callFor name)) :
    testEach outcomes callFor earlier (name :: rest)
      = ⟨trial callFor name ++ (testEach outcomes callFor (earlier + 1) rest).emitted,
          (testEach outcomes callFor (earlier + 1) rest).value⟩ := by
  rw [testEach, Traced.bind_eq, Traced.bind_eq, emitted_call, value_call h]
  rfl

/-- After a call that fails, nothing follows. -/
theorem testEach_cons_of_not (h : ¬ Succeeds outcomes earlier (callFor name)) :
    testEach outcomes callFor earlier (name :: rest)
      = ⟨trial callFor name, .error (.call (callFor name).subcommand)⟩ := by
  rw [testEach, Traced.bind_eq, Traced.bind_eq, emitted_call, value_call_of_not h, trial]
  simp

/-- As long as the calls succeed, the packages are gone through in order. -/
theorem testEach_append (h : AllSucceed outcomes callFor earlier before) (rest : List String) :
    testEach outcomes callFor earlier (before ++ rest)
      = ⟨before.flatMap (trial callFor)
            ++ (testEach outcomes callFor (earlier + before.length) rest).emitted,
          (testEach outcomes callFor (earlier + before.length) rest).value⟩ := by
  -- Every call that is made adds one to the number of earlier calls.
  induction before generalizing earlier with
  | nil => rfl
  | cons name before ih =>
    obtain ⟨hname, hbefore⟩ := allSucceed_cons.1 h
    have hlength : earlier + 1 + before.length = earlier + (before.length + 1) := by omega
    rw [List.cons_append, testEach_cons hname, ih hbefore, List.flatMap_cons, List.append_assoc,
      List.length_cons, hlength]

/-- The first package whose call fails, and the packages before it: it is one of the packages and
they come before it (`place`), their calls succeed (`passed`), and its call does not (`fails`). -/
structure FirstFailure (outcomes : Outcomes) (callFor : String → CargoCall) (earlier : Nat)
    (packages before : List String) (name : String) : Prop where
  place : ∃ behind, packages = before ++ name :: behind
  passed : AllSucceed outcomes callFor earlier before
  fails : ¬ Succeeds outcomes (earlier + before.length) (callFor name)

/-- Unless all calls succeed, one of them is the first to fail. -/
theorem allSucceed_or_firstFailure (outcomes : Outcomes) (callFor : String → CargoCall)
    (earlier : Nat) (packages : List String) :
    AllSucceed outcomes callFor earlier packages ∨
      ∃ before name, FirstFailure outcomes callFor earlier packages before name := by
  induction packages generalizing earlier with
  | nil => exact .inl (allSucceed_nil outcomes callFor earlier)
  | cons first rest ih =>
    by_cases hfirst : Succeeds outcomes earlier (callFor first)
    · rcases ih (earlier + 1) with hrest | ⟨before, name, ⟨behind, rfl⟩, hpassed, hfails⟩
      · exact .inl (allSucceed_cons.2 ⟨hfirst, hrest⟩)
      · refine .inr ⟨first :: before, name, ⟨behind, rfl⟩, allSucceed_cons.2 ⟨hfirst, hpassed⟩, ?_⟩
        rwa [List.length_cons, ← Nat.add_assoc, Nat.add_right_comm]
    · exact .inr ⟨[], first, ⟨rest, rfl⟩, allSucceed_nil outcomes callFor earlier, hfirst⟩

/-- All calls succeed if none is the first to fail. -/
theorem allSucceed_of_forall_not
    (h : ∀ before name, ¬ FirstFailure outcomes callFor earlier packages before name) :
    AllSucceed outcomes callFor earlier packages := by
  rcases allSucceed_or_firstFailure outcomes callFor earlier packages with hall | hfails
  · exact hall
  · obtain ⟨before, name, hfailure⟩ := hfails
    exact absurd hfailure (h before name)

/-- If all calls succeed, all packages are tested. -/
theorem testEach_of_allSucceed (h : AllSucceed outcomes callFor earlier packages) :
    testEach outcomes callFor earlier packages = ⟨packages.flatMap (trial callFor), .ok ()⟩ := by
  have happend := testEach_append h []
  rw [List.append_nil] at happend
  rw [happend, testEach, Traced.emitted_pure, List.append_nil]
  rfl

/-- If one call is the first to fail, the packages up to this one are tested. -/
theorem testEach_of_firstFailure
    (h : FirstFailure outcomes callFor earlier packages before name) :
    testEach outcomes callFor earlier packages
      = ⟨(before ++ [name]).flatMap (trial callFor),
          .error (.call (callFor name).subcommand)⟩ := by
  obtain ⟨⟨behind, rfl⟩, hpassed, hfails⟩ := h
  rw [testEach_append hpassed, testEach_cons_of_not hfails, List.flatMap_append,
    List.flatMap_singleton]

/-! ## A whole run -/

/-- What is written at the beginning. -/
def beginning : TaskEffect :=
  .output "Running host tests...\n"

/-- What is written at the happy end. -/
def happyEnd : TaskEffect :=
  .output "All host tests passed.\n"

/-- If all calls succeed, all packages are tested, and the run says so. -/
theorem test_of_allSucceed (h : AllSucceed outcomes callFor 0 packages) :
    test outcomes callFor packages
      = ⟨beginning :: packages.flatMap (trial callFor) ++ [happyEnd], .ok ()⟩ := by
  rw [test, Traced.bind_eq, Traced.bind_eq, testEach_of_allSucceed h]
  rfl

/-- If one call is the first to fail, the run ends there. -/
theorem test_of_firstFailure (h : FirstFailure outcomes callFor 0 packages before name) :
    test outcomes callFor packages
      = ⟨beginning :: (before ++ [name]).flatMap (trial callFor),
          .error (.call (callFor name).subcommand)⟩ := by
  rw [test, Traced.bind_eq, Traced.bind_eq, testEach_of_firstFailure h, beginning]
  simp

/-- Nothing else that is written reads like the happy end. -/
theorem happyEnd_not_mem (callFor : String → CargoCall) (packages : List String) :
    happyEnd ∉ beginning :: packages.flatMap (trial callFor) := by
  intro hmem
  rcases List.mem_cons.1 hmem with hbeginning | htrials
  · exact absurd hbeginning (by decide)
  · obtain ⟨name, -, hname⟩ := List.mem_flatMap.1 htrials
    rcases List.mem_cons.1 hname with hannounced | hcall
    · have htext := congrArg String.toList (TaskEffect.output.inj hannounced)
      simp at htext
    · cases List.mem_singleton.1 hcall

/-- A beginning is no call. -/
theorem calls_cons_beginning (effects : List TaskEffect) :
    calls (beginning :: effects) = calls effects :=
  rfl

/-- One call is made for each package. -/
theorem calls_flatMap_trial (callFor : String → CargoCall) (packages : List String) :
    calls (packages.flatMap (trial callFor))
      = packages.map fun name => (callFor name).arguments := by
  induction packages with
  | nil => rfl
  | cons name packages ih =>
    show (callFor name).arguments :: calls (packages.flatMap (trial callFor)) = _
    rw [ih, List.map_cons]

/-- The happy end is no call. -/
theorem calls_append_happyEnd (effects : List TaskEffect) :
    calls (effects ++ [happyEnd]) = calls effects := by
  rw [calls, List.filterMap_append]
  exact List.append_nil _

/-- What comes of testing some packages, and which calls are made for it.

All calls succeed, or one of them is the first to fail (`ends`). If all succeed, all packages are
tested, and the calls are made in their order (`all`). If one is the first to fail, the packages up
to this one are tested, and none behind it (`upTo`). The run succeeds exactly if all calls do
(`succeeds`), and says that all tests passed exactly then (`announces`). -/
structure Tested (outcomes : Outcomes) (callFor : String → CargoCall) (packages : List String)
    (run : TaskRun) : Prop where
  ends : AllSucceed outcomes callFor 0 packages ∨
    ∃ before name, FirstFailure outcomes callFor 0 packages before name
  all : AllSucceed outcomes callFor 0 packages →
    run.emitted = beginning :: packages.flatMap (trial callFor) ++ [happyEnd] ∧
      calls run.emitted = packages.map fun name => (callFor name).arguments
  upTo : ∀ before name, FirstFailure outcomes callFor 0 packages before name →
    run.emitted = beginning :: (before ++ [name]).flatMap (trial callFor) ∧
      calls run.emitted = ((before ++ [name]).map fun name => (callFor name).arguments) ∧
      run.value = .error (.call (callFor name).subcommand)
  succeeds : run.value = .ok () ↔ AllSucceed outcomes callFor 0 packages
  announces : happyEnd ∈ run.emitted ↔ AllSucceed outcomes callFor 0 packages

/-- What comes of testing some packages. -/
theorem tested_test (outcomes : Outcomes) (callFor : String → CargoCall)
    (packages : List String) :
    Tested outcomes callFor packages (test outcomes callFor packages) := by
  refine ⟨allSucceed_or_firstFailure outcomes callFor 0 packages, ?all, ?upTo, ?succeeds,
    ?announces⟩
  case all =>
    intro hall
    rw [test_of_allSucceed hall]
    refine ⟨rfl, ?_⟩
    rw [calls_append_happyEnd, calls_cons_beginning, calls_flatMap_trial]
  case upTo =>
    intro before name hfailure
    rw [test_of_firstFailure hfailure]
    refine ⟨rfl, ?_, rfl⟩
    rw [calls_cons_beginning, calls_flatMap_trial]
  case succeeds =>
    constructor
    · intro hvalue
      apply allSucceed_of_forall_not
      intro before name hfailure
      rw [test_of_firstFailure hfailure] at hvalue
      cases hvalue
    · intro hall
      rw [test_of_allSucceed hall]
  case announces =>
    constructor
    · intro hmem
      apply allSucceed_of_forall_not
      intro before name hfailure
      rw [test_of_firstFailure hfailure] at hmem
      exact happyEnd_not_mem callFor (before ++ [name]) hmem
    · intro hall
      rw [test_of_allSucceed hall]
      exact List.mem_append_right _ (List.mem_singleton_self happyEnd)

/-! ## The words of the calls -/

/-- What the words of the call that tests a package say.

A test is to be run (`subcommand`). The package is named, and no other; there are the options that
are asked for, and no other; and what is to be passed on is passed on, as it is (`reading`). The
first marker is the one in front of what is passed on, unless the package has the name of a marker
(`marker`). -/
structure SaysTest (release noDefaultFeatures : Bool) (extra : List String) (name : String)
    (words : List String) : Prop where
  subcommand : words.head? = some "test"
  reading : CargoCall.read words.tail = {
    packages := [name]
    options := (if release then ["--release"] else [])
      ++ (if noDefaultFeatures then ["--no-default-features"] else [])
    passed := if extra = [] then none else some extra }
  marker : name ≠ "--" →
    words.dropWhile (· ≠ "--") = if extra = [] then [] else "--" :: extra

/-- The further options of a test are options. -/
theorem isOption_of_mem_flags {release noDefaultFeatures : Bool} {extra : List String} :
    ∀ word ∈ (testCall release noDefaultFeatures extra name).flags, CargoCall.IsOption word := by
  intro word hword
  rw [testCall] at hword
  split at hword
  · rw [List.mem_singleton.1 hword]
    exact ⟨by decide, by decide⟩
  · cases hword

/-- The words of the call that tests a package say what is to be tested. -/
theorem saysTest (release noDefaultFeatures : Bool) (extra : List String) (name : String) :
    SaysTest release noDefaultFeatures extra name
      (testCall release noDefaultFeatures extra name).arguments where
  subcommand := rfl
  reading := CargoCall.read_tail_arguments isOption_of_mem_flags
  marker := by
    intro hname
    apply CargoCall.dropWhile_arguments
    · show "test" ≠ "--"
      decide
    · show "--" ∉ [name]
      rw [List.mem_singleton]
      exact hname.symm
    · exact isOption_of_mem_flags

/-- Testing calls the package manager for the right packages, in the right order, with the right
words, and stops at the first failure. -/
theorem tests_selected (outcomes : Outcomes) (workspace : Workspace) (package : Option String)
    (release noDefaultFeatures : Bool) (extra : List String) :
    Tested outcomes (testCall release noDefaultFeatures extra)
        (package.elim workspace.packages fun name => [name])
        (ofTask outcomes workspace (.test package release noDefaultFeatures extra)) ∧
      ∀ name, SaysTest release noDefaultFeatures extra name
        (testCall release noDefaultFeatures extra name).arguments := by
  refine ⟨?_, saysTest release noDefaultFeatures extra⟩
  have hselect :
      package.elim workspace.packages (fun name => [name]) = workspace.select package := by
    cases package <;> rfl
  rw [hselect, ofTask]
  exact tested_test outcomes (testCall release noDefaultFeatures extra) (workspace.select package)

/-! ## A run that stops at its second call -/

/-- A workspace with three packages. -/
def threePackages : Workspace :=
  ⟨["work"], ["core", "--", "tools"]⟩

/-- The second call fails, and every other one succeeds. -/
def secondFails : Outcomes :=
  fun earlier _ => decide (earlier ≠ 1)

/-- The first two packages are tested and the third is not, and what is passed on is passed on
although it looks like options. -/
theorem tests_selected_secondFails :
    let run := ofTask secondFails threePackages (.test none true false ["--", "-p"])
    calls run.emitted
        = [["test", "-p", "core", "--release", "--", "--", "-p"],
            ["test", "-p", "--", "--release", "--", "--", "-p"]] ∧
      run.value = .error (.call "test") ∧ happyEnd ∉ run.emitted := by
  intro run
  obtain ⟨htested, -⟩ := tests_selected secondFails threePackages none true false ["--", "-p"]
  have hfailure : FirstFailure secondFails (testCall true false ["--", "-p"]) 0
      threePackages.packages ["core"] "--" := by
    refine ⟨⟨["tools"], rfl⟩, ?_, by decide⟩
    exact allSucceed_cons.2 ⟨by decide, allSucceed_nil _ _ _⟩
  obtain ⟨hemitted, hcalls, hvalue⟩ := htested.upTo _ _ hfailure
  refine ⟨hcalls, hvalue, ?_⟩
  intro hmem
  have hall := htested.announces.1 hmem
  exact hfailure.fails (hall 1 "--" rfl)

end TaskRun

end ElfScope
