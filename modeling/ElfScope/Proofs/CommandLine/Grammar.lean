import ElfScope.CommandLine.Grammar

/-!
# Command lines for larger grammars

What a grammar reads out of some words, a larger one reads out of them, too, and it does so behind
options of which the first knows nothing (`Grammar.Extends.parse_behind`). The reason is that the
two readings keep in step: the state of the one is that of the other, with these options in front
of everything that has taken effect (`State.Follows`).
-/

namespace ElfScope.CommandLine

variable {α : Type} [DecidableEq α]

/-! ## Behind other options -/

namespace State

variable {extra : List (Match α)} {state : State α}

/-- The state if `extra` has taken effect before everything else. -/
def behind (extra : List (Match α)) (state : State α) : State α :=
  { state with seen := state.seen ++ extra }

/-- No option that `extra` sets is pending (`pending`) or has taken effect (`seen`). -/
structure Apart (extra : List (Match α)) (state : State α) : Prop where
  pending : match state.pending with
    | .awaiting tag _ | .value tag _ _ => extra.any (Match.sets tag) = false
    | .nothing | .operand _ _ => True
  seen : ∀ tag, extra.any (Match.sets tag) = true → state.has tag = false

/-- Nothing is pending at first, and nothing has taken effect. -/
theorem apart_initial (extra : List (Match α)) : Apart extra (initial : State α) :=
  ⟨trivial, fun _ _ => rfl⟩

/-- An ordinary word may take effect. -/
theorem Apart.record_operand (h : state.Apart extra) (word : String) :
    (state.record (.operand word)).Apart extra :=
  ⟨trivial, fun tag htag => h.seen tag htag⟩

/-- An option that `extra` does not set may take effect. -/
theorem Apart.record_sets (h : state.Apart extra) {found : Match α} {tag : α}
    (htag : extra.any (Match.sets tag) = false)
    (hfound : ∀ other, Match.sets other found = true → other = tag) :
    (state.record found).Apart extra := by
  refine ⟨trivial, fun other hother => ?_⟩
  rw [has, record, List.any_cons, Bool.or_eq_false_iff]
  refine ⟨?_, h.seen other hother⟩
  cases hsets : Match.sets other found with
  | false => rfl
  | true =>
    rw [hfound other hsets, htag] at hother
    cases hother

/-- An option without a value may take effect if `extra` does not set it. -/
theorem Apart.record_option (h : state.Apart extra) {tag : α}
    (htag : extra.any (Match.sets tag) = false) : (state.record (.option tag)).Apart extra :=
  h.record_sets htag fun _ hother => (beq_iff_eq.1 hother).symm

/-- An option with its value may take effect if `extra` does not set it. -/
theorem Apart.record_value (h : state.Apart extra) {tag : α}
    (htag : extra.any (Match.sets tag) = false) (value : String) :
    (state.record (.value tag value)).Apart extra :=
  h.record_sets htag fun _ hother => (beq_iff_eq.1 hother).symm

/-- Where one reading succeeds, so does the other, in the same state behind `extra`. -/
def Follows (extra : List (Match α)) (outcome other : Except UsageError (State α)) : Prop :=
  ∀ next, outcome = .ok next → other = .ok (next.behind extra) ∧ next.Apart extra

/-- A state is followed by itself behind `extra`. -/
theorem follows_ok (h : state.Apart extra) :
    Follows extra (.ok state) (.ok (state.behind extra)) := by
  intro next hnext
  cases hnext
  exact ⟨rfl, h⟩

/-- A reading that fails is followed by any other. -/
theorem follows_error (error : UsageError) (other : Except UsageError (State α)) :
    Follows extra (.error error) other := by
  intro next hnext
  cases hnext

/-- Readings one after the other follow each other step by step. -/
theorem Follows.bind {outcome other : Except UsageError (State α)}
    {step otherStep : State α → Except UsageError (State α)} (h : Follows extra outcome other)
    (hstep : ∀ state, state.Apart extra →
      Follows extra (step state) (otherStep (state.behind extra))) :
    Follows extra (outcome >>= step) (other >>= otherStep) := by
  cases outcome with
  | error error => exact follows_error error _
  | ok state =>
    obtain ⟨rfl, hapart⟩ := h state rfl
    exact hstep state hapart

/-- An option that `extra` does not set has taken effect or has not. -/
theorem has_behind {tag : α} (h : extra.any (Match.sets tag) = false) :
    (state.behind extra).has tag = state.has tag := by
  rw [has, behind, List.any_append, h, Bool.or_false, has]

/-- What is pending takes effect behind `extra` as it does without it. -/
theorem settle_behind (h : state.Apart extra) :
    Follows extra state.settle (state.behind extra).settle := by
  have hpending : (state.behind extra).pending = state.pending := rfl
  unfold settle
  rw [hpending]
  cases hstate : state.pending with
  | nothing => exact follows_ok h
  | awaiting tag accepts => exact follows_error _ _
  | value tag accepts value =>
    have htag : extra.any (Match.sets tag) = false := by simpa [hstate] using h.pending
    -- A value is refused where its option has taken effect before, and `extra` has no say in that.
    dsimp only
    rw [has_behind htag]
    split
    · exact follows_error _ _
    split
    · exact follows_ok (h.record_value htag value)
    · exact follows_error _ _
  | operand accepts word =>
    dsimp only
    split
    · exact follows_ok (h.record_operand word)
    · exact follows_error _ _

/-- An option that `extra` does not set is met behind it as it is without it. -/
theorem meet_behind {spec : OptionSpec α} (h : state.Apart extra)
    (hspec : extra.any (Match.sets spec.tag) = false) :
    Follows extra (state.meet spec) ((state.behind extra).meet spec) := by
  refine (settle_behind h).bind fun state hapart => ?_
  cases spec.action with
  | stop reason => exact follows_error _ _
  | counter => exact follows_ok (hapart.record_option hspec)
  | value accepts => exact follows_ok ⟨hspec, hapart.seen⟩
  | flag =>
    dsimp only
    rw [has_behind hspec]
    cases state.has spec.tag with
    | true => exact follows_error _ _
    | false => exact follows_ok (hapart.record_option hspec)

/-- An option that `extra` does not set is met with its value behind it as without it. -/
theorem meetWith_behind {tag : α} (accepts : String → Bool) (value : List Char)
    (h : state.Apart extra) (htag : extra.any (Match.sets tag) = false) :
    Follows extra (state.meetWith tag accepts value)
      ((state.behind extra).meetWith tag accepts value) := by
  refine (settle_behind h).bind fun state hapart => ?_
  have hpending : Apart extra { state with pending := .value tag accepts (String.ofList value) } :=
    ⟨htag, hapart.seen⟩
  exact settle_behind hpending

end State

/-! ## With more options -/

namespace Grammar

open State (Follows follows_ok follows_error)

variable {extra : List (Match α)} {state : State α} {grammar larger : Grammar α}

/-- The larger grammar takes the same ordinary words (`operands`) and knows the options of the other
one (`find`), and `extra` sets no option of the other one (`apart`). -/
structure Extends (extra : List (Match α)) (grammar larger : Grammar α) : Prop where
  operands : larger.operands = grammar.operands
  find : ∀ test spec, grammar.options.find? test = some spec →
    larger.options.find? test = some spec
  apart : ∀ spec ∈ grammar.options, extra.any (Match.sets spec.tag) = false

/-- All words are read, and then what is still pending takes effect. -/
theorem parse_eq (grammar : Grammar α) (words : List String) :
    grammar.parse words
      = (grammar.read State.initial words >>= State.settle).map (·.seen.reverse) := by
  rw [parse]
  cases grammar.read State.initial words with
  | error error => rfl
  | ok state =>
    change Except.bind state.settle _ = Except.map _ state.settle
    cases state.settle <;> rfl

namespace Extends

/-- An option by its name is read by the larger grammar as by the smaller one. -/
theorem long_behind (hgrammar : Extends extra grammar larger) (body : List Char)
    (h : state.Apart extra) :
    Follows extra (grammar.long state body) (larger.long (state.behind extra) body) := by
  unfold long
  dsimp only
  cases hfind : grammar.options.find? (·.long == String.ofList (body.takeWhile (· ≠ '='))) with
  | none => exact follows_error _ _
  | some spec =>
    have hspec : extra.any (Match.sets spec.tag) = false :=
      hgrammar.apart spec (List.mem_of_find?_eq_some hfind)
    rw [hgrammar.find _ spec hfind]
    dsimp only
    split
    · exact State.meet_behind h hspec
    · exact State.meetWith_behind _ _ h hspec
    · exact follows_error _ _

/-- Options by their letters are read by the larger grammar as by the smaller one. -/
theorem short_behind (hgrammar : Extends extra grammar larger) (names : List Char)
    (h : state.Apart extra) :
    Follows extra (grammar.short state names) (larger.short (state.behind extra) names) := by
  -- Each option is met in the state that the options in front of it leave behind.
  induction names generalizing state with
  | nil => exact follows_ok h
  | cons name rest ih =>
    rw [short, short]
    cases hfind : grammar.options.find? (·.short == some name) with
    | none => exact follows_error _ _
    | some spec =>
      have hspec : extra.any (Match.sets spec.tag) = false :=
        hgrammar.apart spec (List.mem_of_find?_eq_some hfind)
      rw [hgrammar.find _ spec hfind]
      dsimp only
      split
      · exact State.meet_behind h hspec
      · exact State.meetWith_behind _ _ h hspec
      · exact (State.meet_behind h hspec).bind fun state hapart => ih hapart

/-- An ordinary word is read by the larger grammar as by the smaller one. -/
theorem operand_behind (hgrammar : Extends extra grammar larger) (behindMarker : Bool)
    (word : String) (h : state.Apart extra) :
    Follows extra (grammar.operand behindMarker state word)
      (larger.operand behindMarker (state.behind extra) word) := by
  unfold operand
  rw [hgrammar.operands]
  cases grammar.operands with
  | none => exact follows_error _ _
  | single accepts =>
    dsimp only
    have hcount : (state.behind extra).operands = state.operands := rfl
    rw [hcount]
    split
    · exact (State.settle_behind h).bind fun state hapart => follows_ok ⟨trivial, hapart.seen⟩
    · exact follows_error _ _
  | trailing =>
    dsimp only
    split
    · exact (State.settle_behind h).bind fun state hapart =>
        follows_ok (hapart.record_operand word)
    · exact follows_error _ _

/-- Any word in front of the marker is read by the larger grammar as by the smaller one. -/
theorem word_behind (hgrammar : Extends extra grammar larger) (word : String)
    (h : state.Apart extra) :
    Follows extra (grammar.word state word) (larger.word (state.behind extra) word) := by
  unfold Grammar.word
  split
  · exact hgrammar.long_behind _ h
  · exact hgrammar.short_behind _ h
  · have hpending : (state.behind extra).pending = state.pending := rfl
    rw [hpending]
    split
    case h_1 tag accepts hawaiting =>
      exact follows_ok ⟨by simpa [hawaiting] using h.pending, h.seen⟩
    case h_2 => exact hgrammar.operand_behind false word h

/-- The words behind the marker are read by the larger grammar as by the smaller one. -/
theorem readBehind_behind (hgrammar : Extends extra grammar larger) (words : List String)
    (h : state.Apart extra) :
    Follows extra (grammar.readBehind state words)
      (larger.readBehind (state.behind extra) words) := by
  induction words generalizing state with
  | nil => exact follows_ok h
  | cons word rest ih =>
    exact (hgrammar.operand_behind true word h).bind fun state hapart => ih hapart

/-- All words are read by the larger grammar as by the smaller one. -/
theorem read_behind (hgrammar : Extends extra grammar larger) (words : List String)
    (h : state.Apart extra) :
    Follows extra (grammar.read state words) (larger.read (state.behind extra) words) := by
  induction words generalizing state with
  | nil => exact follows_ok h
  | cons word rest ih =>
    rw [read, read]
    split
    · exact hgrammar.readBehind_behind rest h
    · exact (hgrammar.word_behind word h).bind fun state hapart => ih hapart

/-- What the smaller grammar reads, the larger one reads behind `extra`, and no part of it sets an
option that `extra` sets. -/
theorem parse_behind (hgrammar : Extends extra grammar larger) {words : List String}
    {found : List (Match α)} (h : grammar.parse words = .ok found) :
    (larger.read (State.initial.behind extra) words >>= State.settle).map (·.seen.reverse)
        = .ok (extra.reverse ++ found) ∧
      ∀ tag, extra.any (Match.sets tag) = true → found.any (Match.sets tag) = false := by
  -- Both readings start in step, keep in step word by word, and settle in step.
  have hfollows : Follows extra (grammar.read State.initial words >>= State.settle)
      (larger.read (State.initial.behind extra) words >>= State.settle) :=
    (hgrammar.read_behind words (State.apart_initial extra)).bind fun _ => State.settle_behind
  rw [parse_eq] at h
  cases hread : grammar.read State.initial words >>= State.settle with
  | error error =>
    rw [hread] at h
    cases h
  | ok settled =>
    rw [hread] at h
    cases h
    obtain ⟨hlarger, hapart⟩ := hfollows settled hread
    refine ⟨?_, fun tag htag => ?_⟩
    · rw [hlarger, Except.map, State.behind, List.reverse_append]
    · rw [List.any_reverse]
      exact hapart.seen tag htag

end Extends

end Grammar

end ElfScope.CommandLine
