import Mathlib.Data.List.Induction
import Mathlib.Logic.Relation

/-!
# Runs of transition systems

Two presentations of a system and the induction principle of each.

A deterministic system is a function `step : State → Event → State`; its runs
are left folds over a list of events.  `Along` restricts a run by a condition
on each step and the state before it, and `Throughout` states a property of
every state of a run.  A guarded system is a function
`step : State → Event → Option State`, where an event can be impossible; its
runs are the paths `Follows`, restricted by a condition in the same way.
-/

namespace Syncpond.Library.Runs

universe u v

variable {State : Type u} {Event : Type v}

/-! ## Deterministic systems -/

section Deterministic

variable (step : State → Event → State)

/-- A condition holds for every event of a run, in the state it happens in. -/
def Along (condition : State → Event → Prop) : State → List Event → Prop
  | _, [] => True
  | state, event :: rest =>
      condition state event ∧ Along condition (step state event) rest

/-- A condition that can be decided at each step can be along a run. -/
instance decidableAlong (condition : State → Event → Prop)
    [∀ state event, Decidable (condition state event)] :
    ∀ (start : State) (events : List Event),
      Decidable (Along step condition start events)
  | _, [] => .isTrue trivial
  | state, event :: rest =>
      have := decidableAlong condition (step state event) rest
      inferInstanceAs (Decidable (_ ∧ _))

variable {step} {condition : State → Event → Prop}

/-- A condition on events alone holds along a run of such events. -/
theorem along_iff_forall {allowed : Event → Prop} {start : State}
    {events : List Event} :
    Along step (fun _ event => allowed event) start events ↔
      ∀ event ∈ events, allowed event := by
  induction events generalizing start with
  | nil => simp [Along]
  | cons event rest ih => simp [Along, ih]

/-- A condition holds along a run in two parts if it does along both. -/
theorem along_append {start : State} {first second : List Event} :
    Along step condition start (first ++ second) ↔
      Along step condition start first ∧
        Along step condition (first.foldl step start) second := by
  induction first generalizing start with
  | nil => simp [Along]
  | cons event rest ih =>
      simp only [List.cons_append, Along, List.foldl_cons, ih, and_assoc]

/-- An invariant that every conditioned step keeps holds after the run. -/
theorem Along.invariant (invariant : State → Prop)
    (preserved : ∀ state event, condition state event →
      invariant state → invariant (step state event))
    {start : State} {events : List Event}
    (along : Along step condition start events)
    (initial : invariant start) :
    invariant (events.foldl step start) := by
  induction events generalizing start with
  | nil => exact initial
  | cons event rest ih =>
      exact ih along.2 (preserved _ _ along.1 initial)

/-- An invariant that every step keeps holds after every run. -/
theorem foldl_invariant (invariant : State → Prop)
    (preserved : ∀ state event, invariant state →
      invariant (step state event))
    (events : List Event) {start : State} (initial : invariant start) :
    invariant (events.foldl step start) := by
  induction events generalizing start with
  | nil => exact initial
  | cons event rest ih => exact ih (preserved _ _ initial)

section Since

variable (step) (happens undoes : State → Event → Prop)

/-- Something happened in a step of a run and was not undone since. -/
def Since (start : State) (events : List Event) : Prop :=
  ∃ front event back, events = front ++ event :: back ∧
    happens (front.foldl step start) event ∧
      Along step (fun state event => ¬undoes state event)
        (step (front.foldl step start) event) back

variable {step happens undoes}

theorem since_append_singleton {start : State} {events : List Event}
    {last : Event} :
    Since step happens undoes start (events ++ [last]) ↔
      happens (events.foldl step start) last ∨
        (Since step happens undoes start events ∧
          ¬undoes (events.foldl step start) last) := by
  constructor
  · rintro ⟨front, event, back, equal, happened, kept⟩
    rcases List.eq_nil_or_concat back with rfl | ⟨rest, other, rfl⟩
    · obtain ⟨rfl, same⟩ := List.append_inj' equal rfl
      cases same
      exact Or.inl happened
    · rw [List.concat_eq_append] at equal kept
      have split : events ++ [last] = (front ++ event :: rest) ++ [other] := by
        rw [equal, List.append_assoc, List.cons_append]
      obtain ⟨rfl, same⟩ := List.append_inj' split rfl
      cases same
      obtain ⟨keptRest, keptLast, _⟩ := along_append.mp kept
      refine Or.inr ⟨⟨front, event, rest, rfl, happened, keptRest⟩, ?_⟩
      rw [List.foldl_append, List.foldl_cons]
      exact keptLast
  · rintro (happened | ⟨⟨front, event, back, rfl, happened, kept⟩, keptLast⟩)
    · exact ⟨events, last, [], rfl, happened, trivial⟩
    · rw [List.foldl_append, List.foldl_cons] at keptLast
      refine ⟨front, event, back ++ [last], by simp, happened, ?_⟩
      exact along_append.mpr ⟨kept, keptLast, trivial⟩

/--
A property that becomes true when something happens, and false only when that
is undone, holds after a run exactly if it happened and was not undone since.
-/
theorem holds_iff_since (property : State → Prop)
    (one : ∀ state event, property (step state event) ↔
      happens state event ∨ (property state ∧ ¬undoes state event))
    {start : State} (initially : ¬property start) (events : List Event) :
    property (events.foldl step start) ↔
      Since step happens undoes start events := by
  induction events using List.reverseRecOn with
  | nil =>
      refine ⟨fun holds => absurd holds initially, ?_⟩
      rintro ⟨front, event, back, equal, _⟩
      simp at equal
  | append_singleton events last ih =>
      rw [List.foldl_append, since_append_singleton, ← ih]
      exact one _ last

end Since

variable (step) in
/-- A property holds in every state of a run, the first one included. -/
def Throughout (property : State → Prop) : State → List Event → Prop
  | state, [] => property state
  | state, event :: rest =>
      property state ∧ Throughout property (step state event) rest

theorem Throughout.start {property : State → Prop} {start : State}
    {events : List Event} (throughout : Throughout step property start events) :
    property start := by
  cases events with
  | nil => exact throughout
  | cons event rest => exact throughout.1

/-- A property holds throughout a run if it holds after every prefix. -/
theorem throughout_iff_prefix {property : State → Prop} {start : State}
    {events : List Event} :
    Throughout step property start events ↔
      ∀ front, front <+: events → property (front.foldl step start) := by
  induction events generalizing start with
  | nil => simp [Throughout]
  | cons event rest ih =>
      simp only [Throughout, ih, List.prefix_cons_iff]
      constructor
      · rintro ⟨first, others⟩ front (rfl | ⟨tail, rfl, isFront⟩)
        · exact first
        · exact others tail isFront
      · intro all
        refine ⟨all [] (Or.inl rfl), ?_⟩
        intro front isFront
        exact all (event :: front) (Or.inr ⟨front, rfl, isFront⟩)

/--
A property that an allowed step keeps exactly when a condition holds before
the step: it holds throughout a run of allowed steps exactly when the condition
holds along the run.
-/
theorem throughout_iff_along (background property : State → Prop)
    {allowed : State → Event → Prop}
    (keepsBackground : ∀ state event, background state →
      background (step state event))
    (keeps_iff : ∀ state event, background state → property state →
      allowed state event →
      (property (step state event) ↔ condition state event))
    {events : List Event} {start : State}
    (allAllowed : Along step allowed start events)
    (lawful : background start) (initial : property start) :
    Throughout step property start events ↔
      Along step condition start events := by
  induction events generalizing start with
  | nil => exact ⟨fun _ => trivial, fun _ => initial⟩
  | cons event rest ih =>
      have keeps := keeps_iff start event lawful initial allAllowed.1
      have tail := ih allAllowed.2 (keepsBackground start event lawful)
      constructor
      · rintro ⟨_, throughout⟩
        have kept := throughout.start
        exact ⟨keeps.mp kept, (tail kept).mp throughout⟩
      · rintro ⟨holds, along⟩
        have kept := keeps.mpr holds
        exact ⟨initial, (tail kept).mpr along⟩

end Deterministic

/-! ## Guarded systems -/

section Guarded

variable (step : State → Event → Option State)

/-- A run of possible steps that each meet a condition in the state before. -/
inductive Follows (condition : State → Event → Prop) (start : State) :
    State → Prop
  | start : Follows condition start start
  | next {state after : State} {event : Event}
      (run : Follows condition start state)
      (meets : condition state event)
      (stepped : step state event = some after) :
      Follows condition start after

variable {step} {condition : State → Event → Prop}

/-- An invariant that every conditioned step keeps holds in every state. -/
theorem Follows.invariant (invariant : State → Prop)
    (preserved : ∀ state event after, invariant state →
      condition state event → step state event = some after →
      invariant after)
    {start state : State} (run : Follows step condition start state)
    (initial : invariant start) : invariant state := by
  induction run with
  | start => exact initial
  | next _ meets stepped ih => exact preserved _ _ _ ih meets stepped

theorem Follows.trans {start middle state : State}
    (front : Follows step condition start middle)
    (back : Follows step condition middle state) :
    Follows step condition start state := by
  induction back with
  | start => exact front
  | next _ meets stepped ih => exact .next ih meets stepped

/-- The run of a list of events that are all possible and allowed. -/
theorem follows_of_forall {allowed : Event → Prop} {events : List Event}
    {start state : State} (all : ∀ event ∈ events, allowed event)
    (ran : events.foldlM step start = some state) :
    Follows step (fun _ event => allowed event) start state := by
  induction events generalizing start with
  | nil =>
      cases ran
      exact .start
  | cons event rest ih =>
      obtain ⟨after, stepped, ranRest⟩ := Option.bind_eq_some_iff.mp ran
      exact (Follows.next .start (all event List.mem_cons_self) stepped).trans
        (ih (fun other member => all other (List.mem_cons_of_mem _ member))
          ranRest)

/-- The run of a list of events that are all possible. -/
theorem follows_of_foldlM {events : List Event} {start state : State}
    (ran : events.foldlM step start = some state) :
    Follows step (fun _ _ => True) start state :=
  follows_of_forall (fun _ _ => trivial) ran

/-- The run of a list of events whose conditions can be checked. -/
theorem follows_of_checked {check : State → Event → Bool}
    (sound : ∀ state event, check state event = true →
      condition state event)
    {events : List Event} {start state : State}
    (ran : events.foldlM (fun state event =>
      if check state event then step state event else none) start =
        some state) :
    Follows step condition start state := by
  induction events generalizing start with
  | nil =>
      cases ran
      exact .start
  | cons event rest ih =>
      rw [List.foldlM_cons] at ran
      obtain ⟨after, stepped, ranRest⟩ := Option.bind_eq_some_iff.mp ran
      split at stepped
      · next checked =>
        exact (Follows.next .start (sound _ _ checked) stepped).trans
          (ih ranRest)
      · cases stepped

end Guarded

end Syncpond.Library.Runs
