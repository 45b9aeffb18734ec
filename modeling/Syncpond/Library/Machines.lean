import Mathlib.Data.List.Basic

/-!
# Machines and their parts

A machine answers one event after another.  A part of it sees some of the
events, and `observe` says as what.  The part is a machine of its own if one
relation between the states is kept: what the part sees, it answers as the
machine does, and what it does not see changes nothing for it.  Then whole runs
of the machine show of the part what its own runs show.
-/

namespace Syncpond.Library.Machines

universe u v w

/-- Answer an event, and go on to the next state. -/
abbrev Machine (State : Type u) (Event : Type v) (Answer : Type w) :=
  State → Event → Answer × State

variable {State Part : Type u} {Event Seen : Type v} {Answer : Type w}

namespace Machine

/-- The answers to a sequence of events. -/
def answers (machine : Machine State Event Answer) :
    State → List Event → List Answer
  | _, [] => []
  | state, event :: rest =>
      (machine state event).1 :: machine.answers (machine state event).2 rest

/-- The state after a sequence of events. -/
def final (machine : Machine State Event Answer) (state : State)
    (events : List Event) : State :=
  events.foldl (fun state event => (machine state event).2) state

/-- The events of a run that a part sees, with their answers. -/
def history (machine : Machine State Event Answer)
    (observe : Event → Answer → Option Seen) :
    State → List Event → List (Seen × Answer)
  | _, [] => []
  | state, event :: rest =>
      match observe event (machine state event).1 with
      | some seen =>
          (seen, (machine state event).1) ::
            machine.history observe (machine state event).2 rest
      | none => machine.history observe (machine state event).2 rest

/-- The part of a machine is a machine of its own. -/
structure Projects (machine : Machine State Event Answer)
    (observe : Event → Answer → Option Seen) (allowed : Event → Prop)
    (part : Machine Part Seen Answer) (stands : State → Part → Prop) :
    Prop where
  hidden : ∀ state piece event, stands state piece → allowed event →
    observe event (machine state event).1 = none →
      stands (machine state event).2 piece
  seen : ∀ state piece event seen, stands state piece → allowed event →
    observe event (machine state event).1 = some seen →
      (machine state event).1 = (part piece seen).1 ∧
        stands (machine state event).2 (part piece seen).2

variable {machine : Machine State Event Answer}
variable {observe : Event → Answer → Option Seen} {allowed : Event → Prop}
variable {part : Machine Part Seen Answer} {stands : State → Part → Prop}

/-- The part answers what it sees, and goes on to what stands for it. -/
theorem Projects.run (projects : Projects machine observe allowed part stands)
    {state : State} {piece : Part} (start : stands state piece)
    {events : List Event} (all : ∀ event ∈ events, allowed event) :
    (machine.history observe state events).map Prod.snd =
        part.answers piece
          ((machine.history observe state events).map Prod.fst) ∧
      stands (machine.final state events)
        (part.final piece
          ((machine.history observe state events).map Prod.fst)) := by
  induction events generalizing state piece with
  | nil => exact ⟨rfl, start⟩
  | cons event rest ih =>
      have first : allowed event := all event List.mem_cons_self
      have others : ∀ other ∈ rest, allowed other := fun other member =>
        all other (List.mem_cons_of_mem _ member)
      cases observed : observe event (machine state event).1 with
      | none =>
          have kept := projects.hidden state piece event start first observed
          have same : machine.history observe state (event :: rest) =
              machine.history observe (machine state event).2 rest := by
            rw [history, observed]
          rw [same]
          exact ih kept others
      | some seen =>
          obtain ⟨answered, next⟩ :=
            projects.seen state piece event seen start first observed
          have more : machine.history observe state (event :: rest) =
              (seen, (machine state event).1) ::
                machine.history observe (machine state event).2 rest := by
            rw [history, observed]
          obtain ⟨answers, final⟩ := ih next others
          rw [more]
          refine ⟨?_, final⟩
          rw [List.map_cons, List.map_cons, Machine.answers, answers, answered]

end Machine

end Syncpond.Library.Machines
