import Mathlib.Logic.Hydra
import Mathlib.Order.WellFounded
import Syncpond.Library.Programs

/-!
# Schedules of pools

A schedule advances the programs of a pool, one section at a time, in any
order.  Every program ends after finitely many sections, whatever states it
sees, so no schedule goes on for ever.  Where the programs use the lock in
turn, a schedule stops only when all of them have returned.
-/

namespace Syncpond.Library.Programs

universe u v

variable {Shared : Type u} {Result : Type v}

namespace Program

/-- What a program has returned, if it has. -/
def returned : Program Shared Result → Option Result
  | .done result => some result
  | .step _ _ _ => none

theorem eq_done_of_returned {program : Program Shared Result} {result : Result}
    (isReturned : program.returned = some result) : program = .done result := by
  cases program with
  | done returned =>
      cases isReturned
      rfl
  | step access effect next => cases isReturned

/-- What is left of a program after one more section, in some state. -/
def Continues (after program : Program Shared Result) : Prop :=
  ∃ access effect next shared,
    program = .step access effect next ∧ after = next shared

/-- Every program ends, whatever its sections see. -/
theorem wellFounded_continues :
    WellFounded (Continues : Program Shared Result → _ → Prop) := by
  refine ⟨fun program => ?_⟩
  induction program with
  | done result =>
      refine .intro _ ?_
      rintro after ⟨access, effect, next, shared, equal, _⟩
      cases equal
  | step access effect next ih =>
      refine .intro _ ?_
      rintro after ⟨_, _, _, shared, equal, rfl⟩
      cases equal
      exact ih shared

end Program

namespace Pool

/-- A schedule takes a pool to another one by one section. -/
def Schedules (after pool : Pool Shared Result) : Prop :=
  ∃ task, pool.advance task = some after

/-- All programs have returned. -/
def Finished (pool : Pool Shared Result) : Prop :=
  ∀ program ∈ pool.tasks, ∃ result, program = .done result

/-- The programs of a pool, one of them replaced. -/
theorem coe_set_add {programs : List (Program Shared Result)} {task : Nat}
    {program : Program Shared Result}
    (found : programs[task]? = some program)
    (after : Program Shared Result) :
    (programs.set task after : Multiset (Program Shared Result)) + {program} =
      (programs : Multiset (Program Shared Result)) + {after} := by
  induction programs generalizing task with
  | nil => cases found
  | cons head rest ih =>
      cases task with
      | zero =>
          cases found
          rw [List.set_cons_zero, ← Multiset.cons_coe, ← Multiset.cons_coe,
            add_comm, Multiset.singleton_add, add_comm, Multiset.singleton_add,
            Multiset.cons_swap]
      | succ task =>
          rw [List.set_cons_succ, ← Multiset.cons_coe, ← Multiset.cons_coe,
            Multiset.cons_add, Multiset.cons_add, ih found]

/-- No schedule goes on for ever. -/
theorem wellFounded_schedules :
    WellFounded (Schedules : Pool Shared Result → _ → Prop) := by
  refine Subrelation.wf ?_ (InvImage.wf
    (fun pool : Pool Shared Result =>
      (pool.tasks : Multiset (Program Shared Result)))
    Program.wellFounded_continues.cutExpand)
  rintro after pool ⟨task, advanced⟩
  obtain ⟨access, effect, next, found, _, rfl⟩ := advance_eq_some advanced
  refine ⟨{next pool.shared}, _, ?_, coe_set_add found _⟩
  intro program member
  rw [Multiset.mem_singleton.mp member]
  exact ⟨access, effect, next, pool.shared, rfl, rfl⟩

theorem not_schedules_forever (schedule : ℕ → Pool Shared Result) :
    ¬∀ turn, Schedules (schedule (turn + 1)) (schedule turn) := by
  intro always
  exact (wellFounded_iff_isEmpty_descending_chain.mp
    wellFounded_schedules).false ⟨schedule, always⟩

/-- A program that is left can execute its next section if the lock is free. -/
theorem Disciplined.advances_of_free {pool : Pool Shared Result}
    (disciplined : pool.Disciplined) (free : pool.holder = none)
    {task : Nat} {access : Access} {effect : Shared → Shared}
    {next : Shared → Program Shared Result}
    (found : pool.tasks[task]? = some (.step access effect next)) :
    ∃ after, pool.advance task = some after := by
  have locks := disciplined.locks task _ found
  rw [free, decide_eq_false (by simp)] at locks
  have admitted : admits pool.holder task access = true := by
    have allowed := locks.1
    cases access <;> simp_all [admits, Access.allowed]
  exact ⟨_, by simp only [Pool.advance, found, admitted, if_true]; rfl⟩

/-- A schedule stops only when all programs have returned. -/
theorem Disciplined.finished_of_stuck {pool : Pool Shared Result}
    (disciplined : pool.Disciplined)
    (stuck : ∀ after, ¬Schedules after pool) : pool.Finished := by
  intro program member
  obtain ⟨task, found⟩ := List.mem_iff_getElem?.mp member
  cases program with
  | done result => exact ⟨result, rfl⟩
  | step access effect next =>
      exfalso
      cases held : pool.holder with
      | none =>
          obtain ⟨after, advanced⟩ := disciplined.advances_of_free held found
          exact stuck after ⟨task, advanced⟩
      | some holder =>
          obtain ⟨after, advanced⟩ := disciplined.holder_advances held
          exact stuck after ⟨holder, advanced⟩

/-- All programs have returned once each of them has a result. -/
theorem finished_of_returned {pool : Pool Shared Result} {results : List Result}
    (returned : pool.tasks.map Program.returned = results.map some) :
    pool.Finished := by
  intro program member
  have isReturned : program.returned ∈ results.map some :=
    returned ▸ List.mem_map_of_mem member
  obtain ⟨result, _, isResult⟩ := List.mem_map.mp isReturned
  exact ⟨result, Program.eq_done_of_returned isResult.symm⟩

/-- No schedule goes on where all programs have returned. -/
theorem Finished.stuck {pool : Pool Shared Result} (finished : pool.Finished)
    (after : Pool Shared Result) : ¬Schedules after pool := by
  rintro ⟨task, advanced⟩
  obtain ⟨access, effect, next, found, _, _⟩ := advance_eq_some advanced
  obtain ⟨result, isDone⟩ := finished _ (List.mem_of_getElem? found)
  cases isDone

/-- The tasks of a list take their sections one after the other. -/
theorem schedules_of_foldlM {tasks : List Nat} {pool after : Pool Shared Result}
    (ran : tasks.foldlM advance pool = some after) :
    Relation.ReflTransGen (Function.swap Schedules) pool after := by
  induction tasks generalizing pool with
  | nil =>
      cases ran
      exact .refl
  | cons task rest ih =>
      rw [List.foldlM_cons] at ran
      obtain ⟨next, advanced, ranRest⟩ := Option.bind_eq_some_iff.mp ran
      exact .head ⟨task, advanced⟩ (ih ranRest)

theorem Disciplined.schedules {pool after : Pool Shared Result}
    (disciplined : pool.Disciplined)
    (schedule : Relation.ReflTransGen (Function.swap Schedules) pool after) :
    after.Disciplined := by
  induction schedule with
  | refl => exact disciplined
  | tail _ next ih =>
      obtain ⟨task, advances⟩ := next
      exact ih.advance advances

end Pool

end Syncpond.Library.Programs
