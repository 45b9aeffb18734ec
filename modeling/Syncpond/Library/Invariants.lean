import Syncpond.Library.Programs

/-!
# Invariants of programs

A program keeps an invariant of the shared state if each of its sections does,
from whatever states that satisfy the invariant the program sees.  Between the
sections of a program other programs run, so a pool of programs that all keep
an invariant maintains it, however they take turns.

`Keeps` also says what the program returns: a result may carry what a section
saw of the shared state, and with it what the invariant says about that.
-/

namespace Syncpond.Library.Programs

universe u v w

variable {Shared : Type u} {Result : Type v} {Other : Type w}

namespace Program

/-- Every section keeps the invariant, and the result has a property. -/
def Keeps (invariant : Shared → Prop) (post : Result → Prop) :
    Program Shared Result → Prop
  | .done result => post result
  | .step _ effect next => ∀ shared, invariant shared →
      invariant (effect shared) ∧ (next shared).Keeps invariant post

section Keeps

variable {invariant : Shared → Prop} {post : Result → Prop}
variable {program : Program Shared Result}

theorem keeps_pure {result : Result} (holds : post result) :
    (pure result : Program Shared Result).Keeps invariant post :=
  holds

/-- A single section keeps the invariant. -/
theorem keeps_atomic {access : Access} {action : Shared → Result × Shared}
    (holds : ∀ shared, invariant shared →
      invariant (action shared).2 ∧ post (action shared).1) :
    (atomic access action).Keeps invariant post :=
  holds

theorem keeps_read {access : Access} {look : Shared → Result}
    (holds : ∀ shared, invariant shared → post (look shared)) :
    (read access look).Keeps invariant post :=
  fun shared kept => ⟨kept, holds shared kept⟩

theorem keeps_modify {access : Access} {effect : Shared → Shared}
    {post : Unit → Prop} (done : post ())
    (holds : ∀ shared, invariant shared → invariant (effect shared)) :
    (modify access effect).Keeps invariant post :=
  fun shared kept => ⟨holds shared kept, done⟩

/-- A composed program keeps the invariant if its parts do. -/
theorem Keeps.bind {after : Other → Prop}
    {rest : Result → Program Shared Other}
    (front : program.Keeps invariant post)
    (back : ∀ result, post result → (rest result).Keeps invariant after) :
    (program.bind rest).Keeps invariant after := by
  induction program with
  | done result => exact back result front
  | step access effect next ih =>
      intro shared kept
      obtain ⟨keeps, continues⟩ := front shared kept
      exact ⟨keeps, ih shared continues⟩

theorem Keeps.mono {weaker : Result → Prop}
    (keeps : program.Keeps invariant post)
    (implies : ∀ result, post result → weaker result) :
    program.Keeps invariant weaker := by
  induction program with
  | done result => exact implies result keeps
  | step access effect next ih =>
      intro shared kept
      obtain ⟨after, continues⟩ := keeps shared kept
      exact ⟨after, ih shared continues⟩

theorem Keeps.map {Result Other : Type v} {post : Result → Prop}
    {program : Program Shared Result} {change : Result → Other}
    {after : Other → Prop} (keeps : program.Keeps invariant post)
    (changes : ∀ result, post result → after (change result)) :
    (change <$> program).Keeps invariant after :=
  Keeps.bind keeps changes

/-- A program keeps what each of its sections keeps from every state. -/
theorem Every.keeps
    (every : program.Every fun _ effect => ∀ shared,
      invariant shared → invariant (effect shared)) :
    program.Keeps invariant fun _ => True := by
  induction program with
  | done result => trivial
  | step access effect next ih =>
      exact fun shared kept => ⟨every.1 shared kept, ih shared (every.2 shared)⟩

/-- What a program keeps of a part is kept of the state around the part. -/
theorem Keeps.zoom {Part : Type w} {view : Shared → Part}
    {put : Shared → Part → Shared} {onPart : Part → Prop}
    {program : Program Part Result}
    (keeps : program.Keeps onPart post)
    (part : ∀ shared, invariant shared → onPart (view shared))
    (around : ∀ shared part, invariant shared → onPart part →
      invariant (put shared part)) :
    (program.zoom view put).Keeps invariant post := by
  induction program with
  | done result => exact keeps
  | step access effect next ih =>
      intro shared kept
      obtain ⟨after, continues⟩ := keeps (view shared) (part shared kept)
      exact ⟨around shared _ kept after, ih (view shared) continues⟩

end Keeps

end Program

/-! ## Pools -/

namespace Pool

/-- The programs of the pool keep the invariant, and each its own promise. -/
structure Maintains (invariant : Shared → Prop) (post : Nat → Result → Prop)
    (pool : Pool Shared Result) : Prop where
  shared : invariant pool.shared
  tasks : ∀ (task : Nat) (program : Program Shared Result),
    pool.tasks[task]? = some program → program.Keeps invariant (post task)

namespace Maintains

variable {invariant : Shared → Prop} {post : Nat → Result → Prop}
variable {pool : Pool Shared Result}

theorem start {shared : Shared} (holds : invariant shared) :
    Maintains invariant post ⟨shared, [], none⟩ where
  shared := holds
  tasks task program found := by simp at found

/-- Something else than a program changes the shared state. -/
theorem withShared (maintains : pool.Maintains invariant post)
    {shared : Shared} (holds : invariant shared) :
    Maintains invariant post { pool with shared := shared } where
  shared := holds
  tasks := maintains.tasks

/-- A program that keeps the invariant can start. -/
theorem spawn (maintains : pool.Maintains invariant post)
    {program : Program Shared Result} {after : Nat → Result → Prop}
    (keeps : program.Keeps invariant (after pool.tasks.length))
    (same : ∀ task, task < pool.tasks.length → after task = post task) :
    (pool.spawn program).Maintains invariant after where
  shared := maintains.shared
  tasks task other found := by
    rcases task_of_spawn found with before | ⟨rfl, rfl⟩
    · obtain ⟨inside, _⟩ := List.getElem?_eq_some_iff.mp before
      rw [same task inside]
      exact maintains.tasks task other before
    · exact keeps

/-- Every section of the pool keeps the invariant. -/
theorem advance (maintains : pool.Maintains invariant post) {task : Nat}
    {after : Pool Shared Result} (advanced : pool.advance task = some after) :
    after.Maintains invariant post := by
  obtain ⟨access, effect, next, found, _, rfl⟩ := advance_eq_some advanced
  obtain ⟨kept, continues⟩ :=
    maintains.tasks task _ found pool.shared maintains.shared
  refine ⟨kept, ?_⟩
  intro other program isProgram
  rcases task_of_set isProgram with ⟨_, before⟩ | ⟨rfl, rfl⟩
  · exact maintains.tasks other program before
  · exact continues

/-- A program that returned kept its promise. -/
theorem returned (maintains : pool.Maintains invariant post) {task : Nat}
    {result : Result} (found : pool.tasks[task]? = some (.done result)) :
    post task result :=
  maintains.tasks task _ found

end Maintains

end Pool

-- Programs are used through the rules above, not by unfolding them.
attribute [irreducible] Program.Keeps

end Syncpond.Library.Programs
