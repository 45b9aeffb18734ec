import Mathlib.Data.List.Basic
import Mathlib.Logic.Function.Basic

/-!
# Programs of atomic sections

A `Program` is a sequential program that works on a shared state in atomic
sections: each section transforms the shared state, and what the program does
next depends on the state that the section saw.  A section also says what it
does with the one lock of the shared state.

A program has two meanings.  `run` executes it alone, section after section.
A `Pool` holds any number of programs and advances them one section at a time
in any order, as far as the lock admits.
-/

namespace Syncpond.Library.Programs

universe u v w

/-- What a section does with the lock of the shared state. -/
inductive Access where
  /-- The section works without the lock, or under a lock kept before. -/
  | free
  /-- The section takes the lock and gives it back. -/
  | locked
  /-- The section takes the lock and keeps it. -/
  | acquire
  /-- The section gives the kept lock back. -/
  | release
deriving DecidableEq

/-- Whether a section can follow in a program that holds the lock or not. -/
def Access.allowed (held : Bool) : Access → Bool
  | .free => true
  | .locked => !held
  | .acquire => !held
  | .release => held

/-- Whether the program holds the lock after the section. -/
def Access.held (before : Bool) : Access → Bool
  | .free => before
  | .locked => before
  | .acquire => true
  | .release => false

/-- A program that works on a shared state in atomic sections. -/
inductive Program (Shared : Type u) (Result : Type v) where
  | done (result : Result)
  | step (access : Access) (effect : Shared → Shared)
      (next : Shared → Program Shared Result)

namespace Program

variable {Shared : Type u} {Result : Type v} {Other : Type w}

/-- Continue with the result of a program. -/
def bind (program : Program Shared Result)
    (rest : Result → Program Shared Other) : Program Shared Other :=
  match program with
  | .done result => rest result
  | .step access effect next =>
      .step access effect fun shared => (next shared).bind rest

instance : Monad (Program Shared) where
  pure := .done
  bind := .bind

theorem bind_done (program : Program Shared Result) :
    program.bind .done = program := by
  induction program with
  | done result => rfl
  | step access effect next ih =>
      exact congrArg (step access effect) (funext ih)

/-- Programs are composed in any grouping. -/
theorem bind_bind {Last : Type w} (program : Program Shared Result)
    (rest : Result → Program Shared Other)
    (last : Other → Program Shared Last) :
    (program.bind rest).bind last =
      program.bind fun result => (rest result).bind last := by
  induction program with
  | done result => rfl
  | step access effect next ih =>
      exact congrArg (step access effect) (funext ih)

instance : LawfulMonad (Program Shared) :=
  LawfulMonad.mk' (Program Shared) bind_done (fun _ _ => rfl) bind_bind

/-- One section that transforms the shared state and returns a result. -/
def atomic (access : Access) (action : Shared → Result × Shared) :
    Program Shared Result :=
  .step access (fun shared => (action shared).2)
    fun shared => .done (action shared).1

/-- One section that only reads the shared state. -/
def read (access : Access) (look : Shared → Result) :
    Program Shared Result :=
  atomic access fun shared => (look shared, shared)

/-- One section that only changes the shared state. -/
def modify (access : Access) (effect : Shared → Shared) :
    Program Shared Unit :=
  atomic access fun shared => ((), effect shared)

/-! ## Programs that run alone -/

/-- Execute a program alone. -/
def run (program : Program Shared Result) (shared : Shared) :
    Result × Shared :=
  match program with
  | .done result => (result, shared)
  | .step _ effect next => (next shared).run (effect shared)

@[simp]
theorem run_pure (result : Result) (shared : Shared) :
    (pure result : Program Shared Result).run shared = (result, shared) :=
  rfl

@[simp]
theorem run_atomic (access : Access)
    (action : Shared → Result × Shared) (shared : Shared) :
    (atomic access action).run shared = action shared :=
  rfl

@[simp]
theorem run_read (access : Access) (look : Shared → Result)
    (shared : Shared) :
    (read access look).run shared = (look shared, shared) :=
  rfl

@[simp]
theorem run_modify (access : Access) (effect : Shared → Shared)
    (shared : Shared) :
    (modify access effect).run shared = ((), effect shared) :=
  rfl

/-- A composed program, handled alone, runs its parts in order. -/
@[simp]
theorem run_bind {Result Other : Type v}
    (program : Program Shared Result)
    (rest : Result → Program Shared Other) (shared : Shared) :
    (program >>= rest).run shared =
      (rest (program.run shared).1).run (program.run shared).2 := by
  change (program.bind rest).run shared = _
  induction program generalizing shared with
  | done result => rfl
  | step access effect next ih => exact ih shared (effect shared)

@[simp]
theorem run_map {Result Other : Type v} (change : Result → Other)
    (program : Program Shared Result) (shared : Shared) :
    (change <$> program).run shared =
      (change (program.run shared).1, (program.run shared).2) :=
  run_bind program (fun result => pure (change result)) shared

/-! ## Programs on a part of the state -/

section Zoom

variable {Part : Type w} (view : Shared → Part) (put : Shared → Part → Shared)

/-- Run a program on a part of a larger state. -/
def zoom (program : Program Part Result) : Program Shared Result :=
  match program with
  | .done result => .done result
  | .step access effect next =>
      .step access (fun shared => put shared (effect (view shared)))
        fun shared => (next (view shared)).zoom

variable {view put}

/-- Alone, a zoomed program replaces the part by what the program leaves. -/
theorem run_zoom (valid : Shared → Prop)
    (put_view : ∀ shared, valid shared → put shared (view shared) = shared)
    (view_put : ∀ shared part, view (put shared part) = part)
    (put_put : ∀ shared part other,
      put (put shared part) other = put shared other)
    (valid_put : ∀ shared part, valid (put shared part))
    (program : Program Part Result) {shared : Shared}
    (lawful : valid shared) :
    (program.zoom view put).run shared =
      ((program.run (view shared)).1,
        put shared (program.run (view shared)).2) := by
  induction program generalizing shared with
  | done result => simp [zoom, run, put_view shared lawful]
  | step access effect next ih =>
      simp only [zoom, run]
      rw [ih _ (valid_put shared _), view_put, put_put]

end Zoom

/-! ## What all sections of a program do -/

/-- Every section that a program can come to has a property. -/
def Every (property : Access → (Shared → Shared) → Prop) :
    Program Shared Result → Prop
  | .done _ => True
  | .step access effect next =>
      property access effect ∧ ∀ shared, (next shared).Every property

section Every

variable {property : Access → (Shared → Shared) → Prop}

@[simp]
theorem every_pure (result : Result) :
    (pure result : Program Shared Result).Every property :=
  trivial

theorem every_atomic {access : Access} {action : Shared → Result × Shared}
    (holds : property access fun shared => (action shared).2) :
    (atomic access action).Every property :=
  ⟨holds, fun _ => trivial⟩

/-- The sections of a composed program are those of its parts. -/
theorem Every.bind {program : Program Shared Result}
    {rest : Result → Program Shared Other}
    (front : program.Every property)
    (back : ∀ result, (rest result).Every property) :
    (program.bind rest).Every property := by
  induction program with
  | done result => exact back result
  | step access effect next ih =>
      exact ⟨front.1, fun shared => ih shared (front.2 shared)⟩

/-- What every section has holds of every program. -/
theorem every_of_forall (holds : ∀ access effect, property access effect)
    (program : Program Shared Result) : program.Every property := by
  induction program with
  | done result => trivial
  | step access effect next ih => exact ⟨holds access effect, ih⟩

theorem Every.and {other : Access → (Shared → Shared) → Prop}
    {program : Program Shared Result} (first : program.Every property)
    (second : program.Every other) :
    program.Every fun access effect =>
      property access effect ∧ other access effect := by
  induction program with
  | done result => trivial
  | step access effect next ih =>
      exact ⟨⟨first.1, second.1⟩,
        fun shared => ih shared (first.2 shared) (second.2 shared)⟩

/-- A part of the state that every section keeps is kept by the program. -/
theorem Every.run {Part : Type w} {part : Shared → Part}
    {program : Program Shared Result}
    (keeps : program.Every fun _ effect =>
      ∀ shared, part (effect shared) = part shared) (shared : Shared) :
    part (program.run shared).2 = part shared := by
  induction program generalizing shared with
  | done result => rfl
  | step access effect next ih =>
      exact (ih shared (keeps.2 shared) _).trans (keeps.1 shared)

/-- A weaker property holds of every section, too. -/
theorem Every.mono {weaker : Access → (Shared → Shared) → Prop}
    {program : Program Shared Result}
    (implies : ∀ access effect, property access effect →
      weaker access effect)
    (every : program.Every property) : program.Every weaker := by
  induction program with
  | done result => trivial
  | step access effect next ih =>
      exact ⟨implies _ _ every.1, fun shared => ih shared (every.2 shared)⟩

/-- The sections on a part of the state, seen on all of it. -/
theorem Every.zoom {Part : Type w} {view : Shared → Part}
    {put : Shared → Part → Shared}
    {onPart : Access → (Part → Part) → Prop}
    {program : Program Part Result}
    (lifts : ∀ access effect, onPart access effect →
      property access fun shared => put shared (effect (view shared)))
    (every : program.Every onPart) :
    (program.zoom view put).Every property := by
  induction program with
  | done result => trivial
  | step access effect next ih =>
      exact ⟨lifts _ _ every.1,
        fun shared => ih (view shared) (every.2 (view shared))⟩

end Every

/-! ## What a program returns -/

/-- Whatever states it sees, the program returns a result with a property. -/
def Ends (property : Result → Prop) : Program Shared Result → Prop
  | .done result => property result
  | .step _ _ next => ∀ shared, (next shared).Ends property

/-- Handled alone, the program returns such a result. -/
theorem Ends.run {property : Result → Prop} {program : Program Shared Result}
    (ends : program.Ends property) (shared : Shared) :
    property (program.run shared).1 := by
  induction program generalizing shared with
  | done result => exact ends
  | step access effect next ih => exact ih shared (ends shared) (effect shared)

/-- A composed program ends as its last part does. -/
theorem Ends.bind {property : Other → Prop}
    {rest : Result → Program Shared Other}
    (ends : ∀ result, (rest result).Ends property)
    (program : Program Shared Result) :
    (program.bind rest).Ends property := by
  induction program with
  | done result => exact ends result
  | step access effect next ih => exact ih

/-- What a program returns matters to what comes after it. -/
theorem Ends.andThen {property : Result → Prop} {expected : Other → Prop}
    {program : Program Shared Result} {rest : Result → Program Shared Other}
    (ends : program.Ends property)
    (next : ∀ result, property result → (rest result).Ends expected) :
    (program.bind rest).Ends expected := by
  induction program with
  | done result => exact next result ends
  | step access effect continued ih => exact fun shared => ih shared (ends shared)

theorem Ends.map {Result Other : Type v} {property : Result → Prop}
    {expected : Other → Prop} {program : Program Shared Result}
    {change : Result → Other} (ends : program.Ends property)
    (changes : ∀ result, property result → expected (change result)) :
    (change <$> program).Ends expected :=
  Ends.andThen ends changes

/-- A program on a part of the state ends in the same way on all of it. -/
theorem Ends.zoom {Part : Type w} {view : Shared → Part}
    {put : Shared → Part → Shared} {property : Result → Prop}
    {program : Program Part Result} (ends : program.Ends property) :
    (program.zoom view put).Ends property := by
  induction program with
  | done result => exact ends
  | step access effect next ih =>
      exact fun shared => ih (view shared) (ends (view shared))

/-! ## The use of the lock -/

/-- The program keeps the lock as told before its sections and after them. -/
def Locks : Bool → Bool → Program Shared Result → Prop
  | before, after, .done _ => before = after
  | before, after, .step access _ next =>
      access.allowed before = true ∧
        ∀ shared, (next shared).Locks (access.held before) after

section Locks

variable {before after : Bool}

theorem locks_pure (result : Result) :
    (pure result : Program Shared Result).Locks before before :=
  rfl

theorem locks_atomic {access : Access}
    {action : Shared → Result × Shared}
    (allowed : access.allowed before = true)
    (held : access.held before = after) :
    (atomic access action).Locks before after :=
  ⟨allowed, fun _ => held⟩

/-- A composed program takes the lock on from its first part. -/
theorem Locks.bind {middle : Bool} {program : Program Shared Result}
    {rest : Result → Program Shared Other}
    (front : program.Locks before middle)
    (back : ∀ result, (rest result).Locks middle after) :
    (program.bind rest).Locks before after := by
  induction program generalizing before with
  | done result =>
      cases front
      exact back result
  | step access effect next ih =>
      exact ⟨front.1, fun shared => ih shared (front.2 shared)⟩

/-- A program without lock operations runs with and without the lock. -/
theorem Every.locks {program : Program Shared Result}
    (free : program.Every fun access _ => access = .free) :
    program.Locks before before := by
  induction program with
  | done result => rfl
  | step access effect next ih =>
      obtain ⟨rfl, rest⟩ := free
      exact ⟨rfl, fun shared => ih shared (rest shared)⟩

end Locks

end Program

/-! ## Pools of programs -/

/-- Programs that run concurrently on one shared state. -/
structure Pool (Shared : Type u) (Result : Type v) where
  shared : Shared
  /-- The programs, finished ones included, in the order of their start. -/
  tasks : List (Program Shared Result)
  /-- The program that keeps the lock. -/
  holder : Option Nat

/-- What happens to a pool, one event at a time. -/
inductive PoolEvent (Shared : Type u) (Result : Type v) where
  /-- Start a program. -/
  | spawn (program : Program Shared Result)
  /-- Advance a program by one section. -/
  | advance (task : Nat)

namespace Pool

variable {Shared : Type u} {Result : Type v}

/-- Whether the lock lets a task execute a section. -/
def admits (holder : Option Nat) (task : Nat) : Access → Bool
  | .free => true
  | .locked => holder.isNone
  | .acquire => holder.isNone
  | .release => holder = some task

/-- The holder of the lock after a section. -/
def holderAfter (holder : Option Nat) (task : Nat) : Access → Option Nat
  | .free => holder
  | .locked => holder
  | .acquire => some task
  | .release => none

/-- The pool after a program started. -/
def spawn (pool : Pool Shared Result) (program : Program Shared Result) :
    Pool Shared Result :=
  { pool with tasks := pool.tasks ++ [program] }

/-- The pool after a program executed one section, if it can. -/
def advance (pool : Pool Shared Result) (task : Nat) :
    Option (Pool Shared Result) :=
  match pool.tasks[task]? with
  | some (.step access effect next) =>
      if admits pool.holder task access then
        some {
          shared := effect pool.shared
          tasks := pool.tasks.set task (next pool.shared)
          holder := holderAfter pool.holder task access }
      else none
  | _ => none

/-- The pool after an event, if it can happen. -/
def step (pool : Pool Shared Result) :
    PoolEvent Shared Result → Option (Pool Shared Result)
  | .spawn program => some (pool.spawn program)
  | .advance task => pool.advance task

/-- What an advance does. -/
theorem advance_eq_some {pool after : Pool Shared Result} {task : Nat}
    (advanced : pool.advance task = some after) :
    ∃ access effect next,
      pool.tasks[task]? = some (.step access effect next) ∧
      admits pool.holder task access = true ∧
      after = {
        shared := effect pool.shared
        tasks := pool.tasks.set task (next pool.shared)
        holder := holderAfter pool.holder task access } := by
  unfold advance at advanced
  split at advanced
  · next access effect next found =>
    split at advanced
    · next admitted =>
      exact ⟨access, effect, next, found, admitted,
        (Option.some.inj advanced).symm⟩
    · cases advanced
  · cases advanced

/-- The programs of a pool in which one more starts. -/
theorem task_of_spawn {pool : Pool Shared Result}
    {program other : Program Shared Result} {task : Nat}
    (found : (pool.spawn program).tasks[task]? = some other) :
    pool.tasks[task]? = some other ∨
      (task = pool.tasks.length ∧ other = program) := by
  rcases Nat.lt_or_ge task pool.tasks.length with inside | outside
  · rw [spawn, List.getElem?_append_left inside] at found
    exact Or.inl found
  · obtain ⟨bound, _⟩ := List.getElem?_eq_some_iff.mp found
    simp only [spawn, List.length_append, List.length_singleton] at bound
    have isLast : task = pool.tasks.length := by omega
    subst isLast
    simp only [spawn, List.getElem?_concat_length, Option.some.injEq] at found
    exact Or.inr ⟨rfl, found.symm⟩

/-- The programs of a pool in which one executes a section. -/
theorem task_of_set {pool : Pool Shared Result}
    {program other : Program Shared Result} {task index : Nat}
    (found : (pool.tasks.set index program)[task]? = some other) :
    (task ≠ index ∧ pool.tasks[task]? = some other) ∨
      (task = index ∧ other = program) := by
  by_cases same : index = task
  · subst same
    obtain ⟨bound, _⟩ := List.getElem?_eq_some_iff.mp found
    rw [List.length_set] at bound
    rw [List.getElem?_set_self bound] at found
    exact Or.inr ⟨rfl, (Option.some.inj found).symm⟩
  · rw [List.getElem?_set_ne same] at found
    exact Or.inl ⟨Ne.symm same, found⟩

/-! ### Properties of all programs of a pool -/

/-- A pool whose programs have a property of all sections advances by it. -/
theorem every_advance
    {property : Access → (Shared → Shared) → Prop}
    {pool after : Pool Shared Result} {task : Nat}
    (every : ∀ program ∈ pool.tasks, program.Every property)
    (advanced : pool.advance task = some after) :
    (∃ access effect, property access effect ∧
      after.shared = effect pool.shared) ∧
      ∀ program ∈ after.tasks, program.Every property := by
  obtain ⟨access, effect, next, found, _, rfl⟩ := advance_eq_some advanced
  have current := every _ (List.mem_of_getElem? found)
  refine ⟨⟨access, effect, current.1, rfl⟩, ?_⟩
  intro program member
  rcases List.mem_or_eq_of_mem_set member with before | rfl
  · exact every program before
  · exact current.2 pool.shared

/-- The programs use the lock in turn, and its holder is one of them. -/
structure Disciplined (pool : Pool Shared Result) : Prop where
  locks : ∀ (task : Nat) (program : Program Shared Result),
    pool.tasks[task]? = some program →
    program.Locks (decide (pool.holder = some task)) false
  holder : ∀ task, pool.holder = some task → task < pool.tasks.length

namespace Disciplined

variable {pool : Pool Shared Result}

theorem start (shared : Shared) :
    (⟨shared, [], none⟩ : Pool Shared Result).Disciplined where
  locks task program found := by simp at found
  holder task held := by cases held

/-- The shared state does not matter. -/
theorem withShared (disciplined : pool.Disciplined) (shared : Shared) :
    Disciplined { pool with shared := shared } where
  locks := disciplined.locks
  holder := disciplined.holder

theorem spawn (disciplined : pool.Disciplined)
    {program : Program Shared Result} (locks : program.Locks false false) :
    (pool.spawn program).Disciplined where
  locks task other found := by
    rcases Nat.lt_or_ge task pool.tasks.length with inside | outside
    · rw [Pool.spawn, List.getElem?_append_left inside] at found
      exact disciplined.locks task other found
    · rw [Pool.spawn, List.getElem?_append_right outside] at found
      rw [List.mem_singleton.mp (List.mem_of_getElem? found)]
      have notHolder : pool.holder ≠ some task := by
        intro held
        exact absurd (disciplined.holder task held) (Nat.not_lt.mpr outside)
      rw [Pool.spawn, decide_eq_false notHolder]
      exact locks
  holder task held := by
    rw [Pool.spawn, List.length_append]
    exact Nat.lt_add_right _ (disciplined.holder task held)

/-- The lock passes on as the section of the program tells. -/
theorem held_after {task : Nat} {access : Access}
    (admitted : admits pool.holder task access = true) (other : Nat) :
    decide (holderAfter pool.holder task access = some other) =
      if task = other then
        access.held (decide (pool.holder = some other))
      else decide (pool.holder = some other) := by
  cases access with
  | free => exact (ite_self _).symm
  | locked => exact (ite_self _).symm
  | acquire =>
      have isFree : pool.holder = none := by simpa [admits] using admitted
      simp [holderAfter, Access.held, isFree]
  | release =>
      have isHeld : pool.holder = some task := by simpa [admits] using admitted
      by_cases same : task = other <;>
        simp [holderAfter, Access.held, isHeld, same]

/-- A section that the lock admits keeps the pool disciplined. -/
theorem advance (disciplined : pool.Disciplined) {task : Nat}
    {after : Pool Shared Result} (advanced : pool.advance task = some after) :
    after.Disciplined := by
  obtain ⟨access, effect, next, found, admitted, rfl⟩ :=
    advance_eq_some advanced
  obtain ⟨bound, _⟩ := List.getElem?_eq_some_iff.mp found
  constructor
  · intro other program isProgram
    rw [held_after admitted]
    by_cases same : task = other
    · subst same
      rw [List.getElem?_set_self bound] at isProgram
      cases isProgram
      rw [if_pos rfl]
      exact (disciplined.locks task _ found).2 pool.shared
    · rw [List.getElem?_set_ne same] at isProgram
      rw [if_neg same]
      exact disciplined.locks other program isProgram
  · intro other held
    rw [List.length_set]
    have isHeld := decide_eq_true held
    rw [held_after admitted] at isHeld
    split at isHeld
    · next same => exact same ▸ bound
    · exact disciplined.holder other (of_decide_eq_true isHeld)

/-- The holder of the lock can execute its next section. -/
theorem holder_advances (disciplined : pool.Disciplined) {task : Nat}
    (held : pool.holder = some task) : ∃ after, pool.advance task = some after := by
  have bound := disciplined.holder task held
  have found := List.getElem?_eq_getElem bound
  have locks := disciplined.locks task _ found
  rw [decide_eq_true held] at locks
  cases program : pool.tasks[task] with
  | done result =>
      rw [program] at locks
      cases locks
  | step access effect next =>
      rw [program] at found locks
      have admitted : admits pool.holder task access = true := by
        have allowed := locks.1
        cases access <;> simp_all [admits, Access.allowed]
      exact ⟨_, by simp only [Pool.advance, found, admitted, if_true]; rfl⟩

end Disciplined

end Pool

end Syncpond.Library.Programs
