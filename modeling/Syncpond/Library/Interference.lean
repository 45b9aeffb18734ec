import Syncpond.Library.Programs

/-!
# Programs under interference

Between the sections of a program, other programs change the shared state.
`Under rely guarantee post` says of a program in progress that, as long as the
others keep to `rely`, each of its sections keeps to `guarantee` and its
result and the state then satisfy `post`.

A program that looks at a part of the state only, and changes this part
depending on it only, behaves under interference that keeps the part as it
does alone: this is how a fact about `run` becomes one about `Under`.

A pool `Shelters` one of its programs if all the others keep to what that
program relies on.  The pool then shelters it until it returns.
-/

namespace Syncpond.Library.Programs.Program

universe u v

variable {Shared : Type u} {Result Other : Type v}

/-! ## Programs in progress -/

/-- What is left of a program, in a state, between the steps of others. -/
def Under (rely guarantee : Shared → Shared → Prop)
    (post : Result → Shared → Prop) : Program Shared Result → Shared → Prop
  | .done result, shared => ∀ seen, rely shared seen → post result seen
  | .step _ effect next, shared => ∀ seen, rely shared seen →
      guarantee seen (effect seen) ∧
        (next seen).Under rely guarantee post (effect seen)

section Under

variable {rely guarantee : Shared → Shared → Prop}
variable {post : Result → Shared → Prop} {program : Program Shared Result}
variable {shared : Shared}

theorem under_pure {result : Result}
    (holds : ∀ seen, rely shared seen → post result seen) :
    (pure result : Program Shared Result).Under rely guarantee post shared :=
  holds

theorem under_atomic {access : Access} {action : Shared → Result × Shared}
    (holds : ∀ seen, rely shared seen →
      guarantee seen (action seen).2 ∧
        ∀ later, rely (action seen).2 later → post (action seen).1 later) :
    (atomic access action).Under rely guarantee post shared :=
  holds

/-- The steps of others keep a program in progress as it is. -/
theorem Under.stable
    (trans : ∀ {first second third : Shared}, rely first second →
      rely second third → rely first third)
    (under : program.Under rely guarantee post shared) {seen : Shared}
    (relied : rely shared seen) :
    program.Under rely guarantee post seen := by
  cases program with
  | done result =>
      intro later further
      exact under later (trans relied further)
  | step access effect next =>
      intro later further
      exact under later (trans relied further)

theorem Under.bind (refl : ∀ shared, rely shared shared)
    {middle : Result → Shared → Prop} {after : Other → Shared → Prop}
    {rest : Result → Program Shared Other}
    (front : program.Under rely guarantee middle shared)
    (back : ∀ result state, middle result state →
      (rest result).Under rely guarantee after state) :
    (program.bind rest).Under rely guarantee after shared := by
  induction program generalizing shared with
  | done result => exact back result shared (front shared (refl shared))
  | step access effect next ih =>
      intro seen relied
      obtain ⟨kept, under⟩ := front seen relied
      exact ⟨kept, ih seen under⟩

end Under

/-! ## Programs that look at a part of the state -/

/-- Whatever the program does depends on a part of the state only. -/
def Respects (same : Shared → Shared → Prop) : Program Shared Result → Prop
  | .done _ => True
  | .step _ effect next => ∀ shared other, same shared other →
      same (effect shared) (effect other) ∧ next shared = next other ∧
        (next shared).Respects same

section Respects

variable {same : Shared → Shared → Prop}

theorem Respects.bind {program : Program Shared Result}
    {rest : Result → Program Shared Other}
    (front : program.Respects same)
    (back : ∀ result, (rest result).Respects same) :
    (program.bind rest).Respects same := by
  induction program with
  | done result => exact back result
  | step access effect next ih =>
      intro shared other alike
      obtain ⟨after, sameNext, respects⟩ := front shared other alike
      exact ⟨after, congrArg (fun program => Program.bind program rest)
        sameNext, ih shared respects⟩

theorem respects_atomic {access : Access}
    {action : Shared → Result × Shared}
    (alike : ∀ shared other, same shared other →
      (action shared).1 = (action other).1 ∧
        same (action shared).2 (action other).2) :
    (atomic access action).Respects same := by
  intro shared other isSame
  obtain ⟨result, after⟩ := alike shared other isSame
  exact ⟨after, congrArg Program.done result, trivial⟩

/-- Alone, the program returns the same from states with the same part. -/
theorem Respects.run {program : Program Shared Result}
    (respects : program.Respects same) {shared other : Shared}
    (alike : same shared other) :
    (program.run shared).1 = (program.run other).1 ∧
      same (program.run shared).2 (program.run other).2 := by
  induction program generalizing shared other with
  | done result => exact ⟨rfl, alike⟩
  | step access effect next ih =>
      obtain ⟨after, sameNext, rest⟩ := respects shared other alike
      have ends := ih shared rest after
      simpa only [Program.run, ← sameNext] using ends

/--
Under interference that keeps the part, the program ends as it does alone.
-/
theorem Respects.under {rely guarantee : Shared → Shared → Prop}
    {post : Result → Shared → Prop} {program : Program Shared Result}
    (respects : program.Respects same)
    (trans : ∀ {first second third : Shared}, same first second →
      same second third → same first third)
    (keeps : ∀ {shared seen}, rely shared seen → same shared seen)
    (every : program.Every fun _ effect => ∀ state,
      guarantee state (effect state))
    {shared : Shared}
    (ends : ∀ state, same (program.run shared).2 state →
      post (program.run shared).1 state) :
    program.Under rely guarantee post shared := by
  induction program generalizing shared with
  | done result => exact fun seen relied => ends seen (keeps relied)
  | step access effect next ih =>
      intro seen relied
      obtain ⟨after, sameNext, rest⟩ := respects shared seen (keeps relied)
      refine ⟨every.1 seen, ?_⟩
      rw [← sameNext]
      refine ih shared rest (every.2 shared) fun state further => ?_
      obtain ⟨result, ended⟩ := rest.run after
      rw [← result]
      exact ends state (trans ended further)

end Respects

/-- Every section that the program can come to keeps to a relation. -/
def KeepsTo (rely : Shared → Shared → Prop)
    (program : Program Shared Result) : Prop :=
  program.Every fun _ effect => ∀ shared, rely shared (effect shared)

end Syncpond.Library.Programs.Program

/-! ## Pools -/

namespace Syncpond.Library.Programs.Pool

universe u v

variable {Shared : Type u} {Result : Type v}

/-- One program is in progress, and the others keep to what it relies on. -/
structure Shelters (rely : Shared → Shared → Prop)
    (post : Result → Shared → Prop) (task : Nat)
    (pool : Pool Shared Result) : Prop where
  inProgress : ∃ program, pool.tasks[task]? = some program ∧
    program.Under rely (fun _ _ => True) post pool.shared
  others : ∀ (other : Nat) (program : Program Shared Result), other ≠ task →
    pool.tasks[other]? = some program → program.KeepsTo rely

section Shelters

variable {rely : Shared → Shared → Prop} {post : Result → Shared → Prop}
variable {pool : Pool Shared Result} {task : Nat}

/-- A program starts next to programs that keep to what it relies on. -/
theorem shelters_spawn (calm : ∀ program ∈ pool.tasks, program.KeepsTo rely)
    {program : Program Shared Result}
    (under : program.Under rely (fun _ _ => True) post pool.shared) :
    (pool.spawn program).Shelters rely post pool.tasks.length where
  inProgress := ⟨program, List.getElem?_concat_length, under⟩
  others other found different isTask := by
    rcases task_of_spawn isTask with before | ⟨isLast, _⟩
    · exact calm found (List.mem_of_getElem? before)
    · exact absurd isLast different

namespace Shelters

/-- Another program starts. -/
theorem spawn (shelters : pool.Shelters rely post task)
    {program : Program Shared Result} (keeps : program.KeepsTo rely) :
    (pool.spawn program).Shelters rely post task where
  inProgress := by
    obtain ⟨own, isTask, under⟩ := shelters.inProgress
    obtain ⟨bound, _⟩ := List.getElem?_eq_some_iff.mp isTask
    refine ⟨own, ?_, under⟩
    rw [Pool.spawn, List.getElem?_append_left bound]
    exact isTask
  others other found different isTask := by
    rcases task_of_spawn isTask with before | ⟨_, rfl⟩
    · exact shelters.others other found different before
    · exact keeps

/-- Something else than a program changes the shared state. -/
theorem withShared
    (trans : ∀ {first second third : Shared}, rely first second →
      rely second third → rely first third)
    (shelters : pool.Shelters rely post task) {shared : Shared}
    (relied : rely pool.shared shared) :
    Shelters rely post task { pool with shared := shared } where
  inProgress := by
    obtain ⟨own, isTask, under⟩ := shelters.inProgress
    exact ⟨own, isTask, Program.Under.stable @trans under relied⟩
  others := shelters.others

/-- A program of the pool executes a section. -/
theorem advance (refl : ∀ shared, rely shared shared)
    (trans : ∀ {first second third : Shared}, rely first second →
      rely second third → rely first third)
    (shelters : pool.Shelters rely post task) {other : Nat}
    {after : Pool Shared Result} (advanced : pool.advance other = some after) :
    after.Shelters rely post task := by
  obtain ⟨access, effect, next, found, _, rfl⟩ := advance_eq_some advanced
  obtain ⟨bound, _⟩ := List.getElem?_eq_some_iff.mp found
  obtain ⟨own, isTask, under⟩ := shelters.inProgress
  by_cases same : other = task
  · subst same
    rw [found] at isTask
    cases isTask
    obtain ⟨_, continues⟩ := under pool.shared (refl pool.shared)
    constructor
    · exact ⟨_, List.getElem?_set_self bound, continues⟩
    · intro foreign program different isProgram
      rcases task_of_set isProgram with ⟨_, before⟩ | ⟨isOwn, _⟩
      · exact shelters.others foreign program different before
      · exact absurd isOwn different
  · have keeps := shelters.others other _ same found
    constructor
    · refine ⟨own, ?_, Program.Under.stable @trans under
        (keeps.1 pool.shared)⟩
      rw [List.getElem?_set_ne same]
      exact isTask
    · intro foreign program different isProgram
      rcases task_of_set isProgram with ⟨_, before⟩ | ⟨rfl, rfl⟩
      · exact shelters.others foreign program different before
      · exact keeps.2 pool.shared

/-- What holds of a program that returned, and of the state it left. -/
theorem returned (refl : ∀ shared, rely shared shared)
    (shelters : pool.Shelters rely post task) {result : Result}
    (found : pool.tasks[task]? = some (.done result)) :
    post result pool.shared := by
  obtain ⟨own, isTask, under⟩ := shelters.inProgress
  rw [found] at isTask
  cases isTask
  exact under pool.shared (refl pool.shared)

end Shelters

end Shelters

end Syncpond.Library.Programs.Pool
