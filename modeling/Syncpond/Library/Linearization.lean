import Mathlib.Data.List.Nodup
import Syncpond.Library.Programs
import Syncpond.Library.Runs

/-!
# Linearization

The calls of an object are programs on a shared state, of which a part, the
memory, is what calls are about.  Calls that run concurrently are linearizable
if their results and the memory are those of calls handled one at a time, in an
order in which a call that returned before another one arrived comes first.

A call takes effect in one section that works without the lock or takes it for
itself, or in the section that gives a kept lock back.  `Waiting`, `Critical`
and `Settled` are what is left of a call before that section, under the lock
that it will give back, and after it.  What is left of a waiting call may rely
on what it has seen of the memory, as far as the others let it.
-/

namespace Syncpond.Library.Linearization

open Syncpond.Library.Programs
open Syncpond.Library.Runs

universe u v w

/-- An object, with what its calls may do when they are handled one at a time. -/
structure Object (Shared : Type u) (Call : Type v) (Result : Type v)
    (Memory : Type w) where
  program : Call → Program Shared Result
  view : Shared → Memory
  /-- Handled alone, the call can return the result and leave this memory. -/
  allows : Call → Memory → Result → Memory → Prop
  /-- The changes of the memory that a call in progress puts up with. -/
  relies : Call → Memory → Memory → Prop

variable {Shared : Type u} {Call Result : Type v} {Memory : Type w}

namespace Object

variable (object : Object Shared Call Result Memory)

/-! ## Calls in progress -/

/-- What is left of a call that took effect: it will return the result. -/
def Settled (result : Result) : Program Shared Result → Prop
  | .done returned => returned = result
  | .step access effect next =>
      (access = .free ∨ access = .locked) ∧
        ∀ shared, object.view (effect shared) = object.view shared ∧
          Settled result (next shared)

/-- What is left of a call that took the lock, before and after it did. -/
def Critical (call : Call) (before now : Memory) :
    Program Shared Result → Prop
  | .done _ => False
  | .step .free effect next => ∀ shared, object.view shared = now →
      object.view (effect shared) = now ∧
        Critical call before now (next shared)
  | .step .release effect next => ∀ shared, object.view shared = now →
      ∃ result,
        object.allows call before result (object.view (effect shared)) ∧
        object.Settled result (next shared)
  | .step .locked _ _ => False
  | .step .acquire _ _ => False

/-- What is left of a call that took no effect, and saw the memory before. -/
def Waiting (call : Call) : Program Shared Result → Memory → Prop
  | .done _, _ => False
  | .step .free effect next, seen => ∀ shared,
      object.view (effect shared) = object.view shared ∧
        (Waiting call (next shared) seen ∨
          ∃ result, (∀ memory, object.allows call memory result memory) ∧
            object.Settled result (next shared))
  | .step .locked effect next, seen => ∀ shared,
      object.relies call seen (object.view shared) →
        (object.view (effect shared) = object.view shared ∧
          Waiting call (next shared) (object.view shared)) ∨
        ∃ result,
          object.allows call (object.view shared) result
            (object.view (effect shared)) ∧
          object.Settled result (next shared)
  | .step .acquire effect next, seen => ∀ shared,
      object.relies call seen (object.view shared) →
        object.Critical call (object.view shared)
          (object.view (effect shared)) (next shared)
  | .step .release _ _, _ => False

/-- What is left of a call that took no effect, or has none on any memory. -/
def Unsettled (call : Call) (program : Program Shared Result)
    (seen : Memory) : Prop :=
  object.Waiting call program seen ∨
    ∃ result, (∀ memory, object.allows call memory result memory) ∧
      object.Settled result program

/-- A section that leaves the memory alone. -/
def Quiet (effect : Shared → Shared) : Prop :=
  ∀ shared, object.view (effect shared) = object.view shared

variable {object} {call : Call} {Other : Type v}

theorem settled_of_every {result : Result} {program : Program Shared Result}
    (quiet : program.Every fun access effect =>
      (access = .free ∨ access = .locked) ∧ object.Quiet effect)
    (ends : program.Ends (· = result)) : object.Settled result program := by
  induction program with
  | done returned => exact ends
  | step access effect next ih =>
      obtain ⟨⟨keepsLock, same⟩, rest⟩ := quiet
      exact ⟨keepsLock, fun shared =>
        ⟨same shared, ih shared (rest shared) (ends shared)⟩⟩

theorem critical_bind {before now : Memory} {program : Program Shared Other}
    {rest : Other → Program Shared Result}
    (quiet : program.Every fun access effect =>
      access = .free ∧ object.Quiet effect)
    (back : ∀ result, object.Critical call before now (rest result)) :
    object.Critical call before now (program.bind rest) := by
  induction program with
  | done result => exact back result
  | step access effect next ih =>
      obtain ⟨⟨rfl, same⟩, every⟩ := quiet
      exact fun shared isNow =>
        ⟨(same shared).trans isNow, ih shared (every shared)⟩

theorem unsettled_bind {seen : Memory} {program : Program Shared Other}
    {rest : Other → Program Shared Result}
    (quiet : program.Every fun access effect =>
      access = .free ∧ object.Quiet effect)
    (back : ∀ result, object.Unsettled call (rest result) seen) :
    object.Unsettled call (program.bind rest) seen := by
  induction program with
  | done result => exact back result
  | step access effect next ih =>
      obtain ⟨⟨rfl, same⟩, every⟩ := quiet
      exact Or.inl fun shared => ⟨same shared, ih shared (every shared)⟩

variable (object)

/-- Every call takes effect once, if the others let it. -/
structure Lawful : Prop where
  refl : ∀ call memory, object.relies call memory memory
  trans : ∀ call {first second third}, object.relies call first second →
    object.relies call second third → object.relies call first third
  waiting : ∀ call seen, object.Waiting call (object.program call) seen

variable {object}

/-! ### Calls handled alone -/

theorem Settled.run_eq {result : Result} {program : Program Shared Result}
    (settled : object.Settled result program) (shared : Shared) :
    (program.run shared).1 = result ∧
      object.view (program.run shared).2 = object.view shared := by
  induction program generalizing shared with
  | done returned => exact ⟨settled, rfl⟩
  | step access effect next ih =>
      obtain ⟨same, rest⟩ := settled.2 shared
      obtain ⟨returns, view⟩ := ih shared rest (effect shared)
      exact ⟨returns, view.trans same⟩

/-- A settled call returns what it was allowed to. -/
theorem Settled.run_allows {result : Result} {program : Program Shared Result}
    (settled : object.Settled result program) {before : Memory}
    {shared : Shared}
    (allowed : object.allows call before result (object.view shared)) :
    object.allows call before (program.run shared).1
      (object.view (program.run shared).2) := by
  obtain ⟨returns, view⟩ := settled.run_eq shared
  rw [returns, view]
  exact allowed

theorem Critical.run_allows {before now : Memory}
    {program : Program Shared Result}
    (critical : object.Critical call before now program) {shared : Shared}
    (isNow : object.view shared = now) :
    object.allows call before (program.run shared).1
      (object.view (program.run shared).2) := by
  induction program generalizing shared with
  | done result => exact critical.elim
  | step access effect next ih =>
      cases access with
      | free =>
          obtain ⟨same, rest⟩ := critical shared isNow
          exact ih shared rest same
      | release =>
          obtain ⟨result, allowed, settled⟩ := critical shared isNow
          exact settled.run_allows allowed
      | locked => exact critical.elim
      | acquire => exact critical.elim

/-- Handled alone, a waiting call does what it may do to the memory. -/
theorem Waiting.run_allows (refl : ∀ memory, object.relies call memory memory)
    {program : Program Shared Result} {seen : Memory}
    (waiting : object.Waiting call program seen) {shared : Shared}
    (relies : object.relies call seen (object.view shared)) :
    object.allows call (object.view shared) (program.run shared).1
      (object.view (program.run shared).2) := by
  induction program generalizing shared seen with
  | done result => exact waiting.elim
  | step access effect next ih =>
      cases access with
      | free =>
          obtain ⟨same, rest | ⟨result, idle, settled⟩⟩ := waiting shared
          · rw [← same] at relies ⊢
            exact ih shared rest relies
          · apply settled.run_allows
            rw [same]
            exact idle _
      | locked =>
          rcases waiting shared relies with
            ⟨same, rest⟩ | ⟨result, allowed, settled⟩
          · rw [← same] at rest ⊢
            exact ih shared rest (refl _)
          · exact settled.run_allows allowed
      | acquire => exact (waiting shared relies).run_allows rfl
      | release => exact waiting.elim

/-- Handled alone, a call does what it may do to the memory. -/
theorem Lawful.run_allows (lawful : object.Lawful) (call : Call)
    (shared : Shared) :
    object.allows call (object.view shared)
      ((object.program call).run shared).1
      (object.view ((object.program call).run shared).2) :=
  (lawful.waiting call (object.view shared)).run_allows (lawful.refl call)
    (lawful.refl call _)

/-! ## Histories -/

end Object

/-- Calls in progress on an object, with their arrivals. -/
structure History (Shared : Type u) (Call Result : Type v) where
  pool : Pool Shared Result
  /-- The calls, in the order of their arrival. -/
  calls : List Call
  /-- For each call, the ones that had returned when it arrived. -/
  earlier : List (List Nat)

/-- What happens on an object, one event at a time. -/
inductive HistoryEvent (Shared : Type u) (Call : Type v) where
  | arrive (call : Call)
  | advance (task : Nat)
  /-- Something else than a call leaves this state. -/
  | disturb (shared : Shared)

/-- Whether a program has returned. -/
def hasReturned : Option (Program Shared Result) → Bool
  | some (.done _) => true
  | _ => false

namespace History

def start (shared : Shared) : History Shared Call Result :=
  ⟨⟨shared, [], none⟩, [], []⟩

/-- The calls that have returned. -/
def returned (history : History Shared Call Result) : List Nat :=
  (List.range history.pool.tasks.length).filter fun task =>
    hasReturned history.pool.tasks[task]?

/-- The history after an event, if the event can happen. -/
def step (program : Call → Program Shared Result)
    (history : History Shared Call Result) :
    HistoryEvent Shared Call → Option (History Shared Call Result)
  | .arrive call =>
      some {
        pool := history.pool.spawn (program call)
        calls := history.calls ++ [call]
        earlier := history.earlier ++ [history.returned] }
  | .advance task =>
      (history.pool.advance task).map fun pool => { history with pool := pool }
  | .disturb shared =>
      some { history with pool := { history.pool with shared := shared } }

/-- A call that has executed a section and not returned. -/
def Begun (program : Call → Program Shared Result)
    (history : History Shared Call Result) (task : Nat) (call : Call) :
    Prop :=
  history.calls[task]? = some call ∧
    ∃ left, history.pool.tasks[task]? = some left ∧ left ≠ program call ∧
      ∀ result, left ≠ .done result

theorem mem_returned {history : History Shared Call Result} {task : Nat} :
    task ∈ history.returned ↔
      ∃ result, history.pool.tasks[task]? = some (.done result) := by
  simp only [returned, List.mem_filter, List.mem_range]
  constructor
  · rintro ⟨_, isReturned⟩
    unfold hasReturned at isReturned
    split at isReturned
    · next result found => exact ⟨result, found⟩
    · cases isReturned
  · rintro ⟨result, found⟩
    exact ⟨(List.getElem?_eq_some_iff.mp found).1, by simp [hasReturned, found]⟩

/-! ### What all calls do -/

section Calls

variable {program : Call → Program Shared Result}
variable {history after : History Shared Call Result}
variable {event : HistoryEvent Shared Call}

/-- Calls that use the lock in turn do so together. -/
theorem disciplined_step
    (locks : ∀ call, (program call).Locks false false)
    (stepped : history.step program event = some after)
    (disciplined : history.pool.Disciplined) : after.pool.Disciplined := by
  cases event with
  | arrive call =>
      cases stepped
      exact disciplined.spawn (locks call)
  | advance task =>
      obtain ⟨pool, advances, rfl⟩ := Option.map_eq_some_iff.mp stepped
      exact disciplined.advance advances
  | disturb shared =>
      cases stepped
      exact disciplined.withShared shared

/-- Every call in progress will return a result with its property. -/
structure Promises (property : Call → Result → Prop) (calls : List Call)
    (tasks : List (Program Shared Result)) : Prop where
  length : calls.length = tasks.length
  ends : ∀ (task : Nat) (call : Call) (left : Program Shared Result),
    calls[task]? = some call → tasks[task]? = some left →
      left.Ends (property call)

variable {property : Call → Result → Prop}

theorem Promises.advance {calls : List Call} {pool next : Pool Shared Result}
    (promises : Promises property calls pool.tasks) {task : Nat}
    (advances : pool.advance task = some next) :
    Promises property calls next.tasks := by
  obtain ⟨access, effect, rest, found, _, rfl⟩ :=
    Pool.advance_eq_some advances
  constructor
  · rw [List.length_set]
    exact promises.length
  · intro other call left isCall isLeft
    by_cases same : task = other
    · subst same
      rw [List.getElem?_set_self (List.getElem?_eq_some_iff.mp found).1]
        at isLeft
      cases isLeft
      exact promises.ends task call _ isCall found pool.shared
    · rw [List.getElem?_set_ne same] at isLeft
      exact promises.ends other call left isCall isLeft

theorem promises_step
    (ends : ∀ call, (program call).Ends (property call))
    (stepped : history.step program event = some after)
    (promises : Promises property history.calls history.pool.tasks) :
    Promises property after.calls after.pool.tasks := by
  cases event with
  | arrive call =>
      cases stepped
      constructor
      · simp [Pool.spawn, promises.length]
      · intro task other left isCall isLeft
        rcases Nat.lt_or_ge task history.pool.tasks.length with inside | outside
        · rw [List.getElem?_append_left (promises.length ▸ inside)] at isCall
          rw [Pool.spawn, List.getElem?_append_left inside] at isLeft
          exact promises.ends task other left isCall isLeft
        · rw [List.getElem?_append_right (promises.length ▸ outside)] at isCall
          rw [Pool.spawn, List.getElem?_append_right outside] at isLeft
          rw [List.mem_singleton.mp (List.mem_of_getElem? isCall),
            List.mem_singleton.mp (List.mem_of_getElem? isLeft)]
          exact ends call
  | advance task =>
      obtain ⟨pool, advances, rfl⟩ := Option.map_eq_some_iff.mp stepped
      exact promises.advance advances
  | disturb shared =>
      cases stepped
      exact promises

end Calls

end History

/-- A call that took effect, with the result that it returns. -/
structure Entry (Call Result : Type v) where
  task : Nat
  call : Call
  result : Result

namespace Object

variable (object : Object Shared Call Result Memory)

/--
Only calls change the memory, and they let every other call that has begun
rely on what it saw.
-/
def Considerate (history : History Shared Call Result) :
    HistoryEvent Shared Call → Prop
  | .arrive _ => True
  | .advance task => ∀ after, history.pool.advance task = some after →
      ∀ other call, other ≠ task → history.Begun object.program other call →
        object.relies call (object.view history.pool.shared)
          (object.view after.shared)
  | .disturb shared =>
      object.view shared = object.view history.pool.shared

/-- Calls handled one at a time, from one memory to another. -/
inductive Sequential (start : Memory) :
    List (Entry Call Result) → Memory → Prop
  | nil : Sequential start [] start
  | snoc {log : List (Entry Call Result)} {memory after : Memory}
      {entry : Entry Call Result} (front : Sequential start log memory)
      (allowed : object.allows entry.call memory entry.result after) :
      Sequential start (log ++ [entry]) after

namespace Sequential

variable {object} {start memory : Memory}

/-- What the last of the calls did. -/
theorem last {log : List (Entry Call Result)} {entry : Entry Call Result}
    (sequential : object.Sequential start (log ++ [entry]) memory) :
    ∃ before, object.Sequential start log before ∧
      object.allows entry.call before entry.result memory := by
  generalize isLog : log ++ [entry] = all at sequential
  cases sequential with
  | nil => simp at isLog
  | snoc front allowed =>
      obtain ⟨rfl, same⟩ := List.append_inj' isLog rfl
      cases same
      exact ⟨_, front, allowed⟩

/-- The first calls, and the others after them. -/
theorem split {front back : List (Entry Call Result)}
    (sequential : object.Sequential start (front ++ back) memory) :
    ∃ middle, object.Sequential start front middle ∧
      object.Sequential middle back memory := by
  induction back using List.reverseRecOn generalizing memory with
  | nil =>
      rw [List.append_nil] at sequential
      exact ⟨memory, sequential, .nil⟩
  | append_singleton back entry ih =>
      rw [← List.append_assoc] at sequential
      obtain ⟨before, sequential, allowed⟩ := sequential.last
      obtain ⟨middle, isFront, isBack⟩ := ih sequential
      exact ⟨middle, isFront, .snoc isBack allowed⟩

theorem eq_of_nil (sequential : object.Sequential start [] memory) :
    memory = start := by
  generalize isLog : ([] : List (Entry Call Result)) = log at sequential
  cases sequential with
  | nil => rfl
  | snoc front allowed => simp at isLog

/-- What the first of the calls did. -/
theorem first {entry : Entry Call Result} {rest : List (Entry Call Result)}
    (sequential : object.Sequential start (entry :: rest) memory) :
    ∃ after, object.allows entry.call start entry.result after ∧
      object.Sequential after rest memory := by
  rw [← List.singleton_append] at sequential
  obtain ⟨after, one, others⟩ := sequential.split
  rw [← List.nil_append [entry]] at one
  obtain ⟨before, nothing, allowed⟩ := one.last
  cases nothing.eq_of_nil
  exact ⟨after, allowed, others⟩

end Sequential

/-- The calls of a history in the order in which they took effect. -/
structure Linearizes (history : History Shared Call Result) (start : Memory)
    (log : List (Entry Call Result)) (memory : Memory) : Prop where
  once : (log.map Entry.task).Nodup
  arrived : ∀ entry ∈ log, history.calls[entry.task]? = some entry.call
  /-- A call that returned took effect, with the result that it returned. -/
  results : ∀ (task : Nat) (result : Result),
    history.pool.tasks[task]? = some (.done result) →
    ∃ entry ∈ log, entry.task = task ∧ entry.result = result
  /-- A call that returned before another one arrived took effect before. -/
  inOrder : ∀ (task other : Nat) (before : List Nat),
    history.earlier[task]? = some before → other ∈ before →
    task ∈ log.map Entry.task →
    [other, task].Sublist (log.map Entry.task)
  sequential : object.Sequential start log memory
  /-- The memory is that of the order, unless a call keeps the lock. -/
  idle : history.pool.holder = none →
    object.view history.pool.shared = memory

/-- In a list without duplicates, two elements stand in one order. -/
theorem not_sublist_of_sublist {list : List Nat} (once : list.Nodup)
    {first second : Nat} (before : [first, second].Sublist list) :
    ¬[second, first].Sublist list := by
  induction list with
  | nil => cases before
  | cons head rest ih =>
      obtain ⟨notRest, once⟩ := List.nodup_cons.mp once
      intro after
      rw [List.sublist_cons_iff] at before after
      rcases before with before | ⟨tail, same, before⟩ <;>
        rcases after with after | ⟨other, alike, after⟩
      · exact ih once before after
      · cases alike
        exact notRest (before.subset (by simp))
      · cases same
        exact notRest (after.subset (by simp))
      · cases same
        cases alike
        exact notRest (before.subset (by simp))

/--
What takes effect between two calls had not returned when the first one
arrived, and arrived before the second one returned.
-/
theorem Linearizes.between {object : Object Shared Call Result Memory}
    {history : History Shared Call Result} {start memory : Memory}
    {log : List (Entry Call Result)}
    (linearizes : object.Linearizes history start log memory)
    {first second : Nat} {before : List Nat}
    (arrived : history.earlier[second]? = some before)
    (returned : first ∈ before) (took : second ∈ log.map Entry.task) :
    ∃ front back middle, ∃ one two : Entry Call Result,
      log = front ++ one :: (middle ++ two :: back) ∧
      one.task = first ∧ two.task = second ∧
      ∀ entry ∈ middle,
        (∀ known, history.earlier[first]? = some known →
          entry.task ∉ known) ∧
        ∀ known, history.earlier[entry.task]? = some known →
          second ∉ known := by
  have ordered := linearizes.inOrder second first before arrived returned took
  have once := linearizes.once
  obtain ⟨head, tail, isLog, inHead, inTail⟩ :=
    List.cons_sublist_iff.mp ordered
  obtain ⟨_, _, rfl⟩ := List.append_of_mem inHead
  obtain ⟨_, _, rfl⟩ := List.append_of_mem (List.singleton_sublist.mp inTail)
  rw [List.append_assoc, List.cons_append, ← List.append_assoc] at isLog
  obtain ⟨front, rest, rfl, _, isRest⟩ := List.map_eq_append_iff.mp isLog
  obtain ⟨one, rest, rfl, isOne, isRest⟩ := List.map_eq_cons_iff.mp isRest
  obtain ⟨middle, rest, rfl, _, isRest⟩ := List.map_eq_append_iff.mp isRest
  obtain ⟨two, back, rfl, isTwo, _⟩ := List.map_eq_cons_iff.mp isRest
  refine ⟨front, back, middle, one, two, rfl, isOne, isTwo, ?_⟩
  intro entry member
  have inMiddle := List.mem_map_of_mem (f := Entry.task) member
  have fromFirst : [first, entry.task].Sublist
      ((front ++ one :: (middle ++ two :: back)).map Entry.task) := by
    rw [List.map_append, List.map_cons, List.map_append, isOne]
    exact List.sublist_append_of_sublist_right ((List.singleton_sublist.mpr
      (List.mem_append_left _ inMiddle)).cons_cons first)
  have toSecond : [entry.task, second].Sublist
      ((front ++ one :: (middle ++ two :: back)).map Entry.task) := by
    rw [List.map_append, List.map_cons, List.map_append, List.map_cons, isTwo]
    exact List.sublist_append_of_sublist_right
      (((List.singleton_sublist.mpr inMiddle).append
        (List.singleton_sublist.mpr List.mem_cons_self)).cons _)
  constructor
  · intro known isKnown hadReturned
    exact not_sublist_of_sublist once fromFirst
      (linearizes.inOrder first entry.task known isKnown hadReturned
        (fromFirst.subset List.mem_cons_self))
  · intro known isKnown hadReturned
    exact not_sublist_of_sublist once toSecond
      (linearizes.inOrder entry.task second known isKnown hadReturned
        (toSecond.subset List.mem_cons_self))

/-- A call takes effect once. -/
theorem Linearizes.entry_unique {object : Object Shared Call Result Memory}
    {history : History Shared Call Result} {start memory : Memory}
    {log : List (Entry Call Result)}
    (linearizes : object.Linearizes history start log memory)
    {entry other : Entry Call Result} (member : entry ∈ log)
    (isOther : other ∈ log) (same : entry.task = other.task) :
    entry = other :=
  List.inj_on_of_nodup_map linearizes.once member isOther same

/-! ## What is left of the calls -/

/-- How far a call is, given the order of the calls that took effect. -/
inductive Status (log : List (Entry Call Result)) (memory now : Memory)
    (holder : Option Nat) (task : Nat) (call : Call)
    (left : Program Shared Result) : Prop
  | settled (entry : Entry Call Result) (member : entry ∈ log)
      (isTask : entry.task = task)
      (settled : object.Settled entry.result left)
      (free : holder ≠ some task)
  | critical (absent : task ∉ log.map Entry.task)
      (holds : holder = some task)
      (critical : object.Critical call memory now left)
  | waiting (absent : task ∉ log.map Entry.task)
      (free : holder ≠ some task)
      (waiting : left = object.program call ∨
        ∃ seen, object.relies call seen now ∧ object.Waiting call left seen)

/-- The order of the calls that took effect, and how far every call is. -/
structure Tracked (start : Memory) (history : History Shared Call Result)
    (log : List (Entry Call Result)) (memory : Memory) : Prop where
  once : (log.map Entry.task).Nodup
  arrived : ∀ entry ∈ log, history.calls[entry.task]? = some entry.call
  known : ∀ (task : Nat) (before : List Nat),
    history.earlier[task]? = some before →
    ∀ other ∈ before, other ∈ log.map Entry.task
  inOrder : ∀ (task other : Nat) (before : List Nat),
    history.earlier[task]? = some before → other ∈ before →
    task ∈ log.map Entry.task →
    [other, task].Sublist (log.map Entry.task)
  sequential : object.Sequential start log memory
  idle : history.pool.holder = none →
    object.view history.pool.shared = memory
  calls : history.calls.length = history.pool.tasks.length
  earlier : history.earlier.length = history.pool.tasks.length
  holder : ∀ task, history.pool.holder = some task →
    task < history.pool.tasks.length
  status : ∀ (task : Nat) (call : Call) (left : Program Shared Result),
    history.calls[task]? = some call →
    history.pool.tasks[task]? = some left →
    object.Status log memory (object.view history.pool.shared)
      history.pool.holder task call left

variable {object}

/-- A call is as far as before, when another one executed a section. -/
theorem Status.other (lawful : object.Lawful)
    {log added : List (Entry Call Result)}
    {memory after now later : Memory} {holder next : Option Nat}
    {other : Nat} {call : Call} {left : Program Shared Result}
    (status : object.Status log memory now holder other call left)
    (isAdded : ∀ entry ∈ added, entry.task ≠ other)
    (sameHolder : next = some other ↔ holder = some other)
    (undisturbed : holder = some other → after = memory ∧ later = now)
    (considerate : left ≠ object.program call →
      (∀ result, left ≠ .done result) → object.relies call now later) :
    object.Status (log ++ added) after later next other call left := by
  have absent (before : other ∉ log.map Entry.task) :
      other ∉ (log ++ added).map Entry.task := by
    rw [List.map_append, List.mem_append]
    rintro (member | member)
    · exact before member
    · obtain ⟨entry, isEntry, same⟩ := List.mem_map.mp member
      exact isAdded entry isEntry same
  cases status with
  | settled entry member isTask settled free =>
      exact .settled entry (List.mem_append_left _ member) isTask settled
        (fun holds => free (sameHolder.mp holds))
  | critical before holds critical =>
      obtain ⟨rfl, rfl⟩ := undisturbed holds
      exact .critical (absent before) (sameHolder.mpr holds) critical
  | waiting before free waiting =>
      refine .waiting (absent before) (fun holds => free (sameHolder.mp holds))
        ?_
      by_cases isNew : left = object.program call
      · exact Or.inl isNew
      · obtain ⟨seen, relied, waits⟩ := waiting.resolve_left isNew
        have notDone : ∀ result, left ≠ .done result := by
          rintro result rfl
          exact waits
        exact Or.inr ⟨seen,
          lawful.trans call relied (considerate isNew notDone), waits⟩

namespace Tracked

variable {start memory : Memory} {history : History Shared Call Result}
variable {log : List (Entry Call Result)}

/-- A call that returned took effect, with the result that it returned. -/
theorem result (lawful : object.Lawful)
    (tracked : object.Tracked start history log memory) {task : Nat}
    {result : Result}
    (found : history.pool.tasks[task]? = some (.done result)) :
    ∃ entry ∈ log, entry.task = task ∧ entry.result = result := by
  have bound := (List.getElem?_eq_some_iff.mp found).1
  obtain ⟨call, isCall⟩ : ∃ call, history.calls[task]? = some call :=
    ⟨_, List.getElem?_eq_getElem (tracked.calls ▸ bound)⟩
  cases tracked.status task call _ isCall found with
  | settled entry member isTask settled free =>
      exact ⟨entry, member, isTask, settled.symm⟩
  | critical absent holds critical => exact critical.elim
  | waiting absent free waiting =>
      rcases waiting with isNew | ⟨seen, _, waits⟩
      · have waits := lawful.waiting call (object.view history.pool.shared)
        rw [← isNew] at waits
        exact waits.elim
      · exact waits.elim

theorem linearizes (lawful : object.Lawful)
    (tracked : object.Tracked start history log memory) :
    object.Linearizes history start log memory where
  once := tracked.once
  arrived := tracked.arrived
  results _ _ found := tracked.result lawful found
  inOrder := tracked.inOrder
  sequential := tracked.sequential
  idle := tracked.idle

/-- Nothing has happened. -/
theorem begin (object : Object Shared Call Result Memory) (shared : Shared) :
    object.Tracked (object.view shared) (.start shared) [] (object.view shared)
    where
  once := List.nodup_nil
  arrived entry member := by cases member
  known task before found := by simp [History.start] at found
  inOrder task other before found := by simp [History.start] at found
  sequential := .nil
  idle _ := rfl
  calls := rfl
  earlier := rfl
  holder task holds := by cases holds
  status task call left isCall := by simp [History.start] at isCall

/-- A call arrives. -/
theorem arrive (lawful : object.Lawful)
    (tracked : object.Tracked start history log memory) (call : Call) :
    object.Tracked start
      { pool := history.pool.spawn (object.program call)
        calls := history.calls ++ [call]
        earlier := history.earlier ++ [history.returned] } log memory := by
  have bound {entry : Entry Call Result} (member : entry ∈ log) :
      entry.task < history.calls.length :=
    (List.getElem?_eq_some_iff.mp (tracked.arrived entry member)).1
  have notNew : history.calls.length ∉ log.map Entry.task := by
    intro member
    obtain ⟨entry, isEntry, same⟩ := List.mem_map.mp member
    exact absurd (bound isEntry) (same ▸ Nat.lt_irrefl _)
  refine { tracked with
    arrived := ?_, known := ?_, inOrder := ?_, calls := ?_, earlier := ?_
    holder := ?_, status := ?_ }
  · intro entry member
    rw [List.getElem?_append_left (bound member)]
    exact tracked.arrived entry member
  · intro task before found other member
    rcases Nat.lt_or_ge task history.earlier.length with inside | outside
    · rw [List.getElem?_append_left inside] at found
      exact tracked.known task before found other member
    · rw [List.getElem?_append_right outside] at found
      rw [List.mem_singleton.mp (List.mem_of_getElem? found)] at member
      obtain ⟨result, returned⟩ := History.mem_returned.mp member
      obtain ⟨entry, isEntry, isOther, _⟩ := tracked.result lawful returned
      exact List.mem_map.mpr ⟨entry, isEntry, isOther⟩
  · intro task other before found member inLog
    obtain ⟨entry, isEntry, isTask⟩ := List.mem_map.mp inLog
    have inside : task < history.earlier.length := by
      rw [tracked.earlier, ← tracked.calls, ← isTask]
      exact bound isEntry
    rw [List.getElem?_append_left inside] at found
    exact tracked.inOrder task other before found member inLog
  · simp [Pool.spawn, tracked.calls]
  · simp [Pool.spawn, tracked.earlier]
  · intro task holds
    rw [Pool.spawn, List.length_append]
    exact Nat.lt_add_right _ (tracked.holder task holds)
  · intro task other left isCall found
    rcases Nat.lt_or_ge task history.pool.tasks.length with inside | outside
    · rw [List.getElem?_append_left (tracked.calls ▸ inside)] at isCall
      rw [Pool.spawn, List.getElem?_append_left inside] at found
      exact tracked.status task other left isCall found
    · have isLast : task = history.pool.tasks.length := by
        have last := (List.getElem?_eq_some_iff.mp isCall).1
        rw [List.length_append, List.length_singleton, tracked.calls] at last
        omega
      subst isLast
      rw [← tracked.calls, List.getElem?_concat_length] at isCall
      rw [Pool.spawn, List.getElem?_concat_length] at found
      cases isCall
      cases found
      refine .waiting (tracked.calls ▸ notNew) ?_ (Or.inl rfl)
      intro holds
      exact absurd (tracked.holder _ holds) (Nat.lt_irrefl _)

/-- The lock passes to no other task. -/
theorem holderAfter_eq_some {holder : Option Nat} {task other : Nat}
    {access : Access} (admitted : Pool.admits holder task access = true)
    (different : other ≠ task) :
    Pool.holderAfter holder task access = some other ↔
      holder = some other := by
  cases access with
  | free => exact Iff.rfl
  | locked => exact Iff.rfl
  | acquire =>
      have isFree : holder = none := by simpa [Pool.admits] using admitted
      simp [Pool.holderAfter, isFree, Ne.symm different]
  | release =>
      have isHeld : holder = some task := by simpa [Pool.admits] using admitted
      simp [Pool.holderAfter, isHeld, Ne.symm different]

/-- A call executed a section, and took effect in it where `added` says so. -/
theorem advanced (lawful : object.Lawful)
    (tracked : object.Tracked start history log memory)
    {task : Nat} {after : Pool Shared Result}
    (advances : history.pool.advance task = some after)
    (considerate : object.Considerate history (.advance task))
    {call : Call} (isCall : history.calls[task]? = some call)
    {left : Program Shared Result} (isLeft : after.tasks[task]? = some left)
    {added : List (Entry Call Result)} {reached : Memory}
    (own : ∀ entry ∈ added, entry.task = task ∧ entry.call = call)
    (once : ((log ++ added).map Entry.task).Nodup)
    (sequential : object.Sequential start (log ++ added) reached)
    (idle : after.holder = none → object.view after.shared = reached)
    (status : object.Status (log ++ added) reached (object.view after.shared)
      after.holder task call left)
    (undisturbed : ∀ other, other ≠ task → history.pool.holder = some other →
      reached = memory ∧
        object.view after.shared = object.view history.pool.shared) :
    object.Tracked start { history with pool := after } (log ++ added)
      reached := by
  have considered := considerate after advances
  obtain ⟨access, effect, next, found, admitted, rfl⟩ :=
    Pool.advance_eq_some advances
  constructor
  · exact once
  · intro entry member
    rcases List.mem_append.mp member with isOld | isNew
    · exact tracked.arrived entry isOld
    · rw [(own entry isNew).1, (own entry isNew).2]
      exact isCall
  · intro arrival before isArrival other member
    rw [List.map_append]
    exact List.mem_append_left _
      (tracked.known arrival before isArrival other member)
  · intro arrival other before isArrival member inLog
    rw [List.map_append] at inLog ⊢
    rcases List.mem_append.mp inLog with isOld | isNew
    · exact (tracked.inOrder arrival other before isArrival member
        isOld).trans (List.sublist_append_left _ _)
    · have known := tracked.known arrival before isArrival other member
      exact (List.singleton_sublist.mpr known).append
        (List.singleton_sublist.mpr isNew)
  · exact sequential
  · exact idle
  · rw [List.length_set]
    exact tracked.calls
  · rw [List.length_set]
    exact tracked.earlier
  · intro other holds
    rw [List.length_set]
    by_cases same : other = task
    · exact same ▸ (List.getElem?_eq_some_iff.mp found).1
    · exact tracked.holder other
        ((holderAfter_eq_some admitted same).mp holds)
  · intro other otherCall program isOtherCall isProgram
    by_cases same : other = task
    · subst same
      rw [isCall] at isOtherCall
      rw [isLeft] at isProgram
      cases isOtherCall
      cases isProgram
      exact status
    · rw [List.getElem?_set_ne (Ne.symm same)] at isProgram
      have isAdded : ∀ entry ∈ added, entry.task ≠ other := by
        intro entry member isOther
        exact same (isOther.symm.trans (own entry member).1)
      exact (tracked.status other otherCall program isOtherCall
        isProgram).other lawful isAdded (holderAfter_eq_some admitted same)
        (undisturbed other same)
        (fun begun notDone => considered other otherCall same
          ⟨isOtherCall, program, isProgram, begun, notDone⟩)

/-- A call executes a section without effect on the order. -/
theorem keep (lawful : object.Lawful)
    (tracked : object.Tracked start history log memory)
    {task : Nat} {after : Pool Shared Result}
    (advances : history.pool.advance task = some after)
    (considerate : object.Considerate history (.advance task))
    {call : Call} (isCall : history.calls[task]? = some call)
    {left : Program Shared Result} (isLeft : after.tasks[task]? = some left)
    (idle : after.holder = none → object.view after.shared = memory)
    (status : object.Status log memory (object.view after.shared)
      after.holder task call left)
    (undisturbed : ∀ other, other ≠ task → history.pool.holder = some other →
      object.view after.shared = object.view history.pool.shared) :
    object.Tracked start { history with pool := after } log memory := by
  have same : log ++ [] = log := List.append_nil log
  have kept : object.Tracked start { history with pool := after } (log ++ [])
      memory :=
    tracked.advanced lawful advances considerate isCall isLeft (by simp)
      (same.symm ▸ tracked.once) (same.symm ▸ tracked.sequential) idle
      (same.symm ▸ status)
      (fun other different holds => ⟨rfl, undisturbed other different holds⟩)
  exact same ▸ kept

/-- A call takes effect in the section that it executes. -/
theorem takeEffect (lawful : object.Lawful)
    (tracked : object.Tracked start history log memory)
    {task : Nat} {after : Pool Shared Result}
    (advances : history.pool.advance task = some after)
    (considerate : object.Considerate history (.advance task))
    {call : Call} (isCall : history.calls[task]? = some call)
    {left : Program Shared Result} (isLeft : after.tasks[task]? = some left)
    (absent : task ∉ log.map Entry.task)
    {result : Result} {reached : Memory}
    (allowed : object.allows call memory result reached)
    (settled : object.Settled result left)
    (free : after.holder ≠ some task)
    (idle : after.holder = none → object.view after.shared = reached)
    (undisturbed : ∀ other, other ≠ task → history.pool.holder = some other →
      reached = memory ∧
        object.view after.shared = object.view history.pool.shared) :
    object.Tracked start { history with pool := after }
      (log ++ [⟨task, call, result⟩]) reached := by
  have own : ∀ entry ∈ [Entry.mk task call result],
      entry.task = task ∧ entry.call = call := by
    intro entry member
    rw [List.mem_singleton.mp member]
    exact ⟨rfl, rfl⟩
  have once : ((log ++ [Entry.mk task call result]).map
      Entry.task).Nodup := by
    rw [List.map_append]
    exact tracked.once.append (List.nodup_singleton _)
      (List.disjoint_singleton.mpr absent)
  exact tracked.advanced lawful advances considerate isCall isLeft own once
    (tracked.sequential.snoc allowed) idle
    (.settled ⟨task, call, result⟩ (by simp) rfl settled free) undisturbed

/-- A call executes a section. -/
theorem advance (lawful : object.Lawful)
    (tracked : object.Tracked start history log memory)
    {task : Nat} {after : Pool Shared Result}
    (advances : history.pool.advance task = some after)
    (considerate : object.Considerate history (.advance task)) :
    ∃ added reached, object.Tracked start { history with pool := after }
      (log ++ added) reached := by
  obtain ⟨access, effect, next, found, admitted, isAfter⟩ :=
    Pool.advance_eq_some advances
  have bound := (List.getElem?_eq_some_iff.mp found).1
  obtain ⟨call, isCall⟩ : ∃ call, history.calls[task]? = some call :=
    ⟨_, List.getElem?_eq_getElem (tracked.calls ▸ bound)⟩
  have isLeft : after.tasks[task]? = some (next history.pool.shared) := by
    rw [isAfter]
    exact List.getElem?_set_self bound
  have keeps := tracked.keep lawful advances considerate isCall isLeft
  have withoutLog (kept : object.Tracked start
      { history with pool := after } log memory) :
      ∃ added reached, object.Tracked start { history with pool := after }
        (log ++ added) reached :=
    ⟨[], memory, (List.append_nil log).symm ▸ kept⟩
  have none_of_holder (isFree : history.pool.holder = none) (other : Nat)
      (holds : history.pool.holder = some other) : False := by
    rw [isFree] at holds
    cases holds
  subst isAfter
  cases tracked.status task call _ isCall found with
  | settled entry member isTask settled free =>
      obtain ⟨keepsLock, rest⟩ := settled
      obtain ⟨sameView, settled⟩ := rest history.pool.shared
      have sameHolder : Pool.holderAfter history.pool.holder task access =
          history.pool.holder := by
        rcases keepsLock with rfl | rfl <;> rfl
      apply withoutLog
      apply keeps
      · intro idle
        exact sameView.trans (tracked.idle (sameHolder ▸ idle))
      · exact .settled entry member isTask settled (sameHolder.symm ▸ free)
      · exact fun _ _ _ => sameView
  | critical absent holds critical =>
      have alone (other : Nat) (different : other ≠ task)
          (isHolder : history.pool.holder = some other) : False := by
        rw [holds] at isHolder
        exact different (Option.some.inj isHolder).symm
      cases access with
      | free =>
          obtain ⟨sameView, critical⟩ := critical history.pool.shared rfl
          apply withoutLog
          apply keeps
          · intro idle
            exact absurd (holds.symm.trans idle) (by simp)
          · exact .critical absent holds (sameView.symm ▸ critical)
          · exact fun _ _ _ => sameView
      | release =>
          obtain ⟨result, allowed, settled⟩ :=
            critical history.pool.shared rfl
          exact ⟨_, _, tracked.takeEffect lawful advances considerate isCall
            isLeft absent allowed settled (by simp [Pool.holderAfter])
            (fun _ => rfl)
            (fun other different isHolder =>
              (alone other different isHolder).elim)⟩
      | locked => exact critical.elim
      | acquire => exact critical.elim
  | waiting absent free waiting =>
      obtain ⟨seen, relied, waits⟩ : ∃ seen,
          object.relies call seen (object.view history.pool.shared) ∧
            object.Waiting call (.step access effect next) seen := by
        rcases waiting with isNew | waits
        · exact ⟨_, lawful.refl call _, isNew ▸ lawful.waiting call _⟩
        · exact waits
      cases access with
      | free =>
          obtain ⟨sameView, waits | ⟨result, allowed, settled⟩⟩ :=
            waits history.pool.shared
          · apply withoutLog
            apply keeps
            · exact fun idle => sameView.trans (tracked.idle idle)
            · exact .waiting absent free
                (Or.inr ⟨seen, sameView.symm ▸ relied, waits⟩)
            · exact fun _ _ _ => sameView
          · exact ⟨_, _, tracked.takeEffect lawful advances considerate isCall
              isLeft absent (allowed memory) settled free
              (fun idle => sameView.trans (tracked.idle idle))
              (fun _ _ _ => ⟨rfl, sameView⟩)⟩
      | locked =>
          have isFree : history.pool.holder = none := by
            simpa [Pool.admits] using admitted
          have isMemory := tracked.idle isFree
          rcases waits history.pool.shared relied with
            ⟨sameView, waits⟩ | ⟨result, allowed, settled⟩
          · apply withoutLog
            apply keeps
            · exact fun _ => sameView.trans isMemory
            · exact .waiting absent free (Or.inr ⟨_,
                sameView.symm ▸ lawful.refl call _, waits⟩)
            · exact fun _ _ _ => sameView
          · exact ⟨_, _, tracked.takeEffect lawful advances considerate isCall
              isLeft absent (isMemory ▸ allowed) settled free (fun _ => rfl)
              (fun other _ holds => (none_of_holder isFree other holds).elim)⟩
      | acquire =>
          have isFree : history.pool.holder = none := by
            simpa [Pool.admits] using admitted
          have critical := waits history.pool.shared relied
          rw [tracked.idle isFree] at critical
          apply withoutLog
          apply keeps
          · exact fun idle => absurd idle (by simp [Pool.holderAfter])
          · exact .critical absent rfl critical
          · exact fun other _ holds => (none_of_holder isFree other holds).elim
      | release => exact waits.elim

/-- Nothing happens to the memory. -/
theorem disturb (tracked : object.Tracked start history log memory)
    {shared : Shared}
    (same : object.view shared = object.view history.pool.shared) :
    object.Tracked start
      { history with pool := { history.pool with shared := shared } } log
      memory where
  once := tracked.once
  arrived := tracked.arrived
  known := tracked.known
  inOrder := tracked.inOrder
  sequential := tracked.sequential
  idle free := same.trans (tracked.idle free)
  calls := tracked.calls
  earlier := tracked.earlier
  holder := tracked.holder
  status task call left isCall found :=
    same ▸ tracked.status task call left isCall found

/-- What happens to the object, happens to the order. -/
theorem step (lawful : object.Lawful)
    (tracked : object.Tracked start history log memory)
    {event : HistoryEvent Shared Call} {after : History Shared Call Result}
    (considerate : object.Considerate history event)
    (stepped : history.step object.program event = some after) :
    ∃ added reached, object.Tracked start after (log ++ added) reached := by
  cases event with
  | arrive call =>
      cases stepped
      exact ⟨[], memory,
        (List.append_nil log).symm ▸ tracked.arrive lawful call⟩
  | advance task =>
      obtain ⟨pool, advances, rfl⟩ := Option.map_eq_some_iff.mp stepped
      exact tracked.advance lawful advances considerate
  | disturb shared =>
      cases stepped
      exact ⟨[], memory,
        (List.append_nil log).symm ▸ tracked.disturb considerate⟩

end Tracked

/-- What happens on an object, as far as the calls rely on each other. -/
theorem linearizable {object : Object Shared Call Result Memory}
    (lawful : object.Lawful) {shared : Shared}
    {history : History Shared Call Result}
    (follows : Follows (History.step object.program) object.Considerate
      (.start shared) history) :
    ∃ log memory,
      object.Linearizes history (object.view shared) log memory := by
  have tracked : ∃ log memory,
      object.Tracked (object.view shared) history log memory := by
    refine follows.invariant
      (fun history => ∃ log memory,
        object.Tracked (object.view shared) history log memory) ?_
      ⟨[], _, Tracked.begin object shared⟩
    rintro before event after ⟨log, memory, tracked⟩ considerate stepped
    obtain ⟨added, reached, tracked⟩ := tracked.step lawful considerate stepped
    exact ⟨_, _, tracked⟩
  obtain ⟨log, memory, tracked⟩ := tracked
  exact ⟨log, memory, tracked.linearizes lawful⟩

end Object

end Syncpond.Library.Linearization
