import Syncpond.Consistency

/-!
# Concurrent writes

A `WriteFragment` in progress is a `WriteTask`: its arguments, the section it
executes next, and the version that its value was given.  `Writers` is any
number of them on one room, together with the receiver of the notification
channel.

The tasks are the programs of the kernel: a task advances exactly as its
program does in a pool.
-/

namespace Syncpond.WriteTasks

open Syncpond.Protocol
open Syncpond.Serde
open Syncpond.State
open Syncpond.Persistence
open Syncpond.Kernel
open Syncpond.KernelStore
open Syncpond.StateRuns
open Syncpond.Consistency
open Syncpond.Library.Maps
open Syncpond.Library.Programs
open Syncpond.Library.Runs
open Syncpond.Library.Text

variable {Value : Type} [SerdeJson Value]

/-! ## Tasks -/

/-- The next section of a `WriteFragment` in progress. -/
inductive WriteStage where
  /-- Check under the lock that the room is loaded. -/
  | check
  /-- `set_fragment` under the lock. -/
  | commit
  | openDb
  | find
  | persist
  /-- `room_version` under the lock. -/
  | readVersion
  | announce (roomCounter : UInt64)
  | finished
  | rejected
deriving DecidableEq

namespace WriteStage

/-- The write has not committed. -/
def uncommitted : WriteStage → Bool
  | .check => true
  | .commit => true
  | .rejected => true
  | _ => false

/-- The write has committed and has not read the version to announce. -/
def awaitsVersion : WriteStage → Bool
  | .openDb => true
  | .find => true
  | .persist => true
  | .readVersion => true
  | _ => false

/-- The write has committed and is still to be announced. -/
def toAnnounce : WriteStage → Bool
  | .announce _ => true
  | stage => stage.awaitsVersion

end WriteStage

/-- A value that a write stored, and the version it was given. -/
structure Commit (Value : Type) where
  bucketId : BucketId
  key : String
  value : Value
  version : UInt64

/-- The commits are to the same fragment. -/
def Commit.SameKey (commit other : Commit Value) : Prop :=
  commit.bucketId = other.bucketId ∧ commit.key = other.key

/-- A `WriteFragment` in progress. -/
structure WriteTask where
  bucketId : BucketId
  key : String
  data : FragmentData
  stage : WriteStage
  /-- The version that `set_fragment` gave to the value. -/
  assigned : Option UInt64

namespace WriteTask

/-- A write that was just received. -/
def new (bucketId : BucketId) (key : String) (data : FragmentData) :
    WriteTask :=
  ⟨bucketId, key, data, .check, none⟩

/-- The value that the write stores. -/
def parsed (task : WriteTask) : Value :=
  SerdeJson.parsePayload task.data

/-- What the write stored, once it committed. -/
def committed (Value : Type) [SerdeJson Value] (task : WriteTask) :
    Option (Commit Value) :=
  task.assigned.map fun version =>
    ⟨task.bucketId, task.key, task.parsed, version⟩

/-- What a write does to the database. -/
def persistOperation (Value : Type) [SerdeJson Value] (task : WriteTask) :
    Storage Unit :=
  persistFragment .none (decimal task.bucketId) task.key
    (persistedValue (task.parsed : Value))

/-- Execute the next section. -/
def advance (roomId : RoomId) (task : WriteTask)
    (kernel : SyncpondKernel Value) : WriteTask × SyncpondKernel Value :=
  match task.stage with
  | .check =>
      ({ task with
        stage :=
          if kernel.state.isRoomLoaded roomId then .commit else .rejected },
        kernel)
  | .commit =>
      let (assigned, committed) :=
        kernel.commitWrite roomId task.bucketId task.key task.parsed
      ({ task with stage := .openDb, assigned := assigned }, committed)
  | .openDb =>
      ({ task with stage := .find },
        { kernel with
          persistence := (kernel.persistence.openRoomDb .none roomId).1 })
  | .find =>
      ({ task with
        stage :=
          if kernel.persistence.dbs.contains roomId then .persist
          else .readVersion },
        kernel)
  | .persist =>
      ({ task with stage := .readVersion },
        { kernel with
          persistence := kernel.persistence.writeBack roomId
            ((task.persistOperation Value).exec
              (kernel.persistence.view roomId)).2 })
  | .readVersion =>
      ({ task with stage := .announce (kernel.readVersion roomId) }, kernel)
  | .announce roomCounter =>
      ({ task with stage := .finished },
        kernel.broadcast roomId task.assigned
          (writeUpdate task.bucketId task.key task.parsed roomCounter))
  | .finished => (task, kernel)
  | .rejected => (task, kernel)

/-! ### What is left of the program -/

section Remaining

variable (roomId : RoomId) (task : WriteTask)

/-- What is left of a write that read the version. -/
def fromAnnounce (assigned : Option UInt64) (roomCounter : UInt64) :
    Task Value CommandResponse := do
  Program.modify .free
    (SyncpondKernel.broadcast roomId assigned
      (writeUpdate task.bucketId task.key task.parsed roomCounter))
  return .fragmentWriteResponse

/-- What is left of a write that is persisted. -/
def fromReadVersion (assigned : Option UInt64) :
    Task Value CommandResponse := do
  let roomCounter ← Program.read .locked (SyncpondKernel.readVersion roomId)
  fromAnnounce roomId task assigned roomCounter

/-- What is left of a write that found its database. -/
def fromPersist (assigned : Option UInt64) : Task Value CommandResponse := do
  let _ ← Program.zoom
    (fun kernel : SyncpondKernel Value => kernel.persistence.view roomId)
    (fun kernel room =>
      { kernel with persistence := kernel.persistence.writeBack roomId room })
    (task.persistOperation Value).run
  fromReadVersion roomId task assigned

/-- What is left of a write whose database is open. -/
def fromFind (assigned : Option UInt64) : Task Value CommandResponse := do
  let _ ← Task.onRoom roomId (task.persistOperation Value)
  fromReadVersion roomId task assigned

/-- What is left of a write that committed. -/
def fromOpenDb (assigned : Option UInt64) : Task Value CommandResponse := do
  Task.persist .none roomId (task.persistOperation Value)
  fromReadVersion roomId task assigned

/-- What is left of a write that found its room loaded. -/
def fromCommit : Task Value CommandResponse := do
  let assigned ← Program.atomic .locked
    (SyncpondKernel.commitWrite roomId task.bucketId task.key task.parsed)
  fromOpenDb roomId task assigned

/-- The program that the task still has to execute. -/
def program : Task Value CommandResponse :=
  match task.stage with
  | .check =>
      handleWriteFragment .none roomId task.bucketId task.key task.data
  | .commit => fromCommit roomId task
  | .openDb => fromOpenDb roomId task task.assigned
  | .find => fromFind roomId task task.assigned
  | .persist => fromPersist roomId task task.assigned
  | .readVersion => fromReadVersion roomId task task.assigned
  | .announce roomCounter =>
      fromAnnounce roomId task task.assigned roomCounter
  | .finished => return .fragmentWriteResponse
  | .rejected => return roomNotLoaded

end Remaining

/-- The task has sections left. -/
def active (task : WriteTask) : Bool :=
  match task.stage with
  | .finished => false
  | .rejected => false
  | _ => true

/-- What the next section does with the lock; no section keeps it. -/
def access (task : WriteTask) : Access :=
  match task.stage with
  | .check => .locked
  | .commit => .locked
  | .readVersion => .locked
  | _ => .free

/-- Persisting a fragment is one call of the database. -/
theorem run_persistOperation (task : WriteTask) :
    (task.persistOperation Value).run =
      Program.step .free
        (fun room => ((task.persistOperation Value).exec room).2)
        fun room => .done ((task.persistOperation Value).exec room).1 := by
  unfold persistOperation persistFragment
  cases persistedValue (task.parsed : Value) with
  | none => rfl
  | some value =>
      obtain ⟨bytes, written, _⟩ :=
        (SerdeJson.value : Library.JsonText.Codec Value).roundTrip value
      simp only [Storage.serialize, written]
      rfl

/-- A task executes the next section of its program. -/
theorem program_eq_step (roomId : RoomId) (task : WriteTask)
    (isActive : task.active = true) :
    (task.program roomId : Task Value CommandResponse) =
      .step task.access (fun kernel => (task.advance roomId kernel).2)
        fun kernel => (task.advance roomId kernel).1.program roomId := by
  obtain ⟨bucketId, key, data, stage, assigned⟩ := task
  cases stage with
  | check =>
      refine congrArg (Program.step .locked fun kernel => kernel)
        (funext fun kernel => ?_)
      cases loaded : kernel.state.isRoomLoaded roomId with
      | true => simp [advance, loaded, program]; rfl
      | false => simp [advance, loaded, program]; rfl
  | commit => rfl
  | openDb =>
      simp only [program, fromOpenDb, Task.persist, bind_assoc]
      rfl
  | find =>
      simp only [program, fromFind, Task.onRoom, bind_assoc]
      refine congrArg (Program.step .free fun kernel => kernel)
        (funext fun kernel => ?_)
      cases found : kernel.persistence.dbs.contains roomId with
      | true =>
          simp only [advance, found, if_true, map_eq_pure_bind]
          change (_ >>= _) >>= _ = _
          rw [bind_assoc]
          rfl
      | false =>
          simp only [advance, found]
          rfl
  | persist =>
      simp only [program, fromPersist, run_persistOperation]
      rfl
  | readVersion => rfl
  | announce roomCounter => rfl
  | finished => cases isActive
  | rejected => cases isActive

/-- A task without sections left has returned its response. -/
theorem program_eq_done (roomId : RoomId) (task : WriteTask)
    (returned : task.active = false) :
    ∃ response,
      (task.program roomId : Task Value CommandResponse) =
        .done response := by
  obtain ⟨bucketId, key, data, stage, assigned⟩ := task
  cases stage with
  | finished => exact ⟨.fragmentWriteResponse, rfl⟩
  | rejected => exact ⟨roomNotLoaded, rfl⟩
  | _ => cases returned

end WriteTask

/-! ## Writers of one room -/

/-- Writes in progress, and what was received from the channel so far. -/
structure Writers (Value : Type) where
  kernel : SyncpondKernel Value
  tasks : List WriteTask
  delivered : List (Sourced (UpdateChannelMessage Value))

/-- What happens among writes in progress, one event at a time. -/
inductive WriterEvent where
  /-- A `WriteFragment` starts. -/
  | write (bucketId : BucketId) (key : String) (data : FragmentData)
  /-- A write executes its next section. -/
  | advance (index : Nat)
  /-- The forwarder receives a message. -/
  | deliver

namespace Writers

/-- No write in progress. -/
def start (kernel : SyncpondKernel Value) : Writers Value :=
  ⟨kernel, [], []⟩

/-- Let a write execute its next section, if it has one left. -/
def advance (roomId : RoomId) (writers : Writers Value) (index : Nat) :
    Option (Writers Value) :=
  match writers.tasks[index]? with
  | some task =>
      if task.active then
        let (next, kernel) := task.advance roomId writers.kernel
        some { writers with
          kernel := kernel
          tasks := writers.tasks.set index next }
      else none
  | none => none

/-- Receive the oldest message of the channel, if there is one. -/
def deliver (writers : Writers Value) : Option (Writers Value) :=
  writers.kernel.notifications.recv.map fun (message, rest) =>
    { writers with
      kernel := { writers.kernel with notifications := rest }
      delivered := writers.delivered ++ [message] }

/-- The writers after an event, if it can happen. -/
def step (roomId : RoomId) (writers : Writers Value) :
    WriterEvent → Option (Writers Value)
  | .write bucketId key data =>
      some { writers with
        tasks := writers.tasks ++ [.new bucketId key data] }
  | .advance index => writers.advance roomId index
  | .deliver => writers.deliver

/-- The writes as programs on the kernel, with nobody keeping the lock. -/
def pool (roomId : RoomId) (writers : Writers Value) :
    Pool (SyncpondKernel Value) CommandResponse where
  shared := writers.kernel
  tasks := writers.tasks.map fun task => task.program roomId
  holder := none

/-- A write starts as the program of its command. -/
theorem pool_write (roomId : RoomId) (writers : Writers Value)
    (bucketId : BucketId) (key : String) (data : FragmentData) :
    (writers.step roomId (.write bucketId key data)).map (pool roomId) =
      some ((writers.pool roomId).spawn
        (handleCommand .none (.writeFragment roomId bucketId key data))) := by
  simp [step, pool, Pool.spawn, WriteTask.new, WriteTask.program,
    handleCommand]

/-- The writes advance as their programs do. -/
theorem pool_advance (roomId : RoomId) (writers : Writers Value)
    (index : Nat) :
    (writers.advance roomId index).map (pool roomId) =
      (writers.pool roomId).advance index := by
  unfold advance Pool.advance
  simp only [pool, List.getElem?_map]
  cases found : writers.tasks[index]? with
  | none => rfl
  | some task =>
      cases isActive : task.active with
      | true =>
          have noLock : task.access = .free ∨ task.access = .locked := by
            unfold WriteTask.access
            split <;> simp
          simp only [Option.map_some,
            WriteTask.program_eq_step roomId task isActive]
          rcases noLock with free | locked
          · simp [isActive, free, Pool.admits, Pool.holderAfter, pool,
              List.map_set]
          · simp [isActive, locked, Pool.admits, Pool.holderAfter, pool,
              List.map_set]
      | false =>
          obtain ⟨response, done⟩ :=
            @WriteTask.program_eq_done Value _ roomId task isActive
          simp [isActive, done]

/-- What an advance does. -/
theorem advance_eq_some {roomId : RoomId} {writers after : Writers Value}
    {index : Nat} (advanced : writers.advance roomId index = some after) :
    ∃ task, writers.tasks[index]? = some task ∧ task.active = true ∧
      after = { writers with
        kernel := (task.advance roomId writers.kernel).2
        tasks := writers.tasks.set index
          (task.advance roomId writers.kernel).1 } := by
  unfold advance at advanced
  split at advanced
  · next task found =>
    split at advanced
    · next isActive =>
      exact ⟨task, found, isActive, (Option.some.inj advanced).symm⟩
    · cases advanced
  · cases advanced

end Writers

/-! ## Lists with one element replaced -/

section Replace

variable {Item : Type} {items : List Item} {index : Nat} {old new : Item}

theorem mem_set_cases {item : Item} (member : item ∈ items.set index new) :
    item = new ∨ ∃ other, other ≠ index ∧ items[other]? = some item := by
  obtain ⟨other, found⟩ := List.mem_iff_getElem?.mp member
  rw [List.getElem?_set] at found
  split at found
  · split at found
    · exact Or.inl (Option.some.inj found).symm
    · cases found
  · next different =>
    exact Or.inr ⟨other, fun equal => different equal.symm, found⟩

theorem exists_mem_set {property : Item → Prop}
    (found : items[index]? = some old)
    (kept : property old → property new)
    (member : ∃ item ∈ items, property item) :
    ∃ item ∈ items.set index new, property item := by
  obtain ⟨item, member, holds⟩ := member
  obtain ⟨other, inside, rfl⟩ := List.mem_iff_getElem.mp member
  obtain ⟨bound, rfl⟩ := List.getElem?_eq_some_iff.mp found
  by_cases same : index = other
  · subst same
    exact ⟨new, List.mem_set bound _, kept holds⟩
  · refine ⟨items[other], ?_, holds⟩
    apply List.mem_of_getElem? (i := other)
    rw [List.getElem?_set_ne same, List.getElem?_eq_getElem inside]

end Replace

/-! ## What the writes stored -/

omit [SerdeJson Value] in
/-- A write to a loaded room stores its value under the next version. -/
theorem commitWrite_eq {kernel : SyncpondKernel Value} {roomId : RoomId}
    {room : RoomState Value}
    (present : kernel.state.rooms[roomId]? = some room)
    (unlocked : room.ioLocked = false) (loaded : room.loaded = true)
    (noTransaction : room.txBuffer = none)
    (bucketId : BucketId) (key : String) (value : Value) :
    kernel.commitWrite roomId bucketId key value =
      (some (room.roomCounter + 1), { kernel with
        state := { kernel.state with
          rooms := kernel.state.rooms.insert roomId
            (room.store bucketId key value) } }) := by
  have written := setFragment_eq_ok present unlocked loaded noTransaction
    bucketId key value
  have stored :
      getNested (room.store bucketId key value).buckets bucketId key =
        some ⟨value, room.roomCounter + 1⟩ := by
    simp [RoomState.store, getNested_insertNested]
  have noBuffer : (room.store bucketId key value).txBuffer = none :=
    noTransaction
  simp [SyncpondKernel.commitWrite, written,
    SyncpondKernel.assignedVersion, stored, noBuffer]

/-- The version of the room can be incremented without wrapping. -/
def CounterFits (roomId : RoomId) (app : AppState Value) : Prop :=
  ∀ room, app.rooms[roomId]? = some room →
    room.roomCounter.toNat + 1 < UInt64.size

/-- A write committed the value. -/
def Writers.Committed (writers : Writers Value) (commit : Commit Value) :
    Prop :=
  ∃ task ∈ writers.tasks, task.committed Value = some commit

/--
The room stays loaded, and of the commits of each fragment, the one with the
greatest version is in memory.
-/
structure Commits (roomId : RoomId) (room : RoomState Value)
    (writers : Writers Value) : Prop where
  present : writers.kernel.state.rooms[roomId]? = some room
  unlocked : room.ioLocked = false
  loaded : room.loaded = true
  noTransaction : room.txBuffer = none
  assigned_iff : ∀ task ∈ writers.tasks,
    task.assigned.isSome = !task.stage.uncommitted
  bounded : ∀ commit, writers.Committed commit →
    commit.version ≤ room.roomCounter
  functional : ∀ commit other, writers.Committed commit →
    writers.Committed other → commit.version = other.version →
    commit = other
  memory : ∀ commit, writers.Committed commit →
    ∃ latest, writers.Committed latest ∧ commit.SameKey latest ∧
      commit.version ≤ latest.version ∧
      getNested room.buckets commit.bucketId commit.key =
        some ⟨latest.value, latest.version⟩

namespace Commits

variable {roomId : RoomId} {room : RoomState Value}
variable {writers : Writers Value}
variable (commits : Commits roomId room writers)

include commits

theorem uncommitted {task : WriteTask} (member : task ∈ writers.tasks)
    (stage : task.stage.uncommitted = true) : task.committed Value = none := by
  have assigned := commits.assigned_iff task member
  rw [stage] at assigned
  simpa [WriteTask.committed] using assigned

theorem exists_committed {task : WriteTask} (member : task ∈ writers.tasks)
    (stage : task.stage.uncommitted = false) :
    ∃ commit, task.committed Value = some commit := by
  have assigned := commits.assigned_iff task member
  rw [stage] at assigned
  obtain ⟨version, equal⟩ := Option.isSome_iff_exists.mp assigned
  exact ⟨⟨task.bucketId, task.key, task.parsed, version⟩,
    by rw [WriteTask.committed, equal]; rfl⟩

/-- Only the commits and the room matter. -/
theorem congr {after : Writers Value}
    (state : after.kernel.state = writers.kernel.state)
    (assigned_iff : ∀ task ∈ after.tasks,
      task.assigned.isSome = !task.stage.uncommitted)
    (same : ∀ commit, after.Committed commit ↔ writers.Committed commit) :
    Commits roomId room after where
  present := by
    rw [state]
    exact commits.present
  unlocked := commits.unlocked
  loaded := commits.loaded
  noTransaction := commits.noTransaction
  assigned_iff := assigned_iff
  bounded := by simpa only [same] using commits.bounded
  functional := by simpa only [same] using commits.functional
  memory := by simpa only [same] using commits.memory

/-- A section that does not commit. -/
theorem quiet {index : Nat} {task : WriteTask}
    (found : writers.tasks[index]? = some task) {stage : WriteStage}
    (same : stage.uncommitted = task.stage.uncommitted)
    {kernel : SyncpondKernel Value}
    (state : kernel.state = writers.kernel.state) :
    Commits roomId room
      { writers with
        kernel := kernel
        tasks := writers.tasks.set index { task with stage := stage } } := by
  refine commits.congr state ?_ ?_
  · intro other inside
    rcases List.mem_or_eq_of_mem_set inside with before | rfl
    · exact commits.assigned_iff other before
    · rw [same]
      exact commits.assigned_iff task (List.mem_of_getElem? found)
  · intro commit
    constructor
    · rintro ⟨other, inside, committed⟩
      rcases List.mem_or_eq_of_mem_set inside with before | rfl
      · exact ⟨other, before, committed⟩
      · exact ⟨task, List.mem_of_getElem? found, committed⟩
    · exact exists_mem_set found fun committed => committed

/-- A write that starts. -/
theorem write (bucketId : BucketId) (key : String) (data : FragmentData) :
    Commits roomId room
      { writers with
        tasks := writers.tasks ++ [.new bucketId key data] } := by
  refine commits.congr rfl ?_ ?_
  · intro other inside
    rcases List.mem_append.mp inside with before | last
    · exact commits.assigned_iff other before
    · rw [List.mem_singleton.mp last]
      rfl
  · intro commit
    constructor
    · rintro ⟨other, inside, committed⟩
      rcases List.mem_append.mp inside with before | last
      · exact ⟨other, before, committed⟩
      · rw [List.mem_singleton.mp last] at committed
        cases committed
    · rintro ⟨other, before, committed⟩
      exact ⟨other, List.mem_append_left _ before, committed⟩

/-- The commits after a section that commits. -/
theorem committed_commit {index : Nat} {task : WriteTask}
    (found : writers.tasks[index]? = some task)
    (stage : task.stage = .commit) (kernel : SyncpondKernel Value)
    (version : UInt64) (commit : Commit Value) :
    Writers.Committed
        { writers with
          kernel := kernel
          tasks := writers.tasks.set index
            { task with stage := .openDb, assigned := some version } }
        commit ↔
      commit = ⟨task.bucketId, task.key, task.parsed, version⟩ ∨
        writers.Committed commit := by
  have uncommitted := commits.uncommitted (List.mem_of_getElem? found)
    (by rw [stage]; rfl)
  constructor
  · rintro ⟨other, inside, committed⟩
    rcases List.mem_or_eq_of_mem_set inside with before | rfl
    · exact Or.inr ⟨other, before, committed⟩
    · exact Or.inl (Option.some.inj committed).symm
  · rintro (rfl | older)
    · exact ⟨_, List.mem_set (List.getElem?_eq_some_iff.mp found).1 _, rfl⟩
    · refine exists_mem_set found (fun committed => ?_) older
      rw [uncommitted] at committed
      cases committed

/-- A section that commits. -/
theorem commit {index : Nat} {task : WriteTask}
    (found : writers.tasks[index]? = some task)
    (stage : task.stage = .commit)
    (fits : CounterFits roomId writers.kernel.state)
    {kernel : SyncpondKernel Value}
    (rooms : kernel.state.rooms = writers.kernel.state.rooms.insert roomId
      (room.store task.bucketId task.key task.parsed)) :
    Commits roomId (room.store task.bucketId task.key task.parsed)
      { writers with
        kernel := kernel
        tasks := writers.tasks.set index { task with
          stage := .openDb
          assigned := some (room.roomCounter + 1) } } := by
  have newer : room.roomCounter < room.roomCounter + 1 :=
    lt_succ (fits room commits.present)
  have committed_iff :=
    commits.committed_commit found stage kernel (room.roomCounter + 1)
  have older {commit : Commit Value} (isOld : writers.Committed commit) :
      commit.version < room.roomCounter + 1 :=
    UInt64.lt_of_le_of_lt (commits.bounded commit isOld) newer
  constructor
  · rw [rooms, lookup_insert, if_pos rfl]
  · exact commits.unlocked
  · exact commits.loaded
  · exact commits.noTransaction
  · intro other inside
    rcases List.mem_or_eq_of_mem_set inside with before | rfl
    · exact commits.assigned_iff other before
    · rfl
  · intro commit isCommitted
    rcases (committed_iff commit).mp isCommitted with rfl | isOld
    · exact UInt64.le_refl _
    · exact UInt64.le_of_lt (older isOld)
  · intro commit other isCommitted isOther same
    rcases (committed_iff commit).mp isCommitted with rfl | isOld
    · rcases (committed_iff other).mp isOther with rfl | otherOld
      · rfl
      · have less := older otherOld
        rw [← same] at less
        exact absurd less (UInt64.lt_irrefl _)
    · rcases (committed_iff other).mp isOther with rfl | otherOld
      · have less := older isOld
        rw [same] at less
        exact absurd less (UInt64.lt_irrefl _)
      · exact commits.functional commit other isOld otherOld same
  · intro commit isCommitted
    simp only [RoomState.store, getNested_insertNested]
    rcases (committed_iff commit).mp isCommitted with rfl | isOld
    · refine ⟨_, isCommitted, ⟨rfl, rfl⟩, UInt64.le_refl _, ?_⟩
      rw [if_pos ⟨rfl, rfl⟩]
    · by_cases same : task.bucketId = commit.bucketId ∧
        task.key = commit.key
      · refine ⟨_, (committed_iff _).mpr (Or.inl rfl),
          ⟨same.1.symm, same.2.symm⟩, UInt64.le_of_lt (older isOld), ?_⟩
        rw [if_pos same]
      · obtain ⟨latest, isLatest, sameKey, le, stored⟩ :=
          commits.memory commit isOld
        refine ⟨latest, (committed_iff latest).mpr (Or.inr isLatest),
          sameKey, le, ?_⟩
        rw [if_neg same]
        exact stored

end Commits

/-- No write in progress on a loaded room of a reachable kernel. -/
theorem commits_start {kernel : SyncpondKernel Value} {store : Store Value}
    (refines : Refines kernel store) (consistent : Consistent store)
    {roomId : RoomId} {room : RoomState Value}
    (present : store.state.rooms[roomId]? = some room)
    (loaded : room.loaded = true) :
    Commits roomId room (.start kernel) where
  present := refines.state ▸ present
  unlocked := (consistent.rooms roomId room present).unlocked
  loaded := loaded
  noTransaction := (consistent.rooms roomId room present).noTransaction
  assigned_iff := by simp [Writers.start]
  bounded := by simp [Writers.start, Writers.Committed]
  functional := by simp [Writers.start, Writers.Committed]
  memory := by simp [Writers.start, Writers.Committed]

/-! ## Example schedules -/

/-- Check that the version of the room can be incremented. -/
def counterFits (roomId : RoomId) (app : AppState Value) : Bool :=
  app.rooms[roomId]?.all fun room =>
    decide (room.roomCounter.toNat + 1 < UInt64.size)

omit [SerdeJson Value] in
theorem counterFits_of_check {roomId : RoomId} {app : AppState Value}
    (checked : counterFits roomId app = true) : CounterFits roomId app := by
  intro room present
  rw [counterFits, present] at checked
  exact of_decide_eq_true checked

/--
Two writes to one fragment: the second one commits last, and runs to its end
before the first one goes on.
-/
def overtaking : List WriterEvent :=
  [.write 5 "key" "1".toUTF8, .write 5 "key" "2".toUTF8,
    .advance 0, .advance 0, .advance 1, .advance 1] ++
    List.replicate 5 (.advance 1) ++ List.replicate 5 (.advance 0)

end Syncpond.WriteTasks
