import Syncpond.Reload
import Syncpond.WriteTasks

/-!
# Memory and disk after concurrent writes

A write commits in memory under the state lock and persists without it, so
two writes to one fragment can reach memory and disk in opposite orders.
Memory and disk agree when no write persists after a later commit to the same
fragment has persisted.
-/

namespace Syncpond.StoreAgreement

open Syncpond.Protocol
open Syncpond.Serde
open Syncpond.State
open Syncpond.Persistence
open Syncpond.Kernel
open Syncpond.Disks
open Syncpond.DiskOperations
open Syncpond.KernelStore
open Syncpond.Consistency
open Syncpond.Reads
open Syncpond.Reload
open Syncpond.WriteTasks
open Syncpond.Library.Maps
open Syncpond.Library.Runs
open Syncpond.Library.Text

variable {Value : Type} [SerdeJson Value]

/-! ## Schedules -/

/-- The write has persisted its value. -/
def persisted : WriteStage → Bool
  | .readVersion => true
  | .announce _ => true
  | .finished => true
  | _ => false

/-- A write committed and persisted the value. -/
def Persisted (writers : Writers Value) (commit : Commit Value) : Prop :=
  ∃ task ∈ writers.tasks,
    persisted task.stage = true ∧ task.committed Value = some commit

/-- No later commit to the fragment of the task has been persisted. -/
def NoLaterPersisted (writers : Writers Value) (task : WriteTask) : Prop :=
  ∀ own theirs, task.committed Value = some own →
    Persisted writers theirs → own.SameKey theirs →
    ¬own.version < theirs.version

/--
The condition on a schedule: a write persists only as long as no later commit
to the same fragment has persisted.
-/
def PersistsInOrder (roomId : RoomId) (writers : Writers Value) :
    WriterEvent → Prop
  | .advance index =>
      ∀ task, writers.tasks[index]? = some task →
        (task.stage = .commit → CounterFits roomId writers.kernel.state) ∧
        (task.stage = .persist → NoLaterPersisted writers task)
  | _ => True

/-! ## The invariant -/

/-- The commit is to the fragment. -/
def IsTo (bucketId : BucketId) (key : String) (commit : Commit Value) :
    Prop :=
  commit.bucketId = bucketId ∧ commit.key = key

/--
What holds of writers under such schedules, for the current room and store:
of the persisted commits of each fragment, the one with the greatest version
is on the disk, and other fragments are as they were.
-/
structure Mirrored (roomId : RoomId) (first : RoomState Value)
    (initial : Disk Value) (room : RoomState Value) (store : Store Value)
    (writers : Writers Value) : Prop where
  commits : Commits roomId room writers
  refines : Refines writers.kernel store
  opened : roomId ∈ store.opened
  records : (store.disks roomId).records = initial.records
  noTombstones : NoTombstones (store.disks roomId)
  disk : ∀ commit, Persisted writers commit →
    ∃ latest, Persisted writers latest ∧ commit.SameKey latest ∧
      commit.version ≤ latest.version ∧
      ((store.disks roomId).fragments commit.bucketId)[commit.key]? =
        persistedValue latest.value
  memoryKept : ∀ bucketId key,
    (∀ commit, writers.Committed commit → ¬IsTo bucketId key commit) →
    getNested room.buckets bucketId key =
      getNested first.buckets bucketId key
  diskKept : ∀ bucketId key,
    (∀ commit, Persisted writers commit → ¬IsTo bucketId key commit) →
    ((store.disks roomId).fragments bucketId)[key]? =
      (initial.fragments bucketId)[key]?

namespace Mirrored

variable {roomId : RoomId} {first : RoomState Value}
variable {initial : Disk Value} {room : RoomState Value}
variable {store : Store Value} {writers : Writers Value}
variable (mirrored : Mirrored roomId first initial room store writers)

include mirrored

/-- A section that neither commits nor persists. -/
theorem quiet {index : Nat} {task : WriteTask}
    (found : writers.tasks[index]? = some task) {stage : WriteStage}
    (sameCommit : stage.uncommitted = task.stage.uncommitted)
    (samePersist : persisted stage = persisted task.stage)
    {kernel : SyncpondKernel Value} {after : Store Value}
    (state : kernel.state = writers.kernel.state)
    (refines : Refines kernel after) (opened : roomId ∈ after.opened)
    (disks : after.disks = store.disks) :
    Mirrored roomId first initial room after
      { writers with
        kernel := kernel
        tasks := writers.tasks.set index { task with stage := stage } } := by
  have member := List.mem_of_getElem? found
  have committed_iff (commit : Commit Value) :
      Writers.Committed
          { writers with
            kernel := kernel
            tasks := writers.tasks.set index { task with stage := stage } }
          commit ↔
        writers.Committed commit := by
    constructor
    · rintro ⟨other, inside, committed⟩
      rcases List.mem_or_eq_of_mem_set inside with before | rfl
      · exact ⟨other, before, committed⟩
      · exact ⟨task, member, committed⟩
    · exact exists_mem_set found fun committed => committed
  have persisted_iff (commit : Commit Value) :
      Persisted
          { writers with
            kernel := kernel
            tasks := writers.tasks.set index { task with stage := stage } }
          commit ↔
        Persisted writers commit := by
    constructor
    · rintro ⟨other, inside, isPersisted, committed⟩
      rcases List.mem_or_eq_of_mem_set inside with before | rfl
      · exact ⟨other, before, isPersisted, committed⟩
      · exact ⟨task, member, samePersist.symm.trans isPersisted, committed⟩
    · refine exists_mem_set found ?_
      rintro ⟨isPersisted, committed⟩
      exact ⟨samePersist.trans isPersisted, committed⟩
  constructor
  · exact mirrored.commits.quiet found sameCommit state
  · exact refines
  · exact opened
  · rw [disks]
    exact mirrored.records
  · rw [disks]
    exact mirrored.noTombstones
  · simpa only [persisted_iff, disks] using mirrored.disk
  · simpa only [committed_iff] using mirrored.memoryKept
  · simpa only [persisted_iff, disks] using mirrored.diskKept

/-- A section that commits. -/
theorem commit {index : Nat} {task : WriteTask}
    (found : writers.tasks[index]? = some task)
    (stage : task.stage = .commit)
    (fits : CounterFits roomId writers.kernel.state)
    {state : AppState Value}
    (rooms : state.rooms = writers.kernel.state.rooms.insert roomId
      (room.store task.bucketId task.key task.parsed)) :
    Mirrored roomId first initial
      (room.store task.bucketId task.key task.parsed)
      { store with state := state }
      { writers with
        kernel := { writers.kernel with state := state }
        tasks := writers.tasks.set index { task with
          stage := .openDb
          assigned := some (room.roomCounter + 1) } } := by
  have committed_iff := mirrored.commits.committed_commit found stage
    { writers.kernel with state := state } (room.roomCounter + 1)
  have notPersisted : persisted task.stage = false := by
    rw [stage]
    rfl
  have persisted_iff (commit : Commit Value) :
      Persisted
          { writers with
            kernel := { writers.kernel with state := state }
            tasks := writers.tasks.set index { task with
              stage := .openDb
              assigned := some (room.roomCounter + 1) } }
          commit ↔
        Persisted writers commit := by
    constructor
    · rintro ⟨other, inside, isPersisted, committed⟩
      rcases List.mem_or_eq_of_mem_set inside with before | rfl
      · exact ⟨other, before, isPersisted, committed⟩
      · cases isPersisted
    · refine exists_mem_set found ?_
      rintro ⟨isPersisted, _⟩
      rw [notPersisted] at isPersisted
      cases isPersisted
  constructor
  · exact mirrored.commits.commit found stage fits rooms
  · exact mirrored.refines.setState state
  · exact mirrored.opened
  · exact mirrored.records
  · exact mirrored.noTombstones
  · simpa only [persisted_iff] using mirrored.disk
  · intro bucketId key untouched
    have notOwn : ¬(task.bucketId = bucketId ∧ task.key = key) :=
      untouched _ ((committed_iff _).mpr (Or.inl rfl))
    simp only [RoomState.store, getNested_insertNested]
    rw [if_neg notOwn]
    exact mirrored.memoryKept bucketId key fun commit isCommitted =>
      untouched commit ((committed_iff commit).mpr (Or.inr isCommitted))
  · simpa only [persisted_iff] using mirrored.diskKept

/-- A section that persists. -/
theorem persist {index : Nat} {task : WriteTask}
    (found : writers.tasks[index]? = some task)
    (stage : task.stage = .persist)
    (noLater : NoLaterPersisted writers task)
    {kernel : SyncpondKernel Value}
    (state : kernel.state = writers.kernel.state)
    (refines : Refines kernel
      { store with
        disks := changeDisk store.disks roomId fun disk => { disk with
          fragments := putFragment disk.fragments task.bucketId task.key
            (persistedValue task.parsed) } }) :
    Mirrored roomId first initial room
      { store with
        disks := changeDisk store.disks roomId fun disk => { disk with
          fragments := putFragment disk.fragments task.bucketId task.key
            (persistedValue task.parsed) } }
      { writers with
        kernel := kernel
        tasks := writers.tasks.set index
          { task with stage := .readVersion } } := by
  have member := List.mem_of_getElem? found
  have past : task.stage.uncommitted = false := by
    rw [stage]
    rfl
  obtain ⟨own, isOwn⟩ := mirrored.commits.exists_committed member past
  have ownKey : own.bucketId = task.bucketId ∧ own.key = task.key ∧
      own.value = task.parsed := by
    obtain ⟨version, _, equal⟩ := Option.map_eq_some_iff.mp isOwn
    subst equal
    exact ⟨rfl, rfl, rfl⟩
  have committed_iff (commit : Commit Value) :
      Writers.Committed
          { writers with
            kernel := kernel
            tasks := writers.tasks.set index
              { task with stage := .readVersion } }
          commit ↔
        writers.Committed commit := by
    constructor
    · rintro ⟨other, inside, committed⟩
      rcases List.mem_or_eq_of_mem_set inside with before | rfl
      · exact ⟨other, before, committed⟩
      · exact ⟨task, member, committed⟩
    · exact exists_mem_set found fun committed => committed
  have persisted_iff (commit : Commit Value) :
      Persisted
          { writers with
            kernel := kernel
            tasks := writers.tasks.set index
              { task with stage := .readVersion } }
          commit ↔
        commit = own ∨ Persisted writers commit := by
    constructor
    · rintro ⟨other, inside, isPersisted, committed⟩
      rcases List.mem_or_eq_of_mem_set inside with before | rfl
      · exact Or.inr ⟨other, before, isPersisted, committed⟩
      · exact Or.inl (Option.some.inj (committed.symm.trans isOwn))
    · rintro (rfl | older)
      · exact ⟨_, List.mem_set (List.getElem?_eq_some_iff.mp found).1 _,
          rfl, isOwn⟩
      · refine exists_mem_set found ?_ older
        rintro ⟨_, committed⟩
        exact ⟨rfl, committed⟩
  constructor
  · refine mirrored.commits.quiet found ?_ state
    rw [past]
    rfl
  · exact refines
  · exact mirrored.opened
  · simpa using mirrored.records
  · intro bucketId key value stored
    simp only [changeDisk_self, lookup_putFragment] at stored
    split at stored
    · exact (isNull_of_persistedValue stored).1
    · exact mirrored.noTombstones bucketId key value stored
  · intro commit isPersisted
    simp only [changeDisk_self, lookup_putFragment]
    by_cases same : task.bucketId = commit.bucketId ∧ task.key = commit.key
    · have ownFirst : own.SameKey commit :=
        ⟨ownKey.1.trans same.1, ownKey.2.1.trans same.2⟩
      refine ⟨own, (persisted_iff own).mpr (Or.inl rfl),
        ⟨ownFirst.1.symm, ownFirst.2.symm⟩, ?_, ?_⟩
      · rcases (persisted_iff commit).mp isPersisted with rfl | older
        · exact UInt64.le_refl _
        · exact UInt64.not_lt.mp (noLater own commit isOwn older ownFirst)
      · rw [if_pos same, ownKey.2.2]
    · rcases (persisted_iff commit).mp isPersisted with rfl | older
      · exact absurd ⟨ownKey.1.symm, ownKey.2.1.symm⟩ same
      · obtain ⟨latest, isLatest, sameKey, le, stored⟩ :=
          mirrored.disk commit older
        refine ⟨latest, (persisted_iff latest).mpr (Or.inr isLatest),
          sameKey, le, ?_⟩
        rw [if_neg same]
        exact stored
  · simpa only [committed_iff] using mirrored.memoryKept
  · intro bucketId key untouched
    have notOwn := untouched own ((persisted_iff own).mpr (Or.inl rfl))
    simp only [changeDisk_self, lookup_putFragment]
    rw [if_neg fun same => notOwn
      ⟨ownKey.1.trans same.1, ownKey.2.1.trans same.2⟩]
    exact mirrored.diskKept bucketId key fun commit isPersisted =>
      untouched commit ((persisted_iff commit).mpr (Or.inr isPersisted))

/-- A write that starts. -/
theorem write (bucketId : BucketId) (key : String) (data : FragmentData) :
    Mirrored roomId first initial room store
      { writers with
        tasks := writers.tasks ++ [.new bucketId key data] } := by
  have cases {property : WriteTask → Prop}
      (notNew : ¬property (.new bucketId key data)) :
      (∃ task ∈ writers.tasks ++ [.new bucketId key data],
        property task) ↔ ∃ task ∈ writers.tasks, property task := by
    simp [or_and_right, exists_or, notNew]
  have committed_iff (commit : Commit Value) :
      Writers.Committed
          { writers with
            tasks := writers.tasks ++ [.new bucketId key data] } commit ↔
        writers.Committed commit :=
    cases fun committed => by cases committed
  have persisted_iff (commit : Commit Value) :
      Persisted
          { writers with
            tasks := writers.tasks ++ [.new bucketId key data] } commit ↔
        Persisted writers commit :=
    cases fun holds => by cases holds.1
  constructor
  · exact mirrored.commits.write bucketId key data
  · exact mirrored.refines
  · exact mirrored.opened
  · exact mirrored.records
  · exact mirrored.noTombstones
  · simpa only [persisted_iff] using mirrored.disk
  · simpa only [committed_iff] using mirrored.memoryKept
  · simpa only [persisted_iff] using mirrored.diskKept

/-- The channel does not matter. -/
theorem deliver {after : Writers Value}
    (delivered : writers.deliver = some after) :
    Mirrored roomId first initial room store after := by
  obtain ⟨⟨message, rest⟩, _, rfl⟩ := Option.map_eq_some_iff.mp delivered
  exact { mirrored with
    commits := mirrored.commits.congr rfl mirrored.commits.assigned_iff
      fun _ => Iff.rfl
    refines := mirrored.refines.setNotifications rest }

/-- Every step of such a schedule keeps the invariant. -/
theorem step {event : WriterEvent} {after : Writers Value}
    (inOrder : PersistsInOrder roomId writers event)
    (stepped : writers.step roomId event = some after) :
    ∃ room store, Mirrored roomId first initial room store after := by
  cases event with
  | write bucketId key data =>
      cases stepped
      exact ⟨room, store, mirrored.write bucketId key data⟩
  | deliver => exact ⟨room, store, mirrored.deliver stepped⟩
  | advance index =>
      obtain ⟨task, found, isActive, rfl⟩ :=
        Writers.advance_eq_some stepped
      obtain ⟨whenCommitting, whenPersisting⟩ := inOrder task found
      have refines := mirrored.refines
      have opened := mirrored.opened
      cases stage : task.stage with
      | check =>
          simp only [WriteTask.advance, stage]
          refine ⟨room, store, mirrored.quiet found ?_ ?_ rfl refines opened
            rfl⟩
          · rw [stage]
            split <;> rfl
          · rw [stage]
            split <;> rfl
      | commit =>
          have commits := mirrored.commits
          simp only [WriteTask.advance, stage,
            commitWrite_eq commits.present commits.unlocked commits.loaded
              commits.noTransaction]
          exact ⟨_, _, mirrored.commit found stage (whenCommitting stage)
            rfl⟩
      | openDb =>
          obtain ⟨manager, result, reopened⟩ := refines.openRoomDb roomId
          simp only [WriteTask.advance, stage, result]
          exact ⟨room, store.openRoom roomId,
            mirrored.quiet found (by rw [stage]; rfl) (by rw [stage]; rfl) rfl
              reopened (mem_set_insert.mpr (Or.inl rfl)) rfl⟩
      | find =>
          have isOpen : writers.kernel.persistence.dbs.contains roomId := by
            rw [refines.dbs]
            exact opened
          simp only [WriteTask.advance, stage, isOpen, if_true]
          exact ⟨room, store,
            mirrored.quiet found (by rw [stage]; rfl) (by rw [stage]; rfl) rfl
              refines opened rfl⟩
      | persist =>
          obtain ⟨_, _, _, persists⟩ := refines.onRoom opened
            (implements_persistFragment roomId task.bucketId task.key
              (persistedValue (task.parsed : Value)))
          rw [run_onRoom writers.kernel (refines.dbs ▸ opened)
            (refines.mem_dirs.mpr opened)] at persists
          simp only [WriteTask.advance, stage]
          exact ⟨room, _, mirrored.persist found stage
            (whenPersisting stage) rfl persists⟩
      | readVersion =>
          simp only [WriteTask.advance, stage]
          exact ⟨room, store,
            mirrored.quiet found (by rw [stage]; rfl) (by rw [stage]; rfl) rfl
              refines opened rfl⟩
      | announce roomCounter =>
          simp only [WriteTask.advance, stage]
          exact ⟨room, store,
            mirrored.quiet found (by rw [stage]; rfl) (by rw [stage]; rfl) rfl
              (refines.setNotifications _) opened rfl⟩
      | finished => simp [WriteTask.active, stage] at isActive
      | rejected => simp [WriteTask.active, stage] at isActive

/-- Once all writes returned, every commit is persisted. -/
theorem persisted_of_returned
    (returned : ∀ task ∈ writers.tasks, task.active = false)
    {commit : Commit Value} (isCommitted : writers.Committed commit) :
    Persisted writers commit := by
  obtain ⟨task, member, committed⟩ := isCommitted
  have isReturned := returned task member
  cases stage : task.stage with
  | finished => exact ⟨task, member, by rw [stage]; rfl, committed⟩
  | rejected =>
      rw [mirrored.commits.uncommitted member (by rw [stage]; rfl)]
        at committed
      cases committed
  | _ => simp [WriteTask.active, stage] at isReturned

/-- Once all writes returned, the disk holds what is in memory. -/
theorem agrees
    (returned : ∀ task ∈ writers.tasks, task.active = false)
    {bucketId : BucketId} {key : String}
    (agreed : (initial.fragments bucketId)[key]? =
        ((getNested first.buckets bucketId key).bind fun entry =>
          persistedValue entry.value) ∨
      ∃ commit, writers.Committed commit ∧ IsTo bucketId key commit) :
    ((store.disks roomId).fragments bucketId)[key]? =
      (getNested room.buckets bucketId key).bind fun entry =>
        persistedValue entry.value := by
  by_cases written : ∃ commit, writers.Committed commit ∧
      IsTo bucketId key commit
  · obtain ⟨commit, isCommitted, rfl, rfl⟩ := written
    obtain ⟨latest, isLatest, latestKey, _, inMemory⟩ :=
      mirrored.commits.memory commit isCommitted
    obtain ⟨newest, isNewest, newestKey, le, stored⟩ := mirrored.disk latest
      (mirrored.persisted_of_returned returned isLatest)
    have newestCommitted : writers.Committed newest := by
      obtain ⟨task, member, _, committed⟩ := isNewest
      exact ⟨task, member, committed⟩
    obtain ⟨top, _, _, leTop, topInMemory⟩ :=
      mirrored.commits.memory newest newestCommitted
    rw [← newestKey.1, ← newestKey.2, ← latestKey.1, ← latestKey.2,
      inMemory] at topInMemory
    have sameVersion : latest.version = top.version := by
      cases top
      cases topInMemory
      rfl
    have equal : latest = newest :=
      mirrored.commits.functional latest newest isLatest newestCommitted
        (UInt64.le_antisymm le (sameVersion ▸ leTop))
    rw [inMemory, latestKey.1, latestKey.2, stored, ← equal]
    rfl
  · have untouched : ∀ commit, writers.Committed commit →
        ¬IsTo bucketId key commit :=
      fun commit isCommitted isTo => written ⟨commit, isCommitted, isTo⟩
    rw [mirrored.memoryKept bucketId key untouched,
      mirrored.diskKept bucketId key fun commit ⟨task, member, _, committed⟩ =>
        untouched commit ⟨task, member, committed⟩]
    exact agreed.resolve_right written

end Mirrored

/-! ## Agreement once all writes returned -/

/-- The persisted fragment is the live value in memory, absent if there is none. -/
def FragmentAgrees (kernel : SyncpondKernel Value) (roomId : RoomId)
    (bucketId : BucketId) (key : String) : Prop :=
  storedFragment kernel roomId bucketId key =
    (memoryFragment kernel.state roomId bucketId key).map .ok

theorem fragmentAgrees_iff {kernel : SyncpondKernel Value}
    {store : Store Value} (refines : Refines kernel store)
    {roomId : RoomId} {room : RoomState Value}
    (present : kernel.state.rooms[roomId]? = some room)
    (bucketId : BucketId) (key : String) :
    FragmentAgrees kernel roomId bucketId key ↔
      ((store.disks roomId).fragments bucketId)[key]? =
        (getNested room.buckets bucketId key).bind fun entry =>
          persistedValue entry.value := by
  have injective : Function.Injective
      (Except.ok : Value → Except String Value) := by
    intro value other equal
    cases equal
    rfl
  rw [FragmentAgrees, storedFragment_eq refines, memoryFragment, present,
    Option.bind_some, (Option.map_injective injective).eq_iff]

/--
Once all concurrent writes returned, a fragment that a write of the run
stored, or that agreed before the run, is the same in memory and on disk; if
its bucket has a record, reloading the room does not change what a read of the
fragment returns.
-/
theorem memory_and_disk_agree {kernel : SyncpondKernel Value}
    (reachable : Kernel.Reachable kernel) {roomId : RoomId}
    (loaded : kernel.state.isRoomLoaded roomId = true)
    {writers : Writers Value}
    (run : Follows (Writers.step roomId) (PersistsInOrder roomId)
      (.start kernel) writers)
    (returned : ∀ task ∈ writers.tasks, task.active = false)
    {bucketId : BucketId} {key : String}
    (agreed : FragmentAgrees kernel roomId bucketId key ∨
      ∃ task ∈ writers.tasks, task.stage = .finished ∧
        task.bucketId = bucketId ∧ task.key = key) :
    FragmentAgrees writers.kernel roomId bucketId key ∧
      (HasRecord kernel roomId bucketId →
        readFragment (reload writers.kernel roomId).state roomId bucketId
            key =
          readFragment writers.kernel.state roomId bucketId key) := by
  obtain ⟨initial, refines, reachableStore⟩ :=
    exists_store_of_reachable reachable
  have consistent := consistent_of_reachable reachableStore
  obtain ⟨first, present, resident⟩ := isRoomLoaded_iff.mp loaded
  have inStore := present
  rw [refines.state] at inStore
  have started : Mirrored roomId first (initial.disks roomId) first initial
      (.start kernel) := by
    constructor
    · exact commits_start refines consistent inStore resident
    · exact refines
    · exact (consistent.rooms roomId first inStore).opened
    · rfl
    · exact consistent.noTombstones roomId
    · rintro commit ⟨task, member, _⟩
      cases member
    · exact fun _ _ _ => rfl
    · exact fun _ _ _ => rfl
  obtain ⟨room, store, mirrored⟩ := run.invariant
    (fun writers => ∃ room store,
      Mirrored roomId first (initial.disks roomId) room store writers)
    (fun _ _ _ ⟨_, _, mirrored⟩ meets stepped =>
      mirrored.step meets stepped)
    ⟨first, initial, started⟩
  have commits := mirrored.commits
  have stored :
      ((store.disks roomId).fragments bucketId)[key]? =
        (getNested room.buckets bucketId key).bind fun entry =>
          persistedValue entry.value := by
    apply mirrored.agrees returned
    rcases agreed with before | ⟨task, member, stage, rfl, rfl⟩
    · exact Or.inl ((fragmentAgrees_iff refines present _ _).mp before)
    · obtain ⟨commit, committed⟩ :=
        commits.exists_committed member (by rw [stage]; rfl)
      refine Or.inr ⟨commit, ⟨task, member, committed⟩, ?_⟩
      obtain ⟨version, _, rfl⟩ := Option.map_eq_some_iff.mp committed
      exact ⟨rfl, rfl⟩
  constructor
  · exact (fragmentAgrees_iff mirrored.refines commits.present _ _).mpr stored
  · intro recorded
    have isRecord : bucketId ∈ (store.disks roomId).records := by
      rw [mirrored.records]
      exact (hasRecord_iff refines).mp recorded
    have inAfter := commits.present
    rw [mirrored.refines.state] at inAfter
    rw [readFragment_reload mirrored.refines inAfter commits.unlocked
      mirrored.noTombstones isRecord, stored,
      readFragment_eq_answer commits.present commits.unlocked commits.loaded]
    simp [memoryFragment, commits.present]

/-! ## Two writes to one fragment -/

/-- A kernel with one loaded room and one recorded bucket. -/
def recordedBucket : SyncpondKernel Json :=
  run (boot .none ∅)
    [.command (.newRoom "room"), .command (.newBucket 1 5 "bucket")]

/-- Check that a step persists in order. -/
def checkPersists (roomId : RoomId) (writers : Writers Value) :
    WriterEvent → Bool
  | .advance index =>
      match writers.tasks[index]? with
      | none => true
      | some task =>
          match task.stage with
          | .commit => counterFits roomId writers.kernel.state
          | .persist =>
              writers.tasks.all fun other =>
                !persisted other.stage ||
                  task.assigned.all fun own =>
                    other.assigned.all fun theirs => !decide (own < theirs)
          | _ => true
  | _ => true

theorem persistsInOrder_of_check {roomId : RoomId} {writers : Writers Value}
    {event : WriterEvent}
    (checked : checkPersists roomId writers event = true) :
    PersistsInOrder roomId writers event := by
  cases event with
  | write bucketId key data => trivial
  | deliver => trivial
  | advance index =>
      refine fun task found => ⟨fun stage => ?_, fun stage => ?_⟩
      · simp only [checkPersists, found, stage] at checked
        exact counterFits_of_check checked
      · rintro own theirs isOwn ⟨other, member, isPersisted, isTheirs⟩ _
        simp only [checkPersists, found, stage] at checked
        have earlier := List.all_eq_true.mp checked other member
        obtain ⟨version, assigned, rfl⟩ := Option.map_eq_some_iff.mp isOwn
        obtain ⟨older, given, rfl⟩ := Option.map_eq_some_iff.mp isTheirs
        simpa [isPersisted, assigned, given] using earlier

/-- Two writes to one fragment that take their sections in turn. -/
def sideBySide : List WriterEvent :=
  [.write 5 "key" "1".toUTF8, .write 5 "key" "2".toUTF8] ++
    (List.replicate 7 [.advance 0, .advance 1]).flatten

/-- Memory and disk have the value that was committed last. -/
theorem memory_and_disk_agree_sideBySide :
    ∃ writers : Writers Json,
      Follows (Writers.step 1) (PersistsInOrder 1) (.start recordedBucket)
          writers ∧
        (writers.tasks.map fun task => (task.stage, task.assigned)) =
          [(.finished, some 1), (.finished, some 2)] ∧
        readFragment writers.kernel.state 1 5 "key" =
          .fragmentReadResponse (some "2".toUTF8) ∧
        FragmentAgrees writers.kernel 1 5 "key" ∧
        readFragment (reload writers.kernel 1).state 1 5 "key" =
          readFragment writers.kernel.state 1 5 "key" := by
  let outcome := sideBySide.foldlM (fun writers event =>
      if checkPersists 1 writers event then Writers.step 1 writers event
      else none)
    (Writers.start recordedBucket)
  have finished : outcome.map (fun writers => writers.tasks.map fun task =>
        ((task.stage, task.assigned), task.bucketId, task.key)) =
      some [((.finished, some 1), 5, "key"), ((.finished, some 2), 5, "key")] := by
    decide +kernel
  have returns : outcome.map (fun writers =>
      readFragment writers.kernel.state 1 5 "key") =
        some (.fragmentReadResponse (some "2".toUTF8)) := by
    decide +kernel
  obtain ⟨writers, ran, tasks⟩ := Option.map_eq_some_iff.mp finished
  rw [ran] at returns
  have isRead := Option.some.inj returns
  have run := follows_of_checked (fun _ _ => persistsInOrder_of_check) ran
  obtain ⟨first, rest, isTasks, isFirst, others⟩ :=
    List.map_eq_cons_iff.mp tasks
  obtain ⟨second, isRest, isSecond⟩ := List.map_eq_singleton_iff.mp others
  subst isRest
  simp only [Prod.mk.injEq] at isFirst isSecond
  have returned : ∀ task ∈ writers.tasks, task.active = false := by
    rw [isTasks]
    simp [WriteTask.active, isFirst.1.1, isSecond.1.1]
  have recorded : HasRecord recordedBucket 1 5 :=
    exists_mem_db_iff.mpr (by decide +kernel)
  obtain ⟨agrees, reloads⟩ := memory_and_disk_agree ⟨_, rfl⟩
    (by decide +kernel) run returned
    (Or.inr ⟨first, by simp [isTasks], isFirst.1.1, isFirst.2⟩)
  refine ⟨writers, run, ?_, isRead, agrees, reloads recorded⟩
  rw [isTasks]
  simp [isFirst.1.1, isFirst.1.2, isSecond.1.1, isSecond.1.2]

/-- A read returns the newer value until the room is reloaded. -/
theorem race_leaves_older_value_on_disk :
    ∃ writers : Writers Json,
      Follows (Writers.step 1) (fun _ _ => True) (.start recordedBucket)
        writers ∧
      (writers.tasks.all fun task => !task.active) = true ∧
      readFragment writers.kernel.state 1 5 "key" =
        .fragmentReadResponse (some "2".toUTF8) ∧
      readFragment (reload writers.kernel 1).state 1 5 "key" =
        .fragmentReadResponse (some "1".toUTF8) := by
  have observed :
      (overtaking.foldlM (Writers.step 1) (.start recordedBucket)).map
          (fun writers =>
            (writers.tasks.all (fun task => !task.active),
              readFragment writers.kernel.state 1 5 "key",
              readFragment (reload writers.kernel 1).state 1 5 "key")) =
        some (true, .fragmentReadResponse (some "2".toUTF8),
          .fragmentReadResponse (some "1".toUTF8)) := by
    decide +kernel
  obtain ⟨writers, ran, equal⟩ := Option.map_eq_some_iff.mp observed
  simp only [Prod.mk.injEq] at equal
  exact ⟨writers, follows_of_foldlM ran, equal⟩

end Syncpond.StoreAgreement
