import Syncpond.Reads
import Syncpond.StateRuns
import Syncpond.WriteTasks

/-!
# The order of broadcasts

A `WriteFragment` commits under the lock, reads the room version under another
one, and announces the write without a lock.  The announced version is the one
of the commit, and announcements follow commits, exactly when no write commits
while another one is between these sections.
-/

namespace Syncpond.BroadcastOrder

open Syncpond.Protocol
open Syncpond.Serde
open Syncpond.State
open Syncpond.Kernel
open Syncpond.Consistency
open Syncpond.KernelStore
open Syncpond.StateRuns
open Syncpond.Reads
open Syncpond.WriteTasks
open Syncpond.Library.Channels
open Syncpond.Library.Maps
open Syncpond.Library.Runs

variable {Value : Type} [SerdeJson Value]

/-! ## Schedules -/

/-- Two messages update the same fragment. -/
def SameFragment (message other : Sourced (UpdateChannelMessage Value)) :
    Prop :=
  message.content.update.bucketId = other.content.update.bucketId ∧
    message.content.update.key = other.content.update.key

/-- No write is between its commit and its read of the room version. -/
def NoneAwaits (writers : Writers Value) : Prop :=
  ∀ other ∈ writers.tasks, other.stage.awaitsVersion = false

/-- Every other write to the fragment that is still to be announced committed later. -/
def NextToAnnounce (writers : Writers Value) (index : Nat)
    (task : WriteTask) : Prop :=
  ∀ (place : Nat) (other : WriteTask), place ≠ index →
    writers.tasks[place]? = some other → other.stage.toAnnounce = true →
    ∀ own theirs, task.committed Value = some own →
      other.committed Value = some theirs → own.SameKey theirs →
      own.version < theirs.version

/--
The condition on a schedule: a write commits only when no other one awaits the
room version, and is announced only after the earlier ones of its fragment.
-/
def Orderly (roomId : RoomId) (writers : Writers Value) :
    WriterEvent → Prop
  | .advance index =>
      ∀ task, writers.tasks[index]? = some task →
        (task.stage = .commit → NoneAwaits writers ∧
          CounterFits roomId writers.kernel.state) ∧
        (∀ roomCounter, task.stage = .announce roomCounter →
          NextToAnnounce writers index task)
  | _ => True

/-- An announcement finds room in the notification channel. -/
def FindsRoom (writers : Writers Value) : WriterEvent → Prop
  | .advance index =>
      ∀ task, writers.tasks[index]? = some task →
        ∀ roomCounter, task.stage = .announce roomCounter →
          writers.kernel.notifications.items.length < notificationCapacity
  | _ => True

/-! ## The invariant -/

/-- The message of a commit that is announced under its own version. -/
def announcement (roomId : RoomId) (commit : Commit Value) :
    Sourced (UpdateChannelMessage Value) where
  origin := roomId
  assigned := some commit.version
  content :=
    .broadcast
      (writeUpdate commit.bucketId commit.key commit.value commit.version)

/--
What holds of writers under orderly schedules, for the current room and the
commits announced so far.
-/
structure Tracks (roomId : RoomId)
    (old : List (Sourced (UpdateChannelMessage Value))) (lossless : Prop)
    (room : RoomState Value) (announced : List (Commit Value))
    (writers : Writers Value) : Prop where
  commits : Commits roomId room writers
  entered : writers.delivered ++ writers.kernel.notifications.items =
    old ++ announced.map (announcement roomId)
  awaiting : ∀ task ∈ writers.tasks, task.stage.awaitsVersion = true →
    task.assigned = some room.roomCounter
  announcing : ∀ task ∈ writers.tasks, ∀ roomCounter,
    task.stage = .announce roomCounter → task.assigned = some roomCounter
  source : ∀ commit ∈ announced, writers.Committed commit
  ordered : announced.Pairwise fun earlier later =>
    earlier.SameKey later → earlier.version < later.version
  behind : ∀ commit ∈ announced, ∀ task ∈ writers.tasks,
    task.stage.toAnnounce = true → ∀ other,
    task.committed Value = some other → commit.SameKey other →
    commit.version < other.version
  complete : lossless → ∀ task ∈ writers.tasks, task.stage = .finished →
    ∀ commit, task.committed Value = some commit → commit ∈ announced

namespace Tracks

variable {roomId : RoomId}
variable {old : List (Sourced (UpdateChannelMessage Value))}
variable {lossless : Prop} {room : RoomState Value}
variable {announced : List (Commit Value)} {writers : Writers Value}
variable (tracks : Tracks roomId old lossless room announced writers)

include tracks

/-- A section that commits and announces nothing. -/
theorem quiet {index : Nat} {task : WriteTask}
    (found : writers.tasks[index]? = some task) {stage : WriteStage}
    (same : stage.uncommitted = task.stage.uncommitted)
    {kernel : SyncpondKernel Value}
    (state : kernel.state = writers.kernel.state)
    (notifications : kernel.notifications = writers.kernel.notifications)
    (awaits : stage.awaitsVersion = true →
      task.stage.awaitsVersion = true)
    (announces : ∀ roomCounter, stage = .announce roomCounter →
      task.assigned = some roomCounter)
    (toAnnounce : stage.toAnnounce = true → task.stage.toAnnounce = true)
    (unfinished : stage ≠ .finished) :
    Tracks roomId old lossless room announced
      { writers with
        kernel := kernel
        tasks := writers.tasks.set index { task with stage := stage } } := by
  have member := List.mem_of_getElem? found
  constructor
  · exact tracks.commits.quiet found same state
  · rw [notifications]
    exact tracks.entered
  · intro other inside isAwaiting
    rcases List.mem_or_eq_of_mem_set inside with before | rfl
    · exact tracks.awaiting other before isAwaiting
    · exact tracks.awaiting task member (awaits isAwaiting)
  · intro other inside roomCounter isAnnouncing
    rcases List.mem_or_eq_of_mem_set inside with before | rfl
    · exact tracks.announcing other before roomCounter isAnnouncing
    · exact announces roomCounter isAnnouncing
  · intro commit isAnnounced
    exact exists_mem_set found (fun committed => committed)
      (tracks.source commit isAnnounced)
  · exact tracks.ordered
  · intro commit isAnnounced other inside isUnannounced
    rcases List.mem_or_eq_of_mem_set inside with before | rfl
    · exact tracks.behind commit isAnnounced other before isUnannounced
    · exact tracks.behind commit isAnnounced task member
        (toAnnounce isUnannounced)
  · intro noLoss other inside isFinished
    rcases List.mem_or_eq_of_mem_set inside with before | rfl
    · exact tracks.complete noLoss other before isFinished
    · exact absurd isFinished unfinished

/-- A section that stores the value of a write. -/
theorem commit {index : Nat} {task : WriteTask}
    (found : writers.tasks[index]? = some task)
    (stage : task.stage = .commit) (alone : NoneAwaits writers)
    (fits : CounterFits roomId writers.kernel.state)
    {kernel : SyncpondKernel Value}
    (rooms : kernel.state.rooms = writers.kernel.state.rooms.insert roomId
      (room.store task.bucketId task.key task.parsed))
    (notifications :
      kernel.notifications = writers.kernel.notifications) :
    Tracks roomId old lossless
      (room.store task.bucketId task.key task.parsed) announced
      { writers with
        kernel := kernel
        tasks := writers.tasks.set index { task with
          stage := .openDb
          assigned := some (room.roomCounter + 1) } } := by
  have committed_iff := tracks.commits.committed_commit found stage kernel
    (room.roomCounter + 1)
  constructor
  · exact tracks.commits.commit found stage fits rooms
  · rw [notifications]
    exact tracks.entered
  · intro other inside isAwaiting
    rcases List.mem_or_eq_of_mem_set inside with before | rfl
    · rw [alone other before] at isAwaiting
      cases isAwaiting
    · rfl
  · intro other inside roomCounter isAnnouncing
    rcases List.mem_or_eq_of_mem_set inside with before | rfl
    · exact tracks.announcing other before roomCounter isAnnouncing
    · cases isAnnouncing
  · intro commit isAnnounced
    exact (committed_iff commit).mpr
      (Or.inr (tracks.source commit isAnnounced))
  · exact tracks.ordered
  · intro commit isAnnounced other inside isUnannounced theirs committed same
    rcases List.mem_or_eq_of_mem_set inside with before | rfl
    · exact tracks.behind commit isAnnounced other before isUnannounced theirs
        committed same
    · cases committed
      exact UInt64.lt_of_le_of_lt
        (tracks.commits.bounded commit (tracks.source commit isAnnounced))
        (lt_succ (fits room tracks.commits.present))
  · intro noLoss other inside isFinished
    rcases List.mem_or_eq_of_mem_set inside with before | rfl
    · exact tracks.complete noLoss other before isFinished
    · cases isFinished

/-- The last section of a write, with the commits announced after it. -/
theorem finish {index : Nat} {task : WriteTask}
    (found : writers.tasks[index]? = some task)
    (committed : task.stage.uncommitted = false)
    {kernel : SyncpondKernel Value}
    (state : kernel.state = writers.kernel.state)
    {after : List (Commit Value)}
    (entered : writers.delivered ++ kernel.notifications.items =
      old ++ after.map (announcement roomId))
    (grown : ∀ commit ∈ announced, commit ∈ after)
    (added : ∀ commit ∈ after, commit ∈ announced ∨
      task.committed Value = some commit ∧
        NextToAnnounce writers index task)
    (ordered : after.Pairwise fun earlier later =>
      earlier.SameKey later → earlier.version < later.version)
    (complete : lossless → ∀ commit, task.committed Value = some commit →
      commit ∈ after) :
    Tracks roomId old lossless room after
      { writers with
        kernel := kernel
        tasks := writers.tasks.set index
          { task with stage := .finished } } := by
  have member := List.mem_of_getElem? found
  constructor
  · refine tracks.commits.quiet found ?_ state
    rw [committed]
    rfl
  · exact entered
  · intro other inside isAwaiting
    rcases List.mem_or_eq_of_mem_set inside with before | rfl
    · exact tracks.awaiting other before isAwaiting
    · cases isAwaiting
  · intro other inside roomCounter isAnnouncing
    rcases List.mem_or_eq_of_mem_set inside with before | rfl
    · exact tracks.announcing other before roomCounter isAnnouncing
    · cases isAnnouncing
  · intro commit isAnnounced
    refine exists_mem_set found (fun committed => committed) ?_
    rcases added commit isAnnounced with before | ⟨own, _⟩
    · exact tracks.source commit before
    · exact ⟨task, member, own⟩
  · exact ordered
  · intro commit isAnnounced other inside isUnannounced theirs isTheirs same
    rcases mem_set_cases inside with rfl | ⟨place, elsewhere, isOther⟩
    · cases isUnannounced
    · rcases added commit isAnnounced with before | ⟨own, next⟩
      · exact tracks.behind commit before other
          (List.mem_of_getElem? isOther) isUnannounced theirs isTheirs same
      · exact next place other elsewhere isOther isUnannounced commit
          theirs own isTheirs same
  · intro noLoss other inside isFinished commit isCommitted
    rcases List.mem_or_eq_of_mem_set inside with before | rfl
    · exact grown commit
        (tracks.complete noLoss other before isFinished commit isCommitted)
    · exact complete noLoss commit isCommitted

/-- A section that announces a write, or drops it on a full channel. -/
theorem announce {index : Nat} {task : WriteTask}
    (found : writers.tasks[index]? = some task) {roomCounter : UInt64}
    (stage : task.stage = .announce roomCounter)
    (next : NextToAnnounce writers index task)
    (findsRoom : lossless →
      writers.kernel.notifications.items.length < notificationCapacity) :
    ∃ after, Tracks roomId old lossless room after
      { writers with
        kernel := writers.kernel.broadcast roomId task.assigned
          (writeUpdate task.bucketId task.key task.parsed roomCounter)
        tasks := writers.tasks.set index
          { task with stage := .finished } } := by
  have member := List.mem_of_getElem? found
  have assigned := tracks.announcing task member roomCounter stage
  have past : task.stage.uncommitted = false := by
    rw [stage]
    rfl
  let commit : Commit Value :=
    ⟨task.bucketId, task.key, task.parsed, roomCounter⟩
  have committed : task.committed Value = some commit := by
    simp [WriteTask.committed, assigned, commit]
  have message :
      (⟨roomId, task.assigned, .broadcast (writeUpdate task.bucketId task.key
        task.parsed roomCounter)⟩ :
        Sourced (UpdateChannelMessage Value)) =
        announcement roomId commit := by
    rw [assigned]
    rfl
  unfold SyncpondKernel.broadcast
  rw [message, Channel.sendOrDrop]
  cases sent : writers.kernel.notifications.trySend
      (announcement roomId commit) with
  | none =>
      refine ⟨announced, tracks.finish found past rfl tracks.entered
        (fun _ member => member) (fun _ member => Or.inl member)
        tracks.ordered ?_⟩
      intro noLoss
      have full := Channel.trySend_eq_none_iff.mp sent
      exact absurd (findsRoom noLoss) (Nat.not_lt.mpr full)
  | some channel =>
      have items := (Channel.trySend_eq_some_iff.mp sent).2
      refine ⟨announced ++ [commit],
        tracks.finish found past ?_ ?_ ?_ ?_ ?_ ?_⟩
      · rfl
      · simp only [Option.getD_some, items, List.map_append, List.map_cons,
          List.map_nil]
        rw [← List.append_assoc, tracks.entered, List.append_assoc]
      · intro other isAnnounced
        exact List.mem_append_left _ isAnnounced
      · intro other isAnnounced
        rcases List.mem_append.mp isAnnounced with before | last
        · exact Or.inl before
        · rw [List.mem_singleton.mp last]
          exact Or.inr ⟨committed, next⟩
      · rw [List.pairwise_append]
        refine ⟨tracks.ordered, List.pairwise_singleton _ _, ?_⟩
        intro earlier isAnnounced later last same
        rw [List.mem_singleton.mp last] at same ⊢
        exact tracks.behind earlier isAnnounced task member
          (by rw [stage]; rfl) commit committed same
      · intro _ other isOther
        rw [committed] at isOther
        cases isOther
        exact List.mem_append_right _ (List.mem_singleton.mpr rfl)

/-- A write that starts. -/
theorem write (bucketId : BucketId) (key : String) (data : FragmentData) :
    Tracks roomId old lossless room announced
      { writers with
        tasks := writers.tasks ++ [.new bucketId key data] } := by
  have cases {other : WriteTask}
      (inside : other ∈ writers.tasks ++ [.new bucketId key data]) :
      other ∈ writers.tasks ∨ other = .new bucketId key data := by
    simpa using inside
  constructor
  · exact tracks.commits.write bucketId key data
  · exact tracks.entered
  · intro other inside isAwaiting
    rcases cases inside with before | rfl
    · exact tracks.awaiting other before isAwaiting
    · cases isAwaiting
  · intro other inside roomCounter isAnnouncing
    rcases cases inside with before | rfl
    · exact tracks.announcing other before roomCounter isAnnouncing
    · cases isAnnouncing
  · intro commit isAnnounced
    obtain ⟨task, isTask, committed⟩ := tracks.source commit isAnnounced
    exact ⟨task, List.mem_append_left _ isTask, committed⟩
  · exact tracks.ordered
  · intro commit isAnnounced other inside isUnannounced
    rcases cases inside with before | rfl
    · exact tracks.behind commit isAnnounced other before isUnannounced
    · cases isUnannounced
  · intro noLoss other inside isFinished
    rcases cases inside with before | rfl
    · exact tracks.complete noLoss other before isFinished
    · cases isFinished

/-- A message that is received stays among those that entered. -/
theorem deliver {after : Writers Value}
    (delivered : writers.deliver = some after) :
    Tracks roomId old lossless room announced after := by
  obtain ⟨⟨message, rest⟩, received, rfl⟩ :=
    Option.map_eq_some_iff.mp delivered
  have items := Channel.recv_eq_some_iff.mp received
  exact { tracks with
    commits := tracks.commits.congr rfl tracks.commits.assigned_iff
      fun _ => Iff.rfl
    entered := by
      rw [← tracks.entered, items]
      simp }

/-- Every orderly step keeps the invariant. -/
theorem step {event : WriterEvent} {after : Writers Value}
    (orderly : Orderly roomId writers event)
    (findsRoom : lossless → FindsRoom writers event)
    (stepped : writers.step roomId event = some after) :
    ∃ room announced,
      Tracks roomId old lossless room announced after := by
  cases event with
  | write bucketId key data =>
      cases stepped
      exact ⟨room, announced, tracks.write bucketId key data⟩
  | deliver => exact ⟨room, announced, tracks.deliver stepped⟩
  | advance index =>
      obtain ⟨task, found, isActive, rfl⟩ :=
        Writers.advance_eq_some stepped
      have member := List.mem_of_getElem? found
      obtain ⟨whenCommitting, whenAnnouncing⟩ := orderly task found
      cases stage : task.stage with
      | check =>
          simp only [WriteTask.advance, stage]
          refine ⟨room, announced, tracks.quiet found ?_ rfl rfl ?_ ?_ ?_ ?_⟩
          · rw [stage]
            split <;> rfl
          · split <;> rintro ⟨⟩
          · split <;> rintro _ ⟨⟩
          · split <;> rintro ⟨⟩
          · split <;> rintro ⟨⟩
      | commit =>
          obtain ⟨alone, fits⟩ := whenCommitting stage
          have commits := tracks.commits
          simp only [WriteTask.advance, stage,
            commitWrite_eq commits.present commits.unlocked commits.loaded
              commits.noTransaction]
          exact ⟨_, announced,
            tracks.commit found stage alone fits rfl rfl⟩
      | openDb =>
          simp only [WriteTask.advance, stage]
          refine ⟨room, announced,
            tracks.quiet found (by rw [stage]; rfl) rfl rfl ?_ ?_ ?_ ?_⟩
          · exact fun _ => by rw [stage]; rfl
          · rintro _ ⟨⟩
          · exact fun _ => by rw [stage]; rfl
          · rintro ⟨⟩
      | find =>
          simp only [WriteTask.advance, stage]
          refine ⟨room, announced, tracks.quiet found ?_ rfl rfl ?_ ?_ ?_ ?_⟩
          · rw [stage]
            split <;> rfl
          · exact fun _ => by rw [stage]; rfl
          · split <;> rintro _ ⟨⟩
          · exact fun _ => by rw [stage]; rfl
          · split <;> rintro ⟨⟩
      | persist =>
          simp only [WriteTask.advance, stage]
          refine ⟨room, announced,
            tracks.quiet found (by rw [stage]; rfl) rfl rfl ?_ ?_ ?_ ?_⟩
          · exact fun _ => by rw [stage]; rfl
          · rintro _ ⟨⟩
          · exact fun _ => by rw [stage]; rfl
          · rintro ⟨⟩
      | readVersion =>
          have version : writers.kernel.readVersion roomId =
              room.roomCounter := by
            simp [SyncpondKernel.readVersion, AppState.roomVersion,
              AppState.readRoom, tracks.commits.present, RoomState.version,
              tracks.commits.unlocked]
          simp only [WriteTask.advance, stage]
          refine ⟨room, announced,
            tracks.quiet found (by rw [stage]; rfl) rfl rfl ?_ ?_ ?_ ?_⟩
          · rintro ⟨⟩
          · rintro _ ⟨⟩
            rw [version]
            exact tracks.awaiting task member (by rw [stage]; rfl)
          · exact fun _ => by rw [stage]; rfl
          · rintro ⟨⟩
      | announce roomCounter =>
          simp only [WriteTask.advance, stage]
          obtain ⟨after, kept⟩ := tracks.announce found stage
            (whenAnnouncing roomCounter stage)
            fun noLoss => findsRoom noLoss task found roomCounter stage
          exact ⟨room, after, kept⟩
      | finished => simp [WriteTask.active, stage] at isActive
      | rejected => simp [WriteTask.active, stage] at isActive

end Tracks

/-- No write in progress in a reachable kernel. -/
theorem tracks_start {kernel : SyncpondKernel Value}
    (reachable : Kernel.Reachable kernel) {roomId : RoomId}
    (loaded : kernel.state.isRoomLoaded roomId = true) (lossless : Prop) :
    ∃ room, Tracks roomId kernel.notifications.items lossless room []
      (.start kernel) := by
  obtain ⟨store, refines, reachableStore⟩ :=
    exists_store_of_reachable reachable
  have consistent := consistent_of_reachable reachableStore
  obtain ⟨room, present, resident⟩ := isRoomLoaded_iff.mp loaded
  rw [refines.state] at present
  refine ⟨room, ?_⟩
  constructor
  · exact commits_start refines consistent present resident
  · simp [Writers.start]
  all_goals simp [Writers.start]

/-- Every orderly run keeps the invariant. -/
theorem exists_tracks {kernel : SyncpondKernel Value}
    (reachable : Kernel.Reachable kernel) {roomId : RoomId}
    (loaded : kernel.state.isRoomLoaded roomId = true) (lossless : Prop)
    {condition : Writers Value → WriterEvent → Prop}
    (orderly : ∀ writers event, condition writers event →
      Orderly roomId writers event)
    (findsRoom : lossless → ∀ writers event, condition writers event →
      FindsRoom writers event)
    {writers : Writers Value}
    (run : Follows (Writers.step roomId) condition (.start kernel)
      writers) :
    ∃ room announced, Tracks roomId kernel.notifications.items lossless room
      announced writers := by
  refine run.invariant (fun writers => ∃ room announced,
    Tracks roomId kernel.notifications.items lossless room announced writers)
    ?_ ?_
  · rintro state event after ⟨room, announced, tracks⟩ meets stepped
    exact tracks.step (orderly state event meets)
      (fun noLoss => findsRoom noLoss state event meets) stepped
  · obtain ⟨room, tracks⟩ := tracks_start reachable loaded lossless
    exact ⟨room, [], tracks⟩

/-! ## Messages in commit order -/

/--
Every message carries the version that was given to its value, and the
versions of each fragment increase.
-/
structure InCommitOrder
    (entered : List (Sourced (UpdateChannelMessage Value))) : Prop where
  ownVersion : ∀ message ∈ entered,
    message.assigned = some message.content.update.bucketCounter
  increasing : entered.Pairwise fun earlier later =>
    SameFragment earlier later →
      earlier.content.update.bucketCounter <
        later.content.update.bucketCounter

/-- The last message of a fragment holds the value that a read returns. -/
def LastIsCurrent (roomId : RoomId) (app : AppState Value)
    (entered : List (Sourced (UpdateChannelMessage Value))) : Prop :=
  ∀ before last after, entered = before ++ last :: after →
    (∀ message ∈ after, ¬SameFragment last message) →
    ∃ value, last.content.update.value = some value ∧
      ∀ bytes,
        readFragment app roomId last.content.update.bucketId
            last.content.update.key = .fragmentReadResponse (some bytes) ↔
          SerdeJson.isNull value = false ∧
            SerdeJson.value.toVec value = .ok bytes

omit [SerdeJson Value] in
theorem inCommitOrder_announcements (roomId : RoomId)
    {announced : List (Commit Value)}
    (ordered : announced.Pairwise fun earlier later =>
      earlier.SameKey later → earlier.version < later.version) :
    InCommitOrder (announced.map (announcement roomId)) where
  ownVersion := by
    intro message member
    obtain ⟨commit, _, rfl⟩ := List.mem_map.mp member
    rfl
  increasing := List.pairwise_map.mpr ordered

/-- Once all writes returned, the last announced commit is in memory. -/
theorem Tracks.lastIsCurrent {roomId : RoomId}
    {old : List (Sourced (UpdateChannelMessage Value))}
    {room : RoomState Value} {announced : List (Commit Value)}
    {writers : Writers Value}
    (tracks : Tracks roomId old True room announced writers)
    (returned : ∀ task ∈ writers.tasks, task.active = false) :
    LastIsCurrent roomId writers.kernel.state
      (announced.map (announcement roomId)) := by
  intro before last after split lastOne
  obtain ⟨front, rest, rfl, rfl, restSplit⟩ := List.map_eq_append_iff.mp split
  obtain ⟨commit, back, rfl, rfl, rfl⟩ := List.map_eq_cons_iff.mp restSplit
  have isAnnounced : commit ∈ front ++ commit :: back := by simp
  obtain ⟨latest, ⟨other, isOther, latestCommitted⟩, same, le, stored⟩ :=
    tracks.commits.memory commit (tracks.source commit isAnnounced)
  have finished : other.stage = .finished := by
    have isReturned := returned other isOther
    cases stage : other.stage with
    | finished => rfl
    | rejected =>
        have uncommitted := tracks.commits.uncommitted isOther (by
          rw [stage]
          rfl)
        rw [uncommitted] at latestCommitted
        cases latestCommitted
    | _ => simp [WriteTask.active, stage] at isReturned
  have latestAnnounced :=
    tracks.complete trivial other isOther finished latest latestCommitted
  have isLast : latest = commit := by
    have increasing := List.pairwise_append.mp tracks.ordered
    rcases List.mem_append.mp latestAnnounced with inFront | inRest
    · have less := increasing.2.2 latest inFront commit
        List.mem_cons_self ⟨same.1.symm, same.2.symm⟩
      exact absurd less (UInt64.not_lt.mpr le)
    · rcases List.mem_cons.mp inRest with equal | inBack
      · exact equal
      · exact absurd same
          (lastOne (announcement roomId latest) (List.mem_map_of_mem inBack))
  subst isLast
  refine ⟨latest.value, rfl, fun bytes => ?_⟩
  rw [readFragment_eq_some_iff]
  constructor
  · rintro ⟨value, ⟨found, entry, present, _, _, inMemory, rfl, live⟩,
      written⟩
    rw [tracks.commits.present] at present
    cases present
    have equal := stored.symm.trans inMemory
    cases equal
    exact ⟨live, written⟩
  · rintro ⟨live, written⟩
    exact ⟨latest.value, ⟨room, _, tracks.commits.present,
      tracks.commits.unlocked, tracks.commits.loaded, stored, rfl, live⟩,
      written⟩

/--
Under orderly schedules of concurrent writes, every message that enters the
channel carries the version of its own commit, in the order of the commits of
each fragment; when all writes returned and no message was dropped, the last
message of each fragment holds what a read returns.
-/
theorem broadcasts_follow_commits {kernel : SyncpondKernel Value}
    (reachable : Kernel.Reachable kernel) {roomId : RoomId}
    (loaded : kernel.state.isRoomLoaded roomId = true)
    {writers : Writers Value}
    (run : Follows (Writers.step roomId) (Orderly roomId) (.start kernel)
      writers) :
    ∃ entered,
      writers.delivered ++ writers.kernel.notifications.items =
        kernel.notifications.items ++ entered ∧
      InCommitOrder entered ∧
      (Follows (Writers.step roomId)
          (fun writers event =>
            Orderly roomId writers event ∧ FindsRoom writers event)
          (.start kernel) writers →
        (∀ task ∈ writers.tasks, task.active = false) →
        LastIsCurrent roomId writers.kernel.state entered) := by
  obtain ⟨room, announced, tracks⟩ :=
    exists_tracks reachable loaded False
      (fun _ _ orderly => orderly) False.elim run
  refine ⟨announced.map (announcement roomId), tracks.entered,
    inCommitOrder_announcements roomId tracks.ordered, ?_⟩
  intro losslessRun returned
  obtain ⟨room, announced', tracks'⟩ :=
    exists_tracks reachable loaded True
      (fun _ _ meets => meets.1) (fun _ _ _ meets => meets.2) losslessRun
  have same : announced'.map (announcement roomId) =
      announced.map (announcement roomId) :=
    List.append_cancel_left (tracks'.entered.symm.trans tracks.entered)
  rw [← same]
  exact tracks'.lastIsCurrent returned

/-! ## Two writes to one fragment -/

/-- A kernel with one loaded room. -/
def oneRoom : SyncpondKernel Json :=
  run (boot .none ∅) [.command (.newRoom "room")]

/-- Check that a step is orderly, and finds room for what it announces. -/
def checkOrderly (roomId : RoomId) (writers : Writers Value) :
    WriterEvent → Bool
  | .advance index =>
      match writers.tasks[index]? with
      | none => true
      | some task =>
          match task.stage with
          | .commit =>
              writers.tasks.all (fun other => !other.stage.awaitsVersion) &&
                counterFits roomId writers.kernel.state
          | .announce _ =>
              decide (writers.kernel.notifications.items.length <
                notificationCapacity) &&
              (writers.tasks.eraseIdx index).all fun other =>
                !other.stage.toAnnounce ||
                  task.assigned.any fun own =>
                    other.assigned.any fun theirs => decide (own < theirs)
          | _ => true
  | _ => true

/-- A larger version of a later write makes a write the next to announce. -/
theorem nextToAnnounce_of_all {writers : Writers Value} {index : Nat}
    {task : WriteTask}
    (checked : ((writers.tasks.eraseIdx index).all fun other =>
      !other.stage.toAnnounce ||
        task.assigned.any fun own =>
          other.assigned.any fun theirs => decide (own < theirs)) = true) :
    NextToAnnounce writers index task := by
  intro place other elsewhere isOther toAnnounce own theirs isOwn isTheirs _
  have member : other ∈ writers.tasks.eraseIdx index :=
    List.mem_eraseIdx_iff_getElem?.mpr ⟨place, elsewhere, isOther⟩
  have later := List.all_eq_true.mp checked other member
  obtain ⟨version, assigned, rfl⟩ := Option.map_eq_some_iff.mp isOwn
  obtain ⟨newer, given, rfl⟩ := Option.map_eq_some_iff.mp isTheirs
  simpa [toAnnounce, assigned, given] using later

theorem orderly_of_check {roomId : RoomId} {writers : Writers Value}
    {event : WriterEvent} (checked : checkOrderly roomId writers event = true) :
    Orderly roomId writers event ∧ FindsRoom writers event := by
  cases event with
  | write bucketId key data => exact ⟨trivial, trivial⟩
  | deliver => exact ⟨trivial, trivial⟩
  | advance index =>
      refine ⟨fun task found => ⟨?_, ?_⟩, fun task found => ?_⟩
      · intro stage
        simp only [checkOrderly, found, stage, Bool.and_eq_true] at checked
        exact ⟨by simpa [NoneAwaits] using checked.1,
          counterFits_of_check checked.2⟩
      · intro roomCounter stage
        simp only [checkOrderly, found, stage, Bool.and_eq_true] at checked
        exact nextToAnnounce_of_all checked.2
      · intro roomCounter stage
        simp only [checkOrderly, found, stage, Bool.and_eq_true] at checked
        exact of_decide_eq_true checked.1

/--
Two writes to one fragment: the second one commits while the first one is
between its read of the room version and its announcement.
-/
def inTurn : List WriterEvent :=
  [.write 5 "key" "1".toUTF8, .write 5 "key" "2".toUTF8,
    .advance 0, .advance 1] ++
    List.replicate 5 (.advance 0) ++ [.advance 1, .advance 1, .advance 0] ++
    List.replicate 4 (.advance 1)

/-- The announcements follow the commits, and a read returns the last one. -/
theorem broadcasts_follow_commits_inTurn :
    ∃ (writers : Writers Json)
      (entered : List (Sourced (UpdateChannelMessage Json))),
      Follows (Writers.step 1)
          (fun writers event =>
            Orderly 1 writers event ∧ FindsRoom writers event)
          (.start oneRoom) writers ∧
        (entered.map fun message =>
          (message.assigned, message.content.update.value)) =
          [(some 1, some (.number 1)), (some 2, some (.number 2))] ∧
        InCommitOrder entered ∧
        LastIsCurrent 1 writers.kernel.state entered := by
  have observed :
      (inTurn.foldlM (fun writers event =>
          if checkOrderly 1 writers event then Writers.step 1 writers event
          else none)
        (Writers.start oneRoom)).map (fun writers =>
          (writers.tasks.all (fun task => !task.active),
            (writers.delivered ++ writers.kernel.notifications.items).map
              fun message =>
                (message.assigned, message.content.update.value))) =
        some (true,
          [(some 1, some (.number 1)), (some 2, some (.number 2))]) := by
    decide +kernel
  obtain ⟨writers, ran, equal⟩ := Option.map_eq_some_iff.mp observed
  obtain ⟨returned, messages⟩ := Prod.mk.inj equal
  have run := follows_of_checked (fun _ _ => orderly_of_check) ran
  have quiet : oneRoom.notifications.items = [] := by decide +kernel
  have reachable : Kernel.Reachable oneRoom := ⟨_, rfl⟩
  obtain ⟨entered, isEntered, ordered, current⟩ :=
    broadcasts_follow_commits reachable (by decide +kernel)
      (follows_of_checked (fun _ _ checked => (orderly_of_check checked).1)
        ran)
  rw [quiet, List.nil_append] at isEntered
  rw [isEntered] at messages
  exact ⟨writers, entered, run, messages, ordered,
    current run (by simpa using returned)⟩

/--
Both messages carry version 2, the one of the older value entered last, and a
read returns the newer value.
-/
theorem race_announces_out_of_order :
    ∃ writers : Writers Json,
      Follows (Writers.step 1) (fun _ _ => True) (.start oneRoom) writers ∧
      (writers.tasks.all fun task => !task.active) = true ∧
      (writers.kernel.notifications.items.map fun message =>
        (message.assigned, message.content.update.bucketCounter,
          message.content.update.value)) =
        [(some 2, 2, some (.number 2)), (some 1, 2, some (.number 1))] ∧
      readFragment writers.kernel.state 1 5 "key" =
        .fragmentReadResponse (some "2".toUTF8) := by
  have returned :
      (overtaking.foldlM (Writers.step 1) (.start oneRoom)).map
          (fun writers => writers.tasks.all fun task => !task.active) =
        some true := by
    decide +kernel
  have observed :
      (overtaking.foldlM (Writers.step 1) (.start oneRoom)).map
          (fun writers =>
            (writers.kernel.notifications.items.map fun message =>
              (message.assigned, message.content.update.bucketCounter,
                message.content.update.value),
              readFragment writers.kernel.state 1 5 "key")) =
        some
          ([(some 2, 2, some (.number 2)), (some 1, 2, some (.number 1))],
            .fragmentReadResponse (some "2".toUTF8)) := by
    decide +kernel
  obtain ⟨writers, ran, equal⟩ := Option.map_eq_some_iff.mp observed
  rw [ran, Option.map_some, Option.some.injEq] at returned
  rw [Prod.mk.injEq] at equal
  exact ⟨writers, follows_of_foldlM ran, returned, equal.1, equal.2⟩

end Syncpond.BroadcastOrder
