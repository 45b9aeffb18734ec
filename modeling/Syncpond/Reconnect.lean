import Syncpond.Acknowledgement
import Syncpond.Views

/-!
# Reconnecting

A client that was away sends the last version that it saw, which the server
does not look at: the initial sync of a reconnect is that of a first
connection.  It sets what is readable and removes nothing, so a client keeps
the keys that were deleted while it was away.
-/

namespace Syncpond.Reconnect

open Syncpond.Protocol
open Syncpond.Serde
open Syncpond.State
open Syncpond.Kernel
open Syncpond.KernelStore
open Syncpond.Consistency
open Syncpond.Hub
open Syncpond.Reads
open Syncpond.Views
open Syncpond.Acknowledgement
open Syncpond.Library.Maps

variable {Value : Type} [SerdeJson Value]

/-- The frames of a client that connects with a `last_seen_counter`. -/
def initialSync (iteration : Iteration Value) (app : AppState Value)
    (roomId : RoomId) (allowedBuckets : FinSet BucketId)
    (_lastSeenCounter : UInt64) : List ProtoDataUpdate :=
  syncFrames iteration app roomId allowedBuckets.toList

/-! ## Runs of writes -/

/-- A `WriteFragment` command. -/
structure Write where
  roomId : RoomId
  bucketId : BucketId
  key : String
  data : FragmentData

/-- The command of a write. -/
def Write.event (write : Write) : Event :=
  .command
    (.writeFragment write.roomId write.bucketId write.key write.data)

/-- The kernel after a run of writes. -/
def writeAll (kernel : SyncpondKernel Value) (writes : List Write) :
    SyncpondKernel Value :=
  run kernel (writes.map Write.event)

/-- The payload of the last write to a fragment. -/
def lastPayload (writes : List Write) (roomId : RoomId)
    (bucketId : BucketId) (key : String) : Option FragmentData :=
  writes.foldl
    (fun last write =>
      if write.roomId = roomId ∧ write.bucketId = bucketId ∧
        write.key = key then some write.data else last)
    none

theorem lastPayload_append (writes : List Write) (write : Write)
    (roomId : RoomId) (bucketId : BucketId) (key : String) :
    lastPayload (writes ++ [write]) roomId bucketId key =
      if write.roomId = roomId ∧ write.bucketId = bucketId ∧
        write.key = key then some write.data
      else lastPayload writes roomId bucketId key := by
  rw [lastPayload, List.foldl_append]
  rfl

/-- The room takes writes. -/
structure Ready (app : AppState Value) (roomId : RoomId)
    (room : RoomState Value) : Prop where
  present : app.rooms[roomId]? = some room
  unlocked : room.ioLocked = false
  loaded : room.loaded = true
  noTransaction : room.txBuffer = none

/-- A loaded room of a reachable kernel is ready. -/
theorem exists_ready {kernel : SyncpondKernel Value}
    (reachable : Kernel.Reachable kernel) {roomId : RoomId}
    (loaded : kernel.state.isRoomLoaded roomId = true) :
    ∃ room, Ready kernel.state roomId room := by
  obtain ⟨room, present, resident⟩ := isRoomLoaded_iff.mp loaded
  obtain ⟨store, refines, reachableStore⟩ :=
    exists_store_of_reachable reachable
  have consistent := (consistent_of_reachable reachableStore).rooms roomId
    room (refines.state ▸ present)
  exact ⟨room, present, consistent.unlocked, resident,
    consistent.noTransaction⟩

/-- What a write leaves of a fragment that was live or not. -/
def written (live : Option Value) (payload : Option FragmentData) :
    Option Value :=
  match payload with
  | some data => persistedValue (SerdeJson.parsePayload data)
  | none => live

/-- One write stores its payload under its key. -/
theorem ready_write {kernel : SyncpondKernel Value} {roomId : RoomId}
    {room : RoomState Value} (ready : Ready kernel.state roomId room)
    (write : Write) :
    ∃ after, Ready (apply .none kernel write.event).state roomId after ∧
      ∀ bucketId key,
        memoryFragment (apply .none kernel write.event).state roomId bucketId
            key =
          if write.roomId = roomId ∧ write.bucketId = bucketId ∧
            write.key = key then
            persistedValue (SerdeJson.parsePayload write.data)
          else memoryFragment kernel.state roomId bucketId key := by
  by_cases same : write.roomId = roomId
  · subst same
    have stored : (apply .none kernel write.event).state.rooms[write.roomId]? =
        _ :=
      rooms_writeFragment_same write.bucketId write.key write.data
        ready.present ready.unlocked ready.loaded ready.noTransaction
    refine ⟨_, ⟨stored, ready.unlocked, ready.loaded, ready.noTransaction⟩, ?_⟩
    intro bucketId key
    simp only [memoryFragment, stored, Option.bind_some, RoomState.store,
      getNested_insertNested, true_and, ready.present]
    split <;> rfl
  · have kept : (apply .none kernel write.event).state.rooms[roomId]? = _ :=
      rooms_writeFragment_other write.bucketId write.key write.data kernel
        (fun equal => same equal.symm)
    refine ⟨room, { ready with present := kept.trans ready.present }, ?_⟩
    intro bucketId key
    simp only [memoryFragment, kept, same, false_and, if_false]

/-- After a run of writes, the last payload of a key decides. -/
theorem ready_writes {kernel : SyncpondKernel Value} {roomId : RoomId}
    {room : RoomState Value} (ready : Ready kernel.state roomId room)
    (writes : List Write) :
    ∃ after,
      Ready (writeAll kernel writes).state roomId after ∧
      ∀ bucketId key,
        memoryFragment (writeAll kernel writes).state roomId
            bucketId key =
          written (memoryFragment kernel.state roomId bucketId key)
            (lastPayload writes roomId bucketId key) := by
  induction writes using List.reverseRecOn with
  | nil => exact ⟨room, ready, fun _ _ => rfl⟩
  | append_singleton front write ih =>
      obtain ⟨middle, readyMiddle, before⟩ := ih
      obtain ⟨after, readyAfter, stored⟩ := ready_write readyMiddle write
      have ran : writeAll kernel (front ++ [write]) =
          apply .none (writeAll kernel front) write.event := by
        simp [writeAll, run]
      rw [ran]
      refine ⟨after, readyAfter, fun bucketId key => ?_⟩
      rw [stored, before, lastPayload_append]
      split <;> rfl

/-! ## The view after a reconnect -/

/-- No fragment that was readable is deleted by its last write. -/
def KeepsReadable (kernel : SyncpondKernel Value) (roomId : RoomId)
    (allowedBuckets : FinSet BucketId) (writes : List Write) : Prop :=
  ∀ bucketId ∈ allowedBuckets, ∀ key,
    readable kernel.state roomId bucketId key ≠ none →
    ∀ data, lastPayload writes roomId bucketId key = some data →
      SerdeJson.isNull (SerdeJson.parsePayload data : Value) = false

/-- A fragment that was live still is, unless its last payload is null. -/
theorem written_ne_none_iff {live : Option Value}
    {payload : Option FragmentData} :
    (live ≠ none → written live payload ≠ none) ↔
      (live ≠ none → ∀ data, payload = some data →
        SerdeJson.isNull (SerdeJson.parsePayload data : Value) = false) := by
  cases payload with
  | none => simp [written]
  | some data => simp [written, persistedValue]

/-- Frames that only set keys recover a key that is still there. -/
theorem or_eq_left_iff {new old : Option ByteArray} :
    new.or old = new ↔ (old ≠ none → new ≠ none) := by
  cases old <;> cases new <;> simp

/--
A client that comes back to a loaded room, with the content of any earlier
state of it, ends with the current content exactly when no key that it knew
was deleted in the meantime, whatever counter it sends.
-/
theorem reconnect_recovers_iff {kernel : SyncpondKernel Value}
    (reachable : Kernel.Reachable kernel) {roomId : RoomId}
    (loaded : kernel.state.isRoomLoaded roomId = true)
    (iteration : Iteration Value) (allowedBuckets : FinSet BucketId)
    (writes : List Write) (lastSeenCounter : UInt64) :
    (content kernel.state roomId allowedBuckets).receive
        (initialSync iteration (writeAll kernel writes).state roomId
          allowedBuckets lastSeenCounter) =
      content (writeAll kernel writes).state roomId allowedBuckets ↔
    KeepsReadable kernel roomId allowedBuckets writes := by
  obtain ⟨room, ready⟩ := exists_ready reachable loaded
  obtain ⟨after, readyAfter, fragments⟩ := ready_writes ready writes
  have readableThen := readable_eq ready.present ready.unlocked ready.loaded
  have readableNow (bucketId : BucketId) (key : String) :
      readable (writeAll kernel writes).state roomId bucketId key =
        (written (memoryFragment kernel.state roomId bucketId key)
          (lastPayload writes roomId bucketId key)).map encode := by
    rw [readable_eq readyAfter.present readyAfter.unlocked readyAfter.loaded,
      fragments]
  -- One key of an allowed bucket, seen as a fragment in memory.
  have recovers (bucketId : BucketId) (key : String)
      (allowed : bucketId ∈ allowedBuckets) :
      (content kernel.state roomId allowedBuckets).receive
          (initialSync iteration (writeAll kernel writes).state roomId
            allowedBuckets lastSeenCounter) (bucketId, key) =
        content (writeAll kernel writes).state roomId allowedBuckets
          (bucketId, key) ↔
      (readable kernel.state roomId bucketId key ≠ none →
        ∀ data, lastPayload writes roomId bucketId key = some data →
          SerdeJson.isNull (SerdeJson.parsePayload data : Value) =
            false) := by
    rw [initialSync, receive_syncFrames, fragments]
    simp only [Std.ExtTreeSet.mem_toList, allowed, if_true, content,
      readableThen, readableNow, or_eq_left_iff, ne_eq, Option.map_eq_none_iff]
    exact written_ne_none_iff
  constructor
  · intro same bucketId allowed key
    exact (recovers bucketId key allowed).mp (congrFun same (bucketId, key))
  · intro keeps
    funext target
    obtain ⟨bucketId, key⟩ := target
    by_cases allowed : bucketId ∈ allowedBuckets
    · exact (recovers bucketId key allowed).mpr (keeps bucketId allowed key)
    · rw [initialSync, receive_syncFrames]
      simp [allowed, content]

/-! ## Example reconnects -/

/-- A room with one fragment. -/
def oneFragment : SyncpondKernel Json :=
  run (boot .none ∅)
    [.command (.newRoom "room"), .command (.newBucket 1 5 "bucket"),
      .command (.writeFragment 1 5 "key" "1".toUTF8)]

/-- The iteration in ascending order. -/
def inOrder : Iteration Json :=
  ⟨Std.ExtTreeMap.toList, fun _ => .refl _⟩

/-- A value changes and a key is added while the client is away. -/
def changes : List Write :=
  [⟨1, 5, "key", "2".toUTF8⟩, ⟨1, 5, "other", "3".toUTF8⟩]

theorem keepsReadable_of_forall {kernel : SyncpondKernel Value}
    {roomId : RoomId} {allowedBuckets : FinSet BucketId}
    {writes : List Write}
    (live : ∀ write ∈ writes,
      SerdeJson.isNull (SerdeJson.parsePayload write.data : Value) = false) :
    KeepsReadable kernel roomId allowedBuckets writes := by
  intro bucketId _ key _
  induction writes using List.reverseRecOn with
  | nil => intro data absent; cases absent
  | append_singleton front write ih =>
      intro data last
      rw [lastPayload_append] at last
      split at last
      · cases last
        exact live write (by simp)
      · exact ih (fun other member => live other (by simp [member])) data last

theorem reconnect_recovers_changes :
    (content oneFragment.state 1 (({} : FinSet BucketId).insert 5)).receive
        (initialSync inOrder (writeAll oneFragment changes).state 1
          (({} : FinSet BucketId).insert 5) 1) =
      content (writeAll oneFragment changes).state 1
        (({} : FinSet BucketId).insert 5) := by
  have reachable : Kernel.Reachable oneFragment := ⟨_, rfl⟩
  have loaded : oneFragment.state.isRoomLoaded 1 = true := by decide +kernel
  rw [reconnect_recovers_iff reachable loaded]
  exact keepsReadable_of_forall (by decide +kernel)

/-- A key that was deleted while the client was away stays in its view. -/
theorem deletedKey_stays :
    ¬ ∀ writes : List Write,
      (content oneFragment.state 1 (({} : FinSet BucketId).insert 5)).receive
          (initialSync inOrder
            (writeAll oneFragment writes).state 1
            (({} : FinSet BucketId).insert 5) 1) =
        content (writeAll oneFragment writes).state 1
          (({} : FinSet BucketId).insert 5) := by
  intro claimed
  have same := congrFun (claimed [⟨1, 5, "key", "null".toUTF8⟩]) (5, "key")
  revert same
  decide +kernel

end Syncpond.Reconnect
