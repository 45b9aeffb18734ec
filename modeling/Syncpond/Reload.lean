import Syncpond.Consistency
import Syncpond.Reads

/-!
# Unloading and loading a room

`UnloadRoom` followed by `LoadRoom` brings a fragment back exactly when its
bucket has a persisted record.  A write to a bucket id that no `NewBucket`
created makes the bucket in memory and persists the fragment, but no record;
since loading is driven by the records, the fragment is on disk and no longer
readable.
-/

namespace Syncpond.Reload

open Syncpond.Protocol
open Syncpond.Serde
open Syncpond.State
open Syncpond.Persistence
open Syncpond.Kernel
open Syncpond.Disks
open Syncpond.DiskOperations
open Syncpond.KernelStore
open Syncpond.Consistency
open Syncpond.StateRuns
open Syncpond.Reads
open Syncpond.Library.Maps

variable {Value : Type} [SerdeJson Value]

/-- The kernel after the room is unloaded and loaded again. -/
def reload (kernel : SyncpondKernel Value) (roomId : RoomId) :
    SyncpondKernel Value :=
  run kernel [.command (.unloadRoom roomId), .command (.loadRoom roomId)]

/-- The room that a reload installs is what its disk says. -/
theorem rooms_reload {kernel : SyncpondKernel Value}
    {store : Store Value} (refines : Refines kernel store)
    {roomId : RoomId} {room : RoomState Value}
    (present : store.state.rooms[roomId]? = some room)
    (unlocked : room.ioLocked = false) :
    ∃ unloaded : RoomState Value, unloaded.ioLocked = false ∧
      (reload kernel roomId).state.rooms[roomId]? =
        some (Store.loadFrom (store.disks roomId) unloaded) := by
  have reloaded := refines_run refines
    [.command (.unloadRoom roomId), .command (.loadRoom roomId)]
  have unloaded : store.state.unloadRoom roomId =
      .ok { store.state with
        rooms := store.state.rooms.insert roomId room.unload } := by
    simp [AppState.unloadRoom, AppState.withRoom, present,
      Except.map]
  refine ⟨room.unload, unlocked, ?_⟩
  rw [reload, reloaded.state]
  simp [Store.apply, Store.command, unloaded, Store.loadRoom,
    Store.openRoom]

/-- What is readable after a reload, over the disk. -/
theorem readable_reload {kernel : SyncpondKernel Value}
    {store : Store Value} (refines : Refines kernel store)
    {roomId : RoomId} {room : RoomState Value}
    (present : store.state.rooms[roomId]? = some room)
    (unlocked : room.ioLocked = false)
    (noTombstones : NoTombstones (store.disks roomId))
    {bucketId : BucketId} {key : String} {value : Value} :
    Readable (reload kernel roomId).state roomId bucketId key value ↔
      bucketId ∈ (store.disks roomId).records ∧
      ((store.disks roomId).fragments bucketId)[key]? = some value := by
  obtain ⟨unloaded, stillUnlocked, installed⟩ :=
    rooms_reload refines present unlocked
  constructor
  · rintro ⟨_, entry, same, _, _, found, rfl, _⟩
    rw [installed] at same
    cases same
    rw [getNested_loadFrom] at found
    split at found
    · next recorded =>
      obtain ⟨value, stored, rfl⟩ := Option.map_eq_some_iff.mp found
      exact ⟨recorded, stored⟩
    · cases found
  · rintro ⟨recorded, stored⟩
    refine ⟨_, ⟨value, 0⟩, installed, stillUnlocked, rfl, ?_, rfl, ?_⟩
    · rw [getNested_loadFrom, if_pos recorded, stored]
      rfl
    · exact noTombstones bucketId key value stored

/-- What a reload answers is what the disk says of recorded buckets. -/
theorem readFragment_reload {kernel : SyncpondKernel Value}
    {store : Store Value} (refines : Refines kernel store)
    {roomId : RoomId} {room : RoomState Value}
    (present : store.state.rooms[roomId]? = some room)
    (unlocked : room.ioLocked = false)
    (noTombstones : NoTombstones (store.disks roomId))
    {bucketId : BucketId} (recorded : bucketId ∈ (store.disks roomId).records)
    (key : String) :
    readFragment (reload kernel roomId).state roomId bucketId key =
      answer ((store.disks roomId).fragments bucketId)[key]? := by
  obtain ⟨unloaded, stillUnlocked, installed⟩ :=
    rooms_reload refines present unlocked
  have inMemory :
      memoryFragment (reload kernel roomId).state roomId bucketId key =
        ((store.disks roomId).fragments bucketId)[key]? := by
    simp only [memoryFragment, installed, Option.bind_some,
      getNested_loadFrom, recorded, if_true]
    cases stored : ((store.disks roomId).fragments bucketId)[key]? with
    | none => rfl
    | some value =>
        have live := noTombstones bucketId key value stored
        simp [persistedValue, live]
  rw [← inMemory]
  exact readFragment_eq_answer installed stillUnlocked rfl bucketId key

/--
A fragment that was readable is readable after a reload, with the same bytes,
if and only if its bucket has a persisted record.
-/
theorem readFragment_reload_iff {kernel : SyncpondKernel Value}
    (reachable : Kernel.Reachable kernel) {roomId : RoomId}
    {bucketId : BucketId} {key : String} {bytes : FragmentData}
    (read : readFragment kernel.state roomId bucketId key =
      .fragmentReadResponse (some bytes)) :
    readFragment (reload kernel roomId).state roomId bucketId key =
        .fragmentReadResponse (some bytes) ↔
      HasRecord kernel roomId bucketId := by
  obtain ⟨store, refines, reachableStore⟩ :=
    exists_store_of_reachable reachable
  have consistent := consistent_of_reachable reachableStore
  obtain ⟨value, readable, written⟩ := readFragment_eq_some_iff.mp read
  obtain ⟨room, entry, present, _, _, found, rfl, live⟩ := readable
  rw [refines.state] at present
  have unlocked := (consistent.rooms roomId room present).unlocked
  have stored : ((store.disks roomId).fragments bucketId)[key]? =
      some entry.value := by
    rw [(consistent.rooms roomId room present).mirrors bucketId key entry
      found, persistedValue, live]
    rfl
  rw [readFragment_eq_some_iff, hasRecord_iff refines]
  simp only [readable_reload refines present unlocked
    (consistent.noTombstones roomId), stored, Option.some.injEq]
  constructor
  · rintro ⟨_, ⟨recorded, _⟩, _⟩
    exact recorded
  · intro recorded
    exact ⟨entry.value, ⟨recorded, rfl⟩, written⟩

/-! ## A write without a bucket record -/

/-- A room, and a write to a bucket that was never created. -/
def writeWithoutBucket : SyncpondKernel Json :=
  run (boot .none ∅)
    [.command (.newRoom "room"),
      .command (.writeFragment 1 5 "key" "1".toUTF8)]

theorem readFragment_reload_writeWithoutBucket :
    readFragment (reload writeWithoutBucket 1).state 1 5 "key" =
        .fragmentReadResponse (some "1".toUTF8) ↔
      HasRecord writeWithoutBucket 1 5 :=
  readFragment_reload_iff ⟨_, rfl⟩ (by decide +kernel)

/-- The written fragment is lost by the reload. -/
theorem reload_loses_fragment :
    readFragment writeWithoutBucket.state 1 5 "key" =
        .fragmentReadResponse (some "1".toUTF8) ∧
      readFragment (reload writeWithoutBucket 1).state 1 5 "key" =
        .fragmentReadResponse none := by
  decide +kernel

end Syncpond.Reload
