import Syncpond.DeltaSnapshot
import Syncpond.Reload
import Syncpond.Sections

/-!
# Deltas across a reload

A room keeps its counter when it is unloaded and loaded again, but its fragments
come back under version zero.  A delta contains the fragments above a version,
so no delta contains a fragment that was reloaded, and the version that
`get_fragment` reports goes back to zero.
-/

namespace Syncpond.DeltaReload

open Syncpond.Protocol
open Syncpond.Serde
open Syncpond.State
open Syncpond.Persistence
open Syncpond.Kernel
open Syncpond.StateRuns
open Syncpond.DeltaSnapshot
open Syncpond.KernelStore
open Syncpond.Consistency
open Syncpond.Reads
open Syncpond.Reload
open Syncpond.Sections
open Syncpond.Library.Maps
open Syncpond.Library.Programs

variable {Value : Type} [SerdeJson Value]

/-! ## Rooms whose versions are zero -/

/-- The fragments of a room all have version zero. -/
def Reset (app : AppState Value) (roomId : RoomId) : Prop :=
  ∀ room, app.rooms[roomId]? = some room → ∀ bucketId key entry,
    getNested room.buckets bucketId key = some entry → entry.keyVersion = 0

omit [SerdeJson Value] in
theorem reset_unloadRoom (kernel : SyncpondKernel Value) (roomId : RoomId) :
    Reset (kernel.unloadRoom roomId).2.state roomId := by
  intro room present bucketId key entry found
  unfold SyncpondKernel.unloadRoom at present
  split at present
  · next app unloaded =>
    obtain ⟨before, after, _, isUnloaded, rfl⟩ := withRoom_ok unloaded
    cases isUnloaded
    simp only [lookup_insert, if_true, Option.some.injEq] at present
    subst present
    simp [RoomState.unload] at found
  · next error failed =>
    simp [AppState.unloadRoom, AppState.withRoom, present, Except.map]
      at failed

omit [SerdeJson Value] in
theorem reset_installRoomData {kernel : SyncpondKernel Value}
    {roomId : RoomId} (reset : Reset kernel.state roomId)
    (data : RoomData Value) :
    Reset (kernel.installRoomData roomId data).2.state roomId := by
  intro room present bucketId key entry found
  unfold SyncpondKernel.installRoomData at present
  split at present
  · next app loaded =>
    obtain ⟨before, after, _, isLoaded, rfl⟩ := withRoom_ok loaded
    cases isLoaded
    simp only [lookup_insert, if_true, Option.some.injEq] at present
    subst present
    exact keyVersion_loadData found
  · exact reset room present bucketId key entry found

/-- `LoadRoom` keeps versions at zero, whether it succeeds or not. -/
theorem reset_loadRoom {kernel : SyncpondKernel Value} {roomId : RoomId}
    (reset : Reset kernel.state roomId) (faults : Faults) :
    Reset ((handleLoadRoom faults roomId).run kernel).2.state roomId := by
  let operation : Storage (RoomData Value) := readRoomData faults roomId
  have reading := Program.Every.run (Program.Every.mono
    (fun _ _ keeps kernel => (keeps kernel).1)
    (OnlyPersists.onRoom operation :
      OnlyPersists (Task.onRoom roomId operation : Task Value _)))
    ((Task.openRoomDb faults roomId).run kernel).2
  have stillReset : Reset ((Task.onRoom roomId operation).run
      ((Task.openRoomDb faults roomId).run kernel).2).2.state roomId := by
    rw [reading]
    exact reset
  unfold handleLoadRoom
  rw [Program.run_bind]
  split
  · exact reset
  · rw [Program.run_bind]
    split
    · exact reset_installRoomData stillReset _
    · exact stillReset
    · exact reset_installRoomData stillReset _

/-- After a reload the fragments of the room have version zero. -/
theorem reset_reload (kernel : SyncpondKernel Value) (roomId : RoomId) :
    Reset (reload kernel roomId).state roomId :=
  reset_loadRoom (reset_unloadRoom kernel roomId) .none

/-! ## Deltas -/

/-- The delta of a room since a version contains a fragment. -/
def InDelta (app : AppState Value) (roomId : RoomId) (since : UInt64)
    (allowedBuckets : FinSet BucketId) (bucketId : BucketId) (key : String)
    (value : Value) : Prop :=
  ∃ view, app.roomDelta roomId since allowedBuckets = some view ∧
    content view (RoomState.bucketName bucketId) key = some value

omit [SerdeJson Value] in
/-- A delta contains only fragments above a version. -/
theorem InDelta.newer {app : AppState Value} {roomId : RoomId}
    {since : UInt64} {allowedBuckets : FinSet BucketId}
    {bucketId : BucketId} {key : String} {value : Value}
    (contained : InDelta app roomId since allowedBuckets bucketId key value) :
    ∃ room entry, app.rooms[roomId]? = some room ∧
      getNested room.buckets bucketId key = some entry ∧
      since < entry.keyVersion := by
  obtain ⟨view, isDelta, isContent⟩ := contained
  obtain ⟨room, present, rfl⟩ := Option.map_eq_some_iff.mp isDelta
  rcases UInt64.lt_or_le since room.roomCounter with older | past
  · rw [content_delta room allowedBuckets bucketId key older] at isContent
    split at isContent
    · obtain ⟨entry, found, isNewer⟩ := Option.bind_eq_some_iff.mp isContent
      split at isNewer
      · next newer => exact ⟨room, entry, present, found, newer⟩
      · cases isNewer
    · cases isContent
  · rw [content_delta_of_le room allowedBuckets key past] at isContent
    cases isContent

omit [SerdeJson Value] in
theorem not_inDelta_of_reset {app : AppState Value} {roomId : RoomId}
    (reset : Reset app roomId) (since : UInt64)
    (allowedBuckets : FinSet BucketId) (bucketId : BucketId) (key : String)
    (value : Value) :
    ¬InDelta app roomId since allowedBuckets bucketId key value := by
  intro contained
  obtain ⟨room, entry, present, found, newer⟩ := contained.newer
  rw [reset room present bucketId key entry found] at newer
  exact absurd newer (UInt64.not_lt.mpr
    (UInt64.le_iff_toNat_le.mpr (Nat.zero_le _)))

/-- A fragment that is read after a reload has version zero. -/
theorem version_reload {kernel : SyncpondKernel Value} {roomId : RoomId}
    {bucketId : BucketId} {key : String} {value : Value} {version : UInt64}
    (read : (reload kernel roomId).state.getFragment roomId bucketId key =
      .ok (value, version)) : version = 0 := by
  unfold AppState.getFragment AppState.readRoom at read
  split at read
  · cases read
  · next room present =>
    obtain ⟨_, _, found, _⟩ := getFragment_eq_ok_iff.mp read
    exact reset_reload kernel roomId room present bucketId key _ found

/-- A fragment of a recorded bucket is readable again, under version zero. -/
theorem getFragment_reload {kernel : SyncpondKernel Value}
    (reachable : Kernel.Reachable kernel) {roomId : RoomId}
    {bucketId : BucketId} (recorded : HasRecord kernel roomId bucketId)
    {key : String} {value : Value} {version : UInt64}
    (read : kernel.state.getFragment roomId bucketId key =
      .ok (value, version)) :
    (reload kernel roomId).state.getFragment roomId bucketId key =
      .ok (value, 0) := by
  obtain ⟨store, refines, reachableStore⟩ :=
    exists_store_of_reachable reachable
  have consistent := consistent_of_reachable reachableStore
  rw [refines.state] at read
  unfold AppState.getFragment AppState.readRoom at read
  split at read
  · cases read
  · next room present =>
    obtain ⟨unlocked, _, found, live⟩ := getFragment_eq_ok_iff.mp read
    obtain ⟨unloaded, stillUnlocked, installed⟩ :=
      rooms_reload refines present unlocked
    have stored : ((store.disks roomId).fragments bucketId)[key]? =
        some value := by
      rw [(consistent.rooms roomId room present).mirrors bucketId key _ found]
      simp [persistedValue, live]
    simp only [AppState.getFragment, AppState.readRoom, installed]
    refine getFragment_eq_ok_iff.mpr ⟨stillUnlocked, rfl, ?_, live⟩
    rw [getNested_loadFrom, if_pos ((hasRecord_iff refines).mp recorded),
      stored]
    rfl

/--
In every state, a live fragment of a recorded bucket that a delta contains is
in that delta after a reload if and only if it was not in it before, that is
never; and the version that `get_fragment` reports for a reloaded fragment is
not lower than before if and only if it was zero before.
-/
theorem delta_survives_reload_iff (kernel : SyncpondKernel Value)
    (roomId : RoomId) (since : UInt64) (allowedBuckets : FinSet BucketId)
    (bucketId : BucketId) (key : String) :
    ((∀ value, SerdeJson.isNull value = false →
        HasRecord kernel roomId bucketId →
        InDelta kernel.state roomId since allowedBuckets bucketId key value →
        InDelta (reload kernel roomId).state roomId since allowedBuckets
          bucketId key value) ↔
      ∀ value, SerdeJson.isNull value = false →
        HasRecord kernel roomId bucketId →
        ¬InDelta kernel.state roomId since allowedBuckets bucketId key
          value) ∧
      ∀ value version reloaded later,
        kernel.state.getFragment roomId bucketId key = .ok (value, version) →
        (reload kernel roomId).state.getFragment roomId bucketId key =
          .ok (reloaded, later) →
        (version ≤ later ↔ version = 0) := by
  have noDelta := not_inDelta_of_reset (reset_reload kernel roomId) since
    allowedBuckets bucketId key
  refine ⟨⟨?_, ?_⟩, ?_⟩
  · exact fun survives value live recorded contained =>
      noDelta value (survives value live recorded contained)
  · exact fun absent value live recorded contained =>
      absurd contained (absent value live recorded)
  · intro value version reloaded later _ read
    rw [version_reload read]
    exact UInt64.le_zero_iff

/-! ## A delta that loses its fragment -/

/-- A room with a fragment in a bucket that was created. -/
def writeInBucket : SyncpondKernel Json :=
  run (boot .none ∅)
    [.command (.newRoom "room"),
      .command (.newBucket 1 5 "bucket"),
      .command (.writeFragment 1 5 "key" "1".toUTF8)]

/-- The delta since version zero contains the fragment, and then no more. -/
theorem reload_empties_delta :
    HasRecord writeInBucket 1 5 ∧
      ((writeInBucket.state.roomDelta 1 0 {5}).bind fun view =>
        content view (RoomState.bucketName 5) "key") = some (.number 1) ∧
      ((reload writeInBucket 1).state.roomDelta 1 0 {5}).map (fun view =>
        view.buckets.toList) = some [] ∧
      (writeInBucket.state.getFragment 1 5 "key").toOption =
        some (.number 1, 1) ∧
      ((reload writeInBucket 1).state.getFragment 1 5 "key").toOption =
        some (.number 1, 0) := by
  refine ⟨exists_mem_db_iff.mpr ?_, ?_⟩
  · decide +kernel
  · decide +kernel

end Syncpond.DeltaReload
