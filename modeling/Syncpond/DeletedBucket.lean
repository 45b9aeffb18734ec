import Syncpond.Consistency
import Syncpond.Reads

/-!
# Deleted buckets

`DeleteBucket` removes the bucket from memory and its record from the disk, but
leaves the fragments on the disk.  They come back when the bucket is created
again and the room is loaded.  A fragment of a deleted bucket stays hidden
exactly when the room is never loaded while the bucket has a record and the
fragment is still on the disk.
-/

namespace Syncpond.DeletedBucket

open Syncpond.Protocol
open Syncpond.Serde
open Syncpond.State
open Syncpond.Persistence
open Syncpond.Kernel
open Syncpond.Disks
open Syncpond.DiskOperations
open Syncpond.KernelStore
open Syncpond.Consistency
open Syncpond.StateRuns
open Syncpond.Reads
open Syncpond.Library.Maps
open Syncpond.Library.Programs
open Syncpond.Library.Runs
open Syncpond.Library.Text

variable {Value : Type} [SerdeJson Value]
variable {roomId : RoomId} {bucketId : BucketId} {key : String}

/-! ## Where a shown fragment comes from -/

/-- A room has a live fragment under the key. -/
def ShownIn (room : RoomState Value) (bucketId : BucketId)
    (key : String) : Prop :=
  ∃ entry, getNested room.buckets bucketId key = some entry ∧
    SerdeJson.isNull entry.value = false

theorem ShownIn.of_subset {room after : RoomState Value}
    (subset : ∀ {bucketId key entry},
      getNested after.buckets bucketId key = some entry →
        getNested room.buckets bucketId key = some entry)
    (shown : ShownIn after bucketId key) : ShownIn room bucketId key := by
  obtain ⟨entry, found, live⟩ := shown
  exact ⟨entry, subset found, live⟩

theorem not_shownIn_of_buckets_empty {room : RoomState Value}
    (empty : room.buckets = ∅) : ¬ShownIn room bucketId key := by
  rintro ⟨entry, found, _⟩
  simp [empty] at found

/-- What is shown after a room changed was shown before, or by that room. -/
theorem shown_of_insert {app after : AppState Value} {changed : RoomId}
    {room : RoomState Value}
    (rooms : after.rooms = app.rooms.insert changed room)
    (shown : Shown after roomId bucketId key) :
    (changed = roomId ∧ ShownIn room bucketId key) ∨
      Shown app roomId bucketId key := by
  obtain ⟨found, entry, present, stored, live⟩ := shown
  rw [rooms, lookup_insert] at present
  split at present
  · next same =>
    cases present
    exact Or.inl ⟨same, entry, stored, live⟩
  · exact Or.inr ⟨found, entry, present, stored, live⟩

theorem shown_of_shownIn {app : AppState Value} {room : RoomState Value}
    (present : app.rooms[roomId]? = some room)
    (shown : ShownIn room bucketId key) : Shown app roomId bucketId key := by
  obtain ⟨entry, found, live⟩ := shown
  exact ⟨room, entry, present, found, live⟩

/-- The room is known, and its disk has the bucket's record and the fragment. -/
def Restorable (store : Store Value) (roomId : RoomId)
    (bucketId : BucketId) (key : String) : Prop :=
  roomId ∈ store.state.rooms ∧ bucketId ∈ (store.disks roomId).records ∧
    key ∈ (store.disks roomId).fragments bucketId

section Steps

variable {store : Store Value}

theorem shown_newRoom {name : String}
    (shown : Shown (store.newRoom name).state roomId bucketId key) :
    Shown store.state roomId bucketId key := by
  rcases shown_of_insert (rooms_newRoom store name) shown with ⟨_, fresh⟩ | before
  · exact absurd fresh (not_shownIn_of_buckets_empty rfl)
  · exact before

theorem shown_mutate {changed : RoomId}
    {effect : RoomState Value → RoomState Value}
    {change : Disk Value → Disk Value}
    (subset : ∀ {room : RoomState Value} {bucketId key entry},
      getNested (effect room).buckets bucketId key = some entry →
        getNested room.buckets bucketId key = some entry)
    (shown : Shown (store.mutate changed effect change).state
      roomId bucketId key) :
    Shown store.state roomId bucketId key := by
  unfold Store.mutate at shown
  cases present : store.state.rooms[changed]? with
  | none => simpa [present] using shown
  | some room =>
      cases loaded : room.loaded with
      | false => simpa [present, loaded] using shown
      | true =>
          simp only [present, loaded, Bool.not_true, Bool.false_eq_true,
            if_false] at shown
          rcases shown_of_insert rfl shown with ⟨rfl, changed⟩ | before
          · exact shown_of_shownIn present (changed.of_subset subset)
          · exact before

theorem shown_writeFragment (consistent : Consistent store)
    {writtenRoom : RoomId} {writtenBucket : BucketId} {writtenKey : String}
    {parsed : Value}
    (shown : Shown (store.writeFragment writtenRoom writtenBucket writtenKey
      parsed).state roomId bucketId key) :
    Shown store.state roomId bucketId key ∨
      (writtenRoom = roomId ∧ writtenBucket = bucketId ∧
        writtenKey = key) := by
  unfold Store.writeFragment at shown
  cases loaded : store.state.isRoomLoaded writtenRoom with
  | false =>
      refine Or.inl ?_
      simpa [loaded] using shown
  | true =>
      obtain ⟨room, present, resident⟩ := isRoomLoaded_iff.mp loaded
      have before := consistent.rooms writtenRoom room present
      have written := setFragment_eq_ok present before.unlocked resident
        before.noTransaction writtenBucket writtenKey parsed
      simp only [loaded, written, Bool.not_true, Bool.false_eq_true,
        if_false] at shown
      rcases shown_of_insert rfl shown with ⟨rfl, entry, found, live⟩ | before
      · simp only [RoomState.store, getNested_insertNested] at found
        split at found
        · next same => exact Or.inr ⟨rfl, same.1, same.2⟩
        · exact Or.inl ⟨room, entry, present, found, live⟩
      · exact Or.inl before

theorem shown_loadRoom {loadedRoom : RoomId}
    (shown : Shown (store.loadRoom loadedRoom).state roomId bucketId key) :
    Shown store.state roomId bucketId key ∨
      (loadedRoom = roomId ∧ Restorable store roomId bucketId key) := by
  unfold Store.loadRoom at shown
  cases present : store.state.rooms[loadedRoom]? with
  | none =>
      refine Or.inl ?_
      simpa [present, Store.openRoom] using shown
  | some room =>
      simp only [present] at shown
      rcases shown_of_insert rfl shown with ⟨rfl, entry, found, _⟩ | before
      · rw [getNested_loadFrom] at found
        split at found
        · next recorded =>
          obtain ⟨value, stored, _⟩ := Option.map_eq_some_iff.mp found
          refine Or.inr ⟨rfl, ?_, recorded, ?_⟩
          · exact Std.ExtTreeMap.mem_iff_isSome_getElem?.mpr
              (by simp [present])
          · exact Std.ExtTreeMap.mem_iff_isSome_getElem?.mpr
              (by simp [stored])
        · cases found
      · exact Or.inl before

/-- A restorable fragment is shown once its room is loaded. -/
theorem shown_of_restorable (consistent : Consistent store)
    (restorable : Restorable store roomId bucketId key) :
    Shown (store.loadRoom roomId).state roomId bucketId key := by
  obtain ⟨known, recorded, stored⟩ := restorable
  obtain ⟨room, present⟩ := Option.isSome_iff_exists.mp
    (Std.ExtTreeMap.mem_iff_isSome_getElem?.mp known)
  obtain ⟨value, found⟩ := Option.isSome_iff_exists.mp
    (Std.ExtTreeMap.mem_iff_isSome_getElem?.mp stored)
  refine ⟨Store.loadFrom (store.disks roomId) room, ⟨value, 0⟩, ?_, ?_, ?_⟩
  · simp [Store.loadRoom, present]
  · rw [getNested_loadFrom, if_pos recorded, found]
    rfl
  · exact consistent.noTombstones roomId bucketId key value found

theorem shown_command (consistent : Consistent store) {command : Commands}
    (shown : Shown (store.command command).state roomId bucketId key) :
    Shown store.state roomId bucketId key ∨
      (∃ data, command = .writeFragment roomId bucketId key data) ∨
      (command = .loadRoom roomId ∧
        Restorable store roomId bucketId key) := by
  cases command with
  | newRoom name => exact Or.inl (shown_newRoom shown)
  | newBucket => exact Or.inl (shown_mutate getNested_newBucket shown)
  | deleteBucket => exact Or.inl (shown_mutate getNested_deleteBucket shown)
  | newMember =>
      refine Or.inl (shown_mutate ?_ shown)
      intro room bucketId key entry found
      unfold RoomEffect.newMember at found
      split at found <;> exact found
  | deleteMember changed member =>
      refine Or.inl ?_
      have kept {room : RoomState Value} {bucketId key entry}
          (found : getNested (RoomEffect.deleteMember (trim member)
            room).buckets bucketId key = some entry) :
          getNested room.buckets bucketId key = some entry :=
        found
      exact shown_mutate kept shown
  | writeFragment writtenRoom writtenBucket writtenKey data =>
      rcases shown_writeFragment consistent shown with
        before | ⟨rfl, rfl, rfl⟩
      · exact Or.inl before
      · exact Or.inr (Or.inl ⟨data, rfl⟩)
  | readFragment => exact Or.inl shown
  | loadRoom =>
      rcases shown_loadRoom shown with before | ⟨rfl, restorable⟩
      · exact Or.inl before
      · exact Or.inr (Or.inr ⟨rfl, restorable⟩)
  | unloadRoom unloadedRoom =>
      refine Or.inl ?_
      cases unloaded : store.state.unloadRoom unloadedRoom with
      | error error => simpa [Store.command, unloaded] using shown
      | ok app =>
          simp only [Store.command, unloaded] at shown
          obtain ⟨room, after, _, result, rfl⟩ := withRoom_ok unloaded
          cases result
          rcases shown_of_insert rfl shown with ⟨_, empty⟩ | before
          · exact absurd empty (not_shownIn_of_buckets_empty rfl)
          · exact before

/-- A fragment that an event shows was shown before, written or loaded. -/
theorem shown_apply (consistent : Consistent store) {event : Event}
    (shown : Shown (store.apply event).state roomId bucketId key) :
    Shown store.state roomId bucketId key ∨
      (∃ data, event =
        .command (.writeFragment roomId bucketId key data)) ∨
      (event = .command (.loadRoom roomId) ∧
        Restorable store roomId bucketId key) := by
  cases event with
  | command command =>
      rcases shown_command consistent shown with
        before | ⟨data, rfl⟩ | ⟨rfl, restorable⟩
      · exact Or.inl before
      · exact Or.inr (Or.inl ⟨data, rfl⟩)
      · exact Or.inr (Or.inr ⟨rfl, restorable⟩)
  | deleteRoom deletedRoom =>
      refine Or.inl ?_
      simp only [Store.apply, AppState.deleteRoom] at shown
      split at shown
      · next app deleted =>
        split at deleted
        · cases deleted
          obtain ⟨room, entry, present, found, live⟩ := shown
          simp only [lookup_erase] at present
          split at present
          · cases present
          · exact ⟨room, entry, present, found, live⟩
        · cases deleted
      · exact shown
  | restart =>
      obtain ⟨room, entry, present, found, _⟩ := shown
      simp only [Store.apply, Store.restart, lookup_registerExisting]
        at present
      split at present
      · cases present
        simp [RoomState.fresh] at found
      · simp [AppState.new] at present

/-- The deletion itself hides every fragment of the bucket. -/
theorem not_shown_deleteBucket
    (loaded : ∀ room, store.state.rooms[roomId]? = some room →
      room.loaded = true) :
    ¬Shown (store.command (.deleteBucket roomId bucketId)).state
      roomId bucketId key := by
  intro shown
  obtain ⟨after, entry, present, found, _⟩ := shown
  simp only [Store.command, Store.mutate] at present
  cases before : store.state.rooms[roomId]? with
  | none =>
      simp only [before] at present
      cases present
  | some room =>
      simp only [before, loaded room before, Bool.not_true,
        Bool.false_eq_true, if_false, Store.persist, Store.openRoom,
        lookup_insert, if_true, Option.some.injEq] at present
      subst present
      simp [getNested, RoomEffect.deleteBucket] at found

end Steps

/-! ## Runs after the deletion -/

/-- The event loads the room while the fragment can be restored from disk. -/
def LoadsFragment (kernel : SyncpondKernel Value) (event : Event)
    (roomId : RoomId) (bucketId : BucketId) (key : String) : Prop :=
  event = .command (.loadRoom roomId) ∧ roomId ∈ kernel.state.rooms ∧
    HasRecord kernel roomId bucketId ∧ HasFragment kernel roomId bucketId key

theorem hasRecord_and_hasFragment_iff {kernel : SyncpondKernel Value}
    {store : Store Value} (refines : Refines kernel store) :
    (roomId ∈ kernel.state.rooms ∧ HasRecord kernel roomId bucketId ∧
        HasFragment kernel roomId bucketId key) ↔
      Restorable store roomId bucketId key := by
  rw [hasRecord_iff refines, hasFragment_iff refines, refines.state]
  rfl

/-- An event keeps a fragment hidden unless it loads the fragment. -/
theorem hidden_apply_iff {kernel : SyncpondKernel Value}
    (reachable : Kernel.Reachable kernel) {event : Event}
    (hidden : Hidden kernel.state roomId bucketId key)
    (notWritten : ∀ data, event ≠
      .command (.writeFragment roomId bucketId key data)) :
    Hidden (apply .none kernel event).state roomId bucketId key ↔
      ¬LoadsFragment kernel event roomId bucketId key := by
  obtain ⟨store, refines, reachableStore⟩ :=
    exists_store_of_reachable reachable
  have consistent := consistent_of_reachable reachableStore
  have applied := refines_apply refines event
  rw [hidden_iff_not_shown, refines.state] at hidden
  rw [hidden_iff_not_shown, applied.state, LoadsFragment,
    hasRecord_and_hasFragment_iff refines]
  refine not_congr ⟨?_, ?_⟩
  · intro shown
    rcases shown_apply consistent shown with before | ⟨data, equal⟩ | loads
    · exact absurd before hidden
    · exact absurd equal (notWritten data)
    · exact loads
  · rintro ⟨rfl, restorable⟩
    exact shown_of_restorable consistent restorable

/-- `DeleteBucket` succeeds on a loaded room and on an unknown one. -/
theorem loaded_of_deleteBucketResponse {kernel : SyncpondKernel Value}
    (deleted : ((handleDeleteBucket .none roomId bucketId).run kernel).1 =
      .deleteBucketResponse)
    {room : RoomState Value}
    (present : kernel.state.rooms[roomId]? = some room) :
    room.loaded = true := by
  cases loaded : room.loaded with
  | true => rfl
  | false =>
      simp [handleDeleteBucket, mutateAndPersist,
        SyncpondKernel.mutateRoom, present, loaded, Task.release,
        roomNotLoaded] at deleted

/--
After a successful `DeleteBucket`, in every run that does not write the key
again, the fragment stays hidden in every state if and only if no `LoadRoom`
of the room happens while the bucket has a record again and the fragment is
still on the disk.
-/
theorem deletedBucket_stays_hidden_iff {kernel : SyncpondKernel Value}
    (reachable : Kernel.Reachable kernel)
    (deleted : ((handleDeleteBucket .none roomId bucketId).run kernel).1 =
      .deleteBucketResponse)
    {events : List Event}
    (notWritten : ∀ event ∈ events, ∀ data, event ≠
      .command (.writeFragment roomId bucketId key data)) :
    Throughout (apply .none)
        (fun later => Hidden later.state roomId bucketId key)
        (apply .none kernel (.command (.deleteBucket roomId bucketId)))
        events ↔
      Along (apply .none)
        (fun later event => ¬LoadsFragment later event roomId bucketId key)
        (apply .none kernel (.command (.deleteBucket roomId bucketId)))
        events := by
  obtain ⟨store, refines, _⟩ := exists_store_of_reachable reachable
  have loaded : ∀ room, store.state.rooms[roomId]? = some room →
      room.loaded = true := by
    intro room present
    rw [← refines.state] at present
    exact loaded_of_deleteBucketResponse deleted present
  have hidden : Hidden (apply .none kernel
      (.command (.deleteBucket roomId bucketId))).state
      roomId bucketId key := by
    rw [hidden_iff_not_shown, (refines_apply refines _).state]
    exact not_shown_deleteBucket loaded
  exact throughout_iff_along Kernel.Reachable _
    (fun _ _ reachable => reachable.apply)
    (fun _ _ reachable hidden notWritten =>
      hidden_apply_iff reachable hidden notWritten)
    (along_iff_forall.mpr notWritten) reachable.apply hidden

/-! ## A deleted bucket that comes back -/

/-- A room whose bucket holds a fragment. -/
def bucketWithFragment : SyncpondKernel Json :=
  run (boot .none ∅)
    [.command (.newRoom "room"),
      .command (.newBucket 1 5 "bucket"),
      .command (.writeFragment 1 5 "key" "1".toUTF8)]

/-- The bucket is created again and the room is loaded again. -/
def recreation : List Event :=
  [.command (.newBucket 1 5 "bucket"), .command (.unloadRoom 1),
    .command (.loadRoom 1)]

theorem deletedBucket_stays_hidden_bucketWithFragment :
    Throughout (apply .none)
        (fun later => Hidden later.state 1 5 "key")
        (apply .none bucketWithFragment (.command (.deleteBucket 1 5)))
        recreation ↔
      Along (apply .none)
        (fun later event => ¬LoadsFragment later event 1 5 "key")
        (apply .none bucketWithFragment (.command (.deleteBucket 1 5)))
        recreation :=
  deletedBucket_stays_hidden_iff ⟨_, rfl⟩ (by decide +kernel)
    (by simp [recreation])

/-- The deletion succeeds, and after the recreation the fragment is read. -/
theorem recreation_shows_fragment :
    ((handleDeleteBucket .none 1 5).run bucketWithFragment).1 =
        .deleteBucketResponse ∧
      readFragment
          (run bucketWithFragment
            (.command (.deleteBucket 1 5) :: recreation)).state 1 5 "key" =
        .fragmentReadResponse (some "1".toUTF8) := by
  decide +kernel

end Syncpond.DeletedBucket
