import Syncpond.Consistency
import Syncpond.Reads

/-!
# Deleted rooms

`delete_room` removes the room from the state, but neither closes its database
nor removes its directory.  Startup registers every directory as a room, so a
deleted room stays deleted exactly until the next restart.
-/

namespace Syncpond.DeletedRoom

open Syncpond.Protocol
open Syncpond.Serde
open Syncpond.State
open Syncpond.Persistence
open Syncpond.Kernel
open Syncpond.Disks
open Syncpond.KernelStore
open Syncpond.Folders
open Syncpond.Consistency
open Syncpond.StateRuns
open Syncpond.Reads
open Syncpond.Library.Maps
open Syncpond.Library.Programs
open Syncpond.Library.Runs
open Syncpond.Library.Text

variable {Value : Type} [SerdeJson Value] {roomId : RoomId}

/-! ## Rooms that are gone -/

/-- The room is not listed and nothing of it can be seen. -/
structure Gone (app : AppState Value) (roomId : RoomId) : Prop where
  unlisted : roomId ∉ app.listRooms
  hidden : ∀ bucketId key, Hidden app roomId bucketId key
  noMembers : ∀ (room : RoomState Value) (member : String),
    app.rooms[roomId]? = some room → member ∉ room.members

theorem gone_iff {app : AppState Value} :
    Gone app roomId ↔ roomId ∉ app.rooms := by
  constructor
  · intro gone known
    exact gone.unlisted (by simpa [AppState.listRooms] using known)
  · intro unknown
    have absent : app.rooms[roomId]? = none :=
      Std.ExtTreeMap.getElem?_eq_none unknown
    constructor
    · simpa [AppState.listRooms] using unknown
    · intro bucketId key
      rw [hidden_iff_not_shown]
      rintro ⟨room, _, present, _⟩
      rw [absent] at present
      cases present
    · intro room member present
      rw [absent] at present
      cases present

/-- The event creates the room. -/
def Creates (kernel : SyncpondKernel Value) (event : Event)
    (roomId : RoomId) : Prop :=
  ∃ name, event = .command (.newRoom name) ∧
    ((handleNewRoom .none name).run kernel).1 = .newRoomResponse roomId

omit [SerdeJson Value] in
theorem creates_newRoom_iff {kernel : SyncpondKernel Value}
    {name : String} :
    Creates kernel (.command (.newRoom name)) roomId ↔
      kernel.state.nextRoomId = roomId := by
  simp [Creates, handleNewRoom, SyncpondKernel.createRoom,
    AppState.createRoom]

/-! ## Steps -/

section Steps

variable {store : Store Value}

/-- A command makes no room known but the one that `NewRoom` creates. -/
theorem mem_rooms_command {command : Commands}
    (present : roomId ∈ (store.command command).state.rooms) :
    roomId ∈ store.state.rooms ∨
      ∃ name, command = .newRoom name ∧
        store.state.nextRoomId = roomId := by
  have mutate {changed : RoomId}
      {effect : RoomState Value → RoomState Value}
      {change : Disk Value → Disk Value}
      (present : roomId ∈ (store.mutate changed effect change).state.rooms) :
      roomId ∈ store.state.rooms := by
    unfold Store.mutate at present
    split at present
    · exact present
    · next room known =>
      split at present
      · exact present
      · exact mem_rooms_of_insert (mem_rooms_of_lookup known) rfl present
  cases command with
  | newRoom name =>
      simp only [Store.command, rooms_newRoom, mem_map_insert] at present
      rcases present with same | before
      · exact Or.inr ⟨name, rfl, same⟩
      · exact Or.inl before
  | newBucket => exact Or.inl (mutate present)
  | deleteBucket => exact Or.inl (mutate present)
  | newMember => exact Or.inl (mutate present)
  | deleteMember => exact Or.inl (mutate present)
  | writeFragment =>
      refine Or.inl ?_
      simp only [Store.command, Store.writeFragment] at present
      split at present
      · exact present
      · simp only [Store.persist, Store.openRoom] at present
        split at present
        · next app written => exact mem_rooms_withRoom written present
        · exact present
  | readFragment => exact Or.inl present
  | loadRoom =>
      refine Or.inl ?_
      simp only [Store.command, Store.loadRoom] at present
      split at present
      · exact present
      · next room known =>
        exact mem_rooms_of_insert (mem_rooms_of_lookup known) rfl present
  | unloadRoom =>
      refine Or.inl ?_
      simp only [Store.command] at present
      split at present
      · next app unloaded => exact mem_rooms_withRoom unloaded present
      · exact present

/-- Databases stay open. -/
theorem mem_opened_apply {event : Event} (opened : roomId ∈ store.opened) :
    roomId ∈ (store.apply event).opened := by
  have grown {other : RoomId} :
      roomId ∈ store.opened.insert other :=
    mem_set_insert.mpr (Or.inr opened)
  have mutate {changed : RoomId}
      {effect : RoomState Value → RoomState Value}
      {change : Disk Value → Disk Value} :
      roomId ∈ (store.mutate changed effect change).opened := by
    unfold Store.mutate
    split
    · exact opened
    · split
      · exact opened
      · exact grown
  cases event with
  | command command =>
      cases command with
      | newRoom => exact grown
      | newBucket => exact mutate
      | deleteBucket => exact mutate
      | newMember => exact mutate
      | deleteMember => exact mutate
      | writeFragment =>
          simp only [Store.apply, Store.command, Store.writeFragment]
          split
          · exact opened
          · exact grown
      | readFragment => exact opened
      | loadRoom =>
          simp only [Store.apply, Store.command, Store.loadRoom]
          split <;> exact grown
      | unloadRoom =>
          simp only [Store.apply, Store.command]
          split <;> exact opened
  | deleteRoom =>
      simp only [Store.apply]
      split <;> exact opened
  | restart => exact opened

/-- An unknown room that has a database becomes known at a restart only. -/
theorem unknown_apply_iff {event : Event} (opened : roomId ∈ store.opened)
    (unknown : roomId ∉ store.state.rooms)
    (notCreated : ∀ name, event = .command (.newRoom name) →
      store.state.nextRoomId ≠ roomId) :
    roomId ∉ (store.apply event).state.rooms ↔ event ≠ .restart := by
  cases event with
  | command command =>
      refine ⟨fun _ => Event.noConfusion, fun _ known => ?_⟩
      rcases mem_rooms_command known with before | ⟨name, rfl, same⟩
      · exact unknown before
      · exact notCreated name rfl same
  | deleteRoom deletedRoom =>
      refine ⟨fun _ => Event.noConfusion, fun _ known => unknown ?_⟩
      simp only [Store.apply, AppState.deleteRoom] at known
      split at known
      · next app deleted =>
        split at deleted
        · cases deleted
          exact (Std.ExtTreeMap.mem_erase.mp known).2
        · cases deleted
      · exact known
  | restart =>
      refine ⟨fun stillUnknown => absurd ?_ stillUnknown,
        fun other => absurd rfl other⟩
      have registered :
          (store.apply .restart).state.rooms[roomId]? =
            some (.fresh false) := by
        simp [Store.apply, Store.restart, lookup_registerExisting, opened]
      exact mem_rooms_of_lookup registered

end Steps

/-! ## Runs after the deletion -/

/--
After a successful `delete_room`, in every run that does not create the room
anew, the room is gone in every state if and only if there is no restart.
-/
theorem deletedRoom_stays_gone_iff {kernel : SyncpondKernel Value}
    (reachable : Kernel.Reachable kernel)
    (deleted : (kernel.deleteRoom roomId).1 = .ok ())
    {events : List Event}
    (notCreated : Along (apply .none)
      (fun later event => ¬Creates later event roomId)
      (apply .none kernel (.deleteRoom roomId)) events) :
    Throughout (apply .none) (fun later => Gone later.state roomId)
        (apply .none kernel (.deleteRoom roomId)) events ↔
      .restart ∉ events := by
  obtain ⟨store, refines, reachableStore⟩ :=
    exists_store_of_reachable reachable
  have consistent := consistent_of_reachable reachableStore
  have known : roomId ∈ kernel.state.rooms := by
    unfold SyncpondKernel.deleteRoom AppState.deleteRoom at deleted
    by_cases known : kernel.state.rooms.contains roomId
    · exact known
    · simp [known] at deleted
  have opened : roomId ∈ store.opened := by
    rw [refines.state] at known
    obtain ⟨room, present⟩ := Option.isSome_iff_exists.mp
      (Std.ExtTreeMap.mem_iff_isSome_getElem?.mp known)
    exact (consistent.rooms roomId room present).opened
  have gone : Gone (apply .none kernel (.deleteRoom roomId)).state
      roomId := by
    rw [gone_iff]
    simp [apply, SyncpondKernel.deleteRoom, AppState.deleteRoom, known]
  have eventOnly : .restart ∉ events ↔
      Along (apply .none) (fun _ event => event ≠ .restart)
        (apply .none kernel (.deleteRoom roomId)) events := by
    rw [along_iff_forall]
    simp only [ne_eq, List.forall_mem_ne']
  rw [eventOnly]
  refine throughout_iff_along
    (fun later : SyncpondKernel Value =>
      ∃ store, Refines later store ∧ roomId ∈ store.opened)
    _ ?_ ?_ notCreated ⟨_, refines_apply refines _, mem_opened_apply opened⟩
    gone
  · rintro later event ⟨store, refines, opened⟩
    exact ⟨_, refines_apply refines event, mem_opened_apply opened⟩
  · rintro later event ⟨store, refines, opened⟩ gone notCreated
    rw [gone_iff, (refines_apply refines event).state]
    rw [gone_iff, refines.state] at gone
    refine unknown_apply_iff opened gone ?_
    rintro name rfl same
    exact notCreated (creates_newRoom_iff.mpr (refines.state ▸ same))

/-! ## A deleted room that comes back -/

/-- A room with a bucket, a fragment and a member. -/
def filledRoom : SyncpondKernel Json :=
  run (boot .none ∅)
    [.command (.newRoom "room"),
      .command (.newBucket 1 5 "bucket"),
      .command (.writeFragment 1 5 "key" "1".toUTF8),
      .command (.newMember 1 "member")]

theorem deletedRoom_stays_gone_filledRoom :
    Throughout (apply .none) (fun later => Gone later.state 1)
        (apply .none filledRoom (.deleteRoom 1))
        [.restart, .command (.loadRoom 1)] ↔
      .restart ∉ ([.restart, .command (.loadRoom 1)] : List Event) := by
  refine deletedRoom_stays_gone_iff ⟨_, rfl⟩ (by decide +kernel) ?_
  refine ⟨?_, ?_, trivial⟩
  · rintro ⟨name, equal, _⟩
    cases equal
  · rintro ⟨name, equal, _⟩
    cases equal

/-- The room is deleted; a restart lists it, and a load exposes its content. -/
theorem restart_shows_deletedRoom :
    (filledRoom.deleteRoom 1).1 = .ok () ∧
      (run filledRoom [.deleteRoom 1, .restart]).state.listRooms = [1] ∧
      readFragment
          (run filledRoom
            [.deleteRoom 1, .restart, .command (.loadRoom 1)]).state
          1 5 "key" =
        .fragmentReadResponse (some "1".toUTF8) := by
  decide +kernel

end Syncpond.DeletedRoom
