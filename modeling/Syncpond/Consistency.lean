import Syncpond.KernelStore
import Syncpond.StateRuns

/-!
# Memory mirrors the disk

In every reachable store, a fragment in memory is on the disk: a value with
the same value, a tombstone as an absent key.  The converse does not hold, as
a disk keeps fragments whose bucket is not in memory.  The invariant is proved
event by event and carried to every reachable store.
-/

namespace Syncpond.Consistency

open Syncpond.Protocol
open Syncpond.Serde
open Syncpond.State
open Syncpond.Kernel
open Syncpond.Disks
open Syncpond.DiskOperations
open Syncpond.KernelStore
open Syncpond.StateRuns
open Syncpond.Library.Maps
open Syncpond.Library.Runs
open Syncpond.Library.Text

variable {Value : Type} [SerdeJson Value]

/-- Every fragment of a room in memory is what the disk says. -/
def Mirrors (room : RoomState Value) (disk : Disk Value) : Prop :=
  ∀ bucketId key entry,
    getNested room.buckets bucketId key = some entry →
      (disk.fragments bucketId)[key]? = persistedValue entry.value

/-- No fragment of a disk is a tombstone. -/
def NoTombstones (disk : Disk Value) : Prop :=
  ∀ (bucketId : BucketId) (key : String) (value : Value),
    (disk.fragments bucketId)[key]? = some value →
      SerdeJson.isNull value = false

/-- What holds of every room of a reachable store. -/
structure RoomConsistent (store : Store Value) (roomId : RoomId)
    (room : RoomState Value) : Prop where
  unlocked : room.ioLocked = false
  noTransaction : room.txBuffer = none
  mirrors : Mirrors room (store.disks roomId)
  opened : roomId ∈ store.opened

/-- What holds of every reachable store. -/
structure Consistent (store : Store Value) : Prop where
  rooms : ∀ (roomId : RoomId) (room : RoomState Value),
    store.state.rooms[roomId]? = some room →
      RoomConsistent store roomId room
  noTombstones : ∀ roomId, NoTombstones (store.disks roomId)

theorem isNull_of_persistedValue {value stored : Value}
    (persisted : persistedValue value = some stored) :
    SerdeJson.isNull stored = false ∧ stored = value := by
  unfold persistedValue at persisted
  split at persisted
  · cases persisted
  · next live =>
    cases persisted
    exact ⟨by simpa using live, rfl⟩

theorem mirrors_of_no_fragments {room : RoomState Value}
    {disk : Disk Value}
    (empty : ∀ bucketId key, getNested room.buckets bucketId key = none) :
    Mirrors room disk := by
  intro bucketId key entry found
  rw [empty] at found
  cases found

/-! ## Lemmas about single operations -/

omit [SerdeJson Value] in
/-- Outside transactions, a write to a loaded room stores the fragment. -/
theorem setFragment_eq_ok {app : AppState Value} {roomId : RoomId}
    {room : RoomState Value} (present : app.rooms[roomId]? = some room)
    (unlocked : room.ioLocked = false) (loaded : room.loaded = true)
    (noTransaction : room.txBuffer = none)
    (bucketId : BucketId) (key : String) (value : Value) :
    app.setFragment roomId bucketId key value =
      .ok { app with
        rooms := app.rooms.insert roomId
          (room.store bucketId key value) } := by
  simp [AppState.setFragment, AppState.withRoom, present,
    RoomState.setFragment, unlocked, loaded, noTransaction, Except.map]

omit [SerdeJson Value] in
/-- `NewRoom` creates a room; the label changes the labels alone. -/
theorem exists_newRoom_eq (store : Store Value) (name : String) :
    ∃ labels, (store.newRoom name).state =
      { store.state.createRoom.1 with labels := labels } := by
  unfold Store.newRoom
  by_cases blank : (trim name).isEmpty
  · simp only [blank, if_true, Store.openRoom]
    exact ⟨_, rfl⟩
  · simp only [blank, Bool.false_eq_true, if_false, Store.openRoom]
    cases labelled : store.state.createRoom.1.setRoomLabel
        store.state.createRoom.2 name with
    | ok app => exact exists_setRoomLabel_eq labelled
    | error error => exact ⟨_, rfl⟩

omit [SerdeJson Value] in
/-- `NewRoom` adds an empty room. -/
theorem rooms_newRoom (store : Store Value) (name : String) :
    (store.newRoom name).state.rooms =
      store.state.rooms.insert store.state.nextRoomId (.fresh true) := by
  obtain ⟨labels, created⟩ := exists_newRoom_eq store name
  rw [created]
  rfl

omit [SerdeJson Value] in
/-- Every fragment of a room loaded from a disk is a fragment of the disk. -/
theorem getNested_loadFrom {disk : Disk Value} {room : RoomState Value}
    {bucketId : BucketId} {key : String} :
    getNested (Store.loadFrom disk room).buckets bucketId key =
      if bucketId ∈ disk.records then
        (disk.fragments bucketId)[key]?.map fun value => ⟨value, 0⟩
      else none := by
  simp only [getNested, Store.loadFrom, RoomState.loadedEntries]
  by_cases recorded : bucketId ∈ disk.records
  · simp [recorded]
  · simp [recorded]

/-! ## Steps -/

namespace Consistent

variable {store : Store Value} (consistent : Consistent store)

include consistent

/-- Replacing a room, and the disk of that room, by consistent ones. -/
theorem replace {roomId : RoomId} {room : RoomState Value}
    {state : AppState Value} (change : Disk Value → Disk Value)
    (rooms : state.rooms = store.state.rooms.insert roomId room)
    (unlocked : room.ioLocked = false)
    (noTransaction : room.txBuffer = none)
    (mirrors : Mirrors room (change (store.disks roomId)))
    (noTombstones : NoTombstones (change (store.disks roomId))) :
    Consistent ({ store with state := state }.persist roomId change) where
  rooms := by
    intro other found present
    simp only [Store.persist, Store.openRoom, rooms, lookup_insert] at present
    split at present
    · next same =>
      subst same
      cases present
      exact {
        unlocked := unlocked
        noTransaction := noTransaction
        mirrors := by
          simpa [Store.persist] using mirrors
        opened := mem_set_insert.mpr (Or.inl rfl) }
    · next different =>
      have older := consistent.rooms other found present
      have ne : other ≠ roomId := fun equal => different equal.symm
      exact {
        unlocked := older.unlocked
        noTransaction := older.noTransaction
        mirrors := by
          simpa [Store.persist, changeDisk_of_ne _ ne] using older.mirrors
        opened := mem_set_insert.mpr (Or.inr older.opened) }
  noTombstones := by
    intro other
    by_cases same : other = roomId
    · subst same
      simpa [Store.persist] using noTombstones
    · simpa [Store.persist, changeDisk_of_ne _ same] using
        consistent.noTombstones other

/--
Disks stay; every room of the new state is an old one, or it has no fragments
and a database.
-/
theorem emptyRooms {state : AppState Value} {opened : FinSet RoomId}
    (grown : ∀ roomId ∈ store.opened, roomId ∈ opened)
    (rooms : ∀ (roomId : RoomId) (room : RoomState Value),
      state.rooms[roomId]? = some room →
        store.state.rooms[roomId]? = some room ∨
          (room.ioLocked = false ∧ room.txBuffer = none ∧
            room.buckets = ∅ ∧ roomId ∈ opened)) :
    Consistent { store with state := state, opened := opened } where
  rooms := by
    intro roomId room present
    rcases rooms roomId room present with
      older | ⟨unlocked, noTransaction, empty, member⟩
    · have before := consistent.rooms roomId room older
      exact ⟨before.unlocked, before.noTransaction, before.mirrors,
        grown roomId before.opened⟩
    · refine ⟨unlocked, noTransaction, ?_, member⟩
      exact mirrors_of_no_fragments (by simp [empty])
  noTombstones := consistent.noTombstones

theorem newRoom (name : String) : Consistent (store.newRoom name) := by
  have added : Consistent
      { store with
        state := (store.newRoom name).state
        opened := store.opened.insert store.state.nextRoomId } := by
    apply consistent.emptyRooms
    · intro roomId member
      exact mem_set_insert.mpr (Or.inr member)
    · intro roomId room present
      rw [rooms_newRoom, lookup_insert] at present
      split at present
      · next same =>
        cases present
        exact Or.inr ⟨rfl, rfl, rfl, mem_set_insert.mpr (Or.inl same)⟩
      · exact Or.inl present
  exact added

theorem mutate (roomId : RoomId)
    (effect : RoomState Value → RoomState Value)
    (change : Disk Value → Disk Value)
    (unlocked : ∀ room, (effect room).ioLocked = room.ioLocked)
    (noTransaction : ∀ room, (effect room).txBuffer = room.txBuffer)
    (subset : ∀ {room : RoomState Value} {bucketId key entry},
      getNested (effect room).buckets bucketId key = some entry →
        getNested room.buckets bucketId key = some entry)
    (fragments : ∀ disk, (change disk).fragments = disk.fragments) :
    Consistent (store.mutate roomId effect change) := by
  unfold Store.mutate
  cases present : store.state.rooms[roomId]? with
  | none => exact consistent
  | some room =>
      have before := consistent.rooms roomId room present
      cases loaded : room.loaded with
      | false => simpa [loaded] using consistent
      | true =>
          simp only [loaded, Bool.not_true, Bool.false_eq_true, if_false]
          apply consistent.replace _ rfl
          · rw [unlocked, before.unlocked]
          · rw [noTransaction, before.noTransaction]
          · intro bucketId key entry found
            rw [fragments]
            exact before.mirrors bucketId key entry (subset found)
          · intro bucketId key value found
            rw [fragments] at found
            exact consistent.noTombstones roomId bucketId key value found

theorem writeFragment (roomId : RoomId) (bucketId : BucketId)
    (key : String) (parsed : Value) :
    Consistent (store.writeFragment roomId bucketId key parsed) := by
  unfold Store.writeFragment
  cases loaded : store.state.isRoomLoaded roomId with
  | false => simpa [loaded] using consistent
  | true =>
      obtain ⟨room, present, resident⟩ := isRoomLoaded_iff.mp loaded
      have before := consistent.rooms roomId room present
      have written := setFragment_eq_ok present before.unlocked resident
        before.noTransaction bucketId key parsed
      simp only [written, Bool.not_true, Bool.false_eq_true, if_false]
      apply consistent.replace _ rfl
      · exact before.unlocked
      · exact before.noTransaction
      · intro otherBucket otherKey entry found
        rw [lookup_putFragment]
        simp only [RoomState.store, getNested_insertNested] at found
        split at found
        · next same =>
          cases found
          rw [if_pos same]
        · next different =>
          rw [if_neg different]
          exact before.mirrors otherBucket otherKey entry found
      · intro otherBucket otherKey value found
        rw [lookup_putFragment] at found
        split at found
        · exact (isNull_of_persistedValue found).1
        · exact consistent.noTombstones roomId otherBucket otherKey value found

theorem loadRoom (roomId : RoomId) : Consistent (store.loadRoom roomId) := by
  unfold Store.loadRoom
  have opened : Consistent (store.openRoom roomId) :=
    consistent.emptyRooms (fun _ member => mem_set_insert.mpr (Or.inr member))
      fun _ _ present => Or.inl present
  cases present : store.state.rooms[roomId]? with
  | none => exact opened
  | some room =>
      have before := consistent.rooms roomId room present
      have installed : Consistent
          ({ store with
            state := { store.state with
              rooms := store.state.rooms.insert roomId
                (Store.loadFrom (store.disks roomId) room) } }.persist
            roomId id) := by
        apply consistent.replace id rfl
        · exact before.unlocked
        · exact before.noTransaction
        · intro bucketId key entry found
          rw [getNested_loadFrom] at found
          split at found
          · obtain ⟨value, stored, rfl⟩ := Option.map_eq_some_iff.mp found
            have live :=
              consistent.noTombstones roomId bucketId key value stored
            simp [stored, persistedValue, live]
          · cases found
        · exact consistent.noTombstones roomId
      rw [Store.persist, changeDisk_id] at installed
      exact installed

theorem command (command : Commands) :
    Consistent (store.command command) := by
  cases command with
  | newRoom name => exact consistent.newRoom name
  | newBucket roomId bucketId label =>
      exact consistent.mutate roomId _ _ (fun _ => rfl) (fun _ => rfl)
        getNested_newBucket fun _ => rfl
  | deleteBucket roomId bucketId =>
      exact consistent.mutate roomId _ _ (fun _ => rfl) (fun _ => rfl)
        getNested_deleteBucket fun _ => rfl
  | newMember roomId member =>
      refine consistent.mutate roomId _ _ ?_ ?_ ?_ ?_
      · intro room
        unfold RoomEffect.newMember
        split <;> rfl
      · intro room
        unfold RoomEffect.newMember
        split <;> rfl
      · intro room bucketId key entry found
        unfold RoomEffect.newMember at found
        split at found <;> exact found
      · intro disk
        split <;> rfl
  | deleteMember roomId member =>
      exact consistent.mutate roomId _ _ (fun _ => rfl) (fun _ => rfl)
        (fun found => found) fun _ => rfl
  | writeFragment roomId bucketId key data =>
      exact consistent.writeFragment roomId bucketId key _
  | readFragment => exact consistent
  | loadRoom roomId => exact consistent.loadRoom roomId
  | unloadRoom roomId =>
      cases unloaded : store.state.unloadRoom roomId with
      | error error => simpa [Store.command, unloaded] using consistent
      | ok app =>
          obtain ⟨before, after, present, result, rfl⟩ := withRoom_ok unloaded
          cases result
          have old := consistent.rooms roomId before present
          simp only [Store.command, unloaded]
          refine consistent.emptyRooms (fun _ member => member) ?_
          intro other room found
          simp only [lookup_insert] at found
          split at found
          · next same =>
            cases found
            exact Or.inr ⟨old.unlocked, old.noTransaction, rfl,
              same ▸ old.opened⟩
          · exact Or.inl found

theorem apply (event : Event) : Consistent (store.apply event) := by
  cases event with
  | command command => exact consistent.command command
  | deleteRoom roomId =>
      cases deleted : store.state.deleteRoom roomId with
      | error error => simpa [Store.apply, deleted] using consistent
      | ok app =>
          simp only [Store.apply, deleted]
          refine consistent.emptyRooms (fun _ member => member) ?_
          intro other room found
          refine Or.inl ?_
          unfold AppState.deleteRoom at deleted
          split at deleted
          · cases deleted
            simp only [lookup_erase] at found
            split at found
            · cases found
            · exact found
          · cases deleted
  | restart =>
      refine consistent.emptyRooms (fun _ member => member) ?_
      intro roomId room found
      rw [lookup_registerExisting] at found
      split at found
      · next member =>
        cases found
        exact Or.inr ⟨rfl, rfl, rfl, by simpa using member⟩
      · simp [AppState.new] at found

end Consistent

theorem consistent_initial : Consistent (.initial : Store Value) := by
  constructor
  · intro roomId room present
    simp [Store.initial, registerExisting, AppState.new] at present
  · intro roomId bucketId key value found
    simp [Store.initial, Disk.empty] at found

theorem consistent_of_reachable {store : Store Value}
    (reachable : ReachableStore store) : Consistent store := by
  obtain ⟨events, rfl⟩ := reachable
  exact foldl_invariant Consistent
    (fun _ event consistent => consistent.apply event) events
    consistent_initial

end Syncpond.Consistency
