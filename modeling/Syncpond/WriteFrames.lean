import Syncpond.Hub
import Syncpond.Reads
import Syncpond.WriteProgress

/-!
# What the frame of a write tells

A payload that parses to JSON null deletes its fragment: the store keeps a
tombstone, the database drops the record, and reads find nothing.  The frame
has a flag for deletions, but `WriteFragment` always announces the value that
it parsed, so the flag is never set and a subscriber gets the text `null`.
-/

namespace Syncpond.WriteFrames

open Syncpond.Protocol
open Syncpond.Serde
open Syncpond.State
open Syncpond.Persistence
open Syncpond.Kernel
open Syncpond.Hub
open Syncpond.Sections
open Syncpond.Reads
open Syncpond.WriteTasks
open Syncpond.WriteProgress
open Syncpond.Library.Maps
open Syncpond.Library.Channels

variable {Value : Type} [SerdeJson Value]

/-! ## Truthful frames -/

/--
A frame tells what `ReadFragment` answers: it is deleted exactly if nothing is
found, and otherwise its bytes parse to the value that is found, under the
version of the fragment.
-/
structure Truthful (frame : ProtoDataUpdate) (app : AppState Value)
    (roomId : RoomId) (bucketId : BucketId) (key : String) : Prop where
  target : frame.bucketId = bucketId ∧ frame.key = key
  deleted : frame.deleted = true ↔
    readFragment app roomId bucketId key = .fragmentReadResponse none
  value : ∀ bytes,
    readFragment app roomId bucketId key = .fragmentReadResponse (some bytes) →
    ∃ value : Value, SerdeJson.value.fromSlice bytes = .ok value ∧
      SerdeJson.value.fromSlice frame.value = .ok value
  counter : ∀ bytes,
    readFragment app roomId bucketId key = .fragmentReadResponse (some bytes) →
    ∃ entry, storedEntry app roomId bucketId key = some entry ∧
      frame.bucketCounter = entry.keyVersion

/-- The bytes of a frame parse to the value of its update. -/
theorem fromSlice_updateEvent (bucketId : BucketId) (key : String)
    (value : Value) (bucketCounter : UInt64) :
    SerdeJson.value.fromSlice
        (updateEvent ⟨bucketId, key, some value, bucketCounter⟩).value =
      .ok value := by
  obtain ⟨bytes, written, parsed⟩ :=
    (SerdeJson.value : Library.JsonText.Codec Value).roundTrip value
  rw [updateEvent, Option.bind_some, written]
  exact parsed

/-! ## The frame of a write -/

section Write

variable (faults : Faults) {kernel : SyncpondKernel Value}
variable {roomId : RoomId} {room : RoomState Value}
variable (bucketId : BucketId) (key : String) (data : FragmentData)

/-- The kernel after a write that is handled alone. -/
def afterWrite (kernel : SyncpondKernel Value) (roomId : RoomId) :
    SyncpondKernel Value :=
  ((handleCommand faults
    (.writeFragment roomId bucketId key data)).run kernel).2

/-- A write that commits is announced under the version that it stored. -/
theorem afterWrite_of_unlocked
    (present : kernel.state.rooms[roomId]? = some room)
    (unlocked : room.ioLocked = false) (loaded : room.loaded = true)
    (noTransaction : room.txBuffer = none) :
    let parsed : Value := SerdeJson.parsePayload data
    let after := afterWrite faults bucketId key data kernel roomId
    after.state.rooms[roomId]? = some (room.store bucketId key parsed) ∧
      after.notifications = kernel.notifications.sendOrDrop
        ⟨roomId, some (room.roomCounter + 1), .broadcast
          (writeUpdate bucketId key parsed (room.roomCounter + 1))⟩ := by
  intro parsed after
  obtain ⟨written, ran, state, announced⟩ :=
    run_writeFragment faults bucketId key data
      (isRoomLoaded_iff.mpr ⟨room, present, loaded⟩)
  have committed := commitWrite_eq present unlocked loaded noTransaction
    bucketId key parsed
  have isAfter : after = written := congrArg Prod.snd ran
  rw [isAfter]
  constructor
  · rw [state, committed]
    exact (lookup_insert _ _ _ _).trans (if_pos rfl)
  · rw [announced, committed, readVersion_commitWrite committed]

/-- A write to a locked room is announced all the same, and nothing is read. -/
theorem afterWrite_of_locked
    (present : kernel.state.rooms[roomId]? = some room)
    (locked : room.ioLocked = true) (loaded : room.loaded = true) :
    let parsed : Value := SerdeJson.parsePayload data
    let after := afterWrite faults bucketId key data kernel roomId
    after.state = kernel.state ∧ ∃ assigned version,
      after.notifications = kernel.notifications.sendOrDrop
        ⟨roomId, assigned, .broadcast
          (writeUpdate bucketId key parsed version)⟩ := by
  intro parsed after
  obtain ⟨written, ran, state, announced⟩ :=
    run_writeFragment faults bucketId key data
      (isRoomLoaded_iff.mpr ⟨room, present, loaded⟩)
  have isAfter : after = written := congrArg Prod.snd ran
  rw [isAfter]
  refine ⟨?_, _, _, announced⟩
  rw [state]
  simp [SyncpondKernel.commitWrite, AppState.setFragment, AppState.withRoom,
    present, RoomState.setFragment, locked, Except.map]

/--
The frame of a write is truthful exactly if the payload does not parse to
null, and the room takes writes.
-/
theorem writeFrame_truthful_iff
    (present : kernel.state.rooms[roomId]? = some room)
    (loaded : room.loaded = true) (noTransaction : room.txBuffer = none)
    {assigned : Option UInt64} {update : DataUpdate Value}
    (announced :
      (afterWrite faults bucketId key data kernel roomId).notifications.items =
        kernel.notifications.items ++
          [⟨roomId, assigned, .broadcast update⟩]) :
    Truthful (updateEvent update)
        (afterWrite faults bucketId key data kernel roomId).state
        roomId bucketId key ↔
      SerdeJson.isNull (SerdeJson.parsePayload data : Value) = false ∧
        room.ioLocked = false := by
  cases locked : room.ioLocked with
  | true =>
      obtain ⟨same, _, _, sent⟩ :=
        afterWrite_of_locked faults bucketId key data present locked loaded
      rw [sent] at announced
      cases Channel.eq_of_items_sendOrDrop announced
      rw [same]
      have nothing : readFragment kernel.state roomId bucketId key =
          .fragmentReadResponse none := by
        simp [readFragment, AppState.getFragment, AppState.readRoom, present,
          RoomState.getFragment, locked, StateError.toString]
      constructor
      · intro truthful
        have flagged := truthful.deleted.mpr nothing
        cases flagged
      · rintro ⟨_, unlocked⟩
        cases unlocked
  | false =>
      obtain ⟨stored, sent⟩ := afterWrite_of_unlocked faults bucketId key data
        present locked loaded noTransaction
      rw [sent] at announced
      cases Channel.eq_of_items_sendOrDrop announced
      have entry : storedEntry
          (afterWrite faults bucketId key data kernel roomId).state roomId
          bucketId key =
            some ⟨SerdeJson.parsePayload data, room.roomCounter + 1⟩ := by
        simp [storedEntry, stored, RoomState.store, getNested_insertNested]
      have memory : memoryFragment
          (afterWrite faults bucketId key data kernel roomId).state roomId
          bucketId key = persistedValue (SerdeJson.parsePayload data) := by
        rw [storedEntry] at entry
        rw [memoryFragment, stored, Option.bind_some]
        rw [stored, Option.bind_some] at entry
        rw [entry, Option.bind_some]
      have answered := readFragment_eq_answer stored locked loaded bucketId key
      rw [memory] at answered
      constructor
      · intro truthful
        refine ⟨?_, rfl⟩
        cases isNull : SerdeJson.isNull (SerdeJson.parsePayload data : Value)
        · rfl
        · have flagged := truthful.deleted.mpr
            (by rw [answered, persistedValue, isNull]; rfl)
          cases flagged
      · rintro ⟨live, _⟩
        obtain ⟨bytes, written, parsed⟩ :=
          (SerdeJson.value : Library.JsonText.Codec Value).roundTrip
            (SerdeJson.parsePayload data)
        have found : readFragment
            (afterWrite faults bucketId key data kernel roomId).state roomId
            bucketId key = .fragmentReadResponse (some bytes) := by
          simp [answered, persistedValue, live, answer, written]
        refine ⟨⟨rfl, rfl⟩, ?_, ?_, ?_⟩
        · rw [found]
          simp [updateEvent, writeUpdate]
        · intro read isRead
          rw [found] at isRead
          cases isRead
          exact ⟨_, parsed, fromSlice_updateEvent _ _ _ _⟩
        · intro _ _
          exact ⟨_, entry, rfl⟩

end Write

/-! ## A write of a value, and one of null -/

/-- Room 1, loaded and empty. -/
def emptyRoom : SyncpondKernel Json :=
  run (boot .none ∅) [.command (.newRoom "room")]

theorem announced_of_emptyRoom (data : FragmentData) :
    ∃ room assigned version,
      emptyRoom.state.rooms[(1 : RoomId)]? = some room ∧
      room.loaded = true ∧ room.txBuffer = none ∧ room.ioLocked = false ∧
      (afterWrite .none 0 "key" data emptyRoom 1).notifications.items =
        emptyRoom.notifications.items ++
          [⟨1, assigned, .broadcast
            (writeUpdate 0 "key" (SerdeJson.parsePayload data) version)⟩] := by
  have checked : emptyRoom.state.rooms[(1 : RoomId)]?.any (fun room =>
      room.loaded && room.txBuffer.isNone && !room.ioLocked) = true := by
    decide +kernel
  have fits : emptyRoom.notifications.items.length < notificationCapacity := by
    decide +kernel
  obtain ⟨room, present, flags⟩ := Option.any_eq_true _ _ |>.mp checked
  simp only [Bool.and_eq_true, Option.isNone_iff_eq_none,
    Bool.not_eq_true'] at flags
  obtain ⟨⟨loaded, noTransaction⟩, unlocked⟩ := flags
  obtain ⟨_, sent⟩ := afterWrite_of_unlocked .none 0 "key" data present
    unlocked loaded noTransaction
  have items := (congrArg (·.items) sent).trans
    (Channel.items_sendOrDrop_of_lt fits)
  exact ⟨room, _, _, present, loaded, noTransaction, unlocked, items⟩

theorem writeFrame_truthful_emptyRoom :
    ∃ assigned update,
      (afterWrite .none 0 "key" "1".toUTF8 emptyRoom 1).notifications.items =
        emptyRoom.notifications.items ++
          [⟨1, assigned, .broadcast update⟩] ∧
      Truthful (updateEvent update)
        (afterWrite .none 0 "key" "1".toUTF8 emptyRoom 1).state 1 0 "key" := by
  obtain ⟨room, assigned, version, present, loaded, noTransaction, unlocked,
    announced⟩ := announced_of_emptyRoom "1".toUTF8
  exact ⟨assigned, _, announced,
    (writeFrame_truthful_iff .none 0 "key" "1".toUTF8 present loaded
      noTransaction announced).mpr ⟨by decide +kernel, unlocked⟩⟩

/-- The frame of a null says that the value is the text `null`. -/
theorem writeFrame_not_truthful :
    ∃ assigned update,
      (afterWrite .none 0 "key" "null".toUTF8 emptyRoom 1).notifications.items =
        emptyRoom.notifications.items ++
          [⟨1, assigned, .broadcast update⟩] ∧
      ¬Truthful (updateEvent update)
        (afterWrite .none 0 "key" "null".toUTF8 emptyRoom 1).state
        1 0 "key" := by
  obtain ⟨_, assigned, version, _, _, _, _, announced⟩ :=
    announced_of_emptyRoom "null".toUTF8
  refine ⟨assigned, _, announced, fun truthful => ?_⟩
  have nothing : readFragment
      (afterWrite .none 0 "key" "null".toUTF8 emptyRoom 1).state 1 0 "key" =
        .fragmentReadResponse none := by
    decide +kernel
  cases truthful.deleted.mpr nothing

end Syncpond.WriteFrames
