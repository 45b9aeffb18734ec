import Syncpond.Library.Machines
import Syncpond.ReadYourWrites

/-!
# Rooms are objects of their own

All rooms of a server share the lock of its state, one cache of bucket records,
the data directory and the counter for new ids.  `RoomObject` is a room without
all of that: what is in memory of it, and what its database holds.  Requests
that are handled one at a time, without storage failures, get from the server
the replies that the object of their room gives, through restarts and whatever
is asked of the other rooms.

`IssueJwt` is left out, because the limit for tokens is one for all rooms, and
so is the id of a new room: an object only sees that it is created.
-/

namespace Syncpond.RoomObjects

open Syncpond.Protocol
open Syncpond.Serde
open Syncpond.State
open Syncpond.Persistence
open Syncpond.Kernel
open Syncpond.Disks
open Syncpond.DiskOperations
open Syncpond.KernelStore
open Syncpond.Upstream
open Syncpond.ApiKey
open Syncpond.StateRuns (lookup_registerExisting)
open Syncpond.UpstreamReplies
open Syncpond.UpstreamLinearization
open Syncpond.ReadYourWrites (RoomsAfter Changes respond_cases
  rooms_labelRoom)
open Syncpond.Library.Linearization
open Syncpond.Library.Machines
open Syncpond.Library.Maps
open Syncpond.Library.Programs
open Syncpond.Library.Text

variable {Value : Type}

/-! ## Objects -/

/-- A room in memory, and the content of its database, if it has one. -/
structure RoomObject (Value : Type) where
  memory : Option (RoomState Value)
  disk : Option (Disk Value)

/-- What a room sees. -/
inductive RoomEvent where
  | created
  | request (served : Served)
  | restarted

/-- The room that a request is about. -/
def addressee : Request → Option RoomId
  | .newRoom _ => none
  | .listRooms => none
  | .issueJwt _ _ _ => none
  | .deleteRoom roomId => some roomId
  | .newBucket roomId _ _ => some roomId
  | .deleteBucket roomId _ => some roomId
  | .newMember roomId _ => some roomId
  | .deleteMember roomId _ => some roomId
  | .listMembers roomId => some roomId
  | .listBuckets roomId => some roomId
  | .readFragment roomId _ _ => some roomId
  | .writeFragment roomId _ _ _ => some roomId
  | .loadRoom roomId => some roomId
  | .unloadRoom roomId => some roomId

variable [SerdeJson Value]

/-- What a request to a loaded room does to its database. -/
def persisted : Request → Disk Value → Disk Value
  | .newBucket _ bucketId label, disk =>
      { disk with
        records := disk.records.insert bucketId
          ⟨bucketId, labelOption (trim label), 0⟩ }
  | .deleteBucket _ bucketId, disk =>
      { disk with records := disk.records.erase bucketId }
  | .newMember _ member, disk =>
      if (trim (trim member)).isEmpty then disk
      else { disk with members := disk.members.insert (trim (trim member)) }
  | .deleteMember _ member, disk =>
      { disk with members := disk.members.erase (trim member) }
  | .writeFragment _ bucketId key data, disk =>
      { disk with
        fragments := putFragment disk.fragments bucketId key
          (persistedValue (SerdeJson.parsePayload data)) }
  | _, disk => disk

namespace RoomObject

omit [SerdeJson Value] in
/-- A room that was never created. -/
def absent : RoomObject Value := ⟨none, none⟩

/-- The content of the database, nothing if there is none. -/
def content (object : RoomObject Value) : Disk Value :=
  object.disk.getD .empty

/-- A state without any other room. -/
def app (roomId : RoomId) (object : RoomObject Value) : AppState Value :=
  { (.new : AppState Value) with
    rooms := object.memory.elim ∅ fun room =>
      (∅ : Map RoomId (RoomState Value)).insert roomId room }

/-- The room is in memory. -/
def loaded (object : RoomObject Value) : Bool :=
  object.memory.any RoomState.loaded

/-- `LoadRoom` opens the database even of an unknown room. -/
def load (object : RoomObject Value) : Reply × RoomObject Value :=
  match object.memory with
  | none =>
      (.error ⟨.failedPrecondition, StateError.roomNotFound.toString⟩,
        ⟨none, some object.content⟩)
  | some room =>
      (.ok .loadRoom,
        ⟨some (Store.loadFrom object.content room), some object.content⟩)

/-- A request other than `LoadRoom`. -/
def handle (roomId : RoomId) (object : RoomObject Value) (served : Served) :
    Reply × RoomObject Value :=
  let (reply, after) := respond served.environment (.ok .empty)
    (object.app roomId) served.request
  (reply,
    ⟨after.rooms[roomId]?,
      if object.loaded then object.disk.map (persisted served.request)
      else object.disk⟩)

/-- A room as a machine. -/
def step (roomId : RoomId) :
    Machine (RoomObject Value) RoomEvent (Option Reply)
  | object, .created =>
      (some (.ok (.newRoom roomId)),
        ⟨some (.fresh true), some object.content⟩)
  | object, .request served =>
      let (reply, after) :=
        match served.request with
        | .loadRoom _ => object.load
        | _ => object.handle roomId served
      (some reply, after)
  | object, .restarted =>
      (none, ⟨object.disk.map fun _ => .fresh false, object.disk⟩)

end RoomObject

/-! ## The server -/

/-- What happens to a server, one thing at a time. -/
inductive Happening where
  | request (served : Served)
  | restart

namespace Happening

/-- Nothing fails in the storage. -/
def Faultless : Happening → Prop
  | request served => served.environment.faults = .none
  | restart => True

/-- What a room sees of what happened, given the reply. -/
def seenBy (roomId : RoomId) : Happening → Option Reply → Option RoomEvent
  | .restart, _ => some .restarted
  | .request served, reply =>
      if addressee served.request = some roomId then some (.request served)
      else if reply = some (.ok (.newRoom roomId)) then some .created
      else none

end Happening

/-- The server as a machine, without storage failures at startup. -/
def serve : Machine (SyncpondKernel Value) Happening (Option Reply)
  | kernel, .request served =>
      let (reply, after) := served.program.run kernel
      (some reply, after)
  | kernel, .restart => (none, boot .none kernel.persistence.dirs)

/-! ## Requests in a state -/

section Requests

variable {roomId : RoomId} {app other : AppState Value} {request : Request}

omit [SerdeJson Value] in
@[simp]
theorem rooms_app (roomId : RoomId) (object : RoomObject Value) :
    (object.app roomId).rooms[roomId]? = object.memory := by
  unfold RoomObject.app
  cases object.memory with
  | none => simp
  | some room => simp

omit [SerdeJson Value] in
theorem settle_snd (app : AppState Value) (response : Response) (code : Code)
    (outcome : Except StateError (AppState Value)) :
    (settle app response code outcome).2 = outcome.toOption.getD app := by
  cases outcome <;> rfl

section Local

variable (same : app.rooms[roomId]? = other.rooms[roomId]?)

include same

omit [SerdeJson Value] in
theorem changeRoom_local (effect : RoomState Value → RoomState Value)
    (response : Response) :
    (changeRoom app roomId effect response).1 =
        (changeRoom other roomId effect response).1 ∧
      (changeRoom app roomId effect response).2.rooms[roomId]? =
        (changeRoom other roomId effect response).2.rooms[roomId]? := by
  unfold changeRoom
  rw [same]
  cases found : other.rooms[roomId]? with
  | none => exact ⟨rfl, same⟩
  | some room =>
      dsimp only
      split
      · exact ⟨rfl, by simp⟩
      · exact ⟨rfl, same⟩

omit [SerdeJson Value] in
theorem settle_local {first second : Except StateError (AppState Value)}
    (outcomes : first.map (fun after => after.rooms[roomId]?) =
      second.map fun after => after.rooms[roomId]?)
    (response : Response) (code : Code) :
    (settle app response code first).1 = (settle other response code second).1 ∧
      (settle app response code first).2.rooms[roomId]? =
        (settle other response code second).2.rooms[roomId]? := by
  cases first with
  | error error =>
      cases second with
      | error _ =>
          cases outcomes
          exact ⟨rfl, same⟩
      | ok after => cases outcomes
  | ok after =>
      cases second with
      | error _ => cases outcomes
      | ok _ => exact ⟨rfl, Except.ok.inj outcomes⟩

omit [SerdeJson Value] in
theorem withRoom_local
    (mutate : RoomState Value → Except StateError (RoomState Value)) :
    (app.withRoom roomId mutate).map (fun after => after.rooms[roomId]?) =
      (other.withRoom roomId mutate).map fun after => after.rooms[roomId]? := by
  unfold AppState.withRoom
  rw [same]
  cases other.rooms[roomId]? with
  | none => rfl
  | some room =>
      cases result : mutate room with
      | error error => simp [result, Except.map]
      | ok changed => simp [result, Except.map]

omit [SerdeJson Value] in
theorem deleteRoom_local :
    (app.deleteRoom roomId).map (fun after => after.rooms[roomId]?) =
      (other.deleteRoom roomId).map fun after => after.rooms[roomId]? := by
  have known : app.rooms.contains roomId = other.rooms.contains roomId := by
    rw [Std.ExtTreeMap.contains_eq_isSome_getElem?,
      Std.ExtTreeMap.contains_eq_isSome_getElem?, same]
  unfold AppState.deleteRoom
  rw [known]
  split
  · simp [Except.map]
  · rfl

/-- A request and its reply depend on the room that it is about. -/
theorem respond_local (environment : Environment)
    (loaded : Except String (RoomData Value))
    (about : addressee request = some roomId) :
    (respond environment loaded app request).1 =
        (respond environment loaded other request).1 ∧
      (respond environment loaded app request).2.rooms[roomId]? =
        (respond environment loaded other request).2.rooms[roomId]? := by
  cases request with
  | newRoom name => cases about
  | listRooms => cases about
  | issueJwt roomId sub buckets => cases about
  | deleteRoom roomId =>
      cases about
      exact settle_local same (deleteRoom_local same) _ _
  | newBucket roomId bucketId label =>
      cases about
      exact changeRoom_local same _ _
  | deleteBucket roomId bucketId =>
      cases about
      exact changeRoom_local same _ _
  | newMember roomId member =>
      cases about
      exact changeRoom_local same _ _
  | deleteMember roomId member =>
      cases about
      exact changeRoom_local same _ _
  | listMembers roomId =>
      cases about
      simp [respond, listMembers, AppState.readRoom, same]
  | listBuckets roomId =>
      cases about
      simp [respond, BucketLabels.listBuckets, BucketLabels.bucketLines, same]
  | readFragment roomId bucketId key =>
      cases about
      simp [respond, readResult, AppState.getFragment, AppState.readRoom, same]
  | writeFragment roomId bucketId key data =>
      cases about
      have known : app.isRoomLoaded roomId = other.isRoomLoaded roomId := by
        simp only [AppState.isRoomLoaded, same]
      have written := settle_local same
        (withRoom_local same fun room =>
          room.setFragment bucketId key (SerdeJson.parsePayload data))
        .writeFragment .internal
      rw [settle_snd, settle_snd] at written
      simp only [respond, known]
      split
      · exact ⟨rfl, written.2⟩
      · exact ⟨rfl, same⟩
  | loadRoom roomId =>
      cases about
      cases loaded with
      | error text => exact ⟨rfl, same⟩
      | ok data => exact settle_local same (withRoom_local same _) _ _
  | unloadRoom roomId =>
      cases about
      exact settle_local same (withRoom_local same _) _ _

end Local

/-- A request leaves the rooms alone that it is not about. -/
theorem respond_elsewhere (environment : Environment)
    (loaded : Except String (RoomData Value)) (app : AppState Value)
    (notAbout : addressee request ≠ some roomId)
    (notCreated : (respond environment loaded app request).1 ≠
      .ok (.newRoom roomId)) :
    (respond environment loaded app request).2.rooms[roomId]? =
      app.rooms[roomId]? := by
  have different {other : RoomId} (about : addressee request = some other) :
      other ≠ roomId := by
    rintro rfl
    exact notAbout about
  cases respond_cases environment loaded app request with
  | same rooms next => rw [rooms]
  | created name isRequest rooms next =>
      have other_ne : app.nextRoomId ≠ roomId := by
        rintro rfl
        exact notCreated (by rw [isRequest]; rfl)
      rw [rooms, lookup_insert, if_neg other_ne]
  | deleted other isRequest rooms next =>
      have other_ne : other ≠ roomId := different (by rw [isRequest]; rfl)
      rw [rooms, lookup_erase, if_neg other_ne]
  | changed other room changed found changes rooms next =>
      have about : addressee request = some other := by
        unfold Changes at changes
        split at changes
        all_goals first | exact congrArg some changes.1 | exact changes.elim
      rw [rooms, lookup_insert, if_neg (different about)]

end Requests

/-! ## Requests handled alone -/

section Alone

variable {kernel : SyncpondKernel Value} {store : Store Value}

/-- Handled alone, a request answers and does what `respond` says. -/
theorem exists_respond (served : Served) (kernel : SyncpondKernel Value) :
    ∃ loaded, respond served.environment loaded kernel.state served.request =
      ((served.program.run kernel).1, (served.program.run kernel).2.state) :=
  (lawful_api Value).run_allows served kernel

/-- What is read from the database matters to `LoadRoom` only. -/
theorem respond_loaded (environment : Environment)
    (first second : Except String (RoomData Value)) (app : AppState Value)
    {request : Request} (notLoad : ∀ roomId, request ≠ .loadRoom roomId) :
    respond environment first app request =
      respond environment second app request := by
  cases request with
  | loadRoom roomId => exact absurd rfl (notLoad roomId)
  | _ => rfl

/-- The command that a request is handled by. -/
def commandOf : Request → Option Commands
  | .newRoom name => some (.newRoom name)
  | .newBucket roomId bucketId label => some (.newBucket roomId bucketId label)
  | .deleteBucket roomId bucketId => some (.deleteBucket roomId bucketId)
  | .newMember roomId member => some (.newMember roomId member)
  | .deleteMember roomId member => some (.deleteMember roomId member)
  | .readFragment roomId bucketId key =>
      some (.readFragment roomId bucketId key)
  | .writeFragment roomId bucketId key data =>
      some (.writeFragment roomId bucketId key data)
  | .loadRoom roomId => some (.loadRoom roomId)
  | .unloadRoom roomId => some (.unloadRoom roomId)
  | .listRooms => none
  | .deleteRoom _ => none
  | .issueJwt _ _ _ => none
  | .listMembers _ => none
  | .listBuckets _ => none

/-- The reply to a request is made of the response to its command. -/
theorem exists_program_eq {served : Served} {command : Commands}
    (isCommand : commandOf served.request = some command) :
    ∃ reply : CommandResponse → Reply,
      (served.program : Task Value Reply) =
        reply <$> handleCommand served.environment.faults command := by
  obtain ⟨environment, request⟩ := served
  cases request <;> cases isCommand <;> exact ⟨_, (comp_map _ _ _).symm⟩

theorem refines_commandOf (refines : Refines kernel store) {served : Served}
    (faultless : served.environment.faults = .none) {command : Commands}
    (isCommand : commandOf served.request = some command) :
    Refines (served.program.run kernel).2 (store.command command) := by
  obtain ⟨reply, isProgram⟩ := @exists_program_eq Value _ _ _ isCommand
  rw [isProgram, Program.run_map, faultless]
  exact refines_command refines command

omit [SerdeJson Value] in
theorem mem_opened_of_loaded {roomId : RoomId}
    (opened : ∀ roomId ∈ store.state.rooms, roomId ∈ store.opened)
    (isLoaded : store.state.isRoomLoaded roomId = true) :
    roomId ∈ store.opened := by
  unfold AppState.isRoomLoaded at isLoaded
  split at isLoaded
  · next room found =>
    exact opened roomId
      (Std.ExtTreeMap.mem_iff_isSome_getElem?.mpr (by rw [found]; rfl))
  · cases isLoaded

omit [SerdeJson Value] in
/-- A command that changes a room changes its disk if the room is loaded. -/
theorem mutate_storage {roomId : RoomId}
    (opened : ∀ roomId ∈ store.state.rooms, roomId ∈ store.opened)
    (effect : RoomState Value → RoomState Value)
    (change : Disk Value → Disk Value) :
    (store.mutate roomId effect change).opened = store.opened ∧
      (store.mutate roomId effect change).disks =
        if store.state.isRoomLoaded roomId then
          changeDisk store.disks roomId change
        else store.disks := by
  unfold Store.mutate AppState.isRoomLoaded
  cases found : store.state.rooms[roomId]? with
  | none => exact ⟨rfl, rfl⟩
  | some room =>
      have isOpen : roomId ∈ store.opened := opened roomId
        (Std.ExtTreeMap.mem_iff_isSome_getElem?.mpr (by rw [found]; rfl))
      cases isLoaded : room.loaded with
      | false => simp [isLoaded]
      | true =>
          simp [isLoaded, Store.persist, Store.openRoom,
            set_insert_eq_self isOpen]

/-- The room whose database a request creates, whether it is loaded or not. -/
def opens (app : AppState Value) : Request → Option RoomId
  | .newRoom _ => some app.nextRoomId
  | .loadRoom roomId => some roomId
  | _ => none

/-- The disks after a request. -/
def changedDisks (store : Store Value) (request : Request) : Disks Value :=
  match addressee request with
  | none => store.disks
  | some roomId =>
      if store.state.isRoomLoaded roomId then
        changeDisk store.disks roomId (persisted request)
      else store.disks

/-- What a request does to the data directory, when nothing fails. -/
theorem exists_refines (refines : Refines kernel store)
    (opened : ∀ roomId ∈ store.state.rooms, roomId ∈ store.opened)
    {served : Served} (faultless : served.environment.faults = .none) :
    ∃ after, Refines (served.program.run kernel).2 after ∧
      after.opened =
        (opens store.state served.request).elim store.opened
          store.opened.insert ∧
      after.disks = changedDisks store served.request := by
  obtain ⟨environment, request⟩ := served
  have run {command : Commands}
      (isCommand : commandOf request = some command) :=
    @refines_commandOf Value _ kernel store refines ⟨environment, request⟩
      faultless command isCommand
  have unchanged (roomId : RoomId) :
      store.disks = if store.state.isRoomLoaded roomId then
        changeDisk store.disks roomId id else store.disks := by simp
  cases request with
  | newRoom name =>
      refine ⟨_, run rfl, ?_⟩
      simp only [Store.command, Store.newRoom]
      split <;> exact ⟨rfl, rfl⟩
  | listRooms => exact ⟨store, refines, rfl, rfl⟩
  | deleteRoom roomId =>
      refine ⟨_, refines_apply refines (.deleteRoom roomId), ?_⟩
      simp only [Store.apply]
      cases store.state.deleteRoom roomId with
      | ok app => exact ⟨rfl, unchanged roomId⟩
      | error error => exact ⟨rfl, unchanged roomId⟩
  | issueJwt roomId sub buckets =>
      exact ⟨_, refines.setState _, rfl, rfl⟩
  | newBucket roomId bucketId label =>
      exact ⟨_, run rfl, mutate_storage opened _ _⟩
  | deleteBucket roomId bucketId =>
      exact ⟨_, run rfl, mutate_storage opened _ _⟩
  | newMember roomId member => exact ⟨_, run rfl, mutate_storage opened _ _⟩
  | deleteMember roomId member =>
      exact ⟨_, run rfl, mutate_storage opened _ _⟩
  | listMembers roomId => exact ⟨store, refines, rfl, unchanged roomId⟩
  | listBuckets roomId => exact ⟨store, refines, rfl, unchanged roomId⟩
  | readFragment roomId bucketId key =>
      exact ⟨store, run rfl, rfl, unchanged roomId⟩
  | writeFragment roomId bucketId key data =>
      refine ⟨_, run rfl, ?_⟩
      simp only [Store.command, Store.writeFragment, changedDisks, addressee]
      cases isLoaded : store.state.isRoomLoaded roomId with
      | false => exact ⟨rfl, rfl⟩
      | true =>
          have isOpen := mem_opened_of_loaded opened isLoaded
          exact ⟨set_insert_eq_self isOpen, rfl⟩
  | loadRoom roomId =>
      refine ⟨_, run rfl, ?_⟩
      simp only [Store.command, Store.loadRoom]
      split
      · exact ⟨rfl, unchanged roomId⟩
      · exact ⟨rfl, unchanged roomId⟩
  | unloadRoom roomId =>
      refine ⟨_, run rfl, ?_⟩
      simp only [Store.command]
      cases store.state.unloadRoom roomId with
      | ok app => exact ⟨rfl, unchanged roomId⟩
      | error error => exact ⟨rfl, unchanged roomId⟩

/-- `LoadRoom` succeeds if the room is known. -/
theorem loadRoom_response (refines : Refines kernel store) (roomId : RoomId) :
    ((handleLoadRoom .none roomId).run kernel).1 =
      .loadRoomResponse (match store.state.rooms[roomId]? with
        | none => .error StateError.roomNotFound.toString
        | some _ => .ok ()) := by
  obtain ⟨opened, result, reopened⟩ := refines.openRoomDb roomId
  have member : roomId ∈ (store.openRoom roomId).opened :=
    mem_set_insert.mpr (Or.inl rfl)
  obtain ⟨data, ran, _, read⟩ :=
    reopened.onRoom member (implements_readRoomData roomId)
  have state : (Program.run (Task.onRoom roomId (readRoomData .none roomId))
      { kernel with persistence := opened }).2.state = store.state := read.state
  simp only [handleLoadRoom, Task.openRoomDb, Program.run_bind,
    Program.run_atomic, result, ran, SyncpondKernel.installRoomData,
    AppState.loadRoomData, AppState.withRoom, state]
  cases store.state.rooms[roomId]? with
  | none => rfl
  | some room => rfl

end Alone

/-! ## The objects of the rooms -/

/-- The object is what the server has of the room. -/
def Stands (roomId : RoomId) (kernel : SyncpondKernel Value)
    (object : RoomObject Value) : Prop :=
  ∃ store, Refines kernel store ∧
    (∀ other ∈ store.state.rooms, other ∈ store.opened) ∧
    store.state.rooms[roomId]? = object.memory ∧
    (if roomId ∈ store.opened then some (store.disks roomId) else none) =
      object.disk

section Stands

variable {roomId : RoomId} {kernel : SyncpondKernel Value}
variable {store : Store Value} {object : RoomObject Value}

/-- Only a new room is not known before. -/
theorem mem_rooms_respond {environment : Environment}
    {loaded : Except String (RoomData Value)} {app : AppState Value}
    {request : Request} {other : RoomId}
    (member : other ∈ (respond environment loaded app request).2.rooms) :
    other ∈ app.rooms ∨ opens app request = some other := by
  cases respond_cases environment loaded app request with
  | same rooms next =>
      rw [rooms] at member
      exact Or.inl member
  | created name isRequest rooms next =>
      rw [rooms, mem_map_insert] at member
      rcases member with isNew | before
      · rw [isRequest]
        exact Or.inr (congrArg some isNew)
      · exact Or.inl before
  | deleted other isRequest rooms next =>
      rw [rooms] at member
      exact Or.inl (Std.ExtTreeMap.mem_of_mem_erase member)
  | changed other room changed found changes rooms next =>
      rw [rooms, mem_map_insert] at member
      rcases member with same | before
      · left
        rw [← same, Std.ExtTreeMap.mem_iff_isSome_getElem?, found]
        rfl
      · exact Or.inl before

omit [SerdeJson Value] in
theorem mem_opened_iff {app : AppState Value} {request : Request}
    {other : RoomId} :
    other ∈ (opens app request).elim store.opened store.opened.insert ↔
      opens app request = some other ∨ other ∈ store.opened := by
  cases opens app request with
  | none => simp
  | some roomId =>
      rw [Option.elim_some, mem_set_insert, Option.some.injEq]

/-- What a request makes of the room. -/
theorem stands_after (refines : Refines kernel store)
    (opened : ∀ other ∈ store.state.rooms, other ∈ store.opened)
    {served : Served} (faultless : served.environment.faults = .none)
    {after : RoomObject Value}
    (memory : (served.program.run kernel).2.state.rooms[roomId]? =
      after.memory)
    (disk : (if opens store.state served.request = some roomId ∨
        roomId ∈ store.opened then
          some (changedDisks store served.request roomId)
        else none) = after.disk) :
    Stands roomId (served.program.run kernel).2 after := by
  obtain ⟨next, refinesNext, isOpened, isDisks⟩ :=
    exists_refines refines opened faultless
  obtain ⟨loaded, responds⟩ := exists_respond served kernel
  refine ⟨next, refinesNext, ?_, ?_, ?_⟩
  · intro other member
    rw [← refinesNext.state] at member
    have isAfter : (served.program.run kernel).2.state = _ :=
      (congrArg Prod.snd responds).symm
    rw [isAfter, refines.state] at member
    rw [isOpened, mem_opened_iff]
    exact (mem_rooms_respond member).symm.imp_right (opened other)
  · rw [← refinesNext.state]
    exact memory
  · rw [← disk, isDisks]
    simp only [isOpened, mem_opened_iff]

theorem content_eq (refines : Refines kernel store)
    (isDisk : (if roomId ∈ store.opened then some (store.disks roomId)
      else none) = object.disk) : object.content = store.disks roomId := by
  unfold RoomObject.content
  rw [← isDisk]
  split
  · rfl
  · next closed => exact (refines.closed roomId closed).symm

/-- A request that is about the room, other than `LoadRoom`. -/
theorem stands_handle (refines : Refines kernel store)
    (opened : ∀ other ∈ store.state.rooms, other ∈ store.opened)
    (memory : store.state.rooms[roomId]? = object.memory)
    (disk : (if roomId ∈ store.opened then some (store.disks roomId)
      else none) = object.disk)
    {served : Served} (faultless : served.environment.faults = .none)
    (about : addressee served.request = some roomId)
    (notLoad : served.request ≠ .loadRoom roomId) :
    (served.program.run kernel).1 = (object.handle roomId served).1 ∧
      Stands roomId (served.program.run kernel).2
        (object.handle roomId served).2 := by
  have noLoad : ∀ other, served.request ≠ .loadRoom other := by
    intro other isLoad
    rw [isLoad] at about notLoad
    exact notLoad (congrArg Request.loadRoom (Option.some.inj about))
  obtain ⟨loaded, responds⟩ := exists_respond served kernel
  rw [respond_loaded served.environment loaded (.ok .empty) kernel.state noLoad]
    at responds
  have same : kernel.state.rooms[roomId]? =
      (object.app roomId).rooms[roomId]? := by
    rw [rooms_app, refines.state, memory]
  obtain ⟨replies, rooms⟩ :=
    respond_local same served.environment (.ok .empty) about
  rw [responds] at replies rooms
  refine ⟨replies, stands_after refines opened faultless rooms ?_⟩
  have notOpens : opens store.state served.request = none := by
    cases isRequest : served.request with
    | newRoom name =>
        rw [isRequest] at about
        cases about
    | loadRoom other => exact absurd isRequest (noLoad other)
    | _ => rfl
  have isLoaded : store.state.isRoomLoaded roomId = object.loaded := by
    unfold AppState.isRoomLoaded RoomObject.loaded
    rw [memory]
    cases object.memory <;> rfl
  simp only [notOpens, changedDisks, about, isLoaded, reduceCtorEq, false_or]
  unfold RoomObject.handle
  dsimp only
  rw [← disk]
  cases object.loaded with
  | false => rfl
  | true =>
      simp only [if_true, changeDisk_self]
      split <;> rfl

/-- `LoadRoom`. -/
theorem stands_load (refines : Refines kernel store)
    (opened : ∀ other ∈ store.state.rooms, other ∈ store.opened)
    (memory : store.state.rooms[roomId]? = object.memory)
    (disk : (if roomId ∈ store.opened then some (store.disks roomId)
      else none) = object.disk)
    {served : Served} (faultless : served.environment.faults = .none)
    (isLoad : served.request = .loadRoom roomId) :
    (served.program.run kernel).1 = object.load.1 ∧
      Stands roomId (served.program.run kernel).2 object.load.2 := by
  obtain ⟨environment, request⟩ := served
  dsimp only at isLoad faultless
  subst isLoad
  have content := content_eq refines disk
  have isProgram : (Served.program ⟨environment, .loadRoom roomId⟩ :
      Task Value Reply) = loadReply <$> handleLoadRoom .none roomId := by
    rw [← faultless]
    exact (comp_map _ _ _).symm
  have response := loadRoom_response refines roomId
  have after := refines.loadRoom roomId
  have replies : ((Served.program ⟨environment, .loadRoom roomId⟩).run
      kernel).1 = object.load.1 := by
    rw [isProgram, Program.run_map, response, memory]
    unfold RoomObject.load
    cases object.memory <;> rfl
  refine ⟨replies, stands_after refines opened faultless ?_ ?_⟩
  · rw [isProgram, Program.run_map, after.state, Store.loadRoom, memory]
    unfold RoomObject.load
    cases isMemory : object.memory with
    | none => exact memory.trans isMemory
    | some room => simp [content]
  · have stays : changedDisks store (.loadRoom roomId) roomId =
        store.disks roomId := by
      simp only [changedDisks, addressee]
      split
      · exact changeDisk_self ..
      · rfl
    simp only [opens, true_or, if_true, stays, ← content]
    unfold RoomObject.load
    cases object.memory <;> rfl

/-- A request that is about the room. -/
theorem stands_request (stands : Stands roomId kernel object)
    {served : Served} (faultless : served.environment.faults = .none)
    (about : addressee served.request = some roomId) :
    some (served.program.run kernel).1 =
        (object.step roomId (.request served)).1 ∧
      Stands roomId (served.program.run kernel).2
        (object.step roomId (.request served)).2 := by
  obtain ⟨store, refines, opened, memory, disk⟩ := stands
  by_cases isLoad : served.request = .loadRoom roomId
  · have stepped : object.step roomId (.request served) =
        (some object.load.1, object.load.2) := by
      simp only [RoomObject.step, isLoad]
    rw [stepped]
    obtain ⟨replies, after⟩ :=
      stands_load refines opened memory disk faultless isLoad
    exact ⟨congrArg some replies, after⟩
  · have stepped : object.step roomId (.request served) =
        (some (object.handle roomId served).1,
          (object.handle roomId served).2) := by
      obtain ⟨environment, request⟩ := served
      cases request with
      | loadRoom other =>
          exact absurd (congrArg Request.loadRoom (Option.some.inj about))
            isLoad
      | _ => rfl
    rw [stepped]
    obtain ⟨replies, after⟩ :=
      stands_handle refines opened memory disk faultless about isLoad
    exact ⟨congrArg some replies, after⟩

/-- Only `NewRoom` answers with an id, and with the next one. -/
theorem newRoom_of_reply {served : Served}
    (created : (served.program.run kernel).1 = .ok (.newRoom roomId)) :
    (∃ name, served.request = .newRoom name) ∧
      kernel.state.nextRoomId = roomId := by
  have expected := (@ends_program Value _ served).run kernel
  rw [created] at expected
  obtain ⟨loaded, responds⟩ := exists_respond served kernel
  obtain ⟨environment, request⟩ := served
  cases request with
  | newRoom name =>
      have replies := congrArg Prod.fst responds
      rw [created] at replies
      cases replies
      exact ⟨⟨name, rfl⟩, rfl⟩
  | _ => simp [Expected] at expected

/-- A request about another room leaves the disk of the room alone. -/
theorem changedDisks_elsewhere {request : Request}
    (notAbout : addressee request ≠ some roomId) :
    changedDisks store request roomId = store.disks roomId := by
  unfold changedDisks
  cases about : addressee request with
  | none => rfl
  | some other =>
      have other_ne : roomId ≠ other := by
        rintro rfl
        exact notAbout about
      dsimp only
      split
      · exact changeDisk_of_ne _ other_ne _
      · rfl

/-- A request that the room does not see. -/
theorem stands_elsewhere (stands : Stands roomId kernel object)
    {served : Served} (faultless : served.environment.faults = .none)
    (notAbout : addressee served.request ≠ some roomId)
    (notCreated : (served.program.run kernel).1 ≠ .ok (.newRoom roomId)) :
    Stands roomId (served.program.run kernel).2 object := by
  obtain ⟨store, refines, opened, memory, disk⟩ := stands
  obtain ⟨loaded, responds⟩ := exists_respond served kernel
  have rooms := respond_elsewhere served.environment loaded kernel.state
    notAbout (by rw [responds]; exact notCreated)
  rw [responds, refines.state, memory] at rooms
  have notOpens : opens store.state served.request ≠ some roomId := by
    intro isOpened
    cases isRequest : served.request with
    | newRoom name =>
        rw [isRequest] at isOpened
        have replies := congrArg Prod.fst responds
        rw [isRequest, refines.state] at replies
        exact notCreated (replies.symm.trans (congrArg
          (fun roomId => Except.ok (Response.newRoom roomId))
          (Option.some.inj isOpened)))
    | loadRoom other =>
        rw [isRequest] at isOpened notAbout
        exact notAbout isOpened
    | _ =>
        rw [isRequest] at isOpened
        cases isOpened
  refine stands_after refines opened faultless rooms ?_
  simp only [notOpens, false_or, changedDisks_elsewhere notAbout, disk]

/-- The creation of the room. -/
theorem stands_created (stands : Stands roomId kernel object)
    {served : Served} (faultless : served.environment.faults = .none)
    (created : (served.program.run kernel).1 = .ok (.newRoom roomId)) :
    Stands roomId (served.program.run kernel).2
      ⟨some (.fresh true), some object.content⟩ := by
  obtain ⟨store, refines, opened, memory, disk⟩ := stands
  obtain ⟨⟨name, isRequest⟩, isNext⟩ := newRoom_of_reply created
  obtain ⟨loaded, responds⟩ := exists_respond served kernel
  have after : (served.program.run kernel).2.state =
      labelRoom kernel.state.createRoom.1 kernel.state.nextRoomId name := by
    have states := congrArg Prod.snd responds
    rw [isRequest] at states
    exact states.symm
  have notAbout : addressee served.request ≠ some roomId := by
    rw [isRequest]
    exact nofun
  refine stands_after refines opened faultless ?_ ?_
  · rw [after, (rooms_labelRoom _ _ _).1]
    simp [AppState.createRoom, isNext]
  · have isOpened : opens store.state served.request = some roomId := by
      rw [isRequest, ← refines.state, ← isNext]
      rfl
    simp only [isOpened, true_or, if_true, changedDisks_elsewhere notAbout,
      content_eq refines disk]

/-- After a restart, the rooms with a database are there, but not loaded. -/
theorem stands_restarted (stands : Stands roomId kernel object) :
    Stands roomId (boot .none kernel.persistence.dirs)
      ⟨object.disk.map fun _ => .fresh false, object.disk⟩ := by
  obtain ⟨store, refines, opened, memory, disk⟩ := stands
  refine ⟨store.restart, refines.restart, ?_, ?_, disk⟩
  · intro other member
    rw [Std.ExtTreeMap.mem_iff_isSome_getElem?] at member
    simp only [Store.restart, lookup_registerExisting] at member
    split at member
    · next isListed => exact Std.ExtTreeSet.mem_toList.mp isListed
    · simp [AppState.new] at member
  · simp only [Store.restart, lookup_registerExisting, ← disk,
      Std.ExtTreeSet.mem_toList]
    split
    · rfl
    · simp [AppState.new]

end Stands

/-! ## Rooms as parts of the server -/

/-- Each room is a part of the server. -/
theorem projects (roomId : RoomId) :
    Machine.Projects (serve : Machine (SyncpondKernel Value) _ _)
      (Happening.seenBy roomId) Happening.Faultless (RoomObject.step roomId)
      (Stands roomId) where
  hidden kernel object event stands faultless hidden := by
    cases event with
    | restart => cases hidden
    | request served =>
        simp only [Happening.seenBy] at hidden
        split at hidden
        · cases hidden
        · next notAbout =>
          split at hidden
          · cases hidden
          · next notCreated =>
            apply stands_elsewhere stands faultless notAbout
            exact fun created => notCreated (congrArg some created)
  seen kernel object event seen stands faultless isSeen := by
    cases event with
    | restart =>
        cases isSeen
        exact ⟨rfl, stands_restarted stands⟩
    | request served =>
        simp only [Happening.seenBy] at isSeen
        split at isSeen
        · next about =>
          cases isSeen
          exact stands_request stands faultless about
        · split at isSeen
          · next created =>
            cases isSeen
            have replies := Option.some.inj created
            exact ⟨created, stands_created stands faultless replies⟩
          · cases isSeen

/-- A room of which the server has nothing. -/
theorem stands_absent (roomId : RoomId) :
    Stands roomId (boot .none ∅ : SyncpondKernel Value) .absent := by
  refine ⟨.initial, refines_boot, ?_, ?_, ?_⟩
  · intro other member
    simp [Store.initial, registerExisting, AppState.new] at member
  · simp [Store.initial, registerExisting, AppState.new, RoomObject.absent]
  · simp [Store.initial, RoomObject.absent]

variable (Value) in
/-- What a room sees of a run over an empty data directory, with the replies. -/
def roomHistory (roomId : RoomId) (events : List Happening) :
    List (RoomEvent × Option Reply) :=
  serve.history (Happening.seenBy roomId)
    (boot .none ∅ : SyncpondKernel Value) events

/--
Whatever is asked of a server over an empty data directory, one request at a
time and with restarts in between, as long as nothing fails in its storage: the
replies about a room are those that the object of the room gives on its own,
and what is in memory of the room at the end is what the object has.
-/
theorem rooms_are_objects {events : List Happening}
    (faultless : ∀ event ∈ events, event.Faultless) (roomId : RoomId) :
    (roomHistory Value roomId events).map Prod.snd =
        (RoomObject.step roomId).answers (.absent : RoomObject Value)
          ((roomHistory Value roomId events).map Prod.fst) ∧
      (serve.final (boot .none ∅) events).state.rooms[roomId]? =
        ((RoomObject.step roomId).final (.absent : RoomObject Value)
          ((roomHistory Value roomId events).map Prod.fst)).memory := by
  obtain ⟨replies, store, refines, _, memory, _⟩ :=
    (projects roomId).run (@stands_absent Value _ roomId) faultless
  refine ⟨replies, ?_⟩
  rw [refines.state]
  exact memory

/-! ### Two rooms with a bucket of the same id -/

def happen (request : Request) : Happening :=
  .request ⟨plain, request⟩

/-- The rooms are written in turn, and loaded after a restart. -/
def twoRooms : List Happening :=
  [happen (.newRoom "first"), happen (.newRoom "second"),
    happen (.newBucket 1 5 "notes"),
    happen (.writeFragment 1 5 "key" "1".toUTF8),
    happen (.writeFragment 2 5 "key" "2".toUTF8),
    .restart, happen (.loadRoom 2), happen (.loadRoom 1),
    happen (.readFragment 1 5 "key")]

theorem rooms_are_objects_twoRooms :
    (RoomObject.step 1).answers (.absent : RoomObject Json)
        ((roomHistory Json 1 twoRooms).map Prod.fst) =
      [some (.ok (.newRoom 1)), some (.ok .newBucket),
        some (.ok .writeFragment), none, some (.ok .loadRoom),
        some (.ok (.readFragment "1".toUTF8 true))] := by
  have faultless : ∀ event ∈ twoRooms, event.Faultless := by
    simp [twoRooms, happen, Happening.Faultless, plain]
  rw [← (rooms_are_objects faultless 1).1]
  decide +kernel

end Syncpond.RoomObjects
