import Syncpond.Library.Channel
import Syncpond.Persistence
import Syncpond.State

/-!
# The kernel

The kernel executes commands on the application state, mirrors them to the
persistence layer, and announces fragment writes on the notification channel.
A command is a program of atomic sections: a section is a critical section of
the state lock, one call of the storage, or the announcement.  A command can
be run alone, or in a pool with other commands.

`boot` is the part of startup that rebuilds the state from the data directory,
and `Event` collects everything that changes a kernel from outside: commands,
`delete_room` and restarts.
-/

namespace Syncpond.Kernel

open Syncpond.Protocol
open Syncpond.Serde
open Syncpond.State
open Syncpond.Persistence
open Syncpond.Library.Maps
open Syncpond.Library.Channels
open Syncpond.Library.Programs
open Syncpond.Library.Text

/-- The most notifications that may wait for the forwarder. -/
def notificationCapacity : Nat := 1024

/-- The update channel between the kernel and the forwarder. -/
abbrev Notifications (Value : Type) :=
  Channel (Sourced (UpdateChannelMessage Value)) notificationCapacity

/-- The kernel with its state, its persistence and the channel it sends to. -/
structure SyncpondKernel (Value : Type) where
  state : AppState Value
  persistence : PersistenceManager
  notifications : Notifications Value

variable {Value : Type} [SerdeJson Value]

/-! ## In-memory effects of the commands -/

namespace RoomEffect

/-- `NewBucket`: create the bucket if needed, label it unless blank. -/
def newBucket (bucketId : BucketId) (labelTrimmed : String)
    (room : RoomState Value) : RoomState Value :=
  { room with
    buckets := room.buckets.insertIfNew bucketId ∅
    bucketFlags := room.bucketFlags.insertIfNew bucketId 0
    bucketLabels :=
      if labelTrimmed.isEmpty then room.bucketLabels
      else room.bucketLabels.insert bucketId labelTrimmed }

/-- `DeleteBucket`: forget the bucket with its label and flags. -/
def deleteBucket (bucketId : BucketId) (room : RoomState Value) :
    RoomState Value :=
  { room with
    buckets := room.buckets.erase bucketId
    bucketLabels := room.bucketLabels.erase bucketId
    bucketFlags := room.bucketFlags.erase bucketId }

/-- `NewMember`: add the member unless it is blank. -/
def newMember (memberTrimmed : String) (room : RoomState Value) :
    RoomState Value :=
  if memberTrimmed.isEmpty then room
  else { room with members := room.members.insert memberTrimmed }

/-- `DeleteMember`: drop the member. -/
def deleteMember (memberTrimmed : String) (room : RoomState Value) :
    RoomState Value :=
  { room with members := room.members.erase memberTrimmed }

end RoomEffect

/-- The label that `NewBucket` persists. -/
def labelOption (labelTrimmed : String) : Option String :=
  if labelTrimmed.isEmpty then none else some labelTrimmed

/-- The value that `WriteFragment` persists: none for a tombstone. -/
def persistedValue (parsed : Value) : Option Value :=
  if SerdeJson.isNull parsed then none else some parsed

/-- The update that `WriteFragment` announces. -/
def writeUpdate (bucketId : BucketId) (key : String) (parsed : Value)
    (roomCounter : UInt64) : DataUpdate Value where
  bucketId := bucketId
  key := key
  value := some parsed
  bucketCounter := roomCounter

/-- The response of a command on a room that is not loaded. -/
def roomNotLoaded : CommandResponse :=
  .loadRoomResponse (.error "room_not_loaded")

/-! ## Sections of the commands -/

/-- A command in progress: a program of atomic sections on the kernel. -/
abbrev Task (Value Result : Type) := Program (SyncpondKernel Value) Result

namespace Task

variable (faults : Faults)

/-- Open (or create) the database of a room. -/
def openRoomDb (roomId : RoomId) : Task Value (Except String Unit) :=
  Program.atomic .free fun kernel =>
    let (opened, result) := kernel.persistence.openRoomDb faults roomId
    (result, { kernel with persistence := opened })

/-- Run an operation on the database of a room, if it is open. -/
def onRoom {Result : Type} (roomId : RoomId) (operation : Storage Result) :
    Task Value (Option (Except String Result)) := do
  if ← Program.read .free fun kernel : SyncpondKernel Value =>
      kernel.persistence.dbs.contains roomId then
    some <$> Program.zoom
      (fun kernel : SyncpondKernel Value => kernel.persistence.view roomId)
      (fun kernel room =>
        { kernel with
          persistence := kernel.persistence.writeBack roomId room })
      operation.run
  else return none

/-- Open the database of the room and run an operation on it, best-effort. -/
def persist (roomId : RoomId) (operation : Storage Unit) : Task Value Unit := do
  let _ ← openRoomDb faults roomId
  let _ ← onRoom roomId operation

/-- Give the write lock of the state back. -/
def release : Task Value Unit :=
  Program.modify .release id

end Task

/-- What a command finds when it takes the write lock to change a room. -/
inductive Found where
  | unknown
  | unloaded
  | changed

namespace SyncpondKernel

/-- Change a loaded room. -/
def mutateRoom (roomId : RoomId) (effect : RoomState Value → RoomState Value)
    (kernel : SyncpondKernel Value) : Found × SyncpondKernel Value :=
  match kernel.state.rooms[roomId]? with
  | none => (.unknown, kernel)
  | some room =>
      if !room.loaded then (.unloaded, kernel)
      else
        (.changed, { kernel with
          state := { kernel.state with
            rooms := kernel.state.rooms.insert roomId (effect room) } })

/-- Create a room with the next id. -/
def createRoom (kernel : SyncpondKernel Value) :
    RoomId × SyncpondKernel Value :=
  let (created, roomId) := kernel.state.createRoom
  (roomId, { kernel with state := created })

/-- Label a room unless the name is blank; an error is ignored. -/
def labelRoom (roomId : RoomId) (name : String)
    (kernel : SyncpondKernel Value) : SyncpondKernel Value :=
  if (trim name).isEmpty then kernel
  else
    match kernel.state.setRoomLabel roomId name with
    | .ok app => { kernel with state := app }
    | .error _ => kernel

/-- The version of the fragment just written, none if it was only buffered. -/
def assignedVersion (app : AppState Value) (roomId : RoomId)
    (bucketId : BucketId) (key : String) : Option UInt64 :=
  app.rooms[roomId]?.bind fun room =>
    if room.txBuffer.isSome then none
    else (getNested room.buckets bucketId key).map FragmentEntry.keyVersion

/-- Apply a write to the state; an error is only logged. -/
def commitWrite (roomId : RoomId) (bucketId : BucketId) (key : String)
    (parsed : Value) (kernel : SyncpondKernel Value) :
    Option UInt64 × SyncpondKernel Value :=
  match kernel.state.setFragment roomId bucketId key parsed with
  | .ok app =>
      (assignedVersion app roomId bucketId key, { kernel with state := app })
  | .error _ => (none, kernel)

/-- Read the room version for the announcement, `0` on an error. -/
def readVersion (roomId : RoomId) (kernel : SyncpondKernel Value) : UInt64 :=
  match kernel.state.roomVersion roomId with
  | .ok version => version
  | .error _ => 0

/-- Announce an update of a room; a full channel drops it. -/
def broadcast (roomId : RoomId) (assigned : Option UInt64)
    (update : DataUpdate Value) (kernel : SyncpondKernel Value) :
    SyncpondKernel Value :=
  { kernel with
    notifications :=
      kernel.notifications.sendOrDrop
        ⟨roomId, assigned, .broadcast update⟩ }

end SyncpondKernel

/-! ## Commands -/

section Commands

variable (faults : Faults)

/-- Handle `NewRoom`: create a room, open its database and label it. -/
def handleNewRoom (name : String) : Task Value CommandResponse := do
  let roomId ← Program.atomic .acquire SyncpondKernel.createRoom
  let _ ← Task.openRoomDb faults roomId
  Program.modify .release (SyncpondKernel.labelRoom roomId name)
  return .newRoomResponse roomId

/--
The shape shared by `NewBucket`, `DeleteBucket`, `NewMember` and
`DeleteMember`: nothing happens to an unknown room, an unloaded room is an
error, and otherwise the effect in memory is followed by its persistence under
the same write lock.
-/
def mutateAndPersist (roomId : RoomId)
    (effect : RoomState Value → RoomState Value)
    (operation : Storage Unit) (response : CommandResponse) :
    Task Value CommandResponse := do
  match ← Program.atomic .acquire
      (SyncpondKernel.mutateRoom roomId effect) with
  | .unknown =>
      Task.release
      return response
  | .unloaded =>
      Task.release
      return roomNotLoaded
  | .changed =>
      Task.persist faults roomId operation
      Task.release
      return response

/-- Handle `NewBucket`. -/
def handleNewBucket (roomId : RoomId) (bucketId : BucketId)
    (label : String) : Task Value CommandResponse :=
  let labelTrimmed := trim label
  mutateAndPersist faults roomId
    (RoomEffect.newBucket bucketId labelTrimmed)
    (persistBucket faults Value roomId bucketId (labelOption labelTrimmed) 0)
    .newBucketResponse

/-- Handle `DeleteBucket`. -/
def handleDeleteBucket (roomId : RoomId) (bucketId : BucketId) :
    Task Value CommandResponse :=
  mutateAndPersist faults roomId
    (RoomEffect.deleteBucket bucketId)
    (removeBucket faults Value roomId bucketId)
    .deleteBucketResponse

/-- Handle `NewMember`. -/
def handleNewMember (roomId : RoomId) (member : String) :
    Task Value CommandResponse :=
  let memberTrimmed := trim member
  mutateAndPersist faults roomId
    (RoomEffect.newMember memberTrimmed)
    (persistMember faults Value roomId memberTrimmed)
    .newMemberResponse

/-- Handle `DeleteMember`. -/
def handleDeleteMember (roomId : RoomId) (member : String) :
    Task Value CommandResponse :=
  let memberTrimmed := trim member
  mutateAndPersist faults roomId
    (RoomEffect.deleteMember memberTrimmed)
    (removeMember faults Value roomId memberTrimmed)
    .deleteMemberResponse

/-- Handle `WriteFragment`: commit, persist and announce a value. -/
def handleWriteFragment (roomId : RoomId) (bucketId : BucketId)
    (key : String) (data : FragmentData) : Task Value CommandResponse := do
  if !(← Program.read .locked fun kernel : SyncpondKernel Value =>
      kernel.state.isRoomLoaded roomId) then
    return roomNotLoaded
  else
    let parsed := SerdeJson.parsePayload data
    let assigned ← Program.atomic .locked
      (SyncpondKernel.commitWrite roomId bucketId key parsed)
    Task.persist faults roomId
      (persistFragment faults (decimal bucketId) key (persistedValue parsed))
    let roomCounter ← Program.read .locked
      (SyncpondKernel.readVersion roomId)
    Program.modify .free
      (SyncpondKernel.broadcast roomId assigned
        (writeUpdate bucketId key parsed roomCounter))
    return .fragmentWriteResponse

/-- What `ReadFragment` answers in a state. -/
def readFragment (app : AppState Value) (roomId : RoomId)
    (bucketId : BucketId) (key : String) : CommandResponse :=
  match app.getFragment roomId bucketId key with
  | .ok (value, _) =>
      match SerdeJson.value.toVec value with
      | .ok bytes => .fragmentReadResponse (some bytes)
      | .error _ => .fragmentReadResponse none
  | .error error =>
      if error.toString = "room_not_loaded" then roomNotLoaded
      else .fragmentReadResponse none

/-- Handle `ReadFragment`. -/
def handleReadFragment (roomId : RoomId) (bucketId : BucketId)
    (key : String) : Task Value CommandResponse :=
  Program.read .locked fun kernel =>
    readFragment kernel.state roomId bucketId key

/-! ### `LoadRoom` -/

/-- What `LoadRoom` reads from the database of a room. -/
structure RoomData (Value : Type) where
  bucketDefs : List (BucketId × Option String × UInt32)
  members : FinSet String
  fragments : Map BucketId (Map String Value)

/-- The data of a room without a database. -/
def RoomData.empty : RoomData Value := ⟨[], ∅, ∅⟩

/-- The bucket definitions of the loaded records. -/
def bucketDefs (buckets : Map BucketId BucketRecord) :
    List (BucketId × Option String × UInt32) :=
  buckets.toList.map fun (_, record) => (record.id, record.label, record.flags)

/-- Read bucket records, members and fragments; only the last may fail. -/
def readRoomData (roomId : RoomId) : Storage (RoomData Value) := do
  let buckets ← Storage.attempt (loadBuckets faults Value roomId)
  let members ← Storage.attempt (loadMembers faults Value roomId)
  match ← Storage.attempt (loadAllFragments faults) with
  | .ok fragments =>
      return {
        bucketDefs := bucketDefs (buckets.toOption.getD ∅)
        members := members.toOption.getD ∅
        fragments := fragments }
  | .error text => throw ("fragment_load_failed: " ++ text)

/-- Install the data that was read into the state. -/
def SyncpondKernel.installRoomData (roomId : RoomId) (data : RoomData Value)
    (kernel : SyncpondKernel Value) : CommandResponse × SyncpondKernel Value :=
  match kernel.state.loadRoomData roomId data.bucketDefs data.members
      data.fragments with
  | .ok app => (.loadRoomResponse (.ok ()), { kernel with state := app })
  | .error error => (.loadRoomResponse (.error error.toString), kernel)

/-- Handle `LoadRoom`: read the database, then install what it holds. -/
def handleLoadRoom (roomId : RoomId) : Task Value CommandResponse := do
  match ← Task.openRoomDb faults roomId with
  | .error text => return .loadRoomResponse (.error ("db_open_failed: " ++ text))
  | .ok () =>
      match ← Task.onRoom roomId (readRoomData faults roomId) with
      | some (.ok data) =>
          Program.atomic .locked (SyncpondKernel.installRoomData roomId data)
      | some (.error text) => return .loadRoomResponse (.error text)
      | none =>
          Program.atomic .locked (SyncpondKernel.installRoomData roomId .empty)

/-! ### Dispatch -/

/-- Drop a room from memory, and answer. -/
def SyncpondKernel.unloadRoom (roomId : RoomId)
    (kernel : SyncpondKernel Value) : CommandResponse × SyncpondKernel Value :=
  match kernel.state.unloadRoom roomId with
  | .ok app => (.unloadRoomResponse (.ok ()), { kernel with state := app })
  | .error error => (.unloadRoomResponse (.error error.toString), kernel)

/-- Handle `UnloadRoom`. -/
def handleUnloadRoom (roomId : RoomId) : Task Value CommandResponse :=
  Program.atomic .locked (SyncpondKernel.unloadRoom roomId)

/-- Execute a command against the kernel and return a response. -/
def handleCommand : Commands → Task Value CommandResponse
  | .newRoom name => handleNewRoom faults name
  | .newBucket roomId bucketId label =>
      handleNewBucket faults roomId bucketId label
  | .deleteBucket roomId bucketId => handleDeleteBucket faults roomId bucketId
  | .newMember roomId member => handleNewMember faults roomId member
  | .deleteMember roomId member => handleDeleteMember faults roomId member
  | .writeFragment roomId bucketId key data =>
      handleWriteFragment faults roomId bucketId key data
  | .readFragment roomId bucketId key => handleReadFragment roomId bucketId key
  | .loadRoom roomId => handleLoadRoom faults roomId
  | .unloadRoom roomId => handleUnloadRoom roomId

end Commands

/-- Delete a room by id. -/
def SyncpondKernel.deleteRoom (roomId : RoomId)
    (kernel : SyncpondKernel Value) :
    Except String Unit × SyncpondKernel Value :=
  match kernel.state.deleteRoom roomId with
  | .ok app => (.ok (), { kernel with state := app })
  | .error error => (.error error.toString, kernel)

/-! ## Initial sync -/

/-- A fragment that the initial sync sends. -/
structure SyncUpdate (Value : Type) where
  bucketId : BucketId
  key : String
  value : Value
  keyVersion : UInt64

/-- The message of a fragment that the initial sync sends. -/
def SyncUpdate.dataUpdate (update : SyncUpdate Value) : DataUpdate Value where
  bucketId := update.bucketId
  key := update.key
  value := some update.value
  bucketCounter := update.keyVersion

/-- The fragment that one entry of a requested bucket contributes. -/
def syncEntry (bucketId : BucketId)
    (entry : String × FragmentEntry Value) : Option (SyncUpdate Value) :=
  if SerdeJson.isNull entry.2.value then none
  else some ⟨bucketId, entry.1, entry.2.value, entry.2.keyVersion⟩

/-- The iteration order of the fragment maps, which the source leaves open. -/
structure Iteration (Value : Type) where
  entries : Map String (FragmentEntry Value) →
    List (String × FragmentEntry Value)
  complete : ∀ bucket, (entries bucket).Perm bucket.toList

/--
`handle_client_connected`: the fragments without tombstones of the requested
buckets, nothing for an unknown room.
-/
def collectUpdates (iteration : Iteration Value) (app : AppState Value)
    (roomId : RoomId) (requestedBuckets : List BucketId) :
    List (SyncUpdate Value) :=
  match app.rooms[roomId]? with
  | none => []
  | some room =>
      requestedBuckets.flatMap fun bucketId =>
        match room.buckets[bucketId]? with
        | none => []
        | some bucket =>
            (iteration.entries bucket).filterMap (syncEntry bucketId)

/-! ## Startup and runs -/

/-- Register an existing room as an unloaded stub. -/
def registerStub (app : AppState Value) (roomId : RoomId) :
    AppState Value :=
  { app with rooms := app.rooms.insert roomId (.fresh false) }

/-- Register the existing rooms, and keep the next id above them. -/
def registerExisting (app : AppState Value) (existing : List RoomId) :
    AppState Value :=
  let registered := existing.foldl registerStub app
  match existing.max? with
  | some maxId =>
      if registered.nextRoomId ≤ maxId then
        { registered with nextRoomId := maxId + 1 }
      else registered
  | none => registered

/-- Startup over a data directory, as far as rooms are concerned. -/
def boot (faults : Faults) (dirs : Map String Db) : SyncpondKernel Value :=
  let manager :=
    ((PersistenceManager.new dirs).openExistingRoomDbs faults).1
  { state := registerExisting .new manager.listRoomIds
    persistence := manager
    notifications := .empty }

/-- What happens to a kernel from outside, one event at a time. -/
inductive Event where
  | command (command : Commands)
  | deleteRoom (roomId : RoomId)
  | restart

/-- The kernel after an event, handled alone. -/
def apply (faults : Faults) (kernel : SyncpondKernel Value) :
    Event → SyncpondKernel Value
  | .command command => ((handleCommand faults command).run kernel).2
  | .deleteRoom roomId => (kernel.deleteRoom roomId).2
  | .restart => boot faults kernel.persistence.dirs

/-- The kernel after a sequence of events without storage failures. -/
def run (kernel : SyncpondKernel Value) (events : List Event) : SyncpondKernel Value :=
  events.foldl (apply .none) kernel

/-- A run of the server from an empty data directory. -/
def Reachable (kernel : SyncpondKernel Value) : Prop :=
  ∃ events, kernel = run (boot .none ∅) events

theorem Reachable.apply {kernel : SyncpondKernel Value}
    (reachable : Reachable kernel) {event : Event} :
    Reachable (apply .none kernel event) := by
  obtain ⟨events, rfl⟩ := reachable
  exact ⟨events ++ [event], by simp [run]⟩

end Syncpond.Kernel
