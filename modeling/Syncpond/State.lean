import Syncpond.Library.Maps
import Syncpond.Serde

/-!
# Application state

Rooms hold buckets, buckets map keys to fragments with versions, and an open
transaction buffers commands.  Every operation is a pure function of the
state: an operation that the source reports as an error returns the error and
no new state.  Operations on one room are defined on `RoomState` and lifted to
`AppState` by `withRoom` and `readRoom`, which stand for the lookup of the
room and its lock.

`HashMap` and `HashSet` are finite maps and sets; `u64` arithmetic is that of
`UInt64`, which wraps as a release build does.
-/

namespace Syncpond.State

open Syncpond.Protocol
open Syncpond.Serde
open Syncpond.Library.Maps
open Syncpond.Library.Text

/-- Reserved bucket id for server-only data: `u64::MAX`. -/
def serverOnlyBucketId : BucketId := 0xFFFFFFFFFFFFFFFF

/-- A value with the room version that it was written at. -/
structure FragmentEntry (Value : Type) where
  value : Value
  keyVersion : UInt64

/-- A change that waits for the end of its transaction. -/
inductive RoomCommand (Value : Type) where
  | set (bucketId : BucketId) (key : String) (value : Value)
  | del (bucketId : BucketId) (key : String)

/-- Map of bucket id to (map of key to fragment). -/
abbrev Buckets (Value : Type) :=
  Map BucketId (Map String (FragmentEntry Value))

/-- What is in memory of a room. -/
structure RoomState (Value : Type) where
  buckets : Buckets Value
  roomCounter : UInt64
  txBuffer : Option (List (RoomCommand Value))
  /-- Set while a save or load is in progress; no code path sets it. -/
  ioLocked : Bool
  /-- Whether the data of the room is resident in memory. -/
  loaded : Bool
  bucketLabels : Map BucketId String
  bucketFlags : Map BucketId UInt32
  members : FinSet String

/-- Error conditions used by application state operations. -/
inductive StateError where
  | roomNotFound
  | bucketNotFound
  | fragmentNotFound
  | fragmentTombstone
  | txNotOpen
  | txAlreadyOpen
  | jwtKeyNotConfigured
  | jwtIssuerAudienceNotConfigured
  | jwtKeyTooShort
  | reservedBucketId
  | invalidMember
  | commandApiKeyInvalid
  | labelNotFound
  | labelInUse
  | labelInvalid
  | roomIoBusy
  | roomNotLoaded
deriving DecidableEq

/-- The `Display` texts of the errors. -/
def StateError.toString : StateError → String
  | .roomNotFound => "room_not_found"
  | .bucketNotFound => "bucket_not_found"
  | .fragmentNotFound => "not_found"
  | .fragmentTombstone => "tombstone"
  | .txNotOpen => "tx_not_open"
  | .txAlreadyOpen => "tx_already_open"
  | .jwtKeyNotConfigured => "jwt_key_not_configured"
  | .jwtIssuerAudienceNotConfigured => "jwt_issuer_audience_not_configured"
  | .jwtKeyTooShort => "jwt_key_too_short"
  | .reservedBucketId => "reserved_bucket_id"
  | .invalidMember => "invalid_member"
  | .commandApiKeyInvalid => "command_api_key_invalid"
  | .labelNotFound => "label_not_found"
  | .labelInUse => "label_in_use"
  | .labelInvalid => "label_invalid"
  | .roomIoBusy => "room_io_busy"
  | .roomNotLoaded => "room_not_loaded"

/-- Shared application state. -/
structure AppState (Value : Type) where
  rooms : Map RoomId (RoomState Value)
  /-- Mapping from human-friendly label to room id. -/
  labels : Map String RoomId
  nextRoomId : RoomId
  jwtKey : Option String
  jwtTtlSeconds : UInt64
  jwtIssuer : Option String
  jwtAudience : Option String
  lastJwtIssueSeconds : Option UInt64

/-- What `room_snapshot` and `room_delta` serialise. -/
structure RoomView (Value : Type) where
  roomCounter : UInt64
  /-- The object `buckets`: bucket name to (key to value). -/
  buckets : Map String (Map String Value)

variable {Value : Type}

/-! ## Operations on one room -/

namespace RoomState

/-- A room with no content; `create_room` loads it, startup does not. -/
def fresh (loaded : Bool) : RoomState Value where
  buckets := ∅
  roomCounter := 0
  txBuffer := none
  ioLocked := false
  loaded := loaded
  bucketLabels := ∅
  bucketFlags := ∅
  members := ∅

/-- Create or replace a fragment under the next version of the room. -/
def store (room : RoomState Value) (bucketId : BucketId) (key : String)
    (value : Value) : RoomState Value :=
  let keyVersion := room.roomCounter + 1
  { room with
    roomCounter := keyVersion
    buckets := insertNested room.buckets bucketId key ⟨value, keyVersion⟩ }

/-- Set a fragment value in a bucket within a room. -/
def setFragment (room : RoomState Value) (bucketId : BucketId)
    (key : String) (value : Value) :
    Except StateError (RoomState Value) :=
  if room.ioLocked then .error .roomIoBusy
  else if !room.loaded then .error .roomNotLoaded
  else
    match room.txBuffer with
    | some buffer =>
        .ok { room with txBuffer := some (buffer ++ [.set bucketId key value]) }
    | none => .ok (room.store bucketId key value)

/-- Get fragment value and version for a given key. -/
def getFragment [SerdeJson Value] (room : RoomState Value)
    (bucketId : BucketId) (key : String) :
    Except StateError (Value × UInt64) :=
  if room.ioLocked then .error .roomIoBusy
  else if !room.loaded then .error .roomNotLoaded
  else
    match room.buckets[bucketId]? with
    | none => .error .bucketNotFound
    | some bucket =>
        match bucket[key]? with
        | none => .error .fragmentNotFound
        | some fragment =>
            if SerdeJson.isNull fragment.value then .error .fragmentTombstone
            else .ok (fragment.value, fragment.keyVersion)

/-- Delete (tombstone) a fragment key in a room bucket. -/
def delFragment [SerdeJson Value] (room : RoomState Value)
    (bucketId : BucketId) (key : String) :
    Except StateError (RoomState Value) :=
  if room.ioLocked then .error .roomIoBusy
  else if !room.loaded then .error .roomNotLoaded
  else
    match room.txBuffer with
    | some buffer =>
        .ok { room with txBuffer := some (buffer ++ [.del bucketId key]) }
    | none =>
        if room.buckets.contains bucketId then
          .ok (room.store bucketId key SerdeJson.null)
        else .error .bucketNotFound

/-- Change a bucket of the room, if the room has it. -/
def onBucket (room : RoomState Value) (bucketId : BucketId)
    (change : RoomState Value → RoomState Value) :
    Except StateError (RoomState Value) :=
  if room.ioLocked then .error .roomIoBusy
  else if room.buckets.contains bucketId then .ok (change room)
  else .error .bucketNotFound

/-- Set a human-friendly label for a bucket. -/
def setBucketLabel (room : RoomState Value) (bucketId : BucketId)
    (labelTrimmed : String) : Except StateError (RoomState Value) :=
  room.onBucket bucketId fun room =>
    { room with
      bucketLabels := room.bucketLabels.insert bucketId labelTrimmed }

/-- Set the bitflags for a bucket, replacing existing flags. -/
def setBucketFlags (room : RoomState Value) (bucketId : BucketId)
    (flags : UInt32) : Except StateError (RoomState Value) :=
  room.onBucket bucketId fun room =>
    { room with bucketFlags := room.bucketFlags.insert bucketId flags }

/-- Set or clear a single flag bit for a bucket. -/
def setBucketFlagBit (room : RoomState Value) (bucketId : BucketId)
    (flagMask : UInt32) (enabled : Bool) :
    Except StateError (RoomState Value) :=
  room.onBucket bucketId fun room =>
    let current := room.bucketFlags[bucketId]?.getD 0
    let new := if enabled then current ||| flagMask else current &&& ~~~flagMask
    { room with bucketFlags := room.bucketFlags.insert bucketId new }

/-- Add a member string to the room. -/
def addMember (room : RoomState Value) (memberTrimmed : String) :
    Except StateError (RoomState Value) :=
  if room.ioLocked then .error .roomIoBusy
  else if !room.loaded then .error .roomNotLoaded
  else .ok { room with members := room.members.insert memberTrimmed }

/-- Remove a member string from the room. -/
def removeMember (room : RoomState Value) (member : String) :
    Except StateError (RoomState Value) :=
  if room.ioLocked then .error .roomIoBusy
  else if !room.loaded then .error .roomNotLoaded
  else if room.members.contains member then
    .ok { room with members := room.members.erase member }
  else .error .fragmentNotFound

/-- Begin a transaction, buffering subsequent set and delete operations. -/
def txBegin (room : RoomState Value) :
    Except StateError (RoomState Value) :=
  if room.ioLocked then .error .roomIoBusy
  else if room.txBuffer.isSome then .error .txAlreadyOpen
  else .ok { room with txBuffer := some [] }

/-- Apply one buffered command; a delete always writes a tombstone. -/
def applyCommand [SerdeJson Value] (room : RoomState Value) :
    RoomCommand Value → RoomState Value
  | .set bucketId key value => room.store bucketId key value
  | .del bucketId key => room.store bucketId key SerdeJson.null

/-- Commit a transaction, applying buffered operations. -/
def txEnd [SerdeJson Value] (room : RoomState Value) :
    Except StateError (RoomState Value) :=
  if room.ioLocked then .error .roomIoBusy
  else
    match room.txBuffer with
    | none => .error .txNotOpen
    | some buffer =>
        .ok (buffer.foldl applyCommand { room with txBuffer := none })

/-- Abort a transaction, discarding buffered operations. -/
def txAbort (room : RoomState Value) :
    Except StateError (RoomState Value) :=
  if room.ioLocked then .error .roomIoBusy
  else .ok { room with txBuffer := none }

/-- The room version counter. -/
def version (room : RoomState Value) : Except StateError UInt64 :=
  if room.ioLocked then .error .roomIoBusy else .ok room.roomCounter

/-- The fragments of a loaded bucket: version zero, whatever it was before. -/
def loadedEntries (fragments : Map String Value) :
    Map String (FragmentEntry Value) :=
  fragments.map fun _ value => ⟨value, 0⟩

/-- Install one bucket definition with its fragments. -/
def installBucket (fragments : Map BucketId (Map String Value))
    (room : RoomState Value)
    (definition : BucketId × Option String × UInt32) : RoomState Value :=
  let (id, label, flags) := definition
  { room with
    bucketFlags := room.bucketFlags.insert id flags
    bucketLabels :=
      match label with
      | some text => room.bucketLabels.insert id text
      | none => room.bucketLabels
    buckets :=
      room.buckets.insert id (loadedEntries (fragments[id]?.getD ∅)) }

/-- Populate a room from persisted data and mark it as loaded. -/
def loadData (room : RoomState Value)
    (bucketDefs : List (BucketId × Option String × UInt32))
    (members : FinSet String)
    (fragments : Map BucketId (Map String Value)) : RoomState Value :=
  let cleared :=
    { room with buckets := ∅, bucketLabels := ∅, bucketFlags := ∅ }
  let installed := bucketDefs.foldl (installBucket fragments) cleared
  { installed with members := members, loaded := true }

/-- Evict the data of a room and mark it as unloaded. -/
def unload (room : RoomState Value) : RoomState Value :=
  { room with
    loaded := false
    buckets := ∅
    bucketLabels := ∅
    bucketFlags := ∅
    members := ∅ }

/-! ### Views for clients -/

/-- The name of a bucket in a view. -/
def bucketName (bucketId : BucketId) : String :=
  "bucket_" ++ decimal bucketId

/-- The buckets a client may see: the public one and the allowed ones, never the server-only one. -/
def visible (allowedBuckets : FinSet BucketId) (bucketId : BucketId) : Bool :=
  bucketId ≠ serverOnlyBucketId &&
    (bucketId = 0 || allowedBuckets.contains bucketId)

/-- The fragments of a bucket that are not tombstones. -/
def liveValues [SerdeJson Value]
    (fragments : Map String (FragmentEntry Value)) : Map String Value :=
  fragments.filterMap fun _ entry =>
    if SerdeJson.isNull entry.value then none else some entry.value

/-- The fragments of a bucket newer than a version, tombstones as nulls. -/
def newerValues (since : UInt64)
    (fragments : Map String (FragmentEntry Value)) : Map String Value :=
  fragments.filterMap fun _ entry =>
    if entry.keyVersion > since then some entry.value else none

/-- Build the object `buckets` of a view, one entry for each selected bucket. -/
def viewBuckets (room : RoomState Value)
    (select : BucketId → Map String (FragmentEntry Value) →
      Option (Map String Value)) : Map String (Map String Value) :=
  room.buckets.toList.foldl
    (gatherStep (fun view name values => view.insert name values)
      fun bucket => (select bucket.1 bucket.2).map
        fun values => (bucketName bucket.1, values))
    ∅

/-- A snapshot of the room for allowed buckets. -/
def snapshot [SerdeJson Value] (room : RoomState Value)
    (allowedBuckets : FinSet BucketId) : RoomView Value where
  roomCounter := room.roomCounter
  buckets := room.viewBuckets fun bucketId fragments =>
    if visible allowedBuckets bucketId then some (liveValues fragments)
    else none

/-- The updates of the room since a version for allowed buckets. -/
def delta (room : RoomState Value) (since : UInt64)
    (allowedBuckets : FinSet BucketId) : RoomView Value :=
  if since ≥ room.roomCounter then ⟨room.roomCounter, ∅⟩
  else
    { roomCounter := room.roomCounter
      buckets := room.viewBuckets fun bucketId fragments =>
        if visible allowedBuckets bucketId then
          let values := newerValues since fragments
          if values.isEmpty then none else some values
        else none }

end RoomState

/-! ## Operations on the application state -/

namespace AppState

/-- A new empty app state. -/
def new : AppState Value where
  rooms := ∅
  labels := ∅
  nextRoomId := 1
  jwtKey := none
  jwtTtlSeconds := 3600
  jwtIssuer := none
  jwtAudience := none
  lastJwtIssueSeconds := none

/-- Run a mutation of a room under its write lock. -/
def withRoom (app : AppState Value) (roomId : RoomId)
    (mutate : RoomState Value → Except StateError (RoomState Value)) :
    Except StateError (AppState Value) :=
  match app.rooms[roomId]? with
  | none => .error .roomNotFound
  | some room =>
      (mutate room).map
        fun changed => { app with rooms := app.rooms.insert roomId changed }

/-- Read from a room under its read lock. -/
def readRoom {Result : Type} (app : AppState Value) (roomId : RoomId)
    (read : RoomState Value → Except StateError Result) :
    Except StateError Result :=
  match app.rooms[roomId]? with
  | none => .error .roomNotFound
  | some room => read room

/-- Create and return a new room id; new rooms start as loaded. -/
def createRoom (app : AppState Value) : AppState Value × RoomId :=
  ({ app with
      nextRoomId := app.nextRoomId + 1
      rooms := app.rooms.insert app.nextRoomId (.fresh true) },
    app.nextRoomId)

/-- Whether a room is currently loaded. -/
def isRoomLoaded (app : AppState Value) (roomId : RoomId) : Bool :=
  match app.rooms[roomId]? with
  | some room => room.loaded
  | none => false

/-- Install what the database holds of a room. -/
def loadRoomData (app : AppState Value) (roomId : RoomId)
    (bucketDefs : List (BucketId × Option String × UInt32))
    (members : FinSet String)
    (fragments : Map BucketId (Map String Value)) :
    Except StateError (AppState Value) :=
  app.withRoom roomId fun room =>
    .ok (room.loadData bucketDefs members fragments)

/-- Drop what is in memory of a room. -/
def unloadRoom (app : AppState Value) (roomId : RoomId) :
    Except StateError (AppState Value) :=
  app.withRoom roomId fun room => .ok room.unload

/-- Delete a room and the labels that point to it. -/
def deleteRoom (app : AppState Value) (roomId : RoomId) :
    Except StateError (AppState Value) :=
  if app.rooms.contains roomId then
    .ok { app with
      rooms := app.rooms.erase roomId
      labels := app.labels.filter fun _ labelled => labelled ≠ roomId }
  else .error .roomNotFound

/-- Associate a human-friendly label with a room id. -/
def setRoomLabel (app : AppState Value) (roomId : RoomId)
    (label : String) : Except StateError (AppState Value) :=
  let labelTrimmed := trim label
  if labelTrimmed.isEmpty || labelTrimmed.utf8ByteSize > 256 then
    .error .labelInvalid
  else if !app.rooms.contains roomId then .error .roomNotFound
  else
    match app.labels[labelTrimmed]? with
    | some existing => if existing ≠ roomId then .error .labelInUse else .ok app
    | none =>
        .ok { app with labels := app.labels.insert labelTrimmed roomId }

/-- Look up a room id by its label. -/
def getRoomIdByLabel (app : AppState Value) (label : String) :
    Except StateError RoomId :=
  match app.labels[trim label]? with
  | some roomId => .ok roomId
  | none => .error .labelNotFound

/-- A label or a member is trimmed, and neither blank nor too long. -/
def validText (text : String) : Bool :=
  !((trim text).isEmpty || (trim text).utf8ByteSize > 256)

/-- Label a bucket of a room. -/
def setBucketLabel (app : AppState Value) (roomId : RoomId)
    (bucketId : BucketId) (label : String) :
    Except StateError (AppState Value) :=
  if validText label then
    app.withRoom roomId fun room => room.setBucketLabel bucketId (trim label)
  else .error .labelInvalid

/-- Set the flags of a bucket of a room. -/
def setBucketFlags (app : AppState Value) (roomId : RoomId)
    (bucketId : BucketId) (flags : UInt32) :
    Except StateError (AppState Value) :=
  app.withRoom roomId fun room => room.setBucketFlags bucketId flags

/-- Set or clear flags of a bucket of a room. -/
def setBucketFlagBit (app : AppState Value) (roomId : RoomId)
    (bucketId : BucketId) (flagMask : UInt32) (enabled : Bool) :
    Except StateError (AppState Value) :=
  app.withRoom roomId fun room =>
    room.setBucketFlagBit bucketId flagMask enabled

/-- Add a member to a room. -/
def addMember (app : AppState Value) (roomId : RoomId) (member : String) :
    Except StateError (AppState Value) :=
  if validText member then
    app.withRoom roomId fun room => room.addMember (trim member)
  else .error .labelInvalid

/-- Remove a member from a room. -/
def removeMember (app : AppState Value) (roomId : RoomId)
    (member : String) : Except StateError (AppState Value) :=
  app.withRoom roomId fun room => room.removeMember member

/-- Write a fragment of a room, or buffer the write. -/
def setFragment (app : AppState Value) (roomId : RoomId)
    (bucketId : BucketId) (key : String) (value : Value) :
    Except StateError (AppState Value) :=
  app.withRoom roomId fun room => room.setFragment bucketId key value

/-- Make a fragment of a room null, or buffer this. -/
def delFragment [SerdeJson Value] (app : AppState Value) (roomId : RoomId)
    (bucketId : BucketId) (key : String) :
    Except StateError (AppState Value) :=
  app.withRoom roomId fun room => room.delFragment bucketId key

/-- Read a fragment of a room, with its version. -/
def getFragment [SerdeJson Value] (app : AppState Value) (roomId : RoomId)
    (bucketId : BucketId) (key : String) :
    Except StateError (Value × UInt64) :=
  app.readRoom roomId fun room => room.getFragment bucketId key

/-- The version of a room. -/
def roomVersion (app : AppState Value) (roomId : RoomId) :
    Except StateError UInt64 :=
  app.readRoom roomId RoomState.version

/-- List existing room ids in ascending order. -/
def listRooms (app : AppState Value) : List RoomId :=
  app.rooms.keys

/-- Begin a transaction on a room. -/
def txBegin (app : AppState Value) (roomId : RoomId) :
    Except StateError (AppState Value) :=
  app.withRoom roomId RoomState.txBegin

/-- Commit the transaction of a room. -/
def txEnd [SerdeJson Value] (app : AppState Value) (roomId : RoomId) :
    Except StateError (AppState Value) :=
  app.withRoom roomId RoomState.txEnd

/-- Drop the transaction of a room. -/
def txAbort (app : AppState Value) (roomId : RoomId) :
    Except StateError (AppState Value) :=
  app.withRoom roomId RoomState.txAbort

/-- The fragments of a room in the allowed buckets. -/
def roomSnapshot [SerdeJson Value] (app : AppState Value)
    (roomId : RoomId) (allowedBuckets : FinSet BucketId) :
    Option (RoomView Value) :=
  app.rooms[roomId]?.map fun room => room.snapshot allowedBuckets

/-- The fragments of a room that are newer than a version. -/
def roomDelta (app : AppState Value) (roomId : RoomId)
    (since : UInt64) (allowedBuckets : FinSet BucketId) :
    Option (RoomView Value) :=
  app.rooms[roomId]?.map fun room => room.delta since allowedBuckets

end AppState

/-- A label that is accepted is valid, for a room, and free or its own. -/
theorem setRoomLabel_eq_ok {app after : AppState Value} {roomId : RoomId}
    {label : String} (labelled : app.setRoomLabel roomId label = .ok after) :
    AppState.validText label = true ∧ roomId ∈ app.rooms ∧
      ((app.labels[trim label]? = some roomId ∧ after = app) ∨
        (app.labels[trim label]? = none ∧
          after =
            { app with labels := app.labels.insert (trim label) roomId })) := by
  simp only [AppState.setRoomLabel] at labelled
  split at labelled
  · cases labelled
  · next valid =>
    split at labelled
    · cases labelled
    · next present =>
      have registered : roomId ∈ app.rooms := by
        simpa using present
      refine ⟨by simpa [AppState.validText] using valid, registered, ?_⟩
      split at labelled
      · next existing found =>
        split at labelled
        · cases labelled
        · next own =>
          cases labelled
          rw [not_not] at own
          exact Or.inl ⟨own ▸ found, rfl⟩
      · next free =>
        cases labelled
        exact Or.inr ⟨free, rfl⟩

/-- A label changes the labels alone. -/
theorem exists_setRoomLabel_eq {app after : AppState Value} {roomId : RoomId}
    {label : String} (labelled : app.setRoomLabel roomId label = .ok after) :
    ∃ labels, after = { app with labels := labels } := by
  obtain ⟨_, _, ⟨_, rfl⟩ | ⟨_, rfl⟩⟩ := setRoomLabel_eq_ok labelled
  · exact ⟨_, rfl⟩
  · exact ⟨_, rfl⟩

theorem isRoomLoaded_iff {app : AppState Value} {roomId : RoomId} :
    app.isRoomLoaded roomId = true ↔
      ∃ room, app.rooms[roomId]? = some room ∧ room.loaded = true := by
  unfold AppState.isRoomLoaded
  cases app.rooms[roomId]? <;> simp

end Syncpond.State
