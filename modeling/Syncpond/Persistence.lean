import Mathlib.Data.List.Sort
import Syncpond.Library.Lru
import Syncpond.Library.Maps
import Syncpond.Library.Programs
import Syncpond.Serde

/-!
# Persistence

Each room has a key-value database in its own directory.  A database maps
texts (the UTF-8 keys that the server writes) to bytes and is traversed in
key order; a cache shared by all rooms keeps the bucket records of recently
used rooms.

Every storage operation can fail: `Faults` says which ones do, with the text
of the underlying error, and `Faults.none` is a run of the storage without
failures.  A `Storage` operation is a program of atomic sections, one for each
call of the database or the cache, so that it keeps the writes it made before
it failed, and so that other operations can come between its sections.
-/

namespace Syncpond.Persistence

open Syncpond.Protocol
open Syncpond.Serde
open Syncpond.Library.Maps
open Syncpond.Library.Lru
open Syncpond.Library.Programs
open Syncpond.Library.Text
open Syncpond.Library.JsonText (Codec)

/-- The content of a database. -/
abbrev Db := Map String ByteArray

/-- The bucket records of recently used rooms. -/
abbrev BucketCache := Cache RoomId (Map BucketId BucketRecord)

/-- The most rooms whose records are cached. -/
def bucketCacheCapacity : Nat := 128

/-- The storage operations that fail, with the text of the error. -/
structure Faults where
  createDir : RoomId → Option String
  openDb : RoomId → Option String
  readDir : Option String
  get : String → Option String
  put : String → Option String
  delete : String → Option String
  /-- The iterator yields an error in place of this key. -/
  item : String → Option String

/-- No storage operation fails. -/
def Faults.none : Faults where
  createDir _ := .none
  openDb _ := .none
  readDir := .none
  get _ := .none
  put _ := .none
  delete _ := .none
  item _ := .none

/-- Manages per-room databases and the shared cache of bucket records. -/
structure PersistenceManager where
  /-- The data directory: the content of each room's folder. -/
  dirs : Map String Db
  /-- The rooms whose database is open. -/
  dbs : FinSet RoomId
  bucketCache : BucketCache

/--
What the per-room persistence helper shares with others: the opened database
and the cache.  The helper's room id is a parameter of its operations.
-/
structure RoomPersistence where
  db : Db
  bucketCache : BucketCache

/-- Fallible operations of a `RoomPersistence`. -/
abbrev Storage (α : Type) := ExceptT String (Program RoomPersistence) α

/-! ## Keys -/

/-- The prefix of the keys of bucket records. -/
def bucketPrefix : String := "bucket:"

/-- `format!("{}:{}", container, key)`. -/
def fragmentKey (container key : String) : String :=
  container ++ ":" ++ key

/-- `format!("{}{}", BUCKET_PREFIX, bucket_id)`. -/
def bucketKey (bucketId : BucketId) : String :=
  bucketPrefix ++ decimal bucketId

/-- The key of the list of buckets. -/
def bucketListKey (roomId : RoomId) : String :=
  "/room/" ++ decimal roomId ++ "/buckets"

/-- The key of the list of members. -/
def memberListKey (roomId : RoomId) : String :=
  "/room/" ++ decimal roomId ++ "/members"

/-- The bucket id of the key of a bucket record. -/
def parseBucketKey (key : String) : Option BucketId :=
  (stripPrefix bucketPrefix key.toList).bind parseU64

/-- The bucket id and the key of a fragment, from the key of the database. -/
def parseFragmentKey (key : String) : Option (BucketId × String) := do
  let (container, rest) ← splitColon key.toList
  let bucketId ← parseU64 container
  return (bucketId, String.ofList rest)

/-! ### The four shapes of keys are disjoint -/

/-- The key of a fragment is read back. -/
@[simp]
theorem parseFragmentKey_fragmentKey (bucketId : BucketId) (key : String) :
    parseFragmentKey (fragmentKey (decimal bucketId) key) =
      some (bucketId, key) := by
  have chars :
      (fragmentKey (decimal bucketId) key).toList =
        decimalChars bucketId ++ ':' :: key.toList := by
    simp [fragmentKey, decimal]
  rw [parseFragmentKey, chars,
    splitColon_append _ (colon_not_mem_decimalChars bucketId)]
  simp

/-- The key of a bucket record is read back. -/
@[simp]
theorem parseBucketKey_bucketKey (bucketId : BucketId) :
    parseBucketKey (bucketKey bucketId) = some bucketId := by
  rw [parseBucketKey, bucketKey, String.toList_append, stripPrefix_append]
  simp [decimal]

/-- The key of a bucket record is not the one of a fragment. -/
@[simp]
theorem parseFragmentKey_bucketKey (bucketId : BucketId) :
    parseFragmentKey (bucketKey bucketId) = none := by
  have chars :
      (bucketKey bucketId).toList =
        "bucket".toList ++ ':' :: decimalChars bucketId := by
    simp [bucketKey, bucketPrefix, decimal]
  have split := splitColon_append (decimalChars bucketId)
    (show ':' ∉ "bucket".toList by decide)
  have notNumber : parseU64 "bucket".toList = none := by decide
  rw [parseFragmentKey, chars, split]
  simp only [Option.bind_eq_bind, Option.bind_some, notNumber,
    Option.bind_none]

/-- The key of a fragment is not the one of a bucket record. -/
@[simp]
theorem parseBucketKey_fragmentKey (bucketId : BucketId) (key : String) :
    parseBucketKey (fragmentKey (decimal bucketId) key) = none := by
  cases digits : decimalChars bucketId with
  | nil => exact absurd digits Nat.toDigits_ne_nil
  | cons head tail =>
      have digit : head.isDigit = true :=
        isDigit_of_mem_decimalChars (show head ∈ decimalChars bucketId by
          simp [digits])
      have different : 'b' ≠ head := by
        rintro rfl
        simp at digit
      have chars :
          (fragmentKey (decimal bucketId) key).toList =
            head :: (tail ++ ':' :: key.toList) := by
        simp [fragmentKey, decimal, digits]
      rw [parseBucketKey, chars,
        stripPrefix_eq_none_of_head (show bucketPrefix.toList = _ by rfl)
          different]
      rfl

/-- The key of a list is not the one of a bucket record. -/
theorem parseBucketKey_listKey (roomId : RoomId) (last : String) :
    parseBucketKey ("/room/" ++ decimal roomId ++ last) = none := by
  have chars :
      ("/room/" ++ decimal roomId ++ last).toList =
        '/' :: ("room/".toList ++ (decimalChars roomId ++ last.toList)) := by
    simp [decimal]
  rw [parseBucketKey, chars,
    stripPrefix_eq_none_of_head (show bucketPrefix.toList = _ by rfl)
      (by decide)]
  rfl

/-- The key of a list is not the one of a fragment. -/
theorem parseFragmentKey_listKey (roomId : RoomId) (last : String)
    (noColon : ':' ∉ last.toList) :
    parseFragmentKey ("/room/" ++ decimal roomId ++ last) = none := by
  have absent : ':' ∉ ("/room/" ++ decimal roomId ++ last).toList := by
    simp [decimal, colon_not_mem_decimalChars, noColon]
  rw [parseFragmentKey, splitColon_eq_none absent]
  rfl

@[simp]
theorem parseBucketKey_bucketListKey (roomId : RoomId) :
    parseBucketKey (bucketListKey roomId) = none :=
  parseBucketKey_listKey roomId "/buckets"

@[simp]
theorem parseBucketKey_memberListKey (roomId : RoomId) :
    parseBucketKey (memberListKey roomId) = none :=
  parseBucketKey_listKey roomId "/members"

@[simp]
theorem parseFragmentKey_bucketListKey (roomId : RoomId) :
    parseFragmentKey (bucketListKey roomId) = none :=
  parseFragmentKey_listKey roomId "/buckets" (by decide)

@[simp]
theorem parseFragmentKey_memberListKey (roomId : RoomId) :
    parseFragmentKey (memberListKey roomId) = none :=
  parseFragmentKey_listKey roomId "/members" (by decide)

@[simp]
theorem bucketListKey_ne_memberListKey (roomId : RoomId) :
    bucketListKey roomId ≠ memberListKey roomId := by
  intro equal
  have chars := congrArg String.toList equal
  simp [bucketListKey, memberListKey] at chars

@[simp]
theorem fragmentKey_ne_bucketKey (bucketId other : BucketId) (key : String) :
    fragmentKey (decimal bucketId) key ≠ bucketKey other := by
  intro equal
  have parsed := congrArg parseFragmentKey equal
  simp at parsed

@[simp]
theorem fragmentKey_ne_bucketListKey (bucketId : BucketId) (key : String)
    (roomId : RoomId) :
    fragmentKey (decimal bucketId) key ≠ bucketListKey roomId := by
  intro equal
  have parsed := congrArg parseFragmentKey equal
  simp at parsed

@[simp]
theorem fragmentKey_ne_memberListKey (bucketId : BucketId) (key : String)
    (roomId : RoomId) :
    fragmentKey (decimal bucketId) key ≠ memberListKey roomId := by
  intro equal
  have parsed := congrArg parseFragmentKey equal
  simp at parsed

@[simp]
theorem bucketKey_ne_bucketListKey (bucketId : BucketId) (roomId : RoomId) :
    bucketKey bucketId ≠ bucketListKey roomId := by
  intro equal
  have parsed := congrArg parseBucketKey equal
  simp at parsed

@[simp]
theorem bucketKey_ne_memberListKey (bucketId : BucketId) (roomId : RoomId) :
    bucketKey bucketId ≠ memberListKey roomId := by
  intro equal
  have parsed := congrArg parseBucketKey equal
  simp at parsed

/-! ## Database operations -/

variable (faults : Faults)

namespace Storage

variable {α β : Type}

/-- One call of the database or the cache. -/
def primitive (action : RoomPersistence → Except String α × RoomPersistence) :
    Storage α :=
  ExceptT.mk (Program.atomic .free action)

/-- Read an entry. -/
def get (key : String) : Storage (Option ByteArray) :=
  primitive fun room =>
    match faults.get key with
    | some text => (.error ("rocksdb get failed: " ++ text), room)
    | none => (.ok room.db[key]?, room)

/-- Write an entry. -/
def put (key : String) (bytes : ByteArray) : Storage Unit :=
  primitive fun room =>
    match faults.put key with
    | some text => (.error ("rocksdb put failed: " ++ text), room)
    | none => (.ok (), { room with db := room.db.insert key bytes })

/-- Delete an entry. -/
def delete (key : String) : Storage Unit :=
  primitive fun room =>
    match faults.delete key with
    | some text => (.error ("rocksdb delete failed: " ++ text), room)
    | none => (.ok (), { room with db := room.db.erase key })

/-- The items of an iterator over the database, from its start. -/
def iterator : Storage (List (Except String (String × ByteArray))) :=
  primitive fun room =>
    (.ok (room.db.toList.map fun entry =>
      match faults.item entry.1 with
      | some text => .error text
      | none => .ok entry), room)

/-- `serde_json::to_vec(..).map_err(..)`. -/
def serialize (codec : Codec α) (value : α) : Storage ByteArray :=
  match codec.toVec value with
  | .ok bytes => pure bytes
  | .error text => throw ("serialize error: " ++ text)

/-- Ask the cache for the records of a room. -/
def cacheGetBuckets (roomId : RoomId) :
    Storage (Option (Map BucketId BucketRecord)) :=
  primitive fun room =>
    let (cache, found) := room.bucketCache.get roomId
    (.ok found, { room with bucketCache := cache })

/-- Put the records of a room into the cache. -/
def cachePutBuckets (roomId : RoomId)
    (buckets : Map BucketId BucketRecord) : Storage Unit :=
  primitive fun room =>
    (.ok (), { room with bucketCache := room.bucketCache.put roomId buckets })

/-- Run an operation whose error the caller inspects. -/
def attempt (operation : Storage α) : Storage (Except String α) :=
  ExceptT.lift operation.run

/-- Execute an operation alone. -/
def exec (operation : Storage α) (room : RoomPersistence) :
    Except String α × RoomPersistence :=
  Program.run operation.run room

@[simp]
theorem exec_primitive
    (action : RoomPersistence → Except String α × RoomPersistence)
    (room : RoomPersistence) :
    (primitive action).exec room = action room :=
  rfl

@[simp]
theorem exec_pure (value : α) (room : RoomPersistence) :
    (pure value : Storage α).exec room = (.ok value, room) :=
  rfl

@[simp]
theorem exec_throw (text : String) (room : RoomPersistence) :
    (throw text : Storage α).exec room = (.error text, room) :=
  rfl

/-- An operation ends at its first error. -/
@[simp]
theorem exec_bind (operation : Storage α) (rest : α → Storage β)
    (room : RoomPersistence) :
    (operation >>= rest).exec room =
      match operation.exec room with
      | (.ok value, after) => (rest value).exec after
      | (.error text, after) => (.error text, after) := by
  unfold exec
  rw [ExceptT.run_bind, Program.run_bind]
  cases result : Program.run operation.run room with
  | mk outcome after => cases outcome <;> simp

/-- An operation whose error is looked at does not fail. -/
@[simp]
theorem exec_attempt (operation : Storage α) (room : RoomPersistence) :
    (attempt operation).exec room =
      (.ok (operation.exec room).1, (operation.exec room).2) := by
  unfold exec attempt
  rw [ExceptT.run_lift, Program.run_map]

end Storage

open Storage

variable {Value : Type} [SerdeJson Value]

/-! ## Fragments -/

/-- Persist a fragment, or delete it on a tombstone (`none`). -/
def persistFragment (container key : String) (value : Option Value) :
    Storage Unit := do
  let keyStr := fragmentKey container key
  match value with
  | some value =>
      let bytes ← serialize SerdeJson.value value
      put faults keyStr bytes
  | none => delete faults keyStr

/-- Record one item of the scan for fragments. -/
def collectFragment (entry : String × ByteArray) :
    Option ((BucketId × String) × Value) := do
  let target ← parseFragmentKey entry.1
  match (SerdeJson.value : Codec Value).fromSlice entry.2 with
  | .ok value => some (target, value)
  | .error _ => none

/-- Insert a fragment into the map by bucket and key. -/
def putFragment (fragments : Map BucketId (Map String Value))
    (target : BucketId × String) (value : Value) :
    Map BucketId (Map String Value) :=
  insertNested fragments target.1 target.2 value

/-- The items of a scan up to the first error. -/
def allItems : List (Except String (String × ByteArray)) →
    Except String (List (String × ByteArray))
  | [] => .ok []
  | .ok entry :: rest => (allItems rest).map (entry :: ·)
  | .error text :: _ => .error ("rocksdb iterator error: " ++ text)

/-- Scan the database and return all fragment entries grouped by bucket id. -/
def loadAllFragments : Storage (Map BucketId (Map String Value)) := do
  let items ← iterator faults
  match allItems items with
  | .ok entries =>
      return entries.foldl (gatherStep putFragment collectFragment) ∅
  | .error text => throw text

/-! ## Members -/

section Records

variable (Value)

/-- Load all persisted members for this room. -/
def loadMembers (roomId : RoomId) : Storage (FinSet String) := do
  match ← get faults (memberListKey roomId) with
  | some bytes =>
      match (SerdeJson.memberList Value).fromSlice bytes with
      | .ok list => return Std.ExtTreeSet.ofList list compare
      | .error text => throw ("deserialize error: " ++ text)
  | none => return ∅

/-- Write the list of members. -/
def updateMemberList (roomId : RoomId) (members : FinSet String) :
    Storage Unit := do
  let bytes ← serialize (SerdeJson.memberList Value) members.toList
  put faults (memberListKey roomId) bytes

/-- Persist a member string into the room database. -/
def persistMember (roomId : RoomId) (member : String) : Storage Unit := do
  let member := trim member
  if member.isEmpty then return
  let members ← loadMembers faults Value roomId
  updateMemberList faults Value roomId (members.insert member)

/-- Remove a persisted member from the room database. -/
def removeMember (roomId : RoomId) (member : String) : Storage Unit := do
  let members ← loadMembers faults Value roomId
  updateMemberList faults Value roomId (members.erase member)

/-! ## Bucket records -/

/-- The ids of the bucket records, in ascending order. -/
def collectBucketIds : Storage (List BucketId) := do
  let items ← iterator faults
  let ids := items.filterMap fun item =>
    match item with
    | .ok entry => parseBucketKey entry.1
    | .error _ => none
  return ids.insertionSort (· ≤ ·)

/-- Write the list of the buckets that have a record. -/
def updateBucketList (roomId : RoomId) : Storage Unit := do
  let ids ← collectBucketIds faults
  let bytes ← serialize (SerdeJson.bucketIds Value) ids
  put faults (bucketListKey roomId) bytes

/-- Change the cached records of the room, if there are any. -/
def updateCache (roomId : RoomId)
    (change : Map BucketId BucketRecord → Map BucketId BucketRecord) :
    Storage Unit := do
  match ← cacheGetBuckets roomId with
  | some buckets => cachePutBuckets roomId (change buckets)
  | none => return

/-- Persist a full bucket record (id, optional label, flags). -/
def persistBucket (roomId : RoomId) (bucketId : BucketId)
    (label : Option String) (flags : UInt32) : Storage Unit := do
  let record : BucketRecord := ⟨bucketId, label, flags⟩
  let bytes ← serialize (SerdeJson.bucketRecord Value) record
  put faults (bucketKey bucketId) bytes
  updateBucketList faults Value roomId
  updateCache roomId fun buckets => buckets.insert bucketId record

/-- Remove a persisted bucket record. -/
def removeBucket (roomId : RoomId) (bucketId : BucketId) :
    Storage Unit := do
  delete faults (bucketKey bucketId)
  updateBucketList faults Value roomId
  updateCache roomId fun buckets => buckets.erase bucketId

/-- The ids of the persisted bucket list, if it can be read. -/
def readBucketIds (list : Except String (Option ByteArray)) :
    Option (List BucketId) :=
  match list with
  | .ok (some bytes) =>
      match (SerdeJson.bucketIds Value).fromSlice bytes with
      | .ok ids => some ids
      | .error _ => none
  | _ => none

/-- Insert a record that was read. -/
def putRecord (out : Map BucketId BucketRecord) (bucketId : BucketId)
    (record : BucketRecord) : Map BucketId BucketRecord :=
  out.insert bucketId record

/-- Read the record of one listed bucket into the result. -/
def readListed (out : Map BucketId BucketRecord) (bucketId : BucketId) :
    Storage (Map BucketId BucketRecord) := do
  match ← attempt (get faults (bucketKey bucketId)) with
  | .ok (some bytes) =>
      match (SerdeJson.bucketRecord Value).fromSlice bytes with
      | .ok record => return putRecord out bucketId record
      | .error _ => return out
  | _ => return out

/-- Record one item of the scan for bucket records. -/
def collectRecord (item : Except String (String × ByteArray)) :
    Option (BucketId × BucketRecord) :=
  match item with
  | .ok entry => do
      let bucketId ← parseBucketKey entry.1
      match (SerdeJson.bucketRecord Value).fromSlice entry.2 with
      | .ok record => some (bucketId, record)
      | .error _ => none
  | .error _ => none

/-- Load all bucket records: from the cache, the id list, or a full scan. -/
def loadBuckets (roomId : RoomId) :
    Storage (Map BucketId BucketRecord) := do
  if let some entry ← cacheGetBuckets roomId then return entry
  let list ← attempt (get faults (bucketListKey roomId))
  match readBucketIds Value list with
  | some ids =>
      let out ← ids.foldlM (readListed faults Value) ∅
      cachePutBuckets roomId out
      return out
  | none =>
      let items ← iterator faults
      let out := items.foldl (gatherStep putRecord (collectRecord Value)) ∅
      cachePutBuckets roomId out
      cachePutBuckets roomId out
      return out

end Records

/-! ## The manager -/

/-- The folder of a room. -/
def roomDir (roomId : RoomId) : String := "room_" ++ decimal roomId

/-- The room id of a folder. -/
def parseRoomDir (name : String) : Option RoomId :=
  (stripPrefix "room_" name.toList).bind parseU64

/-- The folder of a room is read back. -/
@[simp]
theorem parseRoomDir_roomDir (roomId : RoomId) :
    parseRoomDir (roomDir roomId) = some roomId := by
  rw [parseRoomDir, roomDir, String.toList_append, stripPrefix_append]
  simp [decimal]

theorem roomDir_inj {roomId other : RoomId} :
    roomDir roomId = roomDir other ↔ roomId = other := by
  constructor
  · intro equal
    have parsed := congrArg parseRoomDir equal
    simpa using parsed
  · rintro rfl
    rfl

namespace PersistenceManager

/-- A new manager over a data directory. -/
def new (dirs : Map String Db) : PersistenceManager where
  dirs := dirs
  dbs := ∅
  bucketCache := .empty bucketCacheCapacity

/-- Open (or create) the database of a room and store it in the manager. -/
def openRoomDb (manager : PersistenceManager) (roomId : RoomId) :
    PersistenceManager × Except String Unit :=
  if manager.dbs.contains roomId then (manager, .ok ())
  else
    match faults.createDir roomId with
    | some text =>
        (manager, .error ("failed to create room db dir " ++
          roomDir roomId ++ ": " ++ text))
    | none =>
        let created :=
          { manager with dirs := manager.dirs.insertIfNew (roomDir roomId) ∅ }
        match faults.openDb roomId with
        | some text => (created, .error ("rocksdb open failed: " ++ text))
        | none => ({ created with dbs := created.dbs.insert roomId }, .ok ())

/-- What the persistence helper of a room works on. -/
def view (roomId : RoomId) (manager : PersistenceManager) :
    RoomPersistence :=
  ⟨manager.dirs[roomDir roomId]?.getD ∅, manager.bucketCache⟩

/-- The manager after an operation on a room: database and cache are shared. -/
def writeBack (roomId : RoomId) (manager : PersistenceManager)
    (room : RoomPersistence) : PersistenceManager :=
  { manager with
    dirs := manager.dirs.insert (roomDir roomId) room.db
    bucketCache := room.bucketCache }

/-- The currently opened room ids, in ascending order. -/
def listRoomIds (manager : PersistenceManager) : List RoomId :=
  manager.dbs.toList

/-- Open the database of one folder of the data directory. -/
def openExisting (manager : PersistenceManager) (name : String) :
    PersistenceManager :=
  match parseRoomDir name with
  | some roomId => (manager.openRoomDb faults roomId).1
  | none => manager

/-- Try to open any existing `room_*` folders of the data directory. -/
def openExistingRoomDbs (manager : PersistenceManager) :
    PersistenceManager × Except String Unit :=
  match faults.readDir with
  | some text => (manager, .error ("read_dir failed: " ++ text))
  | none => (manager.dirs.keys.foldl (openExisting faults) manager, .ok ())

/-- Opening a database changes no content. -/
theorem view_openRoomDb (manager : PersistenceManager)
    (roomId other : RoomId) :
    (manager.openRoomDb .none roomId).1.view other = manager.view other := by
  unfold openRoomDb
  split
  · rfl
  · simp only [Faults.none, view, lookup_insertIfNew,
      RoomPersistence.mk.injEq, and_true]
    split
    · next created =>
      have absent : manager.dirs[roomDir other]? = none := by
        rw [← created.1]
        exact Std.ExtTreeMap.getElem?_eq_none created.2
      rw [absent]
      rfl
    · rfl

/-- A room after an operation on another one, or on itself. -/
theorem view_writeBack (manager : PersistenceManager) (roomId other : RoomId)
    (room : RoomPersistence) :
    (manager.writeBack roomId room).view other =
      ⟨if roomId = other then room.db else (manager.view other).db,
        room.bucketCache⟩ := by
  simp only [writeBack, view, lookup_insert, roomDir_inj]
  split <;> rfl

@[simp]
theorem view_writeBack_self (manager : PersistenceManager) (roomId : RoomId)
    (room : RoomPersistence) :
    (manager.writeBack roomId room).view roomId = room := by
  rw [view_writeBack, if_pos rfl]

end PersistenceManager

end Syncpond.Persistence
