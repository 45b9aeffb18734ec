import Syncpond.KernelStore

/-!
# What can be read

A client sees the content of a room through `ReadFragment` and through the
initial sync.  Both show live fragments only, and `ReadFragment` those of
loaded rooms only.  What a room would show after loading is a matter of the
keys in its database.
-/

namespace Syncpond.Reads

open Syncpond.Protocol
open Syncpond.Serde
open Syncpond.State
open Syncpond.Persistence
open Syncpond.Kernel
open Syncpond.Disks
open Syncpond.DiskOperations
open Syncpond.KernelStore
open Syncpond.Library.Maps
open Syncpond.Library.Text

variable {Value : Type} [SerdeJson Value]

/-! ## Reads from memory -/

/-- A fragment that a client can read: a live one of a loaded room. -/
def Readable (app : AppState Value) (roomId : RoomId)
    (bucketId : BucketId) (key : String) (value : Value) : Prop :=
  ∃ room entry, app.rooms[roomId]? = some room ∧
    room.ioLocked = false ∧ room.loaded = true ∧
    getNested room.buckets bucketId key = some entry ∧
    entry.value = value ∧ SerdeJson.isNull value = false

theorem getFragment_eq_ok_iff {room : RoomState Value}
    {bucketId : BucketId} {key : String} {value : Value}
    {version : UInt64} :
    room.getFragment bucketId key = .ok (value, version) ↔
      room.ioLocked = false ∧ room.loaded = true ∧
      getNested room.buckets bucketId key = some ⟨value, version⟩ ∧
      SerdeJson.isNull value = false := by
  unfold RoomState.getFragment getNested
  cases room.ioLocked with
  | true => simp
  | false =>
      cases room.loaded with
      | false => simp
      | true =>
          cases room.buckets[bucketId]? with
          | none => simp
          | some bucket =>
              cases found : bucket[key]? with
              | none => simp [found]
              | some entry =>
                  cases entry
                  simp only [found]
                  grind

/-- A read returns bytes exactly when it finds a readable fragment. -/
theorem readFragment_eq_some_iff {app : AppState Value} {roomId : RoomId}
    {bucketId : BucketId} {key : String} {bytes : FragmentData} :
    readFragment app roomId bucketId key =
        .fragmentReadResponse (some bytes) ↔
      ∃ value, Readable app roomId bucketId key value ∧
        SerdeJson.value.toVec value = .ok bytes := by
  unfold readFragment AppState.getFragment AppState.readRoom
  cases present : app.rooms[roomId]? with
  | none => simp [Readable, present, StateError.toString]
  | some room =>
      cases result : room.getFragment bucketId key with
      | ok pair =>
          obtain ⟨value, version⟩ := pair
          obtain ⟨unlocked, loaded, found, live⟩ :=
            getFragment_eq_ok_iff.mp result
          have only {other : Value}
              (readable : Readable app roomId bucketId key other) :
              other = value := by
            obtain ⟨_, _, same, _, _, nested, rfl, _⟩ := readable
            rw [present] at same
            cases same
            rw [found] at nested
            cases nested
            rfl
          constructor
          · intro read
            refine ⟨value,
              ⟨room, _, present, unlocked, loaded, found, rfl, live⟩, ?_⟩
            cases written : SerdeJson.value.toVec value <;> simp_all
          · rintro ⟨other, readable, written⟩
            rw [only readable] at written
            simp [result, written]
      | error error =>
          constructor
          · intro read
            simp only [result] at read
            split at read
            · cases read
            · cases read
          · rintro ⟨value, ⟨_, entry, same, unlocked, loaded, nested, rfl,
              live⟩, _⟩
            rw [present] at same
            cases same
            have succeeded :=
              getFragment_eq_ok_iff.mpr ⟨unlocked, loaded, nested, live⟩
            rw [result] at succeeded
            cases succeeded

/-- The updates that the initial sync makes of one bucket. -/
theorem mem_filterMap_syncEntry {iteration : Iteration Value}
    {bucketId : BucketId} {bucket : Map String (FragmentEntry Value)}
    {update : SyncUpdate Value} :
    update ∈ (iteration.entries bucket).filterMap (syncEntry bucketId) ↔
      update.bucketId = bucketId ∧
      bucket[update.key]? = some ⟨update.value, update.keyVersion⟩ ∧
      SerdeJson.isNull update.value = false := by
  rw [List.mem_filterMap]
  constructor
  · rintro ⟨⟨key, entry⟩, member, selected⟩
    have found : bucket[key]? = some entry := by
      simpa using (iteration.complete bucket).mem_iff.mp member
    unfold syncEntry at selected
    split at selected
    · cases selected
    · next live =>
      cases selected
      exact ⟨rfl, found, by simpa using live⟩
  · rintro ⟨rfl, found, live⟩
    refine ⟨(update.key, ⟨update.value, update.keyVersion⟩), ?_, ?_⟩
    · exact (iteration.complete bucket).mem_iff.mpr (by simpa using found)
    · simp [syncEntry, live]

/-- The initial sync sends exactly the live fragments of the requested buckets. -/
theorem mem_collectUpdates_iff {iteration : Iteration Value}
    {app : AppState Value} {roomId : RoomId}
    {requestedBuckets : List BucketId} {update : SyncUpdate Value} :
    update ∈ collectUpdates iteration app roomId requestedBuckets ↔
      update.bucketId ∈ requestedBuckets ∧
      ∃ room, app.rooms[roomId]? = some room ∧
        getNested room.buckets update.bucketId update.key =
          some ⟨update.value, update.keyVersion⟩ ∧
        SerdeJson.isNull update.value = false := by
  unfold collectUpdates getNested
  cases present : app.rooms[roomId]? with
  | none => simp
  | some room =>
      simp only [List.mem_flatMap]
      constructor
      · rintro ⟨bucketId, requested, member⟩
        cases found : room.buckets[bucketId]? with
        | none => simp [found] at member
        | some bucket =>
            simp only [found] at member
            obtain ⟨rfl, stored, live⟩ := mem_filterMap_syncEntry.mp member
            exact ⟨requested, room, rfl, by simpa [found] using stored, live⟩
      · rintro ⟨requested, other, same, stored, live⟩
        cases same
        obtain ⟨bucket, found, entry⟩ := Option.bind_eq_some_iff.mp stored
        refine ⟨update.bucketId, requested, ?_⟩
        simp only [found]
        exact mem_filterMap_syncEntry.mpr ⟨rfl, entry, live⟩

/-! ## Fragments in memory -/

/-- The room has a live fragment under the key in memory. -/
def Shown (app : AppState Value) (roomId : RoomId)
    (bucketId : BucketId) (key : String) : Prop :=
  ∃ room entry, app.rooms[roomId]? = some room ∧
    getNested room.buckets bucketId key = some entry ∧
    SerdeJson.isNull entry.value = false

/-- No read and no initial sync returns a value for the key. -/
def Hidden (app : AppState Value) (roomId : RoomId)
    (bucketId : BucketId) (key : String) : Prop :=
  (∀ bytes, readFragment app roomId bucketId key ≠
      .fragmentReadResponse (some bytes)) ∧
    ∀ (iteration : Iteration Value) (requestedBuckets : List BucketId),
      ∀ update ∈ collectUpdates iteration app roomId requestedBuckets,
        ¬(update.bucketId = bucketId ∧ update.key = key)

theorem hidden_iff_not_shown {app : AppState Value} {roomId : RoomId}
    {bucketId : BucketId} {key : String} :
    Hidden app roomId bucketId key ↔ ¬Shown app roomId bucketId key := by
  constructor
  · rintro ⟨_, unsynced⟩ ⟨room, entry, present, found, live⟩
    let iteration : Iteration Value :=
      ⟨Std.ExtTreeMap.toList, fun _ => .refl _⟩
    have member :
        (⟨bucketId, key, entry.value, entry.keyVersion⟩ :
          SyncUpdate Value) ∈
          collectUpdates iteration app roomId [bucketId] :=
      mem_collectUpdates_iff.mpr
        ⟨List.mem_singleton.mpr rfl, room, present, found, live⟩
    exact unsynced iteration [bucketId] _ member ⟨rfl, rfl⟩
  · intro notShown
    constructor
    · intro bytes read
      obtain ⟨value, ⟨room, entry, present, _, _, found, rfl, live⟩, _⟩ :=
        readFragment_eq_some_iff.mp read
      exact notShown ⟨room, entry, present, found, live⟩
    · rintro iteration requestedBuckets update member ⟨rfl, rfl⟩
      obtain ⟨_, room, present, found, live⟩ :=
        mem_collectUpdates_iff.mp member
      exact notShown ⟨room, _, present, found, live⟩

/-! ## Keys on disk -/

/-- The database of the room has a record of the bucket. -/
def HasRecord (kernel : SyncpondKernel Value) (roomId : RoomId)
    (bucketId : BucketId) : Prop :=
  ∃ db, kernel.persistence.dirs[roomDir roomId]? = some db ∧
    bucketKey bucketId ∈ db

/-- The database of the room has a fragment under the key. -/
def HasFragment (kernel : SyncpondKernel Value) (roomId : RoomId)
    (bucketId : BucketId) (key : String) : Prop :=
  ∃ db, kernel.persistence.dirs[roomDir roomId]? = some db ∧
    fragmentKey (decimal bucketId) key ∈ db

section Keys

variable {kernel : SyncpondKernel Value} {roomId : RoomId}

omit [SerdeJson Value] in
/-- A key is in the database of the room, if there is one. -/
theorem exists_mem_db_iff {text : String} :
    (∃ db, kernel.persistence.dirs[roomDir roomId]? = some db ∧
      text ∈ db) ↔ text ∈ (kernel.persistence.view roomId).db := by
  unfold PersistenceManager.view
  cases kernel.persistence.dirs[roomDir roomId]? <;> simp

theorem hasRecord_iff {store : Store Value} (refines : Refines kernel store)
    {bucketId : BucketId} :
    HasRecord kernel roomId bucketId ↔
      bucketId ∈ (store.disks roomId).records :=
  exists_mem_db_iff.trans
    (mem_db_iff_mem_records roomId (refines.holds roomId).represents.records)

theorem hasFragment_iff {store : Store Value}
    (refines : Refines kernel store) {bucketId : BucketId} {key : String} :
    HasFragment kernel roomId bucketId key ↔
      key ∈ (store.disks roomId).fragments bucketId := by
  have stored := congrArg Option.isSome
    ((refines.holds roomId).represents.fragments bucketId key)
  rw [decoded, Option.isSome_map, Option.isSome_map] at stored
  refine exists_mem_db_iff.trans ?_
  rw [Std.ExtTreeMap.mem_iff_isSome_getElem?,
    Std.ExtTreeMap.mem_iff_isSome_getElem?, ← stored]
  rfl

/-- The value in the database under the key of a fragment. -/
def storedFragment (kernel : SyncpondKernel Value) (roomId : RoomId)
    (bucketId : BucketId) (key : String) : Option (Except String Value) :=
  kernel.persistence.dirs[roomDir roomId]?.bind fun db =>
    db[fragmentKey (decimal bucketId) key]?.map SerdeJson.value.fromSlice

/-- The live value of a fragment in memory. -/
def memoryFragment (app : AppState Value) (roomId : RoomId)
    (bucketId : BucketId) (key : String) : Option Value :=
  app.rooms[roomId]?.bind fun room =>
    (getNested room.buckets bucketId key).bind fun entry =>
      persistedValue entry.value

theorem storedFragment_eq {store : Store Value}
    (refines : Refines kernel store) (bucketId : BucketId) (key : String) :
    storedFragment kernel roomId bucketId key =
      ((store.disks roomId).fragments bucketId)[key]?.map .ok := by
  rw [← (refines.holds roomId).represents.fragments bucketId key]
  unfold storedFragment PersistenceManager.view
  cases kernel.persistence.dirs[roomDir roomId]? with
  | none => simp [decoded]
  | some db => rfl

/-- What `ReadFragment` makes of the live value of a loaded room. -/
def answer (value : Option Value) : CommandResponse :=
  match value.map SerdeJson.value.toVec with
  | some (.ok bytes) => .fragmentReadResponse (some bytes)
  | _ => .fragmentReadResponse none

theorem readFragment_eq_answer {app : AppState Value}
    {room : RoomState Value} (present : app.rooms[roomId]? = some room)
    (unlocked : room.ioLocked = false) (loaded : room.loaded = true)
    (bucketId : BucketId) (key : String) :
    readFragment app roomId bucketId key =
      answer (memoryFragment app roomId bucketId key) := by
  unfold readFragment AppState.getFragment AppState.readRoom memoryFragment
    RoomState.getFragment getNested answer
  simp only [present, unlocked, loaded, Bool.not_true, Bool.false_eq_true,
    if_false, Option.bind_some]
  cases room.buckets[bucketId]? with
  | none => simp [StateError.toString]
  | some bucket =>
      cases found : bucket[key]? with
      | none => simp [found, StateError.toString]
      | some entry =>
          cases live : SerdeJson.isNull entry.value with
          | true => simp [found, persistedValue, live, StateError.toString]
          | false =>
              simp only [found, persistedValue, live, Bool.false_eq_true,
                if_false, Option.bind_some, Option.map_some]
              cases SerdeJson.value.toVec entry.value <;> rfl

end Keys

end Syncpond.Reads
