import Syncpond.Library.Runs
import Syncpond.StorageRuns

/-!
# Failed updates of bucket records

An update writes the record of the bucket, then the rebuilt id list, then the
cache, and returns the first error.  If the record cannot be written, nothing
has happened.  If the list cannot be written, the record is already new, while
the list and the cache still show the old one: the next successful update of
another bucket rebuilds the list, and once the cache entry is dropped the half
of the failed update comes to light.
-/

namespace Syncpond.FailedUpdates

open Syncpond.Protocol
open Syncpond.Serde
open Syncpond.Persistence
open Syncpond.Disks
open Syncpond.DiskOperations
open Syncpond.StorageRuns
open Syncpond.Library.Maps
open Syncpond.Library.Lru
open Syncpond.Library.Runs

/-! ## Updates -/

/-- An update of the record of a bucket. -/
inductive BucketUpdate where
  | persist (label : Option String) (flags : UInt32)
  | remove

namespace BucketUpdate

/-- The call of an update. -/
def call (Value : Type) (bucketId : BucketId) :
    BucketUpdate → StorageCall Value
  | .persist label flags => .persistBucket bucketId label flags
  | .remove => .removeBucket bucketId

/-- The record that an update leaves. -/
def record (bucketId : BucketId) : BucketUpdate → Option BucketRecord
  | .persist label flags => some ⟨bucketId, label, flags⟩
  | .remove => none

/-- The write of the record itself fails. -/
def recordFails (faults : Faults) (bucketId : BucketId) : BucketUpdate → Bool
  | .persist _ _ => (faults.put (bucketKey bucketId)).isSome
  | .remove => (faults.delete (bucketKey bucketId)).isSome

end BucketUpdate

/-- The record of a bucket that `load_buckets` returns. -/
def loadedRecord (Value : Type) [SerdeJson Value]
    (manager : PersistenceManager) (roomId : RoomId) (bucketId : BucketId) :
    Except String (Option BucketRecord) :=
  ((loadBuckets .none Value roomId).exec (manager.view roomId)).1.map
    fun buckets => buckets[bucketId]?

/-- The event updates no record of this bucket. -/
def Elsewhere {Value : Type} (roomId : RoomId) (bucketId : BucketId) :
    StorageEvent Value → Prop
  | .call other (.persistBucket id _ _) => ¬(other = roomId ∧ id = bucketId)
  | .call other (.removeBucket id) => ¬(other = roomId ∧ id = bucketId)
  | _ => True

/--
What was loaded before is loaded in this state, and after all later calls
without failures that update other buckets, in whatever order the cache drops
its entries.
-/
def StaysLoaded (Value : Type) [SerdeJson Value]
    (before after : PersistenceManager) (roomId : RoomId)
    (bucketId : BucketId) : Prop :=
  ∀ later : List (StorageEvent Value),
    (∀ event ∈ later, Elsewhere roomId bucketId event) →
    loadedRecord Value (later.foldl step after) roomId bucketId =
      loadedRecord Value before roomId bucketId

variable {Value : Type} [SerdeJson Value]

/-! ## What a failed update leaves -/

section Failed

variable {faults : Faults} {roomId : RoomId} {bucketId : BucketId}
variable {room after : RoomPersistence} {text : String}

omit [SerdeJson Value] in
/-- The first error of a sequence ends it. -/
theorem exec_bind_error {First Second : Type} {operation : Storage First}
    {rest : First → Storage Second}
    (ran : (operation >>= rest).exec room = (.error text, after)) :
    operation.exec room = (.error text, after) ∨
      ∃ value middle, operation.exec room = (.ok value, middle) ∧
        (rest value).exec middle = (.error text, after) := by
  rw [Storage.exec_bind] at ran
  split at ran
  · next value middle first => exact Or.inr ⟨value, middle, first, ran⟩
  · next first => cases ran; exact Or.inl first

omit [SerdeJson Value] in
/-- A write that fails changes nothing. -/
theorem exec_put_error {key : String} {bytes : ByteArray}
    (ran : (Storage.put faults key bytes).exec room = (.error text, after)) :
    after = room := by
  rw [Storage.put, Storage.exec_primitive] at ran
  split at ran
  · exact (congrArg Prod.snd ran).symm
  · cases ran

/-- The list is rebuilt in one write, which may fail. -/
theorem exec_updateBucketList_error
    (ran : (updateBucketList faults Value roomId).exec room =
      (.error text, after)) :
    after = room := by
  rcases exec_bind_error ran with failed | ⟨ids, scanned, collected, ran⟩
  · cases failed
  have kept : room = scanned := congrArg Prod.snd collected
  subst kept
  obtain ⟨bytes, written, _⟩ := (SerdeJson.bucketIds Value).roundTrip ids
  rcases exec_bind_error ran with failed | ⟨_, _, serialized, ran⟩
  · rw [exec_serialize _ written] at failed
    cases failed
  · rw [exec_serialize _ written] at serialized
    cases serialized
    exact exec_put_error ran

/-- The cache cannot fail. -/
theorem exec_updateCache_ok (roomId : RoomId)
    (change : Map BucketId BucketRecord → Map BucketId BucketRecord)
    (room : RoomPersistence) :
    ∃ cache, (updateCache roomId change).exec room =
      (.ok (), ⟨room.db, cache⟩) := by
  simp only [updateCache, Storage.exec_bind, exec_cacheGetBuckets]
  cases room.bucketCache.peek roomId with
  | none => exact ⟨_, rfl⟩
  | some buckets => exact ⟨_, rfl⟩

/-- What comes after the record fails at the list, before it is written. -/
theorem exec_publish_error
    {change : Map BucketId BucketRecord → Map BucketId BucketRecord}
    (ran : (do
      updateBucketList faults Value roomId
      updateCache roomId change : Storage Unit).exec room =
        (.error text, after)) :
    after = room := by
  rcases exec_bind_error ran with failed | ⟨_, listed, _, ran⟩
  · exact exec_updateBucketList_error failed
  · obtain ⟨cache, updated⟩ := exec_updateCache_ok roomId change listed
    rw [updated] at ran
    cases ran

/-- A database in which the record of a bucket was updated. -/
structure HasUpdated (Value : Type) [SerdeJson Value] (roomId : RoomId)
    (db after : Db) (records : Map BucketId BucketRecord) : Prop where
  onlyDbKeys : OnlyDbKeys roomId after
  records : HasRecords Value roomId after records
  others : ∀ family, family ≠ .records → SameFamily roomId family db after

section Updated

variable {db : Db} {records : Map BucketId BucketRecord}
variable (only : OnlyDbKeys roomId db)
variable (has : HasRecords Value roomId db records)

include only has

theorem HasUpdated.insert {record : BucketRecord} {bytes : ByteArray}
    (read : (SerdeJson.bucketRecord Value).fromSlice bytes = .ok record) :
    HasUpdated Value roomId db (db.insert (bucketKey record.id) bytes)
      (records.insert record.id record) where
  onlyDbKeys := only.insert (.bucket record.id) bytes
  records := has.insert read
  others family other := by
    show SameFamily roomId family db
      (db.insert ((DbKey.bucket record.id).text roomId) bytes)
    exact sameFamily_insert (fun equal => other equal.symm) bytes

theorem HasUpdated.erase (bucketId : BucketId) :
    HasUpdated Value roomId db (db.erase (bucketKey bucketId))
      (records.erase bucketId) where
  onlyDbKeys := only.erase (.bucket bucketId)
  records := has.erase bucketId
  others family other := by
    show SameFamily roomId family db
      (db.erase ((DbKey.bucket bucketId).text roomId))
    exact sameFamily_erase (fun equal => other equal.symm)

end Updated

/-- A failed update changed nothing, or the record alone. -/
theorem exec_failed (update : BucketUpdate)
    {records : Map BucketId BucketRecord}
    (only : OnlyDbKeys roomId room.db)
    (has : HasRecords Value roomId room.db records)
    (ran : ((update.call Value bucketId).operation faults roomId).exec room =
      (.error text, after)) :
    update.recordFails faults bucketId = true ∧ after = room ∨
      update.recordFails faults bucketId = false ∧
        after.bucketCache = room.bucketCache ∧
        HasUpdated Value roomId room.db after.db
          ((update.call Value bucketId).records records) := by
  cases update with
  | persist label flags =>
      obtain ⟨bytes, encoded, read⟩ :=
        (SerdeJson.bucketRecord Value).roundTrip ⟨bucketId, label, flags⟩
      simp only [BucketUpdate.call, StorageCall.operation, persistBucket] at ran
      rcases exec_bind_error ran with failed | ⟨_, _, serialized, ran⟩
      · rw [exec_serialize room encoded] at failed
        cases failed
      rw [exec_serialize room encoded] at serialized
      cases serialized
      cases fails : faults.put (bucketKey bucketId) with
      | some reason =>
          refine Or.inl ⟨by simp [BucketUpdate.recordFails, fails], ?_⟩
          rcases exec_bind_error ran with failed | ⟨_, _, put, _⟩
          · exact exec_put_error failed
          · simp [Storage.put, fails] at put
      | none =>
          rcases exec_bind_error ran with failed | ⟨_, written, put, ran⟩
          · simp [Storage.put, fails] at failed
          simp only [Storage.put, Storage.exec_primitive, fails,
            Prod.mk.injEq] at put
          obtain ⟨_, rfl⟩ := put
          cases exec_publish_error ran
          have updated := HasUpdated.insert only has read
          exact Or.inr ⟨by simp [BucketUpdate.recordFails, fails], rfl, updated⟩
  | remove =>
      simp only [BucketUpdate.call, StorageCall.operation, removeBucket] at ran
      cases fails : faults.delete (bucketKey bucketId) with
      | some reason =>
          refine Or.inl ⟨by simp [BucketUpdate.recordFails, fails], ?_⟩
          rcases exec_bind_error ran with failed | ⟨_, _, deleted, _⟩
          · simp only [Storage.delete, Storage.exec_primitive, fails] at failed
            exact (congrArg Prod.snd failed).symm
          · simp [Storage.delete, fails] at deleted
      | none =>
          rcases exec_bind_error ran with failed | ⟨_, erased, deleted, ran⟩
          · simp [Storage.delete, fails] at failed
          simp only [Storage.delete, Storage.exec_primitive, fails,
            Prod.mk.injEq] at deleted
          obtain ⟨_, rfl⟩ := deleted
          cases exec_publish_error ran
          exact Or.inr ⟨by simp [BucketUpdate.recordFails, fails], rfl,
            .erase only has bucketId⟩

end Failed

/-! ## When nothing is left -/

section Stands

variable {manager : PersistenceManager} {disks : Disks Value}
variable {roomId : RoomId} {bucketId : BucketId}

theorem loadedRecord_of_stands (stands : Stands manager disks)
    (roomId : RoomId) (bucketId : BucketId) :
    loadedRecord Value manager roomId bucketId =
      .ok (disks roomId).records[bucketId]? := by
  obtain ⟨_, _, loaded, rfl, _⟩ :=
    implements_loadBuckets roomId _ _ (stands roomId)
  rw [loadedRecord, loaded]
  rfl

omit [SerdeJson Value] in
/-- Updates of other buckets leave the record of a bucket on its disk. -/
theorem records_foldl_elsewhere {later : List (StorageEvent Value)}
    (elsewhere : ∀ event ∈ later, Elsewhere roomId bucketId event) :
    (later.foldl stepDisks disks roomId).records[bucketId]? =
      (disks roomId).records[bucketId]? := by
  induction later generalizing disks with
  | nil => rfl
  | cons event rest ih =>
      rw [List.foldl_cons, ih fun other member =>
        elsewhere other (List.mem_cons_of_mem _ member)]
      have away := elsewhere event List.mem_cons_self
      cases event with
      | evict => rfl
      | call other call =>
          by_cases same : other = roomId
          · subst same
            rw [stepDisks, changeDisk_self]
            cases call with
            | persistBucket id label flags =>
                have different : id ≠ bucketId := fun equal =>
                  away ⟨rfl, equal⟩
                simp [StorageCall.change, StorageCall.records, lookup_insert,
                  different]
            | removeBucket id =>
                have different : id ≠ bucketId := fun equal =>
                  away ⟨rfl, equal⟩
                simp [StorageCall.change, StorageCall.records, lookup_erase,
                  different]
            | _ => rfl
          · rw [stepDisks, changeDisk_of_ne disks (Ne.symm same)]

omit [SerdeJson Value] in
/-- An update that leaves the record that was there changes no records. -/
theorem records_call_of_same {update : BucketUpdate}
    {records : Map BucketId BucketRecord}
    (same : records[bucketId]? = update.record bucketId) :
    (update.call Value bucketId).records records = records := by
  apply Std.ExtTreeMap.ext_getElem?
  intro other
  cases update with
  | persist label flags =>
      simp only [BucketUpdate.call, StorageCall.records, lookup_insert]
      split
      · next equal => rw [← equal, same]; rfl
      · rfl
  | remove =>
      simp only [BucketUpdate.call, StorageCall.records, lookup_erase]
      split
      · next equal => rw [← equal, same]; rfl
      · rfl

/-- A call on a room changes its database and the cache. -/
theorem callRoom_eq {faults : Faults} {call : StorageCall Value}
    {result : Except String Unit} {after : PersistenceManager}
    (called : callRoom faults manager roomId call = (result, after)) :
    ∃ room, (call.operation faults roomId).exec (manager.view roomId) =
        (result, room) ∧
      ∀ other, after.view other =
        ⟨if roomId = other then room.db else (manager.view other).db,
          room.bucketCache⟩ := by
  rw [callRoom, PersistenceManager.view_openRoomDb] at called
  cases called
  refine ⟨_, rfl, fun other => ?_⟩
  rw [PersistenceManager.view_writeBack, PersistenceManager.view_openRoomDb]

/-- A failed update whose record is not new stands for the same disks. -/
theorem stands_failed (stands : Stands manager disks) {faults : Faults}
    {update : BucketUpdate} {text : String} {after : PersistenceManager}
    (failed : callRoom faults manager roomId (update.call Value bucketId) =
      (.error text, after))
    (harmless : update.recordFails faults bucketId = true ∨
      (disks roomId).records[bucketId]? = update.record bucketId) :
    Stands after disks := by
  obtain ⟨room, ran, views⟩ := callRoom_eq failed
  have represents := (stands roomId).represents
  intro other
  rw [views]
  rcases exec_failed update represents.onlyDbKeys represents.records ran with
    ⟨_, rfl⟩ | ⟨wrote, cache, updated⟩
  · refine ⟨?_, (stands roomId).cache⟩
    split
    · next equal => exact equal ▸ represents
    · exact (stands other).represents
  · have same := harmless.resolve_left (by simp [wrote])
    have records := updated.records
    rw [records_call_of_same same] at records
    refine ⟨?_, cache ▸ (stands roomId).cache⟩
    split
    · next equal =>
      subst equal
      exact {
        onlyDbKeys := updated.onlyDbKeys
        fragments := represents.fragments.congr
          (updated.others .fragments (by simp))
        records := records
        bucketList := represents.bucketList.congr
          (updated.others .bucketList (by simp))
        members := represents.members.congr
          (updated.others .members (by simp)) }
    · exact (stands other).represents

end Stands

/-! ## When the update comes to light -/

section Exposed

variable {roomId : RoomId}

/-- Without a cached map, the records are those of the database. -/
theorem loadBuckets_of_uncached (room : RoomPersistence) {disk : Disk Value}
    (represents : Represents roomId room.db disk)
    (uncached : room.bucketCache.peek roomId = none) :
    ((loadBuckets .none Value roomId).exec room).1 = .ok disk.records := by
  have holds : Holds roomId room
      (toldDisks roomId room.bucketCache disk) :=
    holds_toldDisks represents fun entry found => by
      rw [uncached] at found
      cases found
  obtain ⟨_, _, loaded, rfl, _⟩ :=
    implements_loadBuckets roomId room _ holds
  rw [loaded, toldDisks_self]

/-- Persisting a record lists all records that are there. -/
theorem exec_persistBucket_lists {room : RoomPersistence} (disk : Disk Value)
    (only : OnlyDbKeys roomId room.db)
    (fragments : HasFragments roomId room.db disk.fragments)
    (has : HasRecords Value roomId room.db disk.records)
    (members : HasMembers Value roomId room.db disk.members)
    (bucketId : BucketId) (label : Option String) (flags : UInt32) :
    ∃ after,
      (persistBucket .none Value roomId bucketId label flags).exec room =
        (.ok (), after) ∧
      Represents roomId after.db { disk with
        records := disk.records.insert bucketId ⟨bucketId, label, flags⟩ } := by
  obtain ⟨bytes, encoded, read⟩ :=
    (SerdeJson.bucketRecord Value).roundTrip ⟨bucketId, label, flags⟩
  have updated := HasUpdated.insert only has read
  let written := room.db.insert (bucketKey bucketId) bytes
  obtain ⟨list, listed, hasList⟩ := exec_updateBucketList roomId
    ⟨written, room.bucketCache⟩ updated.onlyDbKeys updated.records
  let published := written.insert (DbKey.bucketList.text roomId) list
  have kept (family : Family) (notList : family ≠ .bucketList) :
      SameFamily roomId family written published :=
    sameFamily_insert (fun equal => notList equal.symm) _
  obtain ⟨cache, cached⟩ := exec_updateCache_ok roomId
    (fun buckets => buckets.insert bucketId ⟨bucketId, label, flags⟩)
    ⟨published, room.bucketCache⟩
  refine ⟨⟨published, cache⟩, ?_, ?_⟩
  · simp only [persistBucket, Storage.exec_bind, exec_serialize room encoded,
      exec_put]
    rw [listed]
    exact cached
  · exact {
      onlyDbKeys := updated.onlyDbKeys.insert _ _
      fragments := (fragments.congr (updated.others _ (by simp))).congr
        (kept _ (by simp))
      records := updated.records.congr (kept _ (by simp))
      bucketList := hasList
      members := (members.congr (updated.others _ (by simp))).congr
        (kept _ (by simp)) }

variable {manager : PersistenceManager} {disks : Disks Value}
variable {bucketId : BucketId}

/-- The update of another bucket, and the end of the cached map. -/
def exposing (Value : Type) (roomId : RoomId) (bucketId : BucketId) :
    List (StorageEvent Value) :=
  [.call roomId (.persistBucket (bucketId + 1) none 0), .evict roomId]

/-- A record that was written by a failed update is loaded at last. -/
theorem loadedRecord_exposing (stands : Stands manager disks)
    {faults : Faults} {update : BucketUpdate} {text : String}
    {after : PersistenceManager}
    (failed : callRoom faults manager roomId (update.call Value bucketId) =
      (.error text, after))
    (wrote : update.recordFails faults bucketId = false) :
    loadedRecord Value ((exposing Value roomId bucketId).foldl step after)
        roomId bucketId =
      .ok (update.record bucketId) := by
  obtain ⟨room, ran, views⟩ := callRoom_eq failed
  have represents := (stands roomId).represents
  rcases exec_failed update represents.onlyDbKeys represents.records ran with
    ⟨fails, _⟩ | ⟨_, cache, updated⟩
  · rw [wrote] at fails
    cases fails
  let half : Disk Value := { disks roomId with
    records := (update.call Value bucketId).records (disks roomId).records }
  have isRoom : after.view roomId = room := by simp [views]
  obtain ⟨listed, persisted, whole⟩ := exec_persistBucket_lists
    half updated.onlyDbKeys
    (represents.fragments.congr (updated.others _ (by simp)))
    updated.records
    (represents.members.congr (updated.others _ (by simp)))
    (bucketId + 1) none 0
  have called : callRoom .none after roomId
      (.persistBucket (bucketId + 1) none 0 : StorageCall Value) =
        (_, _) := Prod.mk.eta.symm
  obtain ⟨later, again, viewsLater⟩ := callRoom_eq called
  rw [isRoom] at again
  cases (congrArg Prod.snd persisted).symm.trans (congrArg Prod.snd again)
  have isView : ((exposing Value roomId bucketId).foldl step after).view
      roomId = ⟨listed.db, listed.bucketCache.evict roomId⟩ := by
    have isListed := viewsLater roomId
    rw [if_pos rfl] at isListed
    rw [← congrArg RoomPersistence.db isListed,
      ← congrArg RoomPersistence.bucketCache isListed]
    rfl
  have shown : ((loadBuckets .none Value roomId).exec
      ⟨listed.db, listed.bucketCache.evict roomId⟩).1 =
        .ok (half.records.insert (bucketId + 1) ⟨bucketId + 1, none, 0⟩) :=
    loadBuckets_of_uncached ⟨listed.db, listed.bucketCache.evict roomId⟩ whole
      (by simp [Cache.peek_evict])
  rw [loadedRecord, isView, shown]
  have other : bucketId + 1 ≠ bucketId := by simp
  have isRecord : half.records[bucketId]? = update.record bucketId := by
    cases update with
    | persist label flags =>
        simp [half, BucketUpdate.call, StorageCall.records,
          BucketUpdate.record]
    | remove =>
        simp [half, BucketUpdate.call, StorageCall.records,
          BucketUpdate.record]
  simp [Except.map, lookup_insert, other, isRecord]

omit [SerdeJson Value] in
theorem elsewhere_exposing (roomId : RoomId) (bucketId : BucketId) :
    ∀ event ∈ exposing Value roomId bucketId,
      Elsewhere roomId bucketId event := by
  intro event member
  rcases List.mem_pair.mp member with rfl | rfl
  · simp [Elsewhere]
  · trivial

end Exposed

/-! ## Atomic updates -/

/--
A failed update leaves what was loaded before, now and later, exactly if the
record itself could not be written, or was not new.
-/
theorem failedUpdate_atomic_iff (events : List (StorageEvent Value))
    {roomId : RoomId} {bucketId : BucketId} {update : BucketUpdate}
    {faults : Faults} {text : String} {after : PersistenceManager}
    (failed : callRoom faults (run events) roomId
      (update.call Value bucketId) = (.error text, after)) :
    StaysLoaded Value (run events) after roomId bucketId ↔
      update.recordFails faults bucketId = true ∨
        (lastRecords roomId events)[bucketId]? = update.record bucketId := by
  have stands := stands_run events
  have records : (events.foldl stepDisks (fun _ => .empty) roomId).records =
      lastRecords roomId events := by
    rw [disk_run]
  rw [← records]
  constructor
  · intro stays
    by_cases fails : update.recordFails faults bucketId = true
    · exact Or.inl fails
    · have exposed := loadedRecord_exposing stands failed
        (Bool.eq_false_iff.mpr fails)
      rw [stays _ (elsewhere_exposing roomId bucketId),
        loadedRecord_of_stands stands] at exposed
      exact Or.inr (Except.ok.inj exposed)
  · intro harmless later elsewhere
    have stays := Stands.foldl (stands_failed stands failed harmless) later
    rw [loadedRecord_of_stands stays, loadedRecord_of_stands stands,
      records_foldl_elsewhere elsewhere]

/-! ## A new label that fails -/

/-- Bucket 7 of room 1 has a label. -/
def labelled : List (StorageEvent Json) :=
  [.call 1 (.persistBucket 7 (some "old") 0)]

def relabel : BucketUpdate := .persist (some "new") 0

/-- A single key cannot be written. -/
def putFails (key : String) : Faults :=
  { Faults.none with
    put := fun other => if other = key then some "no space" else none }

/-- The result of the failed update, and what it leaves. -/
theorem relabel_fails (key : String)
    (fails : (match (callRoom (putFails key) (run labelled) 1
        (relabel.call Json 7)).1 with
      | .ok _ => false
      | .error _ => true) = true) :
    ∃ text after, callRoom (putFails key) (run labelled) 1
      (relabel.call Json 7) = (.error text, after) := by
  cases called : callRoom (putFails key) (run labelled) 1
      (relabel.call Json 7) with
  | mk result after =>
      cases result with
      | ok _ => simp [called] at fails
      | error text => exact ⟨text, after, rfl⟩

theorem failedUpdate_atomic_recordFails :
    ∃ text after,
      callRoom (putFails (bucketKey 7)) (run labelled) 1
        (relabel.call Json 7) = (.error text, after) ∧
      StaysLoaded Json (run labelled) after 1 7 := by
  obtain ⟨text, after, failed⟩ :=
    relabel_fails (bucketKey 7) (by decide +kernel)
  exact ⟨text, after, failed, (failedUpdate_atomic_iff labelled failed).mpr
    (Or.inl (by decide +kernel))⟩

/-- The list cannot be written, and the new label comes to light later. -/
theorem failedUpdate_not_atomic :
    ∃ text after,
      callRoom (putFails (bucketListKey 1)) (run labelled) 1
        (relabel.call Json 7) = (.error text, after) ∧
      ¬StaysLoaded Json (run labelled) after 1 7 := by
  obtain ⟨text, after, failed⟩ :=
    relabel_fails (bucketListKey 1) (by decide +kernel)
  refine ⟨text, after, failed, fun stays => ?_⟩
  have exposed := loadedRecord_exposing (stands_run labelled) failed
    (by decide +kernel)
  rw [stays _ (elsewhere_exposing 1 7),
    loadedRecord_of_stands (stands_run labelled), disk_run] at exposed
  have differs : (lastRecords 1 labelled)[(7 : BucketId)]? ≠
      relabel.record 7 := by
    decide +kernel
  exact differs (Except.ok.inj exposed)

end Syncpond.FailedUpdates
