import Mathlib.Data.Option.Basic
import Syncpond.Disk

/-!
# The storage operations on disks

Each storage operation, executed alone and without failures on a database
that represents a disk, succeeds, returns what the disk says, and leaves a
database that represents the changed disk.  The cache, shared by all rooms,
keeps agreeing with the records of every room.
-/

namespace Syncpond.DiskOperations

open Syncpond.Protocol
open Syncpond.Serde
open Syncpond.Persistence
open Syncpond.Disks
open Syncpond.Library.Maps
open Syncpond.Library.Lru
open Syncpond.Library.Text
open Syncpond.Library.JsonText (Codec)

variable {Value : Type} [SerdeJson Value]

/-- The disks of all rooms. -/
abbrev Disks (Value : Type) := RoomId → Disk Value

/-- Every cached map is the records of its room. -/
def CacheAgrees (cache : BucketCache) (disks : Disks Value) : Prop :=
  cache.Agrees fun roomId records => records = (disks roomId).records

/-- What the helper of a room works on stands for the disks. -/
structure Holds (roomId : RoomId) (room : RoomPersistence)
    (disks : Disks Value) : Prop where
  represents : Represents roomId room.db (disks roomId)
  cache : CacheAgrees room.bucketCache disks

/-- The disks after a change of one room. -/
def changeDisk (disks : Disks Value) (roomId : RoomId)
    (change : Disk Value → Disk Value) : Disks Value :=
  Function.update disks roomId (change (disks roomId))

/--
Alone and without failures, an operation on the room returns what `returns`
says of the disk and changes the disk by `change`.
-/
def Implements (Value : Type) [SerdeJson Value] {α : Type}
    (roomId : RoomId) (operation : Storage α)
    (returns : Disk Value → α → Prop)
    (change : Disk Value → Disk Value) : Prop :=
  ∀ room disks, Holds roomId room disks →
    ∃ result after, operation.exec room = (.ok result, after) ∧
      returns (disks roomId) result ∧
      Holds roomId after (changeDisk disks roomId change)

omit [SerdeJson Value] in
@[simp]
theorem changeDisk_self (disks : Disks Value) (roomId : RoomId)
    (change : Disk Value → Disk Value) :
    changeDisk disks roomId change roomId = change (disks roomId) :=
  Function.update_self ..

omit [SerdeJson Value] in
theorem changeDisk_of_ne (disks : Disks Value) {roomId other : RoomId}
    (different : other ≠ roomId) (change : Disk Value → Disk Value) :
    changeDisk disks roomId change other = disks other :=
  Function.update_of_ne different ..

omit [SerdeJson Value] in
@[simp]
theorem changeDisk_id (disks : Disks Value) (roomId : RoomId) :
    changeDisk disks roomId id = disks :=
  Function.update_eq_self ..

omit [SerdeJson Value] in
/-- A change that keeps the records keeps the agreement of the cache. -/
theorem CacheAgrees.change {cache : BucketCache} {disks : Disks Value}
    (agrees : CacheAgrees cache disks) {roomId : RoomId}
    {change : Disk Value → Disk Value}
    (same : (change (disks roomId)).records = (disks roomId).records) :
    CacheAgrees cache (changeDisk disks roomId change) := by
  intro other records found
  rw [agrees other records found]
  by_cases equal : other = roomId
  · subst equal
    rw [changeDisk_self, same]
  · rw [changeDisk_of_ne disks equal]

/-- The disks of all rooms as far as the cache and one database tell. -/
def toldDisks (roomId : RoomId) (cache : BucketCache) (disk : Disk Value) :
    Disks Value := fun other =>
  if other = roomId then disk
  else { Disk.empty with records := (cache.peek other).getD ∅ }

omit [SerdeJson Value] in
@[simp]
theorem toldDisks_self (roomId : RoomId) (cache : BucketCache)
    (disk : Disk Value) : toldDisks roomId cache disk roomId = disk :=
  if_pos rfl

theorem holds_toldDisks {roomId : RoomId} {room : RoomPersistence}
    {disk : Disk Value}
    (represents : Represents roomId room.db disk)
    (cached : ∀ entry, room.bucketCache.peek roomId = some entry →
      entry = disk.records) :
    Holds roomId room (toldDisks roomId room.bucketCache disk) where
  represents := by
    rw [toldDisks_self]
    exact represents
  cache := by
    intro other entry found
    unfold toldDisks
    split
    · next same =>
      subst same
      exact cached entry found
    · simp [found]

/-! ## Sections without failures -/

section Sections

variable (room : RoomPersistence)

@[simp]
theorem exec_get (key : String) :
    (Storage.get .none key).exec room = (.ok room.db[key]?, room) :=
  rfl

@[simp]
theorem exec_put (key : String) (bytes : ByteArray) :
    (Storage.put .none key bytes).exec room =
      (.ok (), { room with db := room.db.insert key bytes }) :=
  rfl

@[simp]
theorem exec_delete (key : String) :
    (Storage.delete .none key).exec room =
      (.ok (), { room with db := room.db.erase key }) :=
  rfl

@[simp]
theorem exec_iterator :
    (Storage.iterator .none).exec room =
      (.ok (room.db.toList.map .ok), room) :=
  rfl

theorem exec_serialize {α : Type} {codec : Codec α} {value : α}
    {bytes : ByteArray} (written : codec.toVec value = .ok bytes) :
    (Storage.serialize codec value).exec room = (.ok bytes, room) := by
  rw [Storage.serialize, written]
  rfl

@[simp]
theorem exec_cacheGetBuckets (roomId : RoomId) :
    (Storage.cacheGetBuckets roomId).exec room =
      (.ok (room.bucketCache.peek roomId),
        { room with bucketCache := (room.bucketCache.get roomId).1 }) := by
  rw [← Cache.get_snd]
  rfl

@[simp]
theorem exec_cachePutBuckets (roomId : RoomId)
    (buckets : Map BucketId BucketRecord) :
    (Storage.cachePutBuckets roomId buckets).exec room =
      (.ok (),
        { room with bucketCache := room.bucketCache.put roomId buckets }) :=
  rfl

end Sections

/-! ## Fragments -/

variable (roomId : RoomId)

/-- `persist_fragment` sets or removes the fragment. -/
theorem implements_persistFragment (bucketId : BucketId) (key : String)
    (value : Option Value) :
    Implements Value roomId
      (persistFragment .none (decimal bucketId) key value)
      (fun _ _ => True)
      fun disk => { disk with
        fragments := putFragment disk.fragments bucketId key value } := by
  intro room disks holds
  obtain ⟨represents, cache⟩ := holds
  have keyText : fragmentKey (decimal bucketId) key =
      (DbKey.fragment bucketId key).text roomId := rfl
  cases value with
  | some value =>
      obtain ⟨bytes, written, read⟩ := SerdeJson.value.roundTrip value
      refine ⟨(), ⟨room.db.insert (fragmentKey (decimal bucketId) key) bytes,
        room.bucketCache⟩, ?_, trivial, ?_, ?_⟩
      · simp only [persistFragment, Storage.exec_bind,
          exec_serialize room written, exec_put]
      · rw [changeDisk_self, keyText]
        exact represents.insertFragment bucketId key read
      · exact cache.change rfl
  | none =>
      refine ⟨(), ⟨room.db.erase (fragmentKey (decimal bucketId) key),
        room.bucketCache⟩, ?_, trivial, ?_, ?_⟩
      · rfl
      · rw [changeDisk_self, keyText]
        exact represents.eraseFragment bucketId key
      · exact cache.change rfl

omit [SerdeJson Value] in
theorem allItems_map_ok (entries : List (String × ByteArray)) :
    allItems (entries.map .ok) = .ok entries := by
  induction entries with
  | nil => rfl
  | cons entry rest ih => simp [allItems, ih, Except.map]

/-- What a scan extracts for a fragment is what the database decodes there. -/
theorem collectFragment_eq_some_iff {db : Db} (only : OnlyDbKeys roomId db)
    {bucketId : BucketId} {key : String} {value : Value} :
    (∃ entry ∈ db.toList,
      collectFragment entry = some ((bucketId, key), value)) ↔
      decoded roomId db SerdeJson.value (.fragment bucketId key) =
        some (.ok value) := by
  constructor
  · rintro ⟨⟨text, bytes⟩, member, collected⟩
    have present : db[text]? = some bytes := by simpa using member
    obtain ⟨dbKey, rfl⟩ := only text
      (Std.ExtTreeMap.mem_iff_isSome_getElem?.mpr (by simp [present]))
    simp only [collectFragment, parseFragmentKey_text] at collected
    cases dbKey with
    | fragment otherBucket otherKey =>
        simp only [Option.bind_eq_bind, Option.bind_some] at collected
        split at collected
        · next read =>
          cases collected
          simp [decoded, present, read]
        · cases collected
    | bucket => simp at collected
    | bucketList => simp at collected
    | memberList => simp at collected
  · intro read
    obtain ⟨bytes, present, result⟩ := Option.map_eq_some_iff.mp read
    refine ⟨(_, bytes), by simpa using present, ?_⟩
    simp [collectFragment, result]

omit [SerdeJson Value] in
theorem getNested_putFragment (fragments : Map BucketId (Map String Value))
    (target other : BucketId × String) (value : Value) :
    getNested (Persistence.putFragment fragments target value)
        other.1 other.2 =
      if target = other then some value
      else getNested fragments other.1 other.2 := by
  obtain ⟨bucketId, key⟩ := target
  obtain ⟨otherBucket, otherKey⟩ := other
  simp [Persistence.putFragment, getNested_insertNested]

omit roomId in
/-- `load_all_fragments` collects what the fragment keys hold. -/
theorem exec_loadAllFragments {roomId : RoomId} {room : RoomPersistence}
    {fragments : BucketId → Map String Value}
    (only : OnlyDbKeys roomId room.db)
    (has : HasFragments roomId room.db fragments) :
    ∃ loaded : Map BucketId (Map String Value),
      (loadAllFragments .none).exec room = (.ok loaded, room) ∧
      ∀ bucketId, loaded[bucketId]?.getD ∅ = fragments bucketId := by
  refine ⟨room.db.toList.foldl
    (gatherStep Persistence.putFragment collectFragment) ∅, ?_, ?_⟩
  · simp only [loadAllFragments, Storage.exec_bind, exec_iterator,
      allItems_map_ok]
    rfl
  · intro bucketId
    apply Std.ExtTreeMap.ext_getElem?
    intro key
    rw [lookup_getD_empty]
    have read := get_foldl_of_iff
      (fun (loaded : Map BucketId (Map String Value)) target =>
        getNested loaded target.1 target.2)
      (fun loaded target value other =>
        getNested_putFragment loaded target other value)
      collectFragment room.db.toList ∅ (bucketId, key)
      (fragments bucketId)[key]?
      (by
        intro value
        rw [collectFragment_eq_some_iff roomId only, has bucketId key]
        simp)
    rw [getNested_empty] at read
    exact read.trans (Option.elim_none_some id _)

/-- `load_all_fragments` returns the fragments. -/
theorem implements_loadAllFragments :
    Implements Value roomId (loadAllFragments .none)
      (fun disk loaded => ∀ bucketId,
        loaded[bucketId]?.getD ∅ = disk.fragments bucketId) id := by
  intro room disks holds
  obtain ⟨loaded, ran, same⟩ := exec_loadAllFragments
    holds.represents.onlyDbKeys holds.represents.fragments
  exact ⟨loaded, room, ran, same, by rwa [changeDisk_id]⟩

/-! ## Members -/

omit roomId in
/-- `load_members` reads the member list. -/
theorem exec_loadMembers {roomId : RoomId} {room : RoomPersistence}
    {members : FinSet String} (has : HasMembers Value roomId room.db members) :
    (loadMembers .none Value roomId).exec room = (.ok members, room) := by
  have keyText : memberListKey roomId = DbKey.memberList.text roomId := rfl
  simp only [loadMembers, Storage.exec_bind, exec_get, keyText]
  rcases has with ⟨absent, empty⟩ | ⟨list, read, same⟩
  · rw [decoded, Option.map_eq_none_iff] at absent
    rw [absent, empty]
    rfl
  · obtain ⟨bytes, present, result⟩ := Option.map_eq_some_iff.mp read
    simp only [present, result, same]
    rfl

/-- `load_members` returns the members. -/
theorem implements_loadMembers :
    Implements Value roomId (loadMembers .none Value roomId)
      (fun disk members => members = disk.members) id := by
  intro room disks holds
  exact ⟨(disks roomId).members, room,
    exec_loadMembers holds.represents.members, rfl, by rwa [changeDisk_id]⟩

/-- `update_member_list` replaces the members. -/
theorem implements_updateMemberList (members : FinSet String) :
    Implements Value roomId (updateMemberList .none Value roomId members)
      (fun _ _ => True) fun disk => { disk with members := members } := by
  intro room disks holds
  obtain ⟨bytes, written, read⟩ :=
    (SerdeJson.memberList Value).roundTrip members.toList
  refine ⟨(), ⟨room.db.insert (memberListKey roomId) bytes,
    room.bucketCache⟩, ?_, trivial, ?_, ?_⟩
  · simp only [updateMemberList, Storage.exec_bind,
      exec_serialize room written, exec_put]
  · rw [changeDisk_self]
    exact holds.represents.insertMembers read
  · exact holds.cache.change rfl

/-- `persist_member` adds the trimmed member unless it is blank. -/
theorem implements_persistMember (member : String) :
    Implements Value roomId (persistMember .none Value roomId member)
      (fun _ _ => True) fun disk =>
        if (trim member).isEmpty then disk
        else { disk with members := disk.members.insert (trim member) } := by
  intro room disks holds
  by_cases blank : (trim member).isEmpty
  · refine ⟨(), room, ?_, trivial, ?_⟩
    · simp only [persistMember, blank, if_true]
      rfl
    · simpa [blank, changeDisk] using holds
  · obtain ⟨_, _, loaded, rfl, unchanged⟩ :=
      implements_loadMembers roomId room disks holds
    rw [changeDisk_id] at unchanged
    obtain ⟨_, after, updated, _, result⟩ :=
      implements_updateMemberList roomId
        ((disks roomId).members.insert (trim member)) _ disks unchanged
    refine ⟨(), after, ?_, trivial, ?_⟩
    · simp only [persistMember, blank, Bool.false_eq_true, if_false,
        Storage.exec_bind, loaded, updated]
    · simpa [blank, changeDisk] using result

/-- `remove_member` removes the member. -/
theorem implements_removeMember (member : String) :
    Implements Value roomId (removeMember .none Value roomId member)
      (fun _ _ => True) fun disk =>
        { disk with members := disk.members.erase member } := by
  intro room disks holds
  obtain ⟨_, _, loaded, rfl, unchanged⟩ :=
    implements_loadMembers roomId room disks holds
  rw [changeDisk_id] at unchanged
  obtain ⟨_, after, updated, _, result⟩ :=
    implements_updateMemberList roomId
      ((disks roomId).members.erase member) _ disks unchanged
  refine ⟨(), after, ?_, trivial, ?_⟩
  · simp only [removeMember, Storage.exec_bind, loaded, updated]
  · simpa [changeDisk] using result

/-! ## Bucket records -/

omit [SerdeJson Value] in
/-- The keys of a scan that parse as bucket keys. -/
theorem mem_collectBucketIds {db : Db} (only : OnlyDbKeys roomId db)
    {bucketId : BucketId} :
    bucketId ∈ ((db.toList.map Except.ok).filterMap
      fun item : Except String (String × ByteArray) =>
        match item with
        | .ok entry => parseBucketKey entry.1
        | .error _ => none) ↔
      (DbKey.bucket bucketId).text roomId ∈ db := by
  simp only [List.filterMap_map, List.mem_filterMap, Function.comp_apply]
  constructor
  · rintro ⟨⟨text, bytes⟩, member, parsed⟩
    have present : db[text]? = some bytes := by simpa using member
    have inDb : text ∈ db :=
      Std.ExtTreeMap.mem_iff_isSome_getElem?.mpr (by simp [present])
    obtain ⟨dbKey, rfl⟩ := only text inDb
    rw [parseBucketKey_text] at parsed
    cases dbKey with
    | bucket other =>
        cases parsed
        exact inDb
    | fragment => cases parsed
    | bucketList => cases parsed
    | memberList => cases parsed
  · intro inDb
    obtain ⟨bytes, present⟩ :=
      Option.isSome_iff_exists.mp
        (Std.ExtTreeMap.mem_iff_isSome_getElem?.mp inDb)
    exact ⟨(_, bytes), by simpa using present, by simp⟩

theorem mem_db_iff_mem_records {db : Db}
    {records : Map BucketId BucketRecord}
    (has : HasRecords Value roomId db records) {bucketId : BucketId} :
    (DbKey.bucket bucketId).text roomId ∈ db ↔ bucketId ∈ records := by
  have stored := congrArg Option.isSome (has.stored bucketId)
  rw [decoded, Option.isSome_map, Option.isSome_map] at stored
  rw [Std.ExtTreeMap.mem_iff_isSome_getElem?,
    Std.ExtTreeMap.mem_iff_isSome_getElem?, stored]

/-- `update_bucket_list` lists the ids of the records. -/
theorem exec_updateBucketList (room : RoomPersistence)
    {records : Map BucketId BucketRecord}
    (only : OnlyDbKeys roomId room.db)
    (has : HasRecords Value roomId room.db records) :
    ∃ bytes,
      (updateBucketList .none Value roomId).exec room =
        (.ok (), ⟨room.db.insert (DbKey.bucketList.text roomId) bytes,
          room.bucketCache⟩) ∧
      HasBucketList Value roomId
        (room.db.insert (DbKey.bucketList.text roomId) bytes) records := by
  let ids := ((room.db.toList.map Except.ok).filterMap
    fun item : Except String (String × ByteArray) =>
      match item with
      | .ok entry => parseBucketKey entry.1
      | .error _ => none).insertionSort (· ≤ ·)
  obtain ⟨bytes, written, read⟩ :=
    (SerdeJson.bucketIds Value).roundTrip ids
  refine ⟨bytes, ?_, HasBucketList.insert read ?_⟩
  · have collected : (collectBucketIds .none).exec room = (.ok ids, room) :=
      rfl
    simp only [updateBucketList, Storage.exec_bind, collected,
      exec_serialize room written, exec_put]
    rfl
  · intro bucketId
    rw [List.mem_insertionSort, mem_collectBucketIds roomId only,
      mem_db_iff_mem_records roomId has]

omit [SerdeJson Value] in
/-- `update_cache` keeps the agreement when the record map changes alike. -/
theorem exec_updateCache (room : RoomPersistence) {disks : Disks Value}
    (agrees : CacheAgrees room.bucketCache disks)
    (change : Map BucketId BucketRecord → Map BucketId BucketRecord) :
    ∃ cache,
      (updateCache roomId change).exec room = (.ok (), ⟨room.db, cache⟩) ∧
      CacheAgrees cache (changeDisk disks roomId fun disk =>
        { disk with records := change disk.records }) := by
  have kept : ∀ other records, other ≠ roomId →
      records = (disks other).records →
      records = (changeDisk disks roomId (fun disk =>
        { disk with records := change disk.records }) other).records := by
    intro other records different same
    rw [changeDisk_of_ne disks different, same]
  cases cached : room.bucketCache.peek roomId with
  | some buckets =>
      have current := agrees roomId buckets cached
      refine ⟨(room.bucketCache.get roomId).1.put roomId (change buckets),
        ?_, ?_⟩
      · simp only [updateCache, Storage.exec_bind, exec_cacheGetBuckets,
          cached, exec_cachePutBuckets]
      · exact (agrees.get roomId).put (by rw [changeDisk_self, current]) kept
  | none =>
      refine ⟨(room.bucketCache.get roomId).1, ?_, ?_⟩
      · simp only [updateCache, Storage.exec_bind, exec_cacheGetBuckets,
          cached]
        rfl
      · intro other records found
        rw [Cache.peek_get] at found
        have different : other ≠ roomId := by
          rintro rfl
          rw [cached] at found
          cases found
        exact kept other records different (agrees other records found)

/-- Listing and caching the records after one of them was written. -/
theorem exec_publishRecords {db written : Db} {cache : BucketCache}
    {disks : Disks Value} (holds : Holds roomId ⟨db, cache⟩ disks)
    (change : Map BucketId BucketRecord → Map BucketId BucketRecord)
    (only : OnlyDbKeys roomId written)
    (records : HasRecords Value roomId written
      (change (disks roomId).records))
    (same : ∀ family, family ≠ .records →
      SameFamily roomId family db written) :
    ∃ after,
      (do updateBucketList .none Value roomId
          updateCache roomId change : Storage Unit).exec ⟨written, cache⟩ =
        (.ok (), after) ∧
      Holds roomId after (changeDisk disks roomId fun disk =>
        { disk with records := change disk.records }) := by
  obtain ⟨bytes, listed, hasList⟩ :=
    exec_updateBucketList roomId ⟨written, cache⟩ only records
  let listedDb := written.insert (DbKey.bucketList.text roomId) bytes
  have kept (family : Family) (notList : family ≠ .bucketList) :
      SameFamily roomId family written listedDb :=
    sameFamily_insert (fun equal => notList equal.symm) _
  obtain ⟨updated, published, agrees⟩ :=
    exec_updateCache roomId ⟨listedDb, cache⟩ holds.cache change
  refine ⟨⟨listedDb, updated⟩, ?_, ?_, agrees⟩
  · rw [Storage.exec_bind, listed]
    exact published
  · rw [changeDisk_self]
    exact {
      onlyDbKeys := only.insert _ _
      fragments := (holds.represents.fragments.congr
        (same .fragments (by simp))).congr (kept _ (by simp))
      records := records.congr (kept _ (by simp))
      bucketList := hasList
      members := (holds.represents.members.congr
        (same .members (by simp))).congr (kept _ (by simp)) }

/-- `persist_bucket` inserts the record. -/
theorem implements_persistBucket (bucketId : BucketId)
    (label : Option String) (flags : UInt32) :
    Implements Value roomId
      (persistBucket .none Value roomId bucketId label flags)
      (fun _ _ => True) fun disk => { disk with
        records := disk.records.insert bucketId ⟨bucketId, label, flags⟩ } := by
  intro room disks holds
  obtain ⟨bytes, written, read⟩ :=
    (SerdeJson.bucketRecord Value).roundTrip ⟨bucketId, label, flags⟩
  have records := holds.represents.records.insert read
  dsimp only at records
  have same (family : Family) (other : family ≠ .records) :
      SameFamily roomId family room.db
        (room.db.insert ((DbKey.bucket bucketId).text roomId) bytes) :=
    sameFamily_insert (fun equal => other equal.symm) bytes
  obtain ⟨after, published, result⟩ := exec_publishRecords roomId holds
    (fun buckets => buckets.insert bucketId ⟨bucketId, label, flags⟩)
    (holds.represents.onlyDbKeys.insert (.bucket bucketId) bytes)
    records same
  refine ⟨(), after, ?_, trivial, result⟩
  simp only [persistBucket, Storage.exec_bind, exec_serialize room written,
    exec_put]
  rw [← published, Storage.exec_bind]
  rfl

/-- `remove_bucket` erases the record. -/
theorem implements_removeBucket (bucketId : BucketId) :
    Implements Value roomId (removeBucket .none Value roomId bucketId)
      (fun _ _ => True) fun disk =>
        { disk with records := disk.records.erase bucketId } := by
  intro room disks holds
  obtain ⟨after, published, result⟩ := exec_publishRecords roomId holds
    (fun buckets => buckets.erase bucketId)
    (holds.represents.onlyDbKeys.erase (.bucket bucketId))
    (holds.represents.records.erase bucketId)
    (fun family other => sameFamily_erase (fun equal => other equal.symm))
  refine ⟨(), after, ?_, trivial, result⟩
  simp only [removeBucket, Storage.exec_bind, exec_delete]
  rw [← published, Storage.exec_bind]
  rfl

/-! ### `load_buckets` -/

omit [SerdeJson Value] in
/-- A sequence of reads that all succeed. -/
theorem exec_foldlM {Item State : Type} {room : RoomPersistence}
    {read : State → Item → Storage State} {step : State → Item → State}
    (reads : ∀ state item,
      (read state item).exec room = (.ok (step state item), room))
    (items : List Item) (state : State) :
    (items.foldlM read state).exec room =
      (.ok (items.foldl step state), room) := by
  induction items generalizing state with
  | nil => rfl
  | cons item rest ih =>
      rw [List.foldlM_cons, Storage.exec_bind, reads]
      exact ih _

/-- The record that a listed id contributes. -/
def listedRecord (Value : Type) [SerdeJson Value] (db : Db)
    (bucketId : BucketId) : Option (BucketId × BucketRecord) :=
  match db[bucketKey bucketId]? with
  | some bytes =>
      match (SerdeJson.bucketRecord Value).fromSlice bytes with
      | .ok record => some (bucketId, record)
      | .error _ => none
  | none => none

theorem exec_readListed (room : RoomPersistence)
    (out : Map BucketId BucketRecord) (bucketId : BucketId) :
    (readListed .none Value out bucketId).exec room =
      (.ok (gatherStep putRecord (listedRecord Value room.db) out bucketId),
        room) := by
  simp only [readListed, Storage.exec_bind, Storage.exec_attempt, exec_get,
    gatherStep, listedRecord]
  cases room.db[bucketKey bucketId]? with
  | none => rfl
  | some bytes =>
      cases read : (SerdeJson.bucketRecord Value).fromSlice bytes with
      | ok record =>
          simp only [read]
          rfl
      | error text =>
          simp only [read]
          rfl

theorem exec_foldlM_readListed (room : RoomPersistence)
    (ids : List BucketId) (out : Map BucketId BucketRecord) :
    (ids.foldlM (readListed .none Value) out).exec room =
      (.ok (ids.foldl
        (gatherStep putRecord (listedRecord Value room.db)) out), room) :=
  exec_foldlM (exec_readListed room) ids out

theorem listedRecord_eq_some_iff {db : Db}
    {records : Map BucketId BucketRecord}
    (has : HasRecords Value roomId db records)
    {bucketId target : BucketId} {record : BucketRecord} :
    listedRecord Value db bucketId = some (target, record) ↔
      bucketId = target ∧ records[target]? = some record := by
  have stored := has.stored bucketId
  unfold decoded at stored
  change db[bucketKey bucketId]?.map _ = _ at stored
  unfold listedRecord
  cases present : db[bucketKey bucketId]? with
  | none =>
      rw [present] at stored
      have absent : records[bucketId]? = none := by simpa using stored.symm
      constructor
      · simp
      · rintro ⟨rfl, found⟩
        simp [absent] at found
  | some bytes =>
      rw [present] at stored
      obtain ⟨found, lookup, read⟩ :=
        Option.map_eq_some_iff.mp stored.symm
      simp only [← read, Option.some.injEq, Prod.mk.injEq]
      constructor
      · rintro ⟨rfl, rfl⟩
        exact ⟨rfl, lookup⟩
      · rintro ⟨rfl, other⟩
        exact ⟨rfl, Option.some.inj (lookup.symm.trans other)⟩

theorem collectRecord_eq_some_iff {db : Db}
    {records : Map BucketId BucketRecord} (only : OnlyDbKeys roomId db)
    (has : HasRecords Value roomId db records)
    {bucketId : BucketId} {record : BucketRecord} :
    (∃ item ∈ db.toList.map Except.ok,
      collectRecord Value item = some (bucketId, record)) ↔
      records[bucketId]? = some record := by
  have stored := has.stored bucketId
  constructor
  · rintro ⟨item, member, collected⟩
    obtain ⟨⟨text, bytes⟩, inDb, rfl⟩ := List.mem_map.mp member
    have present : db[text]? = some bytes := by simpa using inDb
    obtain ⟨dbKey, rfl⟩ := only text
      (Std.ExtTreeMap.mem_iff_isSome_getElem?.mpr (by simp [present]))
    simp only [collectRecord, parseBucketKey_text] at collected
    cases dbKey with
    | bucket other =>
        simp only [Option.bind_eq_bind, Option.bind_some] at collected
        split at collected
        · next read =>
          cases collected
          simpa [decoded, present, read] using stored.symm
        · cases collected
    | fragment => simp at collected
    | bucketList => simp at collected
    | memberList => simp at collected
  · intro found
    rw [found] at stored
    obtain ⟨bytes, present, read⟩ := Option.map_eq_some_iff.mp stored
    refine ⟨.ok (_, bytes),
      List.mem_map.mpr ⟨_, by simpa using present, rfl⟩, ?_⟩
    simp [collectRecord, read]

/-- Reading the records of all ids gives the records. -/
theorem foldl_listedRecord {db : Db} {records : Map BucketId BucketRecord}
    (has : HasRecords Value roomId db records) {ids : List BucketId}
    (listed : ∀ bucketId ∈ records, bucketId ∈ ids) :
    ids.foldl (gatherStep putRecord (listedRecord Value db)) ∅ =
      records := by
  apply Std.ExtTreeMap.ext_getElem?
  intro bucketId
  have read := get_foldl_of_iff
    (fun (out : Map BucketId BucketRecord) target => out[target]?)
    (fun out target record other => lookup_insert out target other record)
    (listedRecord Value db) ids ∅ bucketId records[bucketId]?
    (by
      intro record
      simp only [listedRecord_eq_some_iff roomId has]
      constructor
      · rintro ⟨id, _, rfl, found⟩
        exact found
      · intro found
        have inRecords : bucketId ∈ records :=
          Std.ExtTreeMap.mem_iff_isSome_getElem?.mpr (by simp [found])
        exact ⟨bucketId, listed bucketId inRecords, rfl, found⟩)
  rw [Std.ExtTreeMap.getElem?_empty] at read
  exact read.trans (Option.elim_none_some id _)

/-- Scanning for the records gives the records. -/
theorem foldl_collectRecord {db : Db} {records : Map BucketId BucketRecord}
    (only : OnlyDbKeys roomId db)
    (has : HasRecords Value roomId db records) :
    (db.toList.map Except.ok).foldl
        (gatherStep putRecord (collectRecord Value)) ∅ = records := by
  apply Std.ExtTreeMap.ext_getElem?
  intro bucketId
  have read := get_foldl_of_iff
    (fun (out : Map BucketId BucketRecord) target => out[target]?)
    (fun out target record other => lookup_insert out target other record)
    (collectRecord Value) (db.toList.map Except.ok) ∅ bucketId
    records[bucketId]?
    (fun record => collectRecord_eq_some_iff roomId only has)
  rw [Std.ExtTreeMap.getElem?_empty] at read
  exact read.trans (Option.elim_none_some id _)

omit [SerdeJson Value] in
/-- Caching the records keeps the agreement. -/
theorem CacheAgrees.put {cache : BucketCache} {disks : Disks Value}
    (agrees : CacheAgrees cache disks) :
    CacheAgrees (cache.put roomId (disks roomId).records) disks :=
  Cache.Agrees.put agrees rfl fun _ _ _ same => same

/-- `load_buckets` returns the records, whichever of its sources answers. -/
theorem implements_loadBuckets :
    Implements Value roomId (loadBuckets .none Value roomId)
      (fun disk buckets => buckets = disk.records) id := by
  intro room disks holds
  obtain ⟨represents, agrees⟩ := holds
  have looked : CacheAgrees (room.bucketCache.get roomId).1 disks :=
    agrees.get roomId
  cases cached : room.bucketCache.peek roomId with
  | some buckets =>
      refine ⟨buckets, ⟨room.db, (room.bucketCache.get roomId).1⟩, ?_,
        agrees roomId buckets cached, ?_⟩
      · simp only [loadBuckets, Storage.exec_bind, exec_cacheGetBuckets,
          cached]
        rfl
      · rw [changeDisk_id]
        exact ⟨represents, looked⟩
  | none =>
      have keyText : bucketListKey roomId = DbKey.bucketList.text roomId := rfl
      let stored := (room.bucketCache.get roomId).1.put roomId
        (disks roomId).records
      have storedAgrees : CacheAgrees stored disks := looked.put roomId
      rcases represents.bucketList with ⟨absent, _⟩ | ⟨ids, read, listed⟩
      · -- without a list, the whole database is scanned
        have scanned := foldl_collectRecord roomId represents.onlyDbKeys
          represents.records
        refine ⟨(disks roomId).records,
          ⟨room.db, stored.put roomId (disks roomId).records⟩, ?_, rfl, ?_⟩
        · rw [decoded, Option.map_eq_none_iff] at absent
          simp only [loadBuckets, Storage.exec_bind, exec_cacheGetBuckets,
            cached, Storage.exec_attempt, exec_get, keyText, absent,
            readBucketIds, exec_iterator, scanned]
          rfl
        · rw [changeDisk_id]
          exact ⟨represents, storedAgrees.put roomId⟩
      · -- with a list, the records of the listed ids are read
        have gathered := foldl_listedRecord roomId represents.records
          fun bucketId => (listed bucketId).mpr
        refine ⟨(disks roomId).records, ⟨room.db, stored⟩, ?_, rfl, ?_⟩
        · obtain ⟨bytes, present, result⟩ := Option.map_eq_some_iff.mp read
          simp only [loadBuckets, Storage.exec_bind, exec_cacheGetBuckets,
            cached, Storage.exec_attempt, exec_get, keyText, present,
            readBucketIds, result, exec_foldlM_readListed, gathered]
          rfl
        · rw [changeDisk_id]
          exact ⟨represents, storedAgrees⟩

end Syncpond.DiskOperations
