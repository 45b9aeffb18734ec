import Syncpond.FailedUpdates
import Syncpond.KernelStore
import Syncpond.Sections

/-!
# Loading a room while reads fail

`LoadRoom` reads the bucket records, the members and the fragments of a room,
and its three loaders treat a failed read in three ways: a record that cannot
be read is left out, members that cannot be read are taken for none, and only
the scan for fragments reports its error.  What the first loader managed to
read goes into the cache, so that the next load in the same process starts
from it.

A failed read acts on the database as if its key was not there.  The loads are
therefore those without failures on a smaller database, and the room is never
partial exactly if that database says the same.
-/

namespace Syncpond.PartialLoads

open Syncpond.Protocol
open Syncpond.Serde
open Syncpond.State
open Syncpond.Persistence
open Syncpond.Kernel
open Syncpond.Sections
open Syncpond.Disks
open Syncpond.DiskOperations
open Syncpond.Folders
open Syncpond.KernelStore
open Syncpond.StorageRuns
open Syncpond.Library.Maps
open Syncpond.Library.Lru
open Syncpond.Library.Programs
open Syncpond.Library.Runs
open Syncpond.Library.Text

/-! ## Failures -/

/-- The reads that fail, with the texts of their errors. -/
structure ReadFailures where
  /-- The point reads, by key. -/
  get : String → Option String
  /-- The items of an iterator, by key. -/
  item : String → Option String

/-- No read fails. -/
def ReadFailures.none : ReadFailures := ⟨fun _ => .none, fun _ => .none⟩

/-- Nothing but reads fails. -/
def ReadFailures.faults (failures : ReadFailures) : Faults :=
  { Faults.none with get := failures.get, item := failures.item }

/-- The failures during a `LoadRoom`, as each of its three loaders meets them. -/
structure LoadFailures where
  buckets : ReadFailures
  members : ReadFailures
  fragments : ReadFailures

/-- No loader meets a failure. -/
def LoadFailures.none : LoadFailures := ⟨.none, .none, .none⟩

variable {Value : Type} [SerdeJson Value]

/-- `readRoomData`, with the failures that each loader meets. -/
def readRoomDataUnder (failures : LoadFailures) (roomId : RoomId) :
    Storage (RoomData Value) := do
  let buckets ← Storage.attempt
    (loadBuckets failures.buckets.faults Value roomId)
  let members ← Storage.attempt
    (loadMembers failures.members.faults Value roomId)
  match ← Storage.attempt (loadAllFragments failures.fragments.faults) with
  | .ok fragments =>
      return {
        bucketDefs := bucketDefs (buckets.toOption.getD ∅)
        members := members.toOption.getD ∅
        fragments := fragments }
  | .error text => throw ("fragment_load_failed: " ++ text)

/-- `LoadRoom`, with the failures that each loader meets. -/
def loadRoomUnder (failures : LoadFailures) (roomId : RoomId) :
    Task Value CommandResponse := do
  match ← Task.openRoomDb .none roomId with
  | .error text => return .loadRoomResponse (.error ("db_open_failed: " ++ text))
  | .ok () =>
      match ← Task.onRoom roomId (readRoomDataUnder failures roomId) with
      | some (.ok data) =>
          Program.atomic .locked (SyncpondKernel.installRoomData roomId data)
      | some (.error text) => return .loadRoomResponse (.error text)
      | none =>
          Program.atomic .locked (SyncpondKernel.installRoomData roomId .empty)

/-- Failures that do not change during the command are those of the kernel. -/
theorem loadRoomUnder_same (failures : ReadFailures) (roomId : RoomId) :
    (loadRoomUnder ⟨failures, failures, failures⟩ roomId :
      Task Value CommandResponse) =
        handleCommand failures.faults (.loadRoom roomId) :=
  rfl

/-! ## Failed reads are absent keys -/

/-- The part of a database under the keys that are read. -/
def readable (fails : String → Option String) (db : Db) : Db :=
  db.filter fun key _ => (fails key).isNone

theorem lookup_readable (fails : String → Option String) (db : Db)
    (key : String) :
    (readable fails db)[key]? = if (fails key).isNone then db[key]? else none := by
  rw [readable, Std.ExtTreeMap.getElem?_filter']
  cases db[key]? <;> simp [Option.filter]

section Readable

variable {roomId : RoomId} {db : Db} (fails : String → Option String)

theorem OnlyDbKeys.readable (only : OnlyDbKeys roomId db) :
    OnlyDbKeys roomId (readable fails db) := by
  intro text member
  exact only text (Std.ExtTreeMap.mem_of_mem_filter member)

/-- The records that are left of those of a room. -/
def readRecords (records : Map BucketId BucketRecord) :
    Map BucketId BucketRecord :=
  records.filter fun bucketId _ => (fails (bucketKey bucketId)).isNone

theorem lookup_readRecords (records : Map BucketId BucketRecord)
    (bucketId : BucketId) :
    (readRecords fails records)[bucketId]? =
      if (fails (bucketKey bucketId)).isNone then records[bucketId]?
      else none := by
  rw [readRecords, Std.ExtTreeMap.getElem?_filter']
  cases records[bucketId]? <;> simp [Option.filter]

theorem HasRecords.readable {records : Map BucketId BucketRecord}
    (has : HasRecords Value roomId db records) :
    HasRecords Value roomId (readable fails db)
      (readRecords fails records) where
  stored bucketId := by
    have stored := has.stored bucketId
    simp only [decoded, DbKey.text, lookup_readable, lookup_readRecords]
      at stored ⊢
    split
    · exact stored
    · rfl
  identified bucketId record found := by
    rw [lookup_readRecords] at found
    split at found
    · exact has.identified bucketId record found
    · cases found

end Readable

/-! ## What each loader makes of the failures -/

section Loaders

variable (failures : ReadFailures) {roomId : RoomId} {room : RoomPersistence}

omit [SerdeJson Value] in
theorem exec_get_failures (key : String) :
    (Storage.get failures.faults key).exec room =
      ((match failures.get key with
        | some text => .error ("rocksdb get failed: " ++ text)
        | none => .ok room.db[key]?), room) := by
  rw [Storage.get, Storage.exec_primitive]
  show (match failures.get key with | some _ => _ | none => _) = _
  cases failures.get key <;> rfl

/-- A record that cannot be read is left out. -/
theorem exec_readListed_failures (out : Map BucketId BucketRecord)
    (bucketId : BucketId) :
    (readListed failures.faults Value out bucketId).exec room =
      (.ok (gatherStep putRecord
        (listedRecord Value (readable failures.get room.db)) out bucketId),
        room) := by
  simp only [readListed, Storage.exec_bind, Storage.exec_attempt,
    exec_get_failures, gatherStep, listedRecord, lookup_readable]
  cases failures.get (bucketKey bucketId) with
  | some text => rfl
  | none =>
      cases room.db[bucketKey bucketId]? with
      | none => rfl
      | some bytes =>
          cases read : (SerdeJson.bucketRecord Value).fromSlice bytes with
          | ok record => simp [read]
          | error text => simp [read]

/-- The items of an iterator over a database. -/
def items (db : Db) : List (Except String (String × ByteArray)) :=
  db.toList.map fun entry =>
    match failures.item entry.1 with
    | some text => .error text
    | none => .ok entry

omit [SerdeJson Value] in
theorem exec_iterator_failures :
    (Storage.iterator failures.faults).exec room =
      (.ok (items failures room.db), room) :=
  rfl

omit [SerdeJson Value] in
theorem ok_mem_items {db : Db} {entry : String × ByteArray} :
    Except.ok entry ∈ items failures db ↔
      Except.ok entry ∈
        ((readable failures.item db).toList.map Except.ok :
          List (Except String (String × ByteArray))) := by
  simp only [items, List.mem_map, Prod.exists,
    Std.ExtTreeMap.mem_toList_iff_getElem?_eq_some, lookup_readable]
  constructor
  · rintro ⟨key, bytes, present, item⟩
    cases fails : failures.item key with
    | some text => simp [fails] at item
    | none =>
        simp only [fails, Except.ok.injEq] at item
        exact ⟨key, bytes, by simpa [fails] using present, by rw [item]⟩
  · rintro ⟨key, bytes, present, item⟩
    cases fails : failures.item key with
    | some text => simp [fails] at present
    | none =>
        exact ⟨key, bytes, by simpa [fails] using present, by simpa [fails] using item⟩

/-- The scan leaves out the records whose items fail. -/
theorem foldl_collectRecord_failures {db : Db}
    {records : Map BucketId BucketRecord} (only : OnlyDbKeys roomId db)
    (has : HasRecords Value roomId db records) :
    (items failures db).foldl
        (gatherStep putRecord (collectRecord Value)) ∅ =
      readRecords failures.item records := by
  apply Std.ExtTreeMap.ext_getElem?
  intro bucketId
  have read := get_foldl_of_iff
    (fun (out : Map BucketId BucketRecord) target => out[target]?)
    (fun out target record other => lookup_insert out target other record)
    (collectRecord Value) (items failures db) ∅ bucketId
    (readRecords failures.item records)[bucketId]?
    (by
      intro record
      rw [← collectRecord_eq_some_iff roomId
        (OnlyDbKeys.readable failures.item only)
        (HasRecords.readable failures.item has)]
      refine exists_congr fun item => ?_
      cases item with
      | ok entry => rw [ok_mem_items]
      | error text => simp [collectRecord])
  rw [Std.ExtTreeMap.getElem?_empty] at read
  exact read.trans (Option.elim_none_some id _)

/-- The records that `load_buckets` finds in the database. -/
def foundRecords (roomId : RoomId) (records : Map BucketId BucketRecord) :
    Map BucketId BucketRecord :=
  if (failures.get (bucketListKey roomId)).isNone then
    readRecords failures.get records
  else readRecords failures.item records

/-- The record of a bucket can be read the way `load_buckets` goes. -/
def recordRead (roomId : RoomId) (bucketId : BucketId) : Bool :=
  if (failures.get (bucketListKey roomId)).isNone then
    (failures.get (bucketKey bucketId)).isNone
  else (failures.item (bucketKey bucketId)).isNone

omit [SerdeJson Value] in
theorem readRecords_eq_iff (fails : String → Option String)
    (records : Map BucketId BucketRecord) :
    readRecords fails records = records ↔
      ∀ bucketId ∈ records, (fails (bucketKey bucketId)).isNone := by
  constructor
  · intro same bucketId member
    rw [← same, Std.ExtTreeMap.mem_iff_isSome_getElem?, lookup_readRecords]
      at member
    split at member
    · assumption
    · cases member
  · intro reads
    apply Std.ExtTreeMap.ext_getElem?
    intro bucketId
    rw [lookup_readRecords]
    split
    · rfl
    · next fails =>
      refine (Std.ExtTreeMap.getElem?_eq_none fun member => ?_).symm
      exact fails (reads bucketId member)

omit [SerdeJson Value] in
theorem foundRecords_eq_iff (roomId : RoomId)
    (records : Map BucketId BucketRecord) :
    foundRecords failures roomId records = records ↔
      ∀ bucketId ∈ records, recordRead failures roomId bucketId = true := by
  unfold foundRecords recordRead
  split
  · exact readRecords_eq_iff _ _
  · exact readRecords_eq_iff _ _

omit [SerdeJson Value] in
/-- What is found is a part of the records. -/
theorem lookup_of_foundRecords {records : Map BucketId BucketRecord}
    {bucketId : BucketId} {record : BucketRecord}
    (found : (foundRecords failures roomId records)[bucketId]? =
      some record) : records[bucketId]? = some record := by
  unfold foundRecords at found
  split at found
  all_goals
    rw [lookup_readRecords] at found
    split at found
    · exact found
    · cases found

section Uncached

variable {disk : Disk Value} (represents : Represents roomId room.db disk)
variable (uncached : room.bucketCache.peek roomId = none)
variable (positive : 0 < room.bucketCache.capacity)

include represents uncached positive

/-- Without a list, the records are those of the scan. -/
theorem exec_loadBuckets_scan
    (unread : readBucketIds Value
      ((Storage.get failures.faults (bucketListKey roomId)).exec room).1 =
        none) :
    ∃ cache, (loadBuckets failures.faults Value roomId).exec room =
        (.ok (readRecords failures.item disk.records), ⟨room.db, cache⟩) ∧
      cache.peek roomId = some (readRecords failures.item disk.records) := by
  let found := readRecords failures.item disk.records
  let stored := (room.bucketCache.get roomId).1.put roomId found
  have scanned := foldl_collectRecord_failures failures represents.onlyDbKeys
    represents.records
  rw [exec_get_failures] at unread
  refine ⟨stored.put roomId found, ?_, ?_⟩
  · simp only [loadBuckets, Storage.exec_bind, exec_cacheGetBuckets, uncached,
      Storage.exec_attempt, exec_get_failures, unread, exec_iterator_failures,
      scanned, exec_cachePutBuckets]
    rfl
  · exact Cache.peek_put_self (by simpa [stored] using positive) roomId found

/-- With a list, the records are those of the listed ids. -/
theorem exec_loadBuckets_list {ids : List BucketId}
    (read : readBucketIds Value
      ((Storage.get failures.faults (bucketListKey roomId)).exec room).1 =
        some ids)
    (listed : ∀ bucketId ∈ disk.records, bucketId ∈ ids) :
    ∃ cache, (loadBuckets failures.faults Value roomId).exec room =
        (.ok (readRecords failures.get disk.records), ⟨room.db, cache⟩) ∧
      cache.peek roomId = some (readRecords failures.get disk.records) := by
  let found := readRecords failures.get disk.records
  have present : ∀ bucketId ∈ found, bucketId ∈ ids := fun bucketId member =>
    listed bucketId (Std.ExtTreeMap.mem_of_mem_filter member)
  have gathered := foldl_listedRecord roomId
    (HasRecords.readable failures.get represents.records) present
  rw [exec_get_failures] at read
  refine ⟨(room.bucketCache.get roomId).1.put roomId found, ?_, ?_⟩
  · simp only [loadBuckets, Storage.exec_bind, exec_cacheGetBuckets, uncached,
      Storage.exec_attempt, exec_get_failures, read,
      exec_foldlM (exec_readListed_failures failures), gathered,
      exec_cachePutBuckets]
    rfl
  · exact Cache.peek_put_self (by simpa using positive) roomId found

/-- Without a cached map, what is found is returned and cached. -/
theorem exec_loadBuckets_found :
    ∃ cache, (loadBuckets failures.faults Value roomId).exec room =
        (.ok (foundRecords failures roomId disk.records), ⟨room.db, cache⟩) ∧
      cache.peek roomId =
        some (foundRecords failures roomId disk.records) := by
  have keyText : bucketListKey roomId = DbKey.bucketList.text roomId := rfl
  have scan := exec_loadBuckets_scan failures represents uncached positive
  rw [exec_get_failures] at scan
  cases fails : failures.get (bucketListKey roomId) with
  | some text =>
      have found : foundRecords failures roomId disk.records =
          readRecords failures.item disk.records := by
        simp [foundRecords, fails]
      rw [found]
      exact scan (by rw [fails]; rfl)
  | none =>
      rcases represents.bucketList with ⟨absent, empty⟩ | ⟨ids, read, listed⟩
      · -- a room without a list has no records
        rw [decoded, Option.map_eq_none_iff] at absent
        have found : foundRecords failures roomId disk.records =
            readRecords failures.item disk.records := by
          rw [empty, foundRecords]
          split <;> rfl
        rw [found]
        exact scan (by rw [fails, keyText, absent]; rfl)
      · obtain ⟨bytes, present, result⟩ := Option.map_eq_some_iff.mp read
        have found : foundRecords failures roomId disk.records =
            readRecords failures.get disk.records := by
          simp [foundRecords, fails]
        rw [found]
        refine exec_loadBuckets_list failures represents uncached positive ?_
          fun bucketId => (listed bucketId).mpr
        rw [exec_get_failures, fails, keyText, present, readBucketIds, result]

end Uncached

omit [SerdeJson Value] in
variable (Value) in
/-- A cached map is returned whatever fails. -/
theorem exec_loadBuckets_cached [SerdeJson Value]
    {buckets : Map BucketId BucketRecord}
    (cached : room.bucketCache.peek roomId = some buckets) :
    ∃ cache, (loadBuckets failures.faults Value roomId).exec room =
        (.ok buckets, ⟨room.db, cache⟩) ∧
      cache.peek roomId = some buckets := by
  refine ⟨(room.bucketCache.get roomId).1, ?_, by rwa [Cache.peek_get]⟩
  simp only [loadBuckets, Storage.exec_bind, exec_cacheGetBuckets, cached]
  rfl

/-- The members that `LoadRoom` goes on with. -/
def foundMembers (roomId : RoomId) (members : FinSet String) :
    FinSet String :=
  if (failures.get (memberListKey roomId)).isNone then members else ∅

/-- Members that cannot be read are taken for none. -/
theorem exec_loadMembers_failures {members : FinSet String}
    (has : HasMembers Value roomId room.db members) :
    ∃ result,
      (loadMembers failures.faults Value roomId).exec room = (result, room) ∧
      result.toOption.getD ∅ = foundMembers failures roomId members := by
  cases fails : failures.get (memberListKey roomId) with
  | some text =>
      refine ⟨.error ("rocksdb get failed: " ++ text), ?_, ?_⟩
      · simp only [loadMembers, Storage.exec_bind, exec_get_failures, fails]
      · simp [foundMembers, fails, Except.toOption]
  | none =>
      refine ⟨.ok members, ?_, by simp [foundMembers, fails, Except.toOption]⟩
      rw [← exec_loadMembers has]
      simp only [loadMembers, Storage.exec_bind, exec_get_failures, fails,
        exec_get]

/-- Some item of the database fails. -/
def ScanFails (db : Db) : Prop :=
  ∃ key ∈ db, (failures.item key).isSome

omit [SerdeJson Value] in
theorem allItems_of_error {text : String} :
    ∀ {items : List (Except String (String × ByteArray))},
      .error text ∈ items → ∃ reason, allItems items = .error reason := by
  intro items member
  induction items with
  | nil => simp at member
  | cons item rest ih =>
      cases item with
      | error first => exact ⟨_, rfl⟩
      | ok entry =>
          obtain ⟨reason, failed⟩ := ih (by simpa using member)
          exact ⟨reason, by simp [allItems, failed, Except.map]⟩

/-- The scan for fragments reports its first error. -/
theorem exec_loadAllFragments_error (scanFails : ScanFails failures room.db) :
    ∃ text, (loadAllFragments failures.faults :
        Storage (Map BucketId (Map String Value))).exec room =
      (.error text, room) := by
  obtain ⟨key, member, fails⟩ := scanFails
  obtain ⟨text, isText⟩ := Option.isSome_iff_exists.mp fails
  obtain ⟨bytes, present⟩ := Option.isSome_iff_exists.mp
    (Std.ExtTreeMap.mem_iff_isSome_getElem?.mp member)
  have inItems : Except.error text ∈ items failures room.db :=
    List.mem_map.mpr ⟨(key, bytes), by simpa using present, by simp [isText]⟩
  obtain ⟨reason, failed⟩ := allItems_of_error inItems
  refine ⟨reason, ?_⟩
  simp only [loadAllFragments, Storage.exec_bind, exec_iterator_failures,
    failed]
  rfl

/-- Without a failed item, the scan for fragments has them all. -/
theorem exec_loadAllFragments_ok (scans : ¬ScanFails failures room.db) :
    (loadAllFragments failures.faults :
        Storage (Map BucketId (Map String Value))).exec room =
      (loadAllFragments .none).exec room := by
  have isItems : items failures room.db = room.db.toList.map Except.ok := by
    refine List.map_congr_left fun entry member => ?_
    have inDb : entry.1 ∈ room.db :=
      Std.ExtTreeMap.mem_iff_isSome_getElem?.mpr (by
        rw [Std.ExtTreeMap.mem_toList_iff_getElem?_eq_some.mp member]
        rfl)
    cases fails : failures.item entry.1 with
    | some text => exact absurd ⟨entry.1, inDb, by simp [fails]⟩ scans
    | none => rfl
  simp only [loadAllFragments, Storage.exec_bind, exec_iterator_failures,
    isItems, exec_iterator]

end Loaders

/-! ## The room that is installed -/

/-- A loaded room has exactly what is persisted. -/
structure Shows (disk : Disk Value) (room : RoomState Value) : Prop where
  loaded : room.loaded = true
  buckets : ∀ bucketId, bucketId ∈ room.buckets ↔ bucketId ∈ disk.records
  labels : ∀ bucketId : BucketId, room.bucketLabels[bucketId]? =
    disk.records[bucketId]?.bind BucketRecord.label
  flags : ∀ bucketId : BucketId, room.bucketFlags[bucketId]? =
    disk.records[bucketId]?.map BucketRecord.flags
  members : room.members = disk.members
  fragments : ∀ bucketId key,
    (getNested room.buckets bucketId key).map FragmentEntry.value =
      (disk.fragments bucketId)[key]?

/-- Every bucket with a persisted fragment has a record. -/
def NoOrphans (disk : Disk Value) : Prop :=
  ∀ bucketId, bucketId ∉ disk.records → disk.fragments bucketId = ∅

section Installed

variable {disk : Disk Value} {records : Map BucketId BucketRecord}
variable {members : FinSet String} {room : RoomState Value}

omit [SerdeJson Value] in
theorem value_loadFrom (bucketId : BucketId) (key : String) :
    (getNested (Store.loadFrom ⟨records, disk.fragments, members⟩ room).buckets
        bucketId key).map FragmentEntry.value =
      if bucketId ∈ records then (disk.fragments bucketId)[key]? else none := by
  cases found : records[bucketId]? with
  | none =>
      have absent : bucketId ∉ records := by
        simp [Std.ExtTreeMap.mem_iff_isSome_getElem?, found]
      rw [if_neg absent]
      simp [getNested, Store.loadFrom, found]
  | some record =>
      have present : bucketId ∈ records := by
        simp [Std.ExtTreeMap.mem_iff_isSome_getElem?, found]
      have values : (FragmentEntry.value ∘ fun value : Value =>
          (⟨value, 0⟩ : FragmentEntry Value)) = id := rfl
      rw [if_pos present]
      simp [getNested, Store.loadFrom, RoomState.loadedEntries, found, values]

omit [SerdeJson Value] in
/-- A part of what is persisted is all of it exactly if nothing is missing. -/
theorem shows_loadFrom_iff
    (part : ∀ (bucketId : BucketId) (record : BucketRecord),
      records[bucketId]? = some record →
        disk.records[bucketId]? = some record) :
    Shows disk (Store.loadFrom ⟨records, disk.fragments, members⟩ room) ↔
      records = disk.records ∧ members = disk.members ∧ NoOrphans disk := by
  constructor
  · intro shows
    have same : ∀ bucketId, bucketId ∈ records ↔ bucketId ∈ disk.records := by
      intro bucketId
      rw [← shows.buckets]
      simp [Store.loadFrom]
    refine ⟨?_, shows.members, ?_⟩
    · apply Std.ExtTreeMap.ext_getElem?
      intro bucketId
      cases found : records[bucketId]? with
      | some record => exact (part bucketId record found).symm
      | none =>
          have absent : bucketId ∉ disk.records := by
            rw [← same, Std.ExtTreeMap.mem_iff_isSome_getElem?, found]
            simp
          exact (Std.ExtTreeMap.getElem?_eq_none absent).symm
    · intro bucketId absent
      apply Std.ExtTreeMap.ext_getElem?
      intro key
      rw [← shows.fragments, value_loadFrom, if_neg (mt (same bucketId).mp absent)]
      simp
  · rintro ⟨rfl, rfl, noOrphans⟩
    exact {
      loaded := rfl
      buckets := by simp [Store.loadFrom]
      labels := by simp [Store.loadFrom]
      flags := by simp [Store.loadFrom]
      members := rfl
      fragments := by
        intro bucketId key
        rw [value_loadFrom]
        split
        · rfl
        · next absent => rw [noOrphans bucketId absent]; simp }

end Installed

/-! ## The command -/

section Command

variable {failures : LoadFailures} {roomId : RoomId}

/-- What the loaders make of a room is put together. -/
theorem exec_readRoomDataUnder {room next : RoomPersistence}
    {disk : Disk Value} (represents : Represents roomId next.db disk)
    {records : Map BucketId BucketRecord}
    (loaded : (loadBuckets failures.buckets.faults Value roomId).exec room =
      (.ok records, next)) :
    (ScanFails failures.fragments next.db ∧
      ∃ text, (readRoomDataUnder failures roomId :
          Storage (RoomData Value)).exec room = (.error text, next)) ∨
    (¬ScanFails failures.fragments next.db ∧
      ∃ fragments : Map BucketId (Map String Value),
        (readRoomDataUnder failures roomId).exec room =
          (.ok ⟨bucketDefs records,
            foundMembers failures.members roomId disk.members, fragments⟩,
            next) ∧
        ∀ bucketId, fragments[bucketId]?.getD ∅ = disk.fragments bucketId) := by
  obtain ⟨members, membersRead, isMembers⟩ :=
    exec_loadMembers_failures failures.members represents.members
  by_cases scanFails : ScanFails failures.fragments next.db
  · obtain ⟨text, failed⟩ : ∃ text,
        (loadAllFragments failures.fragments.faults :
          Storage (Map BucketId (Map String Value))).exec next =
            (.error text, next) :=
      exec_loadAllFragments_error failures.fragments scanFails
    refine Or.inl ⟨scanFails, "fragment_load_failed: " ++ text, ?_⟩
    simp only [readRoomDataUnder, Storage.exec_bind, Storage.exec_attempt,
      loaded, membersRead, failed]
    rfl
  · obtain ⟨fragments, scanned, same⟩ :=
      exec_loadAllFragments represents.onlyDbKeys represents.fragments
    rw [← exec_loadAllFragments_ok failures.fragments scanFails] at scanned
    refine Or.inr ⟨scanFails, fragments, ?_, same⟩
    simp only [readRoomDataUnder, Storage.exec_bind, Storage.exec_attempt,
      loaded, membersRead, scanned, ← isMembers]
    rfl

/-- The folder of every open database exists. -/
def HasFolders (manager : PersistenceManager) : Prop :=
  ∀ other ∈ manager.dbs, roomDir other ∈ manager.dirs

/-- Opening a database without failures succeeds. -/
theorem openRoomDb_none (manager : PersistenceManager) (roomId : RoomId) :
    (manager.openRoomDb .none roomId).2 = .ok () := by
  unfold PersistenceManager.openRoomDb
  split <;> rfl

/-- The command reads on the opened database, and installs what it read. -/
theorem run_loadRoomUnder {kernel : SyncpondKernel Value}
    (folders : HasFolders kernel.persistence)
    {room : RoomState Value}
    (registered : kernel.state.rooms[roomId]? = some room)
    {result : Except String (RoomData Value)} {view : RoomPersistence}
    (ran : (readRoomDataUnder failures roomId).exec
      (kernel.persistence.view roomId) = (result, view)) :
    ∃ after, (loadRoomUnder failures roomId).run kernel =
        (.loadRoomResponse (result.map fun _ => ()), after) ∧
      after.state.rooms[roomId]? = some (match result with
        | .ok data => room.loadData data.bucketDefs data.members data.fragments
        | .error _ => room) ∧
      after.persistence.view roomId = view ∧
      HasFolders after.persistence := by
  let opened := (kernel.persistence.openRoomDb .none roomId).1
  have isOpen : roomId ∈ opened.dbs :=
    (mem_dbs_openRoomDb ..).mpr (Or.inr ⟨rfl, rfl, rfl⟩)
  have openedFolders : HasFolders opened := fun _ member =>
    opened_openRoomDb folders member
  have read := run_onRoom { kernel with persistence := opened } isOpen
    (openedFolders roomId isOpen)
    (readRoomDataUnder failures roomId : Storage (RoomData Value))
  rw [PersistenceManager.view_openRoomDb, ran] at read
  have written := PersistenceManager.view_writeBack_self opened roomId view
  have folders : HasFolders (opened.writeBack roomId view) :=
    fun other member => mem_map_insert.mpr (Or.inr (openedFolders other member))
  have opening : kernel.persistence.openRoomDb .none roomId =
      (opened, .ok ()) :=
    Prod.ext rfl (openRoomDb_none kernel.persistence roomId)
  simp only [loadRoomUnder, Task.openRoomDb, Program.run_bind,
    Program.run_atomic, opening, read]
  cases result with
  | error text => exact ⟨_, rfl, registered, written, folders⟩
  | ok data =>
      simp only [Program.run_atomic, SyncpondKernel.installRoomData,
        AppState.loadRoomData, AppState.withRoom, registered, Except.map]
      exact ⟨_, rfl, by simp, written, folders⟩

variable {kernel : SyncpondKernel Value} {room : RoomState Value}
variable {disk : Disk Value} {records : Map BucketId BucketRecord}
variable {next : RoomPersistence}

/-- A load with the records that its first loader returned. -/
theorem load_cases (folders : HasFolders kernel.persistence)
    (registered : kernel.state.rooms[roomId]? = some room)
    (represents : Represents roomId next.db disk)
    (loaded : (loadBuckets failures.buckets.faults Value roomId).exec
      (kernel.persistence.view roomId) = (.ok records, next))
    (part : ∀ (bucketId : BucketId) (record : BucketRecord),
      records[bucketId]? = some record →
        disk.records[bucketId]? = some record) :
    ∃ response after,
      (loadRoomUnder failures roomId).run kernel = (response, after) ∧
      after.persistence.view roomId = next ∧
      HasFolders after.persistence ∧
      (ScanFails failures.fragments next.db ∧
          (∃ text, response = .loadRoomResponse (.error text)) ∧
          after.state.rooms[roomId]? = some room ∨
        ¬ScanFails failures.fragments next.db ∧
          response = .loadRoomResponse (.ok ()) ∧
          after.state.rooms[roomId]? = some (Store.loadFrom
            ⟨records, disk.fragments,
              foundMembers failures.members roomId disk.members⟩ room)) := by
  rcases exec_readRoomDataUnder represents loaded with
    ⟨scanFails, text, failed⟩ | ⟨scans, fragments, read, same⟩
  · obtain ⟨after, ran, rooms, view, folders⟩ :=
      run_loadRoomUnder folders registered failed
    exact ⟨_, after, ran, view, folders,
      Or.inl ⟨scanFails, ⟨text, rfl⟩, rooms⟩⟩
  · obtain ⟨after, ran, rooms, view, folders⟩ :=
      run_loadRoomUnder folders registered read
    have identified (bucketId : BucketId) (record : BucketRecord)
        (found : records[bucketId]? = some record) : record.id = bucketId :=
      represents.records.identified bucketId record (part bucketId record found)
    let found : Disk Value := ⟨records, disk.fragments,
      foundMembers failures.members roomId disk.members⟩
    have sameFragments : ∀ bucketId,
        fragments[bucketId]?.getD ∅ = found.fragments bucketId := same
    have installed : room.loadData (bucketDefs records) found.members
        fragments = Store.loadFrom found room :=
      loadData_eq_loadFrom identified sameFragments room
    exact ⟨_, after, ran, view, folders,
      Or.inr ⟨scans, rfl, rooms.trans (congrArg some installed)⟩⟩

end Command

/-! ## Never partial -/

/-- A load reports an error and leaves the room in memory alone. -/
def Refuses (roomId : RoomId) (kernel : SyncpondKernel Value)
    (load : CommandResponse × SyncpondKernel Value) : Prop :=
  (∃ text, load.1 = .loadRoomResponse (.error text)) ∧
    load.2.state.rooms[roomId]? = kernel.state.rooms[roomId]?

/-- A load succeeds and installs exactly what is persisted. -/
def Installs (disk : Disk Value) (roomId : RoomId)
    (load : CommandResponse × SyncpondKernel Value) : Prop :=
  load.1 = .loadRoomResponse (.ok ()) ∧
    ∃ room, load.2.state.rooms[roomId]? = some room ∧ Shows disk room

/--
A load with failures refuses or installs what is persisted, and the next load,
when nothing fails any more, installs it.
-/
structure NeverPartial (failures : LoadFailures) (roomId : RoomId)
    (kernel : SyncpondKernel Value) (disk : Disk Value) : Prop where
  now : Refuses roomId kernel ((loadRoomUnder failures roomId).run kernel) ∨
    Installs disk roomId ((loadRoomUnder failures roomId).run kernel)
  next : Installs disk roomId
    ((handleCommand .none (.loadRoom roomId)).run
      ((loadRoomUnder failures roomId).run kernel).2)

/--
The failures hide nothing: the records are cached or all of them are read,
and the members are read unless there are none or the command fails anyway.
No fragment belongs to a bucket without a record.
-/
structure Harmless (failures : LoadFailures) (roomId : RoomId)
    (room : RoomPersistence) (disk : Disk Value) : Prop where
  noOrphans : NoOrphans disk
  records : room.bucketCache.peek roomId = none →
    ∀ bucketId ∈ disk.records,
      recordRead failures.buckets roomId bucketId = true
  members : ScanFails failures.fragments room.db ∨
    (failures.members.get (memberListKey roomId)).isNone ∨ disk.members = ∅

section NeverPartial

variable {failures : LoadFailures} {roomId : RoomId}
variable {kernel : SyncpondKernel Value} {room : RoomState Value}

omit [SerdeJson Value] in
theorem foundMembers_eq_iff (failures : ReadFailures)
    (members : FinSet String) :
    foundMembers failures roomId members = members ↔
      (failures.get (memberListKey roomId)).isNone ∨ members = ∅ := by
  unfold foundMembers
  split
  · next reads => simp [reads]
  · next fails => simp [fails, eq_comm]

/-- The first loader returns a part of the records, and caches it. -/
theorem exec_loadBuckets_part {room : RoomPersistence} {disk : Disk Value}
    (failures : ReadFailures) (represents : Represents roomId room.db disk)
    (agrees : ∀ buckets, room.bucketCache.peek roomId = some buckets →
      buckets = disk.records)
    (positive : 0 < room.bucketCache.capacity) :
    ∃ records cache, (loadBuckets failures.faults Value roomId).exec room =
        (.ok records, ⟨room.db, cache⟩) ∧
      cache.peek roomId = some records ∧
      (∀ (bucketId : BucketId) (record : BucketRecord),
        records[bucketId]? = some record →
          disk.records[bucketId]? = some record) ∧
      (records = disk.records ↔
        (room.bucketCache.peek roomId = none → ∀ bucketId ∈ disk.records,
          recordRead failures roomId bucketId = true)) := by
  cases cached : room.bucketCache.peek roomId with
  | none =>
      obtain ⟨cache, loaded, kept⟩ :=
        exec_loadBuckets_found failures represents cached positive
      refine ⟨_, cache, loaded, kept, fun _ _ => lookup_of_foundRecords _, ?_⟩
      rw [foundRecords_eq_iff]
      simp
  | some buckets =>
      obtain ⟨cache, loaded, kept⟩ := exec_loadBuckets_cached Value failures cached
      have same := agrees buckets cached
      subst same
      exact ⟨_, cache, loaded, kept, fun _ _ => id, by simp⟩

/-- The load after one that left a part of the records in the cache. -/
theorem installs_next_iff {records : Map BucketId BucketRecord}
    {disk : Disk Value} (folders : HasFolders kernel.persistence)
    (registered : kernel.state.rooms[roomId]? = some room)
    (represents : Represents roomId (kernel.persistence.view roomId).db disk)
    (cached : (kernel.persistence.view roomId).bucketCache.peek roomId =
      some records)
    (part : ∀ (bucketId : BucketId) (record : BucketRecord),
      records[bucketId]? = some record →
        disk.records[bucketId]? = some record) :
    Installs disk roomId
        ((handleCommand .none (.loadRoom roomId)).run kernel) ↔
      records = disk.records ∧ NoOrphans disk := by
  obtain ⟨cache, loaded, _⟩ :=
    exec_loadBuckets_cached Value LoadFailures.none.buckets cached
  have same : (handleCommand .none (.loadRoom roomId) :
      Task Value CommandResponse) = loadRoomUnder .none roomId :=
    (loadRoomUnder_same .none roomId).symm
  have kept : Represents roomId (RoomPersistence.mk
      (kernel.persistence.view roomId).db cache).db disk := represents
  obtain ⟨response, after, ran, _, _, ⟨⟨_, _, fails⟩, _⟩ | ⟨_, ok, rooms⟩⟩ :=
    load_cases folders registered kept loaded part
  · cases fails
  · rw [same, ran, Installs]
    simp only [ok, true_and, rooms, Option.some.injEq, exists_eq_left']
    rw [shows_loadFrom_iff part]
    simp [foundMembers, LoadFailures.none, ReadFailures.none]

/-- For any kernel whose cache and database agree with the disk. -/
theorem neverPartial_iff_of_represents {disk : Disk Value}
    (folders : HasFolders kernel.persistence)
    (registered : kernel.state.rooms[roomId]? = some room)
    (represents : Represents roomId (kernel.persistence.view roomId).db disk)
    (agrees : ∀ buckets,
      (kernel.persistence.view roomId).bucketCache.peek roomId =
        some buckets → buckets = disk.records)
    (positive : 0 < (kernel.persistence.view roomId).bucketCache.capacity) :
    NeverPartial failures roomId kernel disk ↔
      Harmless failures roomId (kernel.persistence.view roomId) disk := by
  obtain ⟨records, cache, loaded, cached, part, whole⟩ :=
    exec_loadBuckets_part failures.buckets represents agrees positive
  have kept : Represents roomId (RoomPersistence.mk
      (kernel.persistence.view roomId).db cache).db disk := represents
  obtain ⟨response, after, ran, view, afterFolders, result⟩ :=
    load_cases folders registered kept loaded part
  have sameDb : (after.persistence.view roomId).db =
      (kernel.persistence.view roomId).db := by rw [view]
  have next {left : RoomState Value}
      (isLeft : after.state.rooms[roomId]? = some left) :
      Installs disk roomId
          ((handleCommand .none (.loadRoom roomId)).run after) ↔
        records = disk.records ∧ NoOrphans disk :=
    installs_next_iff afterFolders isLeft (sameDb ▸ represents)
      (by rw [view]; exact cached) part
  rcases result with ⟨scanFails, ⟨text, isError⟩, rooms⟩ | ⟨scans, ok, rooms⟩
  · -- the room is left alone, and only the next load can be partial
    have refuses : Refuses roomId kernel
        ((loadRoomUnder failures roomId).run kernel) := by
      rw [ran]
      exact ⟨⟨text, isError⟩, rooms.trans registered.symm⟩
    constructor
    · rintro ⟨_, installs⟩
      rw [ran, next rooms] at installs
      exact ⟨installs.2, whole.mp installs.1, Or.inl scanFails⟩
    · rintro ⟨noOrphans, recordsRead, _⟩
      refine ⟨Or.inl refuses, ?_⟩
      rw [ran, next rooms]
      exact ⟨whole.mpr recordsRead, noOrphans⟩
  · have installsNow : Installs disk roomId
        ((loadRoomUnder failures roomId).run kernel) ↔
          records = disk.records ∧
          foundMembers failures.members roomId disk.members = disk.members ∧
          NoOrphans disk := by
      rw [ran, Installs]
      simp only [ok, true_and, rooms, Option.some.injEq, exists_eq_left']
      exact shows_loadFrom_iff part
    have notRefuses : ¬Refuses roomId kernel
        ((loadRoomUnder failures roomId).run kernel) := by
      rw [ran, ok]
      rintro ⟨⟨text, isError⟩, _⟩
      cases isError
    constructor
    · rintro ⟨now, installs⟩
      obtain ⟨isWhole, members, noOrphans⟩ :=
        installsNow.mp (now.resolve_left notRefuses)
      exact ⟨noOrphans, whole.mp isWhole,
        Or.inr ((foundMembers_eq_iff _ _).mp members)⟩
    · rintro ⟨noOrphans, recordsRead, membersRead⟩
      have isWhole := whole.mpr recordsRead
      have members := (foundMembers_eq_iff failures.members disk.members).mpr
        (membersRead.resolve_left scans)
      refine ⟨Or.inr (installsNow.mpr ⟨isWhole, members, noOrphans⟩), ?_⟩
      rw [ran, next rooms]
      exact ⟨isWhole, noOrphans⟩

end NeverPartial

/-! ## After every run of the storage -/

section Runs

omit [SerdeJson Value] in
/-- A call keeps the capacity of the cache. -/
theorem capacity_isCall {faults : Faults}
    {effect : RoomPersistence → RoomPersistence}
    (call : IsCall faults effect) (room : RoomPersistence) :
    (effect room).bucketCache.capacity = room.bucketCache.capacity := by
  cases call with
  | get key =>
      dsimp only [Storage.get, Storage.exec_primitive]
      split <;> rfl
  | put key bytes =>
      dsimp only [Storage.put, Storage.exec_primitive]
      split <;> rfl
  | delete key =>
      dsimp only [Storage.delete, Storage.exec_primitive]
      split <;> rfl
  | iterator => rfl
  | cacheGetBuckets roomId => simp
  | cachePutBuckets roomId buckets => rfl

omit [SerdeJson Value] in
theorem capacity_exec {faults : Faults} {Result : Type}
    {operation : Storage Result} (calls : Calls faults operation)
    (room : RoomPersistence) :
    (operation.exec room).2.bucketCache.capacity =
      room.bucketCache.capacity := by
  let capacity (room : RoomPersistence) := room.bucketCache.capacity
  have keeps : operation.run.Every fun _ effect =>
      ∀ room, capacity (effect room) = capacity room :=
    Program.Every.mono (fun _ _ call => capacity_isCall call.2) calls
  exact Program.Every.run keeps room

theorem calls_operation (faults : Faults) (roomId : RoomId)
    (call : StorageCall Value) :
    Calls faults (call.operation faults roomId) := by
  cases call with
  | persistBucket bucketId label flags =>
      exact calls_persistBucket Value faults roomId bucketId label flags
  | removeBucket bucketId =>
      exact calls_removeBucket Value faults roomId bucketId
  | loadBuckets =>
      exact (calls_loadBuckets Value faults roomId).bind fun _ => .pure ()
  | persistFragment bucketId key value =>
      exact calls_persistFragment faults _ key value
  | persistMember member =>
      exact calls_persistMember Value faults roomId member
  | removeMember member =>
      exact calls_removeMember Value faults roomId member

theorem capacity_step (manager : PersistenceManager)
    (event : StorageEvent Value) :
    (step manager event).bucketCache.capacity =
      manager.bucketCache.capacity := by
  cases event with
  | evict roomId => rfl
  | call roomId call =>
      let opened := (manager.openRoomDb .none roomId).1
      have sameCapacity := capacity_exec (calls_operation .none roomId call)
        (opened.view roomId)
      refine sameCapacity.trans ?_
      rw [PersistenceManager.view_openRoomDb manager roomId roomId]
      rfl

theorem capacity_run (events : List (StorageEvent Value)) :
    (run events).bucketCache.capacity = bucketCacheCapacity :=
  foldl_invariant
    (fun manager => manager.bucketCache.capacity = bucketCacheCapacity)
    (fun manager event same => (capacity_step manager event).trans same)
    events rfl

end Runs

/-- The content of a room that was persisted last. -/
def lastDisk (roomId : RoomId) (events : List (StorageEvent Value)) :
    Disk Value :=
  ⟨lastRecords roomId events, lastFragments roomId events,
    lastMembers roomId events⟩

/--
Whatever was persisted and whatever reads fail, a load of a registered room is
never partial, now and on retry, exactly if the failures hide nothing.
-/
theorem neverPartial_iff (events : List (StorageEvent Value))
    (app : AppState Value) (notifications : Notifications Value)
    {roomId : RoomId} {room : RoomState Value}
    (registered : app.rooms[roomId]? = some room) (failures : LoadFailures) :
    NeverPartial failures roomId ⟨app, run events, notifications⟩
        (lastDisk roomId events) ↔
      Harmless failures roomId ((run events).view roomId)
        (lastDisk roomId events) := by
  have stands := stands_run events roomId
  have isDisk : events.foldl stepDisks (fun _ => .empty) roomId =
      lastDisk roomId events := disk_run events roomId
  obtain ⟨_, refines⟩ := refines_run events app notifications
  have folders : HasFolders (run events) := fun _ member =>
    refines.mem_dirs.mpr (refines.dbs ▸ member)
  let kernel : SyncpondKernel Value := ⟨app, run events, notifications⟩
  have represents : Represents roomId (kernel.persistence.view roomId).db
      (lastDisk roomId events) := isDisk ▸ stands.represents
  have agrees : ∀ buckets,
      (kernel.persistence.view roomId).bucketCache.peek roomId =
        some buckets → buckets = (lastDisk roomId events).records := by
    intro buckets cached
    rw [stands.cache roomId buckets cached, isDisk]
  have positive :
      0 < (kernel.persistence.view roomId).bucketCache.capacity := by
    rw [show (kernel.persistence.view roomId).bucketCache.capacity =
      bucketCacheCapacity from capacity_run events]
    decide
  exact neverPartial_iff_of_represents folders registered represents agrees
    positive

/-! ## A record that is missed once -/

/-- Room 1 has a bucket and a member, and its records are not cached. -/
def persisted : List (StorageEvent Json) :=
  [.call 1 (.persistBucket 7 (some "news") 0), .call 1 (.persistMember "ann"),
    .evict 1]

/-- Room 1 is registered. -/
def registeredRoom : AppState Json := (AppState.createRoom .new).1

theorem registered_one :
    registeredRoom.rooms[(1 : RoomId)]? = some (.fresh true) := by
  simp [registeredRoom, AppState.createRoom, AppState.new]

/-- A single key cannot be read. -/
def getFails (key : String) : ReadFailures where
  get other := if other = key then some "io error" else none
  item _ := none

/-- A single item of an iterator fails. -/
def itemFails (key : String) : ReadFailures where
  get _ := none
  item other := if other = key then some "io error" else none

theorem neverPartial_itemFails :
    NeverPartial ⟨.none, getFails (memberListKey 1), itemFails (bucketKey 7)⟩ 1
      ⟨registeredRoom, run persisted, .empty⟩ (lastDisk 1 persisted) :=
  (neverPartial_iff persisted registeredRoom .empty registered_one _).mpr {
    noOrphans := fun _ _ => rfl
    records := fun _ _ _ => rfl
    members := Or.inl ⟨bucketKey 7, by decide +kernel, by decide +kernel⟩ }

/-- The bucket is missing after the load, and still after the next one. -/
theorem not_neverPartial_getFails :
    ¬NeverPartial ⟨getFails (bucketKey 7), .none, .none⟩ 1
      ⟨registeredRoom, run persisted, .empty⟩ (lastDisk 1 persisted) := by
  rintro ⟨_, _, room, isRoom, shows⟩
  have missing : ((((handleCommand .none (.loadRoom 1)).run
      ((loadRoomUnder ⟨getFails (bucketKey 7), .none, .none⟩ 1).run
        (⟨registeredRoom, run persisted, .empty⟩ :
          SyncpondKernel Json)).2).2.state.rooms[(1 : RoomId)]?).map
            fun room => room.buckets.contains 7) = some false := by
    decide +kernel
  have present : (7 : BucketId) ∈ (lastDisk 1 persisted).records := by
    decide +kernel
  rw [isRoom, Option.map_some, Option.some.injEq] at missing
  have absent : ¬room.buckets.contains 7 = true := by simp [missing]
  exact absent ((shows.buckets 7).mpr present)

end Syncpond.PartialLoads
