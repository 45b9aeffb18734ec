import Syncpond.DatabaseFormat
import Syncpond.PartialLoads

/-!
# Loading a room after a crash

A process can end between any two sections of its commands.  The next one finds
well-formed databases, whose bucket lists may be older or newer than their
records.  `Recovered` says what `LoadRoom` makes of such a database: all that
its keys hold, for the buckets that have a record and are not left out of the
list.
-/

namespace Syncpond.Recovery

open Syncpond.Protocol
open Syncpond.Serde
open Syncpond.State
open Syncpond.Persistence
open Syncpond.Kernel
open Syncpond.Disks
open Syncpond.DiskOperations
open Syncpond.KernelStore
open Syncpond.Folders
open Syncpond.Lifetimes
open Syncpond.PartialLoads
open Syncpond.DatabaseFormat
open Syncpond.WrittenContent
open Syncpond.Library.JsonText (Codec)
open Syncpond.Library.Lru
open Syncpond.Library.Maps
open Syncpond.Library.Runs

variable {Value : Type} [SerdeJson Value]

/-! ## The content of a well-formed database -/

section Content

variable (Value) in
/-- The records that a scan of the database finds. -/
def scannedRecords (db : Db) : Map BucketId BucketRecord :=
  (db.toList.map Except.ok).foldl (gatherStep putRecord (collectRecord Value)) ∅

/-- The fragments that a scan of the database finds. -/
def scannedFragments (db : Db) : Map BucketId (Map String Value) :=
  db.toList.foldl (gatherStep Persistence.putFragment collectFragment) ∅

variable (Value) in
/-- The members that the list of the database names. -/
def listedMembers (roomId : RoomId) (db : Db) : FinSet String :=
  match decoded roomId db (SerdeJson.memberList Value) .memberList with
  | some (.ok list) => Std.ExtTreeSet.ofList list compare
  | _ => ∅

variable {roomId : RoomId} {db : Db}

/-- What a scan extracts for a bucket is what the database decodes there. -/
theorem collectRecord_iff_decoded (only : OnlyDbKeys roomId db)
    {bucketId : BucketId} {record : BucketRecord} :
    (∃ item ∈ db.toList.map Except.ok,
      collectRecord Value item = some (bucketId, record)) ↔
      decoded roomId db (SerdeJson.bucketRecord Value) (.bucket bucketId) =
        some (.ok record) := by
  constructor
  · rintro ⟨item, member, collected⟩
    obtain ⟨⟨text, bytes⟩, inDb, rfl⟩ := List.mem_map.mp member
    have present : db[text]? = some bytes := by simpa using inDb
    obtain ⟨dbKey, rfl⟩ := only text
      (Std.ExtTreeMap.mem_iff_isSome_getElem?.mpr (by simp [present]))
    simp only [collectRecord, parseBucketKey_text] at collected
    cases dbKey with
    | bucket other =>
        simp only [Option.bind_eq_bind, Option.bind_some] at collected
        split at collected
        · next read =>
          cases collected
          simp [decoded, present, read]
        · cases collected
    | _ => simp at collected
  · intro read
    obtain ⟨bytes, present, result⟩ := Option.map_eq_some_iff.mp read
    refine ⟨.ok (_, bytes),
      List.mem_map.mpr ⟨_, by simpa using present, rfl⟩, ?_⟩
    simp [collectRecord, result]

variable (wellFormed : WellFormed Value roomId db)

include wellFormed

theorem hasFragments_scanned : HasFragments roomId db fun bucketId =>
    (scannedFragments db : Map BucketId (Map String Value))[bucketId]?.getD
      ∅ := by
  intro bucketId key
  have read := get_foldl_of_iff
    (fun (loaded : Map BucketId (Map String Value)) target =>
      getNested loaded target.1 target.2)
    (fun loaded target value other =>
      getNested_putFragment loaded target other value)
    collectFragment db.toList ∅ (bucketId, key)
    ((decoded roomId db SerdeJson.value (.fragment bucketId key)).bind
      Except.toOption)
    (by
      intro value
      rw [collectFragment_eq_some_iff roomId wellFormed.onlyDbKeys]
      cases decoded roomId db (SerdeJson.value : Codec Value)
          (.fragment bucketId key) with
      | none => simp
      | some outcome => cases outcome <;> simp [Except.toOption])
  rw [lookup_getD_empty, scannedFragments, read]
  cases stored : db[(DbKey.fragment bucketId key).text roomId]? with
  | none => simp [decoded, stored]
  | some bytes =>
      cases wellFormed.entry stored with
      | fragment value isRead _ =>
          simp [decoded, stored, isRead, Except.toOption]

theorem hasRecords_scanned : HasRecords Value roomId db (scannedRecords Value db) := by
  have read (bucketId : BucketId) := get_foldl_of_iff
    (fun (out : Map BucketId BucketRecord) target => out[target]?)
    (fun out target record other => lookup_insert out target other record)
    (collectRecord Value) (db.toList.map Except.ok) ∅ bucketId
    ((decoded roomId db (SerdeJson.bucketRecord Value)
      (.bucket bucketId)).bind Except.toOption)
    (by
      intro record
      rw [collectRecord_iff_decoded wellFormed.onlyDbKeys]
      cases decoded roomId db (SerdeJson.bucketRecord Value)
          (.bucket bucketId) with
      | none => simp
      | some outcome => cases outcome <;> simp [Except.toOption])
  have scanned (bucketId : BucketId) :
      (scannedRecords Value db)[bucketId]? =
        (decoded roomId db (SerdeJson.bucketRecord Value)
          (.bucket bucketId)).bind Except.toOption := by
    have found := read bucketId
    rw [Std.ExtTreeMap.getElem?_empty] at found
    exact found.trans (Option.elim_none_some id _)
  constructor
  · intro bucketId
    rw [scanned]
    cases stored : db[(DbKey.bucket bucketId).text roomId]? with
    | none => simp [decoded, stored]
    | some bytes =>
        cases wellFormed.entry stored with
        | bucket label isRead _ =>
            simp [decoded, stored, isRead, Except.toOption]
  · intro bucketId record found
    rw [scanned] at found
    cases stored : db[(DbKey.bucket bucketId).text roomId]? with
    | none => simp [decoded, stored] at found
    | some bytes =>
        cases wellFormed.entry stored with
        | bucket label isRead _ =>
            simp only [decoded, stored, Option.map_some, isRead,
              Option.bind_some, Except.toOption, Option.some.injEq] at found
            rw [← found]

theorem hasMembers_listed :
    HasMembers Value roomId db (listedMembers Value roomId db) := by
  unfold HasMembers listedMembers
  cases stored : db[DbKey.memberList.text roomId]? with
  | none =>
      left
      simp [decoded, stored]
  | some bytes =>
      right
      cases wellFormed.entry stored with
      | memberList members isRead _ _ =>
          exact ⟨members, by simp [decoded, stored, isRead],
            by simp [decoded, stored, isRead]⟩

end Content

/-! ## What a load finds -/

section Loads

variable {roomId : RoomId} {room : RoomPersistence}

variable (Value) in
/-- The bucket list, when there is one, does not leave the bucket out. -/
def Listed (roomId : RoomId) (db : Db) (bucketId : BucketId) : Prop :=
  ∀ ids, decoded roomId db (SerdeJson.bucketIds Value) .bucketList =
    some (.ok ids) → bucketId ∈ ids

/-- Reading the records of some ids gives those of the ids. -/
theorem lookup_foldl_listedRecord {db : Db}
    {records : Map BucketId BucketRecord}
    (has : HasRecords Value roomId db records) {ids : List BucketId}
    (bucketId : BucketId) (record : BucketRecord) :
    (ids.foldl (gatherStep putRecord (listedRecord Value db)) ∅)[bucketId]? =
        some record ↔
      bucketId ∈ ids ∧ records[bucketId]? = some record := by
  have read := get_foldl_of_iff
    (fun (out : Map BucketId BucketRecord) target => out[target]?)
    (fun out target record other => lookup_insert out target other record)
    (listedRecord Value db) ids ∅ bucketId
    (if bucketId ∈ ids then records[bucketId]? else none)
    (by
      intro record
      simp only [listedRecord_eq_some_iff roomId has]
      constructor
      · rintro ⟨id, member, rfl, found⟩
        simpa [member] using found
      · intro found
        split at found
        · next member => exact ⟨bucketId, member, rfl, found⟩
        · cases found)
  rw [Std.ExtTreeMap.getElem?_empty] at read
  rw [show (ids.foldl (gatherStep putRecord (listedRecord Value db))
    ∅)[bucketId]? = _ from read.trans (Option.elim_none_some id _)]
  by_cases member : bucketId ∈ ids
  · simp [member]
  · simp [member]

/-- Without a cache entry, the listed records are found. -/
theorem exec_loadBuckets_uncached
    (wellFormed : WellFormed Value roomId room.db)
    (uncached : room.bucketCache.peek roomId = none) :
    ∃ records next,
      (loadBuckets .none Value roomId).exec room = (.ok records, next) ∧
      next.db = room.db ∧
      ∀ (bucketId : BucketId) (record : BucketRecord),
        records[bucketId]? = some record ↔
          Listed Value roomId room.db bucketId ∧
            (scannedRecords Value room.db)[bucketId]? = some record := by
  have keyText : bucketListKey roomId = DbKey.bucketList.text roomId := rfl
  have hasRecords := hasRecords_scanned wellFormed
  let looked := (room.bucketCache.get roomId).1
  cases stored : room.db[DbKey.bucketList.text roomId]? with
  | none =>
      -- Without a list, the whole database is scanned.
      let records := scannedRecords Value room.db
      refine ⟨records,
        ⟨room.db, (looked.put roomId records).put roomId records⟩, ?_, rfl, ?_⟩
      · simp only [loadBuckets, Storage.exec_bind, exec_cacheGetBuckets,
          uncached, Storage.exec_attempt, exec_get, keyText, stored,
          readBucketIds, exec_iterator]
        rfl
      · intro bucketId record
        have listed : Listed Value roomId room.db bucketId := by
          intro ids isList
          simp [decoded, stored] at isList
        exact ⟨fun found => ⟨listed, found⟩, fun found => found.2⟩
  | some bytes =>
      cases wellFormed.entry stored with
      | bucketList ids isRead _ =>
          let records := ids.foldl
            (gatherStep putRecord (listedRecord Value room.db)) ∅
          refine ⟨records, ⟨room.db, looked.put roomId records⟩, ?_, rfl, ?_⟩
          · simp only [loadBuckets, Storage.exec_bind, exec_cacheGetBuckets,
              uncached, Storage.exec_attempt, exec_get, keyText, stored,
              readBucketIds, isRead, exec_foldlM_readListed]
            rfl
          · intro bucketId record
            have listed : Listed Value roomId room.db bucketId ↔
                bucketId ∈ ids := by
              simp [Listed, decoded, stored, isRead]
            rw [listed]
            exact lookup_foldl_listedRecord hasRecords bucketId record

/-- Without failures, all that the loaders find is put together. -/
theorem exec_readRoomData (wellFormed : WellFormed Value roomId room.db)
    (uncached : room.bucketCache.peek roomId = none) :
    ∃ (records : Map BucketId BucketRecord)
      (fragments : Map BucketId (Map String Value)) (next : RoomPersistence),
      (readRoomData .none roomId).exec room =
        (.ok ⟨bucketDefs records, listedMembers Value roomId room.db,
          fragments⟩, next) ∧
      (∀ bucketId : BucketId, fragments[bucketId]?.getD ∅ =
        (scannedFragments room.db)[bucketId]?.getD ∅) ∧
      ∀ (bucketId : BucketId) (record : BucketRecord),
        records[bucketId]? = some record ↔
          Listed Value roomId room.db bucketId ∧
            (scannedRecords Value room.db)[bucketId]? = some record := by
  obtain ⟨records, next, loaded, sameDb, found⟩ :=
    exec_loadBuckets_uncached wellFormed uncached
  have nextFormed : WellFormed Value roomId next.db := by rwa [sameDb]
  have members : (loadMembers .none Value roomId).exec next =
      (.ok (listedMembers Value roomId room.db), next) := by
    rw [exec_loadMembers (hasMembers_listed nextFormed), sameDb]
  obtain ⟨fragments, scanned, same⟩ := exec_loadAllFragments
    nextFormed.onlyDbKeys (hasFragments_scanned nextFormed)
  rw [sameDb] at same
  refine ⟨records, fragments, next, ?_, same, found⟩
  simp only [readRoomData, Storage.exec_bind, Storage.exec_attempt, loaded,
    members, scanned]
  rfl

end Loads

/-! ## The recovered room -/

section Recovered

/--
A loaded room has what its database holds: the listed buckets with a record,
their labels and all their fragments, as of version zero, and the members.
-/
structure Recovered (roomId : RoomId) (db : Db) (room : RoomState Value) :
    Prop where
  loaded : room.loaded = true
  buckets : ∀ bucketId, bucketId ∈ room.buckets ↔
    Listed Value roomId db bucketId ∧ (DbKey.bucket bucketId).text roomId ∈ db
  records : ∀ bucketId ∈ room.buckets,
    decoded roomId db (SerdeJson.bucketRecord Value) (.bucket bucketId) =
      some (.ok ⟨bucketId, room.bucketLabels[bucketId]?, 0⟩)
  flags : ∀ bucketId ∈ room.buckets, room.bucketFlags[bucketId]? = some 0
  fragments : ∀ bucketId ∈ room.buckets, ∀ key,
    decoded roomId db SerdeJson.value (.fragment bucketId key) =
      (getNested room.buckets bucketId key).map fun entry => .ok entry.value
  versions : ∀ bucketId key entry,
    getNested room.buckets bucketId key = some entry → entry.keyVersion = 0
  members : HasMembers Value roomId db room.members

variable {roomId : RoomId} {db : Db}

/-- A scan finds a record under each bucket key. -/
theorem mem_scannedRecords (wellFormed : WellFormed Value roomId db)
    {bucketId : BucketId} :
    bucketId ∈ scannedRecords Value db ↔
      (DbKey.bucket bucketId).text roomId ∈ db := by
  have stored := (hasRecords_scanned wellFormed).stored bucketId
  rw [Std.ExtTreeMap.mem_iff_isSome_getElem?,
    Std.ExtTreeMap.mem_iff_isSome_getElem?, decoded] at *
  rw [← Option.isSome_map (f := (SerdeJson.bucketRecord Value).fromSlice),
    stored, Option.isSome_map]

/-- A scanned record has the id of its bucket and no flags. -/
theorem scannedRecord_eq (wellFormed : WellFormed Value roomId db)
    {bucketId : BucketId} {record : BucketRecord}
    (found : (scannedRecords Value db)[bucketId]? = some record) :
    record = ⟨bucketId, record.label, 0⟩ := by
  have stored := (hasRecords_scanned wellFormed).stored bucketId
  rw [found, Option.map_some, decoded, Option.map_eq_some_iff] at stored
  obtain ⟨bytes, present, read⟩ := stored
  cases wellFormed.entry present with
  | bucket label isRead _ =>
      rw [isRead] at read
      cases read
      rfl

variable {records : Map BucketId BucketRecord}

variable (Value) in
/-- The records are the listed ones of a scan. -/
def ListedRecords (roomId : RoomId) (db : Db)
    (records : Map BucketId BucketRecord) : Prop :=
  ∀ (bucketId : BucketId) (record : BucketRecord),
    records[bucketId]? = some record ↔
      Listed Value roomId db bucketId ∧
        (scannedRecords Value db)[bucketId]? = some record

variable (Value) in
/-- The disk that the loaders make of a database. -/
def loadedDisk (roomId : RoomId) (db : Db)
    (records : Map BucketId BucketRecord) : Disk Value where
  records := records
  fragments := fun bucketId => (scannedFragments db)[bucketId]?.getD ∅
  members := listedMembers Value roomId db

/-- What the loaders find makes a recovered room. -/
theorem recovered_loadFrom (wellFormed : WellFormed Value roomId db)
    (found : ListedRecords Value roomId db records) (room : RoomState Value) :
    Recovered roomId db
      (Store.loadFrom (loadedDisk Value roomId db records) room) := by
  have hasRecords := hasRecords_scanned wellFormed
  have members (bucketId : BucketId) : bucketId ∈ (Store.loadFrom
      (loadedDisk Value roomId db records) room).buckets ↔
        bucketId ∈ records := by
    simp [Store.loadFrom, loadedDisk]
  have recordOf {bucketId : BucketId} (member : bucketId ∈ records) :
      ∃ label, records[bucketId]? = some ⟨bucketId, label, 0⟩ := by
    obtain ⟨record, present⟩ := Option.isSome_iff_exists.mp
      (Std.ExtTreeMap.mem_iff_isSome_getElem?.mp member)
    have isRecord := scannedRecord_eq wellFormed
      ((found bucketId record).mp present).2
    exact ⟨record.label, isRecord ▸ present⟩
  constructor
  case loaded => rfl
  case buckets =>
    intro bucketId
    rw [members, ← mem_scannedRecords wellFormed]
    simp only [Std.ExtTreeMap.mem_iff_isSome_getElem?,
      Option.isSome_iff_exists]
    exact (exists_congr (found bucketId)).trans exists_and_left
  case records =>
    intro bucketId member
    obtain ⟨label, present⟩ := recordOf ((members bucketId).mp member)
    have isLabel : (Store.loadFrom (loadedDisk Value roomId db records)
        room).bucketLabels[bucketId]? = label := by
      simp [Store.loadFrom, loadedDisk, present]
    rw [isLabel, hasRecords.stored, ((found bucketId _).mp present).2]
    rfl
  case flags =>
    intro bucketId member
    obtain ⟨label, present⟩ := recordOf ((members bucketId).mp member)
    simp [Store.loadFrom, loadedDisk, present]
  case fragments =>
    intro bucketId member key
    have isRecord := (members bucketId).mp member
    have values := @value_loadFrom Value (loadedDisk Value roomId db records)
      records (listedMembers Value roomId db) room bucketId key
    rw [if_pos isRecord] at values
    rw [hasFragments_scanned wellFormed bucketId key]
    change ((loadedDisk Value roomId db records).fragments
      bucketId)[key]?.map Except.ok = _
    rw [← values, Option.map_map]
    rfl
  case versions =>
    intro bucketId key entry isEntry
    have isLoaded : ∃ value : Value, entry = ⟨value, 0⟩ := by
      obtain ⟨entries, inBuckets, isEntry⟩ := Option.bind_eq_some_iff.mp isEntry
      simp only [Store.loadFrom, Std.ExtTreeMap.getElem?_map,
        Option.map_eq_some_iff] at inBuckets
      obtain ⟨record, _, rfl⟩ := inBuckets
      simp only [RoomState.loadedEntries, Std.ExtTreeMap.getElem?_map,
        Option.map_eq_some_iff] at isEntry
      obtain ⟨value, _, rfl⟩ := isEntry
      exact ⟨value, rfl⟩
    obtain ⟨value, rfl⟩ := isLoaded
    rfl
  case members => exact hasMembers_listed wellFormed

end Recovered

/-! ## The next process -/

/-- The first load of a room in a process recovers it. -/
theorem loads_recovered {kernel : SyncpondKernel Value} {roomId : RoomId}
    (folders : HasFolders kernel.persistence)
    (wellFormed : WellFormed Value roomId (kernel.persistence.view roomId).db)
    (uncached : kernel.persistence.bucketCache.peek roomId = none)
    (registered : roomId ∈ kernel.state.rooms) :
    ∃ after room,
      (handleCommand .none (.loadRoom roomId)).run kernel =
        (.loadRoomResponse (.ok ()), after) ∧
      after.state.rooms[roomId]? = some room ∧
      Recovered roomId (kernel.persistence.view roomId).db room := by
  obtain ⟨room, present⟩ := Option.isSome_iff_exists.mp
    (Std.ExtTreeMap.mem_iff_isSome_getElem?.mp registered)
  obtain ⟨records, fragments, next, read, same, found⟩ :=
    exec_readRoomData wellFormed uncached
  have readUnder : (readRoomDataUnder .none roomId).exec
      (kernel.persistence.view roomId) = (.ok _, next) := read
  obtain ⟨after, ran, rooms, _⟩ :=
    run_loadRoomUnder folders present readUnder
  have identified (bucketId : BucketId) (record : BucketRecord)
      (isRecord : records[bucketId]? = some record) : record.id = bucketId :=
    (hasRecords_scanned wellFormed).identified bucketId record
      ((found bucketId record).mp isRecord).2
  have installed : room.loadData (bucketDefs records)
      (listedMembers Value roomId (kernel.persistence.view roomId).db)
      fragments = Store.loadFrom (loadedDisk Value roomId
        (kernel.persistence.view roomId).db records) room :=
    @loadData_eq_loadFrom Value (loadedDisk Value roomId
      (kernel.persistence.view roomId).db records) identified _ same room
  refine ⟨after, _, ran, rooms, ?_⟩
  dsimp only
  rw [installed]
  exact recovered_loadFrom wellFormed found room

/--
Wherever a run of processes ends, the next process finds every room of the data
directory, and its first `LoadRoom` succeeds and installs what the database of
the room holds.
-/
theorem crashed_rooms_recovered {life : Lifetime Value}
    (reached : Reached life) {roomId : RoomId}
    (stored : roomDir roomId ∈ life.kernel.persistence.dirs) :
    ∃ after room,
      (handleCommand .none (.loadRoom roomId)).run
          (life.restart .none).kernel =
        (.loadRoomResponse (.ok ()), after) ∧
      after.state.rooms[roomId]? = some room ∧
      Recovered roomId (life.kernel.persistence.view roomId).db room := by
  have housed := housed_of_reached reached
  have restarted : (life.restart .none).kernel =
      boot .none life.kernel.persistence.dirs := rfl
  have sameDb : ((life.restart .none).kernel.persistence.view roomId).db =
      (life.kernel.persistence.view roomId).db := by
    rw [restarted, view_boot]
    rfl
  have registered : roomId ∈ (life.restart .none).kernel.state.rooms := by
    rw [restarted, mem_rooms_boot, mem_startupRooms housed.named]
    exact ⟨rfl, stored, rfl, rfl⟩
  have uncached : (life.restart .none).kernel.persistence.bucketCache.peek
      roomId = none := by
    have fresh := congrArg RoomPersistence.bucketCache
      (@view_boot Value .none life.kernel.persistence.dirs roomId)
    exact (congrArg (Cache.peek · roomId) fresh).trans
      (Cache.peek_empty _ roomId)
  have folders : HasFolders (life.restart .none).kernel.persistence :=
    (housed_boot housed.named .none).opened
  have wellFormed : WellFormed Value roomId
      (life.kernel.persistence.view roomId).db :=
    (lasting_onDbs written_wellFormed).of_reached reached roomId
  have recovered := loads_recovered folders (sameDb ▸ wellFormed) uncached
    registered
  rwa [sameDb] at recovered

/-- The record that was put without its list is recovered as a bucket. -/
theorem crashed_rooms_recovered_beforeList :
    ∃ (life : Lifetime Json) (after : SyncpondKernel Json)
      (room : RoomState Json),
      (handleCommand .none (.loadRoom 1)).run (life.restart .none).kernel =
        (.loadRoomResponse (.ok ()), after) ∧
      after.state.rooms[(1 : RoomId)]? = some room ∧
      (5 : BucketId) ∈ room.buckets := by
  have ran : (crashBeforeList.foldlM Lifetime.step
      (.start : Lifetime Json)).map (fun life =>
        (decide (roomDir 1 ∈ life.kernel.persistence.dirs),
          (life.kernel.persistence.view 1).db.keys)) =
      some (true, ["bucket:5"]) := by
    decide +kernel
  obtain ⟨life, ran, facts⟩ := Option.map_eq_some_iff.mp ran
  simp only [Prod.mk.injEq, decide_eq_true_eq] at facts
  obtain ⟨stored, keys⟩ := facts
  have inDb (text : String) : text ∈ (life.kernel.persistence.view 1).db ↔
      text = "bucket:5" := by
    rw [← Std.ExtTreeMap.mem_keys, keys, List.mem_singleton]
  obtain ⟨after, room, loads, present, recovered⟩ :=
    crashed_rooms_recovered (follows_of_foldlM ran) stored
  refine ⟨life, after, room, loads, present, (recovered.buckets 5).mpr ⟨?_, ?_⟩⟩
  · intro ids isList
    have absent : (life.kernel.persistence.view 1).db[
        DbKey.bucketList.text 1]? = none :=
      Std.ExtTreeMap.getElem?_eq_none (by rw [inDb]; decide)
    simp [decoded, absent] at isList
  · exact (inDb _).mpr (by decide)

end Syncpond.Recovery
