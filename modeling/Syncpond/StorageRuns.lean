import Syncpond.KernelStore

/-!
# Runs of the storage

The helpers of all rooms share one data directory and one cache.  A run is a
sequence of their calls, one at a time and without failures, on any rooms, in
which entries of the cache are dropped at any time.

The content of a room is what its calls say: the records, fragments and members
that were persisted last and not removed since.  All three sources of the
bucket records answer with them, and the scan for fragments decodes what was
encoded, whatever text a key is.
-/

namespace Syncpond.StorageRuns

open Syncpond.Protocol
open Syncpond.Serde
open Syncpond.State
open Syncpond.Persistence
open Syncpond.Kernel
open Syncpond.Disks
open Syncpond.DiskOperations
open Syncpond.KernelStore
open Syncpond.Library.Maps
open Syncpond.Library.Lru
open Syncpond.Library.Runs
open Syncpond.Library.Text

/-! ## Calls -/

/-- A call of the helper of a room. -/
inductive StorageCall (Value : Type) where
  | persistBucket (bucketId : BucketId) (label : Option String)
      (flags : UInt32)
  | removeBucket (bucketId : BucketId)
  | loadBuckets
  | persistFragment (bucketId : BucketId) (key : String)
      (value : Option Value)
  | persistMember (member : String)
  | removeMember (member : String)

inductive StorageEvent (Value : Type) where
  | call (roomId : RoomId) (call : StorageCall Value)
  /-- The cached records of a room are dropped. -/
  | evict (roomId : RoomId)

variable {Value : Type}

namespace StorageCall

/-- What a call does to the records of its room. -/
def records (records : Map BucketId BucketRecord) :
    StorageCall Value → Map BucketId BucketRecord
  | .persistBucket bucketId label flags =>
      records.insert bucketId ⟨bucketId, label, flags⟩
  | .removeBucket bucketId => records.erase bucketId
  | _ => records

/-- What a call does to the fragments of its room. -/
def fragments (fragments : BucketId → Map String Value) :
    StorageCall Value → BucketId → Map String Value
  | .persistFragment bucketId key value =>
      putFragment fragments bucketId key value
  | _ => fragments

/-- What a call does to the members of its room. -/
def members (members : FinSet String) : StorageCall Value → FinSet String
  | .persistMember member =>
      if (trim member).isEmpty then members
      else members.insert (trim member)
  | .removeMember member => members.erase member
  | _ => members

/-- What a call does to the disk of its room. -/
def change (disk : Disk Value) (call : StorageCall Value) : Disk Value where
  records := call.records disk.records
  fragments := call.fragments disk.fragments
  members := call.members disk.members

/-- The operation of a call. -/
def operation [SerdeJson Value] (faults : Faults) (roomId : RoomId) :
    StorageCall Value → Storage Unit
  | .persistBucket bucketId label flags =>
      Persistence.persistBucket faults Value roomId bucketId label flags
  | .removeBucket bucketId =>
      Persistence.removeBucket faults Value roomId bucketId
  | .loadBuckets => do
      let _ ← Persistence.loadBuckets faults Value roomId
  | .persistFragment bucketId key value =>
      Persistence.persistFragment faults (decimal bucketId) key value
  | .persistMember member =>
      Persistence.persistMember faults Value roomId member
  | .removeMember member =>
      Persistence.removeMember faults Value roomId member

end StorageCall

/-- The manager after a call on a room, whose database is opened first. -/
def callRoom [SerdeJson Value] (faults : Faults)
    (manager : PersistenceManager) (roomId : RoomId)
    (call : StorageCall Value) : Except String Unit × PersistenceManager :=
  let opened := (manager.openRoomDb .none roomId).1
  let (result, after) :=
    (call.operation faults roomId).exec (opened.view roomId)
  (result, opened.writeBack roomId after)

/-- The manager after an event without failures. -/
def step [SerdeJson Value] (manager : PersistenceManager) :
    StorageEvent Value → PersistenceManager
  | .call roomId call => (callRoom .none manager roomId call).2
  | .evict roomId =>
      { manager with bucketCache := manager.bucketCache.evict roomId }

/-- The manager after a run from an empty data directory. -/
def run [SerdeJson Value] (events : List (StorageEvent Value)) :
    PersistenceManager :=
  events.foldl step (.new ∅)

/-! ## What the calls of a room say -/

/-- The calls on a room, in order. -/
def callsOn (roomId : RoomId) (events : List (StorageEvent Value)) :
    List (StorageCall Value) :=
  events.filterMap fun event =>
    match event with
    | .call other call => if other = roomId then some call else none
    | .evict _ => none

/-- The records that were persisted last and not removed since. -/
def lastRecords (roomId : RoomId) (events : List (StorageEvent Value)) :
    Map BucketId BucketRecord :=
  (callsOn roomId events).foldl StorageCall.records ∅

/-- The fragments that were persisted last and not removed since. -/
def lastFragments (roomId : RoomId) (events : List (StorageEvent Value)) :
    BucketId → Map String Value :=
  (callsOn roomId events).foldl StorageCall.fragments fun _ => ∅

/-- The members that were persisted and not removed since. -/
def lastMembers (roomId : RoomId) (events : List (StorageEvent Value)) :
    FinSet String :=
  (callsOn roomId events).foldl StorageCall.members ∅

/-- The disks after an event. -/
def stepDisks (disks : Disks Value) : StorageEvent Value → Disks Value
  | .call roomId call => changeDisk disks roomId fun disk => call.change disk
  | .evict _ => disks

theorem foldl_change (calls : List (StorageCall Value)) (disk : Disk Value) :
    calls.foldl StorageCall.change disk =
      ⟨calls.foldl StorageCall.records disk.records,
        calls.foldl StorageCall.fragments disk.fragments,
        calls.foldl StorageCall.members disk.members⟩ := by
  induction calls generalizing disk with
  | nil => rfl
  | cons call rest ih => exact ih _

theorem foldl_stepDisks (events : List (StorageEvent Value))
    (disks : Disks Value) (roomId : RoomId) :
    events.foldl stepDisks disks roomId =
      (callsOn roomId events).foldl StorageCall.change (disks roomId) := by
  induction events generalizing disks with
  | nil => rfl
  | cons event rest ih =>
      rw [List.foldl_cons, ih]
      cases event with
      | evict => rfl
      | call other call =>
          by_cases same : other = roomId
          · subst same
            simp [stepDisks, callsOn]
          · simp [stepDisks, callsOn, same,
              changeDisk_of_ne disks (Ne.symm same)]

/-- The disk of a room after a run. -/
theorem disk_run (events : List (StorageEvent Value)) (roomId : RoomId) :
    events.foldl stepDisks (fun _ => .empty) roomId =
      ⟨lastRecords roomId events, lastFragments roomId events,
        lastMembers roomId events⟩ := by
  rw [foldl_stepDisks, foldl_change]
  rfl

/-! ## The run implements the disks -/

section Implements

variable [SerdeJson Value]

/-- Alone and without failures, a call does what it says. -/
theorem implements_operation (roomId : RoomId) (call : StorageCall Value) :
    Implements Value roomId (call.operation .none roomId) (fun _ _ => True)
      fun disk => call.change disk := by
  cases call with
  | persistBucket bucketId label flags =>
      exact implements_persistBucket roomId bucketId label flags
  | removeBucket bucketId => exact implements_removeBucket roomId bucketId
  | loadBuckets =>
      intro room disks holds
      obtain ⟨_, after, loaded, _, result⟩ :=
        implements_loadBuckets roomId room disks holds
      refine ⟨(), after, ?_, trivial, result⟩
      simp only [StorageCall.operation, Storage.exec_bind, loaded,
        Storage.exec_pure]
  | persistFragment bucketId key value =>
      exact implements_persistFragment roomId bucketId key value
  | persistMember member =>
      intro room disks holds
      obtain ⟨_, after, persisted, _, result⟩ :=
        implements_persistMember roomId member room disks holds
      refine ⟨(), after, persisted, trivial, ?_⟩
      convert result using 3
      rename_i disk
      by_cases blank : (trim member).isEmpty
      · simp [StorageCall.change, StorageCall.records, StorageCall.fragments,
          StorageCall.members, blank]
      · simp [StorageCall.change, StorageCall.records, StorageCall.fragments,
          StorageCall.members, blank]
  | removeMember member => exact implements_removeMember roomId member

/-- The helpers of all rooms stand for the disks. -/
def Stands (manager : PersistenceManager) (disks : Disks Value) : Prop :=
  ∀ roomId, Holds roomId (manager.view roomId) disks

theorem stands_new :
    Stands (.new ∅) (fun _ => .empty : Disks Value) := by
  intro roomId
  constructor
  · simpa [PersistenceManager.new, PersistenceManager.view] using
      represents_empty roomId
  · exact Cache.agrees_empty _ _

variable {manager : PersistenceManager} {disks : Disks Value}

/-- A call without failures succeeds, and stands for the change of the disk. -/
theorem Stands.call (stands : Stands manager disks) (roomId : RoomId)
    (call : StorageCall Value) :
    (callRoom .none manager roomId call).1 = .ok () ∧
      Stands (callRoom .none manager roomId call).2
        (stepDisks disks (.call roomId call)) := by
  have holds := stands roomId
  rw [← PersistenceManager.view_openRoomDb manager roomId roomId] at holds
  obtain ⟨_, after, ran, _, result⟩ :=
    implements_operation roomId call _ disks holds
  rw [callRoom, ran]
  refine ⟨rfl, fun other => ?_⟩
  rw [PersistenceManager.view_writeBack]
  refine ⟨?_, result.cache⟩
  split
  · next same =>
    subst same
    exact result.represents
  · next different =>
    rw [PersistenceManager.view_openRoomDb, stepDisks,
      changeDisk_of_ne disks (Ne.symm different)]
    exact (stands other).represents

theorem Stands.step (stands : Stands manager disks)
    (event : StorageEvent Value) :
    Stands (step manager event) (stepDisks disks event) := by
  cases event with
  | call roomId call => exact (stands.call roomId call).2
  | evict roomId =>
      intro other
      exact ⟨(stands other).represents, (stands other).cache.evict roomId⟩

theorem Stands.foldl (stands : Stands manager disks)
    (events : List (StorageEvent Value)) :
    Stands (events.foldl StorageRuns.step manager)
      (events.foldl stepDisks disks) := by
  induction events generalizing manager disks with
  | nil => exact stands
  | cons event rest ih => exact ih (stands.step event)

/-- The manager after a run stands for what the calls say. -/
theorem stands_run (events : List (StorageEvent Value)) :
    Stands (run events) (events.foldl stepDisks fun _ => .empty) :=
  stands_new.foldl events

/-! ### A kernel on the storage of a run -/

variable {app : AppState Value} {notifications : Notifications Value}
variable {opened : FinSet RoomId}

theorem refines_step
    (refines : Refines ⟨app, manager, notifications⟩ ⟨app, opened, disks⟩)
    (event : StorageEvent Value) :
    ∃ opened, Refines ⟨app, StorageRuns.step manager event, notifications⟩
      ⟨app, opened, stepDisks disks event⟩ := by
  cases event with
  | evict roomId =>
      exact ⟨opened, {
        state := rfl
        dbs := refines.dbs
        dirs := refines.dirs
        represents := refines.represents
        closed := refines.closed
        cache := refines.cache.evict roomId }⟩
  | call roomId call =>
      obtain ⟨reopened, result, isOpen⟩ := refines.openRoomDb roomId
      have member : roomId ∈ opened.insert roomId :=
        mem_set_insert.mpr (Or.inl rfl)
      obtain ⟨_, _, _, after⟩ :=
        isOpen.onRoom member (implements_operation roomId call)
      rw [run_onRoom _ (isOpen.dbs ▸ member) (isOpen.mem_dirs.mpr member)]
        at after
      refine ⟨opened.insert roomId, ?_⟩
      simp only [StorageRuns.step, callRoom, result]
      exact after

/-- Whatever is in memory, a kernel implements the disks of a run. -/
theorem refines_run (events : List (StorageEvent Value))
    (app : AppState Value) (notifications : Notifications Value) :
    ∃ opened, Refines ⟨app, run events, notifications⟩
      ⟨app, opened, events.foldl stepDisks fun _ => .empty⟩ := by
  have initial : Refines ⟨app, .new ∅, notifications⟩
      ⟨app, ∅, fun _ => .empty⟩ := {
    state := rfl
    dbs := rfl
    dirs := by simp [PersistenceManager.new]
    represents := by simp [PersistenceManager.new]
    closed := fun _ _ => rfl
    cache := Cache.agrees_empty _ _ }
  suffices general : ∀ (manager : PersistenceManager)
      (opened : FinSet RoomId) (disks : Disks Value),
      Refines ⟨app, manager, notifications⟩ ⟨app, opened, disks⟩ →
      ∃ opened, Refines
        ⟨app, events.foldl StorageRuns.step manager, notifications⟩
        ⟨app, opened, events.foldl stepDisks disks⟩ from
    general _ _ _ initial
  induction events with
  | nil => exact fun _ opened _ refines => ⟨opened, refines⟩
  | cons event rest ih =>
      intro manager opened disks refines
      obtain ⟨_, after⟩ := refines_step refines event
      exact ih _ _ _ after

end Implements

/-! ## The sources of the bucket records -/

section Records

variable [SerdeJson Value]

variable (Value) in
/--
What the three sources of `load_buckets` have to say about a room: the cached
map, the records under the ids of the list, and the records of a full scan.
-/
structure SourcesAgree (manager : PersistenceManager) (roomId : RoomId)
    (records : Map BucketId BucketRecord) : Prop where
  cached : ∀ buckets, manager.bucketCache.peek roomId = some buckets →
    buckets = records
  listed : ∀ ids,
    readBucketIds Value
      (.ok (manager.view roomId).db[bucketListKey roomId]?) = some ids →
    ((ids.foldlM (readListed .none Value) ∅).exec (manager.view roomId)).1 =
      .ok records
  scanned : ((manager.view roomId).db.toList.map Except.ok).foldl
    (gatherStep putRecord (collectRecord Value)) ∅ = records

/-- A manager that stands for disks answers from each source alike. -/
theorem Stands.sourcesAgree {manager : PersistenceManager}
    {disks : Disks Value} (stands : Stands manager disks) (roomId : RoomId) :
    SourcesAgree Value manager roomId (disks roomId).records where
  cached buckets found := (stands roomId).cache roomId buckets found
  listed ids read := by
    have represents := (stands roomId).represents
    rw [exec_foldlM_readListed]
    refine congrArg Except.ok
      (foldl_listedRecord roomId represents.records ?_)
    have keyText : bucketListKey roomId = DbKey.bucketList.text roomId := rfl
    rw [keyText] at read
    rcases represents.bucketList with ⟨absent, _⟩ | ⟨found, isList, listed⟩
    · rw [decoded, Option.map_eq_none_iff] at absent
      rw [absent] at read
      cases read
    · obtain ⟨bytes, present, result⟩ := Option.map_eq_some_iff.mp isList
      rw [present, readBucketIds, result] at read
      cases read
      exact fun bucketId => (listed bucketId).mpr
  scanned := foldl_collectRecord roomId (stands roomId).represents.onlyDbKeys
    (stands roomId).represents.records

/--
After every run, `load_buckets` returns the records of a room that were
persisted last and not removed since, and so does each of its sources.
-/
theorem loadBuckets_eq_lastRecords (events : List (StorageEvent Value))
    (roomId : RoomId) :
    ((loadBuckets .none Value roomId).exec ((run events).view roomId)).1 =
        .ok (lastRecords roomId events) ∧
      SourcesAgree Value (run events) roomId (lastRecords roomId events) := by
  have stands := stands_run events
  have disk := disk_run events roomId
  obtain ⟨_, _, loaded, rfl, _⟩ :=
    implements_loadBuckets roomId _ _ (stands roomId)
  rw [disk] at loaded
  have agree := stands.sourcesAgree roomId
  rw [disk] at agree
  exact ⟨congrArg Prod.fst loaded, agree⟩

end Records

/-! ## Fragments and members -/

section Fragments

variable [SerdeJson Value]

/-- The event is no write of a fragment. -/
def noFragment : StorageEvent Value → Bool
  | .call _ (.persistFragment _ _ _) => false
  | _ => true

omit [SerdeJson Value] in
/-- Writes of fragments change no members. -/
theorem lastMembers_filter (roomId : RoomId)
    (events : List (StorageEvent Value)) :
    lastMembers roomId (events.filter noFragment) =
      lastMembers roomId events := by
  simp only [lastMembers, callsOn, List.foldl_filterMap, List.foldl_filter]
  congr 1
  funext members event
  cases event with
  | evict other => rfl
  | call other call =>
      by_cases same : other = roomId
      · cases call <;> simp [same, noFragment, StorageCall.members]
      · simp [same]

/-- No bucket of a scan is empty. -/
theorem exists_mem_of_scan (entries : List (String × ByteArray)) :
    ∀ (bucketId : BucketId) (inner : Map String Value),
      (entries.foldl (gatherStep Persistence.putFragment collectFragment)
        ∅)[bucketId]? = some inner → ∃ key, key ∈ inner := by
  refine foldl_invariant
    (fun scanned : Map BucketId (Map String Value) =>
      ∀ bucketId inner, scanned[bucketId]? = some inner →
        ∃ key, key ∈ inner) ?_ entries (by simp)
  intro scanned entry filled bucketId inner found
  unfold gatherStep at found
  split at found
  · next target value _ =>
    rw [Persistence.putFragment, lookup_insertNested] at found
    split at found
    · cases found
      exact ⟨target.2, mem_map_insert.mpr (Or.inl rfl)⟩
    · exact filled bucketId inner found
  · exact filled bucketId inner found

/--
After every run, `load_all_fragments` returns the fragments that were persisted
last and not removed since, in maps that are not empty, and `load_members`
returns the members, which the writes of fragments do not concern.
-/
theorem loadAllFragments_eq_lastFragments (events : List (StorageEvent Value))
    (roomId : RoomId) :
    (∃ loaded : Map BucketId (Map String Value),
      ((loadAllFragments .none).exec ((run events).view roomId)).1 =
        .ok loaded ∧
      (∀ bucketId key, getNested loaded bucketId key =
        (lastFragments roomId events bucketId)[key]?) ∧
      ∀ (bucketId : BucketId) (inner : Map String Value),
        loaded[bucketId]? = some inner → ∃ key, key ∈ inner) ∧
    ((loadMembers .none Value roomId).exec ((run events).view roomId)).1 =
      .ok (lastMembers roomId events) ∧
    ((loadMembers .none Value roomId).exec
        ((run (events.filter noFragment)).view roomId)).1 =
      ((loadMembers .none Value roomId).exec ((run events).view roomId)).1 := by
  have members (events : List (StorageEvent Value)) :
      ((loadMembers .none Value roomId).exec ((run events).view roomId)).1 =
        .ok (lastMembers roomId events) := by
    obtain ⟨_, _, loaded, rfl, _⟩ :=
      implements_loadMembers roomId _ _ (stands_run events roomId)
    rw [disk_run] at loaded
    exact congrArg Prod.fst loaded
  refine ⟨?_, members events, ?_⟩
  · obtain ⟨loaded, _, ran, returns, _⟩ :=
      implements_loadAllFragments roomId _ _ (stands_run events roomId)
    refine ⟨loaded, congrArg Prod.fst ran, ?_, ?_⟩
    · intro bucketId key
      rw [← lookup_getD_empty, returns, disk_run]
    · have isScan : loaded = ((run events).view roomId).db.toList.foldl
          (gatherStep Persistence.putFragment collectFragment) ∅ := by
        simp only [loadAllFragments, Storage.exec_bind, exec_iterator,
          allItems_map_ok] at ran
        cases ran
        rfl
      rw [isScan]
      exact exists_mem_of_scan _
  · rw [members, members, lastMembers_filter]

end Fragments

end Syncpond.StorageRuns
