import Syncpond.DiskOperations
import Syncpond.Folders

/-!
# The kernel over disks

A `Store` is the kernel as its commands see it when no storage operation
fails: the state in memory, the rooms that have a database, and the disk of
each room.  An event changes a store in one step.  `Refines` relates a kernel
to the store it implements, and every event, handled alone, keeps the relation.
-/

namespace Syncpond.KernelStore

open Syncpond.Protocol
open Syncpond.Serde
open Syncpond.State
open Syncpond.Persistence
open Syncpond.Kernel
open Syncpond.Disks
open Syncpond.DiskOperations
open Syncpond.Folders
open Syncpond.Library.Maps
open Syncpond.Library.Programs
open Syncpond.Library.Runs
open Syncpond.Library.Text

variable {Value : Type} [SerdeJson Value]

/-! ## Stores -/

/-- The state in memory and what is persisted. -/
structure Store (Value : Type) where
  state : AppState Value
  /-- The rooms that have a database, all of them open. -/
  opened : FinSet RoomId
  disks : Disks Value

namespace Store

/-- Create the database of a room if it has none. -/
def openRoom (store : Store Value) (roomId : RoomId) : Store Value :=
  { store with opened := store.opened.insert roomId }

/-- Change the disk of a room, which gets a database. -/
def persist (store : Store Value) (roomId : RoomId)
    (change : Disk Value → Disk Value) : Store Value :=
  { store.openRoom roomId with disks := changeDisk store.disks roomId change }

/-- Change a loaded room in memory and on disk. -/
def mutate (store : Store Value) (roomId : RoomId)
    (effect : RoomState Value → RoomState Value)
    (change : Disk Value → Disk Value) : Store Value :=
  match store.state.rooms[roomId]? with
  | none => store
  | some room =>
      if !room.loaded then store
      else
        { store with
          state := { store.state with
            rooms := store.state.rooms.insert roomId (effect room) } }.persist
          roomId change

/-- Create a room, with a database, and label it. -/
def newRoom (store : Store Value) (name : String) : Store Value :=
  let (created, roomId) := store.state.createRoom
  let labelled :=
    if (trim name).isEmpty then created
    else
      match created.setRoomLabel roomId name with
      | .ok app => app
      | .error _ => created
  { store with state := labelled }.openRoom roomId

/-- Write a fragment in memory and on disk. -/
def writeFragment (store : Store Value) (roomId : RoomId)
    (bucketId : BucketId) (key : String) (parsed : Value) : Store Value :=
  if !store.state.isRoomLoaded roomId then store
  else
    let committed :=
      match store.state.setFragment roomId bucketId key parsed with
      | .ok app => app
      | .error _ => store.state
    { store with state := committed }.persist roomId fun disk =>
      { disk with
        fragments :=
          putFragment disk.fragments bucketId key (persistedValue parsed) }

/-- A room whose data is what its disk says. -/
def loadFrom (disk : Disk Value) (room : RoomState Value) :
    RoomState Value :=
  { room with
    buckets := disk.records.map fun bucketId _ =>
      RoomState.loadedEntries (disk.fragments bucketId)
    bucketLabels := disk.records.filterMap fun _ record => record.label
    bucketFlags := disk.records.map fun _ record => record.flags
    members := disk.members
    loaded := true }

/-- Load a room from its disk. -/
def loadRoom (store : Store Value) (roomId : RoomId) : Store Value :=
  let opened := store.openRoom roomId
  match store.state.rooms[roomId]? with
  | none => opened
  | some room =>
      { opened with
        state := { store.state with
          rooms := store.state.rooms.insert roomId
            (loadFrom (store.disks roomId) room) } }

end Store

/-! ## What `load_room_data` makes of the data on a disk -/

section LoadData

variable (records : Map BucketId BucketRecord)

theorem mem_bucketDefs
    (identified : ∀ (bucketId : BucketId) (record : BucketRecord),
      records[bucketId]? = some record → record.id = bucketId)
    {bucketId : BucketId} {label : Option String} {flags : UInt32} :
    (bucketId, label, flags) ∈ bucketDefs records ↔
      records[bucketId]? = some ⟨bucketId, label, flags⟩ := by
  simp only [bucketDefs, List.mem_map, Prod.exists,
    Std.ExtTreeMap.mem_toList_iff_getElem?_eq_some]
  constructor
  · rintro ⟨id, record, found, equal⟩
    have same := identified id record found
    subst same
    cases equal
    exact found
  · intro found
    exact ⟨bucketId, _, found, rfl⟩

/-- Collect what is selected from bucket definitions, by bucket id. -/
def collectDefs {Result : Type}
    (select : BucketId × Option String × UInt32 → Option Result)
    (start : Map BucketId Result)
    (defs : List (BucketId × Option String × UInt32)) :
    Map BucketId Result :=
  defs.foldl
    (gatherStep (fun out id result => out.insert id result)
      fun definition => (select definition).map (definition.1, ·))
    start

omit [SerdeJson Value] in
/-- The three maps of a room are built independently of each other. -/
theorem foldl_installBucket
    (defs : List (BucketId × Option String × UInt32))
    (fragments : Map BucketId (Map String Value)) (room : RoomState Value) :
    defs.foldl (RoomState.installBucket fragments) room =
      { room with
        buckets := collectDefs
          (fun definition => some
            (RoomState.loadedEntries (fragments[definition.1]?.getD ∅)))
          room.buckets defs
        bucketFlags := collectDefs (fun definition => some definition.2.2)
          room.bucketFlags defs
        bucketLabels := collectDefs (fun definition => definition.2.1)
          room.bucketLabels defs } := by
  induction defs generalizing room with
  | nil => rfl
  | cons definition rest ih =>
      obtain ⟨id, label, flags⟩ := definition
      rw [List.foldl_cons, ih]
      cases label <;> rfl

theorem collectDefs_bucketDefs {Result : Type}
    (identified : ∀ (bucketId : BucketId) (record : BucketRecord),
      records[bucketId]? = some record → record.id = bucketId)
    (select : BucketId × Option String × UInt32 → Option Result) :
    collectDefs select ∅ (bucketDefs records) =
      records.filterMap fun bucketId record =>
        select (bucketId, record.label, record.flags) := by
  apply Std.ExtTreeMap.ext_getElem?
  intro bucketId
  have collected := get_foldl_of_iff
    (fun (out : Map BucketId Result) target => out[target]?)
    (fun out target result other => lookup_insert out target other result)
    (fun definition => (select definition).map (definition.1, ·))
    (bucketDefs records) ∅ bucketId
    (records[bucketId]?.bind fun record =>
      select (bucketId, record.label, record.flags))
    (by
      intro result
      simp only [Prod.exists, mem_bucketDefs records identified,
        Option.map_eq_some_iff, Option.bind_eq_some_iff, Prod.mk.injEq]
      constructor
      · rintro ⟨id, label, flags, found, _, selected, rfl, rfl⟩
        exact ⟨_, found, selected⟩
      · rintro ⟨record, found, selected⟩
        have same := identified bucketId record found
        subst same
        exact ⟨_, _, _, found, _, selected, rfl, rfl⟩)
  rw [Std.ExtTreeMap.getElem?_filterMap']
  rw [Std.ExtTreeMap.getElem?_empty] at collected
  exact collected.trans (Option.elim_none_some id _)

omit [SerdeJson Value] in
/-- Installing the data of a disk gives the room that the disk says. -/
theorem loadData_eq_loadFrom {disk : Disk Value}
    (identified : ∀ (bucketId : BucketId) (record : BucketRecord),
      disk.records[bucketId]? = some record → record.id = bucketId)
    {fragments : Map BucketId (Map String Value)}
    (loaded : ∀ bucketId,
      fragments[bucketId]?.getD ∅ = disk.fragments bucketId)
    (room : RoomState Value) :
    room.loadData (bucketDefs disk.records) disk.members fragments =
      Store.loadFrom disk room := by
  have fragmentsOf (bucketId : BucketId) :
      RoomState.loadedEntries (fragments[bucketId]?.getD ∅) =
        RoomState.loadedEntries (disk.fragments bucketId) := by
    rw [loaded bucketId]
  unfold RoomState.loadData Store.loadFrom
  simp only [foldl_installBucket, collectDefs_bucketDefs _ identified,
    fragmentsOf, RoomState.mk.injEq, true_and, and_true]
  constructor
  · apply Std.ExtTreeMap.ext_getElem?
    intro bucketId
    simp [Option.map_eq_bind]
  · apply Std.ExtTreeMap.ext_getElem?
    intro bucketId
    simp [Option.map_eq_bind]

end LoadData

/-! ## Running an operation on the database of a room -/

omit [SerdeJson Value] in
/-- Alone, an operation on an open room runs on what its helper works on. -/
theorem run_onRoom {Result : Type} (kernel : SyncpondKernel Value)
    {roomId : RoomId} (opened : roomId ∈ kernel.persistence.dbs)
    (present : roomDir roomId ∈ kernel.persistence.dirs)
    (operation : Storage Result) :
    (Task.onRoom roomId operation).run kernel =
      (some (operation.exec (kernel.persistence.view roomId)).1,
        { kernel with
          persistence := kernel.persistence.writeBack roomId
            (operation.exec (kernel.persistence.view roomId)).2 }) := by
  unfold Task.onRoom
  rw [Program.run_bind, Program.run_read]
  rw [if_pos (show kernel.persistence.dbs.contains roomId from opened)]
  rw [Program.run_map, Program.run_zoom
    (fun kernel : SyncpondKernel Value =>
      roomDir roomId ∈ kernel.persistence.dirs) ?_ ?_ ?_ ?_ _ present]
  · rfl
  · intro kernel valid
    simp only [PersistenceManager.writeBack, PersistenceManager.view,
      insert_getD_self valid]
  · intro kernel room
    exact PersistenceManager.view_writeBack_self kernel.persistence roomId room
  · intro kernel room other
    simp only [PersistenceManager.writeBack, insert_insert_same]
  · intro kernel room
    exact mem_map_insert.mpr (Or.inl rfl)

/-! ### Reading the data of a room -/

/-- What `LoadRoom` reads is what the disk says. -/
structure ReadsDisk (disk : Disk Value) (data : RoomData Value) : Prop where
  bucketDefs : data.bucketDefs = bucketDefs disk.records
  members : data.members = disk.members
  fragments : ∀ bucketId,
    data.fragments[bucketId]?.getD ∅ = disk.fragments bucketId

theorem implements_readRoomData (roomId : RoomId) :
    Implements Value roomId (readRoomData .none roomId) ReadsDisk id := by
  intro room disks holds
  obtain ⟨buckets, first, bucketsRead, sameBuckets, holds⟩ :=
    implements_loadBuckets roomId room disks holds
  rw [changeDisk_id] at holds
  obtain ⟨members, second, membersRead, sameMembers, holds⟩ :=
    implements_loadMembers roomId first disks holds
  rw [changeDisk_id] at holds
  obtain ⟨fragments, third, fragmentsRead, sameFragments, holds⟩ :=
    implements_loadAllFragments roomId second disks holds
  refine ⟨⟨bucketDefs buckets, members, fragments⟩, third, ?_, ?_, holds⟩
  · simp only [readRoomData, Storage.exec_bind, Storage.exec_attempt,
      bucketsRead, membersRead, fragmentsRead, Storage.exec_pure]
    rfl
  · exact ⟨congrArg bucketDefs sameBuckets, sameMembers, sameFragments⟩

/-! ## The relation between kernels and stores -/

/-- A kernel implements a store. -/
structure Refines (kernel : SyncpondKernel Value) (store : Store Value) :
    Prop where
  state : kernel.state = store.state
  dbs : kernel.persistence.dbs = store.opened
  dirs : ∀ name, name ∈ kernel.persistence.dirs ↔
    ∃ roomId ∈ store.opened, name = roomDir roomId
  represents : ∀ (roomId : RoomId) (db : Db),
    kernel.persistence.dirs[roomDir roomId]? = some db →
      Represents roomId db (store.disks roomId)
  closed : ∀ roomId, roomId ∉ store.opened → store.disks roomId = .empty
  cache : CacheAgrees kernel.persistence.bucketCache store.disks

namespace Refines

variable {kernel : SyncpondKernel Value} {store : Store Value}
variable (refines : Refines kernel store)

include refines

theorem mem_dirs {roomId : RoomId} :
    roomDir roomId ∈ kernel.persistence.dirs ↔ roomId ∈ store.opened := by
  rw [refines.dirs]
  constructor
  · rintro ⟨other, opened, equal⟩
    exact roomDir_inj.mp equal ▸ opened
  · intro opened
    exact ⟨roomId, opened, rfl⟩

/-- What the helper of a room works on stands for the disks. -/
theorem holds (roomId : RoomId) :
    Holds roomId (kernel.persistence.view roomId) store.disks where
  represents := by
    unfold PersistenceManager.view
    cases present : kernel.persistence.dirs[roomDir roomId]? with
    | some db => exact refines.represents roomId db present
    | none =>
        have closed : roomId ∉ store.opened := by
          rw [← refines.mem_dirs, Std.ExtTreeMap.mem_iff_isSome_getElem?,
            present]
          simp
        rw [refines.closed roomId closed]
        exact represents_empty roomId
  cache := refines.cache

/-- Only the state in memory changes. -/
theorem setState (state : AppState Value) :
    Refines { kernel with state := state } { store with state := state } where
  state := rfl
  dbs := refines.dbs
  dirs := refines.dirs
  represents := refines.represents
  closed := refines.closed
  cache := refines.cache

/-- The notification channel does not matter. -/
theorem setNotifications (notifications : Notifications Value) :
    Refines { kernel with notifications := notifications } store where
  state := refines.state
  dbs := refines.dbs
  dirs := refines.dirs
  represents := refines.represents
  closed := refines.closed
  cache := refines.cache

/-- Opening the database of a room succeeds. -/
theorem openRoomDb (roomId : RoomId) :
    ∃ opened, kernel.persistence.openRoomDb .none roomId = (opened, .ok ()) ∧
      Refines { kernel with persistence := opened }
        (store.openRoom roomId) := by
  unfold PersistenceManager.openRoomDb
  by_cases open_ : kernel.persistence.dbs.contains roomId
  · refine ⟨kernel.persistence, by rw [if_pos open_], ?_⟩
    have member : roomId ∈ store.opened := by
      rw [← refines.dbs]
      exact open_
    rw [Store.openRoom, set_insert_eq_self member]
    exact refines
  · refine ⟨_, by rw [if_neg open_]; rfl, ?_⟩
    have absent : roomDir roomId ∉ kernel.persistence.dirs := by
      rw [refines.mem_dirs, ← refines.dbs]
      exact open_
    have closed : roomId ∉ store.opened := by
      rwa [refines.mem_dirs] at absent
    constructor
    · exact refines.state
    · simp [refines.dbs, Store.openRoom]
    · intro name
      simp only [mem_map_insertIfNew, refines.dirs, Store.openRoom,
        mem_set_insert]
      constructor
      · rintro (rfl | ⟨other, member, rfl⟩)
        · exact ⟨roomId, Or.inl rfl, rfl⟩
        · exact ⟨other, Or.inr member, rfl⟩
      · rintro ⟨other, rfl | member, rfl⟩
        · exact Or.inl rfl
        · exact Or.inr ⟨other, member, rfl⟩
    · intro other db present
      simp only [lookup_insertIfNew] at present
      split at present
      · next created =>
        have same := roomDir_inj.mp created.1
        subst same
        cases present
        rw [Store.openRoom, refines.closed roomId closed]
        exact represents_empty roomId
      · exact refines.represents other db present
    · intro other stillClosed
      refine refines.closed other fun member => stillClosed ?_
      exact mem_set_insert.mpr (Or.inr member)
    · exact refines.cache

/-- An operation on an open room changes its disk. -/
theorem onRoom {roomId : RoomId} (opened : roomId ∈ store.opened)
    {Result : Type} {operation : Storage Result}
    {returns : Disk Value → Result → Prop}
    {change : Disk Value → Disk Value}
    (implements : Implements Value roomId operation returns change) :
    ∃ result, ((Task.onRoom roomId operation).run kernel).1 =
        some (.ok result) ∧
      returns (store.disks roomId) result ∧
      Refines ((Task.onRoom roomId operation).run kernel).2
        { store with disks := changeDisk store.disks roomId change } := by
  obtain ⟨result, after, executed, returned, holds⟩ :=
    implements _ _ (refines.holds roomId)
  have run := run_onRoom kernel (refines.dbs ▸ opened)
    (refines.mem_dirs.mpr opened) operation
  rw [executed] at run
  refine ⟨result, by rw [run], returned, ?_⟩
  rw [run]
  constructor
  · exact refines.state
  · exact refines.dbs
  · intro name
    simp only [PersistenceManager.writeBack, mem_map_insert, refines.dirs]
    constructor
    · rintro (rfl | other)
      · exact ⟨roomId, opened, rfl⟩
      · exact other
    · exact Or.inr
  · intro other db present
    simp only [PersistenceManager.writeBack, lookup_insert] at present
    split at present
    · next same =>
      cases roomDir_inj.mp same
      cases present
      exact holds.represents
    · next different =>
      have other_ne : other ≠ roomId := by
        rintro rfl
        exact different rfl
      have same := changeDisk_of_ne store.disks other_ne change
      exact (congrArg (Represents other db) same).mpr
        (refines.represents other db present)
  · intro other stillClosed
    have other_ne : other ≠ roomId := by
      rintro rfl
      exact stillClosed opened
    have same := changeDisk_of_ne store.disks other_ne change
    exact same.trans (refines.closed other stillClosed)
  · exact holds.cache

/-- Opening the database of a room and changing its disk. -/
theorem persist (roomId : RoomId) {operation : Storage Unit}
    {returns : Disk Value → Unit → Prop}
    {change : Disk Value → Disk Value}
    (implements : Implements Value roomId operation returns change) :
    Refines ((Task.persist .none roomId operation).run kernel).2
      (store.persist roomId change) := by
  obtain ⟨opened, result, reopened⟩ := refines.openRoomDb roomId
  have member : roomId ∈ (store.openRoom roomId).opened :=
    mem_set_insert.mpr (Or.inl rfl)
  obtain ⟨_, _, _, persisted⟩ := reopened.onRoom member implements
  simp only [Task.persist, Task.openRoomDb, Program.run_bind,
    Program.run_atomic, result]
  exact persisted

/-- `NewBucket`, `DeleteBucket`, `NewMember` and `DeleteMember`. -/
theorem mutateAndPersist (roomId : RoomId)
    (effect : RoomState Value → RoomState Value) {operation : Storage Unit}
    {returns : Disk Value → Unit → Prop}
    {change : Disk Value → Disk Value}
    (implements : Implements Value roomId operation returns change)
    (response : CommandResponse) :
    Refines ((Kernel.mutateAndPersist .none roomId effect operation
        response).run kernel).2
      (store.mutate roomId effect change) := by
  unfold Kernel.mutateAndPersist Store.mutate
  simp only [Program.run_bind, Program.run_atomic,
    SyncpondKernel.mutateRoom, refines.state]
  cases present : store.state.rooms[roomId]? with
  | none => exact refines
  | some room =>
      cases loaded : room.loaded with
      | false =>
          simp only [loaded, Bool.not_false, if_true]
          exact refines
      | true =>
          simp only [loaded, Bool.not_true, Bool.false_eq_true, if_false,
            Program.run_bind]
          exact (refines.setState _).persist roomId implements

/-- `LoadRoom` installs what the disk says. -/
theorem loadRoom (roomId : RoomId) :
    Refines ((handleLoadRoom .none roomId).run kernel).2
      (store.loadRoom roomId) := by
  obtain ⟨opened, result, reopened⟩ := refines.openRoomDb roomId
  have member : roomId ∈ (store.openRoom roomId).opened :=
    mem_set_insert.mpr (Or.inl rfl)
  obtain ⟨data, ran, reads, read⟩ :=
    reopened.onRoom member (implements_readRoomData roomId)
  rw [changeDisk_id] at read
  have identified :=
    (reopened.holds roomId).represents.records.identified
  simp only [handleLoadRoom, Task.openRoomDb, Program.run_bind,
    Program.run_atomic, result, ran]
  have state : (Program.run (Task.onRoom roomId (readRoomData .none roomId))
      { kernel with persistence := opened }).2.state = store.state := read.state
  have disk : (store.openRoom roomId).disks roomId = store.disks roomId := rfl
  rw [disk] at reads identified
  simp only [SyncpondKernel.installRoomData, AppState.loadRoomData,
    AppState.withRoom, Store.loadRoom, state]
  cases present : store.state.rooms[roomId]? with
  | none => exact read
  | some room =>
      have installed := loadData_eq_loadFrom identified reads.fragments room
      simp only [Except.map, reads.bucketDefs, reads.members, installed]
      exact read.setState _

/-- `WriteFragment` writes to memory and to the disk. -/
theorem writeFragment (roomId : RoomId) (bucketId : BucketId)
    (key : String) (data : FragmentData) :
    Refines ((handleWriteFragment .none roomId bucketId key data).run
        kernel).2
      (store.writeFragment roomId bucketId key
        (SerdeJson.parsePayload data)) := by
  unfold handleWriteFragment Store.writeFragment
  simp only [Program.run_bind, Program.run_read, refines.state]
  cases loaded : store.state.isRoomLoaded roomId with
  | false => exact refines
  | true =>
      have persists := implements_persistFragment roomId bucketId key
        (persistedValue (SerdeJson.parsePayload data : Value))
      simp only [SyncpondKernel.commitWrite, refines.state, Program.run_bind,
        Program.run_atomic, Bool.not_true, Bool.false_eq_true, if_false]
      cases store.state.setFragment roomId bucketId key
          (SerdeJson.parsePayload data) with
      | ok app =>
          exact ((refines.setState app).persist roomId persists
            ).setNotifications _
      | error error =>
          exact (refines.persist roomId persists).setNotifications _

/-- `NewRoom` creates a room with a database. -/
theorem newRoom (name : String) :
    Refines ((handleNewRoom .none name).run kernel).2
      (store.newRoom name) := by
  simp only [handleNewRoom, Program.run_bind, Program.run_atomic,
    SyncpondKernel.createRoom, refines.state, Program.run_modify]
  obtain ⟨opened, result, reopened⟩ :=
    (refines.setState store.state.createRoom.1).openRoomDb
      store.state.createRoom.2
  simp only [Task.openRoomDb, Program.run_atomic, result,
    SyncpondKernel.labelRoom, Store.newRoom, Program.run_pure]
  by_cases blank : (trim name).isEmpty
  · simp only [blank, if_true]
    exact reopened
  · simp only [blank, Bool.false_eq_true, if_false]
    cases store.state.createRoom.1.setRoomLabel store.state.createRoom.2
        name with
    | ok app => exact reopened.setState app
    | error error => exact reopened

end Refines

/-! ## Startup -/

/-- Startup over the data directory. -/
def Store.restart (store : Store Value) : Store Value :=
  { store with state := registerExisting .new store.opened.toList }

theorem Refines.restart {kernel : SyncpondKernel Value}
    {store : Store Value} (refines : Refines kernel store) :
    Refines (boot .none kernel.persistence.dirs) store.restart := by
  have named : ∀ name ∈ kernel.persistence.dirs,
      ∃ roomId, name = roomDir roomId := by
    intro name member
    obtain ⟨roomId, _, equal⟩ := (refines.dirs name).mp member
    exact ⟨roomId, equal⟩
  obtain ⟨dbs, manager, members⟩ :=
    openExistingRoomDbs_new named Faults.none
  have opened : dbs = store.opened := by
    ext roomId
    rw [members]
    simp [Opens, Faults.none, refines.mem_dirs]
  unfold boot
  rw [manager, opened]
  exact {
    state := rfl
    dbs := rfl
    dirs := refines.dirs
    represents := refines.represents
    closed := refines.closed
    cache := Library.Lru.Cache.agrees_empty _ _ }

/-! ## Events and runs -/

namespace Store

/-- The store of an empty data directory. -/
def initial : Store Value where
  state := registerExisting .new []
  opened := ∅
  disks := fun _ => .empty

/-- The store after a command. -/
def command (store : Store Value) : Commands → Store Value
  | .newRoom name => store.newRoom name
  | .newBucket roomId bucketId label =>
      store.mutate roomId
        (RoomEffect.newBucket bucketId (trim label))
        fun disk => { disk with
          records := disk.records.insert bucketId
            ⟨bucketId, labelOption (trim label), 0⟩ }
  | .deleteBucket roomId bucketId =>
      store.mutate roomId (RoomEffect.deleteBucket bucketId)
        fun disk => { disk with records := disk.records.erase bucketId }
  | .newMember roomId member =>
      store.mutate roomId (RoomEffect.newMember (trim member))
        fun disk =>
          if (trim (trim member)).isEmpty then disk
          else { disk with
            members := disk.members.insert (trim (trim member)) }
  | .deleteMember roomId member =>
      store.mutate roomId (RoomEffect.deleteMember (trim member))
        fun disk => { disk with members := disk.members.erase (trim member) }
  | .writeFragment roomId bucketId key data =>
      store.writeFragment roomId bucketId key (SerdeJson.parsePayload data)
  | .readFragment _ _ _ => store
  | .loadRoom roomId => store.loadRoom roomId
  | .unloadRoom roomId =>
      match store.state.unloadRoom roomId with
      | .ok app => { store with state := app }
      | .error _ => store

/-- The store after an event. -/
def apply (store : Store Value) : Event → Store Value
  | .command command => store.command command
  | .deleteRoom roomId =>
      match store.state.deleteRoom roomId with
      | .ok app => { store with state := app }
      | .error _ => store
  | .restart => store.restart

end Store

theorem refines_command {kernel : SyncpondKernel Value}
    {store : Store Value} (refines : Refines kernel store)
    (command : Commands) :
    Refines ((handleCommand .none command).run kernel).2
      (store.command command) := by
  cases command with
  | newRoom name => exact refines.newRoom name
  | newBucket roomId bucketId label =>
      exact refines.mutateAndPersist roomId _
        (implements_persistBucket roomId bucketId _ 0) _
  | deleteBucket roomId bucketId =>
      exact refines.mutateAndPersist roomId _
        (implements_removeBucket roomId bucketId) _
  | newMember roomId member =>
      exact refines.mutateAndPersist roomId _
        (implements_persistMember roomId (trim member)) _
  | deleteMember roomId member =>
      exact refines.mutateAndPersist roomId _
        (implements_removeMember roomId (trim member)) _
  | writeFragment roomId bucketId key data =>
      exact refines.writeFragment roomId bucketId key data
  | readFragment roomId bucketId key => exact refines
  | loadRoom roomId => exact refines.loadRoom roomId
  | unloadRoom roomId =>
      simp only [handleCommand, handleUnloadRoom, Program.run_atomic,
        SyncpondKernel.unloadRoom, Store.command, refines.state]
      cases store.state.unloadRoom roomId with
      | ok app => exact refines.setState app
      | error error => exact refines

/-- Every event keeps the relation. -/
theorem refines_apply {kernel : SyncpondKernel Value}
    {store : Store Value} (refines : Refines kernel store) (event : Event) :
    Refines (Kernel.apply .none kernel event) (store.apply event) := by
  cases event with
  | command command => exact refines_command refines command
  | deleteRoom roomId =>
      simp only [Kernel.apply, SyncpondKernel.deleteRoom, Store.apply,
        refines.state]
      cases store.state.deleteRoom roomId with
      | ok app => exact refines.setState app
      | error error => exact refines
  | restart => exact refines.restart

/-- Every run keeps the relation. -/
theorem refines_run {kernel : SyncpondKernel Value} {store : Store Value}
    (refines : Refines kernel store) (events : List Event) :
    Refines (Kernel.run kernel events) (events.foldl Store.apply store) := by
  induction events generalizing kernel store with
  | nil => exact refines
  | cons event rest ih => exact ih (refines_apply refines event)

theorem refines_boot :
    Refines (boot .none ∅ : SyncpondKernel Value) .initial := by
  have stopped : Refines
      ⟨registerExisting .new [], .new ∅, .empty⟩ (.initial : Store Value) := {
    state := rfl
    dbs := rfl
    dirs := by simp [PersistenceManager.new, Store.initial]
    represents := by simp [PersistenceManager.new]
    closed := fun _ _ => rfl
    cache := Library.Lru.Cache.agrees_empty _ _ }
  have same : (Store.initial : Store Value).restart = .initial := by
    rfl
  exact same ▸ stopped.restart

/-- A store that a run from the empty data directory leads to. -/
def ReachableStore (store : Store Value) : Prop :=
  ∃ events : List Event, store = events.foldl Store.apply .initial

/-- Every reachable kernel implements a reachable store. -/
theorem exists_store_of_reachable {kernel : SyncpondKernel Value}
    (reachable : Reachable kernel) :
    ∃ store, Refines kernel store ∧ ReachableStore store := by
  obtain ⟨events, rfl⟩ := reachable
  exact ⟨_, refines_run refines_boot events, events, rfl⟩

end Syncpond.KernelStore
