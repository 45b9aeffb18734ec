import Syncpond.Reads
import Syncpond.SparedFragments

/-!
# Sheltered writes

A write to a fragment is sheltered if all other commands in progress spare the
fragment.  Once it is acknowledged, neither the database nor the memory has
another value of the fragment, and from then on every command keeps it so that
does not write the fragment: a load of the room, too, finds the new value.
-/

namespace Syncpond.SparedFragments

open Syncpond.Protocol
open Syncpond.Serde
open Syncpond.State
open Syncpond.Persistence
open Syncpond.Kernel
open Syncpond.Reads (readFragment_eq_some_iff)
open Syncpond.RoomParts
open Syncpond.StateRuns
open Syncpond.StorageInvariants
open Syncpond.Library.Maps
open Syncpond.Library.Programs
open Syncpond.Library.Runs
open Syncpond.Library.Text

variable {Value : Type} [SerdeJson Value]
variable (roomId : RoomId) (bucketId : BucketId) (key : String)

/-! ## Kernels that are fit for a write -/

section Fitness

variable {roomId bucketId key} {kernel : SyncpondKernel Value}

omit [SerdeJson Value] in
theorem Fit.setRoom (fit : Fit roomId bucketId key kernel) {changed : RoomId}
    {later : RoomState Value} (plain : changed = roomId → Plain later) :
    Fit roomId bucketId key { kernel with
      state := { kernel.state with
        rooms := kernel.state.rooms.insert changed later } } where
  keys := fit.keys
  rooms room found := by
    rw [lookup_insert] at found
    split at found
    · next same =>
      cases found
      exact plain same
    · exact fit.rooms room found

omit [SerdeJson Value] in
theorem Fit.commitWrite (fit : Fit roomId bucketId key kernel)
    (changed : RoomId) (other : BucketId) (name : String) (value : Value) :
    Fit roomId bucketId key (kernel.commitWrite changed other name value).2 := by
  unfold SyncpondKernel.commitWrite
  split
  · next app result =>
    obtain ⟨room, later, found, stored, rfl⟩ := withRoom_ok result
    apply fit.setRoom
    rintro rfl
    have plain := fit.rooms room found
    unfold RoomState.setFragment at stored
    rw [plain.unbuffered] at stored
    split at stored
    · cases stored
    · split at stored
      · cases stored
      · next notUnloaded =>
        cases stored
        have loaded : room.loaded = true := by simpa using notUnloaded
        exact plain.change rfl rfl loaded
  · exact fit

omit [SerdeJson Value] in
theorem plain_loadData {room : RoomState Value} (plain : Plain room)
    (bucketDefs : List (BucketId × Option String × UInt32))
    (members : FinSet String) (fragments : Map BucketId (Map String Value)) :
    Plain (room.loadData bucketDefs members fragments) := by
  have same := KernelStore.foldl_installBucket bucketDefs fragments
    { room with buckets := ∅, bucketLabels := ∅, bucketFlags := ∅ }
  refine plain.change ?_ ?_ rfl
  · rw [RoomState.loadData, same]
  · rw [RoomState.loadData, same]

omit [SerdeJson Value] in
theorem Fit.installRoomData (fit : Fit roomId bucketId key kernel)
    (loaded : RoomId) (data : RoomData Value) :
    Fit roomId bucketId key (kernel.installRoomData loaded data).2 := by
  unfold SyncpondKernel.installRoomData
  split
  · next app result =>
    obtain ⟨room, later, found, installed, rfl⟩ := withRoom_ok result
    apply fit.setRoom
    rintro rfl
    cases installed
    exact plain_loadData (fit.rooms room found) _ _ _
  · exact fit

omit [SerdeJson Value] in
theorem Fit.writeBack (fit : Fit roomId bucketId key kernel)
    {changed : RoomId} {room : RoomPersistence}
    (keys : changed = roomId → OneKey bucketId key room.db) :
    Fit roomId bucketId key { kernel with
      persistence := kernel.persistence.writeBack changed room } where
  keys := by
    rw [PersistenceManager.view_writeBack]
    split
    · next same => exact keys same
    · exact fit.keys
  rooms := fit.rooms

/-- A write to any fragment uses the one key of that fragment. -/
theorem oneKey_persistFragment (faults : Faults) (other : BucketId)
    (name : String) (value : Option Value) :
    Changes (fun room after =>
        OneKey bucketId key room.db → OneKey bucketId key after.db)
      (persistFragment faults (decimal other) name value) := by
  cases value with
  | none =>
      apply Changes.primitive
      intro room keys
      cases faults.delete (fragmentKey (decimal other) name) with
      | some error => exact keys
      | none =>
          exact fun text inside => keys text
            (Std.ExtTreeMap.mem_of_mem_erase inside)
  | some value =>
      apply (Changes.serialize _ _).bind
      intro bytes
      apply Changes.primitive
      intro room keys
      cases faults.put (fragmentKey (decimal other) name) with
      | some error => exact keys
      | none =>
          intro text inside isKey
          rcases mem_map_insert.mp inside with rfl | before
          · rw [IsKey, parseFragmentKey_fragmentKey] at isKey
            cases isKey
            rfl
          · exact keys text before isKey

variable (roomId bucketId key) in
/-- Every section of the program keeps a fit kernel fit. -/
def KeepsFit {Result : Type} (program : Task Value Result) : Prop :=
  program.Every fun _ effect => ∀ kernel,
    Fit roomId bucketId key kernel → Fit roomId bucketId key (effect kernel)

omit [SerdeJson Value] in
theorem keepsFit_of_spares {Result : Type} {program : Task Value Result}
    (keeps : program.KeepsTo (Spares roomId bucketId key)) :
    KeepsFit roomId bucketId key program :=
  Program.Every.mono (fun _ _ spares kernel fit => fit.spared (spares kernel))
    keeps

theorem keepsFit_writeFragment (faults : Faults) (changed : RoomId)
    (other : BucketId) (name : String) (data : FragmentData) :
    KeepsFit roomId bucketId key
      (handleWriteFragment faults changed other name data :
        Task Value CommandResponse) := by
  have persists (value : Option Value) : KeepsFit roomId bucketId key
      (Task.onRoom changed (persistFragment faults (decimal other) name value) :
        Task Value (Option (Except String Unit))) := by
    apply Program.Every.bind (Program.every_atomic fun _ => id)
    rintro (isClosed | isOpen)
    · trivial
    · refine Program.Every.bind ?_ fun _ => trivial
      have keeps : Changes (fun room after =>
          OneKey bucketId key room.db → OneKey bucketId key after.db)
          (persistFragment faults (decimal other) name value) :=
        oneKey_persistFragment faults other name value
      apply keeps.effects.zoom
      intro access effect keys kernel fit
      exact fit.writeBack fun same => keys _ (same ▸ fit.keys)
  apply Program.Every.bind (Program.every_atomic fun _ => id)
  intro isLoaded
  split
  · trivial
  · apply Program.Every.bind
      (Program.every_atomic fun _ fit => fit.commitWrite _ _ _ _)
    intro assigned
    apply Program.Every.bind
    · exact Program.Every.bind
        (keepsFit_of_spares (keepsTo_openRoomDb faults changed)) fun _ =>
          Program.Every.bind (persists _) fun _ => trivial
    intro _
    apply Program.Every.bind (Program.every_atomic fun _ => id)
    intro roomCounter
    exact Program.Every.bind (Program.every_atomic fun kernel fit =>
      fit.spared (spares_broadcast _ _ _ kernel)) fun _ => trivial

theorem keepsFit_loadRoom (faults : Faults) (loaded : RoomId) :
    KeepsFit roomId bucketId key
      (handleLoadRoom faults loaded : Task Value CommandResponse) := by
  apply Program.Every.bind
    (keepsFit_of_spares (keepsTo_openRoomDb faults loaded))
  rintro (text | ⟨⟩)
  · trivial
  · apply Program.Every.bind (keepsFit_of_spares
      (keepsTo_onRoom fun _ => spares_readRoomData Value faults loaded))
    rintro (_ | _ | data)
    · exact Program.every_atomic fun _ fit => fit.installRoomData loaded _
    · trivial
    · exact Program.every_atomic fun _ fit => fit.installRoomData loaded data

theorem keepsFit_handleCommand (faults : Faults) (command : Commands) :
    KeepsFit roomId bucketId key
      (handleCommand faults command : Task Value CommandResponse) := by
  by_cases writes : Writes roomId bucketId key command
  · cases command with
    | writeFragment changed other name data =>
        exact keepsFit_writeFragment faults changed other name data
    | _ => cases writes
  · by_cases loads : Loads roomId command
    · cases command with
      | loadRoom loaded => exact keepsFit_loadRoom faults loaded
      | _ => cases loads
    · exact keepsFit_of_spares (keepsTo_handleCommand faults writes loads)

end Fitness

/-! ## A sheltered write -/

/-- The storage calls of a write to the fragment do not fail. -/
structure Unhindered (faults : Faults) : Prop where
  createDir : faults.createDir roomId = none
  openDb : faults.openDb roomId = none
  put : faults.put (fragmentKey (decimal bucketId) key) = none
  delete : faults.delete (fragmentKey (decimal bucketId) key) = none

/-- The write is in memory, and will replace all that is on disk. -/
structure Committed (value : Value) (kernel : SyncpondKernel Value) :
    Prop where
  keys : OneKey bucketId key (kernel.persistence.view roomId).db
  memory : ∀ room, kernel.state.rooms[roomId]? = some room →
    Recalls bucketId key value room

section Shelter

variable {roomId bucketId key} {kernel after : SyncpondKernel Value}
variable {value : Value}

omit [SerdeJson Value] in
theorem Committed.spared (committed : Committed roomId bucketId key value kernel)
    (spares : Spares roomId bucketId key kernel after) :
    Committed roomId bucketId key value after where
  keys := committed.keys.spared spares.disk
  memory := recalls_spared committed.memory spares

omit [SerdeJson Value] in
/-- In a fit kernel, a write is stored unless the room has no content. -/
theorem commitWrite_of_fit (fit : Fit roomId bucketId key kernel)
    (value : Value) :
    ((kernel.commitWrite roomId bucketId key value).2 = kernel ∧
      ∀ room, kernel.state.rooms[roomId]? = some room → room.buckets = ∅) ∨
      ∃ room : RoomState Value,
        (kernel.commitWrite roomId bucketId key value).2.state.rooms =
          kernel.state.rooms.insert roomId (room.store bucketId key value) := by
  unfold SyncpondKernel.commitWrite
  cases result : kernel.state.setFragment roomId bucketId key value with
  | error error =>
      refine Or.inl ⟨rfl, ?_⟩
      intro room found
      have plain := fit.rooms room found
      apply plain.vacant
      cases loaded : room.loaded with
      | false => rfl
      | true =>
          simp [AppState.setFragment, AppState.withRoom, found,
            RoomState.setFragment, plain.unlocked, plain.unbuffered, loaded,
            Except.map] at result
  | ok app =>
      obtain ⟨room, later, found, stored, rfl⟩ := withRoom_ok result
      have plain := fit.rooms room found
      unfold RoomState.setFragment at stored
      rw [plain.unbuffered] at stored
      split at stored
      · cases stored
      · split at stored
        · cases stored
        · cases stored
          exact Or.inr ⟨room, rfl⟩

omit [SerdeJson Value] in
/-- In a fit kernel, a write replaces what the room has of the fragment. -/
theorem committed_commitWrite (fit : Fit roomId bucketId key kernel)
    (value : Value) :
    Committed roomId bucketId key value
      (kernel.commitWrite roomId bucketId key value).2 where
  keys := (fit.commitWrite roomId bucketId key value).keys
  memory room found entry isEntry := by
    rcases commitWrite_of_fit fit value with ⟨same, empty⟩ | ⟨before, rooms⟩
    · rw [same] at found
      rw [empty room found] at isEntry
      simp at isEntry
    · rw [rooms, lookup_insert, if_pos rfl] at found
      cases found
      rw [RoomState.store, getNested_insertNested, if_pos ⟨rfl, rfl⟩]
        at isEntry
      cases isEntry
      rfl

/-- What is on disk after a write that replaces all that was there. -/
theorem finds_insert {db : Db} (keys : OneKey bucketId key db)
    {bytes : ByteArray} (read : SerdeJson.value.fromSlice bytes = .ok value) :
    Finds bucketId key (db.insert (fragmentKey (decimal bucketId) key) bytes)
      (some value) := by
  intro other
  constructor
  · rintro ⟨entry, stored, collected⟩
    rw [lookup_insert] at stored
    split at stored
    · next same =>
      cases stored
      simp only [collectFragment, ← same, parseFragmentKey_fragmentKey, read,
        Option.bind_eq_bind, Option.bind_some, Option.some.injEq,
        Prod.mk.injEq] at collected
      exact congrArg some collected.2
    · next different =>
      have isKey := isKey_of_collected collected
      have inside : entry.1 ∈ db :=
        Std.ExtTreeMap.mem_iff_isSome_getElem?.mpr
          (Option.isSome_of_eq_some stored)
      exact absurd (keys entry.1 inside isKey).symm different
  · rintro ⟨⟩
    refine ⟨(fragmentKey (decimal bucketId) key, bytes), ?_, ?_⟩
    · rw [lookup_insert, if_pos rfl]
    · simp [collectFragment, read]

/-- What is on disk after a tombstone. -/
theorem finds_erase {db : Db} (keys : OneKey bucketId key db) :
    Finds bucketId key (db.erase (fragmentKey (decimal bucketId) key))
      (none : Option Value) := by
  intro other
  constructor
  · rintro ⟨entry, stored, collected⟩
    rw [lookup_erase] at stored
    split at stored
    · cases stored
    · next different =>
      have isKey := isKey_of_collected collected
      have inside : entry.1 ∈ db :=
        Std.ExtTreeMap.mem_iff_isSome_getElem?.mpr
          (Option.isSome_of_eq_some stored)
      exact absurd (keys entry.1 inside isKey).symm different
  · intro impossible
    cases impossible

/-- A write that does not fail is one call, and leaves its value on disk. -/
theorem run_persistFragment {faults : Faults}
    (unhindered : Unhindered roomId bucketId key faults) (value : Value) :
    ∃ change : RoomPersistence → RoomPersistence,
      (persistFragment faults (decimal bucketId) key
        (persistedValue value)).run =
          Program.atomic .free (fun room => (.ok (), change room)) ∧
      ∀ room, OneKey bucketId key room.db →
        Finds bucketId key (change room).db (persistedValue value) := by
  cases isPersisted : persistedValue value with
  | none =>
      refine ⟨fun room => { room with
        db := room.db.erase (fragmentKey (decimal bucketId) key) }, ?_,
        fun room keys => finds_erase keys⟩
      simp only [persistFragment, Storage.delete, unhindered.delete]
      rfl
  | some other =>
      obtain ⟨bytes, serialized, read⟩ :=
        (SerdeJson.value : Library.JsonText.Codec Value).roundTrip other
      refine ⟨fun room => { room with
        db := room.db.insert (fragmentKey (decimal bucketId) key) bytes }, ?_,
        fun room keys => finds_insert keys read⟩
      simp only [persistFragment, Storage.serialize, serialized, pure_bind,
        Storage.put, unhindered.put]
      rfl

variable (roomId bucketId key) in
/-- What is known of a write that is acknowledged. -/
def Lasting (value : Value) (response : CommandResponse)
    (kernel : SyncpondKernel Value) : Prop :=
  response = .fragmentWriteResponse →
    Holds roomId bucketId key value kernel

/-- A committed write is persisted, among commands that spare the fragment. -/
theorem under_persist {faults : Faults}
    (unhindered : Unhindered roomId bucketId key faults)
    (committed : Committed roomId bucketId key value kernel) :
    (Task.persist faults roomId (persistFragment faults (decimal bucketId) key
      (persistedValue value))).Under (Spares roomId bucketId key)
        (fun _ _ => True) (fun _ => Holds roomId bucketId key value)
        kernel := by
  obtain ⟨change, run, finds⟩ := run_persistFragment unhindered value
  have opens : (Task.openRoomDb faults roomId : Task Value _).Under
      (Spares roomId bucketId key) (fun _ _ => True)
      (fun _ kernel => Committed roomId bucketId key value kernel ∧
        roomId ∈ kernel.persistence.dbs) kernel := by
    apply Program.under_atomic
    intro seen relied
    refine ⟨trivial, ?_⟩
    intro later further
    constructor
    · apply (committed.spared relied).spared
      apply Spares.trans _ further
      exact (keepsTo_openRoomDb faults roomId).1 seen
    · apply further.opened
      exact (Folders.mem_dbs_openRoomDb ..).mpr
        (Or.inr ⟨rfl, unhindered.createDir, unhindered.openDb⟩)
  apply opens.bind .refl
  rintro opened state ⟨isCommitted, isOpen⟩
  have persists : (Task.onRoom roomId (persistFragment faults
      (decimal bucketId) key (persistedValue value))).Under
        (Spares roomId bucketId key) (fun _ _ => True)
        (fun _ => Holds roomId bucketId key value) state := by
    have looks : (Program.read .free fun kernel : SyncpondKernel Value =>
        kernel.persistence.dbs.contains roomId).Under
          (Spares roomId bucketId key) (fun _ _ => True)
          (fun found kernel => found = true ∧
            Committed roomId bucketId key value kernel) state := by
      apply Program.under_atomic
      intro seen relied
      exact ⟨trivial, fun later further =>
        ⟨relied.opened isOpen, (isCommitted.spared relied).spared further⟩⟩
    apply looks.bind .refl
    rintro found kernel ⟨rfl, held⟩
    simp only [if_true, run]
    intro seen relied
    refine ⟨trivial, fun later further => ?_⟩
    have before := held.spared relied
    apply Holds.spared _ further
    constructor
    · dsimp only
      rw [PersistenceManager.view_writeBack_self]
      exact finds _ before.keys
    · exact before.memory
  apply persists.bind .refl
  intro _ kernel holds
  exact Program.under_pure fun seen relied => holds.spared relied

/-- A write that is sheltered and acknowledged lasts. -/
theorem under_writeFragment {faults : Faults}
    (unhindered : Unhindered roomId bucketId key faults)
    (fit : Fit roomId bucketId key kernel) (data : FragmentData) :
    (handleWriteFragment faults roomId bucketId key data).Under
      (Spares roomId bucketId key) (fun _ _ => True)
      (Lasting roomId bucketId key (SerdeJson.parsePayload data : Value))
      kernel := by
  have looks : (Program.read .locked fun kernel : SyncpondKernel Value =>
      kernel.state.isRoomLoaded roomId).Under (Spares roomId bucketId key)
        (fun _ _ => True) (fun _ => Fit roomId bucketId key) kernel := by
    apply Program.under_atomic
    intro seen relied
    exact ⟨trivial, fun later further => (fit.spared relied).spared further⟩
  apply looks.bind .refl
  intro loaded kernel isFit
  cases loaded with
  | false =>
      apply Program.under_pure
      intro seen relied impossible
      cases impossible
  | true =>
      let parsed : Value := SerdeJson.parsePayload data
      have commits : (Program.atomic .locked
          (SyncpondKernel.commitWrite roomId bucketId key parsed)).Under
            (Spares roomId bucketId key) (fun _ _ => True)
            (fun _ => Committed roomId bucketId key parsed) kernel := by
        apply Program.under_atomic
        intro seen relied
        exact ⟨trivial, fun later further =>
          (committed_commitWrite (isFit.spared relied) parsed).spared further⟩
      apply commits.bind .refl
      intro assigned committing committed
      apply (under_persist unhindered committed).bind .refl
      intro _ persisted holds
      have counts : (Program.read .locked
          (SyncpondKernel.readVersion roomId)).Under
            (Spares roomId bucketId key) (fun _ _ => True)
            (fun _ => Holds roomId bucketId key parsed) persisted := by
        apply Program.under_atomic
        intro seen relied
        exact ⟨trivial, fun later further =>
          (holds.spared relied).spared further⟩
      apply counts.bind .refl
      intro roomCounter counted held seen relied
      refine ⟨trivial, fun later further _ => ?_⟩
      exact ((held.spared relied).spared (spares_broadcast _ _ _ seen)).spared
        further

end Shelter

/-! ## A write that lasts -/

section Keeping

variable {roomId bucketId key} {kernel : SyncpondKernel Value}
variable {value : Value}

theorem preserves_of_spares {α : Type} {operation : Storage α}
    {found : Option Value}
    (spares : Changes (SparesDb bucketId key) operation) :
    Preserves (fun room => Finds bucketId key room.db found) (fun _ => True)
      operation where
  keeps := by
    have every : operation.run.Every fun _ effect => ∀ room,
        Finds bucketId key room.db found →
          Finds bucketId key (effect room).db found :=
      spares.effects.mono fun _ _ keeps room finds => finds.congr (keeps room)
    exact every.keeps.mono fun _ _ _ _ => trivial

/-- What a load reads of the fragment is its value. -/
theorem preserves_readRoomData (faults : Faults) :
    Preserves
      (fun room => Finds bucketId key room.db (persistedValue value))
      (fun data : RoomData Value => ∀ found,
        getNested data.fragments bucketId key = some found → found = value)
      (readRoomData faults roomId) := by
  unfold readRoomData
  apply (preserves_of_spares
    (spares_loadBuckets Value faults roomId)).attempt.bind
  intro buckets _
  apply (preserves_of_spares
    (spares_loadMembers Value faults roomId)).attempt.bind
  intro members _
  apply (preserves_scan faults).attempt.bind
  intro outcome scanned
  cases outcome with
  | error text => exact preserves_throw _
  | ok fragments =>
      apply preserves_pure
      intro found isFound
      obtain ⟨room, finds, collected⟩ := scanned fragments rfl
      have persisted := (finds found).mp (collected bucketId key found isFound)
      unfold persistedValue at persisted
      split at persisted
      · cases persisted
      · exact (Option.some.inj persisted).symm

omit [SerdeJson Value] in
/-- A load installs no other value than it read. -/
theorem recalls_loadData (room : RoomState Value)
    (bucketDefs : List (BucketId × Option String × UInt32))
    (members : FinSet String) {fragments : Map BucketId (Map String Value)}
    (read : ∀ found, getNested fragments bucketId key = some found →
      found = value) :
    Recalls bucketId key value
      (room.loadData bucketDefs members fragments) := by
  refine foldl_invariant (Recalls bucketId key value) ?_ bucketDefs ?_
  · rintro room ⟨other, label, flags⟩ recalls entry isEntry
    simp only [RoomState.installBucket, getNested, lookup_insert] at isEntry
    split at isEntry
    · next same =>
      subst same
      simp only [Option.bind_some, RoomState.loadedEntries,
        Std.ExtTreeMap.getElem?_map, lookup_getD_empty] at isEntry
      obtain ⟨found, isFound, rfl⟩ := Option.map_eq_some_iff.mp isEntry
      exact read found isFound
    · exact recalls entry isEntry
  · intro entry isEntry
    simp at isEntry

theorem Holds.installRoomData
    (holds : Holds roomId bucketId key value kernel) {data : RoomData Value}
    (read : ∀ found, getNested data.fragments bucketId key = some found →
      found = value) :
    Holds roomId bucketId key value
      (kernel.installRoomData roomId data).2 := by
  unfold SyncpondKernel.installRoomData
  split
  · next app result =>
    obtain ⟨room, later, found, installed, rfl⟩ := withRoom_ok result
    cases installed
    refine ⟨holds.disk, ?_⟩
    intro other isRoom
    rw [lookup_insert, if_pos rfl] at isRoom
    cases isRoom
    exact recalls_loadData room _ _ read
  · exact holds

theorem keeps_handleLoadRoom (faults : Faults) :
    (handleLoadRoom faults roomId : Task Value CommandResponse).Keeps
      (Holds roomId bucketId key value) fun _ => True := by
  apply keeps_loadRoom
  · intro kernel holds
    exact holds.spared ((keepsTo_openRoomDb faults roomId).1 kernel)
  · apply keeps_onRoom (preserves_readRoomData faults)
      (fun kernel holds => holds.disk)
    intro kernel room holds finds
    refine ⟨?_, holds.memory⟩
    dsimp only
    rw [PersistenceManager.view_writeBack_self]
    exact finds
  · intro found isFound
    simp [RoomData.empty] at isFound
  · exact fun _ _ read holds => holds.installRoomData read

variable (roomId bucketId key) in
/-- A read of the fragment that returns bytes returns those of the value. -/
def Reads (value : Value) (command : Commands) (response : CommandResponse) :
    Prop :=
  command = .readFragment roomId bucketId key → ∀ bytes,
    response = .fragmentReadResponse (some bytes) →
      SerdeJson.isNull value = false ∧
        SerdeJson.value.toVec value = .ok bytes

theorem keeps_readFragment :
    (handleReadFragment roomId bucketId key : Task Value CommandResponse).Keeps
      (Holds roomId bucketId key value)
      (Reads roomId bucketId key value
        (.readFragment roomId bucketId key)) := by
  apply Program.keeps_read
  rintro kernel holds - bytes read
  obtain ⟨found, ⟨room, entry, isRoom, _, _, isEntry, isValue, notNull⟩,
    isBytes⟩ := readFragment_eq_some_iff.mp read
  have same := holds.memory room isRoom entry isEntry
  rw [isValue] at same
  subst same
  exact ⟨isValue ▸ notNull, isBytes⟩

/-- A command that does not write the fragment lets the write last. -/
theorem keeps_handleCommand (faults : Faults) {command : Commands}
    (writes : ¬Writes roomId bucketId key command) :
    (handleCommand faults command : Task Value CommandResponse).Keeps
      (Holds roomId bucketId key value)
      (Reads roomId bucketId key value command) := by
  by_cases reads : command = .readFragment roomId bucketId key
  · subst reads
    exact keeps_readFragment
  · have keeps : (handleCommand faults command :
        Task Value CommandResponse).Keeps
          (Holds roomId bucketId key value) fun _ => True := by
      by_cases loads : Loads roomId command
      · cases command with
        | loadRoom loaded =>
            cases loads
            exact keeps_handleLoadRoom faults
        | _ => cases loads
      · have every : (handleCommand faults command :
            Task Value CommandResponse).KeepsTo
              (Spares roomId bucketId key) :=
          keepsTo_handleCommand faults writes loads
        exact (every.mono fun _ _ spares kernel holds =>
          Holds.spared holds (spares kernel)).keeps
    exact keeps.mono fun _ _ isRead => absurd isRead reads

end Keeping

end Syncpond.SparedFragments
