import Syncpond.Library.Interference
import Syncpond.Provenance
import Syncpond.RoomParts

/-!
# Commands that spare a fragment

A command spares a fragment if every section of it, from any state, keeps the
fragment in the database and at most forgets it in memory.  All commands do,
whatever failures of the storage they meet, except those that write the
fragment and those that load its room.
-/

namespace Syncpond.SparedFragments

open Syncpond.Protocol
open Syncpond.Serde
open Syncpond.State
open Syncpond.Persistence
open Syncpond.Kernel
open Syncpond.RoomParts
open Syncpond.StateRuns
open Syncpond.Library.Maps
open Syncpond.Library.Programs
open Syncpond.Library.Text

variable {Value : Type} [SerdeJson Value]
variable (roomId : RoomId) (bucketId : BucketId) (key : String)

/-! ## A fragment on disk and in memory -/

/-- The text is read as the key of the fragment. -/
def IsKey (text : String) : Prop :=
  parseFragmentKey text = some (bucketId, key)

/-- What a scan of the database finds of the fragment. -/
def Finds (db : Db) (found : Option Value) : Prop :=
  ∀ value, (∃ entry : String × ByteArray, db[entry.1]? = some entry.2 ∧
    collectFragment entry = some ((bucketId, key), value)) ↔
      found = some value

/-- The room has no other value of the fragment. -/
def Recalls (value : Value) (room : RoomState Value) : Prop :=
  ∀ entry, getNested room.buckets bucketId key = some entry →
    entry.value = value

/-- Neither the database nor the memory has another value of the fragment. -/
structure Holds (value : Value) (kernel : SyncpondKernel Value) : Prop where
  disk : Finds bucketId key (kernel.persistence.view roomId).db
    (persistedValue value)
  memory : ∀ room, kernel.state.rooms[roomId]? = some room →
    Recalls bucketId key value room

/-- A write to the room takes effect at once, or the room has no content. -/
structure Plain (room : RoomState Value) : Prop where
  unlocked : room.ioLocked = false
  unbuffered : room.txBuffer = none
  vacant : room.loaded = false → room.buckets = ∅

/-- The fragment has no other key than the one that a write uses. -/
def OneKey (db : Db) : Prop :=
  ∀ text ∈ db, IsKey bucketId key text →
    text = fragmentKey (decimal bucketId) key

/-- A write to the fragment will replace all that there is of it. -/
structure Fit (kernel : SyncpondKernel Value) : Prop where
  keys : OneKey bucketId key (kernel.persistence.view roomId).db
  rooms : ∀ room, kernel.state.rooms[roomId]? = some room → Plain room

/-! ## Sparing a fragment -/

/-- A section of the storage that keeps the fragment. -/
def SparesDb (room after : RoomPersistence) : Prop :=
  AgreeOn (IsKey bucketId key) room.db after.db

/-- A room that at most forgets the fragment. -/
structure Leaves (room later : RoomState Value) : Prop where
  entries : ∀ entry, getNested later.buckets bucketId key = some entry →
    getNested room.buckets bucketId key = some entry
  plain : Plain room → Plain later

/-- A section that keeps the fragment on disk, and no other in memory. -/
structure Spares (kernel after : SyncpondKernel Value) : Prop where
  disk : SparesDb bucketId key (kernel.persistence.view roomId)
    (after.persistence.view roomId)
  opened : roomId ∈ kernel.persistence.dbs → roomId ∈ after.persistence.dbs
  rooms : ∀ later, after.state.rooms[roomId]? = some later →
    ∃ room, (kernel.state.rooms[roomId]? = some room ∨ room = .fresh true) ∧
      Leaves bucketId key room later

section Relations

variable {roomId bucketId key}

omit [SerdeJson Value] in
theorem Leaves.refl (room : RoomState Value) : Leaves bucketId key room room :=
  ⟨fun _ found => found, id⟩

omit [SerdeJson Value] in
/-- A room that is left alone twice is left alone. -/
theorem Leaves.trans {room middle later : RoomState Value}
    (front : Leaves bucketId key room middle)
    (back : Leaves bucketId key middle later) :
    Leaves bucketId key room later :=
  ⟨fun entry found => front.entries entry (back.entries entry found),
    fun plain => back.plain (front.plain plain)⟩

omit [SerdeJson Value] in
/-- A new room is plain. -/
theorem plain_fresh (loaded : Bool) : Plain (.fresh loaded : RoomState Value) :=
  ⟨rfl, rfl, fun _ => rfl⟩

omit [SerdeJson Value] in
theorem Spares.refl (kernel : SyncpondKernel Value) :
    Spares roomId bucketId key kernel kernel where
  disk := .refl _
  opened := id
  rooms later found := ⟨later, Or.inl found, .refl later⟩

omit [SerdeJson Value] in
/-- A fragment that is spared twice is spared. -/
theorem Spares.trans {kernel middle after : SyncpondKernel Value}
    (front : Spares roomId bucketId key kernel middle)
    (back : Spares roomId bucketId key middle after) :
    Spares roomId bucketId key kernel after where
  disk := AgreeOn.trans front.disk back.disk
  opened isOpen := back.opened (front.opened isOpen)
  rooms later found := by
    obtain ⟨room, isRoom | rfl, leaves⟩ := back.rooms later found
    · obtain ⟨first, isFirst, leavesFirst⟩ := front.rooms room isRoom
      exact ⟨first, isFirst, leavesFirst.trans leaves⟩
    · exact ⟨_, Or.inr rfl, leaves⟩

/-- An entry that is read as the fragment has its key. -/
theorem isKey_of_collected {entry : String × ByteArray} {value : Value}
    (collected : collectFragment entry = some ((bucketId, key), value)) :
    IsKey bucketId key entry.1 := by
  obtain ⟨target, parsed, rest⟩ := Option.bind_eq_some_iff.mp collected
  split at rest
  · cases rest
    exact parsed
  · cases rest

/-- A scan finds what it found, if the entries of the fragment are the same. -/
theorem Finds.congr {db after : Db} {found : Option Value}
    (finds : Finds bucketId key db found)
    (same : AgreeOn (IsKey bucketId key) db after) :
    Finds bucketId key after found := by
  intro value
  rw [← finds value]
  constructor
  · rintro ⟨entry, stored, collected⟩
    rw [← same entry.1 (isKey_of_collected collected)] at stored
    exact ⟨entry, stored, collected⟩
  · rintro ⟨entry, stored, collected⟩
    rw [same entry.1 (isKey_of_collected collected)] at stored
    exact ⟨entry, stored, collected⟩

omit [SerdeJson Value] in
/-- What is spared is not forgotten for another value. -/
theorem recalls_spared {value : Value} {kernel after : SyncpondKernel Value}
    (memory : ∀ room, kernel.state.rooms[roomId]? = some room →
      Recalls bucketId key value room)
    (spares : Spares roomId bucketId key kernel after)
    (later : RoomState Value)
    (found : after.state.rooms[roomId]? = some later) :
    Recalls bucketId key value later := by
  intro entry isEntry
  obtain ⟨room, isRoom | rfl, leaves⟩ := spares.rooms later found
  · exact memory room isRoom entry (leaves.entries entry isEntry)
  · have absent := leaves.entries entry isEntry
    simp [RoomState.fresh] at absent

/-- A fragment that is spared stays where it is held. -/
theorem Holds.spared {value : Value} {kernel after : SyncpondKernel Value}
    (holds : Holds roomId bucketId key value kernel)
    (spares : Spares roomId bucketId key kernel after) :
    Holds roomId bucketId key value after where
  disk := holds.disk.congr spares.disk
  memory := recalls_spared holds.memory spares

/-- A fragment that is spared keeps its one key. -/
theorem OneKey.spared {room after : RoomPersistence}
    (keys : OneKey bucketId key room.db)
    (spares : SparesDb bucketId key room after) :
    OneKey bucketId key after.db := by
  intro text inside isKey
  apply keys text _ isKey
  rw [Std.ExtTreeMap.mem_iff_isSome_getElem?] at inside ⊢
  rw [spares text isKey]
  exact inside

omit [SerdeJson Value] in
/-- A kernel that is fit for the fragment stays so. -/
theorem Fit.spared {kernel after : SyncpondKernel Value}
    (fit : Fit roomId bucketId key kernel)
    (spares : Spares roomId bucketId key kernel after) :
    Fit roomId bucketId key after where
  keys := fit.keys.spared spares.disk
  rooms later found := by
    obtain ⟨room, isRoom | rfl, leaves⟩ := spares.rooms later found
    · exact leaves.plain (fit.rooms room isRoom)
    · exact leaves.plain (plain_fresh true)

end Relations

/-! ### Operations of the storage -/

section Storage

variable {bucketId key} (faults : Faults)

/-- Another key can be put. -/
theorem spares_put {text : String} (other : ¬IsKey bucketId key text)
    (bytes : ByteArray) :
    Changes (SparesDb bucketId key) (Storage.put faults text bytes) := by
  apply Changes.primitive
  intro room
  cases faults.put text with
  | some error => exact .refl _
  | none => exact AgreeOn.insert_outside other bytes

/-- Another key can be deleted. -/
theorem spares_delete {text : String} (other : ¬IsKey bucketId key text) :
    Changes (SparesDb bucketId key) (Storage.delete faults text) := by
  apply Changes.primitive
  intro room
  cases faults.delete text with
  | some error => exact .refl _
  | none => exact AgreeOn.erase_outside other

theorem spares_get (text : String) :
    Changes (SparesDb bucketId key) (Storage.get faults text) := by
  apply Changes.primitive
  intro room
  cases faults.get text with
  | some error => exact .refl _
  | none => exact .refl _

theorem spares_iterator :
    Changes (SparesDb bucketId key) (Storage.iterator faults) :=
  .primitive fun _ => .refl _

theorem spares_cacheGetBuckets (roomId : RoomId) :
    Changes (SparesDb bucketId key) (Storage.cacheGetBuckets roomId) :=
  .primitive fun _ => .refl _

theorem spares_cachePutBuckets (roomId : RoomId)
    (buckets : Map BucketId BucketRecord) :
    Changes (SparesDb bucketId key)
      (Storage.cachePutBuckets roomId buckets) :=
  .primitive fun _ => .refl _

/-- A key that is not read as a fragment key is none of the fragment. -/
theorem not_isKey {text : String} (none : parseFragmentKey text = none) :
    ¬IsKey bucketId key text := by
  intro isKey
  rw [IsKey, none] at isKey
  cases isKey

/-- The keys of other fragments are other keys. -/
theorem not_isKey_fragmentKey {other : BucketId} {name : String}
    (different : ¬(other = bucketId ∧ name = key)) :
    ¬IsKey bucketId key (fragmentKey (decimal other) name) := by
  intro isKey
  rw [IsKey, parseFragmentKey_fragmentKey] at isKey
  cases isKey
  exact different ⟨rfl, rfl⟩

/-- Another fragment can be persisted. -/
theorem spares_persistFragment {other : BucketId} {name : String}
    (different : ¬(other = bucketId ∧ name = key)) (value : Option Value) :
    Changes (SparesDb bucketId key)
      (persistFragment faults (decimal other) name value) := by
  cases value with
  | none => exact spares_delete faults (not_isKey_fragmentKey different)
  | some value =>
      apply (Changes.serialize _ _).bind
      intro bytes
      exact spares_put faults (not_isKey_fragmentKey different) bytes

variable (Value)

theorem spares_loadMembers (roomId : RoomId) :
    Changes (SparesDb bucketId key) (loadMembers faults Value roomId) := by
  apply (spares_get faults _).bind
  intro found
  cases found with
  | none => exact .pure _
  | some bytes =>
      dsimp only
      split
      · exact .pure _
      · exact .throw _

theorem spares_updateMemberList (roomId : RoomId) (members : FinSet String) :
    Changes (SparesDb bucketId key)
      (updateMemberList faults Value roomId members) := by
  apply (Changes.serialize _ _).bind
  intro bytes
  exact spares_put faults
    (not_isKey (parseFragmentKey_memberListKey roomId)) bytes

/-- The member list is not the fragment. -/
theorem spares_persistMember (roomId : RoomId) (member : String) :
    Changes (SparesDb bucketId key)
      (persistMember faults Value roomId member) := by
  unfold persistMember
  dsimp only
  split
  · exact .pure _
  · exact (spares_loadMembers Value faults roomId).bind fun _ =>
      spares_updateMemberList Value faults roomId _

theorem spares_removeMember (roomId : RoomId) (member : String) :
    Changes (SparesDb bucketId key)
      (removeMember faults Value roomId member) :=
  (spares_loadMembers Value faults roomId).bind fun _ =>
    spares_updateMemberList Value faults roomId _

theorem spares_updateBucketList (roomId : RoomId) :
    Changes (SparesDb bucketId key)
      (updateBucketList faults Value roomId) := by
  have collects :
      Changes (SparesDb bucketId key) (collectBucketIds faults) :=
    (spares_iterator faults).bind fun _ => .pure _
  apply collects.bind
  intro ids
  apply (Changes.serialize _ _).bind
  intro bytes
  exact spares_put faults
    (not_isKey (parseFragmentKey_bucketListKey roomId)) bytes

omit [SerdeJson Value] in
theorem spares_updateCache (roomId : RoomId)
    (change : Map BucketId BucketRecord → Map BucketId BucketRecord) :
    Changes (SparesDb bucketId key) (updateCache roomId change) := by
  apply (spares_cacheGetBuckets roomId).bind
  intro found
  cases found with
  | none => exact .pure _
  | some buckets => exact spares_cachePutBuckets roomId _

/-- Neither a record nor the bucket list is the fragment. -/
theorem spares_persistBucket (roomId : RoomId) (other : BucketId)
    (label : Option String) (flags : UInt32) :
    Changes (SparesDb bucketId key)
      (persistBucket faults Value roomId other label flags) := by
  apply (Changes.serialize _ _).bind
  intro bytes
  apply (spares_put faults
    (not_isKey (parseFragmentKey_bucketKey other)) bytes).bind
  intro _
  apply (spares_updateBucketList Value faults roomId).bind
  intro _
  exact spares_updateCache roomId _

/-- The fragments of a removed bucket stay on disk. -/
theorem spares_removeBucket (roomId : RoomId) (other : BucketId) :
    Changes (SparesDb bucketId key)
      (removeBucket faults Value roomId other) := by
  apply (spares_delete faults
    (not_isKey (parseFragmentKey_bucketKey other))).bind
  intro _
  apply (spares_updateBucketList Value faults roomId).bind
  intro _
  exact spares_updateCache roomId _

theorem spares_readListed (out : Map BucketId BucketRecord)
    (other : BucketId) :
    Changes (SparesDb bucketId key) (readListed faults Value out other) := by
  apply (spares_get faults _).attempt.bind
  intro found
  split
  · split
    · exact .pure _
    · exact .pure _
  · exact .pure _

theorem spares_loadBuckets (roomId : RoomId) :
    Changes (SparesDb bucketId key) (loadBuckets faults Value roomId) := by
  apply (spares_cacheGetBuckets roomId).bind
  intro found
  cases found with
  | some entry => exact .pure entry
  | none =>
      apply (spares_get faults _).attempt.bind
      intro list
      split
      · apply (Changes.foldlM (spares_readListed Value faults) _ _).bind
        intro out
        exact (spares_cachePutBuckets roomId out).bind fun _ => .pure _
      · apply (spares_iterator faults).bind
        intro items
        exact (spares_cachePutBuckets roomId _).bind fun _ =>
          (spares_cachePutBuckets roomId _).bind fun _ => .pure _

/-- A room is read without a change of its entries. -/
theorem spares_readRoomData (roomId : RoomId) :
    Changes (SparesDb bucketId key)
      (readRoomData faults roomId : Storage (RoomData Value)) := by
  have scans : Changes (SparesDb bucketId key)
      (loadAllFragments faults :
        Storage (Map BucketId (Map String Value))) := by
    apply (spares_iterator faults).bind
    intro items
    split
    · exact .pure _
    · exact .throw _
  apply (spares_loadBuckets Value faults roomId).attempt.bind
  intro buckets
  apply (spares_loadMembers Value faults roomId).attempt.bind
  intro members
  apply scans.attempt.bind
  intro fragments
  cases fragments with
  | ok fragments => exact .pure _
  | error text => exact .throw _

end Storage

/-! ### Rooms in memory -/

section Rooms

variable {bucketId key} {room : RoomState Value}

omit [SerdeJson Value] in
/-- A loaded room that stays loaded, without a transaction, stays plain. -/
theorem Plain.change {later : RoomState Value} (plain : Plain room)
    (unlocked : later.ioLocked = room.ioLocked)
    (unbuffered : later.txBuffer = room.txBuffer)
    (loaded : later.loaded = true) : Plain later where
  unlocked := unlocked.trans plain.unlocked
  unbuffered := unbuffered.trans plain.unbuffered
  vacant unloaded := by
    rw [loaded] at unloaded
    cases unloaded

omit [SerdeJson Value] in
/-- A bucket that is made again keeps its fragments. -/
theorem leaves_newBucket (loaded : room.loaded = true) (other : BucketId)
    (label : String) :
    Leaves bucketId key room (RoomEffect.newBucket other label room) where
  entries entry found := by
    rw [RoomEffect.newBucket, getNested, lookup_insertIfNew] at found
    split at found
    · simp at found
    · exact found
  plain plain := plain.change rfl rfl loaded

omit [SerdeJson Value] in
/-- A deleted bucket may take the fragment along, but writes no other. -/
theorem leaves_deleteBucket (loaded : room.loaded = true)
    (other : BucketId) :
    Leaves bucketId key room (RoomEffect.deleteBucket other room) where
  entries entry found := by
    rw [RoomEffect.deleteBucket, getNested, lookup_erase] at found
    split at found
    · cases found
    · exact found
  plain plain := plain.change rfl rfl loaded

omit [SerdeJson Value] in
/-- A member is not the fragment. -/
theorem leaves_newMember (loaded : room.loaded = true) (member : String) :
    Leaves bucketId key room (RoomEffect.newMember member room) := by
  unfold RoomEffect.newMember
  split
  · exact .refl room
  · exact ⟨fun _ found => found, fun plain => plain.change rfl rfl loaded⟩

omit [SerdeJson Value] in
theorem leaves_deleteMember (loaded : room.loaded = true) (member : String) :
    Leaves bucketId key room (RoomEffect.deleteMember member room) :=
  ⟨fun _ found => found, fun plain => plain.change rfl rfl loaded⟩

omit [SerdeJson Value] in
/-- An unloaded room has no fragments. -/
theorem leaves_unload : Leaves bucketId key room room.unload where
  entries entry found := by simp [RoomState.unload] at found
  plain plain := ⟨plain.unlocked, plain.unbuffered, fun _ => rfl⟩

omit [SerdeJson Value] in
/-- A write of another fragment leaves this one alone. -/
theorem leaves_setFragment {other : BucketId} {name : String} {value : Value}
    {later : RoomState Value} (different : ¬(other = bucketId ∧ name = key))
    (stored : room.setFragment other name value = .ok later) :
    Leaves bucketId key room later := by
  unfold RoomState.setFragment at stored
  split at stored
  · cases stored
  · split at stored
    · cases stored
    · next notUnloaded =>
      have loaded : room.loaded = true := by simpa using notUnloaded
      split at stored
      · next buffer isOpen =>
        cases stored
        refine ⟨fun _ found => found, fun plain => ?_⟩
        rw [plain.unbuffered] at isOpen
        cases isOpen
      · cases stored
        refine ⟨?_, fun plain => plain.change rfl rfl loaded⟩
        intro entry found
        rw [RoomState.store, getNested_insertNested, if_neg different]
          at found
        exact found

end Rooms

/-! ### Commands -/

/-- The command writes the fragment. -/
def Writes : Commands → Prop
  | .writeFragment room bucket name _ =>
      room = roomId ∧ bucket = bucketId ∧ name = key
  | _ => False

/-- The command can install an older value of the fragment. -/
def Loads : Commands → Prop
  | .loadRoom room => room = roomId
  | _ => False

instance decidableWrites :
    ∀ command, Decidable (Writes roomId bucketId key command)
  | .writeFragment _ _ _ _ => inferInstanceAs (Decidable (_ ∧ _ ∧ _))
  | .newRoom _ | .newBucket _ _ _ | .deleteBucket _ _ | .newMember _ _
  | .deleteMember _ _ | .readFragment _ _ _ | .loadRoom _ | .unloadRoom _ =>
      .isFalse id

instance decidableLoads : ∀ command, Decidable (Loads roomId command)
  | .loadRoom _ => inferInstanceAs (Decidable (_ = _))
  | .newRoom _ | .newBucket _ _ _ | .deleteBucket _ _ | .newMember _ _
  | .deleteMember _ _ | .writeFragment _ _ _ _ | .readFragment _ _ _
  | .unloadRoom _ => .isFalse id

section Sections

variable {roomId bucketId key} {kernel : SyncpondKernel Value}

omit [SerdeJson Value] in
/-- A section that changes the persistence only. -/
theorem spares_persistence {manager : PersistenceManager}
    (disk : SparesDb bucketId key (kernel.persistence.view roomId)
      (manager.view roomId))
    (opened : roomId ∈ kernel.persistence.dbs → roomId ∈ manager.dbs) :
    Spares roomId bucketId key kernel
      { kernel with persistence := manager } where
  disk := disk
  opened := opened
  rooms later found := ⟨later, Or.inl found, .refl later⟩

omit [SerdeJson Value] in
/-- A section that keeps the rooms and the persistence. -/
theorem spares_same {after : SyncpondKernel Value}
    (persistence : after.persistence = kernel.persistence)
    (rooms : after.state.rooms = kernel.state.rooms) :
    Spares roomId bucketId key kernel after where
  disk := persistence ▸ AgreeOn.refl _
  opened := persistence ▸ id
  rooms later found := ⟨later, Or.inl (rooms ▸ found), .refl later⟩

omit [SerdeJson Value] in
/-- A section that changes a room. -/
theorem spares_setRoom {changed : RoomId} {room later : RoomState Value}
    (found : kernel.state.rooms[changed]? = some room)
    (leaves : changed = roomId → Leaves bucketId key room later) :
    Spares roomId bucketId key kernel { kernel with
      state := { kernel.state with
        rooms := kernel.state.rooms.insert changed later } } where
  disk := .refl _
  opened := id
  rooms other isRoom := by
    rw [lookup_insert] at isRoom
    split at isRoom
    · next same =>
      cases isRoom
      exact ⟨room, Or.inl (same ▸ found), leaves same⟩
    · exact ⟨other, Or.inl isRoom, .refl other⟩

omit [SerdeJson Value] in
/-- A change of a room spares the fragment if it leaves it alone in its own. -/
theorem spares_withRoom {changed : RoomId} {app : AppState Value}
    {mutate : RoomState Value → Except StateError (RoomState Value)}
    (leaves : changed = roomId → ∀ room later, mutate room = .ok later →
      Leaves bucketId key room later)
    (mutated : kernel.state.withRoom changed mutate = .ok app) :
    Spares roomId bucketId key kernel { kernel with state := app } := by
  obtain ⟨room, later, found, result, rfl⟩ := withRoom_ok mutated
  exact spares_setRoom found fun same => leaves same room later result

omit [SerdeJson Value] in
theorem spares_mutateRoom (changed : RoomId)
    {effect : RoomState Value → RoomState Value}
    (leaves : ∀ room, room.loaded = true →
      Leaves bucketId key room (effect room))
    (kernel : SyncpondKernel Value) :
    Spares roomId bucketId key kernel
      (kernel.mutateRoom changed effect).2 := by
  unfold SyncpondKernel.mutateRoom
  split
  · exact .refl kernel
  · next room found =>
    split
    · exact .refl kernel
    · next notUnloaded =>
      exact spares_setRoom found fun _ =>
        leaves room (by simpa using notUnloaded)

omit [SerdeJson Value] in
/-- A new room has no fragments. -/
theorem spares_createRoom (kernel : SyncpondKernel Value) :
    Spares roomId bucketId key kernel kernel.createRoom.2 where
  disk := .refl _
  opened := id
  rooms later found := by
    simp only [SyncpondKernel.createRoom, AppState.createRoom, lookup_insert]
      at found
    split at found
    · cases found
      exact ⟨_, Or.inr rfl, .refl _⟩
    · exact ⟨later, Or.inl found, .refl later⟩

omit [SerdeJson Value] in
theorem spares_labelRoom (labelled : RoomId) (name : String)
    (kernel : SyncpondKernel Value) :
    Spares roomId bucketId key kernel (kernel.labelRoom labelled name) := by
  unfold SyncpondKernel.labelRoom
  split
  · exact .refl kernel
  · split
    · next app result =>
      obtain ⟨labels, rfl⟩ := exists_setRoomLabel_eq result
      exact spares_same rfl rfl
    · exact .refl kernel

omit [SerdeJson Value] in
theorem spares_unloadRoom (evicted : RoomId) (kernel : SyncpondKernel Value) :
    Spares roomId bucketId key kernel (kernel.unloadRoom evicted).2 := by
  unfold SyncpondKernel.unloadRoom
  split
  · next app result =>
    apply spares_withRoom _ result
    rintro _ room later unloaded
    cases unloaded
    exact leaves_unload
  · exact .refl kernel

omit [SerdeJson Value] in
/-- A deleted room takes its memory along, and leaves its database. -/
theorem spares_deleteRoom (deleted : RoomId) (kernel : SyncpondKernel Value) :
    Spares roomId bucketId key kernel (kernel.deleteRoom deleted).2 := by
  unfold SyncpondKernel.deleteRoom AppState.deleteRoom
  split
  · next app result =>
    split at result
    · cases result
      refine ⟨.refl _, id, ?_⟩
      intro later found
      simp only [lookup_erase] at found
      split at found
      · cases found
      · exact ⟨later, Or.inl found, .refl later⟩
    · cases result
  · exact .refl kernel

omit [SerdeJson Value] in
/-- A write to another fragment. -/
theorem spares_commitWrite {changed : RoomId} {other : BucketId}
    {name : String}
    (different : ¬(changed = roomId ∧ other = bucketId ∧ name = key))
    (value : Value) (kernel : SyncpondKernel Value) :
    Spares roomId bucketId key kernel
      (kernel.commitWrite changed other name value).2 := by
  unfold SyncpondKernel.commitWrite
  split
  · next app result =>
    apply spares_withRoom _ result
    intro same room later stored
    exact leaves_setFragment (fun both => different ⟨same, both⟩) stored
  · exact .refl kernel

omit [SerdeJson Value] in
/-- A load of another room spares the fragment. -/
theorem spares_installRoomData {loaded : RoomId} (other : loaded ≠ roomId)
    (data : RoomData Value) (kernel : SyncpondKernel Value) :
    Spares roomId bucketId key kernel
      (kernel.installRoomData loaded data).2 := by
  unfold SyncpondKernel.installRoomData
  split
  · next app result =>
    exact spares_withRoom (fun same => absurd same other) result
  · exact .refl kernel

omit [SerdeJson Value] in
theorem spares_broadcast (origin : RoomId) (assigned : Option UInt64)
    (update : DataUpdate Value) (kernel : SyncpondKernel Value) :
    Spares roomId bucketId key kernel
      (kernel.broadcast origin assigned update) :=
  spares_same rfl rfl

omit [SerdeJson Value] in
/-- An operation on the database of a room. -/
theorem spares_writeBack {changed : RoomId} {room : RoomPersistence}
    (disk : changed = roomId →
      SparesDb bucketId key (kernel.persistence.view roomId) room) :
    Spares roomId bucketId key kernel { kernel with
      persistence := kernel.persistence.writeBack changed room } := by
  refine spares_persistence ?_ id
  rw [PersistenceManager.view_writeBack]
  split
  · next same => exact disk same
  · exact .refl _

end Sections

/-! ### Programs -/

section Programs

variable {roomId bucketId key} (faults : Faults)

omit [SerdeJson Value] in
theorem keepsTo_openRoomDb (opened : RoomId) :
    (Task.openRoomDb faults opened :
      Task Value (Except String Unit)).KeepsTo
        (Spares roomId bucketId key) := by
  apply Program.every_atomic
  intro kernel
  apply spares_persistence
  · rw [Provenance.view_openRoomDb]
    exact .refl _
  · exact fun isOpen =>
      (Folders.mem_dbs_openRoomDb ..).mpr (Or.inl isOpen)

omit [SerdeJson Value] in
/-- An operation on storage spares the fragment if its calls do. -/
theorem keepsTo_onRoom {Result : Type} {changed : RoomId}
    {operation : Storage Result}
    (spares : changed = roomId →
      Changes (SparesDb bucketId key) operation) :
    (Task.onRoom changed operation :
      Task Value (Option (Except String Result))).KeepsTo
        (Spares roomId bucketId key) := by
  apply Program.Every.bind (Program.every_atomic .refl)
  rintro (isClosed | isOpen)
  · trivial
  · refine Program.Every.bind ?_ fun _ => trivial
    by_cases same : changed = roomId
    · subst same
      exact Program.Every.zoom (fun _ _ keeps kernel =>
        spares_writeBack fun _ => keeps _) (spares rfl).effects
    · exact Program.Every.zoom (fun _ _ _ kernel =>
        spares_writeBack fun own => absurd own same)
        (Program.every_of_forall (fun _ _ => trivial) operation.run)

omit [SerdeJson Value] in
theorem keepsTo_persist {changed : RoomId} {operation : Storage Unit}
    (spares : changed = roomId →
      Changes (SparesDb bucketId key) operation) :
    (Task.persist faults changed operation : Task Value Unit).KeepsTo
      (Spares roomId bucketId key) :=
  Program.Every.bind (keepsTo_openRoomDb faults changed) fun _ =>
    Program.Every.bind (keepsTo_onRoom spares) fun _ => trivial

omit [SerdeJson Value] in
/-- A change spares the fragment in memory and in the database. -/
theorem keepsTo_mutateAndPersist (changed : RoomId)
    {effect : RoomState Value → RoomState Value} {operation : Storage Unit}
    (leaves : ∀ room, room.loaded = true →
      Leaves bucketId key room (effect room))
    (spares : Changes (SparesDb bucketId key) operation)
    (response : CommandResponse) :
    (mutateAndPersist faults changed effect operation response).KeepsTo
      (Spares roomId bucketId key) := by
  have releases : (Task.release : Task Value Unit).KeepsTo
      (Spares roomId bucketId key) :=
    Program.every_atomic .refl
  apply Program.Every.bind
    (Program.every_atomic (spares_mutateRoom changed leaves))
  rintro (_ | _ | _)
  · exact Program.Every.bind releases fun _ => trivial
  · exact Program.Every.bind releases fun _ => trivial
  · exact Program.Every.bind (keepsTo_persist faults fun _ => spares) fun _ =>
      Program.Every.bind releases fun _ => trivial

/-- A write of another fragment spares this one. -/
theorem keepsTo_writeFragment {changed : RoomId} {other : BucketId}
    {name : String}
    (different : ¬(changed = roomId ∧ other = bucketId ∧ name = key))
    (data : FragmentData) :
    (handleWriteFragment faults changed other name data :
      Task Value CommandResponse).KeepsTo (Spares roomId bucketId key) := by
  apply Program.Every.bind (Program.every_atomic .refl)
  intro isLoaded
  split
  · trivial
  · apply Program.Every.bind
      (Program.every_atomic (spares_commitWrite different _))
    intro assigned
    apply Program.Every.bind (keepsTo_persist faults fun same =>
      spares_persistFragment faults (fun both => different ⟨same, both⟩) _)
    intro _
    apply Program.Every.bind (Program.every_atomic .refl)
    intro roomCounter
    exact Program.Every.bind
      (Program.every_atomic (spares_broadcast _ _ _)) fun _ => trivial

/-- A load of another room spares the fragment in all its sections. -/
theorem keepsTo_loadRoom {loaded : RoomId} (other : loaded ≠ roomId) :
    (handleLoadRoom faults loaded :
      Task Value CommandResponse).KeepsTo (Spares roomId bucketId key) := by
  apply Program.Every.bind (keepsTo_openRoomDb faults loaded)
  rintro (text | ⟨⟩)
  · trivial
  · apply Program.Every.bind (keepsTo_onRoom fun same => absurd same other)
    rintro (_ | _ | data)
    · exact Program.every_atomic (spares_installRoomData other _)
    · trivial
    · exact Program.every_atomic (spares_installRoomData other data)

/-- A command that neither writes the fragment nor loads its room spares it. -/
theorem keepsTo_handleCommand {command : Commands}
    (writes : ¬Writes roomId bucketId key command)
    (loads : ¬Loads roomId command) :
    (handleCommand faults command : Task Value CommandResponse).KeepsTo
      (Spares roomId bucketId key) := by
  cases command with
  | newRoom name =>
      apply Program.Every.bind (Program.every_atomic spares_createRoom)
      intro created
      apply Program.Every.bind (keepsTo_openRoomDb faults created)
      intro _
      exact Program.Every.bind
        (Program.every_atomic (spares_labelRoom created name)) fun _ => trivial
  | newBucket changed other label =>
      exact keepsTo_mutateAndPersist faults changed
        (fun _ loaded => leaves_newBucket loaded other _)
        (spares_persistBucket Value faults _ _ _ _) _
  | deleteBucket changed other =>
      exact keepsTo_mutateAndPersist faults changed
        (fun _ loaded => leaves_deleteBucket loaded other)
        (spares_removeBucket Value faults _ _) _
  | newMember changed member =>
      exact keepsTo_mutateAndPersist faults changed
        (fun _ loaded => leaves_newMember loaded _)
        (spares_persistMember Value faults _ _) _
  | deleteMember changed member =>
      exact keepsTo_mutateAndPersist faults changed
        (fun _ loaded => leaves_deleteMember loaded _)
        (spares_removeMember Value faults _ _) _
  | writeFragment changed other name data =>
      exact keepsTo_writeFragment faults writes data
  | readFragment changed other name => exact Program.every_atomic .refl
  | loadRoom loaded => exact keepsTo_loadRoom faults loads
  | unloadRoom evicted =>
      exact Program.every_atomic (spares_unloadRoom evicted)

end Programs

end Syncpond.SparedFragments
