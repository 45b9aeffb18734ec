import Syncpond.DiskOperations
import Syncpond.LifetimeInvariants
import Syncpond.WrittenContent

/-!
# The format of the databases

`OnDbs` says that every database of the data directory has a property.  What
the five operations that write to a database preserve, every section of every
command keeps, and so it holds in every run of processes, whatever fails and
whenever a process ends.

The property is then the format of a database: its keys are of the four
families, and each value is what the codec of the family reads back.
-/

namespace Syncpond.DatabaseFormat

open Syncpond.Protocol
open Syncpond.Serde
open Syncpond.State
open Syncpond.Persistence
open Syncpond.Kernel
open Syncpond.Disks
open Syncpond.LifetimeInvariants
open Syncpond.Lifetimes
open Syncpond.Provenance
open Syncpond.StorageInvariants
open Syncpond.WrittenContent
open Syncpond.Library.Lru
open Syncpond.Library.Maps
open Syncpond.Library.Programs
open Syncpond.Library.Runs
open Syncpond.Library.Text

variable {Value : Type}

/-! ## Properties of all databases -/

/-- An operation preserves a property of the database, whatever the cache. -/
abbrev PreservesDb {Result : Type} (onDb : Db → Prop)
    (operation : Storage Result) : Prop :=
  Preserves (fun room => onDb room.db) (fun _ => True) operation

/-- Every database of the data directory has a property. -/
def OnDbs (onDb : RoomId → Db → Prop) (kernel : SyncpondKernel Value) :
    Prop :=
  ∀ roomId, onDb roomId (kernel.persistence.view roomId).db

section Reading

variable [SerdeJson Value] {onDb : Db → Prop} (faults : Faults)
variable (roomId : RoomId)

/-- A read leaves the database alone. -/
theorem preservesDb_get (key : String) :
    PreservesDb onDb (Storage.get faults key) :=
  (preserves_get faults key).mono fun _ _ => trivial

theorem preservesDb_iterator : PreservesDb onDb (Storage.iterator faults) :=
  (preserves_iterator faults).mono fun _ _ => trivial

theorem preservesDb_cacheGetBuckets :
    PreservesDb onDb (Storage.cacheGetBuckets roomId) :=
  (preserves_cacheGetBuckets roomId fun _ holds => holds).mono
    fun _ _ => trivial

theorem preservesDb_cachePutBuckets (buckets : Map BucketId BucketRecord) :
    PreservesDb onDb (Storage.cachePutBuckets roomId buckets) :=
  preserves_cachePutBuckets fun _ holds => holds

/-- The cache is no part of the database. -/
theorem preservesDb_updateCache
    (change : Map BucketId BucketRecord → Map BucketId BucketRecord) :
    PreservesDb onDb (updateCache roomId change) := by
  unfold updateCache
  apply (preservesDb_cacheGetBuckets roomId).bind
  intro found _
  cases found with
  | none => exact preserves_pure trivial
  | some buckets => exact preservesDb_cachePutBuckets roomId _

variable (Value)

theorem preservesDb_readListed (out : Map BucketId BucketRecord)
    (bucketId : BucketId) :
    PreservesDb onDb (readListed faults Value out bucketId) := by
  unfold readListed
  apply (preservesDb_get faults _).attempt.bind
  intro found _
  split
  · split
    · exact preserves_pure trivial
    · exact preserves_pure trivial
  · exact preserves_pure trivial

/-- Records are read without a change of the database. -/
theorem preservesDb_loadBuckets :
    PreservesDb onDb (loadBuckets faults Value roomId) := by
  unfold loadBuckets
  apply (preservesDb_cacheGetBuckets roomId).bind
  intro found _
  cases found with
  | some entry => exact preserves_pure trivial
  | none =>
      dsimp only
      apply (preservesDb_get faults _).attempt.bind
      intro list _
      split
      · next ids _ =>
        apply (preserves_foldlM (fun out bucketId _ =>
          preservesDb_readListed Value faults out bucketId) ids trivial).bind
        intro out _
        apply (preservesDb_cachePutBuckets roomId out).bind
        intro _ _
        exact preserves_pure trivial
      · apply (preservesDb_iterator faults).bind
        intro items _
        apply (preservesDb_cachePutBuckets roomId _).bind
        intro _ _
        apply (preservesDb_cachePutBuckets roomId _).bind
        intro _ _
        exact preserves_pure trivial

/-- Members are read without a change of the database. -/
theorem preservesDb_loadMembers :
    PreservesDb onDb (loadMembers faults Value roomId) := by
  unfold loadMembers
  apply (preservesDb_get faults _).bind
  intro found _
  cases found with
  | none => exact preserves_pure trivial
  | some bytes =>
      dsimp only
      split
      · exact preserves_pure trivial
      · exact preserves_throw _

/-- Loading a room changes no database. -/
theorem preservesDb_readRoomData :
    PreservesDb onDb
      (readRoomData faults roomId : Storage (RoomData Value)) := by
  unfold readRoomData
  apply (preservesDb_loadBuckets Value faults roomId).attempt.bind
  intro buckets _
  apply (preservesDb_loadMembers Value faults roomId).attempt.bind
  intro members _
  have scans : PreservesDb onDb (loadAllFragments faults :
      Storage (Map BucketId (Map String Value))) :=
    (preserves_scan faults).mono fun _ _ => trivial
  apply scans.attempt.bind
  intro fragments _
  cases fragments with
  | ok fragments => exact preserves_pure trivial
  | error text => exact preserves_throw _

end Reading

/-- The operations that write to a database preserve a property of it. -/
structure Written (Value : Type) [SerdeJson Value]
    (onDb : RoomId → Db → Prop) : Prop where
  empty : ∀ roomId, onDb roomId ∅
  fragment : ∀ faults roomId bucketId key (value : Value),
    PreservesDb (onDb roomId) (persistFragment faults (decimal bucketId) key
      (persistedValue value))
  bucket : ∀ faults roomId bucketId text,
    PreservesDb (onDb roomId) (persistBucket faults Value roomId bucketId
      (labelOption (trim text)) 0)
  noBucket : ∀ faults roomId bucketId,
    PreservesDb (onDb roomId) (removeBucket faults Value roomId bucketId)
  member : ∀ faults roomId text,
    PreservesDb (onDb roomId) (persistMember faults Value roomId text)
  noMember : ∀ faults roomId text,
    PreservesDb (onDb roomId) (removeMember faults Value roomId text)

section Commands

variable {onDb : RoomId → Db → Prop} {kernel : SyncpondKernel Value}

namespace OnDbs

/-- The state in memory is no part of the databases. -/
theorem congr (onDbs : OnDbs onDb kernel) {after : SyncpondKernel Value}
    (persistence : after.persistence = kernel.persistence) :
    OnDbs onDb after := by
  intro roomId
  rw [persistence]
  exact onDbs roomId

/-- A database that is opened is as it was. -/
theorem openRoomDb (onDbs : OnDbs onDb kernel) (faults : Faults)
    (roomId : RoomId) :
    OnDbs onDb { kernel with
      persistence := (kernel.persistence.openRoomDb faults roomId).1 } := by
  intro other
  dsimp only
  rw [view_openRoomDb]
  exact onDbs other

/-- A database that an operation leaves takes the place of the old one. -/
theorem writeBack (onDbs : OnDbs onDb kernel) {roomId : RoomId}
    {room : RoomPersistence} (holds : onDb roomId room.db) :
    OnDbs onDb { kernel with
      persistence := kernel.persistence.writeBack roomId room } := by
  intro other
  dsimp only
  rw [PersistenceManager.view_writeBack]
  dsimp only
  split
  · next same => exact same ▸ holds
  · exact onDbs other

theorem mutateRoom (onDbs : OnDbs onDb kernel) (roomId : RoomId)
    (effect : RoomState Value → RoomState Value) :
    OnDbs onDb (kernel.mutateRoom roomId effect).2 := by
  unfold SyncpondKernel.mutateRoom
  split
  · exact onDbs
  · split
    · exact onDbs
    · exact onDbs.congr rfl

theorem labelRoom (onDbs : OnDbs onDb kernel) (roomId : RoomId)
    (name : String) : OnDbs onDb (kernel.labelRoom roomId name) := by
  unfold SyncpondKernel.labelRoom
  split
  · exact onDbs
  · split
    · exact onDbs.congr rfl
    · exact onDbs

theorem unloadRoom (onDbs : OnDbs onDb kernel) (roomId : RoomId) :
    OnDbs onDb (kernel.unloadRoom roomId).2 := by
  unfold SyncpondKernel.unloadRoom
  split
  · exact onDbs.congr rfl
  · exact onDbs

/-- A deleted room leaves its database where it is. -/
theorem deleteRoom (onDbs : OnDbs onDb kernel) (roomId : RoomId) :
    OnDbs onDb (kernel.deleteRoom roomId).2 := by
  unfold SyncpondKernel.deleteRoom
  split
  · exact onDbs.congr rfl
  · exact onDbs

theorem installRoomData (onDbs : OnDbs onDb kernel) (roomId : RoomId)
    (data : RoomData Value) :
    OnDbs onDb (kernel.installRoomData roomId data).2 := by
  unfold SyncpondKernel.installRoomData
  split
  · exact onDbs.congr rfl
  · exact onDbs

/-- A process that starts finds the databases of the one before. -/
theorem boot {dirs : Map String Db}
    (onDbs : ∀ roomId, onDb roomId (dirs[roomDir roomId]?.getD ∅))
    (faults : Faults) :
    OnDbs onDb (boot faults dirs : SyncpondKernel Value) := by
  intro roomId
  rw [view_boot]
  exact onDbs roomId

end OnDbs

theorem OnDbs.commitWrite (onDbs : OnDbs onDb kernel) (roomId : RoomId)
    (bucketId : BucketId) (key : String) (parsed : Value) :
    OnDbs onDb (kernel.commitWrite roomId bucketId key parsed).2 := by
  unfold SyncpondKernel.commitWrite
  split
  · exact onDbs.congr rfl
  · exact onDbs

variable (faults : Faults) {roomId : RoomId}

/-- An operation of a command keeps what it preserves. -/
theorem keeps_persistDb {operation : Storage Unit}
    (preserves : PreservesDb (onDb roomId) operation) :
    KeepsAlways (OnDbs onDb)
      (Task.persist faults roomId operation : Task Value Unit) :=
  keeps_persist preserves (fun _ onDbs => onDbs.openRoomDb faults roomId)
    (fun _ onDbs => onDbs roomId) fun _ _ onDbs holds => onDbs.writeBack holds

variable [SerdeJson Value]

/-- Every command keeps what the writing operations preserve. -/
theorem keepsDbs_handleCommand (written : Written Value onDb)
    (command : Commands) :
    KeepsAlways (OnDbs onDb)
      (handleCommand faults command : Task Value CommandResponse) := by
  have changes {roomId : RoomId} {effect : RoomState Value → RoomState Value}
      {operation : Storage Unit}
      (preserves : PreservesDb (onDb roomId) operation)
      (response : CommandResponse) :
      KeepsAlways (OnDbs onDb)
        (mutateAndPersist faults roomId effect operation response) :=
    keeps_mutateAndPersist (fun _ onDbs => onDbs.mutateRoom roomId effect)
      (keeps_persistDb faults preserves) response
  cases command with
  | newRoom name =>
      apply keeps_newRoom
      · exact fun _ onDbs => onDbs.congr rfl
      · exact fun _ roomId onDbs => onDbs.openRoomDb faults roomId
      · exact fun _ roomId onDbs => onDbs.labelRoom roomId name
  | newBucket roomId bucketId label =>
      exact changes (written.bucket faults roomId bucketId label) _
  | deleteBucket roomId bucketId =>
      exact changes (written.noBucket faults roomId bucketId) _
  | newMember roomId member =>
      exact changes (written.member faults roomId (trim member)) _
  | deleteMember roomId member =>
      exact changes (written.noMember faults roomId (trim member)) _
  | writeFragment roomId bucketId key data =>
      apply keeps_writeFragment
      · exact fun _ onDbs => onDbs.commitWrite roomId bucketId key _
      · exact keeps_persistDb faults
          (written.fragment faults roomId bucketId key _)
      · exact fun _ _ _ onDbs => onDbs.congr rfl
  | readFragment roomId bucketId key =>
      exact Program.keeps_read fun _ _ => trivial
  | loadRoom roomId =>
      have reads : PreservesDb (onDb roomId)
          (readRoomData faults roomId : Storage (RoomData Value)) :=
        preservesDb_readRoomData Value faults roomId
      refine keeps_loadRoom ?_ (keeps_onRoom reads ?_ ?_) trivial ?_
      · exact fun _ onDbs => onDbs.openRoomDb faults roomId
      · exact fun _ onDbs => onDbs roomId
      · exact fun _ _ onDbs holds => onDbs.writeBack holds
      · exact fun _ data _ onDbs => onDbs.installRoomData roomId data
  | unloadRoom roomId =>
      exact Program.keeps_atomic fun _ onDbs =>
        ⟨onDbs.unloadRoom roomId, trivial⟩

/-- Whatever happens to a process, every database keeps the property. -/
theorem lasting_onDbs (written : Written Value onDb) :
    Lasting (OnDbs onDb : SyncpondKernel Value → Prop) where
  command faults command := keepsDbs_handleCommand faults written command
  deleteRoom _ roomId onDbs := onDbs.deleteRoom roomId
  channel _ _ onDbs := onDbs.congr rfl
  restart _ faults onDbs := OnDbs.boot onDbs faults
  start := by
    apply OnDbs.boot
    intro roomId
    simpa using written.empty roomId

end Commands

/-! ## The format -/

/-- A text without whitespace at its ends, and not empty. -/
def Tidy (text : String) : Prop :=
  text.isEmpty = false ∧ trim text = text

/-- A text is tidy once it is trimmed, unless it is blank. -/
theorem tidy_trim {text : String} (notBlank : (trim text).isEmpty = false) :
    Tidy (trim text) :=
  ⟨notBlank, trim_trim text⟩

variable [SerdeJson Value]

variable (Value) in
/--
What is stored under a key: a value that is not null, a bucket record under
its own id, or an ascending list.
-/
inductive WellFormedEntry : DbKey → ByteArray → Prop
  | fragment {bucketId : BucketId} {key : String} {bytes : ByteArray}
      (value : Value)
      (read : SerdeJson.value.fromSlice bytes = .ok value)
      (live : SerdeJson.isNull value = false) :
      WellFormedEntry (.fragment bucketId key) bytes
  | bucket {bucketId : BucketId} {bytes : ByteArray} (label : Option String)
      (read : (SerdeJson.bucketRecord Value).fromSlice bytes =
        .ok ⟨bucketId, label, 0⟩)
      (tidy : ∀ text, label = some text → Tidy text) :
      WellFormedEntry (.bucket bucketId) bytes
  | bucketList {bytes : ByteArray} (ids : List BucketId)
      (read : (SerdeJson.bucketIds Value).fromSlice bytes = .ok ids)
      (ascending : ids.Pairwise (· < ·)) :
      WellFormedEntry .bucketList bytes
  | memberList {bytes : ByteArray} (members : List String)
      (read : (SerdeJson.memberList Value).fromSlice bytes = .ok members)
      (ascending : members.Pairwise fun left right =>
        compare left right = .lt)
      (tidy : ∀ member ∈ members, Tidy member) :
      WellFormedEntry .memberList bytes

variable (Value) in
/-- The database of a room holds entries of the four families only. -/
def WellFormed (roomId : RoomId) (db : Db) : Prop :=
  ∀ (text : String) (bytes : ByteArray), db[text]? = some bytes →
    ∃ key : DbKey, text = key.text roomId ∧ WellFormedEntry Value key bytes

namespace WellFormed

variable {roomId : RoomId} {db : Db} (wellFormed : WellFormed Value roomId db)

include wellFormed

/-- Every key of a well-formed database is one of the four kinds. -/
theorem onlyDbKeys : OnlyDbKeys roomId db := by
  intro text member
  obtain ⟨bytes, stored⟩ := Option.isSome_iff_exists.mp
    (Std.ExtTreeMap.mem_iff_isSome_getElem?.mp member)
  obtain ⟨key, isKey, _⟩ := wellFormed text bytes stored
  exact ⟨key, isKey⟩

/-- The entry under a key is of the family of the key. -/
theorem entry {key : DbKey} {bytes : ByteArray}
    (stored : db[key.text roomId]? = some bytes) :
    WellFormedEntry Value key bytes := by
  obtain ⟨other, same, entry⟩ := wellFormed _ _ stored
  rw [text_inj] at same
  exact same ▸ entry

/-- A well-formed entry can be put. -/
theorem insert {key : DbKey} {bytes : ByteArray}
    (entry : WellFormedEntry Value key bytes) :
    WellFormed Value roomId (db.insert (key.text roomId) bytes) := by
  intro text other stored
  rw [lookup_insert] at stored
  split at stored
  · next same =>
    cases stored
    exact ⟨key, same.symm, entry⟩
  · exact wellFormed text other stored

/-- Any entry can be deleted. -/
theorem erase (text : String) : WellFormed Value roomId (db.erase text) := by
  intro other bytes stored
  rw [lookup_erase] at stored
  split at stored
  · cases stored
  · exact wellFormed other bytes stored

end WellFormed

theorem wellFormed_empty (roomId : RoomId) : WellFormed Value roomId ∅ := by
  intro text bytes stored
  simp at stored

/-! ### What the operations write -/

section Operations

variable (faults : Faults) (roomId : RoomId)

theorem wellFormed_put {key : DbKey} {bytes : ByteArray}
    (entry : WellFormedEntry Value key bytes) :
    PreservesDb (WellFormed Value roomId)
      (Storage.put faults (key.text roomId) bytes) :=
  preserves_put faults fun _ kept => kept.insert entry

/-- Null is deleted, and every other value is put in its format. -/
theorem wellFormed_persistFragment (bucketId : BucketId) (key : String)
    (value : Value) :
    PreservesDb (WellFormed Value roomId)
      (persistFragment faults (decimal bucketId) key
        (persistedValue value)) := by
  unfold persistFragment persistedValue
  cases null : SerdeJson.isNull value with
  | true => exact preserves_delete faults fun _ kept => kept.erase _
  | false =>
      apply (preserves_serialize _ value).bind
      intro bytes read
      have entry : WellFormedEntry Value (.fragment bucketId key) bytes :=
        .fragment value read null
      have stores := wellFormed_put faults roomId entry
      exact stores

/-- The members that are read are tidy. -/
theorem wellFormed_loadMembers :
    Preserves (fun room => WellFormed Value roomId room.db)
      (fun members => ∀ member ∈ members, Tidy member)
      (loadMembers faults Value roomId) := by
  unfold loadMembers
  apply (preserves_get faults _).bind
  rintro found ⟨room, wellFormed, isFound⟩
  cases found with
  | none =>
      apply preserves_pure
      intro member inside
      simp at inside
  | some bytes =>
      dsimp only
      split
      · next list read =>
        apply preserves_pure
        intro member inside
        have entry : WellFormedEntry Value .memberList bytes :=
          wellFormed.entry isFound
        cases entry with
        | memberList members isRead _ tidy =>
            cases read.symm.trans isRead
            rw [Std.ExtTreeSet.mem_ofList] at inside
            exact tidy member (by simpa using inside)
      · exact preserves_throw _

/-- The member list is put in ascending order. -/
theorem wellFormed_updateMemberList {members : FinSet String}
    (tidy : ∀ member ∈ members, Tidy member) :
    PreservesDb (WellFormed Value roomId)
      (updateMemberList faults Value roomId members) := by
  unfold updateMemberList
  apply (preserves_serialize _ members.toList).bind
  intro bytes read
  have entry : WellFormedEntry Value .memberList bytes := by
    apply WellFormedEntry.memberList members.toList read
    · exact Std.ExtTreeSet.ordered_toList
    · exact fun member inside => tidy member (by simpa using inside)
  have stores := wellFormed_put faults roomId entry
  exact stores

/-- A member is trimmed before it is added to the list. -/
theorem wellFormed_persistMember (text : String) :
    PreservesDb (WellFormed Value roomId)
      (persistMember faults Value roomId text) := by
  unfold persistMember
  dsimp only
  split
  · exact preserves_pure trivial
  · next notBlank =>
    apply (wellFormed_loadMembers faults roomId).bind
    intro members tidy
    apply wellFormed_updateMemberList faults roomId
    intro member inside
    rcases mem_set_insert.mp inside with rfl | before
    · exact tidy_trim (Bool.eq_false_iff.mpr notBlank)
    · exact tidy member before

theorem wellFormed_removeMember (text : String) :
    PreservesDb (WellFormed Value roomId)
      (removeMember faults Value roomId text) := by
  unfold removeMember
  apply (wellFormed_loadMembers faults roomId).bind
  intro members tidy
  apply wellFormed_updateMemberList faults roomId
  intro member inside
  exact tidy member (Std.ExtTreeSet.mem_of_mem_erase inside)

/-- No two keys of a well-formed database are of the same bucket. -/
theorem WellFormed.parseBucketKey_ne {db : Db}
    (wellFormed : WellFormed Value roomId db)
    {entries : List (String × ByteArray)} (isPart : entries.Sublist db.toList) :
    (entries.filterMap fun entry => parseBucketKey entry.1).Nodup := by
  have distinct : entries.Pairwise fun left right => left.1 ≠ right.1 :=
    (pairwise_keys_ne db).sublist isPart
  apply List.pairwise_filterMap.mpr
  apply distinct.imp_of_mem
  rintro ⟨text, bytes⟩ ⟨other, otherBytes⟩ member isOther different bucketId
    parsed same isSame rfl
  apply different
  have stored := Std.ExtTreeMap.mem_toList_iff_getElem?_eq_some.mp
    (isPart.subset member)
  have isStored := Std.ExtTreeMap.mem_toList_iff_getElem?_eq_some.mp
    (isPart.subset isOther)
  obtain ⟨key, rfl, _⟩ := wellFormed _ _ stored
  obtain ⟨otherKey, rfl, _⟩ := wellFormed _ _ isStored
  dsimp only at parsed isSame
  rw [parseBucketKey_text] at parsed isSame
  cases key with
  | bucket =>
      cases otherKey with
      | bucket =>
          cases parsed
          cases isSame
          rfl
      | _ => cases isSame
  | _ => cases parsed

omit [SerdeJson Value] in
/-- Distinct ids are strictly ascending once they are sorted. -/
theorem ascending_insertionSort {ids : List BucketId} (nodup : ids.Nodup) :
    (ids.insertionSort (· ≤ ·)).Pairwise (· < ·) := by
  have distinct := (List.perm_insertionSort (· ≤ ·) ids).nodup_iff.mpr nodup
  have sorted := List.pairwise_insertionSort (· ≤ ·) ids
  exact (sorted.and distinct).imp fun both =>
    UInt64.lt_of_le_of_ne both.1 both.2

/-- The ids of a scan are strictly ascending. -/
theorem wellFormed_collectBucketIds :
    Preserves (fun room => WellFormed Value roomId room.db)
      (fun ids => ids.Pairwise (· < ·)) (collectBucketIds faults) := by
  unfold collectBucketIds
  apply (preserves_traversal faults).bind
  rintro items ⟨room, wellFormed, isPart⟩
  apply preserves_pure
  have nodup := wellFormed.parseBucketKey_ne roomId isPart
  rw [List.filterMap_filterMap] at nodup
  apply ascending_insertionSort
  refine (congrArg List.Nodup (List.filterMap_congr ?_)).mp nodup
  intro item _
  cases item <;> rfl

/-- The bucket list is put in ascending order. -/
theorem wellFormed_updateBucketList :
    PreservesDb (WellFormed Value roomId)
      (updateBucketList faults Value roomId) := by
  unfold updateBucketList
  apply (wellFormed_collectBucketIds faults roomId).bind
  intro ids ascending
  apply (preserves_serialize _ ids).bind
  intro bytes read
  have entry : WellFormedEntry Value .bucketList bytes :=
    .bucketList ids read ascending
  have stores := wellFormed_put faults roomId entry
  exact stores

/-- A record is put under its own id, with a trimmed label. -/
theorem wellFormed_persistBucket (bucketId : BucketId) (text : String) :
    PreservesDb (WellFormed Value roomId)
      (persistBucket faults Value roomId bucketId
        (labelOption (trim text)) 0) := by
  let record : BucketRecord := ⟨bucketId, labelOption (trim text), 0⟩
  apply (preserves_serialize _ record).bind
  intro bytes read
  have entry : WellFormedEntry Value (.bucket bucketId) bytes := by
    apply WellFormedEntry.bucket (labelOption (trim text)) read
    intro label isLabel
    unfold labelOption at isLabel
    split at isLabel
    · cases isLabel
    · next notBlank =>
      cases isLabel
      exact tidy_trim (Bool.eq_false_iff.mpr notBlank)
  have stores := wellFormed_put faults roomId entry
  apply stores.bind
  intro _ _
  apply (wellFormed_updateBucketList faults roomId).bind
  intro _ _
  exact preservesDb_updateCache roomId _

theorem wellFormed_removeBucket (bucketId : BucketId) :
    PreservesDb (WellFormed Value roomId)
      (removeBucket faults Value roomId bucketId) := by
  apply (preserves_delete faults fun _ kept => kept.erase _).bind
  intro _ _
  apply (wellFormed_updateBucketList faults roomId).bind
  intro _ _
  exact preservesDb_updateCache roomId _

end Operations

/-- Every write of the persistence layer keeps the database well formed. -/
theorem written_wellFormed : Written Value (WellFormed Value) where
  empty := wellFormed_empty
  fragment := wellFormed_persistFragment
  bucket := wellFormed_persistBucket
  noBucket := wellFormed_removeBucket
  member := wellFormed_persistMember
  noMember := wellFormed_removeMember

/--
In every run of processes, with any commands in progress at once, any failures
of the storage and any crashes, the database of every room is well formed.
-/
theorem databases_well_formed {life : Lifetime Value}
    (reached : Reached life) (roomId : RoomId) :
    WellFormed Value roomId (life.kernel.persistence.view roomId).db :=
  (lasting_onDbs written_wellFormed).of_reached reached roomId

/-! ### A crash between a record and the list -/

/-- The process ends after the record of a bucket is put, before its list is. -/
def crashBeforeList : List LifetimeEvent :=
  .command .none (.newRoom "room") :: List.replicate 3 (.advance 0) ++
  .command .none (.newBucket 1 5 " notes ") ::
    List.replicate 4 (.advance 1) ++ [.restart .none]

theorem databases_well_formed_crashBeforeList :
    ∃ life : Lifetime Json,
      (life.kernel.persistence.view 1).db.keys = ["bucket:5"] ∧
        WellFormed Json 1 (life.kernel.persistence.view 1).db := by
  have ran : (crashBeforeList.foldlM Lifetime.step
      (.start : Lifetime Json)).map (fun life =>
        (life.kernel.persistence.view 1).db.keys) = some ["bucket:5"] := by
    decide +kernel
  obtain ⟨life, ran, keys⟩ := Option.map_eq_some_iff.mp ran
  exact ⟨life, keys, databases_well_formed (follows_of_foldlM ran) 1⟩

end Syncpond.DatabaseFormat
