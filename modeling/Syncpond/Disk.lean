import Mathlib.Logic.Function.Basic
import Syncpond.Persistence

/-!
# What the database of a room says

A `Disk` is the purpose of the database of a room: its bucket records, its
fragments and its members.  `Represents` relates a database to the disk it
stands for, family of keys by family of keys, and the storage operations are
shown to implement, when nothing fails, the corresponding operations on disks.
-/

namespace Syncpond.Disks

open Syncpond.Protocol
open Syncpond.Serde
open Syncpond.Persistence
open Syncpond.Library.Maps
open Syncpond.Library.Lru
open Syncpond.Library.Text
open Syncpond.Library.JsonText (Codec)

/-- The persisted content of a room. -/
structure Disk (Value : Type) where
  records : Map BucketId BucketRecord
  fragments : BucketId → Map String Value
  members : FinSet String

/-- The content of a new database. -/
def Disk.empty {Value : Type} : Disk Value where
  records := ∅
  fragments := fun _ => ∅
  members := ∅

/-! ## The keys of a database -/

/-- The four families of keys. -/
inductive DbKey where
  | fragment (bucketId : BucketId) (key : String)
  | bucket (bucketId : BucketId)
  | bucketList
  | memberList
deriving DecidableEq

/-- The text of a key in the database of a room. -/
def DbKey.text (roomId : RoomId) : DbKey → String
  | .fragment bucketId key => fragmentKey (decimal bucketId) key
  | .bucket bucketId => bucketKey bucketId
  | .bucketList => bucketListKey roomId
  | .memberList => memberListKey roomId

/-- Only the key of a fragment is read as one. -/
@[simp]
theorem parseFragmentKey_text (roomId : RoomId) (key : DbKey) :
    parseFragmentKey (key.text roomId) =
      match key with
      | .fragment bucketId inner => some (bucketId, inner)
      | _ => none := by
  cases key <;> simp [DbKey.text]

/-- Only the key of a bucket record is read as one. -/
@[simp]
theorem parseBucketKey_text (roomId : RoomId) (key : DbKey) :
    parseBucketKey (key.text roomId) =
      match key with
      | .bucket bucketId => some bucketId
      | _ => none := by
  cases key <;> simp [DbKey.text]

/-- Different keys have different texts. -/
@[simp]
theorem text_inj {roomId : RoomId} {key other : DbKey} :
    key.text roomId = other.text roomId ↔ key = other := by
  constructor
  · intro equal
    have fragments := congrArg parseFragmentKey equal
    have buckets := congrArg parseBucketKey equal
    have lists := bucketListKey_ne_memberListKey roomId
    simp only [parseFragmentKey_text, parseBucketKey_text]
      at fragments buckets
    cases key <;> cases other
    all_goals first
      | cases fragments <;> rfl
      | cases buckets <;> rfl
      | rfl
      | exact absurd equal lists
      | exact absurd equal.symm lists
  · rintro rfl
    rfl

section Relations

variable {Value : Type} [SerdeJson Value]
variable (roomId : RoomId) (db : Db)

/-- The database has no other keys. -/
def OnlyDbKeys : Prop :=
  ∀ text, text ∈ db → ∃ key : DbKey, text = key.text roomId

/-- The value under a key, as the codec of its family reads it. -/
def decoded {α : Type} (codec : Codec α) (key : DbKey) :
    Option (Except String α) :=
  db[key.text roomId]?.map codec.fromSlice

/-- The fragment keys hold the fragments. -/
def HasFragments (fragments : BucketId → Map String Value) : Prop :=
  ∀ bucketId key,
    decoded roomId db SerdeJson.value (.fragment bucketId key) =
      (fragments bucketId)[key]?.map .ok

variable (Value)

/-- The bucket keys hold the records, each under its id. -/
structure HasRecords (records : Map BucketId BucketRecord) : Prop where
  stored : ∀ bucketId,
    decoded roomId db (SerdeJson.bucketRecord Value) (.bucket bucketId) =
      records[bucketId]?.map .ok
  identified : ∀ (bucketId : BucketId) (record : BucketRecord),
    records[bucketId]? = some record → record.id = bucketId

/-- The bucket list, when there is one, lists the ids of the records. -/
def HasBucketList (records : Map BucketId BucketRecord) : Prop :=
  (decoded roomId db (SerdeJson.bucketIds Value) .bucketList = none ∧
      records = ∅) ∨
    ∃ ids, decoded roomId db (SerdeJson.bucketIds Value) .bucketList =
        some (.ok ids) ∧ ∀ bucketId, bucketId ∈ ids ↔ bucketId ∈ records

/-- The member list, when there is one, lists the members. -/
def HasMembers (members : FinSet String) : Prop :=
  (decoded roomId db (SerdeJson.memberList Value) .memberList = none ∧
      members = ∅) ∨
    ∃ list, decoded roomId db (SerdeJson.memberList Value) .memberList =
        some (.ok list) ∧ members = Std.ExtTreeSet.ofList list compare

variable {Value}

/-- A database stands for a disk. -/
structure Represents (disk : Disk Value) : Prop where
  onlyDbKeys : OnlyDbKeys roomId db
  fragments : HasFragments roomId db disk.fragments
  records : HasRecords Value roomId db disk.records
  bucketList : HasBucketList Value roomId db disk.records
  members : HasMembers Value roomId db disk.members

/-- An empty database has nothing on disk. -/
theorem represents_empty : Represents roomId ∅ (.empty : Disk Value) where
  onlyDbKeys := by
    intro text member
    simp at member
  fragments := by
    intro bucketId key
    simp [decoded, Disk.empty]
  records := by
    constructor <;> simp [decoded, Disk.empty]
  bucketList := by
    left
    simp [decoded, Disk.empty]
  members := by
    left
    simp [decoded, Disk.empty]

/-! ### What a write under one key changes -/

variable {roomId db}

omit [SerdeJson Value] in
/-- What is read after an entry was put. -/
theorem decoded_insert {α : Type} (codec : Codec α) (key other : DbKey)
    (bytes : ByteArray) :
    decoded roomId (db.insert (key.text roomId) bytes) codec other =
      if key = other then some (codec.fromSlice bytes)
      else decoded roomId db codec other := by
  unfold decoded
  rw [lookup_insert]
  by_cases same : key = other
  · simp [same]
  · simp [same]

omit [SerdeJson Value] in
/-- What is read after an entry was deleted. -/
theorem decoded_erase {α : Type} (codec : Codec α) (key other : DbKey) :
    decoded roomId (db.erase (key.text roomId)) codec other =
      if key = other then none else decoded roomId db codec other := by
  unfold decoded
  rw [lookup_erase]
  by_cases same : key = other
  · simp [same]
  · simp [same]

omit [SerdeJson Value] in
theorem OnlyDbKeys.insert (only : OnlyDbKeys roomId db) (key : DbKey)
    (bytes : ByteArray) :
    OnlyDbKeys roomId (db.insert (key.text roomId) bytes) := by
  intro text member
  rcases Std.ExtTreeMap.mem_insert.mp member with equal | older
  · exact ⟨key, (Std.LawfulEqCmp.compare_eq_iff_eq.mp equal).symm⟩
  · exact only text older

omit [SerdeJson Value] in
theorem OnlyDbKeys.erase (only : OnlyDbKeys roomId db) (key : DbKey) :
    OnlyDbKeys roomId (db.erase (key.text roomId)) := by
  intro text member
  exact only text (Std.ExtTreeMap.mem_of_mem_erase member)

/-- Set or remove a fragment of a disk. -/
def putFragment (fragments : BucketId → Map String Value)
    (bucketId : BucketId) (key : String) (value : Option Value) :
    BucketId → Map String Value :=
  Function.update fragments bucketId
    (match value with
    | some value => (fragments bucketId).insert key value
    | none => (fragments bucketId).erase key)

omit [SerdeJson Value] in
/-- The fragments after one of them was put or deleted. -/
theorem lookup_putFragment (fragments : BucketId → Map String Value)
    (bucketId other : BucketId) (key otherKey : String)
    (value : Option Value) :
    (putFragment fragments bucketId key value other)[otherKey]? =
      if bucketId = other ∧ key = otherKey then value
      else (fragments other)[otherKey]? := by
  unfold putFragment
  by_cases sameBucket : bucketId = other
  · subst sameBucket
    cases value with
    | some value => simp [lookup_insert]
    | none => simp [lookup_erase]
  · have different : other ≠ bucketId := fun equal => sameBucket equal.symm
    simp [sameBucket, different]

/-- A value that is put is one of the fragments. -/
theorem HasFragments.insert {fragments : BucketId → Map String Value}
    (has : HasFragments roomId db fragments)
    (bucketId : BucketId) (key : String) {value : Value}
    {bytes : ByteArray} (read : SerdeJson.value.fromSlice bytes = .ok value) :
    HasFragments roomId
      (db.insert ((DbKey.fragment bucketId key).text roomId) bytes)
      (putFragment fragments bucketId key (some value)) := by
  intro other otherKey
  rw [decoded_insert, lookup_putFragment]
  by_cases same : bucketId = other ∧ key = otherKey
  · simp [same, read]
  · simp [same, has other otherKey]

theorem HasFragments.erase {fragments : BucketId → Map String Value}
    (has : HasFragments roomId db fragments)
    (bucketId : BucketId) (key : String) :
    HasFragments roomId
      (db.erase ((DbKey.fragment bucketId key).text roomId))
      (putFragment fragments bucketId key none) := by
  intro other otherKey
  rw [decoded_erase, lookup_putFragment]
  by_cases same : bucketId = other ∧ key = otherKey
  · simp [same]
  · simp [same, has other otherKey]

/-- The family of a key, up to its parameters. -/
inductive Family where
  | fragments
  | records
  | bucketList
  | members
deriving DecidableEq

@[simp]
def DbKey.family : DbKey → Family
  | .fragment _ _ => .fragments
  | .bucket _ => .records
  | .bucketList => .bucketList
  | .memberList => .members

/-- Two databases agree on the keys of a family. -/
def SameFamily (roomId : RoomId) (family : Family) (db after : Db) : Prop :=
  ∀ key : DbKey, key.family = family →
    after[key.text roomId]? = db[key.text roomId]?

/-- An entry of another kind changes nothing in the family. -/
theorem sameFamily_insert {family : Family} {key : DbKey}
    (other : key.family ≠ family) (bytes : ByteArray) :
    SameFamily roomId family db (db.insert (key.text roomId) bytes) := by
  intro checked inFamily
  have different : key ≠ checked := by
    rintro rfl
    exact other inFamily
  simp [lookup_insert, different]

theorem sameFamily_erase {family : Family} {key : DbKey}
    (other : key.family ≠ family) :
    SameFamily roomId family db (db.erase (key.text roomId)) := by
  intro checked inFamily
  have different : key ≠ checked := by
    rintro rfl
    exact other inFamily
  simp [lookup_erase, different]

variable {after : Db}

omit [SerdeJson Value] in
/-- Entries of the same family are read the same. -/
theorem decoded_congr {α : Type} {family : Family}
    (same : SameFamily roomId family db after) (codec : Codec α)
    {key : DbKey} (inFamily : key.family = family) :
    decoded roomId after codec key = decoded roomId db codec key := by
  rw [decoded, decoded, same key inFamily]

theorem HasFragments.congr {fragments : BucketId → Map String Value}
    (has : HasFragments roomId db fragments)
    (same : SameFamily roomId .fragments db after) :
    HasFragments roomId after fragments := by
  intro bucketId key
  rw [decoded_congr same _ rfl]
  exact has bucketId key

/-- The records depend on their own family only. -/
theorem HasRecords.congr {records : Map BucketId BucketRecord}
    (has : HasRecords Value roomId db records)
    (same : SameFamily roomId .records db after) :
    HasRecords Value roomId after records where
  stored := by
    intro bucketId
    rw [decoded_congr same _ rfl]
    exact has.stored bucketId
  identified := has.identified

theorem HasBucketList.congr {records : Map BucketId BucketRecord}
    (has : HasBucketList Value roomId db records)
    (same : SameFamily roomId .bucketList db after) :
    HasBucketList Value roomId after records := by
  unfold HasBucketList
  rw [decoded_congr same _ rfl]
  exact has

theorem HasMembers.congr {members : FinSet String}
    (has : HasMembers Value roomId db members)
    (same : SameFamily roomId .members db after) :
    HasMembers Value roomId after members := by
  unfold HasMembers
  rw [decoded_congr same _ rfl]
  exact has

/-- A record that is put is one of the records. -/
theorem HasRecords.insert {records : Map BucketId BucketRecord}
    (has : HasRecords Value roomId db records) {record : BucketRecord}
    {bytes : ByteArray}
    (read : (SerdeJson.bucketRecord Value).fromSlice bytes = .ok record) :
    HasRecords Value roomId
      (db.insert ((DbKey.bucket record.id).text roomId) bytes)
      (records.insert record.id record) where
  stored := by
    intro other
    rw [decoded_insert, lookup_insert]
    by_cases same : record.id = other
    · simp [same, read]
    · simp [same, has.stored other]
  identified := by
    intro other found present
    rw [lookup_insert] at present
    split at present
    · next same =>
      cases Option.some.inj present
      exact same
    · exact has.identified other found present

/-- A record that is deleted is gone. -/
theorem HasRecords.erase {records : Map BucketId BucketRecord}
    (has : HasRecords Value roomId db records) (bucketId : BucketId) :
    HasRecords Value roomId
      (db.erase ((DbKey.bucket bucketId).text roomId))
      (records.erase bucketId) where
  stored := by
    intro other
    rw [decoded_erase, lookup_erase]
    by_cases same : bucketId = other
    · simp [same]
    · simp [same, has.stored other]
  identified := by
    intro other found present
    rw [lookup_erase] at present
    split at present
    · cases present
    · exact has.identified other found present

/-- A bucket list that names the records. -/
theorem HasBucketList.insert {records : Map BucketId BucketRecord}
    {ids : List BucketId} {bytes : ByteArray}
    (read : (SerdeJson.bucketIds Value).fromSlice bytes = .ok ids)
    (listed : ∀ bucketId, bucketId ∈ ids ↔ bucketId ∈ records) :
    HasBucketList Value roomId
      (db.insert (DbKey.bucketList.text roomId) bytes) records := by
  right
  refine ⟨ids, ?_, listed⟩
  rw [decoded_insert, if_pos rfl, read]

theorem HasMembers.insert (roomId : RoomId) (db : Db)
    {list : List String} {bytes : ByteArray}
    (read : (SerdeJson.memberList Value).fromSlice bytes = .ok list) :
    HasMembers Value roomId
      (db.insert (DbKey.memberList.text roomId) bytes)
      (Std.ExtTreeSet.ofList list compare) := by
  right
  refine ⟨list, ?_, rfl⟩
  rw [decoded_insert, if_pos rfl, read]

/-! ### Databases after the write of a fragment or of the members -/

/-- A fragment is put on disk. -/
theorem Represents.insertFragment {disk : Disk Value}
    (represents : Represents roomId db disk)
    (bucketId : BucketId) (key : String) {value : Value}
    {bytes : ByteArray} (read : SerdeJson.value.fromSlice bytes = .ok value) :
    Represents roomId
      (db.insert ((DbKey.fragment bucketId key).text roomId) bytes)
      { disk with
        fragments :=
          putFragment disk.fragments bucketId key (some value) } where
  onlyDbKeys := represents.onlyDbKeys.insert _ _
  fragments := represents.fragments.insert bucketId key read
  records := represents.records.congr (sameFamily_insert (by simp) _)
  bucketList := represents.bucketList.congr (sameFamily_insert (by simp) _)
  members := represents.members.congr (sameFamily_insert (by simp) _)

/-- A fragment is deleted from disk. -/
theorem Represents.eraseFragment {disk : Disk Value}
    (represents : Represents roomId db disk)
    (bucketId : BucketId) (key : String) :
    Represents roomId
      (db.erase ((DbKey.fragment bucketId key).text roomId))
      { disk with
        fragments := putFragment disk.fragments bucketId key none } where
  onlyDbKeys := represents.onlyDbKeys.erase _
  fragments := represents.fragments.erase bucketId key
  records := represents.records.congr (sameFamily_erase (by simp))
  bucketList := represents.bucketList.congr (sameFamily_erase (by simp))
  members := represents.members.congr (sameFamily_erase (by simp))

/-- The member list is put on disk. -/
theorem Represents.insertMembers {disk : Disk Value}
    (represents : Represents roomId db disk) {members : FinSet String}
    {bytes : ByteArray}
    (read : (SerdeJson.memberList Value).fromSlice bytes =
      .ok members.toList) :
    Represents roomId (db.insert (DbKey.memberList.text roomId) bytes)
      { disk with members := members } where
  onlyDbKeys := represents.onlyDbKeys.insert _ _
  fragments := represents.fragments.congr (sameFamily_insert (by simp) _)
  records := represents.records.congr (sameFamily_insert (by simp) _)
  bucketList := represents.bucketList.congr (sameFamily_insert (by simp) _)
  members := by
    have same : Std.ExtTreeSet.ofList members.toList compare = members := by
      ext member
      simp
    have inserted := HasMembers.insert roomId db read
    rwa [same] at inserted

end Relations

end Syncpond.Disks
