import Syncpond.DiskOperations
import Syncpond.Library.Interference

/-!
# Parts of the database of a room

Operations on the database of a room that run at the same time work on parts
of it: the bucket records with the list of them, the member list, and the
fragments.  The operations on bucket records use the cache as well.

An operation in progress does what it does alone, as long as the others keep
its part as it is; and it keeps the other parts.
-/

namespace Syncpond.RoomParts

open Syncpond.Protocol
open Syncpond.Serde
open Syncpond.Persistence
open Syncpond.Disks
open Syncpond.DiskOperations
open Syncpond.Library.Maps
open Syncpond.Library.Programs
open Syncpond.Library.Text
open Syncpond.Library.JsonText (Codec)

variable {Value : Type} [SerdeJson Value]

/-! ## Parts -/

/-- Two databases have the same under the keys of a part. -/
def AgreeOn (part : String → Prop) (db other : Db) : Prop :=
  ∀ key, part key → db[key]? = other[key]?

/-- The keys of bucket records, and the key of the list of them. -/
def RecordKey (roomId : RoomId) (key : String) : Prop :=
  (parseBucketKey key).isSome ∨ key = bucketListKey roomId

def MemberKey (roomId : RoomId) (key : String) : Prop :=
  key = memberListKey roomId

namespace AgreeOn

variable {part : String → Prop} {db other third : Db}

theorem refl (db : Db) : AgreeOn part db db :=
  fun _ _ => rfl

theorem trans (first : AgreeOn part db other)
    (second : AgreeOn part other third) : AgreeOn part db third :=
  fun key inPart => (first key inPart).trans (second key inPart)

/-- Databases that agree on a part agree on less. -/
theorem mono {larger : String → Prop} (agree : AgreeOn larger db other)
    (smaller : ∀ key, part key → larger key) : AgreeOn part db other :=
  fun key inPart => agree key (smaller key inPart)

/-- The same entry can be put into both. -/
theorem insert (agree : AgreeOn part db other) (key : String)
    (bytes : ByteArray) :
    AgreeOn part (db.insert key bytes) (other.insert key bytes) := by
  intro target inPart
  rw [lookup_insert, lookup_insert, agree target inPart]

theorem erase (agree : AgreeOn part db other) (key : String) :
    AgreeOn part (db.erase key) (other.erase key) := by
  intro target inPart
  rw [lookup_erase, lookup_erase, agree target inPart]

/-- An entry outside of the part changes nothing in it. -/
theorem insert_outside {key : String} (outside : ¬part key)
    (bytes : ByteArray) : AgreeOn part db (db.insert key bytes) := by
  intro target inPart
  have different : key ≠ target := by
    rintro rfl
    exact outside inPart
  rw [lookup_insert, if_neg different]

/-- No entry of the part is deleted outside of it. -/
theorem erase_outside {key : String} (outside : ¬part key) :
    AgreeOn part db (db.erase key) := by
  intro target inPart
  have different : key ≠ target := by
    rintro rfl
    exact outside inPart
  rw [lookup_erase, if_neg different]

/-- A part with all keys of a family keeps the family. -/
theorem sameFamily {roomId : RoomId} {family : Family}
    (agree : AgreeOn part db other)
    (covers : ∀ key : DbKey, key.family = family → part (key.text roomId)) :
    SameFamily roomId family db other :=
  fun key inFamily => (agree _ (covers key inFamily)).symm

end AgreeOn

/-! ### The keys of the parts -/

section Keys

variable {roomId : RoomId}

/-- The records and their list are one part. -/
theorem recordKey_text (key : DbKey) :
    RecordKey roomId (key.text roomId) ↔
      key.family = .records ∨ key.family = .bucketList := by
  have isList : DbKey.text roomId key = bucketListKey roomId ↔
      key = .bucketList :=
    @text_inj roomId key .bucketList
  rw [RecordKey, isList, parseBucketKey_text]
  cases key <;> simp

/-- The member list is the other part. -/
theorem memberKey_text (key : DbKey) :
    MemberKey roomId (key.text roomId) ↔ key.family = .members := by
  have isList : DbKey.text roomId key = memberListKey roomId ↔
      key = .memberList :=
    @text_inj roomId key .memberList
  rw [MemberKey, isList]
  cases key <;> simp

end Keys

/-! ## What an operation looks at -/

/-- What the operation does depends on a part of what it works on. -/
structure Looks {α : Type} (same : RoomPersistence → RoomPersistence → Prop)
    (operation : Storage α) : Prop where
  respects : operation.run.Respects same

namespace Looks

variable {α β : Type} {same : RoomPersistence → RoomPersistence → Prop}

theorem pure (value : α) : Looks same (pure value : Storage α) :=
  ⟨trivial⟩

theorem throw (text : String) : Looks same (throw text : Storage α) :=
  ⟨trivial⟩

/-- A call returns the same on databases that look the same to it. -/
theorem primitive {action : RoomPersistence → Except String α × RoomPersistence}
    (alike : ∀ room other, same room other →
      (action room).1 = (action other).1 ∧
        same (action room).2 (action other).2) :
    Looks same (Storage.primitive action) :=
  ⟨Program.respects_atomic alike⟩

/-- Operations that look at one part can follow each other. -/
theorem bind {operation : Storage α} {rest : α → Storage β}
    (front : Looks same operation) (back : ∀ value, Looks same (rest value)) :
    Looks same (operation >>= rest) := by
  refine ⟨Program.Respects.bind front.respects ?_⟩
  rintro (text | value)
  · trivial
  · exact (back value).respects

theorem attempt {operation : Storage α} (looks : Looks same operation) :
    Looks same (Storage.attempt operation) :=
  ⟨Program.Respects.bind looks.respects fun _ => trivial⟩

theorem serialize (codec : Codec α) (value : α) :
    Looks same (Storage.serialize codec value) := by
  unfold Storage.serialize
  split
  · exact pure _
  · exact throw _

/-- A read returns the same if the entry is the same. -/
theorem get {key : String} (alike : ∀ room other, same room other →
      room.db[key]? = other.db[key]?) :
    Looks same (Storage.get .none key) :=
  primitive fun room other isSame =>
    ⟨congrArg Except.ok (alike room other isSame), isSame⟩

theorem foldlM {step : β → α → Storage β}
    (looks : ∀ state item, Looks same (step state item)) (items : List α)
    (state : β) : Looks same (items.foldlM step state) := by
  induction items generalizing state with
  | nil => exact pure state
  | cons item rest ih =>
      rw [List.foldlM_cons]
      exact (looks state item).bind fun after => ih after

end Looks

/-! ### Bucket records -/

section Records

variable (roomId : RoomId)

/-- The same bucket records, on disk and in the cache. -/
def SameRecords (room other : RoomPersistence) : Prop :=
  AgreeOn (RecordKey roomId) room.db other.db ∧
    room.bucketCache = other.bucketCache

variable {roomId}

theorem looks_put (key : String) (bytes : ByteArray) :
    Looks (SameRecords roomId) (Storage.put .none key bytes) :=
  .primitive fun _ _ isSame => ⟨rfl, isSame.1.insert key bytes, isSame.2⟩

theorem looks_delete (key : String) :
    Looks (SameRecords roomId) (Storage.delete .none key) :=
  .primitive fun _ _ isSame => ⟨rfl, isSame.1.erase key, isSame.2⟩

theorem looks_cachePut (buckets : Map BucketId BucketRecord) :
    Looks (SameRecords roomId) (Storage.cachePutBuckets roomId buckets) :=
  .primitive fun _ _ isSame =>
    ⟨rfl, isSame.1, congrArg (·.put roomId buckets) isSame.2⟩

/-- The cache of the room is part of its records. -/
theorem looks_cacheGet :
    Looks (SameRecords roomId) (Storage.cacheGetBuckets roomId) := by
  refine .primitive fun room other isSame => ?_
  obtain ⟨db, cache⟩ := room
  obtain ⟨otherDb, otherCache⟩ := other
  obtain ⟨agree, rfl⟩ := isSame
  exact ⟨rfl, agree, rfl⟩

/-- A scan for bucket keys finds the same in databases with the same records. -/
theorem scan_eq {db other : Db} (agree : AgreeOn (RecordKey roomId) db other) :
    (db.toList.map Except.ok).filterMap
        (fun item : Except String (String × ByteArray) =>
          match item with
          | .ok entry => parseBucketKey entry.1
          | .error _ => none) =
      (other.toList.map Except.ok).filterMap
        fun item : Except String (String × ByteArray) =>
          match item with
          | .ok entry => parseBucketKey entry.1
          | .error _ => none := by
  have keys (scanned : Db) :
      (scanned.toList.map Except.ok).filterMap
          (fun item : Except String (String × ByteArray) =>
            match item with
            | .ok entry => parseBucketKey entry.1
            | .error _ => none) =
        (scanned.filter fun key _ => (parseBucketKey key).isSome
          ).toList.filterMap fun entry => parseBucketKey entry.1 := by
    rw [List.filterMap_map, Std.ExtTreeMap.toList_filter,
      List.filterMap_filter]
    refine List.filterMap_congr fun entry _ => ?_
    cases parsed : parseBucketKey entry.1 with
    | none => simp [parsed]
    | some bucketId => simp [parsed]
  have filtered : (db.filter fun key _ => (parseBucketKey key).isSome) =
      other.filter fun key _ => (parseBucketKey key).isSome := by
    apply Std.ExtTreeMap.ext_getElem?
    intro key
    simp only [Std.ExtTreeMap.getElem?_filter']
    cases parsed : parseBucketKey key with
    | none => simp
    | some bucketId =>
        rw [agree key (Or.inl (by simp [parsed]))]
  rw [keys, keys, filtered]

/-- The new bucket list depends on the records only. -/
theorem looks_updateBucketList :
    Looks (SameRecords roomId) (updateBucketList .none Value roomId) := by
  have collects :
      Looks (SameRecords roomId) (collectBucketIds .none) := by
    refine ⟨fun room other isSame => ⟨isSame, ?_, trivial⟩⟩
    exact congrArg
      (fun ids : List BucketId => Program.done (.ok
        (ids.insertionSort (· ≤ ·)) : Except String (List BucketId)))
      (scan_eq isSame.1)
  exact collects.bind fun ids =>
    (Looks.serialize _ _).bind fun bytes => looks_put _ _

theorem looks_updateCache
    (change : Map BucketId BucketRecord → Map BucketId BucketRecord) :
    Looks (SameRecords roomId) (updateCache roomId change) := by
  refine looks_cacheGet.bind fun found => ?_
  cases found with
  | none => exact .pure _
  | some buckets => exact looks_cachePut _

variable (Value) in
/-- What is done to a record depends on the records only. -/
theorem looks_persistBucket (bucketId : BucketId) (label : Option String)
    (flags : UInt32) :
    Looks (SameRecords roomId)
      (persistBucket .none Value roomId bucketId label flags) :=
  (Looks.serialize _ _).bind fun _ => (looks_put _ _).bind fun _ =>
    looks_updateBucketList.bind fun _ => looks_updateCache _

variable (Value) in
theorem looks_removeBucket (bucketId : BucketId) :
    Looks (SameRecords roomId) (removeBucket .none Value roomId bucketId) :=
  (looks_delete _).bind fun _ =>
    looks_updateBucketList.bind fun _ => looks_updateCache _

end Records

/-! ### Members -/

section Members

variable (roomId : RoomId)

/-- The same member list. -/
def SameMembers (room other : RoomPersistence) : Prop :=
  AgreeOn (MemberKey roomId) room.db other.db

variable {roomId}

variable (Value) in
/-- The members that are read depend on the member list only. -/
theorem looks_loadMembers :
    Looks (SameMembers roomId) (loadMembers .none Value roomId) := by
  refine (Looks.get fun _ _ isSame => isSame _ rfl).bind fun found => ?_
  cases found with
  | none => exact .pure _
  | some bytes =>
      dsimp only
      split
      · exact .pure _
      · exact .throw _

variable (Value) in
theorem looks_updateMemberList (members : FinSet String) :
    Looks (SameMembers roomId)
      (updateMemberList .none Value roomId members) :=
  (Looks.serialize _ _).bind fun _ =>
    .primitive fun _ _ isSame => ⟨rfl, isSame.insert _ _⟩

variable (Value) in
/-- The new member list depends on the old one only. -/
theorem looks_persistMember (member : String) :
    Looks (SameMembers roomId) (persistMember .none Value roomId member) := by
  unfold persistMember
  dsimp only
  split
  · exact .pure _
  · exact (looks_loadMembers Value).bind fun _ =>
      looks_updateMemberList Value _

variable (Value) in
theorem looks_removeMember (member : String) :
    Looks (SameMembers roomId) (removeMember .none Value roomId member) :=
  (looks_loadMembers Value).bind fun _ => looks_updateMemberList Value _

end Members

/-! ## What the sections of an operation change -/

/--
Every section of the operation changes what it works on as told, without the
lock.
-/
structure Changes {α : Type}
    (section_ : RoomPersistence → RoomPersistence → Prop)
    (operation : Storage α) : Prop where
  sections : operation.run.Every fun access effect =>
    access = .free ∧ ∀ room, section_ room (effect room)

namespace Changes

variable {α β : Type} {section_ : RoomPersistence → RoomPersistence → Prop}

/-- An operation on storage never touches the lock. -/
theorem free {operation : Storage α} (changes : Changes section_ operation) :
    operation.run.Every fun access _ => access = .free :=
  changes.sections.mono fun _ _ told => told.1

/-- Each section of the operation changes what it may. -/
theorem effects {operation : Storage α}
    (changes : Changes section_ operation) :
    operation.run.Every fun _ effect => ∀ room, section_ room (effect room) :=
  changes.sections.mono fun _ _ told => told.2

theorem pure (value : α) : Changes section_ (pure value : Storage α) :=
  ⟨trivial⟩

theorem throw (text : String) : Changes section_ (throw text : Storage α) :=
  ⟨trivial⟩

theorem primitive {action : RoomPersistence → Except String α × RoomPersistence}
    (changes : ∀ room, section_ room (action room).2) :
    Changes section_ (Storage.primitive action) :=
  ⟨Program.every_atomic ⟨rfl, changes⟩⟩

theorem bind {operation : Storage α} {rest : α → Storage β}
    (front : Changes section_ operation)
    (back : ∀ value, Changes section_ (rest value)) :
    Changes section_ (operation >>= rest) := by
  refine ⟨Program.Every.bind front.sections ?_⟩
  rintro (text | value)
  · trivial
  · exact (back value).sections

theorem attempt {operation : Storage α} (changes : Changes section_ operation) :
    Changes section_ (Storage.attempt operation) :=
  ⟨Program.Every.bind changes.sections fun _ => trivial⟩

theorem serialize (codec : Codec α) (value : α) :
    Changes section_ (Storage.serialize codec value) := by
  unfold Storage.serialize
  split
  · exact pure _
  · exact throw _

theorem foldlM {step : β → α → Storage β}
    (changes : ∀ state item, Changes section_ (step state item))
    (items : List α) (state : β) :
    Changes section_ (items.foldlM step state) := by
  induction items generalizing state with
  | nil => exact pure state
  | cons item rest ih =>
      rw [List.foldlM_cons]
      exact (changes state item).bind fun after => ih after

end Changes

section Sections

variable (roomId : RoomId)

/-- A section that changes bucket records, on disk or in the cache. -/
structure RecordSection (before after : RoomPersistence) : Prop where
  others : AgreeOn (fun key => ¬RecordKey roomId key) before.db after.db
  onlyDbKeys : OnlyDbKeys roomId before.db → OnlyDbKeys roomId after.db

/-- A section that changes the member list. -/
structure MemberSection (before after : RoomPersistence) : Prop where
  others : AgreeOn (fun key => ¬MemberKey roomId key) before.db after.db
  onlyDbKeys : OnlyDbKeys roomId before.db → OnlyDbKeys roomId after.db
  cache : after.bucketCache = before.bucketCache

variable {roomId}

/-- A section of the cache leaves the database alone. -/
theorem RecordSection.of_same_db {before after : RoomPersistence}
    (same : after.db = before.db) : RecordSection roomId before after where
  others _ _ := congrArg (·[_]?) same.symm
  onlyDbKeys only := same ▸ only

/-- A key of the records can be put. -/
theorem recordSection_insert (room : RoomPersistence) (key : DbKey)
    (inRecords : key.family = .records ∨ key.family = .bucketList)
    (bytes : ByteArray) :
    RecordSection roomId room
      { room with db := room.db.insert (key.text roomId) bytes } where
  others := AgreeOn.insert_outside
    (fun outside => outside ((recordKey_text key).mpr inRecords)) bytes
  onlyDbKeys only := only.insert key bytes

variable (Value) in
/-- Only the bucket list is put. -/
theorem changes_updateBucketList :
    Changes (RecordSection roomId)
      (updateBucketList .none Value roomId) := by
  have collects :
      Changes (RecordSection roomId) (collectBucketIds .none) :=
    ⟨⟨rfl, fun _ => .of_same_db rfl⟩, fun _ => trivial⟩
  exact collects.bind fun ids =>
    (Changes.serialize _ _).bind fun bytes => .primitive fun room =>
      recordSection_insert room .bucketList (Or.inr rfl) bytes

theorem changes_updateCache
    (change : Map BucketId BucketRecord → Map BucketId BucketRecord) :
    Changes (RecordSection roomId) (updateCache roomId change) := by
  refine (Changes.primitive fun _ => .of_same_db rfl).bind fun found => ?_
  cases found with
  | none => exact .pure _
  | some buckets => exact .primitive fun _ => .of_same_db rfl

variable (Value) in
/-- Only the record, its list and the cache change. -/
theorem changes_persistBucket (bucketId : BucketId) (label : Option String)
    (flags : UInt32) :
    Changes (RecordSection roomId)
      (persistBucket .none Value roomId bucketId label flags) :=
  (Changes.serialize _ _).bind fun bytes =>
    (Changes.primitive fun room => recordSection_insert room
      (.bucket bucketId) (Or.inl rfl) bytes).bind fun _ =>
        (changes_updateBucketList Value).bind fun _ => changes_updateCache _

variable (Value) in
/-- Only the record, its list and the cache change. -/
theorem changes_removeBucket (bucketId : BucketId) :
    Changes (RecordSection roomId)
      (removeBucket .none Value roomId bucketId) := by
  refine (Changes.primitive fun room => ?_).bind fun _ =>
    (changes_updateBucketList Value).bind fun _ => changes_updateCache _
  constructor
  · exact AgreeOn.erase_outside fun outside => outside
      ((recordKey_text (.bucket bucketId)).mpr (Or.inl rfl))
  · exact fun only => only.erase (.bucket bucketId)

theorem MemberSection.refl (room : RoomPersistence) :
    MemberSection roomId room room :=
  ⟨.refl _, id, rfl⟩

variable (Value) in
theorem changes_loadMembers :
    Changes (MemberSection roomId) (loadMembers .none Value roomId) := by
  refine (Changes.primitive fun room => .refl room).bind fun found => ?_
  cases found with
  | none => exact .pure _
  | some bytes =>
      dsimp only
      split
      · exact .pure _
      · exact .throw _

variable (Value) in
/-- Only the member list is put. -/
theorem changes_updateMemberList (members : FinSet String) :
    Changes (MemberSection roomId)
      (updateMemberList .none Value roomId members) := by
  refine (Changes.serialize _ _).bind fun bytes => .primitive fun room => ?_
  constructor
  · exact AgreeOn.insert_outside (fun outside => outside rfl) bytes
  · exact fun only => only.insert .memberList bytes
  · rfl

variable (Value) in
/-- Only the member list changes. -/
theorem changes_persistMember (member : String) :
    Changes (MemberSection roomId)
      (persistMember .none Value roomId member) := by
  unfold persistMember
  dsimp only
  split
  · exact .pure _
  · exact (changes_loadMembers Value).bind fun _ =>
      changes_updateMemberList Value _

variable (Value) in
theorem changes_removeMember (member : String) :
    Changes (MemberSection roomId)
      (removeMember .none Value roomId member) :=
  (changes_loadMembers Value).bind fun _ => changes_updateMemberList Value _

end Sections

/-! ## What the parts say -/

section Assertions

variable (roomId : RoomId) (room : RoomPersistence)

/-- The database has only the keys of a room, and its fragments are readable. -/
structure Tidy (Value : Type) [SerdeJson Value] : Prop where
  onlyDbKeys : OnlyDbKeys roomId room.db
  fragments : ∃ fragments : BucketId → Map String Value,
    HasFragments roomId room.db fragments

/-- The bucket records are these, on disk and, if cached, in the cache. -/
structure RecordsHold (Value : Type) [SerdeJson Value]
    (records : Map BucketId BucketRecord) : Prop where
  stored : HasRecords Value roomId room.db records
  listed : HasBucketList Value roomId room.db records
  cached : ∀ entry, room.bucketCache.peek roomId = some entry →
    entry = records

/-- The members are these. -/
def MembersHold (Value : Type) [SerdeJson Value]
    (members : FinSet String) : Prop :=
  HasMembers Value roomId room.db members

end Assertions

section Hold

variable {roomId : RoomId} {room after : RoomPersistence}
variable {records : Map BucketId BucketRecord} {members : FinSet String}

/-- The records hold as long as their part is the same. -/
theorem RecordsHold.congr (hold : RecordsHold roomId room Value records)
    (agree : AgreeOn (RecordKey roomId) room.db after.db)
    (cached : ∀ entry, after.bucketCache.peek roomId = some entry →
      entry = records ∨ room.bucketCache.peek roomId = some entry) :
    RecordsHold roomId after Value records where
  stored := hold.stored.congr (agree.sameFamily fun key inFamily =>
    (recordKey_text key).mpr (Or.inl inFamily))
  listed := hold.listed.congr (agree.sameFamily fun key inFamily =>
    (recordKey_text key).mpr (Or.inr inFamily))
  cached entry found :=
    (cached entry found).elim id fun before => hold.cached entry before

/-- The members hold as long as their part is the same. -/
theorem MembersHold.congr (hold : MembersHold roomId room Value members)
    (agree : AgreeOn (MemberKey roomId) room.db after.db) :
    MembersHold roomId after Value members :=
  HasMembers.congr hold (agree.sameFamily fun key inFamily =>
    (memberKey_text key).mpr inFamily)

/-- What the parts say together. -/
theorem holds_of_parts (tidy : Tidy roomId room Value)
    (recordsHold : RecordsHold roomId room Value records)
    (membersHold : MembersHold roomId room Value members) :
    ∃ (disks : Disks Value), Holds roomId room disks ∧
      (disks roomId).records = records ∧
      (disks roomId).members = members := by
  obtain ⟨fragments, readable⟩ := tidy.fragments
  refine ⟨toldDisks roomId room.bucketCache ⟨records, fragments, members⟩,
    holds_toldDisks ?_ recordsHold.cached, by simp, by simp⟩
  exact {
    onlyDbKeys := tidy.onlyDbKeys
    fragments := readable
    records := recordsHold.stored
    bucketList := recordsHold.listed
    members := membersHold }

/-- The records of a room that holds a disk. -/
theorem recordsHold_of_holds {disks : Disks Value}
    (holds : Holds roomId room disks) :
    RecordsHold roomId room Value (disks roomId).records where
  stored := holds.represents.records
  listed := holds.represents.bucketList
  cached entry found := holds.cache roomId entry found

end Hold

/-! ## Either part -/

/-- The parts that commands change under the lock. -/
inductive Part where
  | records
  | members
deriving DecidableEq

/-- What the parts are to be. -/
structure Goal where
  records : Map BucketId BucketRecord
  members : FinSet String

theorem SameRecords.trans {roomId : RoomId}
    {first second third : RoomPersistence}
    (front : SameRecords roomId first second)
    (back : SameRecords roomId second third) :
    SameRecords roomId first third :=
  ⟨front.1.trans back.1, front.2.trans back.2⟩

namespace Part

variable (roomId : RoomId)

/-- The same in a part. -/
def Same : Part → RoomPersistence → RoomPersistence → Prop
  | .records => SameRecords roomId
  | .members => SameMembers roomId

/-- A section that changes a part. -/
def Section : Part → RoomPersistence → RoomPersistence → Prop
  | .records => RecordSection roomId
  | .members => MemberSection roomId

/-- A part is what it is to be. -/
def Hold (Value : Type) [SerdeJson Value] (goal : Goal) :
    Part → RoomPersistence → Prop
  | .records => fun room => RecordsHold roomId room Value goal.records
  | .members => fun room => MembersHold roomId room Value goal.members

/-- What is left of a change of a part leads to what it is to be. -/
structure Coming (Value : Type) [SerdeJson Value] (goal : Goal) (part : Part)
    (rest : Program RoomPersistence (Except String Unit))
    (room : RoomPersistence) : Prop where
  under : rest.Under (part.Same roomId) (part.Section roomId)
    (fun _ after => part.Hold roomId Value goal after) room
  free : rest.Every fun access _ => access = .free

variable {roomId} {part : Part} {room after : RoomPersistence}
variable {goal : Goal} {rest : Program RoomPersistence (Except String Unit)}

theorem Same.refl (room : RoomPersistence) : part.Same roomId room room := by
  cases part with
  | records => exact ⟨.refl _, rfl⟩
  | members => exact .refl _

theorem Same.trans {first second third : RoomPersistence}
    (front : part.Same roomId first second)
    (back : part.Same roomId second third) :
    part.Same roomId first third := by
  cases part with
  | records => exact SameRecords.trans front back
  | members => exact AgreeOn.trans front back

/-- A part holds as long as it is the same. -/
theorem Hold.congr (hold : part.Hold roomId Value goal room)
    (same : part.Same roomId room after) :
    part.Hold roomId Value goal after := by
  cases part with
  | records =>
      refine RecordsHold.congr hold same.1 fun entry found => Or.inr ?_
      rw [same.2]
      exact found
  | members => exact MembersHold.congr hold same

/-- What is coming to a part does not depend on the others. -/
theorem Coming.stable (coming : part.Coming roomId Value goal rest room)
    (same : part.Same roomId room after) :
    part.Coming roomId Value goal rest after := by
  refine ⟨Program.Under.stable ?_ coming.under same, coming.free⟩
  exact Same.trans

/-- A section of what is left of a change of a part. -/
theorem Coming.step {access : Access}
    {effect : RoomPersistence → RoomPersistence}
    {next : RoomPersistence → Program RoomPersistence (Except String Unit)}
    (coming : part.Coming roomId Value goal (.step access effect next) room) :
    access = .free ∧ part.Section roomId room (effect room) ∧
      part.Coming roomId Value goal (next room) (effect room) := by
  obtain ⟨changes, after⟩ := coming.under room (Same.refl room)
  exact ⟨coming.free.1, changes, after, coming.free.2 room⟩

/-- Nothing is left of a change of a part. -/
theorem Coming.done {result : Except String Unit}
    (coming : part.Coming roomId Value goal (.done result) room) :
    part.Hold roomId Value goal room :=
  coming.under room (Same.refl room)

omit [SerdeJson Value] in
/-- The two parts have no key in common. -/
theorem not_recordKey_of_memberKey {key : String}
    (inMembers : MemberKey roomId key) : ¬RecordKey roomId key := by
  rintro (parsed | isList)
  · rw [inMembers, parseBucketKey_memberListKey] at parsed
    cases parsed
  · exact bucketListKey_ne_memberListKey roomId (isList.symm.trans inMembers)

omit [SerdeJson Value] in
theorem Section.refl (part : Part) (room : RoomPersistence) :
    part.Section roomId room room := by
  cases part with
  | records => exact .of_same_db rfl
  | members => exact MemberSection.refl room

/-- A section that changes a part keeps the other one. -/
theorem Section.keeps {other : Part} (changes : part.Section roomId room after)
    (different : other ≠ part) : other.Same roomId room after := by
  cases part with
  | records =>
      cases other with
      | records => exact absurd rfl different
      | members =>
          exact changes.others.mono fun _ => not_recordKey_of_memberKey
  | members =>
      cases other with
      | records =>
          exact ⟨changes.others.mono fun _ inRecords inMembers =>
            not_recordKey_of_memberKey inMembers inRecords, changes.cache.symm⟩
      | members => exact absurd rfl different

/-- A section that changes a part leaves a room's database. -/
theorem Section.tidy (changes : part.Section roomId room after)
    (tidy : Tidy roomId room Value) : Tidy roomId after Value := by
  obtain ⟨fragments, readable⟩ := tidy.fragments
  cases part with
  | records =>
      refine ⟨changes.onlyDbKeys tidy.onlyDbKeys, fragments, readable.congr ?_⟩
      refine changes.others.sameFamily fun key inFamily inRecords => ?_
      rw [recordKey_text, inFamily] at inRecords
      rcases inRecords with equal | equal <;> cases equal
  | members =>
      refine ⟨changes.onlyDbKeys tidy.onlyDbKeys, fragments, readable.congr ?_⟩
      refine changes.others.sameFamily fun key inFamily inMembers => ?_
      rw [memberKey_text, inFamily] at inMembers
      cases inMembers

end Part

/-! ## The write of a fragment -/

section WriteFragment

variable {roomId : RoomId} {room after : RoomPersistence}

/-- A section that changes a fragment. -/
structure FragmentSection (roomId : RoomId) (Value : Type) [SerdeJson Value]
    (before after : RoomPersistence) : Prop where
  keeps : ∀ part : Part, part.Same roomId before after
  tidy : Tidy roomId before Value → Tidy roomId after Value

omit [SerdeJson Value] in
/-- A change under the key of a fragment keeps both parts. -/
theorem same_of_fragment {bucketId : BucketId} {key : String}
    (agree : ∀ part : String → Prop,
      ¬part ((DbKey.fragment bucketId key).text roomId) →
        AgreeOn part room.db after.db)
    (cache : room.bucketCache = after.bucketCache) (part : Part) :
    part.Same roomId room after := by
  cases part with
  | records =>
      refine ⟨agree _ fun inRecords => ?_, cache⟩
      rw [recordKey_text] at inRecords
      rcases inRecords with equal | equal <;> cases equal
  | members =>
      refine agree _ fun inMembers => ?_
      rw [memberKey_text] at inMembers
      cases inMembers

variable (roomId) in
/-- The write of a fragment changes this fragment. -/
theorem fragmentSection_persist (room : RoomPersistence)
    (bucketId : BucketId) (key : String) (value : Option Value) :
    FragmentSection roomId Value room
      ((persistFragment .none (decimal bucketId) key value).exec room).2 := by
  cases value with
  | some value =>
      obtain ⟨bytes, written, read⟩ := SerdeJson.value.roundTrip value
      simp only [persistFragment, Storage.exec_bind,
        exec_serialize room written, exec_put]
      constructor
      · exact same_of_fragment
          (fun _ outside => AgreeOn.insert_outside outside bytes) rfl
      · rintro ⟨only, fragments, readable⟩
        exact ⟨only.insert (.fragment bucketId key) bytes, _,
          readable.insert bucketId key read⟩
  | none =>
      constructor
      · exact same_of_fragment
          (fun _ outside => AgreeOn.erase_outside outside) rfl
      · rintro ⟨only, fragments, readable⟩
        exact ⟨only.erase (.fragment bucketId key), _,
          readable.erase bucketId key⟩

end WriteFragment

/-! ## Operations in progress -/

section Progress

variable {roomId : RoomId} {room : RoomPersistence} {goal : Goal}
variable {records : Map BucketId BucketRecord} {members : FinSet String}

/-- An operation that changes the records starts. -/
theorem recordsComing {operation : Storage Unit}
    (looks : Looks (SameRecords roomId) operation)
    (changes : Changes (RecordSection roomId) operation)
    {change : Disk Value → Disk Value}
    (implements : Implements Value roomId operation (fun _ _ => True) change)
    (tidy : Tidy roomId room Value)
    (recordsHold : RecordsHold roomId room Value records)
    (membersHold : MembersHold roomId room Value members)
    (changed : ∀ disk, disk.records = records →
      (change disk).records = goal.records) :
    Part.records.Coming roomId Value goal operation.run room := by
  obtain ⟨disks, holds, rfl, rfl⟩ :=
    holds_of_parts tidy recordsHold membersHold
  obtain ⟨_, after, executed, _, ended⟩ := implements room disks holds
  refine ⟨looks.respects.under SameRecords.trans id changes.effects
    fun state alike => ?_, changes.free⟩
  have isAfter : (operation.run.run room).2 = after :=
    congrArg Prod.snd executed
  rw [isAfter] at alike
  have hold := recordsHold_of_holds ended
  rw [changeDisk_self, changed _ rfl] at hold
  refine hold.congr alike.1 fun entry found => Or.inr ?_
  rw [alike.2]
  exact found

/-- An operation that changes the members starts. -/
theorem membersComing {operation : Storage Unit}
    (looks : Looks (SameMembers roomId) operation)
    (changes : Changes (MemberSection roomId) operation)
    {change : Disk Value → Disk Value}
    (implements : Implements Value roomId operation (fun _ _ => True) change)
    (tidy : Tidy roomId room Value)
    (recordsHold : RecordsHold roomId room Value records)
    (membersHold : MembersHold roomId room Value members)
    (changed : ∀ disk, disk.members = members →
      (change disk).members = goal.members) :
    Part.members.Coming roomId Value goal operation.run room := by
  obtain ⟨disks, holds, rfl, rfl⟩ :=
    holds_of_parts tidy recordsHold membersHold
  obtain ⟨_, after, executed, _, ended⟩ := implements room disks holds
  refine ⟨looks.respects.under AgreeOn.trans id changes.effects
    fun state alike => ?_, changes.free⟩
  have isAfter : (operation.run.run room).2 = after :=
    congrArg Prod.snd executed
  rw [isAfter] at alike
  have hold : MembersHold roomId after Value goal.members := by
    have represented := ended.represents.members
    rw [changeDisk_self, changed _ rfl] at represented
    exact represented
  exact hold.congr alike

end Progress

/-! ## Reading the bucket records -/

section Reading

variable (roomId : RoomId)

variable (Value) in
/-- `load_buckets` after a look into the cache that found nothing. -/
def readBuckets : Storage (Map BucketId BucketRecord) := do
  let list ← Storage.attempt (Storage.get .none (bucketListKey roomId))
  match readBucketIds Value list with
  | some ids =>
      let out ← ids.foldlM (readListed .none Value) ∅
      Storage.cachePutBuckets roomId out
      return out
  | none =>
      let items ← Storage.iterator .none
      let out := items.foldl (gatherStep putRecord (collectRecord Value)) ∅
      Storage.cachePutBuckets roomId out
      Storage.cachePutBuckets roomId out
      return out

variable (Value) in
/-- The records come from the cache, or else they are read. -/
theorem loadBuckets_eq :
    loadBuckets .none Value roomId = (do
      match ← Storage.cacheGetBuckets roomId with
      | some entry => return entry
      | none => readBuckets Value roomId) := by
  unfold loadBuckets readBuckets
  refine congrArg (Storage.cacheGetBuckets roomId >>= ·) (funext ?_)
  rintro (_ | entry)
  · rfl
  · rfl

/-- The others keep the bucket records on disk. -/
def KeepsRecords (before after : RoomPersistence) : Prop :=
  AgreeOn (RecordKey roomId) before.db after.db ∧
    (OnlyDbKeys roomId before.db → OnlyDbKeys roomId after.db)

/-- A section that puts the records into the cache at most. -/
def CacheSection (records : Map BucketId BucketRecord)
    (before after : RoomPersistence) : Prop :=
  after.db = before.db ∧
    ∀ entry, after.bucketCache.peek roomId = some entry →
      entry = records ∨ before.bucketCache.peek roomId = some entry

/-- What is left of a reading of the bucket records reads these records. -/
def RecordsReading (records : Map BucketId BucketRecord)
    (rest : Program RoomPersistence
      (Except String (Map BucketId BucketRecord)))
    (room : RoomPersistence) : Prop :=
  rest.Under (KeepsRecords roomId) (CacheSection roomId records)
    (fun result _ => result = .ok records) room

variable {roomId} {room : RoomPersistence}
variable {records : Map BucketId BucketRecord}

theorem KeepsRecords.refl (room : RoomPersistence) :
    KeepsRecords roomId room room :=
  ⟨.refl _, id⟩

theorem KeepsRecords.trans {first second third : RoomPersistence}
    (front : KeepsRecords roomId first second)
    (back : KeepsRecords roomId second third) :
    KeepsRecords roomId first third :=
  ⟨front.1.trans back.1, back.2 ∘ front.2⟩

theorem CacheSection.refl (room : RoomPersistence) :
    CacheSection roomId records room room :=
  ⟨rfl, fun _ => Or.inr⟩

/-- The records can be read from the database. -/
structure Readable (Value : Type) [SerdeJson Value] (roomId : RoomId)
    (records : Map BucketId BucketRecord) (room : RoomPersistence) :
    Prop where
  onlyDbKeys : OnlyDbKeys roomId room.db
  stored : HasRecords Value roomId room.db records
  listed : HasBucketList Value roomId room.db records

/-- The records stay readable as long as they are kept. -/
theorem Readable.keep {seen : RoomPersistence}
    (readable : Readable Value roomId records room)
    (keeps : KeepsRecords roomId room seen) :
    Readable Value roomId records seen where
  onlyDbKeys := keeps.2 readable.onlyDbKeys
  stored := readable.stored.congr (keeps.1.sameFamily fun key inFamily =>
    (recordKey_text key).mpr (Or.inl inFamily))
  listed := readable.listed.congr (keeps.1.sameFamily fun key inFamily =>
    (recordKey_text key).mpr (Or.inr inFamily))

/-- Continue with the value of an operation that does not fail. -/
theorem under_bind {α β : Type}
    {guarantee : RoomPersistence → RoomPersistence → Prop}
    {operation : Storage α} {rest : α → Storage β}
    {post : Except String β → RoomPersistence → Prop}
    (middle : α → RoomPersistence → Prop)
    (front : operation.run.Under (KeepsRecords roomId) guarantee
      (fun result state => ∃ value, result = .ok value ∧ middle value state)
      room)
    (back : ∀ value state, middle value state →
      (rest value).run.Under (KeepsRecords roomId) guarantee post state) :
    (operation >>= rest).run.Under (KeepsRecords roomId) guarantee post
      room := by
  refine Program.Under.bind KeepsRecords.refl front ?_
  rintro _ state ⟨value, rfl, holds⟩
  exact back value state holds

/-- Reading the records of the listed ids. -/
theorem under_readListed (readable : Readable Value roomId records room)
    {ids : List BucketId}
    (listed : ∀ bucketId, bucketId ∈ ids ↔ bucketId ∈ records) :
    (ids.foldlM (readListed .none Value) ∅).run.Under (KeepsRecords roomId)
      (CacheSection roomId records)
      (fun result _ => ∃ value, result = .ok value ∧ value = records)
      room := by
  have looks : Looks (KeepsRecords roomId)
      (ids.foldlM (readListed .none Value) ∅) := by
    refine .foldlM (fun out bucketId => ?_) ids ∅
    have inRecords : RecordKey roomId (bucketKey bucketId) :=
      (recordKey_text (.bucket bucketId)).mpr (Or.inl rfl)
    refine (Looks.get fun _ _ keeps => keeps.1 _ inRecords).attempt.bind
      fun found => ?_
    split
    · split
      · exact .pure _
      · exact .pure _
    · exact .pure _
  have changes : Changes (CacheSection roomId records)
      (ids.foldlM (readListed .none Value) ∅) := by
    refine .foldlM (fun out bucketId => ?_) ids ∅
    refine (Changes.primitive fun room => .refl room).attempt.bind
      fun found => ?_
    split
    · split
      · exact .pure _
      · exact .pure _
    · exact .pure _
  have executed := @exec_foldlM_readListed Value _ room ids ∅
  rw [foldl_listedRecord roomId readable.stored fun bucketId =>
    (listed bucketId).mpr] at executed
  refine looks.respects.under KeepsRecords.trans id changes.effects
    fun state _ => ?_
  exact ⟨records, congrArg Prod.fst executed, rfl⟩

/-- Putting the records that were read into the cache. -/
theorem under_cachePut {post : Except String Unit → RoomPersistence → Prop}
    (ends : ∀ state, post (.ok ()) state) :
    (Storage.cachePutBuckets roomId records).run.Under (KeepsRecords roomId)
      (CacheSection roomId records) post room := by
  intro seen _
  refine ⟨⟨rfl, fun entry found => ?_⟩, fun state _ => ends state⟩
  rcases Library.Lru.Cache.peek_put found with ⟨_, isNew⟩ | ⟨different, _⟩
  · exact Or.inl isNew
  · exact absurd rfl different

/-- Reading the records from the database starts. -/
theorem recordsReading (readable : Readable Value roomId records room) :
    RecordsReading roomId records (readBuckets Value roomId).run room := by
  unfold readBuckets
  refine under_bind (fun list state =>
    list = .ok state.db[bucketListKey roomId]? ∧
      Readable Value roomId records state) ?_ ?_
  · intro seen keeps
    refine ⟨.refl seen, fun state further => ⟨_, rfl, ?_⟩⟩
    refine ⟨congrArg Except.ok (further.1 _ (Or.inr rfl)), ?_⟩
    exact (readable.keep keeps).keep further
  · rintro list state ⟨rfl, readable⟩
    have keyText : bucketListKey roomId = DbKey.bucketList.text roomId := rfl
    rcases readable.listed with ⟨absent, _⟩ | ⟨ids, read, listed⟩
    · rw [decoded, Option.map_eq_none_iff] at absent
      simp only [keyText, absent, readBucketIds]
      refine under_bind (fun items _ =>
        items.foldl (gatherStep putRecord (collectRecord Value)) ∅ =
          records) ?_ ?_
      · intro seen keeps
        refine ⟨.refl seen, fun state _ => ⟨_, rfl, ?_⟩⟩
        have reads := readable.keep keeps
        exact foldl_collectRecord roomId reads.onlyDbKeys reads.stored
      · rintro items state gathered
        rw [gathered]
        refine under_bind (fun _ _ => True)
          (under_cachePut fun _ => ⟨(), rfl, trivial⟩) fun _ _ _ => ?_
        refine under_bind (fun _ _ => True)
          (under_cachePut fun _ => ⟨(), rfl, trivial⟩) fun _ _ _ => ?_
        exact fun _ _ => rfl
    · obtain ⟨bytes, present, result⟩ := Option.map_eq_some_iff.mp read
      simp only [keyText, present, readBucketIds, result]
      refine under_bind (fun out _ => out = records)
        (under_readListed readable listed) ?_
      rintro _ state rfl
      refine under_bind (fun _ _ => True)
        (under_cachePut fun _ => ⟨(), rfl, trivial⟩) fun _ _ _ => ?_
      exact fun _ _ => rfl

end Reading

end Syncpond.RoomParts
