import Syncpond.Reads
import Syncpond.StorageInvariants

/-!
# What the server holds was written

`issued` says which commands were issued, whether they ended or not.  An
entry of memory, of a database, of the cache or of the notification channel is
accounted for if an issued command for the same room, bucket and key wrote it.
Every section of an issued command keeps a kernel whose content is accounted
for, whatever failures it meets, and a read returns what was written.
-/

namespace Syncpond.Provenance

open Syncpond.Protocol
open Syncpond.Serde
open Syncpond.State
open Syncpond.Persistence
open Syncpond.Kernel
open Syncpond.Reads
open Syncpond.StorageInvariants
open Syncpond.Library.Channels
open Syncpond.Library.Lru
open Syncpond.Library.Maps
open Syncpond.Library.Programs
open Syncpond.Library.Text

variable {Value : Type} [SerdeJson Value]

/-! ## What issued commands wrote -/

section Content

variable (issued : Commands → Prop) (roomId : RoomId)

/-- A command wrote the value to the fragment. -/
def Wrote (bucketId : BucketId) (key : String) (value : Value) : Prop :=
  ∃ data, issued (.writeFragment roomId bucketId key data) ∧
    SerdeJson.parsePayload data = value

/-- A command added the member. -/
def Added (member : String) : Prop :=
  ∃ text, issued (.newMember roomId text) ∧ trim text = member

/-- A command made the record of the bucket. -/
def Recorded (bucketId : BucketId) (label : Option String) (flags : UInt32) :
    Prop :=
  ∃ text, issued (.newBucket roomId bucketId text) ∧
    label = labelOption (trim text) ∧ flags = 0

/-- A command made the bucket, or wrote to it. -/
def Opened (bucketId : BucketId) : Prop :=
  (∃ text, issued (.newBucket roomId bucketId text)) ∨
    ∃ key data, issued (.writeFragment roomId bucketId key data)

/-- What a room has in memory. -/
structure InRoom (room : RoomState Value) : Prop where
  buckets : ∀ bucketId ∈ room.buckets, Opened issued roomId bucketId
  fragments : ∀ (bucketId : BucketId) (key : String)
    (entry : FragmentEntry Value),
    getNested room.buckets bucketId key = some entry →
      Wrote issued roomId bucketId key entry.value
  labels : ∀ (bucketId : BucketId) (label : String),
    room.bucketLabels[bucketId]? = some label →
      Recorded issued roomId bucketId (some label) 0
  flags : ∀ (bucketId : BucketId) (flags : UInt32),
    room.bucketFlags[bucketId]? = some flags → flags = 0
  members : ∀ member ∈ room.members, Added issued roomId member
  buffered : room.txBuffer = none

/-- Records of buckets of the room. -/
def InRecords (records : Map BucketId BucketRecord) : Prop :=
  ∀ (bucketId : BucketId) (record : BucketRecord),
    records[bucketId]? = some record → record.id = bucketId ∧
      Recorded issued roomId bucketId record.label record.flags

variable (Value) in
/-- What an entry of the database of the room is read as. -/
structure InEntry (key : String) (bytes : ByteArray) : Prop where
  fragment : ∀ (bucketId : BucketId) (name : String) (value : Value),
    collectFragment (key, bytes) = some ((bucketId, name), value) →
      Wrote issued roomId bucketId name value
  record : ∀ (bucketId : BucketId) (record : BucketRecord),
    collectRecord Value (.ok (key, bytes)) = some (bucketId, record) →
      record.id = bucketId ∧
        Recorded issued roomId bucketId record.label record.flags
  members : key = memberListKey roomId → ∀ list,
    (SerdeJson.memberList Value).fromSlice bytes = .ok list →
      ∀ member ∈ list, Added issued roomId member

variable (Value) in
/-- What an opened database and the cache hold. -/
structure InStorage (room : RoomPersistence) : Prop where
  entries : ∀ (key : String) (bytes : ByteArray),
    room.db[key]? = some bytes → InEntry Value issued roomId key bytes
  cache : Cache.Agrees (InRecords issued) room.bucketCache

/-- What `LoadRoom` reads. -/
structure InData (data : RoomData Value) : Prop where
  bucketDefs : ∀ definition ∈ data.bucketDefs,
    Recorded issued roomId definition.1 definition.2.1 definition.2.2
  members : ∀ member ∈ data.members, Added issued roomId member
  fragments : ∀ (bucketId : BucketId) (key : String) (value : Value),
    getNested data.fragments bucketId key = some value →
      Wrote issued roomId bucketId key value

/-- A notification carries what was written to the fragment that it names. -/
def InNotification (notification : Sourced (UpdateChannelMessage Value)) :
    Prop :=
  ∃ value, notification.content.update.value = some value ∧
    Wrote issued notification.origin notification.content.update.bucketId
      notification.content.update.key value

/-- All that a kernel holds was written by issued commands. -/
structure Accounted (kernel : SyncpondKernel Value) : Prop where
  rooms : ∀ (roomId : RoomId) (room : RoomState Value),
    kernel.state.rooms[roomId]? = some room → InRoom issued roomId room
  labels : ∀ (label : String) (roomId : RoomId),
    kernel.state.labels[label]? = some roomId →
      ∃ name, issued (.newRoom name) ∧ trim name = label
  storage : ∀ roomId,
    InStorage Value issued roomId (kernel.persistence.view roomId)
  notifications : ∀ notification ∈ kernel.notifications.items,
    InNotification issued notification

end Content

/-! ## Entries of a database -/

section Entries

variable {issued : Commands → Prop} {roomId : RoomId} {bytes : ByteArray}

/-- The entry of a fragment that was written. -/
theorem inEntry_fragment {bucketId : BucketId} {key : String} {value : Value}
    (wrote : Wrote issued roomId bucketId key value)
    (read : SerdeJson.value.fromSlice bytes = .ok value) :
    InEntry Value issued roomId (fragmentKey (decimal bucketId) key) bytes where
  fragment other name found collected := by
    simp only [collectFragment, parseFragmentKey_fragmentKey, read,
      Option.bind_eq_bind, Option.bind_some, Option.some.injEq,
      Prod.mk.injEq] at collected
    obtain ⟨⟨rfl, rfl⟩, rfl⟩ := collected
    exact wrote
  record other record collected := by
    simp [collectRecord] at collected
  members same := by simp at same

/-- The entry of a bucket that was made. -/
theorem inEntry_record {bucketId : BucketId} {record : BucketRecord}
    (same : record.id = bucketId)
    (recorded : Recorded issued roomId bucketId record.label record.flags)
    (read : (SerdeJson.bucketRecord Value).fromSlice bytes = .ok record) :
    InEntry Value issued roomId (bucketKey bucketId) bytes where
  fragment other name found collected := by
    simp [collectFragment] at collected
  record other found collected := by
    simp only [collectRecord, parseBucketKey_bucketKey, read,
      Option.bind_eq_bind, Option.bind_some, Option.some.injEq,
      Prod.mk.injEq] at collected
    obtain ⟨rfl, rfl⟩ := collected
    exact ⟨same, recorded⟩
  members same := by simp at same

/-- The entry of the members that were added. -/
theorem inEntry_members {list : List String}
    (added : ∀ member ∈ list, Added issued roomId member)
    (read : (SerdeJson.memberList Value).fromSlice bytes = .ok list) :
    InEntry Value issued roomId (memberListKey roomId) bytes where
  fragment other name found collected := by
    simp [collectFragment] at collected
  record other found collected := by
    simp [collectRecord] at collected
  members _ other isRead := by
    rw [read] at isRead
    cases isRead
    exact added

/-- The list of the buckets is read back as none of them. -/
theorem inEntry_bucketList :
    InEntry Value issued roomId (bucketListKey roomId) bytes where
  fragment other name found collected := by
    simp [collectFragment] at collected
  record other found collected := by
    simp [collectRecord] at collected
  members same := by simp at same

namespace InStorage

variable {room : RoomPersistence}

/-- An entry of what was issued can be put. -/
theorem insert (inStorage : InStorage Value issued roomId room) {key : String}
    (entry : InEntry Value issued roomId key bytes) :
    InStorage Value issued roomId
      { room with db := room.db.insert key bytes } where
  entries other found stored := by
    rw [lookup_insert] at stored
    split at stored
    · next same =>
      cases stored
      exact same ▸ entry
    · exact inStorage.entries other found stored
  cache := inStorage.cache

/-- Any entry can be deleted. -/
theorem erase (inStorage : InStorage Value issued roomId room) (key : String) :
    InStorage Value issued roomId { room with db := room.db.erase key } where
  entries other found stored := by
    rw [lookup_erase] at stored
    split at stored
    · cases stored
    · exact inStorage.entries other found stored
  cache := inStorage.cache

theorem putBuckets (inStorage : InStorage Value issued roomId room)
    {records : Map BucketId BucketRecord}
    (inRecords : InRecords issued roomId records) :
    InStorage Value issued roomId
      { room with bucketCache := room.bucketCache.put roomId records } where
  entries := inStorage.entries
  cache := inStorage.cache.put inRecords fun _ _ _ older => older

end InStorage

theorem inRecords_empty : InRecords issued roomId ∅ := by
  intro bucketId record found
  simp at found

/-- A record that was made can be added. -/
theorem InRecords.insert {records : Map BucketId BucketRecord}
    (inRecords : InRecords issued roomId records) {bucketId : BucketId}
    {record : BucketRecord} (same : record.id = bucketId)
    (recorded : Recorded issued roomId bucketId record.label record.flags) :
    InRecords issued roomId (records.insert bucketId record) := by
  intro other found lookup
  rw [lookup_insert] at lookup
  split at lookup
  · next isBucket =>
    subst isBucket
    cases lookup
    exact ⟨same, recorded⟩
  · exact inRecords other found lookup

theorem InRecords.erase {records : Map BucketId BucketRecord}
    (inRecords : InRecords issued roomId records) (bucketId : BucketId) :
    InRecords issued roomId (records.erase bucketId) := by
  intro other found lookup
  rw [lookup_erase] at lookup
  split at lookup
  · cases lookup
  · exact inRecords other found lookup

end Entries

/-! ## Operations of the storage -/

section Storage

variable {issued : Commands → Prop} {roomId : RoomId} (faults : Faults)

/-- Persisting what was written. -/
theorem preserves_persistFragment {bucketId : BucketId} {key : String}
    {value : Value} (wrote : Wrote issued roomId bucketId key value) :
    Preserves (InStorage Value issued roomId) (fun _ => True)
      (persistFragment faults (decimal bucketId) key
        (persistedValue value)) := by
  unfold persistFragment
  cases persisted : persistedValue value with
  | none => exact preserves_delete faults fun _ kept => kept.erase _
  | some other =>
      have same : other = value := by
        unfold persistedValue at persisted
        split at persisted
        · cases persisted
        · exact (Option.some.inj persisted).symm
      subst same
      apply (preserves_serialize _ other).bind
      intro bytes read
      exact preserves_put faults fun _ kept =>
        kept.insert (inEntry_fragment wrote read)

/-- What a scan of the database collects was written. -/
theorem preserves_loadAllFragments :
    Preserves (InStorage Value issued roomId)
      (fun fragments => ∀ (bucketId : BucketId) (key : String) (value : Value),
        getNested fragments bucketId key = some value →
          Wrote issued roomId bucketId key value)
      (loadAllFragments faults) := by
  apply (preserves_scan faults).mono
  rintro fragments ⟨room, inStorage, collected⟩ bucketId key value found
  obtain ⟨entry, stored, isFragment⟩ := collected bucketId key value found
  exact (inStorage.entries _ _ stored).fragment _ _ _ isFragment

/-- The members that are read were added. -/
theorem preserves_loadMembers :
    Preserves (InStorage Value issued roomId)
      (fun members => ∀ member ∈ members, Added issued roomId member)
      (loadMembers faults Value roomId) := by
  unfold loadMembers
  apply (preserves_get faults _).bind
  rintro found ⟨room, inStorage, isFound⟩
  cases found with
  | none =>
      apply preserves_pure
      intro member inside
      simp at inside
  | some bytes =>
      dsimp only
      split
      · next list read =>
        apply preserves_pure
        intro member inside
        rw [Std.ExtTreeSet.mem_ofList] at inside
        exact (inStorage.entries _ _ isFound).members rfl list read member
          (by simpa using inside)
      · exact preserves_throw _

theorem preserves_updateMemberList {members : FinSet String}
    (added : ∀ member ∈ members, Added issued roomId member) :
    Preserves (InStorage Value issued roomId) (fun _ => True)
      (updateMemberList faults Value roomId members) := by
  unfold updateMemberList
  apply (preserves_serialize _ members.toList).bind
  intro bytes read
  apply preserves_put faults
  intro room kept
  apply kept.insert (inEntry_members _ read)
  intro member inside
  exact added member (by simpa using inside)

/-- Persisting a member that was added. -/
theorem preserves_persistMember {member : String}
    (added : Added issued roomId (trim member)) :
    Preserves (InStorage Value issued roomId) (fun _ => True)
      (persistMember faults Value roomId member) := by
  unfold persistMember
  dsimp only
  split
  · exact preserves_pure trivial
  · apply (preserves_loadMembers faults).bind
    intro members areAdded
    apply preserves_updateMemberList faults
    intro other inside
    rcases mem_set_insert.mp inside with rfl | before
    · exact added
    · exact areAdded other before

theorem preserves_removeMember (member : String) :
    Preserves (InStorage Value issued roomId) (fun _ => True)
      (removeMember faults Value roomId member) := by
  unfold removeMember
  apply (preserves_loadMembers faults).bind
  intro members added
  apply preserves_updateMemberList faults
  intro other inside
  exact added other (Std.ExtTreeSet.mem_of_mem_erase inside)

/-- The bucket list names no content. -/
theorem preserves_updateBucketList :
    Preserves (InStorage Value issued roomId) (fun _ => True)
      (updateBucketList faults Value roomId) := by
  have collects : Preserves (InStorage Value issued roomId) (fun _ => True)
      (collectBucketIds faults) := by
    unfold collectBucketIds
    apply (preserves_iterator faults).bind
    intro _ _
    exact preserves_pure trivial
  unfold updateBucketList
  apply collects.bind
  intro ids _
  apply (preserves_serialize _ ids).bind
  intro bytes _
  exact preserves_put faults fun _ kept => kept.insert inEntry_bucketList

/-- The cached records change as the ones on disk do. -/
theorem preserves_updateCache
    {change : Map BucketId BucketRecord → Map BucketId BucketRecord}
    (changes : ∀ records, InRecords issued roomId records →
      InRecords issued roomId (change records)) :
    Preserves (InStorage Value issued roomId) (fun _ => True)
      (updateCache roomId change) := by
  unfold updateCache
  apply (preserves_cacheGetBuckets roomId
    fun _ kept => ⟨kept.entries, kept.cache.get roomId⟩).bind
  rintro found ⟨room, inStorage, isFound⟩
  cases found with
  | none => exact preserves_pure trivial
  | some records =>
      have inRecords := inStorage.cache roomId records isFound
      exact preserves_cachePutBuckets fun _ kept =>
        kept.putBuckets (changes records inRecords)

/-- Persisting a bucket that was made. -/
theorem preserves_persistBucket {bucketId : BucketId} {text : String}
    (wanted : issued (.newBucket roomId bucketId text)) :
    Preserves (InStorage Value issued roomId) (fun _ => True)
      (persistBucket faults Value roomId bucketId
        (labelOption (trim text)) 0) := by
  let record : BucketRecord := ⟨bucketId, labelOption (trim text), 0⟩
  have recorded : Recorded issued roomId bucketId record.label record.flags :=
    ⟨text, wanted, rfl, rfl⟩
  unfold persistBucket
  apply (preserves_serialize _ record).bind
  intro bytes read
  have entry : InEntry Value issued roomId (bucketKey bucketId) bytes :=
    inEntry_record rfl recorded read
  apply (preserves_put faults fun _ kept => kept.insert entry).bind
  intro _ _
  apply (preserves_updateBucketList faults).bind
  intro _ _
  exact preserves_updateCache fun _ kept =>
    kept.insert (show record.id = bucketId from rfl) recorded

theorem preserves_removeBucket (bucketId : BucketId) :
    Preserves (InStorage Value issued roomId) (fun _ => True)
      (removeBucket faults Value roomId bucketId) := by
  unfold removeBucket
  apply (preserves_delete faults fun _ kept => kept.erase _).bind
  intro _ _
  apply (preserves_updateBucketList faults).bind
  intro _ _
  exact preserves_updateCache fun _ kept => kept.erase bucketId

theorem preserves_readListed {out : Map BucketId BucketRecord}
    (inRecords : InRecords issued roomId out) (bucketId : BucketId) :
    Preserves (InStorage Value issued roomId) (InRecords issued roomId)
      (readListed faults Value out bucketId) := by
  unfold readListed
  apply (preserves_get faults _).attempt.bind
  intro outcome isRead
  split
  · next bytes =>
    obtain ⟨room, inStorage, isFound⟩ := isRead _ rfl
    split
    · next record read =>
      apply preserves_pure
      obtain ⟨same, recorded⟩ :=
        (inStorage.entries _ _ isFound).record bucketId record (by
          simp [collectRecord, read])
      exact inRecords.insert same recorded
    · exact preserves_pure inRecords
  · exact preserves_pure inRecords

/-- The records that are read were made. -/
theorem preserves_loadBuckets :
    Preserves (InStorage Value issued roomId) (InRecords issued roomId)
      (loadBuckets faults Value roomId) := by
  unfold loadBuckets
  apply (preserves_cacheGetBuckets roomId
    fun _ kept => ⟨kept.entries, kept.cache.get roomId⟩).bind
  rintro found ⟨room, inStorage, isFound⟩
  cases found with
  | some records =>
      exact preserves_pure (inStorage.cache roomId records isFound)
  | none =>
      dsimp only
      apply (preserves_get faults _).attempt.bind
      intro list _
      have fill (out : Map BucketId BucketRecord)
          (inRecords : InRecords issued roomId out) :
          Preserves (InStorage Value issued roomId) (fun _ => True)
            (Storage.cachePutBuckets roomId out) :=
        preserves_cachePutBuckets fun _ kept => kept.putBuckets inRecords
      split
      · next ids _ =>
        apply (preserves_foldlM (fun _ bucketId kept =>
          preserves_readListed faults kept bucketId) ids
          inRecords_empty).bind
        intro out inRecords
        apply (fill out inRecords).bind
        intro _ _
        exact preserves_pure inRecords
      · apply (preserves_iterator faults).bind
        rintro items ⟨scanned, isScanned, present⟩
        have inRecords : InRecords issued roomId
            (items.foldl (gatherStep putRecord (collectRecord Value)) ∅) := by
          suffices kept : ∀ out, InRecords issued roomId out →
              InRecords issued roomId (items.foldl
                (gatherStep putRecord (collectRecord Value)) out) from
            kept ∅ inRecords_empty
          clear fill
          induction items with
          | nil => exact fun _ kept => kept
          | cons item rest ih =>
              intro out kept
              apply ih fun other member =>
                present other (List.mem_cons_of_mem _ member)
              unfold gatherStep
              split
              · next bucketId record isRecord =>
                cases item with
                | error text => cases isRecord
                | ok entry =>
                    obtain ⟨same, recorded⟩ := (isScanned.entries _ _
                      (present entry List.mem_cons_self)).record
                        bucketId record isRecord
                    exact kept.insert same recorded
              · exact kept
        apply (fill _ inRecords).bind
        intro _ _
        apply (fill _ inRecords).bind
        intro _ _
        exact preserves_pure inRecords

/-- All that is read of a room was issued. -/
theorem preserves_readRoomData :
    Preserves (InStorage Value issued roomId) (InData issued roomId)
      (readRoomData faults roomId : Storage (RoomData Value)) := by
  unfold readRoomData
  apply (preserves_loadBuckets faults).attempt.bind
  intro buckets areRecords
  apply (preserves_loadMembers faults).attempt.bind
  intro members areMembers
  apply (preserves_loadAllFragments faults).attempt.bind
  intro fragments areFragments
  cases fragments with
  | error text => exact preserves_throw _
  | ok fragments =>
      apply preserves_pure
      refine ⟨?_, ?_, areFragments fragments rfl⟩
      · intro definition member
        obtain ⟨⟨bucketId, record⟩, listed, rfl⟩ := List.mem_map.mp member
        cases buckets with
        | error text =>
            have found := Std.ExtTreeMap.mem_toList_iff_getElem?_eq_some.mp
              (show (bucketId, record) ∈
                (∅ : Map BucketId BucketRecord).toList from listed)
            simp at found
        | ok records =>
            have found := Std.ExtTreeMap.mem_toList_iff_getElem?_eq_some.mp
              (show (bucketId, record) ∈ records.toList from listed)
            obtain ⟨same, recorded⟩ := areRecords records rfl bucketId record
              found
            exact same.symm ▸ recorded
      · intro member inside
        cases members with
        | error text => exact absurd inside Std.ExtTreeSet.not_mem_empty
        | ok members => exact areMembers members rfl member inside

end Storage

/-! ## Rooms in memory -/

section Rooms

variable {issued : Commands → Prop} {roomId : RoomId}
variable {room changed : RoomState Value}

/-- A new room has nothing in it. -/
theorem inRoom_fresh (loaded : Bool) :
    InRoom issued roomId (.fresh loaded : RoomState Value) := by
  constructor <;> simp [RoomState.fresh]

namespace InRoom

/-- A bucket that was asked for comes into memory. -/
theorem newBucket (inRoom : InRoom issued roomId room) {bucketId : BucketId}
    {text : String} (wanted : issued (.newBucket roomId bucketId text)) :
    InRoom issued roomId (RoomEffect.newBucket bucketId (trim text) room) where
  buckets other inside := by
    rcases mem_map_insertIfNew.mp inside with rfl | before
    · exact Or.inl ⟨text, wanted⟩
    · exact inRoom.buckets other before
  fragments other key entry found := by
    rw [RoomEffect.newBucket, getNested, lookup_insertIfNew] at found
    split at found
    · simp at found
    · exact inRoom.fragments other key entry found
  labels other label found := by
    rw [RoomEffect.newBucket] at found
    split at found
    · exact inRoom.labels other label found
    · next notBlank =>
      rw [lookup_insert] at found
      split at found
      · next same =>
        subst same
        cases found
        exact ⟨text, wanted, (if_neg notBlank).symm, rfl⟩
      · exact inRoom.labels other label found
  flags other flags found := by
    rw [RoomEffect.newBucket, lookup_insertIfNew] at found
    split at found
    · exact (Option.some.inj found).symm
    · exact inRoom.flags other flags found
  members := inRoom.members
  buffered := inRoom.buffered

theorem deleteBucket (inRoom : InRoom issued roomId room)
    (bucketId : BucketId) :
    InRoom issued roomId (RoomEffect.deleteBucket bucketId room) where
  buckets other inside :=
    inRoom.buckets other (Std.ExtTreeMap.mem_of_mem_erase inside)
  fragments other key entry found := by
    rw [RoomEffect.deleteBucket, getNested, lookup_erase] at found
    split at found
    · cases found
    · exact inRoom.fragments other key entry found
  labels other label found := by
    rw [RoomEffect.deleteBucket, lookup_erase] at found
    split at found
    · cases found
    · exact inRoom.labels other label found
  flags other flags found := by
    rw [RoomEffect.deleteBucket, lookup_erase] at found
    split at found
    · cases found
    · exact inRoom.flags other flags found
  members := inRoom.members
  buffered := inRoom.buffered

/-- A member that was asked for comes into memory. -/
theorem newMember (inRoom : InRoom issued roomId room) {text : String}
    (wanted : issued (.newMember roomId text)) :
    InRoom issued roomId (RoomEffect.newMember (trim text) room) := by
  unfold RoomEffect.newMember
  split
  · exact inRoom
  · refine { inRoom with members := ?_ }
    intro member inside
    rcases mem_set_insert.mp inside with same | before
    · exact ⟨text, wanted, same⟩
    · exact inRoom.members member before

theorem deleteMember (inRoom : InRoom issued roomId room) (member : String) :
    InRoom issued roomId (RoomEffect.deleteMember member room) where
  buckets := inRoom.buckets
  fragments := inRoom.fragments
  labels := inRoom.labels
  flags := inRoom.flags
  members other inside :=
    inRoom.members other (Std.ExtTreeSet.mem_of_mem_erase inside)
  buffered := inRoom.buffered

/-- A value that was written comes into memory. -/
theorem store (inRoom : InRoom issued roomId room) {bucketId : BucketId}
    {key : String} {data : FragmentData}
    (wanted : issued (.writeFragment roomId bucketId key data)) :
    InRoom issued roomId
      (room.store bucketId key (SerdeJson.parsePayload data)) where
  buckets other inside := by
    rcases mem_map_insert.mp inside with rfl | before
    · exact Or.inr ⟨key, data, wanted⟩
    · exact inRoom.buckets other before
  fragments other name entry found := by
    rw [RoomState.store, getNested_insertNested] at found
    split at found
    · next same =>
      obtain ⟨rfl, rfl⟩ := same
      cases found
      exact ⟨data, wanted, rfl⟩
    · exact inRoom.fragments other name entry found
  labels := inRoom.labels
  flags := inRoom.flags
  members := inRoom.members
  buffered := inRoom.buffered

/-- A write comes into memory, and there is no transaction to buffer it. -/
theorem setFragment (inRoom : InRoom issued roomId room)
    {bucketId : BucketId} {key : String} {data : FragmentData}
    (wanted : issued (.writeFragment roomId bucketId key data))
    (stored : room.setFragment bucketId key (SerdeJson.parsePayload data) =
      .ok changed) :
    InRoom issued roomId changed := by
  unfold RoomState.setFragment at stored
  rw [inRoom.buffered] at stored
  split at stored
  · cases stored
  · split at stored
    · cases stored
    · cases stored
      exact inRoom.store wanted

theorem unload (inRoom : InRoom issued roomId room) :
    InRoom issued roomId room.unload := by
  constructor <;> simp [RoomState.unload, inRoom.buffered]

/-- A loaded bucket comes into memory with its fragments. -/
theorem installBucket (inRoom : InRoom issued roomId room)
    {fragments : Map BucketId (Map String Value)}
    (wrote : ∀ (bucketId : BucketId) (key : String) (value : Value),
      getNested fragments bucketId key = some value →
        Wrote issued roomId bucketId key value)
    {definition : BucketId × Option String × UInt32}
    (recorded :
      Recorded issued roomId definition.1 definition.2.1 definition.2.2) :
    InRoom issued roomId (room.installBucket fragments definition) := by
  obtain ⟨bucketId, label, flags⟩ := definition
  obtain ⟨text, wanted, isLabel, isFlags⟩ := recorded
  constructor
  · intro other inside
    rcases mem_map_insert.mp inside with rfl | before
    · exact Or.inl ⟨text, wanted⟩
    · exact inRoom.buckets other before
  · intro other key entry found
    simp only [RoomState.installBucket, getNested, lookup_insert] at found
    split at found
    · next same =>
      subst same
      simp only [Option.bind_some, RoomState.loadedEntries,
        Std.ExtTreeMap.getElem?_map, lookup_getD_empty] at found
      obtain ⟨value, stored, rfl⟩ := Option.map_eq_some_iff.mp found
      exact wrote bucketId key value stored
    · exact inRoom.fragments other key entry found
  · intro other name found
    simp only [RoomState.installBucket] at found
    cases label with
    | none => exact inRoom.labels other name found
    | some own =>
        simp only [lookup_insert] at found
        split at found
        · next same =>
          subst same
          cases found
          exact ⟨text, wanted, isLabel, rfl⟩
        · exact inRoom.labels other name found
  · intro other value found
    simp only [RoomState.installBucket, lookup_insert] at found
    split at found
    · exact (Option.some.inj found).symm.trans isFlags
    · exact inRoom.flags other value found
  · exact inRoom.members
  · exact inRoom.buffered

/-- What is loaded into memory was issued. -/
theorem loadData (inRoom : InRoom issued roomId room) {data : RoomData Value}
    (inData : InData issued roomId data) :
    InRoom issued roomId
      (room.loadData data.bucketDefs data.members data.fragments) := by
  have cleared : InRoom issued roomId { room with
      buckets := ∅, bucketLabels := ∅, bucketFlags := ∅ } := by
    constructor <;> simp [inRoom.buffered]
    exact inRoom.members
  have installed : ∀ (definitions : List (BucketId × Option String × UInt32))
      (start : RoomState Value), InRoom issued roomId start →
      (∀ definition ∈ definitions, Recorded issued roomId definition.1
        definition.2.1 definition.2.2) →
      InRoom issued roomId (definitions.foldl
        (RoomState.installBucket data.fragments) start) := by
    intro definitions
    induction definitions with
    | nil => exact fun _ kept _ => kept
    | cons definition rest ih =>
        intro start kept recorded
        apply ih
        · exact kept.installBucket inData.fragments
            (recorded definition List.mem_cons_self)
        · exact fun other member =>
            recorded other (List.mem_cons_of_mem _ member)
  have filled := installed data.bucketDefs _ cleared inData.bucketDefs
  exact { filled with members := inData.members }

end InRoom

end Rooms

/-! ## Kernels -/

section Kernels

variable {issued : Commands → Prop} {kernel : SyncpondKernel Value}

omit [SerdeJson Value] in
/-- Opening a database changes no content, whether it succeeds or not. -/
theorem view_openRoomDb (faults : Faults) (manager : PersistenceManager)
    (roomId other : RoomId) :
    (manager.openRoomDb faults roomId).1.view other = manager.view other := by
  have created :
      (manager.dirs.insertIfNew (roomDir roomId) ∅)[roomDir other]?.getD ∅ =
        manager.dirs[roomDir other]?.getD ∅ := by
    rw [lookup_insertIfNew]
    split
    · next new =>
      have absent := Std.ExtTreeMap.getElem?_eq_none new.2
      rw [new.1] at absent
      rw [absent]
      rfl
    · rfl
  unfold PersistenceManager.openRoomDb
  split
  · rfl
  · split
    · rfl
    · split
      · exact congrArg (RoomPersistence.mk · _) created
      · exact congrArg (RoomPersistence.mk · _) created

namespace Accounted

theorem openRoomDb (accounted : Accounted issued kernel) (faults : Faults)
    (roomId : RoomId) :
    Accounted issued { kernel with
      persistence := (kernel.persistence.openRoomDb faults roomId).1 } where
  rooms := accounted.rooms
  labels := accounted.labels
  storage other := by
    rw [view_openRoomDb]
    exact accounted.storage other
  notifications := accounted.notifications

/-- What an operation leaves in the database is accounted for. -/
theorem writeBack (accounted : Accounted issued kernel) {roomId : RoomId}
    {room : RoomPersistence}
    (inStorage : InStorage Value issued roomId room) :
    Accounted issued { kernel with
      persistence := kernel.persistence.writeBack roomId room } where
  rooms := accounted.rooms
  labels := accounted.labels
  storage other := by
    rw [PersistenceManager.view_writeBack]
    refine ⟨?_, inStorage.cache⟩
    intro key bytes stored
    dsimp only at stored
    split at stored
    · next same => exact same ▸ inStorage.entries key bytes stored
    · exact (accounted.storage other).entries key bytes stored
  notifications := accounted.notifications

/-- A room changes, or is added. -/
theorem setRoom (accounted : Accounted issued kernel) {roomId : RoomId}
    {room : RoomState Value} (inRoom : InRoom issued roomId room) :
    Accounted issued { kernel with
      state := { kernel.state with
        rooms := kernel.state.rooms.insert roomId room } } where
  rooms other found isRoom := by
    rw [lookup_insert] at isRoom
    split at isRoom
    · next same =>
      cases isRoom
      exact same ▸ inRoom
    · exact accounted.rooms other found isRoom
  labels := accounted.labels
  storage := accounted.storage
  notifications := accounted.notifications

/-- A new room brings nothing along. -/
theorem createRoom (accounted : Accounted issued kernel) :
    Accounted issued kernel.createRoom.2 := by
  have fresh : InRoom issued kernel.state.nextRoomId
      (.fresh true : RoomState Value) := inRoom_fresh true
  have added := accounted.setRoom fresh
  exact ⟨added.rooms, added.labels, added.storage, added.notifications⟩

theorem labelRoom (accounted : Accounted issued kernel) (roomId : RoomId)
    {name : String} (wanted : issued (.newRoom name)) :
    Accounted issued (kernel.labelRoom roomId name) := by
  unfold SyncpondKernel.labelRoom
  split
  · exact accounted
  · cases labelled : kernel.state.setRoomLabel roomId name with
    | error error => exact accounted
    | ok app =>
        obtain ⟨_, _, ⟨_, rfl⟩ | ⟨_, rfl⟩⟩ := setRoomLabel_eq_ok labelled
        · exact accounted
        · refine ⟨accounted.rooms, ?_, accounted.storage,
            accounted.notifications⟩
          intro label other found
          rw [lookup_insert] at found
          split at found
          · next same => exact ⟨name, wanted, same⟩
          · exact accounted.labels label other found

/-- A change of one room is accounted for by what it does to the room. -/
theorem withRoom (accounted : Accounted issued kernel) {roomId : RoomId}
    {mutate : RoomState Value → Except StateError (RoomState Value)}
    {app : AppState Value}
    (mutates : ∀ room changed, InRoom issued roomId room →
      mutate room = .ok changed → InRoom issued roomId changed)
    (mutated : kernel.state.withRoom roomId mutate = .ok app) :
    Accounted issued { kernel with state := app } := by
  unfold AppState.withRoom at mutated
  split at mutated
  · cases mutated
  · next room found =>
    cases result : mutate room with
    | error error =>
        rw [result] at mutated
        cases mutated
    | ok changed =>
        rw [result] at mutated
        cases mutated
        exact accounted.setRoom
          (mutates room changed (accounted.rooms roomId room found) result)

theorem mutateRoom (accounted : Accounted issued kernel) {roomId : RoomId}
    {effect : RoomState Value → RoomState Value}
    (mutates : ∀ room, InRoom issued roomId room →
      InRoom issued roomId (effect room)) :
    Accounted issued (kernel.mutateRoom roomId effect).2 := by
  unfold SyncpondKernel.mutateRoom
  split
  · exact accounted
  · next room found =>
    split
    · exact accounted
    · exact accounted.setRoom (mutates room (accounted.rooms roomId room found))

/-- The commit of an issued write. -/
theorem commitWrite (accounted : Accounted issued kernel) {roomId : RoomId}
    {bucketId : BucketId} {key : String} {data : FragmentData}
    (wanted : issued (.writeFragment roomId bucketId key data)) :
    Accounted issued (kernel.commitWrite roomId bucketId key
      (SerdeJson.parsePayload data)).2 := by
  unfold SyncpondKernel.commitWrite
  cases stored : kernel.state.setFragment roomId bucketId key
      (SerdeJson.parsePayload data) with
  | error error => exact accounted
  | ok app =>
      exact accounted.withRoom (fun _ _ inRoom changed =>
        inRoom.setFragment wanted changed) stored

/-- The notification of an issued write. -/
theorem broadcast (accounted : Accounted issued kernel) {roomId : RoomId}
    {bucketId : BucketId} {key : String} {value : Value}
    (wrote : Wrote issued roomId bucketId key value)
    (assigned : Option UInt64) (roomCounter : UInt64) :
    Accounted issued (kernel.broadcast roomId assigned
      (writeUpdate bucketId key value roomCounter)) := by
  refine ⟨accounted.rooms, accounted.labels, accounted.storage, ?_⟩
  intro notification member
  rcases Channel.mem_sendOrDrop member with before | rfl
  · exact accounted.notifications notification before
  · exact ⟨value, rfl, wrote⟩

theorem installRoomData (accounted : Accounted issued kernel)
    {roomId : RoomId} {data : RoomData Value}
    (inData : InData issued roomId data) :
    Accounted issued (kernel.installRoomData roomId data).2 := by
  unfold SyncpondKernel.installRoomData
  cases installed : kernel.state.loadRoomData roomId data.bucketDefs
      data.members data.fragments with
  | error error => exact accounted
  | ok app =>
      refine accounted.withRoom (fun room changed inRoom loaded => ?_) installed
      cases loaded
      exact inRoom.loadData inData

theorem unloadRoom (accounted : Accounted issued kernel) (roomId : RoomId) :
    Accounted issued (kernel.unloadRoom roomId).2 := by
  unfold SyncpondKernel.unloadRoom
  cases unloaded : kernel.state.unloadRoom roomId with
  | error error => exact accounted
  | ok app =>
      refine accounted.withRoom (fun room changed inRoom evicted => ?_) unloaded
      cases evicted
      exact inRoom.unload

theorem deleteRoom (accounted : Accounted issued kernel) (roomId : RoomId) :
    Accounted issued (kernel.deleteRoom roomId).2 := by
  unfold SyncpondKernel.deleteRoom AppState.deleteRoom
  split
  · next app deleted =>
    split at deleted
    · cases deleted
      refine ⟨?_, ?_, accounted.storage, accounted.notifications⟩
      · intro other room found
        rw [lookup_erase] at found
        split at found
        · cases found
        · exact accounted.rooms other room found
      · intro label other found
        rw [Std.ExtTreeMap.getElem?_filter'] at found
        exact accounted.labels label other
          (Option.filter_eq_some_iff.mp found).1
    · cases deleted
  · exact accounted

end Accounted

/-- What a read finds was written. -/
theorem wrote_of_readFragment (accounted : Accounted issued kernel)
    {roomId : RoomId} {bucketId : BucketId} {key : String}
    {bytes : FragmentData}
    (read : readFragment kernel.state roomId bucketId key =
      .fragmentReadResponse (some bytes)) :
    ∃ value : Value, Wrote issued roomId bucketId key value ∧
      SerdeJson.value.toVec value = .ok bytes := by
  obtain ⟨value, ⟨room, entry, isRoom, _, _, found, rfl, _⟩, isBytes⟩ :=
    readFragment_eq_some_iff.mp read
  exact ⟨entry.value,
    (accounted.rooms roomId room isRoom).fragments bucketId key entry found,
    isBytes⟩

end Kernels

/-! ## Commands -/

section Commands

variable {issued : Commands → Prop} (faults : Faults)

variable (Value) in
/-- A read of a fragment returns what was written to it. -/
def ReadsWritten (issued : Commands → Prop) (command : Commands)
    (response : CommandResponse) : Prop :=
  ∀ (roomId : RoomId) (bucketId : BucketId) (key : String)
    (bytes : FragmentData), command = .readFragment roomId bucketId key →
    response = .fragmentReadResponse (some bytes) →
    ∃ value : Value, Wrote issued roomId bucketId key value ∧
      SerdeJson.value.toVec value = .ok bytes

/-- A task that keeps kernels accounted for. -/
abbrev Accounts {Result : Type} (issued : Commands → Prop)
    (task : Task Value Result) : Prop :=
  KeepsAlways (Accounted issued) task

theorem accounts_persist {roomId : RoomId} {operation : Storage Unit}
    (preserves : Preserves (InStorage Value issued roomId) (fun _ => True)
      operation) :
    Accounts issued
      (Task.persist faults roomId operation : Task Value Unit) :=
  keeps_persist preserves (fun _ accounted => accounted.openRoomDb faults roomId)
    (fun _ accounted => accounted.storage roomId)
    fun _ _ accounted inStorage => accounted.writeBack inStorage

/-- A change in memory and in the database, both accounted for. -/
theorem accounts_mutateAndPersist {roomId : RoomId}
    {effect : RoomState Value → RoomState Value} {operation : Storage Unit}
    (mutates : ∀ room, InRoom issued roomId room →
      InRoom issued roomId (effect room))
    (preserves : Preserves (InStorage Value issued roomId) (fun _ => True)
      operation) (response : CommandResponse) :
    Accounts issued
      (mutateAndPersist faults roomId effect operation response) :=
  keeps_mutateAndPersist (fun _ accounted => accounted.mutateRoom mutates)
    (accounts_persist faults preserves) response

theorem accounts_newRoom {name : String} (wanted : issued (.newRoom name)) :
    Accounts issued (handleNewRoom faults name : Task Value _) := by
  apply keeps_newRoom
  · exact fun _ accounted => accounted.createRoom
  · exact fun _ roomId accounted => accounted.openRoomDb faults roomId
  · exact fun _ roomId accounted => accounted.labelRoom roomId wanted

/-- A write, from its commit to its broadcast. -/
theorem accounts_writeFragment {roomId : RoomId} {bucketId : BucketId}
    {key : String} {data : FragmentData}
    (wanted : issued (.writeFragment roomId bucketId key data)) :
    Accounts issued
      (handleWriteFragment faults roomId bucketId key data :
        Task Value _) := by
  have wrote : Wrote issued roomId bucketId key
      (SerdeJson.parsePayload data : Value) := ⟨data, wanted, rfl⟩
  apply keeps_writeFragment
  · exact fun _ accounted => accounted.commitWrite wanted
  · exact accounts_persist faults (preserves_persistFragment faults wrote)
  · exact fun _ assigned roomCounter accounted =>
      accounted.broadcast wrote assigned roomCounter

/-- A load moves what is accounted for into memory. -/
theorem accounts_loadRoom (roomId : RoomId) :
    Accounts issued (handleLoadRoom faults roomId : Task Value _) := by
  apply keeps_loadRoom
  · exact fun _ accounted => accounted.openRoomDb faults roomId
  · exact keeps_onRoom (preserves_readRoomData faults)
      (fun _ accounted => accounted.storage roomId)
      fun _ _ accounted inStorage => accounted.writeBack inStorage
  · constructor <;> simp [RoomData.empty]
  · exact fun _ _ inData accounted => accounted.installRoomData inData

/-- An issued command keeps a kernel accounted for and reads what was written. -/
theorem keeps_handleCommand {command : Commands} (wanted : issued command) :
    Program.Keeps (Accounted issued) (ReadsWritten Value issued command)
      (handleCommand faults command : Task Value CommandResponse) := by
  have notRead {task : Task Value CommandResponse}
      (accounts : Accounts issued task)
      (different : ∀ roomId bucketId key,
        command ≠ .readFragment roomId bucketId key) :
      task.Keeps (Accounted issued) (ReadsWritten Value issued command) :=
    accounts.mono fun _ _ roomId bucketId key _ same =>
      absurd same (different roomId bucketId key)
  cases command with
  | newRoom name => exact notRead (accounts_newRoom faults wanted) (by simp)
  | newBucket roomId bucketId label =>
      exact notRead (accounts_mutateAndPersist faults
        (fun _ inRoom => inRoom.newBucket wanted)
        (preserves_persistBucket faults wanted) _) (by simp)
  | deleteBucket roomId bucketId =>
      exact notRead (accounts_mutateAndPersist faults
        (fun _ inRoom => inRoom.deleteBucket bucketId)
        (preserves_removeBucket faults bucketId) _) (by simp)
  | newMember roomId member =>
      have added : Added issued roomId (trim (trim member)) :=
        ⟨member, wanted, (trim_trim member).symm⟩
      exact notRead (accounts_mutateAndPersist faults
        (fun _ inRoom => inRoom.newMember wanted)
        (preserves_persistMember faults added) _) (by simp)
  | deleteMember roomId member =>
      exact notRead (accounts_mutateAndPersist faults
        (fun _ inRoom => inRoom.deleteMember (trim member))
        (preserves_removeMember faults (trim member)) _) (by simp)
  | writeFragment roomId bucketId key data =>
      exact notRead (accounts_writeFragment faults wanted) (by simp)
  | readFragment roomId bucketId key =>
      apply Program.keeps_read
      rintro kernel accounted _ _ _ bytes ⟨⟩ read
      exact wrote_of_readFragment accounted read
  | loadRoom roomId => exact notRead (accounts_loadRoom faults roomId) (by simp)
  | unloadRoom roomId =>
      refine notRead (Program.keeps_atomic fun _ accounted => ?_) (by simp)
      exact ⟨accounted.unloadRoom roomId, trivial⟩

end Commands

end Syncpond.Provenance
