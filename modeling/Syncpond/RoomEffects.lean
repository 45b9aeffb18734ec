import Syncpond.RoomRace

/-!
# The effects of the commands of a room

An effect is what an acknowledged command promises: a fragment, a bucket or a
member that is there or is not there.  A later effect can undo an earlier one;
the effects of a history that nothing later undid stand.

An effect shows in the memory of a loaded room, and a change of buckets or
members also shows in the bucket records and in the member list.
-/

namespace Syncpond.RoomEffects

open Syncpond.Protocol
open Syncpond.Serde
open Syncpond.State
open Syncpond.Persistence
open Syncpond.Kernel
open Syncpond.KernelStore
open Syncpond.Consistency
open Syncpond.Disks
open Syncpond.DiskOperations
open Syncpond.RoomRace
open Syncpond.Library.Maps
open Syncpond.Library.Text

variable {Value : Type}

/-- What an acknowledged command promises; labels and members are trimmed. -/
inductive Effect (Value : Type) where
  | write (bucketId : BucketId) (key : String) (value : Value)
  | newBucket (bucketId : BucketId) (label : String)
  | deleteBucket (bucketId : BucketId)
  | newMember (member : String)
  | deleteMember (member : String)

namespace Effect

/-- The first effect, later than the second one, undoes or replaces it. -/
def Undoes : Effect Value → Effect Value → Prop
  | .write bucketId key _, .write other otherKey _ =>
      bucketId = other ∧ key = otherKey
  | .write bucketId _ _, .deleteBucket other => bucketId = other
  | .newBucket bucketId label, .newBucket other _ =>
      bucketId = other ∧ label.isEmpty = false
  | .newBucket bucketId _, .deleteBucket other => bucketId = other
  | .deleteBucket bucketId, .write other _ _ => bucketId = other
  | .deleteBucket bucketId, .newBucket other _ => bucketId = other
  | .newMember member, .deleteMember other => member = other
  | .deleteMember member, .newMember other => member = other
  | _, _ => False

/-- The effect shows in the memory of a room. -/
def Visible [SerdeJson Value] (room : RoomState Value) : Effect Value → Prop
  | .write bucketId key value =>
      (getNested room.buckets bucketId key).elim
        (SerdeJson.isNull value = true) fun entry => entry.value = value
  | .newBucket bucketId label =>
      bucketId ∈ room.buckets ∧ bucketId ∈ room.bucketFlags ∧
        (label.isEmpty = false → room.bucketLabels[bucketId]? = some label)
  | .deleteBucket bucketId =>
      bucketId ∉ room.buckets ∧ bucketId ∉ room.bucketFlags ∧
        bucketId ∉ room.bucketLabels
  | .newMember member => member.isEmpty = false → member ∈ room.members
  | .deleteMember member => member ∉ room.members

/-- The effect shows in the bucket records and in the member list. -/
def Recorded (records : Map BucketId BucketRecord)
    (members : FinSet String) : Effect Value → Prop
  | .write _ _ _ => True
  | .newBucket bucketId _ => bucketId ∈ records
  | .deleteBucket bucketId => bucketId ∉ records
  | .newMember member => member.isEmpty = false → member ∈ members
  | .deleteMember member => member ∉ members

/--
The database has the value of a write, with a record of its bucket, and the
label of a labelled bucket.
-/
def OnDisk [SerdeJson Value] (roomId : RoomId) (db : Db) :
    Effect Value → Prop
  | .write bucketId key value =>
      decoded roomId db SerdeJson.value (.fragment bucketId key) =
          (persistedValue value).map .ok ∧
        (SerdeJson.isNull value = false →
          (DbKey.bucket bucketId).text roomId ∈ db)
  | .newBucket bucketId label => label.isEmpty = false →
      ∃ record, decoded roomId db (SerdeJson.bucketRecord Value)
          (.bucket bucketId) = some (.ok record) ∧ record.label = some label
  | _ => True

end Effect

/-! ## Effects that stand -/

/-- The effect is in the history, the newest effect first, and is not undone. -/
def Standing : List (Nat × Effect Value) → Effect Value → Prop
  | [], _ => False
  | (_, latest) :: older, effect =>
      effect = latest ∨ (¬latest.Undoes effect ∧ Standing older effect)

/-- An effect of the history stands, or a later effect undoes it. -/
theorem standing_or_undone {history : List (Nat × Effect Value)} {task : Nat}
    {effect : Effect Value} (member : (task, effect) ∈ history) :
    ∃ newer older, history = newer ++ (task, effect) :: older ∧
      ((∃ later ∈ newer, later.2.Undoes effect) ∨
        Standing history effect) := by
  induction history with
  | nil => cases member
  | cons latest rest ih =>
      rcases List.mem_cons.mp member with rfl | inRest
      · exact ⟨[], rest, rfl, Or.inr (Or.inl rfl)⟩
      · obtain ⟨newer, older, rfl, undone | stands⟩ := ih inRest
        · obtain ⟨later, isNewer, undoes⟩ := undone
          exact ⟨latest :: newer, older, rfl,
            Or.inl ⟨later, List.mem_cons_of_mem _ isNewer, undoes⟩⟩
        · by_cases undoes : latest.2.Undoes effect
          · exact ⟨latest :: newer, older, rfl,
              Or.inl ⟨latest, List.mem_cons_self, undoes⟩⟩
          · exact ⟨latest :: newer, older, rfl,
              Or.inr (Or.inr ⟨undoes, stands⟩)⟩

/-! ## The effects of the commands -/

section Changes

/-- What a change of buckets or members promises. -/
def Change.promise : Change → Effect Value
  | .newBucket bucketId label => .newBucket bucketId (trim label)
  | .deleteBucket bucketId => .deleteBucket bucketId
  | .newMember member => .newMember (trim member)
  | .deleteMember member => .deleteMember (trim member)

/-- The bucket records after a change. -/
def Change.records (records : Map BucketId BucketRecord) :
    Change → Map BucketId BucketRecord
  | .newBucket bucketId label =>
      records.insert bucketId ⟨bucketId, labelOption (trim label), 0⟩
  | .deleteBucket bucketId => records.erase bucketId
  | _ => records

/-- The member list after a change. -/
def Change.members (members : FinSet String) : Change → FinSet String
  | .newMember member =>
      if (trim member).isEmpty then members else members.insert (trim member)
  | .deleteMember member => members.erase (trim member)
  | _ => members

variable [SerdeJson Value] {room : RoomState Value} {effect : Effect Value}

/-- A write shows at once. -/
theorem visible_write (room : RoomState Value) (bucketId : BucketId)
    (key : String) (value : Value) :
    (Effect.write bucketId key value).Visible
      (room.store bucketId key value) := by
  simp [Effect.Visible, RoomState.store, getNested_insertNested]

/-- A write keeps the effects that it does not undo. -/
theorem Effect.Visible.write (visible : effect.Visible room) {bucketId : BucketId}
    {key : String} {value : Value}
    (keeps : ¬(Effect.write bucketId key value).Undoes effect) :
    effect.Visible (room.store bucketId key value) := by
  cases effect with
  | write other otherKey value =>
      have different : ¬(bucketId = other ∧ key = otherKey) := keeps
      simpa only [Effect.Visible, RoomState.store, getNested_insertNested,
        if_neg different] using visible
  | newBucket other label =>
      exact ⟨mem_map_insert.mpr (Or.inr visible.1), visible.2⟩
  | deleteBucket other =>
      have different : bucketId ≠ other := keeps
      refine ⟨fun member => ?_, visible.2⟩
      rcases mem_map_insert.mp member with same | before
      · exact different same
      · exact visible.1 before
  | newMember member => exact visible
  | deleteMember member => exact visible

/-- A change shows at once. -/
theorem visible_change (room : RoomState Value) (change : Change) :
    (Change.promise change : Effect Value).Visible (change.effect room) := by
  cases change with
  | newBucket bucketId label =>
      refine ⟨mem_map_insertIfNew.mpr (Or.inl rfl),
        mem_map_insertIfNew.mpr (Or.inl rfl), fun labelled => ?_⟩
      simp [Change.effect, RoomEffect.newBucket, labelled]
  | deleteBucket bucketId =>
      simp [Change.promise, Effect.Visible, Change.effect,
        RoomEffect.deleteBucket]
  | newMember member =>
      intro named
      have named : (trim member).isEmpty = false := named
      simp [Change.effect, RoomEffect.newMember, named]
  | deleteMember member =>
      simp [Change.promise, Effect.Visible, Change.effect,
        RoomEffect.deleteMember]

omit [SerdeJson Value] in
theorem getNested_insertIfNew_empty (buckets : Buckets Value)
    (created bucketId : BucketId) (key : String) :
    getNested (buckets.insertIfNew created ∅) bucketId key =
      getNested buckets bucketId key := by
  simp only [getNested, lookup_insertIfNew]
  split
  · next isNew =>
    obtain ⟨rfl, absent⟩ := isNew
    have notFound : buckets[created]? = none := by simpa using absent
    simp [notFound]
  · rfl

omit [SerdeJson Value] in
theorem getNested_erase_of_ne (buckets : Buckets Value)
    {deleted bucketId : BucketId} (different : deleted ≠ bucketId)
    (key : String) :
    getNested (buckets.erase deleted) bucketId key =
      getNested buckets bucketId key := by
  simp only [getNested, lookup_erase, if_neg different]

/-- A change keeps the effects that it does not undo. -/
theorem Effect.Visible.change (visible : effect.Visible room) {change : Change}
    (keeps : ¬(Change.promise change : Effect Value).Undoes effect) :
    effect.Visible (change.effect room) := by
  cases change with
  | newBucket created label =>
      cases effect with
      | write bucketId key value =>
          simpa only [Effect.Visible, Change.effect, RoomEffect.newBucket,
            getNested_insertIfNew_empty] using visible
      | newBucket bucketId earlier =>
          have kept : ¬(created = bucketId ∧ (trim label).isEmpty = false) :=
            keeps
          refine ⟨mem_map_insertIfNew.mpr (Or.inr visible.1),
            mem_map_insertIfNew.mpr (Or.inr visible.2.1), fun labelled => ?_⟩
          simp only [Change.effect, RoomEffect.newBucket]
          split
          · exact visible.2.2 labelled
          · next named =>
            have different : created ≠ bucketId :=
              fun same => kept ⟨same, by simpa using named⟩
            rw [lookup_insert, if_neg different]
            exact visible.2.2 labelled
      | deleteBucket bucketId =>
          have different : created ≠ bucketId := keeps
          refine ⟨?_, ?_, ?_⟩
          · exact fun member => (mem_map_insertIfNew.mp member).elim
              different visible.1
          · exact fun member => (mem_map_insertIfNew.mp member).elim
              different visible.2.1
          · simp only [Change.effect, RoomEffect.newBucket]
            split
            · exact visible.2.2
            · exact fun member => (mem_map_insert.mp member).elim
                different visible.2.2
      | newMember member => exact visible
      | deleteMember member => exact visible
  | deleteBucket deleted =>
      cases effect with
      | write bucketId key value =>
          have different : deleted ≠ bucketId := keeps
          simpa only [Effect.Visible, Change.effect, RoomEffect.deleteBucket,
            getNested_erase_of_ne _ different] using visible
      | newBucket bucketId label =>
          have different : deleted ≠ bucketId := keeps
          simpa [Effect.Visible, Change.effect, RoomEffect.deleteBucket,
            lookup_erase, different] using visible
      | deleteBucket bucketId =>
          simp only [Effect.Visible, Change.effect, RoomEffect.deleteBucket,
            Std.ExtTreeMap.mem_erase]
          exact ⟨fun member => visible.1 member.2,
            fun member => visible.2.1 member.2,
            fun member => visible.2.2 member.2⟩
      | newMember member => exact visible
      | deleteMember member => exact visible
  | newMember added =>
      simp only [Change.effect, RoomEffect.newMember]
      split
      · exact visible
      · cases effect with
        | newMember member =>
            exact fun named => mem_set_insert.mpr (Or.inr (visible named))
        | deleteMember member =>
            exact fun inside => (mem_set_insert.mp inside).elim keeps visible
        | write bucketId key value => exact visible
        | newBucket bucketId label => exact visible
        | deleteBucket bucketId => exact visible
  | deleteMember removed =>
      cases effect with
      | newMember member =>
          have different : trim removed ≠ member := keeps
          intro named
          simpa [Change.effect, RoomEffect.deleteMember, different] using
            visible named
      | deleteMember member =>
          intro inside
          exact visible (Std.ExtTreeSet.mem_of_mem_erase inside)
      | write bucketId key value => exact visible
      | newBucket bucketId label => exact visible
      | deleteBucket bucketId => exact visible

omit [SerdeJson Value] in
/-- A change is recorded by what it does to the disk. -/
theorem recorded_change (records : Map BucketId BucketRecord)
    (members : FinSet String) (change : Change) :
    (Change.promise change : Effect Value).Recorded
      (Change.records records change) (Change.members members change) := by
  cases change with
  | newBucket bucketId label => exact mem_map_insert.mpr (Or.inl rfl)
  | deleteBucket bucketId =>
      simp [Change.promise, Effect.Recorded, Change.records]
  | newMember member =>
      intro named
      have named : (trim member).isEmpty = false := named
      simp [Change.members, named]
  | deleteMember member =>
      simp [Change.promise, Effect.Recorded, Change.members]

omit [SerdeJson Value] in
/-- A change keeps the records of the effects that it does not undo. -/
theorem Effect.Recorded.change {records : Map BucketId BucketRecord}
    {members : FinSet String} (recorded : effect.Recorded records members)
    {change : Change}
    (keeps : ¬(Change.promise change : Effect Value).Undoes effect) :
    effect.Recorded (Change.records records change)
      (Change.members members change) := by
  cases change with
  | newBucket created label =>
      cases effect with
      | newBucket bucketId earlier =>
          exact mem_map_insert.mpr (Or.inr recorded)
      | deleteBucket bucketId =>
          exact fun member => (mem_map_insert.mp member).elim keeps recorded
      | write bucketId key value => trivial
      | newMember member => exact recorded
      | deleteMember member => exact recorded
  | deleteBucket deleted =>
      cases effect with
      | newBucket bucketId label =>
          have different : deleted ≠ bucketId := keeps
          have inRecords : bucketId ∈ records := recorded
          simpa [Effect.Recorded, Change.records, different] using inRecords
      | deleteBucket bucketId =>
          exact fun member => recorded (Std.ExtTreeMap.mem_of_mem_erase member)
      | write bucketId key value => trivial
      | newMember member => exact recorded
      | deleteMember member => exact recorded
  | newMember added =>
      simp only [Change.records, Change.members]
      split
      · exact recorded
      · cases effect with
        | newMember member =>
            exact fun named => mem_set_insert.mpr (Or.inr (recorded named))
        | deleteMember member =>
            exact fun inside => (mem_set_insert.mp inside).elim keeps recorded
        | write bucketId key value => trivial
        | newBucket bucketId label => exact recorded
        | deleteBucket bucketId => exact recorded
  | deleteMember removed =>
      cases effect with
      | newMember member =>
          have different : trim removed ≠ member := keeps
          intro named
          simpa [Change.members, different] using recorded named
      | deleteMember member =>
          intro inside
          exact recorded (Std.ExtTreeSet.mem_of_mem_erase inside)
      | write bucketId key value => trivial
      | newBucket bucketId label => exact recorded
      | deleteBucket bucketId => exact recorded

/-- What stands on disk shows in memory after it was loaded. -/
theorem visible_load {roomId : RoomId} {db : Db} {disk : Disk Value}
    (represents : Represents roomId db disk)
    {fragments : Map BucketId (Map String Value)}
    (scanned : ∀ bucketId,
      fragments[bucketId]?.getD ∅ = disk.fragments bucketId)
    (recorded : effect.Recorded disk.records disk.members)
    (onDisk : effect.OnDisk roomId db) (room : RoomState Value) :
    effect.Visible
      (room.loadData (bucketDefs disk.records) disk.members fragments) := by
  rw [loadData_eq_loadFrom represents.records.identified scanned]
  cases effect with
  | write bucketId key value =>
      obtain ⟨stored, hasRecord⟩ := onDisk
      have found : (disk.fragments bucketId)[key]? = persistedValue value := by
        rw [represents.fragments bucketId key] at stored
        exact Option.map_injective (fun _ _ => Except.ok.inj) stored
      simp only [Effect.Visible, getNested_loadFrom, found]
      unfold persistedValue
      cases isNull : SerdeJson.isNull value with
      | true => simp
      | false =>
          have inRecords : bucketId ∈ disk.records :=
            (mem_db_iff_mem_records roomId represents.records).mp
              (hasRecord isNull)
          simp [inRecords]
  | newBucket bucketId label =>
      have inRecords : bucketId ∈ disk.records := recorded
      refine ⟨by simpa [Store.loadFrom] using inRecords,
        by simpa [Store.loadFrom] using inRecords, fun labelled => ?_⟩
      obtain ⟨record, stored, named⟩ := onDisk labelled
      rw [represents.records.stored bucketId] at stored
      obtain ⟨found, lookup, same⟩ := Option.map_eq_some_iff.mp stored
      cases same
      simp [Store.loadFrom, lookup, named]
  | deleteBucket bucketId =>
      have absent : bucketId ∉ disk.records := recorded
      refine ⟨by simpa [Store.loadFrom] using absent,
        by simpa [Store.loadFrom] using absent, fun member => ?_⟩
      obtain ⟨inRecords, _⟩ := Std.ExtTreeMap.mem_filterMap.mp member
      exact absent inRecords
  | newMember member => exact recorded
  | deleteMember member => exact recorded

end Changes

end Syncpond.RoomEffects
