import Syncpond.DeltaSnapshot

/-!
# Views of a room reveal granted buckets only

Two states of a room that agree on the counter and on the granted buckets have
the same snapshot and the same deltas, whatever their other buckets hold.  A
snapshot shows of a granted bucket that it exists, even if it is empty; a
delta does not show this, and depends on the fragments alone.
-/

namespace Syncpond.GrantedViews

open Syncpond.Protocol
open Syncpond.Serde
open Syncpond.State
open Syncpond.DeltaSnapshot
open Syncpond.Library.Maps

variable {Value : Type}

/-! ## Agreement on the granted buckets -/

/-- The public bucket and the allowed ones, except the reserved one. -/
def Granted (allowedBuckets : FinSet BucketId) (bucketId : BucketId) : Prop :=
  bucketId ≠ serverOnlyBucketId ∧
    (bucketId = 0 ∨ bucketId ∈ allowedBuckets)

theorem visible_iff {allowedBuckets : FinSet BucketId} {bucketId : BucketId} :
    RoomState.visible allowedBuckets bucketId = true ↔
      Granted allowedBuckets bucketId := by
  simp [RoomState.visible, Granted]

/-- The granted buckets hold the same fragments with the same versions. -/
structure SameFragments (allowedBuckets : FinSet BucketId)
    (room other : RoomState Value) : Prop where
  roomCounter : room.roomCounter = other.roomCounter
  fragments : ∀ bucketId, Granted allowedBuckets bucketId → ∀ key,
    getNested room.buckets bucketId key = getNested other.buckets bucketId key

/-- The granted buckets are the same, with the same fragments. -/
structure SameGranted (allowedBuckets : FinSet BucketId)
    (room other : RoomState Value) : Prop
    extends SameFragments allowedBuckets room other where
  present : ∀ bucketId, Granted allowedBuckets bucketId →
    (bucketId ∈ room.buckets ↔ bucketId ∈ other.buckets)

section Buckets

variable {allowedBuckets : FinSet BucketId} {room other : RoomState Value}
variable {bucketId : BucketId}

theorem SameFragments.lookup_getD
    (same : SameFragments allowedBuckets room other)
    (granted : Granted allowedBuckets bucketId) :
    room.buckets[bucketId]?.getD ∅ = other.buckets[bucketId]?.getD ∅ := by
  apply Std.ExtTreeMap.ext_getElem?
  intro key
  rw [lookup_getD_empty, lookup_getD_empty]
  exact same.fragments bucketId granted key

theorem SameGranted.lookup (same : SameGranted allowedBuckets room other)
    (granted : Granted allowedBuckets bucketId) :
    room.buckets[bucketId]? = other.buckets[bucketId]? := by
  have present := same.present bucketId granted
  have fragments := same.lookup_getD granted
  rw [Std.ExtTreeMap.mem_iff_isSome_getElem?,
    Std.ExtTreeMap.mem_iff_isSome_getElem?] at present
  cases found : room.buckets[bucketId]? with
  | none =>
      cases foundOther : other.buckets[bucketId]? with
      | none => rfl
      | some _ => simp [found, foundOther] at present
  | some bucket =>
      cases foundOther : other.buckets[bucketId]? with
      | none => simp [found, foundOther] at present
      | some otherBucket => simpa [found, foundOther] using fragments

end Buckets

/-! ## Views -/

/-- A view depends on what is selected from each bucket alone. -/
theorem viewBuckets_congr {room other : RoomState Value}
    {select : BucketId → Map String (FragmentEntry Value) →
      Option (Map String Value)}
    (same : ∀ bucketId, room.buckets[bucketId]?.bind (select bucketId) =
      other.buckets[bucketId]?.bind (select bucketId)) :
    room.viewBuckets select = other.viewBuckets select := by
  apply Std.ExtTreeMap.ext_getElem?
  intro name
  by_cases named : ∃ bucketId, RoomState.bucketName bucketId = name
  · obtain ⟨bucketId, rfl⟩ := named
    rw [lookup_viewBuckets, lookup_viewBuckets]
    exact same bucketId
  · have noBucket : ∀ bucketId, RoomState.bucketName bucketId ≠ name :=
      fun bucketId equal => named ⟨bucketId, equal⟩
    rw [lookup_viewBuckets_of_forall_ne room select noBucket,
      lookup_viewBuckets_of_forall_ne other select noBucket]

/-- What a delta shows of a bucket, a missing one counting as empty. -/
def newerFragments (since : UInt64)
    (bucket : Map String (FragmentEntry Value)) : Option (Map String Value) :=
  let values := RoomState.newerValues since bucket
  if values.isEmpty then none else some values

theorem bind_newerFragments (since : UInt64)
    (bucket : Option (Map String (FragmentEntry Value))) :
    bucket.bind (newerFragments since) =
      newerFragments since (bucket.getD ∅) := by
  cases bucket with
  | some bucket => rfl
  | none =>
      have nothing : RoomState.newerValues since
          (∅ : Map String (FragmentEntry Value)) = ∅ := by
        apply Std.ExtTreeMap.ext_getElem?
        intro key
        simp [RoomState.newerValues]
      simp [newerFragments, nothing]

variable {allowedBuckets : FinSet BucketId} {room other : RoomState Value}

/-- A delta depends on the granted fragments alone. -/
theorem delta_congr (same : SameFragments allowedBuckets room other)
    (since : UInt64) :
    room.delta since allowedBuckets = other.delta since allowedBuckets := by
  have buckets : room.viewBuckets (fun bucketId fragments =>
        if RoomState.visible allowedBuckets bucketId then
          newerFragments since fragments
        else none) =
      other.viewBuckets fun bucketId fragments =>
        if RoomState.visible allowedBuckets bucketId then
          newerFragments since fragments
        else none := by
    refine viewBuckets_congr fun bucketId => ?_
    by_cases visible : RoomState.visible allowedBuckets bucketId = true
    · simp only [visible, if_true]
      rw [bind_newerFragments, bind_newerFragments,
        same.lookup_getD (visible_iff.mp visible)]
    · simp [visible]
  unfold RoomState.delta
  rw [same.roomCounter]
  split
  · rfl
  · exact congrArg (RoomView.mk _) buckets

variable [SerdeJson Value]

/-- A snapshot depends on the granted buckets alone. -/
theorem snapshot_congr (same : SameGranted allowedBuckets room other) :
    room.snapshot allowedBuckets = other.snapshot allowedBuckets := by
  have buckets : room.viewBuckets (fun bucketId fragments =>
        if RoomState.visible allowedBuckets bucketId then
          some (RoomState.liveValues fragments)
        else none) =
      other.viewBuckets fun bucketId fragments =>
        if RoomState.visible allowedBuckets bucketId then
          some (RoomState.liveValues fragments)
        else none := by
    refine viewBuckets_congr fun bucketId => ?_
    by_cases visible : RoomState.visible allowedBuckets bucketId = true
    · rw [same.lookup (visible_iff.mp visible)]
    · simp [visible]
  unfold RoomState.snapshot
  rw [same.roomCounter]
  exact congrArg (RoomView.mk _) buckets

/--
States that hold a room with the same counter and the same granted buckets
show the same snapshot and the same deltas of it, whatever else they hold.
-/
theorem views_reveal_granted {app otherApp : AppState Value}
    {roomId : RoomId} (present : app.rooms[roomId]? = some room)
    (presentOther : otherApp.rooms[roomId]? = some other)
    (same : SameGranted allowedBuckets room other) :
    app.roomSnapshot roomId allowedBuckets =
        otherApp.roomSnapshot roomId allowedBuckets ∧
      ∀ since, app.roomDelta roomId since allowedBuckets =
        otherApp.roomDelta roomId since allowedBuckets := by
  constructor
  · simp only [AppState.roomSnapshot, present, presentOther, Option.map_some]
    exact congrArg some (snapshot_congr same)
  · intro since
    simp only [AppState.roomDelta, present, presentOther, Option.map_some]
    exact congrArg some (delta_congr same.toSameFragments since)

/-! ## A hidden difference -/

/-- A room that was written some fragments. -/
def written (fragments : List (BucketId × String × Json)) : RoomState Json :=
  fragments.foldl
    (fun room (bucketId, key, value) => room.store bucketId key value)
    (.fresh true)

/-- A state with one room. -/
def oneRoom (room : RoomState Json) : AppState Json :=
  { (.new : AppState Json) with
    rooms := (∅ : Map RoomId (RoomState Json)).insert 1 room }

/-- An allowed bucket, another one, and the reserved one. -/
def threeBuckets : List (BucketId × String × Json) :=
  [(7, "shown", .number 1), (8, "hidden", .number 2),
    (serverOnlyBucketId, "reserved", .number 3)]

/-- The allowed bucket is the same, and nothing else is. -/
def hiddenChange : List (BucketId × String × Json) :=
  [(7, "shown", .number 1), (serverOnlyBucketId, "reserved", .null),
    (9, "elsewhere", .number 4)]

/-- The allowed set contains the reserved bucket, which stays hidden. -/
def allowedReserved : FinSet BucketId :=
  Std.ExtTreeSet.ofList [7, serverOnlyBucketId] compare

theorem sameGranted_hiddenChange :
    SameGranted allowedReserved (written threeBuckets)
      (written hiddenChange) := by
  have lookup : ∀ bucketId, Granted allowedReserved bucketId →
      (written threeBuckets).buckets[bucketId]? =
        (written hiddenChange).buckets[bucketId]? := by
    rintro bucketId ⟨notReserved, rfl | allowed⟩
    · simp [written, threeBuckets, hiddenChange, RoomState.store,
        RoomState.fresh, lookup_insertNested, serverOnlyBucketId]
    · have isSeven : bucketId = 7 := by
        have listed : bucketId ∈ [7, serverOnlyBucketId] := by
          simpa [allowedReserved] using allowed
        simpa [notReserved] using listed
      subst isSeven
      simp [written, threeBuckets, hiddenChange, RoomState.store,
        RoomState.fresh, lookup_insertNested, serverOnlyBucketId]
  exact {
    roomCounter := rfl
    fragments := fun bucketId granted key => by
      rw [getNested, lookup bucketId granted, getNested]
    present := fun bucketId granted => by
      rw [Std.ExtTreeMap.mem_iff_isSome_getElem?, lookup bucketId granted,
        Std.ExtTreeMap.mem_iff_isSome_getElem?] }

theorem views_reveal_granted_hiddenChange :
    (oneRoom (written threeBuckets)).roomSnapshot 1 allowedReserved =
        (oneRoom (written hiddenChange)).roomSnapshot 1 allowedReserved ∧
      (oneRoom (written threeBuckets)).roomDelta 1 0 allowedReserved =
        (oneRoom (written hiddenChange)).roomDelta 1 0 allowedReserved := by
  have present (room : RoomState Json) :
      (oneRoom room).rooms[(1 : RoomId)]? = some room := by
    simp [oneRoom]
  obtain ⟨snapshot, delta⟩ := views_reveal_granted
    (present (written threeBuckets)) (present (written hiddenChange))
    sameGranted_hiddenChange
  exact ⟨snapshot, delta 0⟩

end Syncpond.GrantedViews
