import Mathlib.Data.List.Nodup
import Syncpond.StateRuns

/-!
# Deltas compose with snapshots

A client that holds a snapshot of a room, and later asks for the delta since
the counter of that snapshot, ends up with the content of a later snapshot.
The content of a view is its lookup function by bucket name and key, so that
a bucket without live keys counts as absent.

The proof rests on the version invariant of `StateRuns`: what changed since a
snapshot has a version above its counter, and what did not has one at most
the counter.
-/

namespace Syncpond.DeltaSnapshot

open Syncpond.Protocol
open Syncpond.Serde
open Syncpond.State
open Syncpond.Library.Maps
open Syncpond.Library.Runs
open Syncpond.Library.Text
open Syncpond.StateRuns

variable {Value : Type} [SerdeJson Value]

/-! ## The content of views -/

/-- The value of a key in a view. -/
def content (view : RoomView Value) (name key : String) : Option Value :=
  getNested view.buckets name key

/-- The entries of a view, each under its bucket name and key. -/
def entries (view : RoomView Value) : List ((String × String) × Value) :=
  view.buckets.toList.flatMap fun bucket =>
    bucket.2.toList.map fun entry => ((bucket.1, entry.1), entry.2)

/-- What a delta entry leaves under its key: a null removes it. -/
def outcome (value : Value) : Option Value :=
  if SerdeJson.isNull value then none else some value

/-- Apply one delta entry: a null removes the key, another value sets it. -/
def applyEntry (buckets : Map String (Map String Value))
    (target : String × String) (value : Value) :
    Map String (Map String Value) :=
  if SerdeJson.isNull value then
    buckets.modify target.1 fun entries => entries.erase target.2
  else insertNested buckets target.1 target.2 value

/-- Apply the entries of a delta to a view. -/
def applyDelta (view delta : RoomView Value) : RoomView Value where
  roomCounter := delta.roomCounter
  buckets :=
    (entries delta).foldl (gatherStep applyEntry some) view.buckets

omit [SerdeJson Value] in
theorem mem_entries {view : RoomView Value} {name key : String}
    {value : Value} :
    ((name, key), value) ∈ entries view ↔
      content view name key = some value := by
  simp [entries, content, getNested, Option.bind_eq_some_iff]

theorem getNested_applyEntry (buckets : Map String (Map String Value))
    (target : String × String) (value : Value) (other : String × String) :
    getNested (applyEntry buckets target value) other.1 other.2 =
      if target = other then outcome value
      else getNested buckets other.1 other.2 := by
  obtain ⟨name, key⟩ := target
  obtain ⟨otherName, otherKey⟩ := other
  by_cases null : SerdeJson.isNull value
  · simp only [applyEntry, outcome, null, if_true, getNested,
      Std.ExtTreeMap.getElem?_modify, Prod.mk.injEq]
    by_cases sameName : name = otherName
    · subst sameName
      cases present : buckets[name]? with
      | none => simp
      | some bucket => simp [lookup_erase]
    · simp [sameName]
  · simp [applyEntry, outcome, null, getNested_insertNested]

/-- Applying a delta replaces exactly the keys that it mentions. -/
theorem content_applyDelta (view delta : RoomView Value)
    (name key : String) :
    content (applyDelta view delta) name key =
      match content delta name key with
      | some value => outcome value
      | none => content view name key := by
  cases mentioned : content delta name key with
  | some value =>
      exact get_foldl_of_exists
        (fun buckets target => getNested buckets target.1 target.2)
        getNested_applyEntry some (entries delta) view.buckets (name, key)
        ⟨_, mem_entries.mpr mentioned, rfl⟩
        (by
          intro entry member other selected
          cases selected
          have present := mem_entries.mp member
          rw [mentioned] at present
          exact (Option.some.inj present).symm)
  | none =>
      exact get_foldl_of_absent
        (fun buckets target => getNested buckets target.1 target.2)
        getNested_applyEntry some (entries delta) view.buckets (name, key)
        (by
          intro entry member value selected
          cases selected
          have present := mem_entries.mp member
          rw [mentioned] at present
          cases present)

/-! ## Bucket names -/

theorem bucketName_inj {bucketId other : BucketId} :
    RoomState.bucketName bucketId = RoomState.bucketName other ↔
      bucketId = other := by
  constructor
  · intro equal
    have chars := congrArg String.toList equal
    simp only [RoomState.bucketName, String.toList_append,
      List.append_cancel_left_eq, decimal, String.toList_ofList] at chars
    exact decimalChars_injective chars
  · rintro rfl
    rfl

variable (room : RoomState Value)
  (select : BucketId → Map String (FragmentEntry Value) →
    Option (Map String Value))

omit [SerdeJson Value] in
/-- A view holds, under the name of a bucket, what is selected from it. -/
theorem lookup_viewBuckets (bucketId : BucketId) :
    (room.viewBuckets select)[RoomState.bucketName bucketId]? =
      room.buckets[bucketId]?.bind (select bucketId) := by
  have get_put (store : Map String (Map String Value)) (target : String)
      (values : Map String Value) (other : String) :
      (store.insert target values)[other]? =
        if target = other then some values else store[other]? :=
    lookup_insert store target other values
  cases selected : room.buckets[bucketId]?.bind (select bucketId) with
  | some values =>
      obtain ⟨fragments, present, chosen⟩ := Option.bind_eq_some_iff.mp selected
      refine get_foldl_of_exists (fun store target => store[target]?)
        get_put _ _ _ (RoomState.bucketName bucketId)
        ⟨(bucketId, fragments), ?_, ?_⟩ ?_
      · simpa using present
      · simp [chosen]
      · rintro ⟨otherId, otherFragments⟩ member other extracted
        obtain ⟨otherValues, chosenOther, pair⟩ :=
          Option.map_eq_some_iff.mp extracted
        have names := bucketName_inj.mp (Prod.mk.inj pair).1
        subst names
        have same : room.buckets[otherId]? = some otherFragments := by
          simpa using member
        rw [present] at same
        cases same
        rw [chosen] at chosenOther
        cases chosenOther
        exact (Prod.mk.inj pair).2.symm
  | none =>
      rw [RoomState.viewBuckets, get_foldl_of_absent
        (fun store target => store[target]?) get_put]
      · simp
      · rintro ⟨otherId, otherFragments⟩ member value extracted
        obtain ⟨otherValues, chosenOther, pair⟩ :=
          Option.map_eq_some_iff.mp extracted
        have names := bucketName_inj.mp (Prod.mk.inj pair).1
        subst names
        have present : room.buckets[otherId]? = some otherFragments := by
          simpa using member
        simp [present, chosenOther] at selected

omit [SerdeJson Value] in
/-- A view holds nothing under other names. -/
theorem lookup_viewBuckets_of_forall_ne {name : String}
    (noBucket : ∀ bucketId, RoomState.bucketName bucketId ≠ name) :
    (room.viewBuckets select)[name]? = none := by
  rw [RoomState.viewBuckets, get_foldl_of_absent
    (fun store target => store[target]?)
    fun store target values other => lookup_insert store target other values]
  · simp
  · rintro ⟨bucketId, fragments⟩ _ value extracted
    obtain ⟨_, _, pair⟩ := Option.map_eq_some_iff.mp extracted
    exact noBucket bucketId (Prod.mk.inj pair).1

/-! ## The content of snapshots and deltas -/

variable (allowed : FinSet BucketId) (bucketId : BucketId) (key : String)

theorem content_snapshot :
    content (room.snapshot allowed) (RoomState.bucketName bucketId) key =
      if RoomState.visible allowed bucketId then
        (getNested room.buckets bucketId key).bind
          fun entry => outcome entry.value
      else none := by
  simp only [content, getNested, RoomState.snapshot, lookup_viewBuckets]
  cases present : room.buckets[bucketId]? with
  | none => simp
  | some fragments =>
      by_cases shown : RoomState.visible allowed bucketId
      · simp only [shown, if_true, Option.bind_some,
          RoomState.liveValues,
          Std.ExtTreeMap.getElem?_filterMap']
        rfl
      · simp [shown]

omit [SerdeJson Value] in
theorem content_delta {since : UInt64} (older : since < room.roomCounter) :
    content (room.delta since allowed) (RoomState.bucketName bucketId) key =
      if RoomState.visible allowed bucketId then
        (getNested room.buckets bucketId key).bind fun entry =>
          if entry.keyVersion > since then some entry.value else none
      else none := by
  have notPast : ¬ since ≥ room.roomCounter := UInt64.not_le.mpr older
  simp only [content, getNested, RoomState.delta, notPast, if_false,
    lookup_viewBuckets]
  cases present : room.buckets[bucketId]? with
  | none => simp
  | some fragments =>
      by_cases shown : RoomState.visible allowed bucketId
      · simp only [shown, if_true, Option.bind_some]
        have newer : (fragments.filterMap
            fun _ (entry : FragmentEntry Value) =>
              if entry.keyVersion > since then some entry.value
              else none)[key]? = _ :=
          Std.ExtTreeMap.getElem?_filterMap'
        split
        · next unchanged =>
          have empty := Std.ExtTreeMap.isEmpty_iff.mp unchanged
          rw [RoomState.newerValues] at empty
          rw [empty] at newer
          simpa using newer
        · exact newer
      · simp [shown]

omit [SerdeJson Value] in
theorem content_delta_of_le {since : UInt64}
    (past : room.roomCounter ≤ since) (name : String) :
    content (room.delta since allowed) name key = none := by
  simp [content, RoomState.delta, past]

theorem content_snapshot_of_forall_ne {name : String}
    (noBucket : ∀ bucketId, RoomState.bucketName bucketId ≠ name) :
    content (room.snapshot allowed) name key = none := by
  simp [content, getNested, RoomState.snapshot,
    lookup_viewBuckets_of_forall_ne room _ noBucket]

omit [SerdeJson Value] in
theorem content_delta_of_forall_ne (since : UInt64) {name : String}
    (noBucket : ∀ bucketId, RoomState.bucketName bucketId ≠ name) :
    content (room.delta since allowed) name key = none := by
  unfold RoomState.delta
  split
  · simp [content]
  · simp [content, getNested,
      lookup_viewBuckets_of_forall_ne room _ noBucket]

omit [SerdeJson Value] in
@[simp]
theorem roomCounter_delta (since : UInt64) :
    (room.delta since allowed).roomCounter = room.roomCounter := by
  unfold RoomState.delta
  split <;> rfl

variable {room} {older : RoomState Value}

/-- A room that advanced from an older one: the delta catches up. -/
theorem content_applyDelta_delta (bounded : VersionsBounded older)
    (advances : Advances older.roomCounter older.buckets room)
    (name : String) :
    content
        (applyDelta (older.snapshot allowed)
          (room.delta older.roomCounter allowed)) name key =
      content (room.snapshot allowed) name key := by
  rw [content_applyDelta]
  by_cases named : ∃ bucketId, RoomState.bucketName bucketId = name
  · obtain ⟨bucketId, rfl⟩ := named
    rcases advances.changed bucketId key with same | ⟨entry, found, newer⟩
    · -- an unchanged fragment is not in the delta
      have skipped :
          content (room.delta older.roomCounter allowed)
            (RoomState.bucketName bucketId) key = none := by
        rcases UInt64.le_iff_lt_or_eq.mp advances.counter with moved | equal
        · rw [content_delta room allowed bucketId key moved, same]
          cases present : getNested older.buckets bucketId key with
          | none => simp
          | some entry =>
              have within := bounded bucketId key entry present
              simp [UInt64.not_lt.mpr within]
        · exact content_delta_of_le room allowed key
            (equal ▸ UInt64.le_refl _) _
      rw [skipped, content_snapshot, content_snapshot, same]
    · -- a newer fragment is in the delta, with its current value
      have moved : older.roomCounter < room.roomCounter :=
        UInt64.lt_of_lt_of_le newer (advances.bounded bucketId key entry found)
      rw [content_delta room allowed bucketId key moved, content_snapshot,
        content_snapshot, found]
      by_cases shown : RoomState.visible allowed bucketId
      · simp [shown, newer]
      · simp [shown]
  · have noBucket : ∀ bucketId, RoomState.bucketName bucketId ≠ name :=
      fun bucketId equal => named ⟨bucketId, equal⟩
    rw [content_delta_of_forall_ne room allowed key _ noBucket,
      content_snapshot_of_forall_ne older allowed key noBucket,
      content_snapshot_of_forall_ne room allowed key noBucket]

/-! ## Runs of fragment and transaction calls -/

/-- The state after a call on some room, which may fail. -/
def callStep (app : AppState Value) (call : RoomId × RoomCall Value) :
    AppState Value :=
  (AppCall.onRoom call.1 call.2).run app

/-- The call does not make the counter of its room wrap. -/
def CallFits (app : AppState Value) (call : RoomId × RoomCall Value) : Prop :=
  (AppCall.onRoom call.1 call.2).Fits app

/-- One call, on this room or another, advances the room. -/
theorem advances_callStep {base : UInt64} {old : Buckets Value}
    {app : AppState Value} {roomId : RoomId}
    {call : RoomId × RoomCall Value} (fits : CallFits app call)
    (holds : ∃ room, app.rooms[roomId]? = some room ∧
      Advances base old room) :
    ∃ room, (callStep app call).rooms[roomId]? = some room ∧
      Advances base old room := by
  obtain ⟨room, present, advances⟩ := holds
  obtain ⟨callRoom, roomCall⟩ := call
  cases result : app.withRoom callRoom roomCall.run with
  | error error =>
      refine ⟨room, ?_, advances⟩
      simp [callStep, AppCall.run, orUnchanged, result, present]
  | ok changed =>
      obtain ⟨before, after, found, ran, rfl⟩ := withRoom_ok result
      simp only [callStep, AppCall.run, orUnchanged, result, lookup_insert]
      by_cases same : callRoom = roomId
      · subst same
        rw [found] at present
        cases present
        refine ⟨after, by simp, ?_⟩
        exact advances.call roomCall (fits _ found) ran
      · exact ⟨room, by simp [same, present], advances⟩

/-- A run of calls advances every room that it starts with. -/
theorem advances_run {app : AppState Value}
    {calls : List (RoomId × RoomCall Value)}
    (fits : Along callStep CallFits app calls)
    {roomId : RoomId} {room : RoomState Value}
    (present : app.rooms[roomId]? = some room)
    (bounded : VersionsBounded room) :
    ∃ after, (calls.foldl callStep app).rooms[roomId]? = some after ∧
      Advances room.roomCounter room.buckets after :=
  fits.invariant
    (fun app : AppState Value =>
      ∃ after, app.rooms[roomId]? = some after ∧
        Advances room.roomCounter room.buckets after)
    (fun _ _ callFits holds => advances_callStep callFits holds)
    ⟨room, present, Advances.refl bounded⟩

/--
The delta of `finish` since the counter of `start`, applied to the snapshot
of `start`, has the content of the snapshot of `finish`, and it carries the
counter of `finish`.
-/
def DeltaComposes (start finish : AppState Value) (roomId : RoomId)
    (allowedBuckets : FinSet BucketId) : Prop :=
  ∃ room after older delta newer,
    start.rooms[roomId]? = some room ∧
    finish.rooms[roomId]? = some after ∧
    start.roomSnapshot roomId allowedBuckets = some older ∧
    finish.roomDelta roomId room.roomCounter allowedBuckets = some delta ∧
    finish.roomSnapshot roomId allowedBuckets = some newer ∧
    (∀ name key,
      content (applyDelta older delta) name key = content newer name key) ∧
    delta.roomCounter = after.roomCounter

/-- Deltas compose with snapshots over every run of calls. -/
theorem roomDelta_composes_roomSnapshot {start : AppState Value}
    (reachable : Reachable start) {roomId : RoomId}
    (loaded : start.isRoomLoaded roomId = true)
    (allowedBuckets : FinSet BucketId)
    {calls : List (RoomId × RoomCall Value)}
    (fits : Along callStep CallFits start calls) :
    DeltaComposes start (calls.foldl callStep start) roomId
      allowedBuckets := by
  cases present : start.rooms[roomId]? with
  | none => simp [AppState.isRoomLoaded, present] at loaded
  | some room =>
      have bounded := versionsBounded_of_reachable reachable present
      obtain ⟨after, found, advances⟩ := advances_run fits present bounded
      refine ⟨room, after, room.snapshot allowedBuckets,
        after.delta room.roomCounter allowedBuckets,
        after.snapshot allowedBuckets, present, found, ?_, ?_, ?_, ?_, ?_⟩
      · rw [AppState.roomSnapshot, present, Option.map_some]
      · rw [AppState.roomDelta, found, Option.map_some]
      · rw [AppState.roomSnapshot, found, Option.map_some]
      · intro name key
        exact content_applyDelta_delta allowedBuckets key bounded advances name
      · exact roomCounter_delta after allowedBuckets room.roomCounter

/-- The creation of a room with one fragment in a private bucket. -/
def oneFragmentCalls : List (AppCall Json) :=
  [.createRoom, .onRoom 1 (.setFragment 7 "a" (.number 1))]

def oneFragment : AppState Json :=
  oneFragmentCalls.foldl AppCall.run .new

/-- The fragment is deleted, and another one set, in one transaction. -/
def transaction : List (RoomId × RoomCall Json) :=
  [(1, .txBegin), (1, .delFragment 7 "a"),
    (1, .setFragment 7 "b" (.bool true)), (1, .txEnd)]

theorem fits_of_all_lt {app : AppState Json} {roomId : RoomId}
    {call : RoomCall Json}
    (fits : app.rooms[roomId]?.all
      (fun room => room.roomCounter.toNat + call.writes room < UInt64.size) =
        true) :
    CallFits app (roomId, call) := by
  intro room present
  simpa [present] using fits

theorem reachable_oneFragment : Reachable oneFragment := by
  refine ⟨oneFragmentCalls, ⟨trivial, ?_, trivial⟩, rfl⟩
  exact fits_of_all_lt (by decide +kernel)

theorem fits_transaction : Along callStep CallFits oneFragment transaction := by
  refine ⟨?_, ?_, ?_, ?_, trivial⟩
  all_goals exact fits_of_all_lt (by decide +kernel)

theorem roomDelta_composes_roomSnapshot_transaction :
    DeltaComposes oneFragment (transaction.foldl callStep oneFragment) 1
      (Std.ExtTreeSet.ofList [7] compare) :=
  roomDelta_composes_roomSnapshot reachable_oneFragment (by decide +kernel) _
    fits_transaction

end Syncpond.DeltaSnapshot
