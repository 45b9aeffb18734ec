import Syncpond.StateRuns

/-!
# Unloaded rooms

Evicting a room empties it but keeps its open transaction, and `tx_end` is the
only operation on fragments that does not ask whether the room is loaded.  A
commit after an eviction therefore fills an unloaded room.  In a run without
such a commit, and in no other, every unloaded room is empty and shows nothing
to clients.
-/

namespace Syncpond.UnloadedRooms

open Syncpond.Protocol
open Syncpond.Serde
open Syncpond.State
open Syncpond.Kernel
open Syncpond.StateRuns
open Syncpond.Library.Maps
open Syncpond.Library.Runs

variable {Value : Type}

/-- The room holds no data. -/
structure Vacant (room : RoomState Value) : Prop where
  buckets : room.buckets = ∅
  bucketLabels : room.bucketLabels = ∅
  bucketFlags : room.bucketFlags = ∅
  members : room.members = ∅

/-- The room is loaded or holds no data. -/
def VacantUnlessLoaded (room : RoomState Value) : Prop :=
  room.loaded = false → Vacant room

theorem vacantUnlessLoaded_of_loaded {room : RoomState Value}
    (isLoaded : room.loaded = true) : VacantUnlessLoaded room := by
  intro unloaded
  rw [isLoaded] at unloaded
  cases unloaded

theorem vacantUnlessLoaded_fresh (loaded : Bool) :
    VacantUnlessLoaded (.fresh loaded : RoomState Value) :=
  fun _ => ⟨rfl, rfl, rfl, rfl⟩

/-- An unloaded room has no bucket to change. -/
theorem vacantUnlessLoaded_onBucket {room after : RoomState Value}
    {bucketId : BucketId} {change : RoomState Value → RoomState Value}
    (loaded : ∀ room, (change room).loaded = room.loaded)
    (holds : VacantUnlessLoaded room)
    (result : room.onBucket bucketId change = .ok after) :
    VacantUnlessLoaded after := by
  obtain ⟨present, rfl⟩ := onBucket_eq_ok result
  intro unloaded
  rw [loaded] at unloaded
  rw [(holds unloaded).buckets] at present
  exact absurd present Std.ExtTreeMap.not_mem_empty

variable [SerdeJson Value]

/-! ## What clients see -/

/-- A room shows nothing to clients, in none of its views. -/
structure Silent (app : AppState Value) (roomId : RoomId) : Prop where
  snapshot : ∀ allowedBuckets view,
    app.roomSnapshot roomId allowedBuckets = some view → view.buckets = ∅
  delta : ∀ since allowedBuckets view,
    app.roomDelta roomId since allowedBuckets = some view → view.buckets = ∅
  sync : ∀ iteration requestedBuckets,
    collectUpdates iteration app roomId requestedBuckets = []

omit [SerdeJson Value] in
theorem viewBuckets_eq_empty {room : RoomState Value} (vacant : Vacant room)
    (select : BucketId → Map String (FragmentEntry Value) →
      Option (Map String Value)) :
    room.viewBuckets select = ∅ := by
  rw [RoomState.viewBuckets, vacant.buckets,
    Std.ExtTreeMap.toList_eq_nil_iff.mpr rfl, List.foldl_nil]

theorem silent_of_vacant {app : AppState Value} {roomId : RoomId}
    {room : RoomState Value} (found : app.rooms[roomId]? = some room)
    (vacant : Vacant room) : Silent app roomId where
  snapshot := by
    intro allowedBuckets view isView
    rw [AppState.roomSnapshot, found] at isView
    cases isView
    dsimp only [RoomState.snapshot]
    exact viewBuckets_eq_empty vacant _
  delta := by
    intro since allowedBuckets view isView
    rw [AppState.roomDelta, found] at isView
    cases isView
    dsimp only [RoomState.delta]
    split
    · rfl
    · dsimp only
      exact viewBuckets_eq_empty vacant _
  sync := by
    intro iteration requestedBuckets
    simp [collectUpdates, found, vacant.buckets]

/-- Every unloaded room is empty and shows nothing. -/
def UnloadedEmpty (app : AppState Value) : Prop :=
  ∀ (roomId : RoomId) (room : RoomState Value),
    app.rooms[roomId]? = some room → room.loaded = false →
      Vacant room ∧ Silent app roomId

theorem unloadedEmpty_iff {app : AppState Value} :
    UnloadedEmpty app ↔
      ∀ (roomId : RoomId) (room : RoomState Value),
        app.rooms[roomId]? = some room → VacantUnlessLoaded room := by
  constructor
  · intro holds roomId room found unloaded
    exact (holds roomId room found unloaded).1
  · intro holds roomId room found unloaded
    have vacant := holds roomId room found unloaded
    exact ⟨vacant, silent_of_vacant found vacant⟩

/-! ## Commits -/

/-- Every buffered command stores a fragment. -/
theorem buckets_applyCommand_ne_empty (room : RoomState Value)
    (command : RoomCommand Value) :
    (room.applyCommand command).buckets ≠ ∅ := by
  have inserted (bucketId : BucketId) (key : String) (value : Value) :
      (room.store bucketId key value).buckets ≠ ∅ := by
    intro isEmpty
    have found : getNested (room.store bucketId key value).buckets bucketId
        key = some ⟨value, room.roomCounter + 1⟩ := by
      simp [RoomState.store, getNested_insertNested]
    simp [isEmpty] at found
  cases command with
  | set bucketId key value => exact inserted bucketId key value
  | del bucketId key => exact inserted bucketId key SerdeJson.null

theorem loaded_applyCommands (buffer : List (RoomCommand Value))
    (room : RoomState Value) :
    (buffer.foldl RoomState.applyCommand room).loaded = room.loaded := by
  induction buffer generalizing room with
  | nil => rfl
  | cons command rest ih =>
      rw [List.foldl_cons, ih]
      cases command <;> rfl

/-- A commit leaves buckets behind unless its buffer is empty. -/
theorem buckets_applyCommands_ne_empty {buffer : List (RoomCommand Value)}
    (nonempty : buffer ≠ []) (room : RoomState Value) :
    (buffer.foldl RoomState.applyCommand room).buckets ≠ ∅ := by
  rw [← List.dropLast_concat_getLast nonempty, List.foldl_append]
  exact buckets_applyCommand_ne_empty _ _

/-- The room has an open transaction with commands in its buffer. -/
def Buffers (room : RoomState Value) : Prop :=
  room.txBuffer.getD [] ≠ []

theorem txEnd_eq_ok {room after : RoomState Value}
    (result : room.txEnd = .ok after) :
    room.ioLocked = false ∧
      after = (room.txBuffer.getD []).foldl RoomState.applyCommand
        { room with txBuffer := none } := by
  rcases call_cases (show RoomCall.txEnd.run room = .ok after from result) with
    ⟨stores, _⟩ | ⟨stores, _⟩ | ⟨isBegin, _⟩ |
    ⟨_, unlocked, buffer, opened, rfl⟩ | ⟨isAbort, _⟩
  · cases stores
  · cases stores
  · cases isBegin
  · exact ⟨unlocked, by rw [opened, Option.getD_some]⟩
  · cases isAbort

theorem vacantUnlessLoaded_txEnd {room after : RoomState Value}
    (holds : VacantUnlessLoaded room)
    (result : room.txEnd = .ok after) :
    VacantUnlessLoaded after ↔ (room.loaded = false → ¬ Buffers room) := by
  obtain ⟨_, rfl⟩ := txEnd_eq_ok result
  constructor
  · intro vacant unloaded buffers
    have isVacant := vacant
      ((loaded_applyCommands _ _).trans unloaded)
    exact buckets_applyCommands_ne_empty buffers _ isVacant.buckets
  · intro empty unloaded
    rw [loaded_applyCommands] at unloaded
    have isEmpty : room.txBuffer.getD [] = [] := not_not.mp (empty unloaded)
    rw [isEmpty]
    have vacant := holds unloaded
    exact ⟨vacant.buckets, vacant.bucketLabels, vacant.bucketFlags,
      vacant.members⟩

/-! ## Calls -/

/-- No commit of buffered commands on an unloaded room. -/
def CommitsLoaded (app : AppState Value) : AppCall Value → Prop
  | .onRoom roomId .txEnd =>
      ∀ room : RoomState Value, app.rooms[roomId]? = some room →
        room.ioLocked = false → room.loaded = false → ¬ Buffers room
  | _ => True

/-- Other calls ask for a loaded room, or only open or drop a transaction. -/
theorem vacantUnlessLoaded_call {room after : RoomState Value}
    {call : RoomCall Value} (other : call ≠ .txEnd)
    (holds : VacantUnlessLoaded room) (result : call.run room = .ok after) :
    VacantUnlessLoaded after := by
  have buffered (buffer : Option (List (RoomCommand Value))) :
      VacantUnlessLoaded { room with txBuffer := buffer } := by
    intro unloaded
    have vacant := holds unloaded
    exact ⟨vacant.buckets, vacant.bucketLabels, vacant.bucketFlags,
      vacant.members⟩
  rcases call_cases result with ⟨_, _, _, _, _, rfl⟩ |
    ⟨_, isLoaded, _, _, _, _, rfl⟩ | ⟨_, _, rfl⟩ | ⟨isCommit, _⟩ | ⟨_, rfl⟩
  · exact buffered _
  · exact vacantUnlessLoaded_of_loaded isLoaded
  · exact buffered _
  · exact absurd isCommit other
  · exact buffered _

omit [SerdeJson Value] in
/-- A kernel effect leaves a loaded room. -/
theorem vacantUnlessLoaded_applyEffect {app : AppState Value}
    {roomId : RoomId} {effect : RoomState Value → RoomState Value}
    (loaded : ∀ room, (effect room).loaded = room.loaded)
    (rooms : ∀ (id : RoomId) (room : RoomState Value),
      app.rooms[id]? = some room → VacantUnlessLoaded room) :
    ∀ (id : RoomId) (room : RoomState Value),
      (applyEffect app roomId effect).rooms[id]? = some room →
        VacantUnlessLoaded room := by
  apply forall_rooms_withRoom roomId _ _ rooms
  intro room after _ holds result
  split at result
  · next isLoaded =>
    cases result
    exact vacantUnlessLoaded_of_loaded ((loaded room).trans isLoaded)
  · cases result

/-- Every call but a commit keeps unloaded rooms empty. -/
theorem unloadedEmpty_call {app : AppState Value} {call : AppCall Value}
    (other : ∀ roomId, call ≠ .onRoom roomId .txEnd)
    (holds : UnloadedEmpty app) : UnloadedEmpty (call.run app) := by
  rw [unloadedEmpty_iff] at holds ⊢
  cases call with
  | createRoom =>
      intro id room found
      simp only [AppCall.run, AppState.createRoom, lookup_insert] at found
      split at found
      · cases Option.some.inj found
        exact vacantUnlessLoaded_fresh true
      · exact holds id room found
  | registerExisting existing =>
      intro id room found
      rw [AppCall.run, lookup_registerExisting] at found
      split at found
      · cases found
        exact vacantUnlessLoaded_fresh false
      · exact holds id room found
  | loadRoomData roomId bucketDefs members fragments =>
      apply forall_rooms_withRoom roomId _ _ holds
      intro room after _ _ result
      cases result
      exact vacantUnlessLoaded_of_loaded rfl
  | unloadRoom roomId =>
      apply forall_rooms_withRoom roomId _ _ holds
      intro room after _ _ result
      cases result
      exact fun _ => ⟨rfl, rfl, rfl, rfl⟩
  | deleteRoom roomId =>
      intro id room found
      simp only [AppCall.run, AppState.deleteRoom] at found
      split at found
      · simp only [orUnchanged, lookup_erase] at found
        split at found
        · cases found
        · exact holds id room found
      · exact holds id room found
  | setRoomLabel roomId label =>
      intro id room found
      rw [AppCall.run, rooms_setRoomLabel] at found
      exact holds id room found
  | setBucketLabel roomId bucketId label =>
      simp only [AppCall.run, AppState.setBucketLabel]
      split
      · apply forall_rooms_withRoom roomId _ _ holds
        intro room after _ vacant result
        refine vacantUnlessLoaded_onBucket ?_ vacant result
        exact fun _ => rfl
      · exact holds
  | setBucketFlags roomId bucketId flags =>
      apply forall_rooms_withRoom roomId _ _ holds
      intro room after _ vacant result
      refine vacantUnlessLoaded_onBucket ?_ vacant result
      exact fun _ => rfl
  | setBucketFlagBit roomId bucketId flagMask enabled =>
      apply forall_rooms_withRoom roomId _ _ holds
      intro room after _ vacant result
      refine vacantUnlessLoaded_onBucket ?_ vacant result
      exact fun _ => rfl
  | addMember roomId member =>
      simp only [AppCall.run, AppState.addMember]
      split
      · apply forall_rooms_withRoom roomId _ _ holds
        intro room after _ _ result
        obtain ⟨isLoaded, rfl⟩ := addMember_eq_ok result
        exact vacantUnlessLoaded_of_loaded isLoaded
      · exact holds
  | removeMember roomId member =>
      apply forall_rooms_withRoom roomId _ _ holds
      intro room after _ _ result
      obtain ⟨isLoaded, rfl⟩ := removeMember_eq_ok result
      exact vacantUnlessLoaded_of_loaded isLoaded
  | onRoom roomId call =>
      apply forall_rooms_withRoom roomId _ _ holds
      intro room after _ vacant result
      refine vacantUnlessLoaded_call ?_ vacant result
      intro isCommit
      exact other roomId (isCommit ▸ rfl)
  | newBucket roomId bucketId label =>
      exact vacantUnlessLoaded_applyEffect (fun _ => rfl) holds
  | deleteBucket roomId bucketId =>
      exact vacantUnlessLoaded_applyEffect (fun _ => rfl) holds
  | newMember roomId member =>
      refine vacantUnlessLoaded_applyEffect ?_ holds
      intro room
      unfold RoomEffect.newMember
      split <;> rfl
  | deleteMember roomId member =>
      exact vacantUnlessLoaded_applyEffect (fun _ => rfl) holds
  | configureJwt => exact holds

/-- A commit keeps unloaded rooms empty if its room is loaded or it is empty. -/
theorem unloadedEmpty_txEnd_iff {app : AppState Value} {roomId : RoomId}
    (holds : UnloadedEmpty app) :
    UnloadedEmpty ((AppCall.onRoom roomId .txEnd).run app) ↔
      CommitsLoaded app (.onRoom roomId .txEnd) := by
  rw [unloadedEmpty_iff] at holds ⊢
  constructor
  · intro vacant room found unlocked unloaded buffers
    obtain ⟨buffer, opened⟩ : ∃ buffer, room.txBuffer = some buffer := by
      cases opened : room.txBuffer with
      | none => exact absurd (by rw [opened, Option.getD_none]) buffers
      | some buffer => exact ⟨buffer, rfl⟩
    have committed : room.txEnd = .ok (buffer.foldl RoomState.applyCommand
        { room with txBuffer := none }) := by
      simp [RoomState.txEnd, unlocked, opened]
    refine (vacantUnlessLoaded_txEnd (holds roomId room found)
      committed).mp ?_ unloaded buffers
    apply vacant roomId
    simp [AppCall.run, RoomCall.run, orUnchanged, AppState.withRoom, found,
      committed, Except.map]
  · intro condition
    apply forall_rooms_withRoom roomId _ _ holds
    intro room after found vacant result
    have unlocked := (txEnd_eq_ok result).1
    exact (vacantUnlessLoaded_txEnd vacant result).mpr
      (condition room found unlocked)

theorem unloadedEmpty_call_iff {app : AppState Value} {call : AppCall Value}
    (holds : UnloadedEmpty app) :
    UnloadedEmpty (call.run app) ↔ CommitsLoaded app call := by
  by_cases isCommit : ∃ roomId, call = .onRoom roomId .txEnd
  · obtain ⟨roomId, rfl⟩ := isCommit
    exact unloadedEmpty_txEnd_iff holds
  · have other : ∀ roomId, call ≠ .onRoom roomId .txEnd :=
      fun roomId equal => isCommit ⟨roomId, equal⟩
    refine ⟨fun _ => ?_, fun _ => unloadedEmpty_call other holds⟩
    unfold CommitsLoaded
    split
    · next roomId _ => exact absurd rfl (other roomId)
    · trivial

/--
In a run of calls every unloaded room stays empty and shows nothing if and only
if no commit of buffered commands hits an unloaded room.
-/
theorem unloaded_rooms_stay_empty_iff {calls : List (AppCall Value)} :
    Throughout AppCall.run UnloadedEmpty .new calls ↔
      Along AppCall.run CommitsLoaded .new calls := by
  refine throughout_iff_along (fun _ => True) UnloadedEmpty
    (fun _ _ _ => trivial) (fun _ _ _ holds _ => unloadedEmpty_call_iff holds)
    (along_iff_forall.mpr fun _ _ => trivial) trivial ?_
  rw [unloadedEmpty_iff]
  intro id room absent
  simp [AppState.new] at absent

/-- A room is evicted in the middle of a transaction. -/
def evictedTransaction : List (AppCall Json) :=
  [.createRoom, .onRoom 1 .txBegin,
    .onRoom 1 (.setFragment 7 "key" (.bool true)), .unloadRoom 1,
    .onRoom 1 .txEnd]

/-- Its commit fills the unloaded room. -/
theorem evictedTransaction_fills_room :
    ¬ ∀ calls : List (AppCall Json),
      Throughout AppCall.run UnloadedEmpty .new calls := by
  intro claimed
  have last := throughout_iff_prefix.mp (claimed evictedTransaction)
    evictedTransaction (List.prefix_refl _)
  have filled : ((evictedTransaction.foldl AppCall.run
      (.new : AppState Json)).rooms[(1 : RoomId)]?).any
        (fun room => !room.loaded && !room.buckets.isEmpty) = true := by
    decide +kernel
  obtain ⟨room, found, isFilled⟩ := Option.any_eq_true _ _ |>.mp filled
  simp only [Bool.and_eq_true, Bool.not_eq_true'] at isFilled
  have vacant := (last 1 room found isFilled.1).1
  rw [vacant.buckets] at isFilled
  simp at isFilled

end Syncpond.UnloadedRooms
