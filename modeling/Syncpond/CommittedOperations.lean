import Syncpond.StateRuns

/-!
# What a transaction commits

A transaction buffers its operations and applies them in order at its end.
What it commits has a closed form: each key has the value of the last operation
on it, under the version at which this operation comes in the order.  The reads
in between see the room as it was, and an abort gives it back.

A delete differs from the one outside a transaction in a single point: it
creates a bucket that does not exist.
-/

namespace Syncpond.CommittedOperations

open Syncpond.Protocol
open Syncpond.Serde
open Syncpond.State
open Syncpond.StateRuns
open Syncpond.Library.Maps
open Syncpond.Library.Runs

variable {Value : Type}

/-! ## Operations -/

/-- The fragment that an operation is about. -/
def target : RoomCommand Value → BucketId × String
  | .set bucketId key _ => (bucketId, key)
  | .del bucketId key => (bucketId, key)

variable [SerdeJson Value]

/-- What an operation stores: a delete leaves a tombstone. -/
def stored : RoomCommand Value → Value
  | .set _ _ value => value
  | .del _ _ => SerdeJson.null

theorem applyCommand_eq (room : RoomState Value)
    (operation : RoomCommand Value) :
    room.applyCommand operation =
      room.store (target operation).1 (target operation).2
        (stored operation) := by
  cases operation <;> rfl

/-- The call of an operation. -/
def call (roomId : RoomId) (app : AppState Value) :
    RoomCommand Value → Except StateError (AppState Value)
  | .set bucketId key value => app.setFragment roomId bucketId key value
  | .del bucketId key => app.delFragment roomId bucketId key

/-- All reads of a room answer the same in two states. -/
structure SameReads (one other : AppState Value) (roomId : RoomId) :
    Prop where
  getFragment : ∀ bucketId key,
    one.getFragment roomId bucketId key = other.getFragment roomId bucketId key
  roomVersion : one.roomVersion roomId = other.roomVersion roomId
  roomSnapshot : ∀ allowedBuckets,
    one.roomSnapshot roomId allowedBuckets =
      other.roomSnapshot roomId allowedBuckets
  roomDelta : ∀ since allowedBuckets,
    one.roomDelta roomId since allowedBuckets =
      other.roomDelta roomId since allowedBuckets

/--
The room after some operations in order: the last operation on a key decides,
with the version at which it comes, and all other keys are as before.
-/
structure Updated (before : RoomState Value)
    (operations : List (RoomCommand Value)) (after : RoomState Value) :
    Prop where
  written : ∀ index operation, operations[index]? = some operation →
    (∀ later other, index < later → operations[later]? = some other →
      target other ≠ target operation) →
    getNested after.buckets (target operation).1 (target operation).2 =
      some ⟨stored operation,
        before.roomCounter + UInt64.ofNat (index + 1)⟩
  untouched : ∀ bucketId key,
    (∀ operation ∈ operations, target operation ≠ (bucketId, key)) →
    getNested after.buckets bucketId key =
      getNested before.buckets bucketId key
  buckets : ∀ bucketId, bucketId ∈ after.buckets ↔
    bucketId ∈ before.buckets ∨
      ∃ operation ∈ operations, (target operation).1 = bucketId
  roomCounter : after.roomCounter =
    before.roomCounter + UInt64.ofNat operations.length
  others : after = { before with
    buckets := after.buckets
    roomCounter := after.roomCounter }

/-- Each delete finds its bucket when it is reached. -/
def DeletesFind (roomId : RoomId) (app : AppState Value) :
    RoomCommand Value → Prop
  | .set _ _ _ => True
  | .del bucketId _ => ∃ room, app.rooms[roomId]? = some room ∧
      bucketId ∈ room.buckets

/-- The state after an operation outside a transaction. -/
def callStep (roomId : RoomId) (app : AppState Value)
    (operation : RoomCommand Value) : AppState Value :=
  orUnchanged app (call roomId app operation)

/-! ## The closed form -/

section Updated

variable {before after : RoomState Value}
variable {operations : List (RoomCommand Value)}

theorem Updated.nil (before : RoomState Value) : Updated before [] before where
  written index operation found := by cases found
  untouched _ _ _ := rfl
  buckets bucketId := by simp
  roomCounter := by simp
  others := rfl

omit [SerdeJson Value] in
theorem mem_buckets_store {room : RoomState Value} {bucketId other : BucketId}
    {key : String} {value : Value} :
    other ∈ (room.store bucketId key value).buckets ↔
      bucketId = other ∨ other ∈ room.buckets := by
  rw [RoomState.store, insertNested, mem_map_insert]

/-- One more operation in order. -/
theorem Updated.snoc (updated : Updated before operations after)
    (operation : RoomCommand Value) :
    Updated before (operations ++ [operation])
      (after.applyCommand operation) := by
  have version : after.roomCounter + 1 =
      before.roomCounter + UInt64.ofNat (operations.length + 1) := by
    rw [updated.roomCounter, UInt64.ofNat_add, ← UInt64.add_assoc]
    rfl
  have found (bucketId : BucketId) (key : String) :
      getNested (after.applyCommand operation).buckets bucketId key =
        if target operation = (bucketId, key) then
          some ⟨stored operation,
            before.roomCounter + UInt64.ofNat (operations.length + 1)⟩
        else getNested after.buckets bucketId key := by
    rw [applyCommand_eq, RoomState.store, getNested_insertNested, version]
    simp only [Prod.ext_iff]
  constructor
  · intro index other isOther isLast
    rw [found]
    rcases Nat.lt_or_ge index operations.length with earlier | reached
    · rw [List.getElem?_append_left earlier] at isOther
      -- the operation is not the last one, so the new one is elsewhere
      have elsewhere : target operation ≠ target other :=
        isLast operations.length operation earlier (by simp)
      rw [if_neg elsewhere]
      refine updated.written index other isOther fun later next past isNext => ?_
      refine isLast later next past ?_
      rw [List.getElem?_append_left (List.getElem?_eq_some_iff.mp isNext).1,
        isNext]
    · have bound : index < (operations ++ [operation]).length :=
        (List.getElem?_eq_some_iff.mp isOther).1
      have isLength : index = operations.length := by
        simp only [List.length_append, List.length_singleton] at bound
        omega
      subst isLength
      rw [List.getElem?_concat_length] at isOther
      cases isOther
      rw [if_pos rfl]
  · intro bucketId key others
    rw [found, if_neg (others operation (by simp))]
    refine updated.untouched bucketId key fun other member => ?_
    exact others other (List.mem_append_left _ member)
  · intro bucketId
    rw [applyCommand_eq, mem_buckets_store, updated.buckets]
    simp only [List.mem_append, List.mem_singleton, or_and_right, exists_or,
      exists_eq_left]
    rw [or_comm, or_assoc]
  · rw [applyCommand_eq, List.length_append]
    exact version
  · rw [applyCommand_eq]
    conv_lhs => rw [updated.others]
    rfl

/-- Operations in order have the closed form. -/
theorem updated_foldl (before : RoomState Value)
    (operations : List (RoomCommand Value)) :
    Updated before operations
      (operations.foldl RoomState.applyCommand before) := by
  induction operations using List.reverseRecOn with
  | nil => exact .nil before
  | append_singleton operations operation ih =>
      rw [List.foldl_append]
      exact ih.snoc operation

end Updated

/-! ## Buffered and direct operations -/

section Calls

variable {app : AppState Value} {roomId : RoomId} {room : RoomState Value}

/-- The state with another version of a room. -/
def withRoomState (app : AppState Value) (roomId : RoomId)
    (room : RoomState Value) : AppState Value :=
  { app with rooms := app.rooms.insert roomId room }

omit [SerdeJson Value] in
@[simp]
theorem rooms_withRoomState :
    (withRoomState app roomId room).rooms[roomId]? = some room :=
  (lookup_insert _ _ _ _).trans (if_pos rfl)

omit [SerdeJson Value] in
theorem withRoomState_withRoomState (later : RoomState Value) :
    withRoomState (withRoomState app roomId room) roomId later =
      withRoomState app roomId later := by
  simp only [withRoomState, insert_insert_same]

omit [SerdeJson Value] in
theorem withRoomState_self (present : app.rooms[roomId]? = some room) :
    withRoomState app roomId room = app := by
  have member : roomId ∈ app.rooms :=
    Std.ExtTreeMap.mem_iff_isSome_getElem?.mpr (by simp [present])
  have same := insert_getD_self member room
  rw [present, Option.getD_some] at same
  simp only [withRoomState, same]

omit [SerdeJson Value] in
/-- What a mutation of a room makes of a state with this room. -/
theorem withRoom_withRoomState {later : RoomState Value}
    {mutate : RoomState Value → Except StateError (RoomState Value)}
    (mutated : mutate room = .ok later) :
    (withRoomState app roomId room).withRoom roomId mutate =
      .ok (withRoomState app roomId later) := by
  simp only [AppState.withRoom, rooms_withRoomState, mutated, Except.map]
  exact congrArg Except.ok (withRoomState_withRoomState later)

variable (unlocked : room.ioLocked = false) (loaded : room.loaded = true)

include unlocked loaded

/-- An open transaction buffers an operation, and changes nothing else. -/
theorem call_buffered (buffer : List (RoomCommand Value))
    (operation : RoomCommand Value) :
    call roomId
        (withRoomState app roomId { room with txBuffer := some buffer })
        operation =
      .ok (withRoomState app roomId
        { room with txBuffer := some (buffer ++ [operation]) }) := by
  cases operation with
  | set bucketId key value =>
      refine withRoom_withRoomState ?_
      simp [RoomState.setFragment, unlocked, loaded]
  | del bucketId key =>
      refine withRoom_withRoomState ?_
      simp [RoomState.delFragment, unlocked, loaded]

theorem foldlM_buffered (buffer operations : List (RoomCommand Value)) :
    operations.foldlM (call roomId)
        (withRoomState app roomId { room with txBuffer := some buffer }) =
      .ok (withRoomState app roomId
        { room with txBuffer := some (buffer ++ operations) }) := by
  induction operations generalizing buffer with
  | nil => rw [List.append_nil]; rfl
  | cons operation rest ih =>
      rw [List.foldlM_cons, call_buffered unlocked loaded]
      refine (ih (buffer ++ [operation])).trans ?_
      rw [List.append_assoc]
      rfl

/-- Outside a transaction, an operation is applied at once. -/
theorem call_direct (noTransaction : room.txBuffer = none)
    {operation : RoomCommand Value}
    (finds : DeletesFind roomId (withRoomState app roomId room) operation) :
    call roomId (withRoomState app roomId room) operation =
      .ok (withRoomState app roomId (room.applyCommand operation)) := by
  cases operation with
  | set bucketId key value =>
      refine withRoom_withRoomState ?_
      simp [RoomState.setFragment, RoomState.applyCommand, unlocked, loaded,
        noTransaction]
  | del bucketId key =>
      obtain ⟨found, present, member⟩ := finds
      rw [rooms_withRoomState] at present
      cases present
      refine withRoom_withRoomState ?_
      simp [RoomState.delFragment, RoomState.applyCommand, unlocked, loaded,
        noTransaction, member]

theorem foldlM_direct (noTransaction : room.txBuffer = none)
    {operations : List (RoomCommand Value)}
    (finds : Along (callStep roomId) (DeletesFind roomId)
      (withRoomState app roomId room) operations) :
    operations.foldlM (call roomId) (withRoomState app roomId room) =
      .ok (withRoomState app roomId
        (operations.foldl RoomState.applyCommand room)) := by
  induction operations generalizing room with
  | nil => rfl
  | cons operation rest ih =>
      have applied := call_direct unlocked loaded noTransaction finds.1
      have findsRest := finds.2
      rw [callStep, applied, applyCommand_eq] at findsRest
      rw [List.foldlM_cons, applied, List.foldl_cons, applyCommand_eq]
      exact @ih (room.store _ _ _) unlocked loaded noTransaction findsRest

end Calls

/-! ## Transactions -/

/-- The reads of a room do not look at the buffer. -/
theorem sameReads_buffered {app : AppState Value} {roomId : RoomId}
    {room : RoomState Value} (present : app.rooms[roomId]? = some room)
    (buffer : List (RoomCommand Value)) :
    SameReads
      (withRoomState app roomId { room with txBuffer := some buffer })
      app roomId where
  getFragment bucketId key := by
    simp [AppState.getFragment, AppState.readRoom, present,
      RoomState.getFragment]
  roomVersion := by
    simp [AppState.roomVersion, AppState.readRoom, present, RoomState.version]
  roomSnapshot allowedBuckets := by
    simp [AppState.roomSnapshot, present, RoomState.snapshot,
      RoomState.viewBuckets]
  roomDelta since allowedBuckets := by
    simp [AppState.roomDelta, present, RoomState.delta, RoomState.viewBuckets]

/--
The calls between `tx_begin` and `tx_end` all succeed, and reads in between
answer as before.  The end leaves the room updated by the operations in order,
an abort leaves the state of the beginning, and if each delete finds its bucket
then the same calls without a transaction lead to the same state.
-/
theorem transaction_commits_in_order {app begun : AppState Value}
    {roomId : RoomId} {room : RoomState Value}
    (present : app.rooms[roomId]? = some room) (loaded : room.loaded = true)
    (opened : app.txBegin roomId = .ok begun)
    (operations : List (RoomCommand Value)) :
    ∃ ended after,
      operations.foldlM (call roomId) begun = .ok ended ∧
      (∀ front, front <+: operations → ∃ during,
        front.foldlM (call roomId) begun = .ok during ∧
        SameReads during app roomId) ∧
      ended.txEnd roomId =
        .ok { app with rooms := app.rooms.insert roomId after } ∧
      Updated room operations after ∧
      ended.txAbort roomId = .ok app ∧
      (Along (callStep roomId) (DeletesFind roomId) app operations →
        operations.foldlM (call roomId) app =
          .ok { app with rooms := app.rooms.insert roomId after }) := by
  obtain ⟨unlocked, noTransaction, isBegun⟩ :
      room.ioLocked = false ∧ room.txBuffer = none ∧
        begun = withRoomState app roomId { room with txBuffer := some [] } := by
    simp only [AppState.txBegin, AppState.withRoom, present,
      RoomState.txBegin] at opened
    split at opened
    · cases opened
    split at opened
    · cases opened
    next unlocked closed =>
    cases opened
    exact ⟨by simpa using unlocked, by simpa using closed, rfl⟩
  subst isBegun
  have closed : { room with txBuffer := none } = room := by
    rw [← noTransaction]
  have buffered (front : List (RoomCommand Value)) :
      front.foldlM (call roomId)
          (withRoomState app roomId { room with txBuffer := some [] }) =
        .ok (withRoomState app roomId { room with txBuffer := some front }) :=
    foldlM_buffered unlocked loaded [] front
  refine ⟨_, operations.foldl RoomState.applyCommand room,
    buffered operations, fun front _ => ⟨_, buffered front,
      sameReads_buffered present _⟩, ?_, updated_foldl room operations, ?_, ?_⟩
  · refine withRoom_withRoomState ?_
    rw [RoomState.txEnd, if_neg (by simp [unlocked])]
    exact congrArg
      (fun start => Except.ok (operations.foldl RoomState.applyCommand start))
      closed
  · refine (withRoom_withRoomState ?_).trans
      (congrArg Except.ok (withRoomState_self present))
    rw [RoomState.txAbort, if_neg (by simp [unlocked])]
    exact congrArg Except.ok closed
  · intro finds
    have direct := foldlM_direct unlocked loaded noTransaction
      ((withRoomState_self present).symm ▸ finds)
    rwa [withRoomState_self present] at direct

/-! ## A transaction with repeated keys -/

/-- Room 1 with a fragment in bucket 7. -/
def oneFragment : AppState Json :=
  ([.createRoom, .onRoom 1 (.setFragment 7 "a" (.number 1))] :
    List (AppCall Json)).foldl AppCall.run .new

/-- A key is set twice and deleted, another one is set. -/
def operations : List (RoomCommand Json) :=
  [.set 7 "a" (.number 2), .set 8 "b" (.bool true), .set 7 "a" (.number 3),
    .del 7 "a"]

/-- Some room with the bucket is there. -/
def checkDelete (app : AppState Json) : RoomCommand Json → Bool
  | .set _ _ _ => true
  | .del bucketId _ => app.rooms[(1 : RoomId)]?.any fun room =>
      room.buckets.contains bucketId

theorem deletesFind_of_check {app : AppState Json}
    {operation : RoomCommand Json}
    (checked : checkDelete app operation = true) :
    DeletesFind 1 app operation := by
  cases operation with
  | set => trivial
  | del bucketId key =>
      obtain ⟨room, present, member⟩ := Option.any_eq_true _ _ |>.mp checked
      exact ⟨room, present, Std.ExtTreeMap.contains_iff_mem.mp member⟩

theorem transaction_commits_in_order_operations :
    ∃ begun ended after,
      oneFragment.txBegin 1 = .ok begun ∧
      operations.foldlM (call 1) begun = .ok ended ∧
      ended.txEnd 1 = .ok { oneFragment with
        rooms := oneFragment.rooms.insert 1 after } ∧
      operations.foldlM (call 1) oneFragment = .ok { oneFragment with
        rooms := oneFragment.rooms.insert 1 after } := by
  have isRoom : (oneFragment.rooms[(1 : RoomId)]?.any fun room =>
      room.loaded) = true := by
    decide +kernel
  have isOpened : (oneFragment.txBegin 1).toOption.isSome = true := by
    decide +kernel
  have finds : Along (callStep 1) (fun app operation =>
      checkDelete app operation = true) oneFragment operations := by
    decide +kernel
  obtain ⟨room, present, loaded⟩ := Option.any_eq_true _ _ |>.mp isRoom
  cases opened : oneFragment.txBegin 1 with
  | error error => rw [opened] at isOpened; cases isOpened
  | ok begun =>
      obtain ⟨ended, after, calls, _, ends, _, _, direct⟩ :=
        transaction_commits_in_order present loaded opened operations
      refine ⟨begun, ended, after, rfl, calls, ends, direct ?_⟩
      exact ⟨deletesFind_of_check finds.1, deletesFind_of_check finds.2.1,
        deletesFind_of_check finds.2.2.1, deletesFind_of_check finds.2.2.2.1,
        trivial⟩

end Syncpond.CommittedOperations
