import Syncpond.StateRuns

/-!
# Versions as stamps

A write takes the next number of its room as version, so no two fragments of a
room share a version, in whatever buckets they are.  The exception is version
zero, which all fragments have that were loaded and not written since.

Seen from one room, every call first drops fragments or replaces them by loaded
ones, and then applies some operations: this is `Changes`, from which the
invariant `Stamped` and the growth of the counter follow.
-/

namespace Syncpond.VersionStamps

open Syncpond.Protocol
open Syncpond.Serde
open Syncpond.State
open Syncpond.Kernel
open Syncpond.StateRuns
open Syncpond.Library.Maps
open Syncpond.Library.Runs

variable {Value : Type} [SerdeJson Value]

/-! ## Applied operations -/

/-- How many operations a run applies to the fragments of a room. -/
def appliedIn (roomId : RoomId) : AppState Value → List (AppCall Value) → Nat
  | _, [] => 0
  | app, call :: rest =>
      applied roomId app call + appliedIn roomId (call.run app) rest

/-! ## The invariant -/

/-- Distinct fragments of a room with the same version have version zero. -/
def UniqueVersions (room : RoomState Value) : Prop :=
  ∀ bucketId key entry otherBucket otherKey otherEntry,
    getNested room.buckets bucketId key = some entry →
    getNested room.buckets otherBucket otherKey = some otherEntry →
    (bucketId, key) ≠ (otherBucket, otherKey) →
    entry.keyVersion = otherEntry.keyVersion →
      entry.keyVersion = 0 ∧ otherEntry.keyVersion = 0

/-- The versions of a room are stamps that its counter gave out. -/
structure Stamped (room : RoomState Value) : Prop where
  bounded : VersionsBounded room
  unique : UniqueVersions room

section Stamped

variable {room after : RoomState Value}

omit [SerdeJson Value] in
theorem stamped_fresh (loaded : Bool) :
    Stamped (.fresh loaded : RoomState Value) where
  bounded := versionsBounded_of_buckets_empty rfl
  unique := by
    intro bucketId key entry _ _ _ found
    simp [RoomState.fresh] at found

omit [SerdeJson Value] in
/-- A write has a version that no other fragment has. -/
theorem Stamped.store (stamped : Stamped room)
    (fits : room.roomCounter.toNat + 1 < UInt64.size)
    (bucketId : BucketId) (key : String) (value : Value) :
    Stamped (room.store bucketId key value) where
  bounded :=
    ((Advances.refl stamped.bounded).store fits bucketId key value).bounded
  unique := by
    have older : ∀ bucketId key entry,
        getNested room.buckets bucketId key = some entry →
          entry.keyVersion ≠ room.roomCounter + 1 := by
      intro bucketId key entry found same
      have newer := lt_succ fits
      rw [← same] at newer
      exact UInt64.not_le.mpr newer (stamped.bounded bucketId key entry found)
    intro bucketId key entry otherBucket otherKey otherEntry found otherFound
      distinct same
    simp only [RoomState.store, getNested_insertNested] at found otherFound
    split at found
    · next written =>
      split at otherFound
      · next otherWritten =>
        exact absurd (by grind) distinct
      · cases found
        exact absurd same.symm (older _ _ _ otherFound)
    · split at otherFound
      · cases otherFound
        exact absurd same (older _ _ _ found)
      · exact stamped.unique _ _ _ _ _ _ found otherFound distinct same

theorem Stamped.applyCommand (stamped : Stamped room)
    (fits : room.roomCounter.toNat + 1 < UInt64.size)
    (command : RoomCommand Value) : Stamped (room.applyCommand command) := by
  cases command with
  | set bucketId key value => exact stamped.store fits bucketId key value
  | del bucketId key => exact stamped.store fits bucketId key _

/-- Operations in order keep the stamps, and each is counted. -/
theorem Stamped.applyCommands (stamped : Stamped room)
    (commands : List (RoomCommand Value))
    (fits : room.roomCounter.toNat + commands.length < UInt64.size) :
    Stamped (commands.foldl RoomState.applyCommand room) ∧
      (commands.foldl RoomState.applyCommand room).roomCounter.toNat =
        room.roomCounter.toNat + commands.length := by
  induction commands generalizing room with
  | nil => exact ⟨stamped, rfl⟩
  | cons command rest ih =>
      rw [List.length_cons] at fits ⊢
      have headFits : room.roomCounter.toNat + 1 < UInt64.size := by omega
      have counter : (room.applyCommand command).roomCounter.toNat =
          room.roomCounter.toNat + 1 := by
        rw [Advances.roomCounter_applyCommand, toNat_succ headFits]
      obtain ⟨kept, grown⟩ :=
        ih (stamped.applyCommand headFits command) (by omega)
      refine ⟨kept, ?_⟩
      rw [List.foldl_cons, grown, counter]
      omega

/-- A change keeps the stamps, and the counter counts its operations. -/
theorem Stamped.changes {count : Nat} (stamped : Stamped room)
    (changes : Changes count room after)
    (fits : room.roomCounter.toNat + count < UInt64.size) :
    Stamped after ∧
      after.roomCounter.toNat = room.roomCounter.toNat + count := by
  obtain ⟨start, commands, counter, fragments, rfl, rfl⟩ := changes
  have started : Stamped start := by
    constructor
    · exact versionsBounded_of_reloaded stamped.bounded counter fragments
    · intro bucketId key entry otherBucket otherKey otherEntry found
        otherFound distinct same
      rcases fragments bucketId key entry found with kept | loaded
      · rcases fragments otherBucket otherKey otherEntry otherFound with
          otherKept | otherLoaded
        · exact stamped.unique _ _ _ _ _ _ kept otherKept distinct same
        · exact ⟨same.trans otherLoaded, otherLoaded⟩
      · exact ⟨loaded, same.symm.trans loaded⟩
  rw [← counter] at fits ⊢
  exact started.applyCommands commands fits

end Stamped

/-! ## Runs -/

section Runs

variable {app : AppState Value} {call : AppCall Value} {roomId : RoomId}
variable {room : RoomState Value}

/-- A call on a room that it keeps counts its operations. -/
theorem stamped_run (below : Below app call)
    (kept : ¬Replaces roomId app call)
    (found : app.rooms[roomId]? = some room) (stamped : Stamped room) :
    ∃ after, (call.run app).rooms[roomId]? = some after ∧ Stamped after ∧
      after.roomCounter.toNat =
        room.roomCounter.toNat + applied roomId app call := by
  obtain ⟨after, lookup, changes⟩ := exists_run kept found
  have fits := fits_of_below below found
  exact ⟨after, lookup, stamped.changes changes fits⟩

/-- Every room of the state is stamped. -/
def AllStamped (app : AppState Value) : Prop :=
  ∀ (roomId : RoomId) (room : RoomState Value),
    app.rooms[roomId]? = some room → Stamped room

theorem allStamped_run (below : Below app call) (all : AllStamped app) :
    AllStamped (call.run app) := by
  intro roomId after found
  by_cases replaces : Replaces roomId app call
  · obtain ⟨loaded, rfl⟩ := fresh_of_replaces replaces found
    exact stamped_fresh loaded
  · obtain ⟨room, before, changes⟩ := exists_of_run replaces found
    have fits := fits_of_below below before
    exact ((all roomId room before).changes changes fits).1

/-- Over a run that keeps a room, its counter counts the operations. -/
theorem roomCounter_foldl {calls : List (AppCall Value)}
    (below : Along AppCall.run
      (fun app call => Below app call ∧ ¬Replaces roomId app call) app calls)
    (found : app.rooms[roomId]? = some room) (stamped : Stamped room) :
    ∃ after, (calls.foldl AppCall.run app).rooms[roomId]? = some after ∧
      after.roomCounter.toNat =
        room.roomCounter.toNat + appliedIn roomId app calls := by
  induction calls generalizing app room with
  | nil => exact ⟨room, found, rfl⟩
  | cons call rest ih =>
      obtain ⟨⟨fits, kept⟩, belowRest⟩ := below
      obtain ⟨next, foundNext, stampedNext, counted⟩ :=
        stamped_run fits kept found stamped
      obtain ⟨after, foundAfter, countedRest⟩ :=
        ih belowRest foundNext stampedNext
      refine ⟨after, foundAfter, ?_⟩
      rw [countedRest, counted, appliedIn]
      omega

end Runs

/--
In every run of calls without a counter at its limit, every version of a room
is at most the room counter, and fragments share no version but zero; and while
the room is neither deleted nor replaced, its counter grows by the number of
applied operations and by nothing else.
-/
theorem versions_unique {calls : List (AppCall Value)}
    (below : Along AppCall.run Below .new calls) {roomId : RoomId}
    {room : RoomState Value}
    (found : (calls.foldl AppCall.run .new).rooms[roomId]? = some room) :
    VersionsBounded room ∧ UniqueVersions room ∧
      ∀ more : List (AppCall Value),
        Along AppCall.run
          (fun app call => Below app call ∧ ¬Replaces roomId app call)
          (calls.foldl AppCall.run .new) more →
        ∃ after,
          (more.foldl AppCall.run
            (calls.foldl AppCall.run .new)).rooms[roomId]? = some after ∧
          after.roomCounter.toNat = room.roomCounter.toNat +
            appliedIn roomId (calls.foldl AppCall.run .new) more := by
  have all : AllStamped (calls.foldl AppCall.run .new) := by
    refine below.invariant AllStamped (fun _ _ => allStamped_run) ?_
    intro roomId room absent
    simp [AppState.new] at absent
  have stamped := all roomId room found
  exact ⟨stamped.bounded, stamped.unique,
    fun _ kept => roomCounter_foldl kept found stamped⟩

/-- A room with two buckets and a fragment under the same key in each. -/
def twoBuckets : List (AppCall Json) :=
  [.createRoom, .onRoom 1 (.setFragment 7 "a" (.number 1)),
    .onRoom 1 (.setFragment 8 "a" (.number 2))]

/-- A tombstone, a reload that resets the versions, and a transaction. -/
def reloadAndCommit : List (AppCall Json) :=
  [.onRoom 1 (.delFragment 7 "a"), .unloadRoom 1,
    .loadRoomData 1 [(7, none, 0)] ∅
      (Std.ExtTreeMap.ofList
        [(7, Std.ExtTreeMap.ofList [("a", .number 1)] compare)] compare),
    .onRoom 1 .txBegin, .onRoom 1 (.setFragment 8 "b" (.bool true)),
    .onRoom 1 (.setFragment 7 "b" (.bool true)), .onRoom 1 .txEnd]

theorem below_of_all {app : AppState Json} {roomId : RoomId}
    {call : RoomCall Json}
    (fits : app.rooms[roomId]?.all
      (fun room => room.roomCounter.toNat + appliedTo room call <
        UInt64.size) = true) :
    Below app (.onRoom roomId call) := by
  intro room present
  simpa [present] using fits

theorem versions_unique_reloadAndCommit :
    ∃ room, (twoBuckets.foldl AppCall.run .new).rooms[(1 : RoomId)]? =
        some room ∧
      VersionsBounded room ∧ UniqueVersions room ∧
      ∃ after, (reloadAndCommit.foldl AppCall.run
          (twoBuckets.foldl AppCall.run .new)).rooms[(1 : RoomId)]? =
            some after ∧
        after.roomCounter.toNat = room.roomCounter.toNat + 3 := by
  have registered : ((twoBuckets.foldl AppCall.run
      .new).rooms[(1 : RoomId)]?).isSome = true := by
    decide +kernel
  obtain ⟨room, found⟩ := Option.isSome_iff_exists.mp registered
  have below : Along AppCall.run Below .new twoBuckets := by
    refine ⟨trivial, ?_, ?_, trivial⟩
    all_goals exact below_of_all (by decide +kernel)
  obtain ⟨bounded, unique, grows⟩ := versions_unique below found
  have counted : appliedIn 1 (twoBuckets.foldl AppCall.run .new)
      reloadAndCommit = 3 := by
    decide +kernel
  refine ⟨room, found, bounded, unique, ?_⟩
  rw [← counted]
  refine grows reloadAndCommit ⟨⟨?_, id⟩, ⟨trivial, id⟩, ⟨trivial, id⟩,
    ⟨?_, id⟩, ⟨?_, id⟩, ⟨?_, id⟩, ⟨?_, id⟩, trivial⟩
  all_goals exact below_of_all (by decide +kernel)

end Syncpond.VersionStamps
