import Syncpond.Sections
import Syncpond.StateRuns

/-!
# What an acknowledgement means

The handler of the upstream API turns the response of the kernel into a result.
An acknowledged mutation should have found its room loaded and taken effect in
memory, and a refused one should have changed nothing.

For the mutations of buckets and members this is so exactly when the room is
known: to an unknown room nothing happens, and that is acknowledged.  A write
that the state refuses or buffers is acknowledged as well.
-/

namespace Syncpond.Acknowledgement

open Syncpond.Protocol
open Syncpond.Serde
open Syncpond.State
open Syncpond.Persistence
open Syncpond.Kernel
open Syncpond.Sections
open Syncpond.StateRuns
open Syncpond.Library.Maps
open Syncpond.Library.Programs
open Syncpond.Library.Text

variable {Value : Type} [SerdeJson Value]

/-! ## The handler -/

/-- The result of a command that succeeds with one response. -/
def acknowledge (success : CommandResponse) (failed : String)
    (response : CommandResponse) : Except String Unit :=
  if response = success then .ok ()
  else
    match response with
    | .loadRoomResponse (.error error) => .error error
    | _ => .error failed

namespace KernelCommandHandler

/-- Create a bucket, and wait for its acknowledgement. -/
def newBucket (roomId : RoomId) (bucketId : BucketId) (label : String) :
    Task Value (Except String Unit) :=
  acknowledge .newBucketResponse "new_bucket_failed" <$>
    handleCommand .none (.newBucket roomId bucketId label)

/-- Delete a bucket, and wait for its acknowledgement. -/
def deleteBucket (roomId : RoomId) (bucketId : BucketId) :
    Task Value (Except String Unit) :=
  acknowledge .deleteBucketResponse "delete_bucket_failed" <$>
    handleCommand .none (.deleteBucket roomId bucketId)

/-- Add a member, and wait for its acknowledgement. -/
def newMember (roomId : RoomId) (member : String) :
    Task Value (Except String Unit) :=
  acknowledge .newMemberResponse "new_member_failed" <$>
    handleCommand .none (.newMember roomId member)

/-- Remove a member, and wait for its acknowledgement. -/
def deleteMember (roomId : RoomId) (member : String) :
    Task Value (Except String Unit) :=
  acknowledge .deleteMemberResponse "delete_member_failed" <$>
    handleCommand .none (.deleteMember roomId member)

/-- Write a fragment, and wait for its acknowledgement. -/
def writeFragment (roomId : RoomId) (bucketId : BucketId) (key : String)
    (data : FragmentData) : Task Value (Except String Unit) :=
  acknowledge .fragmentWriteResponse "write_fragment_failed" <$>
    handleCommand .none (.writeFragment roomId bucketId key data)

end KernelCommandHandler

/-- The mutations of the content of a room. -/
inductive Mutation where
  | newBucket (bucketId : BucketId) (label : String)
  | deleteBucket (bucketId : BucketId)
  | newMember (member : String)
  | deleteMember (member : String)
  | writeFragment (bucketId : BucketId) (key : String) (data : FragmentData)

namespace Mutation

/-- Handle a mutation, without storage failures. -/
def handle (roomId : RoomId) : Mutation → Task Value (Except String Unit)
  | .newBucket bucketId label =>
      KernelCommandHandler.newBucket roomId bucketId label
  | .deleteBucket bucketId =>
      KernelCommandHandler.deleteBucket roomId bucketId
  | .newMember member => KernelCommandHandler.newMember roomId member
  | .deleteMember member => KernelCommandHandler.deleteMember roomId member
  | .writeFragment bucketId key data =>
      KernelCommandHandler.writeFragment roomId bucketId key data

/-- The mutation does not add a blank member. -/
def Nonblank : Mutation → Prop
  | .newMember member => (trim member).isEmpty = false
  | _ => True

instance (mutation : Mutation) : Decidable mutation.Nonblank :=
  match mutation with
  | .newBucket _ _ => .isTrue trivial
  | .deleteBucket _ => .isTrue trivial
  | .newMember _ => inferInstanceAs (Decidable (_ = _))
  | .deleteMember _ => .isTrue trivial
  | .writeFragment _ _ _ => .isTrue trivial

end Mutation

/-! ## The effect of a mutation -/

/-- A bucket has the fragments, the label and the flags that it had. -/
structure SameBucket (before after : RoomState Value)
    (bucketId : BucketId) : Prop where
  fragments : after.buckets[bucketId]? = before.buckets[bucketId]?
  label : after.bucketLabels[bucketId]? = before.bucketLabels[bucketId]?
  flags : after.bucketFlags[bucketId]? = before.bucketFlags[bucketId]?

/-- No fragment of the room has the version. -/
def Fresh (room : RoomState Value) (version : UInt64) : Prop :=
  ∀ bucketId key entry,
    getNested room.buckets bucketId key = some entry →
      entry.keyVersion ≠ version

/-- The mutation took effect in a room, and nothing else changed there. -/
def Mutation.Applied (before after : RoomState Value) : Mutation → Prop
  | .newBucket bucketId _ =>
      bucketId ∈ after.buckets ∧
        (∀ key, getNested after.buckets bucketId key =
          getNested before.buckets bucketId key) ∧
        (∀ other, other ≠ bucketId → SameBucket before after other) ∧
        after.members = before.members
  | .deleteBucket bucketId =>
      bucketId ∉ after.buckets ∧
        (∀ other, other ≠ bucketId → SameBucket before after other) ∧
        after.members = before.members
  | .newMember member =>
      trim member ∈ after.members ∧
        (∀ other, other ≠ trim member →
          (other ∈ after.members ↔ other ∈ before.members)) ∧
        ∀ bucketId, SameBucket before after bucketId
  | .deleteMember member =>
      trim member ∉ after.members ∧
        (∀ other, other ≠ trim member →
          (other ∈ after.members ↔ other ∈ before.members)) ∧
        ∀ bucketId, SameBucket before after bucketId
  | .writeFragment bucketId key data =>
      (∃ version, Fresh before version ∧
        getNested after.buckets bucketId key =
          some ⟨SerdeJson.parsePayload data, version⟩) ∧
        (∀ other, other ≠ key →
          getNested after.buckets bucketId other =
            getNested before.buckets bucketId other) ∧
        (∀ other, other ≠ bucketId → SameBucket before after other) ∧
        after.bucketLabels = before.bucketLabels ∧
        after.bucketFlags = before.bucketFlags ∧
        after.members = before.members

/-- The room was loaded and has the effect of the mutation, other rooms not. -/
def Mutation.Effective (roomId : RoomId) (mutation : Mutation)
    (before after : AppState Value) : Prop :=
  (∃ old new, before.rooms[roomId]? = some old ∧ old.loaded = true ∧
    after.rooms[roomId]? = some new ∧ new.loaded = true ∧
    mutation.Applied old new) ∧
    ∀ other, other ≠ roomId → after.rooms[other]? = before.rooms[other]?

/-- A mutation is acknowledged and effective, or refused and without effect. -/
def Mutation.Honest (roomId : RoomId) (mutation : Mutation)
    (kernel : SyncpondKernel Value) : Prop :=
  let (result, after) := (mutation.handle roomId).run kernel
  match result with
  | .ok () => mutation.Effective roomId kernel.state after.state
  | .error _ =>
      after.state = kernel.state ∧ after.persistence = kernel.persistence

/--
The room is known; and if a fragment is written to a loaded room, nothing holds
the write up and the next version is fresh.
-/
def Mutation.Takes (roomId : RoomId) (kernel : SyncpondKernel Value) :
    Mutation → Prop
  | .writeFragment _ _ _ =>
      ∀ room, kernel.state.rooms[roomId]? = some room → room.loaded = true →
        room.ioLocked = false ∧ room.txBuffer = none ∧
          Fresh room (room.roomCounter + 1)
  | _ => roomId ∈ kernel.state.rooms

/-- The mutation of one loaded room is effective if it is applied there. -/
theorem effective_insert_iff {app : AppState Value} {roomId : RoomId}
    {mutation : Mutation} {before after : RoomState Value}
    (found : app.rooms[roomId]? = some before)
    (isLoaded : before.loaded = true) (stillLoaded : after.loaded = true) :
    mutation.Effective roomId app
        { app with rooms := app.rooms.insert roomId after } ↔
      mutation.Applied before after := by
  unfold Mutation.Effective
  constructor
  · rintro ⟨⟨old, new, isOld, _, isNew, _, applied⟩, _⟩
    rw [found] at isOld
    rw [lookup_insert, if_pos rfl] at isNew
    cases isOld
    cases isNew
    exact applied
  · intro applied
    refine ⟨⟨before, after, found, isLoaded, ?_, stillLoaded, applied⟩, ?_⟩
    · rw [lookup_insert, if_pos rfl]
    · intro other different
      rw [lookup_insert, if_neg different.symm]

/-! ## Storage keeps the state -/

/-- No section of the task changes the state. -/
def KeepsState {Result : Type} (task : Task Value Result) : Prop :=
  task.Every fun _ effect => ∀ kernel, (effect kernel).state = kernel.state

namespace KeepsState

variable {faults : Faults} {roomId : RoomId}

omit [SerdeJson Value] in
theorem run {Result : Type} {task : Task Value Result}
    (keeps : KeepsState task) (kernel : SyncpondKernel Value) :
    (task.run kernel).2.state = kernel.state :=
  Program.Every.run keeps kernel

omit [SerdeJson Value] in
theorem persist (operation : Storage Unit) :
    KeepsState (Task.persist faults roomId operation : Task Value Unit) :=
  Program.Every.mono (fun _ _ keeps kernel => (keeps kernel).1)
    (OnlyPersists.persist operation)

end KeepsState

/-! ## Mutations of buckets and members -/

@[simp]
theorem acknowledge_success (success : CommandResponse) (failed : String) :
    acknowledge success failed success = .ok () :=
  if_pos rfl

theorem acknowledge_roomNotLoaded {success : CommandResponse}
    (distinct : success ≠ roomNotLoaded) (failed : String) :
    acknowledge success failed roomNotLoaded = .error "room_not_loaded" :=
  if_neg distinct.symm

section MutateAndPersist

variable {roomId : RoomId} {effect : RoomState Value → RoomState Value}
variable {operation : Storage Unit} {response : CommandResponse}
variable {kernel : SyncpondKernel Value}

omit [SerdeJson Value] in
/-- Nothing happens to an unknown room. -/
theorem mutateAndPersist_unknown
    (unknown : kernel.state.rooms[roomId]? = none) :
    (mutateAndPersist .none roomId effect operation response).run kernel =
      (response, kernel) := by
  simp [mutateAndPersist, SyncpondKernel.mutateRoom, unknown, Task.release]

omit [SerdeJson Value] in
/-- An unloaded room is refused. -/
theorem mutateAndPersist_unloaded {room : RoomState Value}
    (found : kernel.state.rooms[roomId]? = some room)
    (unloaded : room.loaded = false) :
    (mutateAndPersist .none roomId effect operation response).run kernel =
      (roomNotLoaded, kernel) := by
  simp [mutateAndPersist, SyncpondKernel.mutateRoom, found, unloaded,
    Task.release]

omit [SerdeJson Value] in
/-- A loaded room is changed in memory, whatever happens to its database. -/
theorem mutateAndPersist_loaded {room : RoomState Value}
    (effect : RoomState Value → RoomState Value) (operation : Storage Unit)
    (response : CommandResponse)
    (found : kernel.state.rooms[roomId]? = some room)
    (isLoaded : room.loaded = true) :
    ∃ after,
      (mutateAndPersist .none roomId effect operation response).run kernel =
        (response, after) ∧
      after.state = { kernel.state with
        rooms := kernel.state.rooms.insert roomId (effect room) } := by
  let changed : SyncpondKernel Value := { kernel with
    state := { kernel.state with
      rooms := kernel.state.rooms.insert roomId (effect room) } }
  have mutated : kernel.mutateRoom roomId effect = (.changed, changed) := by
    simp [SyncpondKernel.mutateRoom, found, isLoaded, changed]
  refine ⟨((Task.persist .none roomId operation).run changed).2, ?_,
    (KeepsState.persist operation).run changed⟩
  unfold mutateAndPersist
  rw [Program.run_bind, Program.run_atomic, mutated]
  simp only [Program.run_bind, Program.run_pure]
  rfl

/-- A mutation of this shape is honest about the rooms that are known. -/
theorem honest_mutateAndPersist {mutation : Mutation} {failed : String}
    (handled : (mutation.handle roomId : Task Value (Except String Unit)) =
      acknowledge response failed <$>
        mutateAndPersist .none roomId effect operation response)
    (distinct : response ≠ roomNotLoaded)
    (loaded : ∀ room, (effect room).loaded = room.loaded)
    (applied : ∀ room, mutation.Applied room (effect room)) :
    mutation.Honest roomId kernel ↔ roomId ∈ kernel.state.rooms := by
  unfold Mutation.Honest
  rw [handled, Program.run_map, Std.ExtTreeMap.mem_iff_isSome_getElem?]
  cases found : kernel.state.rooms[roomId]? with
  | none =>
      rw [mutateAndPersist_unknown found, acknowledge_success]
      simp [Mutation.Effective, found]
  | some room =>
      simp only [Option.isSome_some, iff_true]
      cases isLoaded : room.loaded with
      | false =>
          rw [mutateAndPersist_unloaded found isLoaded,
            acknowledge_roomNotLoaded distinct]
          exact ⟨rfl, rfl⟩
      | true =>
          obtain ⟨after, ran, state⟩ :=
            mutateAndPersist_loaded effect operation response found isLoaded
          rw [ran, acknowledge_success]
          dsimp only
          rw [state]
          exact (effective_insert_iff found isLoaded
            ((loaded room).trans isLoaded)).mpr (applied room)

end MutateAndPersist

/-! ### The four mutations -/

section Applied

variable (room : RoomState Value)

omit [SerdeJson Value] in
theorem sameBucket_newBucket {bucketId other : BucketId} (label : String)
    (different : other ≠ bucketId) :
    SameBucket room (RoomEffect.newBucket bucketId label room) other where
  fragments := by
    simp [RoomEffect.newBucket, lookup_insertIfNew, different.symm]
  label := by
    simp only [RoomEffect.newBucket]
    split
    · rfl
    · simp [lookup_insert, different.symm]
  flags := by
    simp [RoomEffect.newBucket, lookup_insertIfNew, different.symm]

omit [SerdeJson Value] in
theorem sameBucket_deleteBucket {bucketId other : BucketId}
    (different : other ≠ bucketId) :
    SameBucket room (RoomEffect.deleteBucket bucketId room) other where
  fragments := by
    simp [RoomEffect.deleteBucket, lookup_erase, different.symm]
  label := by
    simp [RoomEffect.deleteBucket, lookup_erase, different.symm]
  flags := by
    simp [RoomEffect.deleteBucket, lookup_erase, different.symm]

theorem applied_newBucket (bucketId : BucketId) (label : String) :
    Mutation.Applied room
      (RoomEffect.newBucket bucketId (trim label) room)
      (.newBucket bucketId label) := by
  refine ⟨?_, ?_, fun _ => sameBucket_newBucket room _, rfl⟩
  · simp [RoomEffect.newBucket]
  · intro key
    simp only [RoomEffect.newBucket, getNested, lookup_insertIfNew]
    split
    · next new =>
      rw [Std.ExtTreeMap.getElem?_eq_none new.2]
      simp
    · rfl

theorem applied_deleteBucket (bucketId : BucketId) :
    Mutation.Applied room (RoomEffect.deleteBucket bucketId room)
      (.deleteBucket bucketId) := by
  refine ⟨?_, fun _ => sameBucket_deleteBucket room, rfl⟩
  simp [RoomEffect.deleteBucket]

theorem applied_newMember {member : String}
    (nonblank : (trim member).isEmpty = false) :
    Mutation.Applied room (RoomEffect.newMember (trim member) room)
      (.newMember member) := by
  unfold RoomEffect.newMember
  rw [if_neg (Bool.eq_false_iff.mp nonblank)]
  refine ⟨by simp, ?_, fun _ => ⟨rfl, rfl, rfl⟩⟩
  intro other different
  simp [different.symm]

theorem applied_deleteMember (member : String) :
    Mutation.Applied room (RoomEffect.deleteMember (trim member) room)
      (.deleteMember member) := by
  refine ⟨by simp [RoomEffect.deleteMember], ?_, fun _ => ⟨rfl, rfl, rfl⟩⟩
  intro other different
  simp [RoomEffect.deleteMember, different.symm]

omit [SerdeJson Value] in
theorem loaded_newMember (member : String) :
    (RoomEffect.newMember member room).loaded = room.loaded := by
  unfold RoomEffect.newMember
  split <;> rfl

end Applied

/-! ## Writes -/

section Write

variable {roomId : RoomId} {bucketId : BucketId} {key : String}
variable {data : FragmentData} {kernel : SyncpondKernel Value}

/-- A write to a room that is not loaded is refused. -/
theorem writeFragment_notLoaded
    (notLoaded : kernel.state.isRoomLoaded roomId = false) :
    (handleWriteFragment .none roomId bucketId key data).run kernel =
      (roomNotLoaded, kernel) := by
  simp [handleWriteFragment, notLoaded]

/-- A write to a loaded room is acknowledged, whatever the state says. -/
theorem writeFragment_loaded (bucketId : BucketId) (key : String)
    (data : FragmentData)
    (isLoaded : kernel.state.isRoomLoaded roomId = true) :
    ∃ after,
      (handleWriteFragment .none roomId bucketId key data).run kernel =
        (.fragmentWriteResponse, after) ∧
      after.state = (kernel.commitWrite roomId bucketId key
        (SerdeJson.parsePayload data)).2.state := by
  obtain ⟨after, ran, state, _⟩ :=
    run_writeFragment .none bucketId key data isLoaded
  exact ⟨after, ran, state⟩

omit [SerdeJson Value] in
/-- The state after a write to a loaded room. -/
theorem state_commitWrite {room : RoomState Value} {value : Value}
    (found : kernel.state.rooms[roomId]? = some room) :
    (kernel.commitWrite roomId bucketId key value).2.state =
      match room.setFragment bucketId key value with
      | .ok after => { kernel.state with
          rooms := kernel.state.rooms.insert roomId after }
      | .error _ => kernel.state := by
  simp only [SyncpondKernel.commitWrite, AppState.setFragment,
    AppState.withRoom, found]
  cases room.setFragment bucketId key value <;> rfl

variable (bucketId key data kernel) in
/-- A write changes no other room. -/
theorem rooms_writeFragment_other {other : RoomId}
    (different : other ≠ roomId) :
    ((handleWriteFragment .none roomId bucketId key data).run
        kernel).2.state.rooms[other]? = kernel.state.rooms[other]? := by
  cases isLoaded : kernel.state.isRoomLoaded roomId with
  | false => rw [writeFragment_notLoaded isLoaded]
  | true =>
      obtain ⟨after, ran, state⟩ :=
        writeFragment_loaded bucketId key data isLoaded
      obtain ⟨room, found, _⟩ := isRoomLoaded_iff.mp isLoaded
      rw [ran, state, state_commitWrite found]
      split
      · rw [lookup_insert, if_neg different.symm]
      · rfl

variable (bucketId key data) in
/-- A write stores its value in a loaded room without a transaction. -/
theorem rooms_writeFragment_same {room : RoomState Value}
    (found : kernel.state.rooms[roomId]? = some room)
    (unlocked : room.ioLocked = false) (resident : room.loaded = true)
    (closed : room.txBuffer = none) :
    ((handleWriteFragment .none roomId bucketId key data).run
        kernel).2.state.rooms[roomId]? =
      some (room.store bucketId key (SerdeJson.parsePayload data)) := by
  obtain ⟨after, ran, state⟩ := writeFragment_loaded bucketId key data
    (isRoomLoaded_iff.mpr ⟨room, found, resident⟩)
  have stored : room.setFragment bucketId key (SerdeJson.parsePayload data) =
      .ok (room.store bucketId key (SerdeJson.parsePayload data)) := by
    simp [RoomState.setFragment, unlocked, resident, closed]
  rw [ran, state, state_commitWrite found, stored]
  exact (lookup_insert _ _ _ _).trans (if_pos rfl)

/-- No version of the room is fresh. -/
theorem not_applied_of_buckets {before after : RoomState Value}
    (buckets : after.buckets = before.buckets) :
    ¬ Mutation.Applied before after (.writeFragment bucketId key data) := by
  rintro ⟨⟨version, fresh, written⟩, _⟩
  rw [buckets] at written
  exact fresh bucketId key _ written rfl

theorem applied_store_iff {room : RoomState Value} :
    Mutation.Applied room
        (room.store bucketId key (SerdeJson.parsePayload data))
        (.writeFragment bucketId key data) ↔
      Fresh room (room.roomCounter + 1) := by
  constructor
  · rintro ⟨⟨version, fresh, written⟩, _⟩
    simp only [RoomState.store, getNested_insertNested, and_self, if_true,
      Option.some.injEq, FragmentEntry.mk.injEq, true_and] at written
    exact written ▸ fresh
  · intro fresh
    refine ⟨⟨_, fresh, ?_⟩, ?_, ?_, rfl, rfl, rfl⟩
    · simp [RoomState.store, getNested_insertNested]
    · intro other different
      simp [RoomState.store, getNested_insertNested, different.symm]
    · intro other different
      refine ⟨?_, rfl, rfl⟩
      simp [RoomState.store, lookup_insertNested, different.symm]

omit [SerdeJson Value] in
/-- What a write does to a loaded room, if the state takes it. -/
theorem setFragment_eq {room : RoomState Value} (bucketId : BucketId)
    (key : String) (value : Value)
    (isLoaded : room.loaded = true) :
    (∃ error, room.setFragment bucketId key value = .error error ∧
        room.ioLocked = true) ∨
      ∃ after, room.setFragment bucketId key value = .ok after ∧
        after.loaded = true ∧
        (room.ioLocked = false ∧ room.txBuffer = none ∧
            after = room.store bucketId key value ∨
          room.txBuffer ≠ none ∧ after.buckets = room.buckets) := by
  unfold RoomState.setFragment
  cases locked : room.ioLocked with
  | true => exact Or.inl ⟨_, rfl, rfl⟩
  | false =>
      cases opened : room.txBuffer with
      | none =>
          refine Or.inr ⟨room.store bucketId key value, ?_, isLoaded,
            Or.inl ⟨rfl, rfl, rfl⟩⟩
          simp [isLoaded]
      | some buffer =>
          refine Or.inr ⟨{ room with
            txBuffer := some (buffer ++ [.set bucketId key value]) }, ?_,
            isLoaded, Or.inr ⟨by simp, rfl⟩⟩
          simp [isLoaded, locked]

/-- The write is in memory unless the state refused or buffered it. -/
theorem effective_commitWrite_iff {room : RoomState Value}
    (found : kernel.state.rooms[roomId]? = some room)
    (isLoaded : room.loaded = true) :
    (Mutation.writeFragment bucketId key data).Effective roomId kernel.state
        (kernel.commitWrite roomId bucketId key
          (SerdeJson.parsePayload data)).2.state ↔
      room.ioLocked = false ∧ room.txBuffer = none ∧
        Fresh room (room.roomCounter + 1) := by
  rw [state_commitWrite found]
  rcases setFragment_eq bucketId key (SerdeJson.parsePayload data) isLoaded with
    ⟨error, refused, locked⟩ | ⟨after, taken, stillLoaded, outcome⟩
  · rw [refused]
    constructor
    · rintro ⟨⟨old, new, isOld, _, isNew, _, applied⟩, _⟩
      rw [isOld] at isNew
      cases isNew
      exact absurd applied (not_applied_of_buckets rfl)
    · rintro ⟨unlocked, _⟩
      rw [locked] at unlocked
      cases unlocked
  · rw [taken]
    dsimp only
    rw [effective_insert_iff found isLoaded stillLoaded]
    rcases outcome with ⟨unlocked, closed, rfl⟩ | ⟨opened, buckets⟩
    · rw [applied_store_iff]
      exact ⟨fun fresh => ⟨unlocked, closed, fresh⟩, fun holds => holds.2.2⟩
    · constructor
      · intro applied
        exact absurd applied (not_applied_of_buckets buckets)
      · rintro ⟨_, closed, _⟩
        exact absurd closed opened

/-- A write is honest unless a loaded room refuses or buffers it. -/
theorem honest_writeFragment_iff :
    (Mutation.writeFragment bucketId key data).Honest roomId kernel ↔
      (Mutation.writeFragment bucketId key data).Takes roomId kernel := by
  unfold Mutation.Honest Mutation.Takes Mutation.handle
    KernelCommandHandler.writeFragment handleCommand
  rw [Program.run_map]
  by_cases isLoaded : kernel.state.isRoomLoaded roomId = true
  · obtain ⟨room, found, resident⟩ := isRoomLoaded_iff.mp isLoaded
    obtain ⟨after, ran, state⟩ :=
      writeFragment_loaded bucketId key data isLoaded
    simp only [ran, acknowledge_success, state,
      effective_commitWrite_iff found resident, found, Option.some.injEq,
      forall_eq', resident, forall_const]
  · have notLoaded := Bool.eq_false_iff.mpr isLoaded
    rw [writeFragment_notLoaded notLoaded,
      acknowledge_roomNotLoaded (by decide)]
    refine ⟨fun _ room found resident => ?_, fun _ => ⟨rfl, rfl⟩⟩
    exact absurd (isRoomLoaded_iff.mpr ⟨room, found, resident⟩) isLoaded

end Write

/-! ## All mutations -/

/--
A mutation with no blank member, handled alone, is honest if and only if its
room is known, or it writes a fragment that the state takes.
-/
theorem acknowledged_applied_iff {roomId : RoomId} {mutation : Mutation}
    {kernel : SyncpondKernel Value} (nonblank : mutation.Nonblank) :
    mutation.Honest roomId kernel ↔ mutation.Takes roomId kernel := by
  cases mutation with
  | newBucket bucketId label =>
      exact honest_mutateAndPersist rfl (by decide) (fun _ => rfl)
        fun room => applied_newBucket room bucketId label
  | deleteBucket bucketId =>
      exact honest_mutateAndPersist rfl (by decide) (fun _ => rfl)
        fun room => applied_deleteBucket room bucketId
  | newMember member =>
      exact honest_mutateAndPersist rfl (by decide)
        (fun room => loaded_newMember room _)
        fun room => applied_newMember room nonblank
  | deleteMember member =>
      exact honest_mutateAndPersist rfl (by decide) (fun _ => rfl)
        fun room => applied_deleteMember room member
  | writeFragment bucketId key data => exact honest_writeFragment_iff

/-- A room is created, and a member added to it. -/
def oneRoom : SyncpondKernel Json :=
  run (boot .none ∅) [.command (.newRoom "room")]

theorem acknowledged_applied_member :
    (Mutation.newMember "a").Nonblank ∧
      (Mutation.newMember "a").Honest 1 oneRoom := by
  have nonblank : (Mutation.newMember "a").Nonblank := by
    decide +kernel
  have known : (1 : RoomId) ∈ oneRoom.state.rooms := by decide +kernel
  refine And.intro nonblank ?_
  rw [acknowledged_applied_iff nonblank]
  exact known

/-- A bucket of a room that does not exist is acknowledged. -/
theorem unknownRoom_acknowledged :
    ¬ ∀ (roomId : RoomId) (mutation : Mutation)
      (kernel : SyncpondKernel Json), mutation.Nonblank →
      mutation.Honest roomId kernel := by
  intro claimed
  have honest := claimed 9 (.newBucket 5 "bucket") (boot .none ∅) trivial
  have unknown : (boot .none ∅ : SyncpondKernel Json).state.rooms[(9 : RoomId)]? =
      none := by decide +kernel
  unfold Mutation.Honest Mutation.handle KernelCommandHandler.newBucket
    handleCommand handleNewBucket at honest
  rw [Program.run_map, mutateAndPersist_unknown unknown,
    acknowledge_success] at honest
  obtain ⟨⟨old, _, found, _⟩, _⟩ := honest
  rw [unknown] at found
  cases found

end Syncpond.Acknowledgement
