import Syncpond.Kernel

/-!
# The sections of the commands

Two facts about every section of every command, whatever the kernel it sees:
a command takes the write lock of the state at most once at a time and gives
it back, and all that it adds to the notification channel are broadcasts.
-/

namespace Syncpond.Sections

open Syncpond.Protocol
open Syncpond.Serde
open Syncpond.Persistence
open Syncpond.State
open Syncpond.Kernel
open Syncpond.Library.Maps
open Syncpond.Library.Channels
open Syncpond.Library.JsonText
open Syncpond.Library.Programs
open Syncpond.Library.Text (trim)

variable {Value : Type} [SerdeJson Value] (faults : Faults)

-- Elaborating against `Free` runs the operation, and would trim its text.
attribute [local irreducible] trim

/-! ## Storage operations -/

/-- What a call of the database or the cache does. -/
inductive IsCall : (RoomPersistence → RoomPersistence) → Prop
  | get (key : String) :
      IsCall fun room => ((Storage.get faults key).exec room).2
  | put (key : String) (bytes : ByteArray) :
      IsCall fun room => ((Storage.put faults key bytes).exec room).2
  | delete (key : String) :
      IsCall fun room => ((Storage.delete faults key).exec room).2
  | iterator : IsCall fun room => ((Storage.iterator faults).exec room).2
  | cacheGetBuckets (roomId : RoomId) :
      IsCall fun room => ((Storage.cacheGetBuckets roomId).exec room).2
  | cachePutBuckets (roomId : RoomId) (buckets : Map BucketId BucketRecord) :
      IsCall fun room =>
        ((Storage.cachePutBuckets roomId buckets).exec room).2

/-- The operation is made of calls, and never touches the lock. -/
def Calls {α : Type} (operation : Storage α) : Prop :=
  operation.run.Every fun access effect =>
    access = .free ∧ IsCall faults effect

/-- The operation never touches the lock. -/
def Free {α : Type} (operation : Storage α) : Prop :=
  operation.run.Every fun access _ => access = .free

namespace Calls

variable {faults} {α β : Type}

/-- An operation that is made of calls never touches the lock. -/
theorem free {operation : Storage α} (calls : Calls faults operation) :
    Free operation :=
  Program.Every.mono (fun _ _ call => call.1) calls

theorem pure (value : α) : Calls faults (pure value : Storage α) :=
  trivial

theorem throw (text : String) : Calls faults (throw text : Storage α) :=
  trivial

theorem get (key : String) : Calls faults (Storage.get faults key) :=
  Program.every_atomic ⟨rfl, .get key⟩

theorem put (key : String) (bytes : ByteArray) :
    Calls faults (Storage.put faults key bytes) :=
  Program.every_atomic ⟨rfl, .put key bytes⟩

theorem delete (key : String) : Calls faults (Storage.delete faults key) :=
  Program.every_atomic ⟨rfl, .delete key⟩

theorem iterator : Calls faults (Storage.iterator faults) :=
  Program.every_atomic ⟨rfl, .iterator⟩

theorem cacheGetBuckets (roomId : RoomId) :
    Calls faults (Storage.cacheGetBuckets roomId) :=
  Program.every_atomic ⟨rfl, .cacheGetBuckets roomId⟩

theorem cachePutBuckets (roomId : RoomId)
    (buckets : Map BucketId BucketRecord) :
    Calls faults (Storage.cachePutBuckets roomId buckets) :=
  Program.every_atomic ⟨rfl, .cachePutBuckets roomId buckets⟩

/-- Operations that are made of calls can follow each other. -/
theorem bind {operation : Storage α} {rest : α → Storage β}
    (front : Calls faults operation)
    (back : ∀ value, Calls faults (rest value)) :
    Calls faults (operation >>= rest) := by
  refine Program.Every.bind front ?_
  rintro (text | value)
  · trivial
  · exact back value

/-- Looking at the error of an operation calls nothing else. -/
theorem attempt {operation : Storage α} (calls : Calls faults operation) :
    Calls faults (Storage.attempt operation) :=
  Program.Every.bind calls fun _ => trivial

theorem serialize (codec : Codec α) (value : α) :
    Calls faults (Storage.serialize codec value) := by
  unfold Storage.serialize
  split
  · exact pure _
  · exact throw _

/-- Operations that are made of calls can be repeated over a list. -/
theorem foldlM {step : β → α → Storage β}
    (calls : ∀ state item, Calls faults (step state item)) (items : List α)
    (state : β) : Calls faults (items.foldlM step state) := by
  induction items generalizing state with
  | nil => exact pure state
  | cons item rest ih =>
      rw [List.foldlM_cons]
      exact (calls state item).bind fun after => ih after

end Calls

/-- Persisting a fragment is one call, after its value is serialized. -/
theorem calls_persistFragment (container key : String)
    (value : Option Value) :
    Calls faults (persistFragment faults container key value) := by
  cases value with
  | some value =>
      exact (Calls.serialize _ value).bind fun bytes => .put _ _
  | none => exact .delete _

variable (Value) in
theorem calls_loadMembers (roomId : RoomId) :
    Calls faults (loadMembers faults Value roomId) := by
  refine (Calls.get _).bind fun found => ?_
  cases found with
  | none => exact .pure _
  | some bytes =>
      dsimp only
      split
      · exact .pure _
      · exact .throw _

variable (Value) in
theorem calls_updateMemberList (roomId : RoomId) (members : FinSet String) :
    Calls faults (updateMemberList faults Value roomId members) :=
  (Calls.serialize _ _).bind fun _ => .put _ _

variable (Value) in
/-- The member list is read before it is written. -/
theorem calls_persistMember (roomId : RoomId) (member : String) :
    Calls faults (persistMember faults Value roomId member) := by
  unfold persistMember
  dsimp only
  split
  · exact .pure _
  · exact (calls_loadMembers Value faults roomId).bind fun _ =>
      calls_updateMemberList Value faults roomId _

variable (Value) in
theorem calls_removeMember (roomId : RoomId) (member : String) :
    Calls faults (removeMember faults Value roomId member) :=
  (calls_loadMembers Value faults roomId).bind fun _ =>
    calls_updateMemberList Value faults roomId _

variable (Value) in
theorem calls_updateBucketList (roomId : RoomId) :
    Calls faults (updateBucketList faults Value roomId) :=
  (Calls.iterator.bind fun _ => .pure _).bind fun _ =>
    (Calls.serialize _ _).bind fun _ => .put _ _

theorem calls_updateCache (roomId : RoomId)
    (change : Map BucketId BucketRecord → Map BucketId BucketRecord) :
    Calls faults (updateCache roomId change) := by
  refine (Calls.cacheGetBuckets _).bind fun found => ?_
  cases found with
  | none => exact .pure _
  | some buckets => exact .cachePutBuckets _ _

variable (Value) in
/-- A record is written before the list and the cache. -/
theorem calls_persistBucket (roomId : RoomId) (bucketId : BucketId)
    (label : Option String) (flags : UInt32) :
    Calls faults (persistBucket faults Value roomId bucketId label flags) :=
  (Calls.serialize _ _).bind fun _ =>
    (Calls.put _ _).bind fun _ =>
      (calls_updateBucketList Value faults roomId).bind fun _ =>
        calls_updateCache faults roomId _

variable (Value) in
/-- A record is deleted before the list and the cache change. -/
theorem calls_removeBucket (roomId : RoomId) (bucketId : BucketId) :
    Calls faults (removeBucket faults Value roomId bucketId) :=
  (Calls.delete _).bind fun _ =>
    (calls_updateBucketList Value faults roomId).bind fun _ =>
      calls_updateCache faults roomId _

variable (Value) in
theorem calls_readListed (out : Map BucketId BucketRecord)
    (bucketId : BucketId) :
    Calls faults (readListed faults Value out bucketId) := by
  refine (Calls.get _).attempt.bind fun found => ?_
  split
  · split
    · exact .pure _
    · exact .pure _
  · exact .pure _

variable (Value) in
/-- The records come from the cache, or one call a record. -/
theorem calls_loadBuckets (roomId : RoomId) :
    Calls faults (loadBuckets faults Value roomId) := by
  refine (Calls.cacheGetBuckets _).bind fun found => ?_
  cases found with
  | some entry => exact .pure entry
  | none =>
      refine (Calls.get _).attempt.bind fun list => ?_
      split
      · exact (Calls.foldlM (calls_readListed Value faults) _ _).bind
          fun _ => (Calls.cachePutBuckets _ _).bind fun _ => .pure _
      · exact Calls.iterator.bind fun _ =>
          (Calls.cachePutBuckets _ _).bind fun _ =>
            (Calls.cachePutBuckets _ _).bind fun _ => .pure _

theorem calls_loadAllFragments :
    Calls faults (loadAllFragments faults :
      Storage (Map BucketId (Map String Value))) := by
  refine Calls.iterator.bind fun items => ?_
  split
  · exact .pure _
  · exact .throw _

/-- Reading a room is made of calls for its three parts. -/
theorem calls_readRoomData (roomId : RoomId) :
    Calls faults (readRoomData faults roomId : Storage (RoomData Value)) := by
  refine (calls_loadBuckets Value faults roomId).attempt.bind fun buckets => ?_
  refine (calls_loadMembers Value faults roomId).attempt.bind fun members => ?_
  refine (calls_loadAllFragments faults).attempt.bind fun fragments => ?_
  cases fragments with
  | ok fragments => exact .pure _
  | error text => exact .throw _

/-! ## Sections that only persist -/

/-- No section changes the state or the notification channel. -/
def OnlyPersists {Result : Type} (task : Task Value Result) : Prop :=
  task.Every fun _ effect => ∀ kernel,
    (effect kernel).state = kernel.state ∧
      (effect kernel).notifications = kernel.notifications

namespace OnlyPersists

variable {faults : Faults} {roomId : RoomId}

omit [SerdeJson Value] in
/-- Opening a database changes nothing but storage. -/
theorem openRoomDb :
    OnlyPersists (Task.openRoomDb faults roomId :
      Task Value (Except String Unit)) :=
  Program.every_atomic fun _ => ⟨rfl, rfl⟩

omit [SerdeJson Value] in
/-- An operation on the database of a room changes nothing but storage. -/
theorem onRoom {Result : Type} (operation : Storage Result) :
    OnlyPersists (Task.onRoom roomId operation :
      Task Value (Option (Except String Result))) := by
  refine Program.Every.bind (Program.every_atomic fun _ => ⟨rfl, rfl⟩) ?_
  rintro (isClosed | isOpen)
  · trivial
  · refine Program.Every.bind (Program.Every.zoom ?_
      (Program.every_of_forall (fun _ _ => trivial) operation.run)) ?_
    · exact fun _ _ _ _ => ⟨rfl, rfl⟩
    · exact fun _ => trivial

omit [SerdeJson Value] in
theorem persist (operation : Storage Unit) :
    OnlyPersists (Task.persist faults roomId operation : Task Value Unit) :=
  Program.Every.bind openRoomDb fun _ =>
    Program.Every.bind (onRoom operation) fun _ => trivial

end OnlyPersists

/-! ## Notifications -/

/-- All that a section adds to the notification channel are broadcasts. -/
def Announces (effect : SyncpondKernel Value → SyncpondKernel Value) : Prop :=
  ∀ kernel, ∀ notification ∈ (effect kernel).notifications.items,
    notification ∈ kernel.notifications.items ∨
      ∃ update, notification.content = .broadcast update

omit [SerdeJson Value] in
/-- A section that leaves the channel alone adds nothing else to it. -/
theorem announces_of_same
    {effect : SyncpondKernel Value → SyncpondKernel Value}
    (same : ∀ kernel, (effect kernel).notifications = kernel.notifications) :
    Announces effect := by
  intro kernel notification member
  rw [same kernel] at member
  exact Or.inl member

/-- A program that announces, if it is given the lock as told. -/
structure Lawful {Result : Type} (before after : Bool)
    (task : Task Value Result) : Prop where
  locks : task.Locks before after
  announces : task.Every fun _ effect => Announces effect

namespace Lawful

variable {Result Other : Type} {before middle after : Bool}

omit [SerdeJson Value] in
theorem done (result : Result) :
    Lawful before before (pure result : Task Value Result) where
  locks := Program.locks_pure result
  announces := Program.every_pure result

omit [SerdeJson Value] in
theorem bind {task : Task Value Result} {rest : Result → Task Value Other}
    (front : Lawful before middle task)
    (back : ∀ result, Lawful middle after (rest result)) :
    Lawful before after (task >>= rest) where
  locks := front.locks.bind fun result => (back result).locks
  announces := front.announces.bind fun result => (back result).announces

omit [SerdeJson Value] in
/-- A section that leaves the notification channel alone. -/
theorem atomic {access : Access}
    {action : SyncpondKernel Value → Result × SyncpondKernel Value}
    (allowed : access.allowed before = true)
    (held : access.held before = after)
    (same : ∀ kernel, (action kernel).2.notifications =
      kernel.notifications) :
    Lawful before after (Program.atomic access action) where
  locks := Program.locks_atomic allowed held
  announces := Program.every_atomic (announces_of_same same)

omit [SerdeJson Value] in
/-- A section that only reads the kernel. -/
theorem read {access : Access} {look : SyncpondKernel Value → Result}
    (allowed : access.allowed before = true)
    (held : access.held before = after) :
    Lawful before after (Program.read access look) :=
  atomic allowed held fun _ => rfl

omit [SerdeJson Value] in
theorem openRoomDb (roomId : RoomId) :
    Lawful before before
      (Task.openRoomDb faults roomId : Task Value (Except String Unit)) :=
  atomic rfl rfl fun _ => rfl

omit [SerdeJson Value] in
theorem onRoom {operation : Storage Result} (free : Free operation)
    (roomId : RoomId) :
    Lawful before before
      (Task.onRoom roomId operation :
        Task Value (Option (Except String Result))) := by
  refine bind (read rfl rfl) fun isOpen => ?_
  split
  · refine bind ⟨Program.Every.locks ?_, ?_⟩ fun _ => done _
    · exact Program.Every.zoom (fun access _ isFree => isFree) free
    · exact Program.Every.zoom
        (fun access effect _ => announces_of_same fun kernel => rfl) free
  · exact done none

omit [SerdeJson Value] in
theorem persist {operation : Storage Unit} (free : Free operation)
    (roomId : RoomId) :
    Lawful before before
      (Task.persist faults roomId operation : Task Value Unit) :=
  bind (openRoomDb faults roomId) fun _ =>
    bind (onRoom free roomId) fun _ => done _

omit [SerdeJson Value] in
/-- Giving the lock back ends what was done under it. -/
theorem release : Lawful true false (Task.release : Task Value Unit) :=
  atomic rfl rfl fun _ => rfl

end Lawful

/-! ## Commands -/

omit [SerdeJson Value] in
@[simp]
theorem notifications_labelRoom (roomId : RoomId) (name : String)
    (kernel : SyncpondKernel Value) :
    (kernel.labelRoom roomId name).notifications = kernel.notifications := by
  unfold SyncpondKernel.labelRoom
  split
  · rfl
  · split <;> rfl

omit [SerdeJson Value] in
@[simp]
theorem notifications_mutateRoom (roomId : RoomId)
    (effect : RoomState Value → RoomState Value)
    (kernel : SyncpondKernel Value) :
    (kernel.mutateRoom roomId effect).2.notifications =
      kernel.notifications := by
  unfold SyncpondKernel.mutateRoom
  split
  · rfl
  · split <;> rfl

omit [SerdeJson Value] in
/-- A commit is not announced yet. -/
@[simp]
theorem notifications_commitWrite (roomId : RoomId) (bucketId : BucketId)
    (key : String) (parsed : Value) (kernel : SyncpondKernel Value) :
    (kernel.commitWrite roomId bucketId key parsed).2.notifications =
      kernel.notifications := by
  unfold SyncpondKernel.commitWrite
  split <;> rfl

omit [SerdeJson Value] in
@[simp]
theorem notifications_installRoomData (roomId : RoomId)
    (data : RoomData Value) (kernel : SyncpondKernel Value) :
    (kernel.installRoomData roomId data).2.notifications =
      kernel.notifications := by
  unfold SyncpondKernel.installRoomData
  split <;> rfl

omit [SerdeJson Value] in
@[simp]
theorem notifications_unloadRoom (roomId : RoomId)
    (kernel : SyncpondKernel Value) :
    (kernel.unloadRoom roomId).2.notifications = kernel.notifications := by
  unfold SyncpondKernel.unloadRoom
  split <;> rfl

omit [SerdeJson Value] in
/-- What a write adds to the channel is a broadcast. -/
theorem announces_broadcast (roomId : RoomId) (assigned : Option UInt64)
    (update : DataUpdate Value) :
    Announces (SyncpondKernel.broadcast roomId assigned update) := by
  intro kernel notification member
  rcases Channel.mem_sendOrDrop member with before | rfl
  · exact Or.inl before
  · exact Or.inr ⟨update, rfl⟩

omit [SerdeJson Value] in
/-- A change takes the lock for memory, and keeps it for the database. -/
theorem lawful_mutateAndPersist {operation : Storage Unit}
    (free : Free operation) (roomId : RoomId)
    (effect : RoomState Value → RoomState Value)
    (response : CommandResponse) :
    Lawful false false
      (mutateAndPersist faults roomId effect operation response) := by
  have acquired : Lawful false true
      (Program.atomic .acquire (SyncpondKernel.mutateRoom roomId effect)) :=
    .atomic rfl rfl (notifications_mutateRoom roomId effect)
  refine acquired.bind fun found => ?_
  cases found with
  | unknown => exact .bind .release fun _ => .done _
  | unloaded => exact .bind .release fun _ => .done _
  | changed =>
      exact .bind (.persist faults free roomId) fun _ =>
        .bind .release fun _ => .done _

/-- A write takes the lock for its commit, and again for the version. -/
theorem lawful_handleWriteFragment (roomId : RoomId) (bucketId : BucketId)
    (key : String) (data : FragmentData) :
    Lawful false false
      (handleWriteFragment faults roomId bucketId key data :
        Task Value CommandResponse) := by
  refine .bind (.read rfl rfl) fun loaded => ?_
  split
  · exact .done _
  · refine .bind (.atomic rfl rfl fun _ =>
      notifications_commitWrite _ _ _ _ _) fun assigned => ?_
    refine .bind (.persist faults
      (calls_persistFragment faults _ _ _).free roomId) fun _ => ?_
    refine .bind (.read rfl rfl) fun roomCounter => ?_
    refine .bind ?_ fun _ => .done _
    exact {
      locks := Program.locks_atomic rfl rfl
      announces := Program.every_atomic (announces_broadcast _ _ _) }

/--
Alone, a write to a loaded room is acknowledged, and it announces its value
under the version that the room has after the commit.
-/
theorem run_writeFragment {kernel : SyncpondKernel Value} {roomId : RoomId}
    (bucketId : BucketId) (key : String) (data : FragmentData)
    (isLoaded : kernel.state.isRoomLoaded roomId = true) :
    let parsed : Value := SerdeJson.parsePayload data
    let committed := kernel.commitWrite roomId bucketId key parsed
    ∃ after,
      (handleWriteFragment faults roomId bucketId key data).run kernel =
        (.fragmentWriteResponse, after) ∧
      after.state = committed.2.state ∧
      after.notifications = kernel.notifications.sendOrDrop
        ⟨roomId, committed.1, .broadcast (writeUpdate bucketId key parsed
          (committed.2.readVersion roomId))⟩ := by
  intro parsed committed
  let persist : Task Value Unit := Task.persist faults roomId
    (persistFragment faults (Library.Text.decimal bucketId) key
      (persistedValue parsed))
  let persisted := (persist.run committed.2).2
  have onlyPersists : OnlyPersists persist := .persist _
  have state : persisted.state = committed.2.state :=
    Program.Every.run
      (onlyPersists.mono fun _ _ keeps kernel => (keeps kernel).1) committed.2
  have notifications : persisted.notifications = kernel.notifications :=
    (Program.Every.run
      (onlyPersists.mono fun _ _ keeps kernel => (keeps kernel).2)
      committed.2).trans (notifications_commitWrite _ _ _ _ _)
  have version : persisted.readVersion roomId =
      committed.2.readVersion roomId := by
    rw [SyncpondKernel.readVersion, state, SyncpondKernel.readVersion]
  refine ⟨persisted.broadcast roomId committed.1
    (writeUpdate bucketId key parsed (persisted.readVersion roomId)),
    ?_, state, ?_⟩
  · simp only [handleWriteFragment, Program.run_bind, Program.run_read,
      isLoaded, Bool.not_true, Bool.false_eq_true, if_false]
    rfl
  · rw [version, SyncpondKernel.broadcast, notifications]

/-- A load takes the lock only to install what it read. -/
theorem lawful_handleLoadRoom (roomId : RoomId) :
    Lawful false false
      (handleLoadRoom faults roomId : Task Value CommandResponse) := by
  refine .bind (.openRoomDb faults roomId) fun opened => ?_
  cases opened with
  | error text => exact .done _
  | ok _ =>
      refine .bind (.onRoom (calls_readRoomData faults roomId).free roomId)
        fun loaded => ?_
      rcases loaded with _ | _ | data
      · exact .atomic rfl rfl (notifications_installRoomData roomId _)
      · exact .done _
      · exact .atomic rfl rfl (notifications_installRoomData roomId data)

/-- Every command takes and gives the lock in turn, and only broadcasts. -/
theorem lawful_handleCommand (command : Commands) :
    Lawful false false
      (handleCommand faults command : Task Value CommandResponse) := by
  cases command with
  | newRoom name =>
      exact .bind (.atomic rfl rfl fun _ => rfl) fun roomId =>
        .bind (.openRoomDb faults roomId) fun _ =>
          .bind (.atomic rfl rfl (notifications_labelRoom roomId name))
            fun _ => .done _
  | newBucket roomId bucketId label =>
      exact lawful_mutateAndPersist faults
        (calls_persistBucket Value faults _ _ _ _).free _ _ _
  | deleteBucket roomId bucketId =>
      exact lawful_mutateAndPersist faults
        (calls_removeBucket Value faults _ _).free _ _ _
  | newMember roomId member =>
      exact lawful_mutateAndPersist faults
        (calls_persistMember Value faults _ _).free _ _ _
  | deleteMember roomId member =>
      exact lawful_mutateAndPersist faults
        (calls_removeMember Value faults _ _).free _ _ _
  | writeFragment roomId bucketId key data =>
      exact lawful_handleWriteFragment faults roomId bucketId key data
  | readFragment roomId bucketId key => exact .read rfl rfl
  | loadRoom roomId => exact lawful_handleLoadRoom faults roomId
  | unloadRoom roomId =>
      exact .atomic rfl rfl (notifications_unloadRoom roomId)

/-! ## Commands in progress -/

/-- Every command in progress only broadcasts. -/
def Announcing (pool : Pool (SyncpondKernel Value) CommandResponse) : Prop :=
  ∀ task ∈ pool.tasks,
    task.Every fun _ effect => Announces effect

/-- A command that starts is one that announces. -/
theorem Announcing.spawn
    {pool : Pool (SyncpondKernel Value) CommandResponse}
    (announcing : Announcing pool) (command : Commands) :
    Announcing (pool.spawn (handleCommand faults command)) := by
  intro task member
  rcases List.mem_append.mp member with before | last
  · exact announcing task before
  · rw [List.mem_singleton.mp last]
    exact (lawful_handleCommand faults command).announces

omit [SerdeJson Value] in
/-- The next section of a command adds broadcasts at most. -/
theorem Announcing.advance
    {pool after : Pool (SyncpondKernel Value) CommandResponse} {task : Nat}
    (announcing : Announcing pool) (advanced : pool.advance task = some after) :
    Announcing after ∧
      ∀ notification ∈ after.shared.notifications.items,
        notification ∈ pool.shared.notifications.items ∨
          ∃ update, notification.content = .broadcast update := by
  obtain ⟨⟨access, effect, announces, shared⟩, every⟩ :=
    Pool.every_advance announcing advanced
  exact ⟨every, shared ▸ announces pool.shared⟩

end Syncpond.Sections
