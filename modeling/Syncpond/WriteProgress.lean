import Syncpond.Sections
import Syncpond.WriteTasks

/-!
# Writes in progress

Of all commands, only `WriteFragment` adds to the notification channel, and it
does so once, in its last section.  `Progress` is how far a write is, whatever
failures the storage has: it has not committed, it persists what it committed,
or it is about to announce.  `Advances` says what its next section does in each
of these cases.
-/

namespace Syncpond.WriteProgress

open Syncpond.Protocol
open Syncpond.Serde
open Syncpond.State
open Syncpond.Persistence
open Syncpond.Kernel
open Syncpond.Sections
open Syncpond.WriteTasks
open Syncpond.Library.Maps
open Syncpond.Library.Channels
open Syncpond.Library.Programs
open Syncpond.Library.Text

variable {Value : Type}

/-! ## Commands that announce nothing -/

/-- No section changes the notification channel. -/
def Quiet {Result : Type} (task : Task Value Result) : Prop :=
  task.Every fun _ effect => ∀ kernel,
    (effect kernel).notifications = kernel.notifications

theorem quiet_of_onlyPersists {Result : Type} {task : Task Value Result}
    (persists : OnlyPersists task) : Quiet task :=
  Program.Every.mono (fun _ _ keeps kernel => (keeps kernel).2) persists

theorem quiet_release : Quiet (Task.release : Task Value Unit) :=
  Program.every_atomic fun _ => rfl

section Quiet

variable (faults : Faults) (roomId : RoomId)

theorem quiet_mutateAndPersist
    (effect : RoomState Value → RoomState Value)
    (operation : Storage Unit) (response : CommandResponse) :
    Quiet (mutateAndPersist faults roomId effect operation response) := by
  refine Program.Every.bind
    (Program.every_atomic (notifications_mutateRoom roomId effect)) ?_
  rintro (_ | _ | _)
  · exact Program.Every.bind quiet_release fun _ => trivial
  · exact Program.Every.bind quiet_release fun _ => trivial
  · exact Program.Every.bind (quiet_of_onlyPersists (.persist operation)) fun _ =>
      Program.Every.bind quiet_release fun _ => trivial

variable [SerdeJson Value]

theorem quiet_handleLoadRoom :
    Quiet (handleLoadRoom faults roomId : Task Value CommandResponse) := by
  refine Program.Every.bind (quiet_of_onlyPersists .openRoomDb) ?_
  rintro (text | _)
  · trivial
  · refine Program.Every.bind (quiet_of_onlyPersists (.onRoom _)) ?_
    rintro (_ | _ | data)
    · exact Program.every_atomic (notifications_installRoomData roomId _)
    · trivial
    · exact Program.every_atomic (notifications_installRoomData roomId data)

/-- The command is a `WriteFragment`. -/
def isWrite : Commands → Bool
  | .writeFragment _ _ _ _ => true
  | _ => false

/-- Every other command leaves the notification channel alone. -/
theorem quiet_handleCommand {command : Commands}
    (other : isWrite command = false) :
    Quiet (handleCommand faults command : Task Value CommandResponse) := by
  cases command with
  | newRoom name =>
      exact Program.Every.bind (Program.every_atomic fun _ => rfl)
        fun created => Program.Every.bind (quiet_of_onlyPersists .openRoomDb)
          fun _ => Program.Every.bind
            (Program.every_atomic (notifications_labelRoom created name))
            fun _ => trivial
  | newBucket roomId bucketId label =>
      exact quiet_mutateAndPersist faults roomId _ _ _
  | deleteBucket roomId bucketId =>
      exact quiet_mutateAndPersist faults roomId _ _ _
  | newMember roomId member =>
      exact quiet_mutateAndPersist faults roomId _ _ _
  | deleteMember roomId member =>
      exact quiet_mutateAndPersist faults roomId _ _ _
  | writeFragment roomId bucketId key data => cases other
  | readFragment roomId bucketId key =>
      exact Program.every_atomic fun _ => rfl
  | loadRoom roomId => exact quiet_handleLoadRoom faults roomId
  | unloadRoom roomId =>
      exact Program.every_atomic (notifications_unloadRoom roomId)

end Quiet

variable [SerdeJson Value]

/-! ## Progress of a write -/

/-- The arguments of a `WriteFragment`. -/
structure WriteArgs where
  roomId : RoomId
  bucketId : BucketId
  key : String
  data : FragmentData

/-- How far a `WriteFragment` is. -/
inductive Progress where
  | checking
  | committing
  /-- The state was changed, and the version to announce is not read yet. -/
  | persisting (assigned : Option UInt64)
  | announcing (assigned : Option UInt64) (roomCounter : UInt64)
  | returned

/-- The fragments of a room, and its counter. -/
def fragments (app : AppState Value) (roomId : RoomId) :
    Option (Map BucketId (Map String (FragmentEntry Value)) × UInt64) :=
  app.rooms[roomId]?.map fun room => (room.buckets, room.roomCounter)

omit [SerdeJson Value] in
/-- A commit stores the value under the next version, or leaves the fragments. -/
theorem commitWrite_cases {kernel after : SyncpondKernel Value}
    {roomId : RoomId} {bucketId : BucketId} {key : String} {value : Value}
    {assigned : Option UInt64}
    (committed : kernel.commitWrite roomId bucketId key value =
      (assigned, after)) :
    after.notifications = kernel.notifications ∧
      ((assigned = none ∧ ∀ other,
          fragments after.state other = fragments kernel.state other) ∨
        ∃ room, kernel.state.rooms[roomId]? = some room ∧
          room.ioLocked = false ∧
          assigned = some (room.roomCounter + 1) ∧
          after.state = { kernel.state with
            rooms := kernel.state.rooms.insert roomId
              (room.store bucketId key value) }) := by
  simp only [SyncpondKernel.commitWrite, AppState.setFragment,
    AppState.withRoom] at committed
  cases present : kernel.state.rooms[roomId]? with
  | none =>
      simp only [present] at committed
      cases committed
      exact ⟨rfl, Or.inl ⟨rfl, fun _ => rfl⟩⟩
  | some room =>
      cases written : room.setFragment bucketId key value with
      | error error =>
          simp only [present, written, Except.map] at committed
          cases committed
          exact ⟨rfl, Or.inl ⟨rfl, fun _ => rfl⟩⟩
      | ok changed =>
          simp only [present, written, Except.map] at committed
          cases committed
          refine ⟨rfl, ?_⟩
          unfold RoomState.setFragment at written
          split at written
          · cases written
          next unlocked =>
          split at written
          · cases written
          split at written
          · next buffer isOpen =>
            cases written
            refine Or.inl ⟨by simp [SyncpondKernel.assignedVersion], ?_⟩
            intro other
            simp only [fragments, lookup_insert]
            split
            · next same =>
              subst same
              rw [present]
              rfl
            · rfl
          · next noTransaction =>
            cases written
            refine Or.inr ⟨room, rfl, by simpa using unlocked, ?_, rfl⟩
            simp [SyncpondKernel.assignedVersion, RoomState.store,
              noTransaction, getNested_insertNested]

/-- What a room stores under a key, tombstones included. -/
def storedEntry (app : AppState Value) (roomId : RoomId)
    (bucketId : BucketId) (key : String) : Option (FragmentEntry Value) :=
  app.rooms[roomId]?.bind fun room => getNested room.buckets bucketId key

omit [SerdeJson Value] in
theorem storedEntry_eq (app : AppState Value) (roomId : RoomId)
    (bucketId : BucketId) (key : String) :
    storedEntry app roomId bucketId key =
      (fragments app roomId).bind fun found =>
        getNested found.1 bucketId key := by
  simp [storedEntry, fragments, Option.bind_map]

omit [SerdeJson Value] in
/-- A commit stores the value under a version that the room has then. -/
theorem storedEntry_commitWrite {kernel after : SyncpondKernel Value}
    {roomId : RoomId} {bucketId : BucketId} {key : String} {value : Value}
    {assigned : Option UInt64}
    (committed : kernel.commitWrite roomId bucketId key value =
      (assigned, after)) (otherBucket : BucketId) (otherKey : String) :
    storedEntry after.state roomId otherBucket otherKey =
        storedEntry kernel.state roomId otherBucket otherKey ∨
      ∃ version, assigned = some version ∧
        bucketId = otherBucket ∧ key = otherKey ∧
        storedEntry after.state roomId otherBucket otherKey =
          some ⟨value, version⟩ := by
  rcases (commitWrite_cases committed).2 with
    ⟨_, same⟩ | ⟨room, present, _, rfl, state⟩
  · exact Or.inl (by rw [storedEntry_eq, storedEntry_eq, same])
  · have stored : storedEntry after.state roomId otherBucket otherKey =
        if bucketId = otherBucket ∧ key = otherKey then
          some ⟨value, room.roomCounter + 1⟩
        else getNested room.buckets otherBucket otherKey := by
      simp [storedEntry, state, RoomState.store, getNested_insertNested]
    rw [stored]
    split
    · next same => exact Or.inr ⟨_, rfl, same.1, same.2, rfl⟩
    · exact Or.inl (by simp [storedEntry, present])

omit [SerdeJson Value] in
theorem readVersion_commitWrite {kernel after : SyncpondKernel Value}
    {roomId : RoomId} {bucketId : BucketId} {key : String} {value : Value}
    {version : UInt64}
    (committed : kernel.commitWrite roomId bucketId key value =
      (some version, after)) : after.readVersion roomId = version := by
  rcases (commitWrite_cases committed).2 with
    ⟨absurd, _⟩ | ⟨room, present, unlocked, assigned, state⟩
  · cases absurd
  · cases assigned
    simp [SyncpondKernel.readVersion, AppState.roomVersion,
      AppState.readRoom, state, RoomState.version, RoomState.store, unlocked]

omit [SerdeJson Value] in
/-- An announcement that finds room is the last notification. -/
theorem items_broadcast {kernel : SyncpondKernel Value} (roomId : RoomId)
    (assigned : Option UInt64) (update : DataUpdate Value)
    (room : kernel.notifications.items.length < notificationCapacity) :
    (kernel.broadcast roomId assigned update).notifications.items =
      kernel.notifications.items ++ [⟨roomId, assigned, .broadcast update⟩] :=
  Channel.items_sendOrDrop_of_lt room

/-- Alone, a write to a loaded room announces an update of its bucket. -/
theorem notifications_run_writeFragment (faults : Faults)
    {kernel : SyncpondKernel Value} {roomId : RoomId} (bucketId : BucketId)
    (key : String) (data : FragmentData)
    (loaded : kernel.state.isRoomLoaded roomId = true) :
    ∃ assigned roomCounter,
      ((handleWriteFragment faults roomId bucketId key data).run
          kernel).2.notifications =
        kernel.notifications.sendOrDrop
          ⟨roomId, assigned, .broadcast (writeUpdate bucketId key
            (SerdeJson.parsePayload data) roomCounter)⟩ := by
  obtain ⟨after, ran, _, announced⟩ :=
    run_writeFragment faults bucketId key data loaded
  rw [ran]
  exact ⟨_, _, announced⟩

namespace WriteArgs

variable (faults : Faults) (write : WriteArgs)

def command : Commands :=
  .writeFragment write.roomId write.bucketId write.key write.data

/-- The value that the write stores. -/
def parsed (Value : Type) [SerdeJson Value] (write : WriteArgs) : Value :=
  SerdeJson.parsePayload write.data

/-- What the write announces. -/
def update (Value : Type) [SerdeJson Value] (write : WriteArgs)
    (roomCounter : UInt64) : DataUpdate Value :=
  writeUpdate write.bucketId write.key (write.parsed Value) roomCounter

/-- The last section of a write. -/
def fromAnnounce (assigned : Option UInt64) (roomCounter : UInt64) :
    Task Value CommandResponse := do
  Program.modify .free
    (SyncpondKernel.broadcast write.roomId assigned
      (write.update Value roomCounter))
  return .fragmentWriteResponse

/-- What follows after the write was persisted. -/
def fromReadVersion (assigned : Option UInt64) :
    Task Value CommandResponse := do
  let roomCounter ← Program.read .locked
    (SyncpondKernel.readVersion write.roomId)
  write.fromAnnounce assigned roomCounter

/-- What follows after the room was found loaded. -/
def fromCommit : Task Value CommandResponse := do
  let assigned ← Program.atomic .locked
    (SyncpondKernel.commitWrite write.roomId write.bucketId write.key
      (write.parsed Value))
  Task.persist faults write.roomId
    (persistFragment faults (decimal write.bucketId) write.key
      (persistedValue (write.parsed Value)))
  write.fromReadVersion assigned

/-- The program that a write still has to execute. -/
def Remains : Progress → Task Value CommandResponse → Prop
  | .checking, program => program = handleCommand faults write.command
  | .committing, program => program = write.fromCommit faults
  | .persisting assigned, program =>
      ∃ rest : Task Value Unit, OnlyPersists rest ∧
        program = rest >>= fun _ => write.fromReadVersion assigned
  | .announcing assigned roomCounter, program =>
      program = write.fromAnnounce assigned roomCounter
  | .returned, program => ∃ response, program = .done response

/-- What the next section of a write does. -/
inductive Advances (kernel : SyncpondKernel Value) :
    Progress → Progress → SyncpondKernel Value → Prop
  | check (loaded : kernel.state.isRoomLoaded write.roomId = true) :
      Advances kernel .checking .committing kernel
  | reject : Advances kernel .checking .returned kernel
  | commit (assigned : Option UInt64) (after : SyncpondKernel Value)
      (committed : kernel.commitWrite write.roomId write.bucketId write.key
        (write.parsed Value) = (assigned, after)) :
      Advances kernel .committing (.persisting assigned) after
  | persist (assigned : Option UInt64) (after : SyncpondKernel Value)
      (state : after.state = kernel.state)
      (notifications : after.notifications = kernel.notifications) :
      Advances kernel (.persisting assigned) (.persisting assigned) after
  | readVersion (assigned : Option UInt64) :
      Advances kernel (.persisting assigned)
        (.announcing assigned (kernel.readVersion write.roomId)) kernel
  | announce (assigned : Option UInt64) (roomCounter : UInt64) :
      Advances kernel (.announcing assigned roomCounter) .returned
        (kernel.broadcast write.roomId assigned
          (write.update Value roomCounter))

variable {faults write}

/-- A write adds to the notification channel only when it announces. -/
theorem Advances.notifications {kernel after : SyncpondKernel Value}
    {progress later : Progress}
    (advances : write.Advances kernel progress later after) :
    after.notifications = kernel.notifications ∨
      ∃ assigned roomCounter, progress = .announcing assigned roomCounter ∧
        after = kernel.broadcast write.roomId assigned
          (write.update Value roomCounter) := by
  cases advances with
  | commit _ _ committed => exact Or.inl (commitWrite_cases committed).1
  | persist _ _ _ notifications => exact Or.inl notifications
  | announce assigned roomCounter =>
      exact Or.inr ⟨assigned, roomCounter, rfl, rfl⟩
  | _ => exact Or.inl rfl

/-- A write that returned has nothing left to do. -/
theorem Remains.returned {progress : Progress} {response : CommandResponse}
    (remains :
      write.Remains faults progress (.done response : Task Value _)) :
    progress = .returned := by
  cases progress with
  | checking => cases remains
  | committing => cases remains
  | persisting assigned =>
      obtain ⟨rest, _, equal⟩ := remains
      cases rest <;> cases equal
  | announcing assigned roomCounter => cases remains
  | returned => rfl

/-- A write executes its next section. -/
theorem Remains.advance {progress : Progress} {access : Access}
    {effect : SyncpondKernel Value → SyncpondKernel Value}
    {next : SyncpondKernel Value → Task Value CommandResponse}
    (remains : write.Remains faults progress (.step access effect next))
    (kernel : SyncpondKernel Value) :
    ∃ later, write.Remains faults later (next kernel) ∧
      write.Advances kernel progress later (effect kernel) := by
  cases progress with
  | checking =>
      have equal : Program.step access effect next =
          Program.step .locked (fun kernel => kernel) fun kernel =>
            if !kernel.state.isRoomLoaded write.roomId then
              Program.done roomNotLoaded
            else write.fromCommit faults :=
        remains
      cases equal
      cases loaded : kernel.state.isRoomLoaded write.roomId with
      | true => exact ⟨.committing, by simp [Remains, loaded], .check loaded⟩
      | false => exact ⟨.returned, ⟨roomNotLoaded, by simp [loaded]⟩, .reject⟩
  | committing =>
      cases remains
      exact ⟨.persisting _, ⟨_, OnlyPersists.persist _, rfl⟩,
        .commit _ _ rfl⟩
  | persisting assigned =>
      obtain ⟨rest, persists, equal⟩ := remains
      cases rest with
      | done result =>
          cases equal
          exact ⟨.announcing assigned (kernel.readVersion write.roomId),
            rfl, .readVersion assigned⟩
      | step access effect rest =>
          cases equal
          exact ⟨.persisting assigned, ⟨rest kernel, persists.2 kernel, rfl⟩,
            .persist assigned _ (persists.1 kernel).1 (persists.1 kernel).2⟩
  | announcing assigned roomCounter =>
      cases remains
      exact ⟨.returned, ⟨_, rfl⟩, .announce assigned roomCounter⟩
  | returned =>
      obtain ⟨response, equal⟩ := remains
      cases equal

end WriteArgs

end Syncpond.WriteProgress
