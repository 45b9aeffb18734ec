import Syncpond.Lifetimes
import Syncpond.WriteProgress

/-!
# The version of a room over time

A write increments the counter of its room and announces the counter that it
reads later; loads and unloads keep the counter.  A restart begins again at
zero, because the counter is not persisted.

`Paced` is the invariant between the resets: everything announced is at most
the version of the room, and a write that committed will announce more than
everything announced before it.
-/

namespace Syncpond.Versions

open Syncpond.Protocol
open Syncpond.Serde
open Syncpond.State
open Syncpond.Persistence
open Syncpond.Kernel
open Syncpond.Sections
open Syncpond.Folders
open Syncpond.StateRuns
open Syncpond.Lifetimes
open Syncpond.WriteTasks
open Syncpond.WriteProgress
open Syncpond.Library.Maps
open Syncpond.Library.Channels
open Syncpond.Library.Programs
open Syncpond.Library.Runs

variable {Value : Type}

/-! ## Clocks -/

/-- What decides the version of a room and how a write commits. -/
def clock (room : RoomState Value) : UInt64 × Bool × Bool :=
  (room.roomCounter, room.ioLocked, room.txBuffer.isSome)

def clockAt (app : AppState Value) (roomId : RoomId) :
    Option (UInt64 × Bool × Bool) :=
  app.rooms[roomId]?.map clock

/-- A room is neither locked nor in a transaction. -/
def Unlocked (app : AppState Value) (roomId : RoomId) : Prop :=
  ∀ room, app.rooms[roomId]? = some room →
    room.ioLocked = false ∧ room.txBuffer = none

section Clock

variable {app after : AppState Value} {roomId : RoomId}

theorem clockAt_insert {changed : RoomId} {room : RoomState Value}
    (rooms : after.rooms = app.rooms.insert changed room)
    (same : changed = roomId → some (clock room) = clockAt app roomId) :
    clockAt after roomId = clockAt app roomId := by
  simp only [clockAt, rooms, lookup_insert]
  split
  · next equal => exact same equal
  · rfl

/-- A mutation that keeps the clock of its room. -/
theorem clockAt_withRoom {changed : RoomId}
    {mutate : RoomState Value → Except StateError (RoomState Value)}
    (result : app.withRoom changed mutate = .ok after)
    (keeps : ∀ room later, mutate room = .ok later →
      clock later = clock room) :
    clockAt after roomId = clockAt app roomId := by
  obtain ⟨room, later, present, mutated, rfl⟩ := withRoom_ok result
  refine clockAt_insert rfl ?_
  rintro rfl
  rw [clockAt, present, keeps room later mutated]
  rfl

/-- A mutation of another room. -/
theorem clockAt_withRoom_ne {changed : RoomId} (other : changed ≠ roomId)
    {mutate : RoomState Value → Except StateError (RoomState Value)}
    (result : app.withRoom changed mutate = .ok after) :
    clockAt after roomId = clockAt app roomId := by
  obtain ⟨room, later, _, _, rfl⟩ := withRoom_ok result
  exact clockAt_insert rfl fun same => absurd same other

theorem Unlocked.congr (unlocked : Unlocked app roomId)
    (same : clockAt after roomId = clockAt app roomId) :
    Unlocked after roomId := by
  intro room present
  rw [clockAt, clockAt, present] at same
  cases found : app.rooms[roomId]? with
  | none => simp [found] at same
  | some before =>
      rw [found] at same
      obtain ⟨isFree, noBuffer⟩ := unlocked before found
      simp only [Option.map_some, clock, Option.some.injEq,
        Prod.mk.injEq, isFree, noBuffer, Option.isSome_none] at same
      exact ⟨same.2.1, by simpa using same.2.2⟩

end Clock

/-- The version of a room, `0` for a room that is not registered. -/
theorem readVersion_congr {kernel after : SyncpondKernel Value}
    {roomId : RoomId}
    (same : clockAt after.state roomId = clockAt kernel.state roomId) :
    after.readVersion roomId = kernel.readVersion roomId := by
  have version (kernel : SyncpondKernel Value) :
      kernel.readVersion roomId =
        ((clockAt kernel.state roomId).elim 0 fun found =>
          if found.2.1 then 0 else found.1) := by
    unfold SyncpondKernel.readVersion AppState.roomVersion AppState.readRoom
      clockAt RoomState.version
    cases kernel.state.rooms[roomId]? with
    | none => rfl
    | some room =>
        cases locked : room.ioLocked <;> simp [clock, locked]
  rw [version, version, same]

/-! ## Sections that keep the clock -/

/-- No section changes the clock of a room. -/
def Steady {Result : Type} (roomId : RoomId) (task : Task Value Result) :
    Prop :=
  task.Every fun _ effect => ∀ kernel,
    clockAt (effect kernel).state roomId = clockAt kernel.state roomId

section Steady

variable {roomId : RoomId}

theorem steady_of_onlyPersists {Result : Type} {task : Task Value Result}
    (persists : OnlyPersists task) : Steady roomId task :=
  Program.Every.mono
    (fun _ _ keeps kernel => by rw [(keeps kernel).1]) persists

theorem steady_release :
    Steady roomId (Task.release : Task Value Unit) :=
  Program.every_atomic fun _ => rfl

theorem clock_newMember (member : String) (room : RoomState Value) :
    clock (RoomEffect.newMember member room) = clock room := by
  unfold RoomEffect.newMember
  split <;> rfl

theorem clock_loadData (room : RoomState Value)
    (bucketDefs : List (BucketId × Option String × UInt32))
    (members : FinSet String)
    (fragments : Map BucketId (Map String Value)) :
    clock (room.loadData bucketDefs members fragments) = clock room := by
  have installed (start : RoomState Value) :
      clock (bucketDefs.foldl (RoomState.installBucket fragments) start) =
        clock start := by
    induction bucketDefs generalizing start with
    | nil => rfl
    | cons definition rest ih => exact ih _
  exact installed _

theorem clockAt_mutateRoom (changed : RoomId)
    {effect : RoomState Value → RoomState Value}
    (keeps : ∀ room, clock (effect room) = clock room)
    (kernel : SyncpondKernel Value) :
    clockAt (kernel.mutateRoom changed effect).2.state roomId =
      clockAt kernel.state roomId := by
  unfold SyncpondKernel.mutateRoom
  split
  · rfl
  · next room present =>
    split
    · rfl
    · refine clockAt_insert rfl ?_
      rintro rfl
      rw [clockAt, present, keeps]
      rfl

theorem clockAt_unloadRoom (changed : RoomId)
    (kernel : SyncpondKernel Value) :
    clockAt (kernel.unloadRoom changed).2.state roomId =
      clockAt kernel.state roomId := by
  unfold SyncpondKernel.unloadRoom
  split
  · next app result =>
    refine clockAt_withRoom result ?_
    rintro room _ ⟨⟩
    rfl
  · rfl

theorem steady_mutateAndPersist {faults : Faults} (changed : RoomId)
    {effect : RoomState Value → RoomState Value}
    (keeps : ∀ room, clock (effect room) = clock room)
    (operation : Storage Unit) (response : CommandResponse) :
    Steady roomId
      (mutateAndPersist faults changed effect operation response) := by
  refine Program.Every.bind
    (Program.every_atomic (clockAt_mutateRoom changed keeps)) ?_
  rintro (_ | _ | _)
  · exact Program.Every.bind steady_release fun _ => trivial
  · exact Program.Every.bind steady_release fun _ => trivial
  · exact Program.Every.bind (steady_of_onlyPersists (.persist operation))
      fun _ => Program.Every.bind steady_release fun _ => trivial

theorem clockAt_installRoomData (changed : RoomId) (data : RoomData Value)
    (kernel : SyncpondKernel Value) :
    clockAt (kernel.installRoomData changed data).2.state roomId =
      clockAt kernel.state roomId := by
  unfold SyncpondKernel.installRoomData
  split
  · next app result =>
    refine clockAt_withRoom result ?_
    rintro room _ ⟨⟩
    exact clock_loadData room _ _ _
  · rfl

theorem clockAt_labelRoom (labelled : RoomId) (name : String)
    (kernel : SyncpondKernel Value) :
    clockAt (kernel.labelRoom labelled name).state roomId =
      clockAt kernel.state roomId := by
  unfold SyncpondKernel.labelRoom
  split
  · rfl
  · split
    · next app result =>
      have same := rooms_setRoomLabel kernel.state labelled name
      rw [result] at same
      rw [clockAt, clockAt]
      exact congrArg (fun rooms => rooms[roomId]?.map clock) same
    · rfl

theorem steady_afterCreate (faults : Faults) (name : String)
    (created : RoomId) :
    Steady roomId (afterCreate faults name created :
      Task Value CommandResponse) := by
  refine Program.Every.bind (steady_of_onlyPersists .openRoomDb) fun _ => ?_
  exact Program.Every.bind
    (Program.every_atomic (clockAt_labelRoom created name)) fun _ => trivial

theorem quiet_afterCreate (faults : Faults) (name : String)
    (created : RoomId) :
    Quiet (afterCreate faults name created : Task Value CommandResponse) := by
  refine Program.Every.bind (quiet_of_onlyPersists .openRoomDb) fun _ => ?_
  exact Program.Every.bind
    (Program.every_atomic (notifications_labelRoom created name))
    fun _ => trivial

variable [SerdeJson Value]

/-- All commands but `NewRoom` and `WriteFragment` keep the clock. -/
theorem steady_handleCommand (faults : Faults) {command : Commands}
    (notNew : ∀ name, command ≠ .newRoom name)
    (notWrite : isWrite command = false) :
    Steady roomId
      (handleCommand faults command : Task Value CommandResponse) := by
  cases command with
  | newRoom name => exact absurd rfl (notNew name)
  | newBucket changed bucketId label =>
      refine steady_mutateAndPersist changed ?_ _ _
      exact fun _ => rfl
  | deleteBucket changed bucketId =>
      refine steady_mutateAndPersist changed ?_ _ _
      exact fun _ => rfl
  | newMember changed member =>
      exact steady_mutateAndPersist changed (clock_newMember _) _ _
  | deleteMember changed member =>
      refine steady_mutateAndPersist changed ?_ _ _
      exact fun _ => rfl
  | writeFragment changed bucketId key data => cases notWrite
  | readFragment changed bucketId key =>
      exact Program.every_atomic fun _ => rfl
  | loadRoom changed =>
      refine Program.Every.bind (steady_of_onlyPersists .openRoomDb) ?_
      rintro (text | _)
      · trivial
      · refine Program.Every.bind (steady_of_onlyPersists (.onRoom _)) ?_
        rintro (_ | _ | data)
        · exact Program.every_atomic (clockAt_installRoomData changed _)
        · trivial
        · exact Program.every_atomic (clockAt_installRoomData changed data)
  | unloadRoom changed =>
      exact Program.every_atomic (clockAt_unloadRoom changed)

end Steady

variable [SerdeJson Value]

/-! ## Runs that keep the version -/

/-- The counter that a committed write to the room announces, if next. -/
inductive Pending (life : Lifetime Value) (roomId : RoomId) (task : Nat) :
    UInt64 → Prop
  | unread (faults : Faults) (write : WriteArgs) (assigned : Option UInt64)
      (program : Task Value CommandResponse)
      (isTask : life.pool.tasks[task]? = some program)
      (remains : write.Remains faults (.persisting assigned) program)
      (sameRoom : write.roomId = roomId) :
      Pending life roomId task (life.version roomId)
  | read (write : WriteArgs) (assigned : Option UInt64)
      (roomCounter : UInt64)
      (isTask : life.pool.tasks[task]? =
        some (write.fromAnnounce assigned roomCounter))
      (sameRoom : write.roomId = roomId) :
      Pending life roomId task roomCounter

/-- The room is loaded, and its version can be incremented. -/
def CanCommit (app : AppState Value) (roomId : RoomId) : Prop :=
  ∃ room, app.rooms[roomId]? = some room ∧ room.loaded = true ∧
    room.roomCounter.toNat + 1 < UInt64.size

/-- The version of a room stays what was announced, and writes take turns. -/
structure TakesTurn (roomId : RoomId) (life : Lifetime Value) (task : Nat) :
    Prop where
  create : Creating life task → life.kernel.state.nextRoomId = roomId →
    life.version roomId = 0
  commit : ∀ (faults : Faults) (write : WriteArgs),
    life.pool.tasks[task]? = some (write.fromCommit faults) →
      write.roomId = roomId → CanCommit life.kernel.state roomId
  announce : ∀ (write : WriteArgs) (assigned : Option UInt64)
    (roomCounter : UInt64),
    life.pool.tasks[task]? =
        some (write.fromAnnounce assigned roomCounter) →
      write.roomId = roomId → ∀ other later, other ≠ task →
        Pending life roomId other later → roomCounter < later

/--
A room with versions is neither deleted, nor created again, nor forgotten in a
restart; a commit finds it loaded; and an announcement comes before those of
larger counters.
-/
def KeepsVersion (roomId : RoomId) (life : Lifetime Value) :
    LifetimeEvent → Prop
  | .advance task => TakesTurn roomId life task
  | .deleteRoom deletedRoom => deletedRoom ≠ roomId
  | .restart _ => life.version roomId = 0
  | _ => True

/-! ## Commands in progress -/

/-- What is announced later exceeds what was announced before. -/
def Ahead (announced : List UInt64) (version : UInt64) : Progress → Prop
  | .persisting _ => ∀ counter ∈ announced, counter < version
  | .announcing _ roomCounter =>
      roomCounter ≤ version ∧ ∀ counter ∈ announced, counter < roomCounter
  | _ => True

/-- What is left of a command. -/
inductive Stage (roomId : RoomId) (announced : List UInt64)
    (version : UInt64) : Task Value CommandResponse → Prop
  | steady {program : Task Value CommandResponse}
      (steady : Steady roomId program) (quiet : Quiet program) :
      Stage roomId announced version program
  | creating (faults : Faults) (name : String) :
      Stage roomId announced version (handleNewRoom faults name)
  | writing {program : Task Value CommandResponse} (faults : Faults)
      (write : WriteArgs) (progress : Progress)
      (remains : write.Remains faults progress program)
      (ahead : write.roomId = roomId → Ahead announced version progress) :
      Stage roomId announced version program

theorem stage_handleCommand (roomId : RoomId) (announced : List UInt64)
    (version : UInt64) (faults : Faults) (command : Commands) :
    Stage roomId announced version
      (handleCommand faults command : Task Value CommandResponse) := by
  cases isWriting : isWrite command with
  | false =>
      cases command with
      | newRoom name => exact .creating faults name
      | writeFragment => cases isWriting
      | _ =>
          exact .steady (steady_handleCommand faults (by simp) isWriting)
            (quiet_handleCommand faults isWriting)
  | true =>
      cases command with
      | writeFragment changed bucketId key data =>
          exact .writing faults ⟨changed, bucketId, key, data⟩ .checking rfl
            fun _ => trivial
      | _ => cases isWriting

/-- A larger version leaves what is left of a command ahead. -/
theorem Stage.mono {roomId : RoomId} {announced : List UInt64}
    {version later : UInt64} {program : Task Value CommandResponse}
    (stage : Stage roomId announced version program)
    (grown : version ≤ later) : Stage roomId announced later program := by
  cases stage with
  | steady steady quiet => exact .steady steady quiet
  | creating faults name => exact .creating faults name
  | writing faults write progress remains ahead =>
      refine .writing faults write progress remains fun sameRoom => ?_
      have isAhead := ahead sameRoom
      cases progress with
      | persisting assigned =>
          exact fun counter member =>
            UInt64.lt_of_lt_of_le (isAhead counter member) grown
      | announcing assigned roomCounter =>
          exact ⟨UInt64.le_trans isAhead.1 grown, isAhead.2⟩
      | _ => trivial

/-- The invariant: what was announced is in the past of the room. -/
structure Paced (roomId : RoomId) (life : Lifetime Value) : Prop where
  unlocked : Unlocked life.kernel.state roomId
  increasing : (life.announced roomId).Pairwise (· < ·)
  past : ∀ counter ∈ life.announced roomId, counter ≤ life.version roomId
  stages : ∀ program ∈ life.pool.tasks,
    Stage roomId (life.announced roomId) (life.version roomId) program

/-- The counters that are announced between two kernels. -/
def news (roomId : RoomId) (kernel after : SyncpondKernel Value) :
    List UInt64 :=
  (after.notifications.items.drop
    kernel.notifications.items.length).filterMap (announcedCounter roomId)

omit [SerdeJson Value] in
theorem news_of_same {roomId : RoomId} {kernel after : SyncpondKernel Value}
    (same : after.notifications = kernel.notifications) :
    news roomId kernel after = [] := by
  simp [news, same]

omit [SerdeJson Value] in
theorem news_broadcast (roomId origin : RoomId) (assigned : Option UInt64)
    (update : DataUpdate Value) (kernel : SyncpondKernel Value) :
    news roomId kernel (kernel.broadcast origin assigned update) = [] ∨
      origin = roomId ∧
        news roomId kernel (kernel.broadcast origin assigned update) =
          [update.bucketCounter] := by
  unfold news SyncpondKernel.broadcast
  dsimp only
  rcases Channel.items_sendOrDrop kernel.notifications
    ⟨origin, assigned, .broadcast update⟩ with same | added
  · exact Or.inl (by rw [same, List.drop_length, List.filterMap_nil])
  · rw [added, List.drop_left]
    by_cases sameRoom : origin = roomId
    · exact Or.inr ⟨sameRoom, by simp [announcedCounter, sameRoom]⟩
    · exact Or.inl (by simp [announcedCounter, sameRoom])

/-- What the next section of a command in progress does. -/
inductive Proceeds (roomId : RoomId) (life : Lifetime Value) (task : Nat)
    (after : SyncpondKernel Value) (rest : Task Value CommandResponse) : Prop
  | silent (unlocked : Unlocked after.state roomId)
      (version : life.version roomId ≤ after.readVersion roomId)
      (noNews : news roomId life.kernel after = [])
      (stage : Stage roomId (life.announced roomId)
        (after.readVersion roomId) rest)
  | announces (roomCounter : UInt64) (state : after.state = life.kernel.state)
      (isNews : news roomId life.kernel after = [roomCounter])
      (past : roomCounter ≤ life.version roomId)
      (newest : ∀ counter ∈ life.announced roomId, counter < roomCounter)
      (turn : ∀ other later, other ≠ task →
        Pending life roomId other later → roomCounter < later)
      (returned : ∃ response, rest = .done response)

section Advance

variable {roomId : RoomId} {life : Lifetime Value}
variable (paced : Paced roomId life)

include paced

/-- A section that keeps the clock and announces nothing. -/
theorem Proceeds.of_steady {task : Nat} {after : SyncpondKernel Value}
    {rest : Task Value CommandResponse}
    (same : clockAt after.state roomId = clockAt life.kernel.state roomId)
    (notifications : after.notifications = life.kernel.notifications)
    (stage : Stage roomId (life.announced roomId) (life.version roomId)
      rest) : Proceeds roomId life task after rest := by
  have version := readVersion_congr same
  refine .silent (paced.unlocked.congr same) ?_ (news_of_same notifications) ?_
  · rw [version]
    exact UInt64.le_refl _
  · rw [version]
    exact stage

/-- The creation of a room that has no versions. -/
theorem Proceeds.of_create {task : Nat} (faults : Faults) (name : String)
    (isTask : life.pool.tasks[task]? = some (handleNewRoom faults name))
    (turn : TakesTurn roomId life task) :
    Proceeds roomId life task life.kernel.createRoom.2
      (afterCreate faults name life.kernel.state.nextRoomId) := by
  have stage (version : UInt64) :
      Stage roomId (life.announced roomId) version
        (afterCreate faults name life.kernel.state.nextRoomId :
          Task Value CommandResponse) :=
    .steady (steady_afterCreate faults name _) (quiet_afterCreate faults name _)
  by_cases isRoom : life.kernel.state.nextRoomId = roomId
  · have created : life.kernel.createRoom.2.state.rooms[roomId]? =
        some (.fresh true) := by
      simp [SyncpondKernel.createRoom, AppState.createRoom, isRoom]
    refine .silent ?_ ?_ (news_of_same rfl) (stage _)
    · intro room present
      cases created.symm.trans present
      exact ⟨rfl, rfl⟩
    · rw [turn.create ⟨faults, name, isTask⟩ isRoom]
      exact UInt64.le_iff_toNat_le.mpr (Nat.zero_le _)
  · refine .of_steady paced ?_ rfl (stage _)
    exact clockAt_insert rfl fun same => absurd same isRoom

/-- A write to the room commits. -/
theorem Proceeds.of_commit {task : Nat} {faults : Faults} {write : WriteArgs}
    {assigned : Option UInt64} {after : SyncpondKernel Value}
    {rest : Task Value CommandResponse}
    (isTask : life.pool.tasks[task]? = some (write.fromCommit faults))
    (turn : TakesTurn roomId life task)
    (committed : life.kernel.commitWrite write.roomId write.bucketId
      write.key (write.parsed Value) = (assigned, after))
    (remains : write.Remains faults (.persisting assigned) rest) :
    Proceeds roomId life task after rest := by
  by_cases sameRoom : write.roomId = roomId
  · obtain ⟨room, present, loaded, fits⟩ := turn.commit _ write isTask sameRoom
    obtain ⟨isFree, noBuffer⟩ := paced.unlocked room present
    subst sameRoom
    rw [commitWrite_eq present isFree loaded noBuffer] at committed
    cases committed
    have newer : life.version write.roomId < room.roomCounter + 1 := by
      have version : life.version write.roomId = room.roomCounter := by
        simp [Lifetime.version, SyncpondKernel.readVersion,
          AppState.roomVersion, AppState.readRoom, present,
          RoomState.version, isFree]
      rw [version]
      exact lt_succ fits
    have version : SyncpondKernel.readVersion write.roomId
        { life.kernel with
          state := { life.kernel.state with
            rooms := life.kernel.state.rooms.insert write.roomId
              (room.store write.bucketId write.key (write.parsed Value)) } } =
        room.roomCounter + 1 := by
      simp [SyncpondKernel.readVersion, AppState.roomVersion,
        AppState.readRoom, RoomState.version, RoomState.store, isFree]
    refine .silent ?_ ?_ (news_of_same rfl) ?_
    · intro later found
      simp only [lookup_insert, if_true] at found
      cases found
      exact ⟨isFree, noBuffer⟩
    · rw [version]
      exact UInt64.le_of_lt newer
    · rw [version]
      refine .writing faults write _ remains fun _ counter member => ?_
      exact UInt64.lt_of_le_of_lt (paced.past counter member) newer
  · have notifications := (commitWrite_cases committed).1
    refine .of_steady paced ?_ notifications
      (.writing faults write _ remains fun same => absurd same sameRoom)
    unfold SyncpondKernel.commitWrite at committed
    split at committed
    · next app result =>
      cases committed
      exact clockAt_withRoom_ne sameRoom result
    · cases committed
      rfl

/-- A command in progress executes its next section. -/
theorem Stage.proceeds {task : Nat} {access : Access}
    {effect : SyncpondKernel Value → SyncpondKernel Value}
    {next : SyncpondKernel Value → Task Value CommandResponse}
    (isTask : life.pool.tasks[task]? = some (.step access effect next))
    (turn : TakesTurn roomId life task) :
    Proceeds roomId life task (effect life.kernel) (next life.kernel) := by
  have stage := paced.stages _ (List.mem_of_getElem? isTask)
  generalize isProgram : Program.step access effect next = program at stage
  cases stage with
  | steady steady quiet =>
      subst isProgram
      exact .of_steady paced (steady.1 _) (quiet.1 _)
        (.steady (steady.2 _) (quiet.2 _))
  | creating faults name =>
      rw [isProgram] at isTask
      cases isProgram
      exact .of_create paced faults name isTask turn
  | writing faults write progress remains ahead =>
      subst isProgram
      obtain ⟨later, remainsNext, advances⟩ := remains.advance life.kernel
      generalize isAfter : effect life.kernel = after at advances
      cases advances with
      | check loaded =>
          exact .of_steady paced rfl rfl
            (.writing faults write _ remainsNext fun _ => trivial)
      | reject =>
          exact .of_steady paced rfl rfl
            (.writing faults write _ remainsNext fun _ => trivial)
      | commit assigned after committed =>
          have isCommit := remains
          rw [isCommit] at isTask
          exact .of_commit paced isTask turn committed remainsNext
      | persist assigned after state notifications =>
          exact .of_steady paced (by rw [state]) notifications
            (.writing faults write _ remainsNext ahead)
      | readVersion assigned =>
          refine .of_steady paced rfl rfl
            (.writing faults write _ remainsNext fun sameRoom => ?_)
          rw [sameRoom]
          exact ⟨UInt64.le_refl _, ahead sameRoom⟩
      | announce assigned roomCounter =>
          rcases news_broadcast roomId write.roomId assigned
            (write.update Value roomCounter) life.kernel with
            noNews | ⟨sameRoom, isNews⟩
          · refine .silent paced.unlocked (UInt64.le_refl _) noNews ?_
            exact .writing faults write _ remainsNext fun _ => trivial
          · have isAnnounce := remains
            rw [isAnnounce] at isTask
            have newest := ahead sameRoom
            exact .announces roomCounter rfl isNews newest.1 newest.2
              (turn.announce write assigned roomCounter isTask sameRoom)
              remainsNext

end Advance

/-! ## Steps -/

/-- A write in progress stays ahead of what is announced before it. -/
theorem Stage.announced {roomId : RoomId} {life : Lifetime Value}
    {task : Nat} {program : Task Value CommandResponse}
    (isTask : life.pool.tasks[task]? = some program)
    (stage : Stage roomId (life.announced roomId) (life.version roomId)
      program) {roomCounter : UInt64}
    (turn : ∀ later, Pending life roomId task later → roomCounter < later) :
    Stage roomId (life.announced roomId ++ [roomCounter])
      (life.version roomId) program := by
  cases stage with
  | steady steady quiet => exact .steady steady quiet
  | creating faults name => exact .creating faults name
  | writing faults write progress remains ahead =>
      refine .writing faults write progress remains fun sameRoom => ?_
      have isAhead := ahead sameRoom
      cases progress with
      | persisting assigned =>
          have newer := turn _
            (.unread faults write assigned program isTask remains sameRoom)
          intro counter member
          rcases List.mem_append.mp member with older | newest
          · exact isAhead counter older
          · rw [List.mem_singleton.mp newest]
            exact newer
      | announcing assigned announcedLater =>
          have isAnnounce := remains
          rw [isAnnounce] at isTask
          have newer := turn _
            (.read write assigned announcedLater isTask sameRoom)
          refine ⟨isAhead.1, fun counter member => ?_⟩
          rcases List.mem_append.mp member with older | newest
          · exact isAhead.2 counter older
          · rw [List.mem_singleton.mp newest]
            exact newer
      | _ => trivial

section Step

variable {roomId : RoomId} {life : Lifetime Value}
variable (paced : Paced roomId life)

include paced

theorem Paced.advance {task : Nat} {access : Access}
    {effect : SyncpondKernel Value → SyncpondKernel Value}
    {next : SyncpondKernel Value → Task Value CommandResponse}
    {holder : Option Nat}
    (isTask : life.pool.tasks[task]? = some (.step access effect next))
    (turn : TakesTurn roomId life task) {after : Lifetime Value}
    (isAfter : after = life.observe task
      ⟨effect life.kernel, life.pool.tasks.set task (next life.kernel),
        holder⟩) :
    Paced roomId after ∧ life.version roomId ≤ after.version roomId := by
  have announced : after.announced roomId = life.announced roomId ++
      news roomId life.kernel (effect life.kernel) := by
    rw [isAfter]
    exact List.filterMap_append ..
  have version :
      after.version roomId = (effect life.kernel).readVersion roomId := by
    rw [isAfter]
    rfl
  have state : after.kernel.state = (effect life.kernel).state := by
    rw [isAfter]
    rfl
  have tasks {property : Task Value CommandResponse → Prop}
      (rest : property (next life.kernel))
      (others : ∀ other program, other ≠ task →
        life.pool.tasks[other]? = some program → property program) :
      ∀ program ∈ after.pool.tasks, property program := by
    intro program member
    rw [isAfter] at member
    obtain ⟨other, found⟩ := List.mem_iff_getElem?.mp member
    change (life.pool.tasks.set task (next life.kernel))[other]? =
      some program at found
    by_cases same : task = other
    · subst same
      rw [List.getElem?_set_self (List.getElem?_eq_some_iff.mp isTask).1]
        at found
      cases found
      exact rest
    · rw [List.getElem?_set_ne same] at found
      exact others other program (Ne.symm same) found
  cases Stage.proceeds paced isTask turn with
  | silent unlocked grown noNews stage =>
      rw [noNews, List.append_nil] at announced
      rw [← version] at grown stage
      refine ⟨⟨state ▸ unlocked, announced ▸ paced.increasing, ?_, ?_⟩, grown⟩
      · rw [announced]
        exact fun counter member =>
          UInt64.le_trans (paced.past counter member) grown
      · rw [announced]
        exact tasks stage fun _ program _ found =>
          (paced.stages program (List.mem_of_getElem? found)).mono grown
  | announces roomCounter sameState isNews past newest turn returned =>
      rw [isNews] at announced
      have sameVersion : after.version roomId = life.version roomId := by
        rw [version]
        exact readVersion_congr (by rw [sameState])
      refine ⟨⟨?_, ?_, ?_, ?_⟩, sameVersion ▸ UInt64.le_refl _⟩
      · rw [state, sameState]
        exact paced.unlocked
      · rw [announced, List.pairwise_append]
        refine ⟨paced.increasing, List.pairwise_singleton _ _, ?_⟩
        intro counter older last isLast
        rw [List.mem_singleton.mp isLast]
        exact newest counter older
      · rw [announced, sameVersion]
        intro counter member
        rcases List.mem_append.mp member with older | last
        · exact paced.past counter older
        · rw [List.mem_singleton.mp last]
          exact past
      · rw [announced, sameVersion]
        obtain ⟨response, isDone⟩ := returned
        refine tasks ?_ ?_
        · rw [isDone]
          exact .steady trivial trivial
        · intro other program isOther found
          exact (paced.stages program (List.mem_of_getElem? found)).announced
            found fun later => turn other later isOther

/-- Between sections, other rooms can be deleted. -/
theorem Paced.between {event : LifetimeEvent}
    (keeps : KeepsVersion roomId life event)
    {after : SyncpondKernel Value}
    (state : after.state = life.kernel.state ∨
      ∃ deletedRoom, event = .deleteRoom deletedRoom ∧
        after.state = (life.kernel.deleteRoom deletedRoom).2.state) :
    let later := { life with pool := { life.pool with shared := after } }
    Paced roomId later ∧ later.version roomId = life.version roomId := by
  have same : clockAt after.state roomId =
      clockAt life.kernel.state roomId := by
    rcases state with same | ⟨deletedRoom, rfl, same⟩
    · rw [same]
    · have other : deletedRoom ≠ roomId := keeps
      rw [same]
      unfold SyncpondKernel.deleteRoom AppState.deleteRoom
      by_cases known : life.kernel.state.rooms.contains deletedRoom
      · rw [if_pos known]
        simp [clockAt, lookup_erase, other]
      · rw [if_neg known]
  have version : after.readVersion roomId = life.version roomId :=
    readVersion_congr same
  refine ⟨⟨paced.unlocked.congr same, paced.increasing, ?_, ?_⟩, version⟩
  · change ∀ counter ∈ life.announced roomId,
      counter ≤ after.readVersion roomId
    rw [version]
    exact paced.past
  · change ∀ program ∈ life.pool.tasks, Stage roomId (life.announced roomId)
      (after.readVersion roomId) program
    rw [version]
    exact paced.stages

end Step

omit [SerdeJson Value] in
/-- Startup registers rooms without versions. -/
theorem registered_boot (faults : Faults) (dirs : Map String Db)
    (roomId : RoomId) :
    let app := (boot faults dirs : SyncpondKernel Value).state
    app.rooms[roomId]? = none ∨ app.rooms[roomId]? = some (.fresh false) := by
  simp only [boot, lookup_registerExisting]
  split
  · exact Or.inr rfl
  · exact Or.inl (by simp [AppState.new])

omit [SerdeJson Value] in
theorem unlocked_boot (faults : Faults) (dirs : Map String Db)
    (roomId : RoomId) :
    Unlocked (boot faults dirs : SyncpondKernel Value).state roomId := by
  intro room present
  rcases registered_boot faults dirs roomId with absent | isFresh
  · cases absent.symm.trans present
  · cases isFresh.symm.trans present
    exact ⟨rfl, rfl⟩

theorem Paced.restart {roomId : RoomId} {life : Lifetime Value}
    (paced : Paced roomId life) (noVersion : life.version roomId = 0)
    (faults : Faults) : Paced roomId (life.restart faults) where
  unlocked := unlocked_boot faults _ roomId
  increasing := paced.increasing
  past counter member := by
    have least := paced.past counter member
    rw [noVersion] at least
    exact UInt64.le_trans least (UInt64.le_iff_toNat_le.mpr (Nat.zero_le _))
  stages program member := by cases member

/-- The invariant is kept, and the version of the room does not decrease. -/
theorem Paced.step {roomId : RoomId} {life after : Lifetime Value}
    (paced : Paced roomId life) {event : LifetimeEvent}
    (keeps : KeepsVersion roomId life event)
    (stepped : life.step event = some after) :
    Paced roomId after ∧ life.version roomId ≤ after.version roomId := by
  cases lifetimeStep stepped with
  | command faults command =>
      refine ⟨⟨paced.unlocked, paced.increasing, paced.past, ?_⟩,
        UInt64.le_refl _⟩
      intro program member
      rcases List.mem_append.mp member with before | added
      · exact paced.stages program before
      · rw [List.mem_singleton.mp added]
        exact stage_handleCommand roomId _ _ faults command
  | advance task access effect next holder isTask =>
      exact paced.advance isTask keeps rfl
  | between event changed persistence state =>
      have kept := paced.between keeps state
      exact ⟨kept.1, kept.2 ▸ UInt64.le_refl _⟩
  | restart faults =>
      refine ⟨paced.restart keeps faults, ?_⟩
      rw [show life.version roomId = 0 from keeps]
      exact UInt64.le_iff_toNat_le.mpr (Nat.zero_le _)

/-! ## Runs -/

theorem paced_start (roomId : RoomId) :
    Paced roomId (.start : Lifetime Value) where
  unlocked := unlocked_boot .none ∅ roomId
  increasing := .nil
  past counter member := by cases member
  stages program member := by cases member

omit [SerdeJson Value] in
/-- The version that a room reports is the one that writes announce. -/
theorem version_of_roomVersion {life : Lifetime Value} {roomId : RoomId}
    {version : UInt64}
    (reported : life.kernel.state.roomVersion roomId = .ok version) :
    life.version roomId = version := by
  simp [Lifetime.version, SyncpondKernel.readVersion, reported]

/--
In every run that keeps the version of a room, the versions that the room
reports never decrease, the announced counters increase, and what was announced
is in the past of the room.
-/
theorem versions_never_go_back {roomId : RoomId}
    {life later : Lifetime Value}
    (before : Follows Lifetime.step (KeepsVersion roomId) .start life)
    (run : Follows Lifetime.step (KeepsVersion roomId) life later) :
    (∀ first second, life.kernel.state.roomVersion roomId = .ok first →
        later.kernel.state.roomVersion roomId = .ok second →
        first ≤ second) ∧
      (later.announced roomId).Pairwise (· < ·) ∧
      ∀ counter ∈ later.announced roomId, counter ≤ later.version roomId := by
  have paced := before.invariant (Paced roomId)
    (fun _ _ _ paced keeps stepped => (paced.step keeps stepped).1)
    (paced_start roomId)
  obtain ⟨pacedLater, grown⟩ := run.invariant
    (fun state => Paced roomId state ∧
      life.version roomId ≤ state.version roomId)
    (fun _ _ _ both keeps stepped =>
      have after := both.1.step keeps stepped
      ⟨after.1, UInt64.le_trans both.2 after.2⟩)
    ⟨paced, UInt64.le_refl _⟩
  refine ⟨?_, pacedLater.increasing, pacedLater.past⟩
  intro first second isFirst isSecond
  rw [← version_of_roomVersion isFirst, ← version_of_roomVersion isSecond]
  exact grown

/-! ## Two writes after a restart -/

/-- The room is loaded, and its version can be incremented. -/
def canCommit (app : AppState Value) (roomId : RoomId) : Bool :=
  app.rooms[roomId]?.any fun room =>
    room.loaded && decide (room.roomCounter.toNat + 1 < UInt64.size)

/-- What is left of a command announces nothing smaller than the version. -/
def comesLater (counter version : UInt64) :
    Task Value CommandResponse → Bool
  | .done _ => true
  | .step access _ _ => access != .free && decide (counter < version)

/-- Check that the next section of a command takes its turn. -/
def checkTurn (roomId : RoomId) (life : Lifetime Value) (task : Nat) : Bool :=
  match life.pool.tasks[task]? with
  | some (.step access effect _) =>
      let after := effect life.kernel
      (decide (life.kernel.state.nextRoomId ≠ roomId) ||
          decide (life.version roomId = 0)) &&
        (canCommit life.kernel.state roomId || access != .locked ||
          after.state.isRoomLoaded roomId !=
            life.kernel.state.isRoomLoaded roomId) &&
        decide (life.kernel.notifications.items.length <
          notificationCapacity) &&
        (news roomId life.kernel after).all fun counter =>
          (life.pool.tasks.eraseIdx task).all
            (comesLater counter (life.version roomId))
  | _ => true

/-- Check that a step keeps the version of the room. -/
def checkVersion (roomId : RoomId) (life : Lifetime Value) :
    LifetimeEvent → Bool
  | .advance task => checkTurn roomId life task
  | .deleteRoom deletedRoom => decide (deletedRoom ≠ roomId)
  | .restart _ => decide (life.version roomId = 0)
  | _ => true

omit [SerdeJson Value] in
theorem canCommit_of_check {app : AppState Value} {roomId : RoomId}
    (checked : canCommit app roomId = true) : CanCommit app roomId := by
  unfold canCommit at checked
  cases present : app.rooms[roomId]? with
  | none => simp [present] at checked
  | some room =>
      rw [present] at checked
      obtain ⟨loaded, fits⟩ := Bool.and_eq_true_iff.mp checked
      exact ⟨room, present, loaded, of_decide_eq_true fits⟩

omit [SerdeJson Value] in
/-- A commit neither loads nor unloads a room. -/
theorem isRoomLoaded_commitWrite (kernel : SyncpondKernel Value)
    (roomId changed : RoomId) (bucketId : BucketId) (key : String)
    (value : Value) :
    (kernel.commitWrite changed bucketId key value).2.state.isRoomLoaded
        roomId = kernel.state.isRoomLoaded roomId := by
  unfold SyncpondKernel.commitWrite
  split
  · next app written =>
    obtain ⟨room, later, present, stored, rfl⟩ := withRoom_ok written
    have loaded : later.loaded = room.loaded := by
      unfold RoomState.setFragment at stored
      split at stored
      · cases stored
      · split at stored
        · cases stored
        · split at stored <;> cases stored <;> rfl
    by_cases same : changed = roomId
    · subst same
      simp [AppState.isRoomLoaded, present, loaded]
    · simp [AppState.isRoomLoaded, lookup_insert, same]
  · rfl

/-- What is left of a write in progress cannot announce a smaller counter. -/
theorem lt_of_comesLater {roomId : RoomId} {life : Lifetime Value}
    {task : Nat} {counter later : UInt64}
    (pending : Pending life roomId task later)
    (checked : ∀ program, life.pool.tasks[task]? = some program →
      comesLater counter (life.version roomId) program = true) :
    counter < later := by
  cases pending with
  | unread faults write assigned program isTask remains sameRoom =>
      obtain ⟨rest, _, rfl⟩ := remains
      cases rest with
      | done _ =>
          have comes : (Access.locked != .free &&
              decide (counter < life.version roomId)) = true :=
            checked _ isTask
          exact of_decide_eq_true comes
      | step access effect next =>
          have comes : (access != .free &&
              decide (counter < life.version roomId)) = true :=
            checked _ isTask
          exact of_decide_eq_true (Bool.and_eq_true_iff.mp comes).2
  | read write assigned _ isTask sameRoom =>
      have comes : (Access.free != .free &&
          decide (counter < life.version roomId)) = true :=
        checked _ isTask
      cases comes

/-- An announcement that finds room is the news of its section. -/
theorem news_announce {kernel : SyncpondKernel Value} {write : WriteArgs}
    (findsRoom : kernel.notifications.items.length < notificationCapacity)
    (assigned : Option UInt64) (roomCounter : UInt64) :
    news write.roomId kernel (kernel.broadcast write.roomId assigned
      (write.update Value roomCounter)) = [roomCounter] := by
  rw [news, items_broadcast write.roomId assigned _ findsRoom, List.drop_left]
  simp [announcedCounter, WriteArgs.update, writeUpdate]

/-- A command without a next section has no turn to take. -/
theorem takesTurn_of_forall_ne {roomId : RoomId} {life : Lifetime Value}
    {task : Nat} (ended : ∀ access effect next,
      life.pool.tasks[task]? ≠ some (.step access effect next)) :
    TakesTurn roomId life task := by
  constructor
  · rintro ⟨_, _, isTask⟩
    exact absurd isTask (ended _ _ _)
  · intro _ _ isTask
    exact absurd isTask (ended _ _ _)
  · intro _ _ _ isTask
    exact absurd isTask (ended _ _ _)

theorem takesTurn_of_check {roomId : RoomId} {life : Lifetime Value}
    {task : Nat} (checked : checkTurn roomId life task = true) :
    TakesTurn roomId life task := by
  cases found : life.pool.tasks[task]? with
  | none => exact takesTurn_of_forall_ne (by simp [found])
  | some program =>
      cases program with
      | done response => exact takesTurn_of_forall_ne (by simp [found])
      | step access effect next =>
          simp only [checkTurn, found, Bool.and_eq_true] at checked
          obtain ⟨⟨⟨creates, commits⟩, findsRoom⟩, announces⟩ := checked
          constructor
          · intro _ isRoom
            simpa [isRoom] using creates
          · intro faults write isTask sameRoom
            cases found.symm.trans isTask
            rw [isRoomLoaded_commitWrite] at commits
            exact canCommit_of_check (by simpa using commits)
          · intro write assigned roomCounter isTask sameRoom other later
              elsewhere pending
            cases found.symm.trans isTask
            subst sameRoom
            rw [news_announce (of_decide_eq_true findsRoom)] at announces
            refine lt_of_comesLater pending fun program isOther => ?_
            have member : program ∈ life.pool.tasks.eraseIdx task :=
              List.mem_eraseIdx_iff_getElem?.mpr ⟨other, elsewhere, isOther⟩
            exact List.all_eq_true.mp
              (List.all_eq_true.mp announces roomCounter
                (List.mem_singleton.mpr rfl)) program member

theorem keepsVersion_of_check (roomId : RoomId) (life : Lifetime Value)
    (event : LifetimeEvent)
    (checked : checkVersion roomId life event = true) :
    KeepsVersion roomId life event := by
  cases event with
  | advance task => exact takesTurn_of_check checked
  | deleteRoom deletedRoom =>
      have other : deletedRoom ≠ roomId := of_decide_eq_true checked
      exact other
  | restart faults =>
      have noVersion : life.version roomId = 0 := of_decide_eq_true checked
      exact noVersion
  | command faults command => trivial
  | receive => trivial

/--
A room is created, the server restarts and loads the room, and the first one of
two writes commits and reads the version.
-/
def resumed : List LifetimeEvent :=
  .command .none (.newRoom "room") :: List.replicate 3 (.advance 0) ++
    .restart .none :: .command .none (.loadRoom 1) ::
      List.replicate 10 (.advance 0) ++
    .command .none (.writeFragment 1 5 "key" "1".toUTF8) ::
      .command .none (.writeFragment 1 5 "key" "2".toUTF8) ::
        List.replicate 6 (.advance 1)

/-- The second one commits before the first one is announced. -/
def announcesBoth : List LifetimeEvent :=
  List.replicate 5 (.advance 2) ++ [.advance 1, .advance 2, .advance 2]

theorem versions_never_go_back_resumed :
    ∃ life later : Lifetime Json,
      life.kernel.state.roomVersion 1 = .ok 1 ∧
      later.kernel.state.roomVersion 1 = .ok 2 ∧
      later.announced 1 = [1, 2] ∧
      (∀ first second, life.kernel.state.roomVersion 1 = .ok first →
        later.kernel.state.roomVersion 1 = .ok second → first ≤ second) ∧
      (later.announced 1).Pairwise (· < ·) ∧
      ∀ counter ∈ later.announced 1, counter ≤ later.version 1 := by
  let step := fun (life : Lifetime Json) event =>
    if checkVersion 1 life event then life.step event else none
  have observed : (resumed.foldlM step .start).bind (fun life =>
      (announcesBoth.foldlM step life).map fun later =>
        (life.kernel.state.roomVersion 1, later.kernel.state.roomVersion 1,
          later.announced 1)) =
      some (.ok 1, .ok 2, [1, 2]) := by
    decide +kernel
  obtain ⟨life, before, observed⟩ := Option.bind_eq_some_iff.mp observed
  obtain ⟨later, run, equal⟩ := Option.map_eq_some_iff.mp observed
  obtain ⟨first, rest⟩ := Prod.mk.inj equal
  obtain ⟨second, announced⟩ := Prod.mk.inj rest
  exact ⟨life, later, first, second, announced,
    versions_never_go_back
      (follows_of_checked (keepsVersion_of_check 1) before)
      (follows_of_checked (keepsVersion_of_check 1) run)⟩

/-! ## A restart -/

/-- A room is created, and a fragment of it is written. -/
def written : List LifetimeEvent :=
  .command .none (.newRoom "room") :: List.replicate 3 (.advance 0) ++
    .command .none (.writeFragment 1 5 "key" "1".toUTF8) ::
      List.replicate 7 (.advance 1)

/-- The server restarts, and the room is loaded. -/
def reloaded : List LifetimeEvent :=
  written ++ .restart .none :: .command .none (.loadRoom 1) ::
    List.replicate 10 (.advance 0)

/-- The same write again. -/
def rewritten : List LifetimeEvent :=
  reloaded ++ .command .none (.writeFragment 1 5 "key" "1".toUTF8) ::
    List.replicate 7 (.advance 1)

/-- The room reports version `0` after version `1`, and announces `1` twice. -/
theorem restart_resets_version :
    let observed := fun events =>
      (events.foldlM Lifetime.step (.start : Lifetime Json)).map fun life =>
        ((life.kernel.state.roomVersion 1).toOption, life.announced 1)
    observed written = some (some 1, [1]) ∧
      observed reloaded = some (some 0, [1]) ∧
      observed rewritten = some (some 1, [1, 1]) := by
  decide +kernel

end Syncpond.Versions
