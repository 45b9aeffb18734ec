import Syncpond.Folders
import Syncpond.Sections

/-!
# Processes over one data directory

A server process executes any number of commands, whose sections interleave,
and a restart replaces it by a new process over the same data directory: the
commands in progress are lost, and what startup finds is registered.  Each
command and each startup meets failures of the storage of its own.

A `Lifetime` is the process that runs now, with what was observed of it and of
the processes before it.
-/

namespace Syncpond.Lifetimes

open Syncpond.Protocol
open Syncpond.Serde
open Syncpond.State
open Syncpond.Persistence
open Syncpond.Kernel
open Syncpond.Folders
open Syncpond.Library.Maps
open Syncpond.Library.Channels
open Syncpond.Library.Programs
open Syncpond.Library.Runs

variable {Value : Type} [SerdeJson Value]

/-! ## Processes -/

/-- The processes over one data directory, with what was seen of them. -/
structure Lifetime (Value : Type) where
  /-- The kernel, and the commands in progress on it. -/
  pool : Pool (SyncpondKernel Value) CommandResponse
  /-- The commands of the tasks, with the failures that they meet. -/
  commands : List (Faults × Commands)
  /-- What was sent on the notification channel, in the order of sending. -/
  sent : List (Sourced (UpdateChannelMessage Value))
  /--
  The ids that `create_room` gave out in this process, and those of the rooms
  that were created in earlier ones.
  -/
  created : List RoomId
  /-- The ids that `NewRoom` returned. -/
  returned : List RoomId

/-- What happens in a process, and between two of them. -/
inductive LifetimeEvent where
  /-- A command arrives. -/
  | command (faults : Faults) (command : Commands)
  /-- A command in progress executes its next section. -/
  | advance (task : Nat)
  | deleteRoom (roomId : RoomId)
  /-- The forwarder receives a notification. -/
  | receive
  | restart (faults : Faults)

/-- The id that `create_room` gave out between two states. -/
def givenOut (before after : AppState Value) : List RoomId :=
  if after.nextRoomId = before.nextRoomId then [] else [before.nextRoomId]

/-- The id that a task returns, if it is a `NewRoom` that has ended. -/
def returnedBy (command : Option (Faults × Commands))
    (program : Option (Task Value CommandResponse)) : List RoomId :=
  match command, program with
  | some (_, .newRoom _), some (.done (.newRoomResponse roomId)) => [roomId]
  | _, _ => []

namespace Lifetime

/-- The first process over an empty data directory. -/
def start : Lifetime Value where
  pool := ⟨boot .none ∅, [], none⟩
  commands := []
  sent := []
  created := []
  returned := []

/-- The kernel of the process. -/
def kernel (life : Lifetime Value) : SyncpondKernel Value :=
  life.pool.shared

/-- What is observed when a command in progress executes a section. -/
def observe (life : Lifetime Value) (task : Nat)
    (pool : Pool (SyncpondKernel Value) CommandResponse) : Lifetime Value :=
  { life with
    pool := pool
    sent := life.sent ++
      pool.shared.notifications.items.drop
        life.kernel.notifications.items.length
    created := life.created ++ givenOut life.kernel.state pool.shared.state
    returned := life.returned ++
      returnedBy life.commands[task]? pool.tasks[task]? }

/-- The rooms that are known to a client or have a folder. -/
def createdRooms (life : Lifetime Value) : List RoomId :=
  life.created.filter fun roomId =>
    life.returned.contains roomId ||
      life.kernel.persistence.dirs.contains (roomDir roomId)

/-- A new process over the data directory. -/
def restart (life : Lifetime Value) (faults : Faults) : Lifetime Value :=
  { life with
    pool := ⟨boot faults life.kernel.persistence.dirs, [], none⟩
    commands := []
    created := life.createdRooms }

/-- The process after an event, if the event can happen. -/
def step (life : Lifetime Value) : LifetimeEvent → Option (Lifetime Value)
  | .command faults command =>
      some { life with
        pool := life.pool.spawn (handleCommand faults command)
        commands := life.commands ++ [(faults, command)] }
  | .advance task => (life.pool.advance task).map (life.observe task)
  | .deleteRoom roomId =>
      if life.pool.holder.isNone then
        some { life with
          pool := { life.pool with
            shared := (life.kernel.deleteRoom roomId).2 } }
      else none
  | .receive =>
      life.kernel.notifications.recv.map fun (_, rest) =>
        { life with
          pool := { life.pool with
            shared := { life.kernel with notifications := rest } } }
  | .restart faults => some (life.restart faults)

end Lifetime

/-- A process that some run of processes leads to. -/
def Reached (life : Lifetime Value) : Prop :=
  Follows Lifetime.step (fun _ _ => True) .start life

/-! ## Announced counters -/

/-- The counter of a notification that announces a write to the room. -/
def announcedCounter (roomId : RoomId)
    (notification : Sourced (UpdateChannelMessage Value)) : Option UInt64 :=
  match notification.content with
  | .broadcast update =>
      if notification.origin = roomId then some update.bucketCounter else none
  | .targeted _ _ => none

/-- The counters that were announced for the room, in this order. -/
def Lifetime.announced (life : Lifetime Value) (roomId : RoomId) :
    List UInt64 :=
  life.sent.filterMap (announcedCounter roomId)

/-- The version of a room, `0` if there is none. -/
def Lifetime.version (life : Lifetime Value) (roomId : RoomId) : UInt64 :=
  life.kernel.readVersion roomId

/-! ## Steps -/

/-- What a step does to the commands in progress and to the kernel. -/
inductive LifetimeStep (life : Lifetime Value) :
    LifetimeEvent → Lifetime Value → Prop
  | command (faults : Faults) (command : Commands) :
      LifetimeStep life (.command faults command)
        { life with
          pool := life.pool.spawn (handleCommand faults command)
          commands := life.commands ++ [(faults, command)] }
  | advance (task : Nat) (access : Access)
      (effect : SyncpondKernel Value → SyncpondKernel Value)
      (next : SyncpondKernel Value → Task Value CommandResponse)
      (holder : Option Nat)
      (isTask : life.pool.tasks[task]? = some (.step access effect next)) :
      LifetimeStep life (.advance task)
        (life.observe task
          ⟨effect life.kernel, life.pool.tasks.set task (next life.kernel),
            holder⟩)
  /-- The kernel changes between sections, without a command. -/
  | between (event : LifetimeEvent) (after : SyncpondKernel Value)
      (persistence : after.persistence = life.kernel.persistence)
      (state : after.state = life.kernel.state ∨
        ∃ roomId, event = .deleteRoom roomId ∧
          after.state = (life.kernel.deleteRoom roomId).2.state) :
      LifetimeStep life event
        { life with pool := { life.pool with shared := after } }
  | restart (faults : Faults) :
      LifetimeStep life (.restart faults) (life.restart faults)

omit [SerdeJson Value] in
theorem deleteRoom_eq (kernel : SyncpondKernel Value) (roomId : RoomId) :
    (kernel.deleteRoom roomId).2 =
      { kernel with state := (kernel.deleteRoom roomId).2.state } := by
  unfold SyncpondKernel.deleteRoom
  split <;> rfl

theorem lifetimeStep {life after : Lifetime Value} {event : LifetimeEvent}
    (stepped : life.step event = some after) :
    LifetimeStep life event after := by
  cases event with
  | command faults command =>
      cases stepped
      exact .command faults command
  | advance task =>
      obtain ⟨pool, advanced, rfl⟩ := Option.map_eq_some_iff.mp stepped
      obtain ⟨access, effect, next, isTask, _, rfl⟩ :=
        Pool.advance_eq_some advanced
      exact .advance task access effect next _ isTask
  | deleteRoom roomId =>
      simp only [Lifetime.step] at stepped
      split at stepped
      · cases stepped
        refine .between _ _ ?_ (Or.inr ⟨roomId, rfl, rfl⟩)
        rw [deleteRoom_eq]
      · cases stepped
  | receive =>
      obtain ⟨⟨message, rest⟩, _, rfl⟩ := Option.map_eq_some_iff.mp stepped
      exact .between _ _ rfl (Or.inl rfl)
  | restart faults =>
      cases stepped
      exact .restart faults

/-! ## The creation of a room -/

/-- What `NewRoom` does after the creation of the room. -/
def afterCreate (faults : Faults) (name : String) (roomId : RoomId) :
    Task Value CommandResponse := do
  let _ ← Task.openRoomDb faults roomId
  Program.modify .release (SyncpondKernel.labelRoom roomId name)
  return .newRoomResponse roomId

/-- A task that is about to create a room. -/
def Creating (life : Lifetime Value) (task : Nat) : Prop :=
  ∃ faults name, life.pool.tasks[task]? = some (handleNewRoom faults name)

/-! ## The data directory -/

/-- Every section keeps the data directory one of folders of rooms. -/
def KeepsHoused {Result : Type} (task : Task Value Result) : Prop :=
  task.Every fun _ effect => ∀ kernel,
    Housed kernel.persistence → Housed (effect kernel).persistence

omit [SerdeJson Value] in
theorem KeepsHoused.of_serving {Result : Type} {roomId : RoomId}
    {task : Task Value Result} (serving : Serving roomId task) :
    KeepsHoused task :=
  serving.mono fun _ _ serves kernel => (serves kernel).housed

theorem keepsHoused_handleCommand (faults : Faults) (command : Commands) :
    KeepsHoused
      (handleCommand faults command : Task Value CommandResponse) := by
  cases named : namedRoom command with
  | some roomId => exact .of_serving (serving_handleCommand faults named)
  | none =>
      cases command with
      | newRoom name =>
          refine Program.Every.bind (Program.every_atomic fun _ => id)
            fun roomId => ?_
          refine Program.Every.bind (KeepsHoused.of_serving .openRoomDb)
            fun _ => ?_
          refine Program.Every.bind (Program.every_atomic fun kernel => ?_)
            fun _ => trivial
          exact (serves_labelRoom roomId name kernel
            : Serves roomId _ _).housed
      | _ => cases named

/-- The data directory holds folders of rooms, in every process. -/
theorem housed_of_reached {life : Lifetime Value} (reached : Reached life) :
    Housed life.kernel.persistence := by
  suffices both : Housed life.kernel.persistence ∧
      ∀ program ∈ life.pool.tasks, KeepsHoused program from both.1
  refine reached.invariant
    (fun life => Housed life.kernel.persistence ∧
      ∀ program ∈ life.pool.tasks, KeepsHoused program) ?_ ?_
  · rintro life event after ⟨housed, keep⟩ _ stepped
    cases lifetimeStep stepped with
    | command faults command =>
        refine ⟨housed, ?_⟩
        intro program member
        rcases List.mem_append.mp member with before | added
        · exact keep program before
        · rw [List.mem_singleton.mp added]
          exact keepsHoused_handleCommand faults command
    | advance task access effect next holder isTask =>
        have keeps := keep _ (List.mem_of_getElem? isTask)
        refine ⟨keeps.1 life.kernel housed, ?_⟩
        intro program member
        rcases List.mem_or_eq_of_mem_set member with before | rfl
        · exact keep program before
        · exact keeps.2 life.kernel
    | between event changed persistence state =>
        refine ⟨?_, keep⟩
        change Housed changed.persistence
        rw [persistence]
        exact housed
    | restart faults =>
        refine ⟨housed_boot housed.named faults, ?_⟩
        intro program member
        cases member
  · refine ⟨housed_boot ?_ .none, ?_⟩
    · intro name member
      simp at member
    · intro program member
      cases member

end Syncpond.Lifetimes
