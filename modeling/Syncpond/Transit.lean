import Syncpond.Delivery
import Syncpond.WriteProgress

/-!
# Frames in transit

A frame on its way to a client is in the notification channel, with the
forwarder, or among the frames that were enqueued to the client.  Whatever
happens it stays on its way as long as the client stays registered, and once
the channel is drained it was enqueued.

Every task of the kernel is what is left of the command that started it, so a
write that committed is either announced or still has to announce itself.
-/

namespace Syncpond.Transit

open Syncpond.Protocol
open Syncpond.Serde
open Syncpond.Persistence
open Syncpond.Kernel
open Syncpond.Hub
open Syncpond.HubDelivery
open Syncpond.Tasks
open Syncpond.Registration
open Syncpond.Delivery
open Syncpond.WriteProgress
open Syncpond.Library.Maps
open Syncpond.Library.Channels
open Syncpond.Library.Programs

variable {Value : Type} [SerdeJson Value]

/-! ## Commands and tasks -/

/-- The program is what is left of a command. -/
def InProgress (faults : Faults) (command : Commands)
    (program : Task Value CommandResponse) : Prop :=
  (isWrite command = false ∧ Quiet program) ∨
    ∃ write : WriteArgs, command = write.command ∧
      ∃ progress, write.Remains faults progress program

/-- The tasks are what is left of the commands. -/
structure Tracked (faults : Faults) (trace : Trace Value) : Prop where
  aligned : trace.commands.length = trace.server.pool.tasks.length
  inProgress : ∀ (task : Nat) (program : Task Value CommandResponse),
    trace.server.pool.tasks[task]? = some program →
    ∃ command, trace.commands[task]? = some command ∧
      InProgress faults command program

/-- What a step does to the commands in progress. -/
inductive CommandStep (faults : Faults) (trace : Trace Value) :
    ServerEvent Value → Trace Value → Prop
  | start (command : Commands) :
      CommandStep faults trace (.command command)
        { trace with
          server := { trace.server with
            pool := trace.server.pool.spawn (handleCommand faults command) }
          commands := trace.commands ++ [command] }
  | advance (task : Nat) (pool : Pool (SyncpondKernel Value) CommandResponse)
      (advanced : trace.server.pool.advance task = some pool) :
      CommandStep faults trace (.advance task)
        { trace with server := { trace.server with pool := pool } }
  | rest {event : ServerEvent Value} {after : Trace Value}
      (notAdvance : ∀ task, event ≠ .advance task)
      (commands : after.commands = trace.commands)
      (tasks : after.server.pool.tasks = trace.server.pool.tasks)
      (state : after.server.pool.shared.state =
        trace.server.pool.shared.state) :
      CommandStep faults trace event after

theorem commandStep {faults : Faults} {trace after : Trace Value}
    {event : ServerEvent Value}
    (passed : Passage faults trace event after) :
    CommandStep faults trace event after := by
  cases passed with
  | aside notAdvance aside =>
      exact .rest notAdvance aside.commands (by rw [aside.pool]) (by rw [aside.pool])
  | command command => exact .start command
  | advance task pool advanced => exact .advance task pool advanced
  | greet position connId _ _ _ _ _ =>
      exact .rest (by simp) rfl (by simp [Server.enter])
        (by simp [Server.enter])
  | _ => exact .rest (by simp) rfl rfl rfl

/-- What the next section of a command does to the notification channel. -/
inductive SectionStep (faults : Faults) (trace : Trace Value) (task : Nat)
    (pool : Pool (SyncpondKernel Value) CommandResponse) : Prop
  | quiet (command : Commands)
      (isCommand : trace.commands[task]? = some command)
      (other : isWrite command = false)
      (notifications : pool.shared.notifications =
        trace.server.notifications)
  | write (write : WriteArgs)
      (isCommand : trace.commands[task]? = some write.command)
      (progress later : Progress) (program next : Task Value CommandResponse)
      (isProgram : trace.server.pool.tasks[task]? = some program)
      (remains : write.Remains faults progress program)
      (remainsNext : write.Remains faults later next)
      (tasks : pool.tasks = trace.server.pool.tasks.set task next)
      (advances :
        write.Advances trace.server.pool.shared progress later pool.shared)

namespace Tracked

variable {faults : Faults} {trace : Trace Value}

theorem start (faults : Faults) (kernel : SyncpondKernel Value) :
    Tracked faults (.start kernel) where
  aligned := rfl
  inProgress := by simp [Trace.start, Server.start]

variable (tracked : Tracked faults trace)

include tracked

/-- A command executes its next section. -/
theorem sectionStep {task : Nat}
    {pool : Pool (SyncpondKernel Value) CommandResponse}
    (advanced : trace.server.pool.advance task = some pool) :
    SectionStep faults trace task pool ∧
      Tracked faults
        { trace with server := { trace.server with pool := pool } } := by
  obtain ⟨access, effect, next, found, _, rfl⟩ :=
    Pool.advance_eq_some advanced
  obtain ⟨command, isCommand, progressing⟩ := tracked.inProgress task _ found
  have tracks {program : Task Value CommandResponse}
      (isNext : next trace.server.pool.shared = program)
      (goesOn : InProgress faults command program) :
      Tracked faults
        { trace with
          server := { trace.server with
            pool := {
              shared := effect trace.server.pool.shared
              tasks := trace.server.pool.tasks.set task
                (next trace.server.pool.shared)
              holder := Pool.holderAfter trace.server.pool.holder task
                access } } } := by
    refine ⟨tracked.aligned.trans List.length_set.symm, ?_⟩
    intro other otherProgram isOther
    by_cases same : task = other
    · subst same
      rw [List.getElem?_set_self (List.getElem?_eq_some_iff.mp found).1,
        isNext] at isOther
      cases isOther
      exact ⟨command, isCommand, goesOn⟩
    · rw [List.getElem?_set_ne same] at isOther
      exact tracked.inProgress other otherProgram isOther
  rcases progressing with ⟨other, quiet⟩ | ⟨write, rfl, progress, remains⟩
  · exact ⟨.quiet command isCommand other (quiet.1 _),
      tracks rfl (Or.inl ⟨other, quiet.2 _⟩)⟩
  · obtain ⟨later, remainsNext, advances⟩ :=
      remains.advance trace.server.pool.shared
    exact ⟨.write write isCommand progress later _ _ found remains
        remainsNext rfl advances,
      tracks rfl (Or.inr ⟨write, rfl, later, remainsNext⟩)⟩

/-- Only the commands and the tasks matter. -/
theorem congr {after : Trace Value} (commands : after.commands = trace.commands)
    (tasks : after.server.pool.tasks = trace.server.pool.tasks) :
    Tracked faults after where
  aligned := by rw [commands, tasks, tracked.aligned]
  inProgress := by
    rw [commands, tasks]
    exact tracked.inProgress

theorem command (command : Commands) :
    Tracked faults
      { trace with
        server := { trace.server with
          pool := trace.server.pool.spawn (handleCommand faults command) }
        commands := trace.commands ++ [command] } := by
  refine ⟨by simp [Pool.spawn, tracked.aligned], ?_⟩
  intro task program isProgram
  rcases Nat.lt_or_ge task trace.server.pool.tasks.length with
    inside | outside
  · rw [Pool.spawn, List.getElem?_append_left inside] at isProgram
    obtain ⟨older, isOlder, progressing⟩ :=
      tracked.inProgress task program isProgram
    refine ⟨older, ?_, progressing⟩
    rw [List.getElem?_append_left (tracked.aligned ▸ inside), isOlder]
  · rw [Pool.spawn, List.getElem?_append_right outside] at isProgram
    have last : task = trace.server.pool.tasks.length := by
      have bound := (List.getElem?_eq_some_iff.mp isProgram).1
      rw [List.length_singleton] at bound
      omega
    refine ⟨command, by simp [last, ← tracked.aligned], ?_⟩
    rw [List.mem_singleton.mp (List.mem_of_getElem? isProgram)]
    cases isWriting : isWrite command with
    | false => exact Or.inl ⟨isWriting, quiet_handleCommand faults isWriting⟩
    | true =>
        cases command with
        | writeFragment roomId bucketId key data =>
            exact Or.inr ⟨⟨roomId, bucketId, key, data⟩, rfl, .checking, rfl⟩
        | _ => cases isWriting

/-- A step keeps the tasks and the commands together. -/
theorem step {after : Trace Value} {event : ServerEvent Value}
    (passed : Passage faults trace event after) : Tracked faults after := by
  cases commandStep passed with
  | start command => exact tracked.command command
  | advance task pool advanced => exact (tracked.sectionStep advanced).2
  | rest _ commands tasks _ => exact tracked.congr commands tasks

end Tracked

/-- Commands add to the notification channel at its end. -/
theorem SectionStep.notifications_grow {faults : Faults}
    {trace : Trace Value} {task : Nat}
    {pool : Pool (SyncpondKernel Value) CommandResponse}
    (executed : SectionStep faults trace task pool) :
    trace.server.notifications.items <+: pool.shared.notifications.items := by
  have same {kernel : SyncpondKernel Value}
      (equal : kernel.notifications = trace.server.notifications) :
      trace.server.notifications.items <+: kernel.notifications.items :=
    equal.symm ▸ List.prefix_refl _
  cases executed with
  | quiet _ _ _ notifications => exact same notifications
  | write write _ progress later _ _ _ _ _ _ advances =>
      rcases advances.notifications with quiet | ⟨_, _, _, announced⟩
      · exact same quiet
      · rw [announced]
        exact Channel.prefix_sendOrDrop _ _

/-! ## Frames on their way -/

/-- A notification is sent to the client, as long as it is registered. -/
def IsFor (notification : Sourced (UpdateChannelMessage Value))
    (connId : ConnId) (client : ClientInfo) : Prop :=
  match notification.content with
  | .broadcast update => update.bucketId ∈ client.buckets
  | .targeted target _ => target = connId

/-- A notification is in the channel, or the forwarder took it. -/
def Waiting (server : Server Value)
    (notification : Sourced (UpdateChannelMessage Value)) : Prop :=
  server.forwarder = some notification ∨
    notification ∈ server.notifications.items

/-- A frame was enqueued to a client, or is on its way to it. -/
def InFlight (trace : Trace Value) (connId : ConnId) (client : ClientInfo)
    (frame : Frame) : Prop :=
  frame ∈ trace.enqueued client.sender ∨
    ∃ notification, Waiting trace.server notification ∧
      IsFor notification connId client ∧ frameOf notification = frame

omit [SerdeJson Value] in
/-- The hub sends a notification to the clients that it is for. -/
theorem IsFor.addresses {hub : WsHub} (covered : Covered hub)
    {notification : Sourced (UpdateChannelMessage Value)} {connId : ConnId}
    {client : ClientInfo} (isFor : IsFor notification connId client)
    (present : hub.connections[connId]? = some client) :
    Addresses notification hub connId := by
  cases isContent : notification.content with
  | broadcast update =>
      rw [IsFor, isContent] at isFor
      exact addresses_of_allowed covered isContent present isFor
  | targeted target msg =>
      rw [IsFor, isContent] at isFor
      rw [Addresses, isContent]
      exact List.mem_singleton.mpr isFor.symm

section Passage

variable {faults : Faults} {trace after : Trace Value}
variable {event : ServerEvent Value}

/-- Only the forwarder enqueues frames. -/
theorem enqueued_passage (roster : Roster trace.server)
    (passed : Passage faults trace event after) (position : Nat) :
    after.enqueued position = trace.enqueued position ∨
      ∃ notification, trace.server.forwarder = some notification ∧
        after.server.forwarder = none ∧
        after.enqueued position =
          trace.enqueued position ++ [frameOf notification] := by
  cases passed with
  | aside _ aside => exact Or.inl (aside.enqueued position)
  | greet connPosition connId _ _ _ _ _ =>
      refine Or.inl ?_
      simp [Trace.enqueued, Server.enter]
  | forward notification isTaken =>
      rcases pending_forward notification roster.ownQueues position with
        same | added
      · exact Or.inl (congrArg _ same)
      · refine Or.inr ⟨notification, isTaken, rfl, ?_⟩
        simp only [Trace.enqueued, added, List.append_assoc]
  | _ => exact Or.inl rfl

theorem mem_enqueued_passage (roster : Roster trace.server)
    (passed : Passage faults trace event after) {position : Nat}
    {frame : Frame} (member : frame ∈ trace.enqueued position) :
    frame ∈ after.enqueued position := by
  rcases enqueued_passage roster passed position with
    same | ⟨_, _, _, added⟩
  · exact same ▸ member
  · exact added ▸ List.mem_append_left _ member

/-- A notification waits until the forwarder forwards it. -/
theorem Waiting.passage (tracked : Tracked faults trace)
    (passed : Passage faults trace event after)
    {notification : Sourced (UpdateChannelMessage Value)}
    (waiting : Waiting trace.server notification) :
    Waiting after.server notification ∨
      (trace.server.forwarder = some notification ∧
        after = { trace with
          server := { trace.server with
            hub := trace.server.hub.forward notification
            forwarder := none } }) := by
  cases passed with
  | aside _ aside =>
      refine Or.inl ?_
      rw [Waiting, aside.forwarder, Server.notifications, aside.pool]
      exact waiting
  | command command => exact Or.inl waiting
  | advance task pool advanced =>
      have grows := (tracked.sectionStep advanced).1.notifications_grow
      exact Or.inl (waiting.imp id fun member => grows.mem member)
  | greet position connId _ _ _ _ _ =>
      refine Or.inl ?_
      simpa [Waiting, Server.enter, Server.notifications] using waiting
  | target connId roomId update rest sent _ items =>
      refine Or.inl (waiting.imp id fun member => ?_)
      change notification ∈ sent.items
      rw [items]
      exact List.mem_append_left _ member
  | takeNotification taken rest isFree items =>
      rcases waiting with isTaken | member
      · cases isFree.symm.trans isTaken
      · rw [items] at member
        rcases List.mem_cons.mp member with rfl | later
        · exact Or.inl (Or.inl rfl)
        · exact Or.inl (Or.inr later)
  | forward taken isTaken =>
      rcases waiting with isForwarded | member
      · cases isTaken.symm.trans isForwarded
        exact Or.inr ⟨isTaken, rfl⟩
      · exact Or.inl (Or.inr member)
  | _ => exact Or.inl waiting

/-- A frame stays on its way to a client that stays registered. -/
theorem InFlight.passage (roster : Roster trace.server)
    (tracked : Tracked faults trace)
    (passed : Passage faults trace event after) {connId : ConnId}
    {client : ClientInfo} {frame : Frame}
    (flies : InFlight trace connId client frame)
    (stays : after.server.hub.connections[connId]? = some client) :
    InFlight after connId client frame := by
  rcases flies with enqueued | ⟨notification, waiting, isFor, isFrame⟩
  · exact Or.inl (mem_enqueued_passage roster passed enqueued)
  · rcases waiting.passage tracked passed with
      waits | ⟨isTaken, rfl⟩
    · exact Or.inr ⟨notification, waits, isFor, isFrame⟩
    · have present := ((lookup_forward_iff notification
        roster.ownQueues).mp stays).1
      have addressed := isFor.addresses roster.covered present
      have added := pending_forward_of_stays notification roster.ownQueues
        addressed stays
      refine Or.inl ?_
      rw [Trace.enqueued, added, isFrame]
      simp

end Passage

/-- An announcement that finds room is on its way to the clients of its bucket. -/
theorem InFlight.of_broadcast {trace : Trace Value}
    {pool : Pool (SyncpondKernel Value) CommandResponse} {roomId : RoomId}
    {assigned : Option UInt64} {update : DataUpdate Value}
    (shared : pool.shared =
      trace.server.pool.shared.broadcast roomId assigned update)
    (room : trace.server.notifications.items.length < notificationCapacity)
    (connId : ConnId) {client : ClientInfo}
    (allowed : update.bucketId ∈ client.buckets) :
    InFlight { trace with server := { trace.server with pool := pool } }
      connId client (.of ⟨roomId, assigned, update⟩) := by
  refine Or.inr ⟨⟨roomId, assigned, .broadcast update⟩, Or.inr ?_, allowed,
    rfl⟩
  change _ ∈ pool.shared.notifications.items
  rw [shared, items_broadcast roomId assigned update room]
  exact List.mem_append_right _ (List.mem_singleton.mpr rfl)

/-- The server is at rest: the commands returned, and the channels are drained. -/
structure Quiescent (server : Server Value) : Prop where
  tasks : ∀ program ∈ server.pool.tasks, ∃ response, program = .done response
  messages : server.messages.items = []
  processor : server.processor = .idle
  notifications : server.notifications.items = []
  forwarder : server.forwarder = none

/-- The program has returned. -/
def isDone {Result : Type} : Task Value Result → Bool
  | .done _ => true
  | .step _ _ _ => false

/-- A check for `Quiescent`. -/
def checkQuiescent (server : Server Value) : Bool :=
  server.pool.tasks.all isDone && server.messages.items.isEmpty &&
    (match server.processor with | .idle => true | _ => false) &&
    server.notifications.items.isEmpty && server.forwarder.isNone

omit [SerdeJson Value] in
theorem quiescent_of_check {server : Server Value}
    (checked : checkQuiescent server = true) : Quiescent server := by
  simp only [checkQuiescent, Bool.and_eq_true, List.all_eq_true,
    List.isEmpty_iff, Option.isNone_iff_eq_none] at checked
  obtain ⟨⟨⟨⟨tasks, messages⟩, processor⟩, notifications⟩, forwarder⟩ :=
    checked
  refine ⟨fun program member => ?_, messages, ?_, notifications, forwarder⟩
  · cases program with
    | done response => exact ⟨response, rfl⟩
    | step access effect next => cases tasks _ member
  · split at processor
    · assumption
    · cases processor

/-- At rest, a frame that was on its way was enqueued. -/
theorem InFlight.enqueued {trace : Trace Value} {connId : ConnId}
    {client : ClientInfo} {frame : Frame}
    (flies : InFlight trace connId client frame)
    (quiescent : Quiescent trace.server) :
    frame ∈ trace.enqueued client.sender := by
  rcases flies with enqueued | ⟨notification, isTaken | member, _⟩
  · exact enqueued
  · cases quiescent.forwarder.symm.trans isTaken
  · rw [quiescent.notifications] at member
    cases member

end Syncpond.Transit
