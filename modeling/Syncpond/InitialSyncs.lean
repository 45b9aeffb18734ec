import Syncpond.Transit

/-!
# Initial syncs in progress

`FindsRoom` is the condition that nothing that a registered client is waiting
for is dropped at a full channel.  As long as it is met, the initial sync of a
client goes on from the greeting to its last fragment: it is either ahead, or
it was collected and each of its fragments is still to be sent or on its way.
A write that committed goes on to its announcement in the same way.
-/

namespace Syncpond.InitialSyncs

open Syncpond.Protocol
open Syncpond.Serde
open Syncpond.Persistence
open Syncpond.Kernel
open Syncpond.Hub
open Syncpond.HubDelivery
open Syncpond.Tasks
open Syncpond.Registration
open Syncpond.Delivery
open Syncpond.WriteProgress
open Syncpond.Transit
open Syncpond.Library.Maps
open Syncpond.Library.Channels
open Syncpond.Library.Programs

variable {Value : Type} [SerdeJson Value]

/-! ## Traces of the server -/

/-- What every trace from the start of a server is. -/
structure Coherent (faults : Faults) (trace : Trace Value) : Prop where
  roster : Roster trace.server
  tracked : Tracked faults trace

namespace Coherent

variable {faults : Faults} {trace after : Trace Value}
variable {event : ServerEvent Value}

theorem start (faults : Faults) (kernel : SyncpondKernel Value) :
    Coherent faults (.start kernel) where
  roster := .start kernel
  tracked := .start faults kernel

theorem passage (coherent : Coherent faults trace)
    (stepped : trace.step faults event = some after) :
    Passage faults trace event after :=
  Delivery.passage coherent.roster.guarded stepped

theorem step (coherent : Coherent faults trace)
    (stepped : trace.step faults event = some after) :
    Coherent faults after := by
  refine ⟨?_, coherent.tracked.step (coherent.passage stepped)⟩
  obtain ⟨server, served, rfl⟩ := Option.map_eq_some_iff.mp stepped
  exact coherent.roster.step served

end Coherent

/-- What a step of a trace does to the clients of the hub. -/
theorem hubStep_of_step {faults : Faults} {trace after : Trace Value}
    {event : ServerEvent Value}
    (stepped : trace.step faults event = some after) :
    HubStep trace.server event after.server := by
  obtain ⟨server, served, rfl⟩ := Option.map_eq_some_iff.mp stepped
  exact hubStep served

theorem stageStep_of_step {faults : Faults} {trace after : Trace Value}
    {event : ServerEvent Value}
    (stepped : trace.step faults event = some after) :
    StageStep trace.server event after.server := by
  obtain ⟨server, served, rfl⟩ := Option.map_eq_some_iff.mp stepped
  exact stageStep served

/-! ## Writes in progress -/

/-- A task is a write that is this far. -/
def IsAt (faults : Faults) (trace : Trace Value) (task : Nat)
    (write : WriteArgs) (progress : Progress) : Prop :=
  trace.commands[task]? = some write.command ∧
    ∃ program, trace.server.pool.tasks[task]? = some program ∧
      write.Remains faults progress program

section Writes

variable {faults : Faults} {trace : Trace Value} {task : Nat}
variable {write : WriteArgs} {progress : Progress}

/-- A write executes its next section. -/
theorem IsAt.advance (isAt : IsAt faults trace task write progress)
    {pool : Pool (SyncpondKernel Value) CommandResponse}
    (advanced : trace.server.pool.advance task = some pool) :
    ∃ later,
      IsAt faults { trace with server := { trace.server with pool := pool } }
        task write later ∧
      write.Advances trace.server.pool.shared progress later pool.shared := by
  obtain ⟨isCommand, program, isProgram, remains⟩ := isAt
  obtain ⟨access, effect, next, found, _, rfl⟩ :=
    Pool.advance_eq_some advanced
  cases isProgram.symm.trans found
  obtain ⟨later, remainsNext, advances⟩ :=
    remains.advance trace.server.pool.shared
  refine ⟨later, ⟨isCommand, _, ?_, remainsNext⟩, advances⟩
  exact List.getElem?_set_self (List.getElem?_eq_some_iff.mp found).1

/-- A write stays where it is until it executes its next section. -/
theorem IsAt.passage (isAt : IsAt faults trace task write progress)
    {after : Trace Value} {event : ServerEvent Value}
    (passed : Passage faults trace event after) :
    IsAt faults after task write progress ∨
      ∃ pool later, event = .advance task ∧
        after = { trace with server := { trace.server with pool := pool } } ∧
        IsAt faults after task write later ∧
        write.Advances trace.server.pool.shared progress later
          pool.shared := by
  have whole := isAt
  obtain ⟨isCommand, program, isProgram, remains⟩ := isAt
  cases commandStep passed with
  | start command =>
      refine Or.inl ⟨?_, program, ?_, remains⟩
      · rw [List.getElem?_append_left, isCommand]
        exact (List.getElem?_eq_some_iff.mp isCommand).1
      · rw [Pool.spawn, List.getElem?_append_left, isProgram]
        exact (List.getElem?_eq_some_iff.mp isProgram).1
  | advance other pool advanced =>
      by_cases same : other = task
      · subst same
        obtain ⟨later, isNext, advances⟩ := whole.advance advanced
        exact Or.inr ⟨pool, later, rfl, rfl, isNext, advances⟩
      · obtain ⟨access, effect, next, _, _, rfl⟩ :=
          Pool.advance_eq_some advanced
        refine Or.inl ⟨isCommand, program, ?_, remains⟩
        rw [List.getElem?_set_ne same, isProgram]
  | rest _ commands tasks _ =>
      exact Or.inl ⟨commands ▸ isCommand, program, tasks ▸ isProgram,
        remains⟩

/-- At rest every write returned. -/
theorem IsAt.returned (isAt : IsAt faults trace task write progress)
    (quiescent : Quiescent trace.server) : progress = .returned := by
  obtain ⟨_, program, isProgram, remains⟩ := isAt
  obtain ⟨response, rfl⟩ :=
    quiescent.tasks program (List.mem_of_getElem? isProgram)
  exact remains.returned

end Writes

/-! ## Room in the channels -/

/-- What is sent for a registered client finds room in the channel. -/
def FindsRoom (faults : Faults) (trace : Trace Value) :
    ServerEvent Value → Prop
  | .advance task =>
      ∀ write assigned roomCounter,
        IsAt faults trace task write (.announcing assigned roomCounter) →
        (∃ (connId : ConnId) (client : ClientInfo),
          trace.server.hub.connections[connId]? = some client ∧
          client.roomId = write.roomId ∧ write.bucketId ∈ client.buckets) →
        trace.server.notifications.items.length < notificationCapacity
  | .greet position _ =>
      ∀ (connId : ConnId) (client : ClientInfo),
        trace.server.hub.connections[connId]? = some client →
        client.sender = position → trace.server.hasRoom = true
  | .target =>
      ∀ (connId : ConnId) (roomId : RoomId)
        (updates : List (SyncUpdate Value)) (client : ClientInfo),
        trace.server.processor = .target connId roomId updates →
        updates ≠ [] →
        trace.server.hub.connections[connId]? = some client →
        trace.server.notifications.items.length < notificationCapacity
  | _ => True

/-- A check that is enough for `FindsRoom`. -/
def checkFindsRoom (trace : Trace Value) : ServerEvent Value → Bool
  | .advance _ =>
      decide (trace.server.notifications.items.length <
        notificationCapacity)
  | .greet _ _ => trace.server.hasRoom
  | .target =>
      decide (trace.server.notifications.items.length <
        notificationCapacity)
  | _ => true

theorem findsRoom_of_check (faults : Faults) (trace : Trace Value)
    (event : ServerEvent Value)
    (checked : checkFindsRoom trace event = true) :
    FindsRoom faults trace event := by
  cases event with
  | advance task => exact fun _ _ _ _ _ => of_decide_eq_true checked
  | greet position _ => exact fun _ _ _ _ => checked
  | target => exact fun _ _ _ _ _ _ _ => of_decide_eq_true checked
  | _ => trivial

/-! ## Initial syncs -/

/-- The initial sync of a client is still ahead. -/
inductive SyncAhead (server : Server Value) (connId : ConnId)
    (client : ClientInfo) : Prop
  | greeting
      (isGreeting :
        server.stages[client.sender]? = some (.greeting connId))
  | announced (requestedBuckets : List BucketId)
      (perm : requestedBuckets.Perm client.buckets.toList)
      (member : .clientConnected connId requestedBuckets ∈
        server.messages.items)
  | lookup (requestedBuckets : List BucketId)
      (perm : requestedBuckets.Perm client.buckets.toList)
      (isLookup : server.processor = .lookup connId requestedBuckets)
  | collect (requestedBuckets : List BucketId)
      (perm : requestedBuckets.Perm client.buckets.toList)
      (isCollect :
        server.processor = .collect connId client.roomId requestedBuckets)

/-- The trace after the fragments of a client were collected. -/
def collected (trace : Trace Value) (connId : ConnId) (client : ClientInfo)
    (iteration : Iteration Value) (requestedBuckets : List BucketId) :
    Trace Value :=
  let updates := collectUpdates iteration trace.server.pool.shared.state
    client.roomId requestedBuckets
  { trace with
    server := { trace.server with
      processor := .target connId client.roomId updates }
    collected := trace.collected ++
      [⟨connId, client.roomId, requestedBuckets, updates⟩] }

section SyncAhead

variable {connId : ConnId} {client : ClientInfo}

omit [SerdeJson Value] in
/-- What an initial sync that is ahead depends on. -/
theorem SyncAhead.congr {server after : Server Value}
    (ahead : SyncAhead server connId client)
    (greeting : ∀ (position : Nat) (other : ConnId),
      server.stages[position]? = some (.greeting other) →
      after.stages[position]? = some (.greeting other))
    (messages : ∀ message ∈ server.messages.items,
      message ∈ after.messages.items)
    (processor : after.processor = server.processor) :
    SyncAhead after connId client := by
  cases ahead with
  | greeting isGreeting => exact .greeting (greeting _ _ isGreeting)
  | announced requestedBuckets perm member =>
      exact .announced requestedBuckets perm (messages _ member)
  | lookup requestedBuckets perm isLookup =>
      exact .lookup requestedBuckets perm (processor.trans isLookup)
  | collect requestedBuckets perm isCollect =>
      exact .collect requestedBuckets perm (processor.trans isCollect)

omit [SerdeJson Value] in
/-- The processor is busy with something else. -/
theorem SyncAhead.target {server after : Server Value}
    (ahead : SyncAhead server connId client)
    {target : ConnId} {roomId : RoomId} {updates : List (SyncUpdate Value)}
    (isTarget : server.processor = .target target roomId updates)
    (stages : after.stages = server.stages)
    (messages : after.messages = server.messages) :
    SyncAhead after connId client := by
  cases ahead with
  | greeting isGreeting => exact .greeting (stages ▸ isGreeting)
  | announced requestedBuckets perm member =>
      exact .announced requestedBuckets perm (messages ▸ member)
  | lookup requestedBuckets perm isLookup =>
      cases isTarget.symm.trans isLookup
  | collect requestedBuckets perm isCollect =>
      cases isTarget.symm.trans isCollect

/-- An initial sync that is ahead stays ahead, or is collected now. -/
theorem SyncAhead.passage {faults : Faults} {trace after : Trace Value}
    {event : ServerEvent Value} (roster : Roster trace.server)
    (passed : Passage faults trace event after)
    (findsRoom : FindsRoom faults trace event)
    (present : trace.server.hub.connections[connId]? = some client)
    (ahead : SyncAhead trace.server connId client) :
    SyncAhead after.server connId client ∨
      ∃ iteration requestedBuckets,
        requestedBuckets.Perm client.buckets.toList ∧
        after = collected trace connId client iteration requestedBuckets := by
  cases passed with
  | aside _ aside =>
      exact Or.inl (ahead.congr aside.greeting aside.messages
        aside.processor)
  | greet position greeted granted requestedBuckets isGreeting isGranted
      perm =>
      refine Or.inl ?_
      cases ahead with
      | greeting isOurs =>
          by_cases same : position = client.sender
          · subst same
            cases isGreeting.symm.trans isOurs
            cases isGranted.symm.trans (roster.granted connId client present)
            exact .announced requestedBuckets perm
              (mem_messages_trySend_self (findsRoom connId client present rfl))
          · refine .greeting ?_
            simpa [Server.enter, List.getElem?_set_ne same] using isOurs
      | announced requested perm member =>
          exact .announced requested perm (mem_messages_trySend member)
      | lookup requested perm isLookup =>
          exact .lookup requested perm (by simpa [Server.enter] using isLookup)
      | collect requested perm isCollect =>
          exact .collect requested perm
            (by simpa [Server.enter] using isCollect)
  | takeMessage message rest isIdle items =>
      refine Or.inl ?_
      cases ahead with
      | greeting isGreeting => exact .greeting isGreeting
      | announced requestedBuckets perm member =>
          rw [items] at member
          rcases List.mem_cons.mp member with rfl | later
          · exact .lookup requestedBuckets perm rfl
          · exact .announced requestedBuckets perm later
      | lookup _ _ isLookup => cases isIdle.symm.trans isLookup
      | collect _ _ isCollect => cases isIdle.symm.trans isCollect
  | lookUp lookedUp requestedBuckets other isLookup isOther =>
      refine Or.inl ?_
      cases ahead with
      | greeting isGreeting => exact .greeting isGreeting
      | announced requestedBuckets perm member =>
          exact .announced requestedBuckets perm member
      | lookup requested perm isOurs =>
          cases isLookup.symm.trans isOurs
          cases present.symm.trans isOther
          exact .collect requestedBuckets perm rfl
      | collect _ _ isCollect => cases isLookup.symm.trans isCollect
  | lookUpFailed lookedUp requestedBuckets isLookup absent =>
      refine Or.inl ?_
      cases ahead with
      | greeting isGreeting => exact .greeting isGreeting
      | announced requestedBuckets perm member =>
          exact .announced requestedBuckets perm member
      | lookup requested perm isOurs =>
          cases isLookup.symm.trans isOurs
          cases absent.symm.trans present
      | collect _ _ isCollect => cases isLookup.symm.trans isCollect
  | collect iteration target roomId requestedBuckets isCollect =>
      cases ahead with
      | greeting isGreeting => exact Or.inl (.greeting isGreeting)
      | announced requestedBuckets perm member =>
          exact Or.inl (.announced requestedBuckets perm member)
      | lookup _ _ isLookup => cases isCollect.symm.trans isLookup
      | collect requested perm isOurs =>
          cases isCollect.symm.trans isOurs
          exact Or.inr ⟨iteration, requestedBuckets, perm, rfl⟩
  | target target roomId update rest sent isTarget items =>
      exact Or.inl (ahead.target isTarget rfl rfl)
  | targetEnded target roomId updates isTarget isFull =>
      exact Or.inl (ahead.target isTarget rfl rfl)
  | _ =>
      exact Or.inl (ahead.congr (fun _ _ => id) (fun _ => id) rfl)

end SyncAhead

/-! ## Fragments that were collected -/

/-- The frame of a fragment that an initial sync sends. -/
def syncFrame (roomId : RoomId) (update : SyncUpdate Value) : Frame :=
  .of ⟨roomId, none, update.dataUpdate⟩

/-- A collected fragment is left to be sent, or its frame is on its way. -/
def UnderWay (trace : Trace Value) (connId : ConnId) (client : ClientInfo)
    (update : SyncUpdate Value) : Prop :=
  (∃ updates, trace.server.processor = .target connId client.roomId updates ∧
    update ∈ updates) ∨
  InFlight trace connId client (syncFrame client.roomId update)

section UnderWay

variable {faults : Faults} {trace after : Trace Value}
variable {event : ServerEvent Value} {connId : ConnId} {client : ClientInfo}
variable {update : SyncUpdate Value}

/-- A collected fragment gets to a client that stays registered. -/
theorem UnderWay.passage (coherent : Coherent faults trace)
    (passed : Passage faults trace event after)
    (findsRoom : FindsRoom faults trace event)
    (underWay : UnderWay trace connId client update)
    (present : trace.server.hub.connections[connId]? = some client)
    (stays : after.server.hub.connections[connId]? = some client) :
    UnderWay after connId client update := by
  rcases underWay with ⟨updates, isTarget, member⟩ | flies
  · cases passed with
    | aside _ aside =>
        exact Or.inl ⟨updates, aside.processor.trans isTarget, member⟩
    | greet position greeted _ _ _ _ _ =>
        exact Or.inl
          ⟨updates, by simpa [Server.enter] using isTarget, member⟩
    | takeMessage message rest isIdle items =>
        cases isIdle.symm.trans isTarget
    | lookUp _ _ _ isLookup => cases isLookup.symm.trans isTarget
    | lookUpFailed _ _ isLookup => cases isLookup.symm.trans isTarget
    | collect _ _ _ _ isCollect => cases isCollect.symm.trans isTarget
    | target target roomId first rest sent isOurs items =>
        cases isTarget.symm.trans isOurs
        rcases List.mem_cons.mp member with rfl | later
        · refine Or.inr (Or.inr
            ⟨⟨client.roomId, none, .targeted connId update.dataUpdate⟩,
              Or.inr ?_, rfl, rfl⟩)
          change _ ∈ sent.items
          rw [items]
          exact List.mem_append_right _ (List.mem_singleton.mpr rfl)
        · exact Or.inl ⟨rest, rfl, later⟩
    | targetEnded target roomId left isOurs isFull =>
        cases isTarget.symm.trans isOurs
        have left : updates ≠ [] := List.ne_nil_of_mem member
        exact absurd (isFull left) (Nat.not_le.mpr
          (findsRoom connId client.roomId updates client isTarget left
            present))
    | _ => exact Or.inl ⟨updates, isTarget, member⟩
  · exact Or.inr (flies.passage coherent.roster coherent.tracked passed stays)

theorem UnderWay.enqueued (underWay : UnderWay trace connId client update)
    (quiescent : Quiescent trace.server) :
    syncFrame client.roomId update ∈ trace.enqueued client.sender := by
  rcases underWay with ⟨updates, isTarget, _⟩ | flies
  · cases quiescent.processor.symm.trans isTarget
  · exact flies.enqueued quiescent

end UnderWay

omit [SerdeJson Value] in
/-- At rest no initial sync is ahead of a client that has greeted. -/
theorem SyncAhead.not_quiescent {server : Server Value} {connId : ConnId}
    {client : ClientInfo} (ahead : SyncAhead server connId client)
    (quiescent : Quiescent server)
    (greeted : server.stages[client.sender]? ≠ some (.greeting connId)) :
    False := by
  cases ahead with
  | greeting isGreeting => exact greeted isGreeting
  | announced requestedBuckets perm member =>
      rw [quiescent.messages] at member
      cases member
  | lookup _ _ isLookup => cases quiescent.processor.symm.trans isLookup
  | collect _ _ isCollect => cases quiescent.processor.symm.trans isCollect

end Syncpond.InitialSyncs
