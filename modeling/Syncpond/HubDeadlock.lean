import Syncpond.Library.Runs
import Syncpond.Tasks

/-!
# Progress of the tasks between the hub and the kernel

A connection that hands a client message to the kernel keeps the hub lock
until the message channel takes the message.  The only receiver of that
channel is the processor, which needs the hub lock to look up the room of a
new connection.  The tasks block each other for good when the channel is full
and the processor has such a lookup before it; nothing else stops them.
-/

namespace Syncpond.HubDeadlock

open Syncpond.Protocol
open Syncpond.Serde
open Syncpond.State (serverOnlyBucketId)
open Syncpond.Persistence
open Syncpond.Kernel
open Syncpond.Hub
open Syncpond.Tasks
open Syncpond.Sections
open Syncpond.Library.Maps
open Syncpond.Library.Channels
open Syncpond.Library.Programs
open Syncpond.Library.Runs

variable {Value : Type}

/-! ## Waiting and stuck servers -/

/-- The task of the connection waits for the hub lock. -/
def waitsForLock : Stage → Bool
  | .registering => true
  | .commanding _ _ => true
  | .leaving _ => true
  | _ => false

/-- The processor waits for the hub lock. -/
def looksUp : Processor Value → Bool
  | .lookup _ _ => true
  | _ => false

/-- What a server can wait for. -/
inductive Waits (server : Server Value) : Prop
  /-- A message is in the channel. -/
  | message (pending : server.messages.items ≠ [])
  /-- A connection waits for the hub lock. -/
  | connection (position : Nat) (stage : Stage)
      (isStage : server.stages[position]? = some stage)
      (waits : waitsForLock stage = true)
  /-- The processor waits for the hub lock. -/
  | processor (waits : looksUp server.processor = true)
  /-- The forwarder waits for the hub lock. -/
  | forwarder (waits : server.forwarder.isSome = true)
  /-- A task holds the hub lock, and may wait for capacity of the channel. -/
  | guard (held : server.lock.isSome = true)

/--
The steps that a task takes without input from its client: what a connection
receives or transmits is left out, and new commands and connections are.
-/
def ownStep : ServerEvent Value → Bool
  | .command _ => false
  | .connect _ => false
  | .drain _ => false
  | .receive _ _ => false
  | .leave _ => false
  | _ => true

/-- Something waits, and no task can take a step of its own. -/
def Stuck [SerdeJson Value] (faults : Faults) (server : Server Value) : Prop :=
  Waits server ∧
    ∀ event, ownStep event = true → server.step faults event = none

/--
A send that finds the message channel full does not find the processor before
a lookup.
-/
def Unobstructed (server : Server Value) : ServerEvent Value → Prop
  | .ask => server.hasRoom = false → looksUp server.processor = false
  | _ => True

/-! ## The invariant -/

/--
The commands in progress use the state lock in turn, a send is queued only on
a full channel and not while the processor looks up, and a slot is free for a
send that was given one.
-/
structure Running (server : Server Value) : Prop where
  aligned : server.stages.length = server.grants.length
  disciplined : server.pool.Disciplined
  queued : ∀ position connId event,
    server.lock = some (.sending position connId event .queued) →
    server.messages.items.length = downstreamCapacity ∧
      looksUp server.processor = false
  granted : ∀ position connId event,
    server.lock = some (.sending position connId event .granted) →
    server.messages.items.length < downstreamCapacity

namespace Running

variable {server : Server Value}

theorem boot [SerdeJson Value] (faults : Faults) (dirs : Map String Db) :
    Running (.start (boot faults dirs : SyncpondKernel Value)) where
  aligned := rfl
  disciplined := .start _
  queued := by simp [Server.start]
  granted := by simp [Server.start]

variable (running : Running server)

include running

theorem enter (position : Nat) (stage : Stage) :
    Running (server.enter position stage) :=
  { running with aligned := List.length_set.trans running.aligned }

/-- A `try_send` leaves the slot of a waiting send alone. -/
theorem trySend (message : DownstreamMessage) :
    Running (server.trySend message) := by
  unfold Server.trySend
  split
  · next hasRoom =>
    have room := of_decide_eq_true hasRoom
    refine { running with queued := ?_, granted := ?_ }
    · intro position connId event isQueued
      have full := (running.queued position connId event isQueued).1
      rw [full] at room
      exact absurd room (Nat.not_lt.mpr (Nat.le_add_right _ _))
    · intro position connId event isGranted
      have reserved : server.reserved = 1 := by
        rw [Server.reserved, isGranted]
      rw [reserved] at room
      exact Nat.lt_of_le_of_lt Channel.length_sendOrDrop_le room
  · exact running

omit running in
/-- No send waits for capacity. -/
theorem of_notWaiting (aligned : server.stages.length = server.grants.length)
    (disciplined : server.pool.Disciplined)
    (notWaiting : ∀ position connId event capacity,
      server.lock = some (.sending position connId event capacity) →
      capacity = .asking) : Running server where
  aligned := aligned
  disciplined := disciplined
  queued position connId event isQueued := by
    cases notWaiting position connId event .queued isQueued
  granted position connId event isGranted := by
    cases notWaiting position connId event .granted isGranted

theorem deliver {position : Nat} {connId : ConnId}
    {event : DownstreamMessage} {after : Server Value}
    (stepped : server.deliver position connId event = some after) :
    Running after := by
  obtain ⟨messages, _, rfl⟩ := Server.deliver_eq_some stepped
  refine Running.enter ?_ position _
  exact .of_notWaiting running.aligned running.disciplined (by simp)

end Running

/-- An event that meets the condition keeps the tasks running. -/
theorem Running.step [SerdeJson Value] {faults : Faults}
    {server after : Server Value} {event : ServerEvent Value}
    (running : Running server) (unobstructed : Unobstructed server event)
    (stepped : server.step faults event = some after) : Running after := by
  cases event with
  | command command =>
      cases stepped
      exact { running with
        disciplined := running.disciplined.spawn
          (lawful_handleCommand faults command).locks }
  | advance task =>
      obtain ⟨pool, advanced, rfl⟩ := Option.map_eq_some_iff.mp stepped
      exact { running with disciplined := running.disciplined.advance advanced }
  | connect granted =>
      cases stepped
      exact { running with
        aligned := by simp [Server.connect, running.aligned] }
  | register position =>
      obtain ⟨isFree, _, granted, _, registered | rfl⟩ :=
        Server.register_eq_some stepped
      · obtain ⟨hub, _, rfl⟩ := registered
        refine Running.enter ?_ position _
        exact { running with }
      · refine Running.enter ?_ position _
        exact .of_notWaiting running.aligned running.disciplined (by simp)
  | refuse =>
      obtain ⟨position, _, rfl⟩ := Server.refuse_eq_some stepped
      refine Running.enter ?_ position _
      exact .of_notWaiting running.aligned running.disciplined (by simp)
  | greet position requestedBuckets =>
      obtain ⟨connId, granted, _, _, _, rfl⟩ := Server.greet_eq_some stepped
      refine Running.enter ?_ position _
      exact running.trySend _
  | drain position =>
      obtain ⟨frame, hub, _, rfl⟩ := Server.drain_eq_some stepped
      exact { running with }
  | receive position payload =>
      obtain ⟨connId, _, rfl⟩ := Server.receive_eq_some stepped
      exact running.enter position _
  | leave position =>
      obtain ⟨connId, _, rfl⟩ := Server.leave_eq_some stepped
      exact running.enter position _
  | processClientMessage position =>
      obtain ⟨_, connId, payload, _, ⟨roomId, rfl⟩ | rfl⟩ :=
        Server.processClientMessage_eq_some stepped
      · refine Running.enter ?_ position _
        refine .of_notWaiting running.aligned running.disciplined ?_
        rintro _ _ _ _ ⟨⟩
        rfl
      · exact running.enter position _
  | ask =>
      obtain ⟨position, connId, event, isAsking, delivered | queued⟩ :=
        Server.ask_eq_some stepped
      · exact running.deliver delivered.2
      · obtain ⟨isFull, rfl⟩ := queued
        have full : downstreamCapacity ≤ server.messages.items.length := by
          simpa [Server.hasRoom, Server.reserved, isAsking] using isFull
        refine { running with queued := ?_, granted := by simp }
        intro _ _ _ _
        exact ⟨Nat.le_antisymm server.messages.bounded full,
          unobstructed isFull⟩
  | send =>
      obtain ⟨position, connId, event, _, delivered⟩ :=
        Server.send_eq_some stepped
      exact running.deliver delivered
  | remove position =>
      obtain ⟨isFree, connId, _, rfl⟩ := Server.remove_eq_some stepped
      refine Running.enter ?_ position _
      exact { running with }
  | depart position =>
      obtain ⟨connId, _, rfl⟩ := Server.depart_eq_some stepped
      refine Running.enter ?_ position _
      exact { running.trySend (.clientDisconnected connId) with }
  | takeMessage =>
      obtain ⟨_, message, rest, items, rfl⟩ :=
        Server.takeMessage_eq_some stepped
      have fewer : rest.items.length < server.messages.items.length := by
        rw [items]
        exact Nat.lt_succ_self _
      refine { running with queued := ?_, granted := ?_ }
      · intro position connId event isQueued
        rcases Server.giveSlot_eq_some isQueued with before | waited
        · rw [before] at isQueued
          cases isQueued
        · obtain ⟨_, _, _, _, different⟩ := waited
          cases different
      · intro position connId event isGranted
        exact Nat.lt_of_lt_of_le fewer server.messages.bounded
  | lookUp =>
      obtain ⟨connId, requestedBuckets, _, found | ⟨_, rfl⟩⟩ :=
        Server.lookUp_eq_some stepped
      · obtain ⟨client, _, rfl⟩ := found
        exact { running with
          queued := fun position connId event isQueued =>
            ⟨(running.queued position connId event isQueued).1, rfl⟩ }
      · exact { running with
          queued := fun position connId event isQueued =>
            ⟨(running.queued position connId event isQueued).1, rfl⟩ }
  | collect iteration =>
      obtain ⟨connId, roomId, requestedBuckets, _, rfl⟩ :=
        Server.collect_eq_some stepped
      exact { running with
        queued := fun position connId event isQueued =>
          ⟨(running.queued position connId event isQueued).1, rfl⟩ }
  | target =>
      obtain ⟨connId, roomId, updates, _, sent | ⟨_, rfl⟩⟩ :=
        Server.target_eq_some stepped
      · obtain ⟨update, rest, sent, rfl, _, rfl⟩ := sent
        exact { running with
          disciplined := running.disciplined.withShared _
          queued := fun position connId event isQueued =>
            ⟨(running.queued position connId event isQueued).1, rfl⟩ }
      · exact { running with
          queued := fun position connId event isQueued =>
            ⟨(running.queued position connId event isQueued).1, rfl⟩ }
  | takeNotification =>
      obtain ⟨_, notification, rest, _, rfl⟩ :=
        Server.takeNotification_eq_some stepped
      exact { running with disciplined := running.disciplined.withShared _ }
  | forward =>
      obtain ⟨notification, _, rfl⟩ := Server.forward_eq_some stepped
      exact { running with }

/-! ## Progress -/

section Progress

variable [SerdeJson Value] {faults : Faults} {server : Server Value}
variable (running : Running server)

/-- Some task can take a step of its own. -/
def CanStep (faults : Faults) (server : Server Value) : Prop :=
  ∃ event, ownStep event = true ∧ server.step faults event ≠ none

/-- The traversal in key order. -/
def ascending (Value : Type) : Iteration Value :=
  ⟨fun bucket => bucket.toList, fun _ => List.Perm.refl _⟩

omit [SerdeJson Value] in
theorem deliver_ne_none {position : Nat} {connId : ConnId}
    {event : DownstreamMessage}
    (room : server.messages.items.length < downstreamCapacity) :
    server.deliver position connId event ≠ none := by
  intro impossible
  have full := Channel.trySend_eq_none_iff.mp
    (Option.map_eq_none_iff.mp impossible)
  exact absurd room (Nat.not_lt.mpr full)

include running

/-- The processor goes on unless it waits for a message or the hub lock. -/
theorem canStep_of_processor
    (message : server.processor = .idle → server.messages.items ≠ [])
    (lookup : looksUp server.processor = true → server.lock = none) :
    CanStep faults server := by
  cases isProcessor : server.processor with
  | idle =>
      refine ⟨.takeMessage, rfl, ?_⟩
      have pending := message isProcessor
      simp only [Server.step, Server.takeMessage, isProcessor]
      intro isEmpty
      exact pending
        (Channel.recv_eq_none_iff.mp (Option.map_eq_none_iff.mp isEmpty))
  | lookup connId requestedBuckets =>
      refine ⟨.lookUp, rfl, ?_⟩
      have isFree := lookup (by rw [isProcessor]; rfl)
      simp only [Server.step, Server.lookUp, isFree, isProcessor]
      split <;> simp
  | collect connId roomId requestedBuckets =>
      cases holder : server.pool.holder with
      | none =>
          refine ⟨.collect (ascending Value), rfl, ?_⟩
          simp [Server.step, Server.collect, holder, isProcessor]
      | some task =>
          refine ⟨.advance task, rfl, ?_⟩
          obtain ⟨after, advanced⟩ :=
            running.disciplined.holder_advances holder
          simp [Server.step, advanced]
  | target connId roomId updates =>
      refine ⟨.target, rfl, ?_⟩
      cases updates with
      | nil => simp [Server.step, Server.target, isProcessor]
      | cons update rest =>
          simp only [Server.step, Server.target, isProcessor]
          split <;> simp

/-- A task that holds the hub lock goes on, or the processor does. -/
theorem canStep_of_guard {guard : HubGuard}
    (held : server.lock = some guard) : CanStep faults server := by
  cases guard with
  | refusing position =>
      exact ⟨.refuse, rfl, by simp [Server.step, Server.refuse, held]⟩
  | sending position connId event capacity =>
      cases capacity with
      | asking =>
          refine ⟨.ask, rfl, ?_⟩
          simp only [Server.step, Server.ask, held]
          split
          · next hasRoom =>
            have room := of_decide_eq_true hasRoom
            exact deliver_ne_none (Nat.lt_of_add_right_lt room)
          · simp
      | queued =>
          obtain ⟨full, idle⟩ := running.queued position connId event held
          refine canStep_of_processor running ?_ ?_
          · intro _ isEmpty
            rw [isEmpty] at full
            cases full
          · intro looks
            rw [idle] at looks
            cases looks
      | granted =>
          refine ⟨.send, rfl, ?_⟩
          simp only [Server.step, Server.send, held]
          exact deliver_ne_none (running.granted position connId event held)

/-- A connection that waits for a free hub lock takes it. -/
theorem canStep_of_connection {position : Nat} {stage : Stage}
    (isFree : server.lock = none)
    (isStage : server.stages[position]? = some stage)
    (waits : waitsForLock stage = true) : CanStep faults server := by
  cases stage with
  | registering =>
      refine ⟨.register position, rfl, ?_⟩
      have bound := running.aligned ▸
        (List.getElem?_eq_some_iff.mp isStage).1
      simp only [Server.step, Server.register, isFree, isStage,
        List.getElem?_eq_getElem bound]
      split <;> simp
  | commanding connId payload =>
      refine ⟨.processClientMessage position, rfl, ?_⟩
      simp only [Server.step, Server.processClientMessage, isFree, isStage]
      split <;> simp
  | leaving connId =>
      refine ⟨.remove position, rfl, ?_⟩
      simp [Server.step, Server.remove, isFree, isStage]
  | _ => cases waits

/-- Whatever the tasks wait for, one of them can take a step. -/
theorem Running.canStep (waits : Waits server) : CanStep faults server := by
  cases held : server.lock with
  | some guard => exact canStep_of_guard running held
  | none =>
      cases waits with
      | message pending =>
          exact canStep_of_processor running (fun _ => pending) fun _ => held
      | connection position stage isStage waits =>
          exact canStep_of_connection running held isStage waits
      | processor waits =>
          refine canStep_of_processor running ?_ fun _ => held
          intro isIdle
          rw [isIdle] at waits
          cases waits
      | forwarder waits =>
          obtain ⟨notification, isTaken⟩ :=
            Option.isSome_iff_exists.mp waits
          exact ⟨.forward, rfl,
            by simp [Server.step, Server.forward, held, isTaken]⟩
      | guard waits =>
          rw [held] at waits
          cases waits

end Progress

/--
In a run of the server in which no connection hands over a client message
while the message channel is full and the processor is before a lookup in the
hub, no state is stuck.
-/
theorem never_stuck [SerdeJson Value] (faults : Faults)
    (dirs : Map String Db) {server : Server Value}
    (run : Follows (Server.step faults) Unobstructed
      (.start (boot faults dirs)) server) :
    ¬ Stuck faults server := by
  have running := run.invariant Running
    (fun _ _ _ running unobstructed stepped =>
      running.step unobstructed stepped)
    (.boot faults dirs)
  rintro ⟨waits, stuck⟩
  obtain ⟨event, own, possible⟩ := running.canStep waits
  exact possible (stuck event own)

/-! ## A client that fills the message channel -/

/-- `Unobstructed`, as a check. -/
def checkUnobstructed (server : Server Value) : ServerEvent Value → Bool
  | .ask => server.hasRoom || !looksUp server.processor
  | _ => true

theorem unobstructed_of_check (server : Server Value)
    (event : ServerEvent Value)
    (checked : checkUnobstructed server event = true) :
    Unobstructed server event := by
  cases event with
  | ask =>
      intro isFull
      simpa [checkUnobstructed, isFull] using checked
  | _ => trivial

/-- A client connects, and the processor takes up its `ClientConnected`. -/
def connectClient : List (ServerEvent Json) :=
  [.connect ⟨1, allowedBuckets serverOnlyBucketId ⟨some 1, none⟩⟩,
    .register 0, .greet 0 [0], .takeMessage]

/-- The client sends one message. -/
def connectAndSend : List (ServerEvent Json) :=
  connectClient ++ [.receive 0 .empty, .processClientMessage 0, .ask]

/-- A message of the client enters the channel before the lookup. -/
theorem never_stuck_oneMessage :
    ∃ server : Server Json,
      server.messages.items.length = 1 ∧ ¬ Stuck .none server := by
  have ran : (connectAndSend.foldlM (fun server event =>
      if checkUnobstructed server event then server.step .none event
      else none) (.start (boot .none ∅))).map
        (fun server => server.messages.items.length) = some 1 := by
    decide +kernel
  obtain ⟨server, ran, sent⟩ := Option.map_eq_some_iff.mp ran
  exact ⟨server, sent,
    never_stuck .none ∅ (follows_of_checked unobstructed_of_check ran)⟩

/--
The processor is before the lookup of the one client, which has sent a number
of messages.
-/
structure Flooded (sent : Nat) (server : Server Json) : Prop where
  registered : (1 : ConnId) ∈ server.hub.connections
  lock : server.lock = none
  messages : server.messages.items.length = sent
  processor : server.processor = .lookup 1 [0]
  forwarder : server.forwarder = none
  notifications : server.notifications.items = []
  tasks : server.pool.tasks = []
  stages : server.stages = [.serving 1]

/-- The states of runs without storage failures from an empty directory. -/
def FromBoot (server : Server Json) : Prop :=
  Follows (Server.step .none) (fun _ _ => True)
    (.start (boot .none ∅)) server

theorem exists_flooded :
    ∃ server, FromBoot server ∧ Flooded 0 server := by
  have ran : ∃ server, connectClient.foldlM (Server.step .none)
      (.start (boot .none ∅)) = some server ∧ Flooded 0 server := by
    refine ⟨_, rfl, ?_⟩
    exact {
      registered := by decide +kernel
      lock := rfl
      messages := rfl
      processor := rfl
      forwarder := rfl
      notifications := rfl
      tasks := rfl
      stages := rfl }
  obtain ⟨server, ran, flooded⟩ := ran
  exact ⟨server, follows_of_foldlM ran, flooded⟩

namespace Flooded

variable {sent : Nat} {server : Server Json} (flooded : Flooded sent server)

include flooded

/-- The next client message is received, and the hub lock is taken for it. -/
theorem asks (fromBoot : FromBoot server) :
    ∃ event, FromBoot { server with
      lock := some (.sending 0 1 event .asking)
      stages := [.sending] } := by
  obtain ⟨client, present⟩ := Option.isSome_iff_exists.mp
    (Std.ExtTreeMap.mem_iff_isSome_getElem?.mp flooded.registered)
  refine ⟨.wsMessage client.roomId .empty, ?_⟩
  have received : server.step .none (.receive 0 .empty) =
      some { server with stages := [.commanding 1 .empty] } := by
    simp [Server.step, Server.receive, Server.enter, flooded.stages]
  have taken : Server.step .none
      { server with stages := [.commanding 1 .empty] }
      (.processClientMessage 0) =
        some { server with
          lock := some (.sending 0 1 (.wsMessage client.roomId .empty) .asking)
          stages := [.sending] } := by
    simp [Server.step, Server.processClientMessage, Server.enter,
      flooded.lock, present]
  exact (fromBoot.next trivial received).next trivial taken

/-- A client message enters a channel that has room. -/
theorem next (fromBoot : FromBoot server) (room : sent < downstreamCapacity) :
    ∃ after, FromBoot after ∧ Flooded (sent + 1) after := by
  obtain ⟨event, asking⟩ := flooded.asks fromBoot
  obtain ⟨messages, accepted⟩ : ∃ messages,
      server.messages.trySend event = some messages := by
    refine Option.ne_none_iff_exists'.mp fun isFull => ?_
    have full := Channel.trySend_eq_none_iff.mp isFull
    rw [flooded.messages] at full
    exact absurd room (Nat.not_lt.mpr full)
  have items := (Channel.trySend_eq_some_iff.mp accepted).2
  have asked : Server.step .none
      { server with
        lock := some (.sending 0 1 event .asking)
        stages := [.sending] } .ask =
        some { server with
          messages := messages
          lock := none
          stages := [.serving 1] } := by
    simp [Server.step, Server.ask, Server.hasRoom, Server.reserved,
      Server.deliver, Server.enter, flooded.messages, room, accepted]
  refine ⟨_, asking.next trivial asked, ?_⟩
  exact { flooded with
    lock := rfl
    messages := by simp [items, flooded.messages]
    stages := rfl }

/-- A client message on the full channel stops all tasks. -/
theorem stops (fromBoot : FromBoot server)
    (full : sent = downstreamCapacity) :
    ∃ after, FromBoot after ∧ after.lock.isSome = true ∧
      ∀ event final, after.step .none event = some final →
        (∃ command, event = .command command) ∨
          ∃ granted, event = .connect granted := by
  obtain ⟨event, asking⟩ := flooded.asks fromBoot
  have asked : Server.step .none
      { server with
        lock := some (.sending 0 1 event .asking)
        stages := [.sending] } .ask =
        some { server with
          lock := some (.sending 0 1 event .queued)
          stages := [.sending] } := by
    simp [Server.step, Server.ask, Server.hasRoom, Server.reserved,
      flooded.messages, full]
  refine ⟨_, asking.next trivial asked, rfl, ?_⟩
  intro other final stepped
  cases other with
  | command command => exact Or.inl ⟨command, rfl⟩
  | connect granted => exact Or.inr ⟨granted, rfl⟩
  | advance task =>
      simp [Server.step, Pool.advance, flooded.tasks] at stepped
  | register position =>
      simp [Server.step, Server.register] at stepped
  | refuse => simp [Server.step, Server.refuse] at stepped
  | greet position requestedBuckets =>
      cases position <;> simp [Server.step, Server.greet] at stepped
  | drain position =>
      cases position <;> simp [Server.step, Server.drain] at stepped
  | receive position payload =>
      cases position <;> simp [Server.step, Server.receive] at stepped
  | leave position =>
      cases position <;> simp [Server.step, Server.leave] at stepped
  | processClientMessage position =>
      simp [Server.step, Server.processClientMessage] at stepped
  | ask => simp [Server.step, Server.ask] at stepped
  | send => simp [Server.step, Server.send] at stepped
  | remove position => simp [Server.step, Server.remove] at stepped
  | depart position =>
      cases position <;> simp [Server.step, Server.depart] at stepped
  | takeMessage =>
      simp [Server.step, Server.takeMessage, flooded.processor] at stepped
  | lookUp => simp [Server.step, Server.lookUp] at stepped
  | collect iteration =>
      simp [Server.step, Server.collect, flooded.processor] at stepped
  | target => simp [Server.step, Server.target, flooded.processor] at stepped
  | takeNotification =>
      have isEmpty := Channel.recv_eq_none_iff.mpr flooded.notifications
      simp only [Server.notifications] at isEmpty
      simp [Server.step, Server.takeNotification, Server.notifications,
        flooded.forwarder, isEmpty] at stepped
  | forward => simp [Server.step, Server.forward] at stepped

end Flooded

theorem exists_full :
    ∃ server, FromBoot server ∧ Flooded downstreamCapacity server := by
  suffices flooded : ∀ sent, sent ≤ downstreamCapacity →
      ∃ server, FromBoot server ∧ Flooded sent server from
    flooded downstreamCapacity (Nat.le_refl _)
  intro sent
  induction sent with
  | zero => exact fun _ => exists_flooded
  | succ sent ih =>
      intro room
      obtain ⟨server, fromBoot, flooded⟩ := ih (Nat.le_of_succ_le room)
      exact flooded.next fromBoot room

/--
A client that sends messages until the channel is full, while the processor
is before its lookup, leaves a server in which only new commands and new
connections can still arrive.
-/
theorem fullChannel_deadlocks :
    ∃ server : Server Json,
      Follows (Server.step .none) (fun _ _ => True)
        (.start (boot .none ∅)) server ∧
      Stuck .none server ∧
      ∀ event after, server.step .none event = some after →
        (∃ command, event = .command command) ∨
          ∃ granted, event = .connect granted := by
  obtain ⟨server, fromBoot, flooded⟩ := exists_full
  obtain ⟨after, run, held, onlyOutside⟩ := flooded.stops fromBoot rfl
  refine ⟨after, run, ⟨.guard held, ?_⟩, onlyOutside⟩
  intro event own
  cases stepped : after.step .none event with
  | none => rfl
  | some final =>
      rcases onlyOutside event final stepped with ⟨_, rfl⟩ | ⟨_, rfl⟩
      · cases own
      · cases own

end Syncpond.HubDeadlock
