import Syncpond.Library.Runs
import Syncpond.Registration

/-!
# The way of a frame

A `Trace` is a server with what was seen of it: the commands that were given,
the frames that were transmitted, and what the kernel collected for each
initial sync.  The frames that were enqueued to a connection are those
transmitted to it followed by those in its queue.

Most events do not concern the way of a frame; `Aside` says what they leave
alone.  The other ones are handled one by one where they matter.
-/

namespace Syncpond.Delivery

open Syncpond.Protocol
open Syncpond.Serde
open Syncpond.Persistence
open Syncpond.Kernel
open Syncpond.Hub
open Syncpond.HubDelivery
open Syncpond.Tasks
open Syncpond.Registration
open Syncpond.Library.Maps
open Syncpond.Library.Channels
open Syncpond.Library.Programs
open Syncpond.Library.Runs

variable {Value : Type}

/-! ## Traces -/

/-- What the kernel collected for the initial sync of a client. -/
structure InitialSync (Value : Type) where
  connId : ConnId
  roomId : RoomId
  requestedBuckets : List BucketId
  updates : List (SyncUpdate Value)

/-- A server, and what was seen of it. -/
structure Trace (Value : Type) where
  server : Server Value
  /-- The commands, in the order of their start. -/
  commands : List Commands
  /-- The frames that were transmitted, with the position of the connection. -/
  transmitted : List (Nat × Frame)
  collected : List (InitialSync Value)

/-- The command that an event starts. -/
def startedBy : ServerEvent Value → List Commands
  | .command command => [command]
  | _ => []

/-- The frame that an event transmits. -/
def transmittedBy (server : Server Value) :
    ServerEvent Value → List (Nat × Frame)
  | .drain position =>
      match server.hub.receive position with
      | some (frame, _) => [(position, frame)]
      | none => []
  | _ => []

namespace Trace

def start (kernel : SyncpondKernel Value) : Trace Value :=
  ⟨.start kernel, [], [], []⟩

/-- The frames that were enqueued to a connection, oldest first. -/
def enqueued (trace : Trace Value) (position : Nat) : List Frame :=
  (trace.transmitted.filterMap fun (receiver, frame) =>
    if receiver = position then some frame else none) ++
    pending trace.server.hub position

end Trace

/-! ## Events that do not concern frames -/

/-- What an event that does not concern the way of a frame leaves alone. -/
structure Aside (trace after : Trace Value) : Prop where
  pool : after.server.pool = trace.server.pool
  processor : after.server.processor = trace.server.processor
  forwarder : after.server.forwarder = trace.server.forwarder
  commands : after.commands = trace.commands
  collected : after.collected = trace.collected
  enqueued : ∀ position, after.enqueued position = trace.enqueued position
  messages : ∀ message ∈ trace.server.messages.items,
    message ∈ after.server.messages.items
  greeting : ∀ (position : Nat) (connId : ConnId),
    trace.server.stages[position]? = some (.greeting connId) →
    after.server.stages[position]? = some (.greeting connId)
  grants : trace.server.grants <+: after.server.grants

/-- A task that is not greeting enters another stage. -/
theorem greeting_enter {server : Server Value} {position : Nat}
    {stage next : Stage} (isStage : server.stages[position]? = some stage)
    (notGreeting : ∀ connId, stage ≠ .greeting connId) {other : Nat}
    {connId : ConnId}
    (isGreeting : server.stages[other]? = some (.greeting connId)) :
    (server.stages.set position next)[other]? = some (.greeting connId) := by
  rw [List.getElem?_set_ne, isGreeting]
  rintro rfl
  exact notGreeting connId (Option.some.inj (isStage.symm.trans isGreeting))

theorem mem_messages_trySend {server : Server Value}
    {message other : DownstreamMessage}
    (member : other ∈ server.messages.items) :
    other ∈ (server.trySend message).messages.items := by
  unfold Server.trySend
  split
  · exact Channel.mem_sendOrDrop_of_mem member
  · exact member

theorem mem_messages_trySend_self {server : Server Value}
    {message : DownstreamMessage} (room : server.hasRoom = true) :
    message ∈ (server.trySend message).messages.items := by
  have fits : server.messages.items.length < downstreamCapacity :=
    Nat.lt_of_le_of_lt (Nat.le_add_right _ _) (of_decide_eq_true room)
  simp [Server.trySend, room, Channel.items_sendOrDrop_of_lt fits]

@[simp]
theorem pending_closeQueue (hub : WsHub) (position other : Nat) :
    pending (hub.closeQueue position) other = pending hub other := by
  unfold WsHub.closeQueue
  split
  · next queue found =>
    rw [pending_setQueue found]
    split
    · next same => exact same ▸ (pending_eq found).symm
    · rfl
  · rfl

@[simp]
theorem pending_openQueue (hub : WsHub) (position : Nat) :
    pending hub.openQueue position = pending hub position := by
  unfold pending
  rcases Nat.lt_trichotomy position hub.queues.length with
    inside | rfl | outside
  · rw [WsHub.openQueue, List.getElem?_append_left inside]
  · simp [WsHub.openQueue, Queue.empty]
  · have beyond : hub.openQueue.queues.length ≤ position := by
      simpa [WsHub.openQueue] using Nat.succ_le_of_lt outside
    rw [List.getElem?_eq_none beyond,
      List.getElem?_eq_none (Nat.le_of_lt outside)]

/-- A frame that is taken from its queue is transmitted. -/
theorem enqueued_receive {trace : Trace Value} {position : Nat}
    {frame : Frame} {hub : WsHub}
    (received : trace.server.hub.receive position = some (frame, hub))
    (other : Nat) :
    Trace.enqueued
        { trace with
          server := { trace.server with hub := hub }
          transmitted := trace.transmitted ++ [(position, frame)] } other =
      trace.enqueued other := by
  obtain ⟨queue, rest, found, items, rfl⟩ := WsHub.receive_eq_some received
  simp only [Trace.enqueued, List.filterMap_append, pending_setQueue found]
  split
  · next same =>
    subst same
    simp [pending_eq found, items]
  · next different => simp [different]

section Quiet

variable {trace : Trace Value} {server : Server Value}

/-- Only the queues, the messages and the stages may change. -/
theorem Aside.of_server (pool : server.pool = trace.server.pool)
    (processor : server.processor = trace.server.processor)
    (forwarder : server.forwarder = trace.server.forwarder)
    (queues : ∀ position, pending server.hub position =
      pending trace.server.hub position)
    (messages : ∀ message ∈ trace.server.messages.items,
      message ∈ server.messages.items)
    (greeting : ∀ (position : Nat) (connId : ConnId),
      trace.server.stages[position]? = some (.greeting connId) →
      server.stages[position]? = some (.greeting connId))
    (grants : trace.server.grants <+: server.grants) :
    Aside trace { trace with server := server } where
  pool := pool
  processor := processor
  forwarder := forwarder
  commands := rfl
  collected := rfl
  enqueued position := by rw [Trace.enqueued, Trace.enqueued, queues]
  messages := messages
  greeting := greeting
  grants := grants

/-- A task enters a stage after another one than the greeting. -/
theorem Aside.enter {position : Nat} {stage next : Stage}
    (isStage : trace.server.stages[position]? = some stage)
    (notGreeting : ∀ connId, stage ≠ .greeting connId)
    (aside : Aside trace { trace with server := server })
    (stages : server.stages = trace.server.stages) :
    Aside trace { trace with server := server.enter position next } :=
  { aside with
    enqueued := aside.enqueued
    greeting := fun other connId isGreeting => by
      rw [Server.enter, stages]
      exact greeting_enter isStage notGreeting isGreeting }

/-- A task enters another stage, and the queues keep what they have. -/
theorem Aside.moves {position : Nat} {stage next : Stage}
    (isStage : trace.server.stages[position]? = some stage)
    (notGreeting : ∀ connId, stage ≠ .greeting connId) {hub : WsHub}
    {lock : Option HubGuard}
    (queues : ∀ other, pending hub other = pending trace.server.hub other) :
    Aside trace
      { trace with
        server := Server.enter
          { trace.server with
            hub := hub
            lock := lock } position next } :=
  .enter isStage notGreeting (.of_server rfl rfl rfl queues (fun _ => id)
    (fun _ _ => id) (List.prefix_refl _)) rfl

theorem Aside.deliver (guarded : Guarded trace.server) {position : Nat}
    {connId : ConnId} {event : DownstreamMessage} {capacity : Capacity}
    (held : trace.server.lock =
      some (.sending position connId event capacity))
    (delivered : trace.server.deliver position connId event = some server) :
    Aside trace { trace with server := server } := by
  obtain ⟨messages, items, rfl⟩ := Server.deliver_eq_some delivered
  refine .enter (guarded.sending position connId event capacity held)
    (by simp) ?_ rfl
  refine .of_server rfl rfl rfl (fun _ => rfl) ?_ (fun _ _ => id)
    (List.prefix_refl _)
  intro message member
  exact items ▸ List.mem_append_left _ member

end Quiet

/-! ## Steps -/

variable [SerdeJson Value]

/-- What an event collects. -/
def collectedBy (server : Server Value) :
    ServerEvent Value → List (InitialSync Value)
  | .collect iteration =>
      match server.processor with
      | .collect connId roomId requestedBuckets =>
          [⟨connId, roomId, requestedBuckets,
            collectUpdates iteration server.pool.shared.state roomId
              requestedBuckets⟩]
      | _ => []
  | _ => []

namespace Trace

/-- The trace with what an event showed. -/
def observe (trace : Trace Value) (event : ServerEvent Value)
    (after : Server Value) : Trace Value where
  server := after
  commands := trace.commands ++ startedBy event
  transmitted := trace.transmitted ++ transmittedBy trace.server event
  collected := trace.collected ++ collectedBy trace.server event

/-- The trace after an event, if the event can happen. -/
def step (faults : Faults) (trace : Trace Value)
    (event : ServerEvent Value) : Option (Trace Value) :=
  (trace.server.step faults event).map (trace.observe event)

/-- An event that shows nothing. -/
theorem observe_eq {trace : Trace Value} {event : ServerEvent Value}
    {after : Server Value} (started : startedBy event = [])
    (transmitted : transmittedBy trace.server event = [])
    (collected : collectedBy trace.server event = []) :
    trace.observe event after = { trace with server := after } := by
  simp [observe, started, transmitted, collected]

end Trace

/-- What a step does on the way of a frame. -/
inductive Passage (faults : Faults) (trace : Trace Value) :
    ServerEvent Value → Trace Value → Prop
  | aside {event : ServerEvent Value} {after : Trace Value}
      (notAdvance : ∀ task, event ≠ .advance task)
      (aside : Aside trace after) : Passage faults trace event after
  | command (command : Commands) :
      Passage faults trace (.command command)
        { trace with
          server := { trace.server with
            pool := trace.server.pool.spawn (handleCommand faults command) }
          commands := trace.commands ++ [command] }
  | advance (task : Nat) (pool : Pool (SyncpondKernel Value) CommandResponse)
      (advanced : trace.server.pool.advance task = some pool) :
      Passage faults trace (.advance task)
        { trace with server := { trace.server with pool := pool } }
  | greet (position : Nat) (connId : ConnId) (granted : Grant)
      (requestedBuckets : List BucketId)
      (isGreeting :
        trace.server.stages[position]? = some (.greeting connId))
      (isGranted : trace.server.grants[position]? = some granted)
      (perm : requestedBuckets.Perm granted.allowedBuckets.toList) :
      Passage faults trace (.greet position requestedBuckets)
        { trace with
          server := Server.enter
            (trace.server.trySend (.clientConnected connId requestedBuckets))
            position (.serving connId) }
  | takeMessage (message : DownstreamMessage)
      (rest : Channel DownstreamMessage downstreamCapacity)
      (isIdle : trace.server.processor = .idle)
      (items : trace.server.messages.items = message :: rest.items) :
      Passage faults trace .takeMessage
        { trace with
          server := { trace.server with
            messages := rest
            processor := Server.process message
            lock := Server.giveSlot trace.server.lock } }
  | lookUp (connId : ConnId) (requestedBuckets : List BucketId)
      (client : ClientInfo)
      (isLookup : trace.server.processor = .lookup connId requestedBuckets)
      (present : trace.server.hub.connections[connId]? = some client) :
      Passage faults trace .lookUp
        { trace with
          server := { trace.server with
            processor := .collect connId client.roomId requestedBuckets } }
  | lookUpFailed (connId : ConnId) (requestedBuckets : List BucketId)
      (isLookup : trace.server.processor = .lookup connId requestedBuckets)
      (absent : trace.server.hub.connections[connId]? = none) :
      Passage faults trace .lookUp
        { trace with
          server := { trace.server with processor := .idle } }
  | collect (iteration : Iteration Value) (connId : ConnId)
      (roomId : RoomId) (requestedBuckets : List BucketId)
      (isCollect :
        trace.server.processor = .collect connId roomId requestedBuckets) :
      Passage faults trace (.collect iteration)
        { trace with
          server := { trace.server with
            processor := .target connId roomId
              (collectUpdates iteration trace.server.pool.shared.state roomId
                requestedBuckets) }
          collected := trace.collected ++
            [⟨connId, roomId, requestedBuckets,
              collectUpdates iteration trace.server.pool.shared.state roomId
                requestedBuckets⟩] }
  | target (connId : ConnId) (roomId : RoomId) (update : SyncUpdate Value)
      (rest : List (SyncUpdate Value)) (sent : Notifications Value)
      (isTarget :
        trace.server.processor = .target connId roomId (update :: rest))
      (items : sent.items = trace.server.notifications.items ++
        [⟨roomId, none, .targeted connId update.dataUpdate⟩]) :
      Passage faults trace .target
        { trace with
          server := { trace.server.withNotifications sent with
            processor := .target connId roomId rest } }
  | targetEnded (connId : ConnId) (roomId : RoomId)
      (updates : List (SyncUpdate Value))
      (isTarget : trace.server.processor = .target connId roomId updates)
      (isFull : updates ≠ [] →
        notificationCapacity ≤ trace.server.notifications.items.length) :
      Passage faults trace .target
        { trace with
          server := { trace.server with processor := .idle } }
  | takeNotification (notification : Sourced (UpdateChannelMessage Value))
      (rest : Notifications Value)
      (isFree : trace.server.forwarder = none)
      (items : trace.server.notifications.items =
        notification :: rest.items) :
      Passage faults trace .takeNotification
        { trace with
          server := { trace.server.withNotifications rest with
            forwarder := some notification } }
  | forward (notification : Sourced (UpdateChannelMessage Value))
      (isTaken : trace.server.forwarder = some notification) :
      Passage faults trace .forward
        { trace with
          server := { trace.server with
            hub := trace.server.hub.forward notification
            forwarder := none } }

section Observed

variable {faults : Faults} {trace : Trace Value} {server : Server Value}

/-- A new connection has an empty queue. -/
theorem passage_connect {granted : Grant}
    (served : trace.server.step faults (.connect granted) = some server) :
    Passage faults trace (.connect granted)
      (trace.observe (.connect granted) server) := by
  cases served
  rw [Trace.observe_eq rfl rfl rfl]
  refine .aside (by simp) (.of_server rfl rfl rfl (pending_openQueue _)
    (fun _ => id) ?_ (List.prefix_append _ _))
  intro position connId isGreeting
  exact (List.getElem?_append_left
    (List.getElem?_eq_some_iff.mp isGreeting).1).trans isGreeting

/-- A registration, or its refusal, enqueues nothing. -/
theorem passage_register {position : Nat}
    (served : trace.server.step faults (.register position) = some server) :
    Passage faults trace (.register position)
      (trace.observe (.register position) server) := by
  rw [Trace.observe_eq rfl rfl rfl]
  obtain ⟨_, isRegistering, granted, _, ⟨hub, added, rfl⟩ | rfl⟩ :=
    Server.register_eq_some served
  · cases WsHub.addClient_eq_ok added
    exact .aside (by simp) (.moves isRegistering (by simp) fun _ => rfl)
  · exact .aside (by simp) (.moves isRegistering (by simp) fun _ => rfl)

/-- A frame that leaves its queue is transmitted. -/
theorem passage_drain {position : Nat}
    (served : trace.server.step faults (.drain position) = some server) :
    Passage faults trace (.drain position)
      (trace.observe (.drain position) server) := by
  obtain ⟨frame, hub, received, rfl⟩ := Server.drain_eq_some served
  have equal : trace.observe (.drain position)
      { trace.server with hub := hub } =
      { trace with
        server := { trace.server with hub := hub }
        transmitted := trace.transmitted ++ [(position, frame)] } := by
    simp [Trace.observe, startedBy, transmittedBy, collectedBy, received]
  rw [equal]
  exact .aside (by simp) ⟨rfl, rfl, rfl, rfl, rfl, enqueued_receive received,
    fun _ => id, fun _ _ => id, List.prefix_refl _⟩

/-- A command of a client enqueues nothing. -/
theorem passage_processClientMessage {position : Nat}
    (served : trace.server.step faults (.processClientMessage position) =
      some server) :
    Passage faults trace (.processClientMessage position)
      (trace.observe (.processClientMessage position) server) := by
  rw [Trace.observe_eq rfl rfl rfl]
  obtain ⟨_, connId, payload, isCommanding, ⟨roomId, rfl⟩ | rfl⟩ :=
    Server.processClientMessage_eq_some served
  · exact .aside (by simp) (.moves isCommanding (by simp) fun _ => rfl)
  · exact .aside (by simp) (.moves isCommanding (by simp) fun _ => rfl)

/-- A message that asks for room in the channel enqueues nothing. -/
theorem passage_ask (guarded : Guarded trace.server)
    (served : trace.server.step faults .ask = some server) :
    Passage faults trace .ask (trace.observe .ask server) := by
  rw [Trace.observe_eq rfl rfl rfl]
  obtain ⟨position, connId, event, isAsking, ⟨_, delivered⟩ | ⟨_, rfl⟩⟩ :=
    Server.ask_eq_some served
  · exact .aside (by simp) (.deliver guarded isAsking delivered)
  · exact .aside (by simp) (.of_server rfl rfl rfl (fun _ => rfl) (fun _ => id)
      (fun _ _ => id) (List.prefix_refl _))

/-- A client that is removed keeps what is in its queue. -/
theorem passage_remove {position : Nat}
    (served : trace.server.step faults (.remove position) = some server) :
    Passage faults trace (.remove position)
      (trace.observe (.remove position) server) := by
  rw [Trace.observe_eq rfl rfl rfl]
  obtain ⟨_, connId, isLeaving, rfl⟩ := Server.remove_eq_some served
  refine .aside (by simp) (.moves isLeaving (by simp) fun _ => ?_)
  rw [pending, WsHub.queues_removeClient, ← pending]

/-- The end of a connection enqueues nothing. -/
theorem passage_depart {position : Nat}
    (served : trace.server.step faults (.depart position) = some server) :
    Passage faults trace (.depart position)
      (trace.observe (.depart position) server) := by
  rw [Trace.observe_eq rfl rfl rfl]
  obtain ⟨connId, isDeparting, rfl⟩ := Server.depart_eq_some served
  refine .aside (by simp) (.enter isDeparting (by simp)
    (.of_server ?_ ?_ ?_ (fun _ => ?_)
      (fun _ => mem_messages_trySend) ?_ ?_) ?_)
  all_goals simp

/-- The processor finds the client, or gives up. -/
theorem passage_lookUp
    (served : trace.server.step faults .lookUp = some server) :
    Passage faults trace .lookUp (trace.observe .lookUp server) := by
  rw [Trace.observe_eq rfl rfl rfl]
  obtain ⟨connId, requestedBuckets, isLookup,
      ⟨client, present, rfl⟩ | ⟨absent, rfl⟩⟩ :=
    Server.lookUp_eq_some served
  · exact .lookUp connId requestedBuckets client isLookup present
  · exact .lookUpFailed connId requestedBuckets isLookup absent

/-- What the processor collects is observed. -/
theorem passage_collect {iteration : Iteration Value}
    (served : trace.server.step faults (.collect iteration) = some server) :
    Passage faults trace (.collect iteration)
      (trace.observe (.collect iteration) server) := by
  obtain ⟨connId, roomId, requestedBuckets, isCollect, rfl⟩ :=
    Server.collect_eq_some served
  have collected : Passage faults trace (.collect iteration) _ :=
    .collect iteration connId roomId requestedBuckets isCollect
  simpa [Trace.observe, startedBy, transmittedBy, collectedBy, isCollect]
    using collected

/-- The processor sends the next update, or ends. -/
theorem passage_target
    (served : trace.server.step faults .target = some server) :
    Passage faults trace .target (trace.observe .target server) := by
  rw [Trace.observe_eq rfl rfl rfl]
  obtain ⟨connId, roomId, updates, isTarget,
      ⟨update, rest, sent, rfl, items, rfl⟩ | ⟨isFull, rfl⟩⟩ :=
    Server.target_eq_some served
  · exact .target connId roomId update rest sent isTarget items
  · exact .targetEnded connId roomId updates isTarget isFull

end Observed

/-- Every step is one on the way of a frame. -/
theorem passage {faults : Faults} {trace after : Trace Value}
    {event : ServerEvent Value} (guarded : Guarded trace.server)
    (stepped : trace.step faults event = some after) :
    Passage faults trace event after := by
  obtain ⟨server, served, rfl⟩ := Option.map_eq_some_iff.mp stepped
  cases event with
  | command command =>
      cases served
      have started : Passage faults trace (.command command) _ :=
        .command command
      simpa [Trace.observe, startedBy, transmittedBy, collectedBy] using
        started
  | advance task =>
      obtain ⟨pool, advanced, rfl⟩ := Option.map_eq_some_iff.mp served
      rw [Trace.observe_eq rfl rfl rfl]
      exact .advance task pool advanced
  | connect granted => exact passage_connect served
  | register position => exact passage_register served
  | refuse =>
      rw [Trace.observe_eq rfl rfl rfl]
      obtain ⟨position, held, rfl⟩ := Server.refuse_eq_some served
      exact .aside (by simp) (.moves (guarded.refusing position held) (by simp)
        (pending_closeQueue _ _))
  | greet position requestedBuckets =>
      rw [Trace.observe_eq rfl rfl rfl]
      obtain ⟨connId, granted, isGreeting, isGranted, perm, rfl⟩ :=
        Server.greet_eq_some served
      exact .greet position connId granted requestedBuckets isGreeting
        isGranted perm
  | drain position => exact passage_drain served
  | receive position payload =>
      rw [Trace.observe_eq rfl rfl rfl]
      obtain ⟨connId, isServing, rfl⟩ := Server.receive_eq_some served
      exact .aside (by simp) (.moves isServing (by simp) fun _ => rfl)
  | leave position =>
      rw [Trace.observe_eq rfl rfl rfl]
      obtain ⟨connId, isServing, rfl⟩ := Server.leave_eq_some served
      exact .aside (by simp) (.moves isServing (by simp) fun _ => rfl)
  | processClientMessage position => exact passage_processClientMessage served
  | ask => exact passage_ask guarded served
  | send =>
      rw [Trace.observe_eq rfl rfl rfl]
      obtain ⟨position, connId, event, isGranted, delivered⟩ :=
        Server.send_eq_some served
      exact .aside (by simp) (.deliver guarded isGranted delivered)
  | remove position => exact passage_remove served
  | depart position => exact passage_depart served
  | takeMessage =>
      rw [Trace.observe_eq rfl rfl rfl]
      obtain ⟨isIdle, message, rest, items, rfl⟩ :=
        Server.takeMessage_eq_some served
      exact .takeMessage message rest isIdle items
  | lookUp => exact passage_lookUp served
  | collect iteration => exact passage_collect served
  | target => exact passage_target served
  | takeNotification =>
      rw [Trace.observe_eq rfl rfl rfl]
      obtain ⟨isFree, notification, rest, items, rfl⟩ :=
        Server.takeNotification_eq_some served
      exact .takeNotification notification rest isFree items
  | forward =>
      rw [Trace.observe_eq rfl rfl rfl]
      obtain ⟨notification, isTaken, rfl⟩ := Server.forward_eq_some served
      exact .forward notification isTaken

end Syncpond.Delivery
