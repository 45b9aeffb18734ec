import Syncpond.Hub
import Syncpond.Sections

/-!
# The server

The kernel with the commands in progress, the hub behind its lock, and the
tasks between them: one task for each connection, the forwarder of the
notification channel, and the processor of the downstream message channel.
Each task is given by the stage that it is in; an event lets one task go on.

The hub lock is held across an await in two places.  A connection that hands a
client message to the kernel awaits capacity of the message channel, and a
connection that the hub did not take awaits the transmission of the refusal.
`HubGuard` is what such a task holds.  Everywhere else the lock is taken and
given back in one event.

Transmissions to a socket are taken to complete.
-/

namespace Syncpond.Tasks

open Syncpond.Protocol
open Syncpond.Serde
open Syncpond.Persistence
open Syncpond.Kernel
open Syncpond.Hub
open Syncpond.Library.Maps
open Syncpond.Library.Channels
open Syncpond.Library.Programs

/-- The most messages that may wait for the kernel. -/
def downstreamCapacity : Nat := 1024

/-! ## The handshake -/

/-- The claims of a validated token. -/
structure Claims where
  roomId : Option RoomId
  buckets : Option (List BucketId)

/-- What a connection was granted. -/
structure Grant where
  roomId : RoomId
  allowedBuckets : FinSet BucketId

/-- The buckets of the claims and bucket 0, without the reserved bucket. -/
def allowedBuckets (reservedBucketId : BucketId) (claims : Claims) :
    FinSet BucketId :=
  let claimed : FinSet BucketId :=
    Std.ExtTreeSet.ofList (claims.buckets.getD []) compare
  (claimed.insert 0).erase reservedBucketId

/-- What the handshake grants, unless the claims name no room. -/
def grant (reservedBucketId : BucketId) (claims : Claims) : Option Grant :=
  match claims.roomId with
  | some roomId =>
      if 0 < roomId then
        some ⟨roomId, allowedBuckets reservedBucketId claims⟩
      else none
  | none => none

/-! ## Tasks -/

/-- Where the task of a connection is. -/
inductive Stage where
  /-- Waits for the hub lock to register. -/
  | registering
  /-- Holds the hub lock until the refusal is transmitted. -/
  | refusing
  /-- Announces itself to the kernel. -/
  | greeting (connId : ConnId)
  /-- In the main loop. -/
  | serving (connId : ConnId)
  /-- Waits for the hub lock to hand a client message over. -/
  | commanding (connId : ConnId) (payload : ByteArray)
  /-- Holds the hub lock until the message is sent. -/
  | sending
  /-- Waits for the hub lock to be removed. -/
  | leaving (connId : ConnId)
  /-- Announces its end to the kernel. -/
  | departing (connId : ConnId)
  | closed

/-- How far a `send().await` on the message channel is. -/
inductive Capacity where
  /-- Not polled yet. -/
  | asking
  /-- Found the channel full, and waits for the next free slot. -/
  | queued
  /-- A slot that became free is kept for it. -/
  | granted
deriving DecidableEq

/-- What a task that holds the hub lock across an await holds it for. -/
inductive HubGuard where
  | refusing (position : Nat)
  | sending (position : Nat) (connId : ConnId) (event : DownstreamMessage)
      (capacity : Capacity)

/-- Where the processor of downstream messages is. -/
inductive Processor (Value : Type) where
  | idle
  /-- Waits for the hub lock to look up the room of a connection. -/
  | lookup (connId : ConnId) (requestedBuckets : List BucketId)
  /-- Waits for the state lock to collect the fragments. -/
  | collect (connId : ConnId) (roomId : RoomId)
      (requestedBuckets : List BucketId)
  /-- Sends the fragments that are left. -/
  | target (connId : ConnId) (roomId : RoomId)
      (updates : List (SyncUpdate Value))

/-- The server.  Connections are numbered in the order of their grants. -/
structure Server (Value : Type) where
  /-- The kernel, and the commands in progress on it. -/
  pool : Pool (SyncpondKernel Value) CommandResponse
  hub : WsHub
  /-- What the hub lock is held for across an await. -/
  lock : Option HubGuard
  messages : Channel DownstreamMessage downstreamCapacity
  processor : Processor Value
  /-- The notification that the forwarder took and did not deliver yet. -/
  forwarder : Option (Sourced (UpdateChannelMessage Value))
  grants : List Grant
  stages : List Stage

variable {Value : Type}

namespace Server

/-- A kernel without commands in progress, and no connections. -/
def start (kernel : SyncpondKernel Value) : Server Value where
  pool := ⟨kernel, [], none⟩
  hub := .new
  lock := none
  messages := .empty
  processor := .idle
  forwarder := none
  grants := []
  stages := []

/-- What waits for the forwarder. -/
def notifications (server : Server Value) : Notifications Value :=
  server.pool.shared.notifications

/-- The server with another notification channel. -/
def withNotifications (server : Server Value)
    (notifications : Notifications Value) : Server Value :=
  { server with
    pool := { server.pool with
      shared := { server.pool.shared with notifications := notifications } } }

/-- Let the task of a connection be in a stage. -/
def enter (server : Server Value) (position : Nat) (stage : Stage) :
    Server Value :=
  { server with stages := server.stages.set position stage }

/-- The slots of the message channel that are kept for a waiting send. -/
def reserved (server : Server Value) : Nat :=
  match server.lock with
  | some (.sending _ _ _ .granted) => 1
  | _ => 0

/-- The message channel has a slot that is not kept for a waiting send. -/
def hasRoom (server : Server Value) : Bool :=
  decide (server.messages.items.length + server.reserved <
    downstreamCapacity)

/-- `try_send` on the message channel, whose error is dropped. -/
def trySend (server : Server Value) (message : DownstreamMessage) :
    Server Value :=
  if server.hasRoom then
    { server with messages := server.messages.sendOrDrop message }
  else server

/-! ### Connections -/

/-- A connection completed its handshake. -/
def connect (server : Server Value) (granted : Grant) : Server Value :=
  { server with
    hub := server.hub.openQueue
    grants := server.grants ++ [granted]
    stages := server.stages ++ [.registering] }

/-- Allocate an id and register, under the hub lock. -/
def register (server : Server Value) (position : Nat) :
    Option (Server Value) :=
  match server.lock, server.stages[position]?, server.grants[position]? with
  | none, some .registering, some granted =>
      let (connId, allocated) := server.hub.allocateConnectionId
      match allocated.addClient connId granted.roomId granted.allowedBuckets
        position with
      | .ok hub =>
          some (enter { server with hub := hub } position (.greeting connId))
      | .error _ =>
          some (enter
            { server with
              hub := allocated
              lock := some (.refusing position) }
            position .refusing)
  | _, _, _ => none

/-- The refusal is transmitted, and the task ends. -/
def refuse (server : Server Value) : Option (Server Value) :=
  match server.lock with
  | some (.refusing position) =>
      some (enter
        { server with
          hub := server.hub.closeQueue position
          lock := none }
        position .closed)
  | _ => none

/-- `ClientConnected`, with the allowed buckets in some order. -/
def greet (server : Server Value) (position : Nat)
    (requestedBuckets : List BucketId) : Option (Server Value) :=
  match server.stages[position]?, server.grants[position]? with
  | some (.greeting connId), some granted =>
      if requestedBuckets.Perm granted.allowedBuckets.toList then
        some (enter
          (server.trySend (.clientConnected connId requestedBuckets))
          position (.serving connId))
      else none
  | _, _ => none

/-- Transmit the oldest frame of the queue. -/
def drain (server : Server Value) (position : Nat) :
    Option (Server Value) :=
  match server.stages[position]? with
  | some (.serving _) =>
      (server.hub.receive position).map fun (_, hub) =>
        { server with hub := hub }
  | _ => none

/-- A client message was received; other frames change nothing. -/
def receive (server : Server Value) (position : Nat) (payload : ByteArray) :
    Option (Server Value) :=
  match server.stages[position]? with
  | some (.serving connId) =>
      some (server.enter position (.commanding connId payload))
  | _ => none

/-- The main loop ends. -/
def leave (server : Server Value) (position : Nat) : Option (Server Value) :=
  match server.stages[position]? with
  | some (.serving connId) => some (server.enter position (.leaving connId))
  | _ => none

/-- `process_client_message` up to its await, with the hub lock taken. -/
def processClientMessage (server : Server Value) (position : Nat) :
    Option (Server Value) :=
  match server.lock, server.stages[position]? with
  | none, some (.commanding connId payload) =>
      match server.hub.connections[connId]? with
      | some client =>
          some (enter
            { server with
              lock := some (.sending position connId
                (.wsMessage client.roomId payload) .asking) }
            position .sending)
      | none => some (server.enter position (.serving connId))
  | _, _ => none

/-- The message enters the channel, and the hub lock is given back. -/
def deliver (server : Server Value) (position : Nat) (connId : ConnId)
    (event : DownstreamMessage) : Option (Server Value) :=
  (server.messages.trySend event).map fun messages =>
    enter { server with messages := messages, lock := none }
      position (.serving connId)

/-- Poll the send: it completes, or waits for capacity. -/
def ask (server : Server Value) : Option (Server Value) :=
  match server.lock with
  | some (.sending position connId event .asking) =>
      if server.hasRoom then server.deliver position connId event
      else
        some { server with
          lock := some (.sending position connId event .queued) }
  | _ => none

/-- A send that was given a slot completes. -/
def send (server : Server Value) : Option (Server Value) :=
  match server.lock with
  | some (.sending position connId event .granted) =>
      server.deliver position connId event
  | _ => none

/-- Remove the client, under the hub lock. -/
def remove (server : Server Value) (position : Nat) :
    Option (Server Value) :=
  match server.lock, server.stages[position]? with
  | none, some (.leaving connId) =>
      some (enter { server with hub := server.hub.removeClient connId }
        position (.departing connId))
  | _, _ => none

/-- `ClientDisconnected`, and the task ends. -/
def depart (server : Server Value) (position : Nat) :
    Option (Server Value) :=
  match server.stages[position]? with
  | some (.departing connId) =>
      let sent := server.trySend (.clientDisconnected connId)
      some (enter { sent with hub := sent.hub.closeQueue position }
        position .closed)
  | _ => none

/-! ### The processor of downstream messages -/

/-- What a downstream message makes the processor do. -/
def process : DownstreamMessage → Processor Value
  | .clientConnected connId requestedBuckets =>
      .lookup connId requestedBuckets
  | .clientDisconnected _ => .idle
  | .wsMessage _ _ => .idle

/-- A slot that becomes free goes to the send that waits for it. -/
def giveSlot : Option HubGuard → Option HubGuard
  | some (.sending position connId event .queued) =>
      some (.sending position connId event .granted)
  | lock => lock

/-- A task that holds the lock keeps it, or has room now. -/
theorem giveSlot_eq_some {lock : Option HubGuard} {guard : HubGuard}
    (given : giveSlot lock = some guard) :
    lock = some guard ∨ ∃ position connId event,
      lock = some (.sending position connId event .queued) ∧
      guard = .sending position connId event .granted := by
  unfold giveSlot at given
  split at given
  · next position connId event =>
    exact Or.inr ⟨position, connId, event, rfl, (Option.some.inj given).symm⟩
  · exact Or.inl given

/-- Receive the next downstream message. -/
def takeMessage (server : Server Value) : Option (Server Value) :=
  match server.processor with
  | .idle =>
      server.messages.recv.map fun (message, rest) =>
        { server with
          messages := rest
          processor := process message
          lock := giveSlot server.lock }
  | _ => none

/-- `get_client_room_id`, under the hub lock. -/
def lookUp (server : Server Value) : Option (Server Value) :=
  match server.lock, server.processor with
  | none, .lookup connId requestedBuckets =>
      match server.hub.getClientRoomId connId with
      | some roomId =>
          some { server with
            processor := .collect connId roomId requestedBuckets }
      | none => some { server with processor := .idle }
  | _, _ => none

/-- Collect the fragments of the requested buckets, under the state lock. -/
def collect [SerdeJson Value] (server : Server Value)
    (iteration : Iteration Value) : Option (Server Value) :=
  match server.pool.holder, server.processor with
  | none, .collect connId roomId requestedBuckets =>
      some { server with
        processor := .target connId roomId
          (collectUpdates iteration server.pool.shared.state roomId
            requestedBuckets) }
  | _, _ => none

/-- Send the next fragment; a full channel ends the initial sync. -/
def target (server : Server Value) : Option (Server Value) :=
  match server.processor with
  | .target connId roomId (update :: rest) =>
      match server.notifications.trySend
        ⟨roomId, none, .targeted connId update.dataUpdate⟩ with
      | some sent =>
          some { server.withNotifications sent with
            processor := .target connId roomId rest }
      | none => some { server with processor := .idle }
  | .target _ _ [] => some { server with processor := .idle }
  | _ => none

/-! ### The forwarder -/

/-- Receive the next notification. -/
def takeNotification (server : Server Value) : Option (Server Value) :=
  match server.forwarder with
  | none =>
      server.notifications.recv.map fun (notification, rest) =>
        { server.withNotifications rest with forwarder := some notification }
  | some _ => none

/-- Forward the notification, under the hub lock. -/
def forward [SerdeJson Value] (server : Server Value) :
    Option (Server Value) :=
  match server.lock, server.forwarder with
  | none, some notification =>
      some { server with
        hub := server.hub.forward notification
        forwarder := none }
  | _, _ => none

/-! ### What each event does -/

section Inversion

variable {server after : Server Value} {position : Nat}

/-- A registration finds the lock free, and succeeds or is refused. -/
theorem register_eq_some (stepped : server.register position = some after) :
    server.lock = none ∧ server.stages[position]? = some .registering ∧
      ∃ granted, server.grants[position]? = some granted ∧
      ((∃ hub,
        server.hub.allocateConnectionId.2.addClient server.hub.nextConnId
          granted.roomId granted.allowedBuckets position = .ok hub ∧
        after = enter { server with hub := hub } position
          (.greeting server.hub.nextConnId)) ∨
      after = enter
        { server with
          hub := server.hub.allocateConnectionId.2
          lock := some (.refusing position) }
        position .refusing) := by
  unfold register at stepped
  split at stepped
  · next granted isFree isRegistering isGranted =>
    refine ⟨isFree, isRegistering, granted, isGranted, ?_⟩
    simp only [WsHub.allocateConnectionId] at stepped ⊢
    split at stepped
    · next hub added =>
      exact Or.inl ⟨hub, added, (Option.some.inj stepped).symm⟩
    · exact Or.inr (Option.some.inj stepped).symm
  · cases stepped

theorem refuse_eq_some (stepped : server.refuse = some after) :
    ∃ position, server.lock = some (.refusing position) ∧
      after = enter
        { server with
          hub := server.hub.closeQueue position
          lock := none }
        position .closed := by
  unfold refuse at stepped
  split at stepped
  · next position isRefusing =>
    exact ⟨position, isRefusing, (Option.some.inj stepped).symm⟩
  · cases stepped

/-- A greeting announces the buckets of the grant, in some order. -/
theorem greet_eq_some {requestedBuckets : List BucketId}
    (stepped : server.greet position requestedBuckets = some after) :
    ∃ connId granted,
      server.stages[position]? = some (.greeting connId) ∧
      server.grants[position]? = some granted ∧
      requestedBuckets.Perm granted.allowedBuckets.toList ∧
      after = enter
        (server.trySend (.clientConnected connId requestedBuckets))
        position (.serving connId) := by
  unfold greet at stepped
  split at stepped
  · next connId granted isGreeting isGranted =>
    split at stepped
    · next perm =>
      exact ⟨connId, granted, isGreeting, isGranted, perm,
        (Option.some.inj stepped).symm⟩
    · cases stepped
  · cases stepped

theorem drain_eq_some (stepped : server.drain position = some after) :
    ∃ frame hub, server.hub.receive position = some (frame, hub) ∧
      after = { server with hub := hub } := by
  unfold drain at stepped
  split at stepped
  · obtain ⟨⟨frame, hub⟩, received, equal⟩ :=
      Option.map_eq_some_iff.mp stepped
    exact ⟨frame, hub, received, equal.symm⟩
  · cases stepped

theorem receive_eq_some {payload : ByteArray}
    (stepped : server.receive position payload = some after) :
    ∃ connId, server.stages[position]? = some (.serving connId) ∧
      after = server.enter position (.commanding connId payload) := by
  unfold receive at stepped
  split at stepped
  · next connId isServing =>
    exact ⟨connId, isServing, (Option.some.inj stepped).symm⟩
  · cases stepped

theorem leave_eq_some (stepped : server.leave position = some after) :
    ∃ connId, server.stages[position]? = some (.serving connId) ∧
      after = server.enter position (.leaving connId) := by
  unfold leave at stepped
  split at stepped
  · next connId isServing =>
    exact ⟨connId, isServing, (Option.some.inj stepped).symm⟩
  · cases stepped

/-- A command takes the lock if its client is known, and is dropped if not. -/
theorem processClientMessage_eq_some
    (stepped : server.processClientMessage position = some after) :
    server.lock = none ∧ ∃ connId payload,
      server.stages[position]? = some (.commanding connId payload) ∧
      ((∃ roomId,
        after = enter
          { server with
            lock := some (.sending position connId
              (.wsMessage roomId payload) .asking) }
          position .sending) ∨
        after = server.enter position (.serving connId)) := by
  unfold processClientMessage at stepped
  split at stepped
  · next connId payload isFree isCommanding =>
    refine ⟨isFree, connId, payload, isCommanding, ?_⟩
    split at stepped
    · exact Or.inl ⟨_, (Option.some.inj stepped).symm⟩
    · exact Or.inr (Option.some.inj stepped).symm
  · cases stepped

/-- A message that is sent is the last one in the channel. -/
theorem deliver_eq_some {connId : ConnId} {event : DownstreamMessage}
    (stepped : server.deliver position connId event = some after) :
    ∃ messages, messages.items = server.messages.items ++ [event] ∧
      after = enter { server with messages := messages, lock := none }
        position (.serving connId) := by
  obtain ⟨messages, sent, equal⟩ := Option.map_eq_some_iff.mp stepped
  exact ⟨messages, (Channel.trySend_eq_some_iff.mp sent).2, equal.symm⟩

/-- A message finds room in the channel, or waits for it. -/
theorem ask_eq_some (stepped : server.ask = some after) :
    ∃ position connId event,
      server.lock = some (.sending position connId event .asking) ∧
      (server.hasRoom = true ∧
        server.deliver position connId event = some after ∨
      server.hasRoom = false ∧
        after = { server with
          lock := some (.sending position connId event .queued) }) := by
  unfold ask at stepped
  split at stepped
  · next position connId event isAsking =>
    refine ⟨position, connId, event, isAsking, ?_⟩
    split at stepped
    · next hasRoom => exact Or.inl ⟨hasRoom, stepped⟩
    · next isFull =>
      exact Or.inr ⟨Bool.eq_false_iff.mpr isFull,
        (Option.some.inj stepped).symm⟩
  · cases stepped

theorem send_eq_some (stepped : server.send = some after) :
    ∃ position connId event,
      server.lock = some (.sending position connId event .granted) ∧
      server.deliver position connId event = some after := by
  unfold send at stepped
  split at stepped
  · next position connId event isGranted =>
    exact ⟨position, connId, event, isGranted, stepped⟩
  · cases stepped

theorem remove_eq_some (stepped : server.remove position = some after) :
    server.lock = none ∧ ∃ connId,
      server.stages[position]? = some (.leaving connId) ∧
      after = enter { server with hub := server.hub.removeClient connId }
        position (.departing connId) := by
  unfold remove at stepped
  split at stepped
  · next connId isFree isLeaving =>
    exact ⟨isFree, connId, isLeaving, (Option.some.inj stepped).symm⟩
  · cases stepped

/-- A connection that ends announces it, and closes its queue. -/
theorem depart_eq_some (stepped : server.depart position = some after) :
    ∃ connId, server.stages[position]? = some (.departing connId) ∧
      let sent := server.trySend (.clientDisconnected connId)
      after = enter { sent with hub := sent.hub.closeQueue position }
        position .closed := by
  unfold depart at stepped
  split at stepped
  · next connId isDeparting =>
    exact ⟨connId, isDeparting, (Option.some.inj stepped).symm⟩
  · cases stepped

/-- The processor takes the first message, which makes room. -/
theorem takeMessage_eq_some (stepped : server.takeMessage = some after) :
    server.processor = .idle ∧ ∃ message rest,
      server.messages.items = message :: rest.items ∧
      after = { server with
        messages := rest
        processor := process message
        lock := giveSlot server.lock } := by
  unfold takeMessage at stepped
  split at stepped
  · next isIdle =>
    obtain ⟨⟨message, rest⟩, received, equal⟩ :=
      Option.map_eq_some_iff.mp stepped
    exact ⟨isIdle, message, rest, Channel.recv_eq_some_iff.mp received,
      equal.symm⟩
  · cases stepped

/-- The processor finds the room of the client, or gives up. -/
theorem lookUp_eq_some (stepped : server.lookUp = some after) :
    ∃ connId requestedBuckets,
      server.processor = .lookup connId requestedBuckets ∧
      ((∃ client, server.hub.connections[connId]? = some client ∧
        after = { server with
          processor := .collect connId client.roomId requestedBuckets }) ∨
      server.hub.connections[connId]? = none ∧
        after = { server with processor := .idle }) := by
  unfold lookUp at stepped
  split at stepped
  · next connId requestedBuckets _ isLookup =>
    refine ⟨connId, requestedBuckets, isLookup, ?_⟩
    split at stepped
    · next roomId found =>
      obtain ⟨client, isClient, rfl⟩ := Option.map_eq_some_iff.mp found
      exact Or.inl ⟨client, isClient, (Option.some.inj stepped).symm⟩
    · next absent =>
      exact Or.inr ⟨Option.map_eq_none_iff.mp absent,
        (Option.some.inj stepped).symm⟩
  · cases stepped

/-- The processor collects what the client asked for. -/
theorem collect_eq_some [SerdeJson Value] {iteration : Iteration Value}
    (stepped : server.collect iteration = some after) :
    ∃ connId roomId requestedBuckets,
      server.processor = .collect connId roomId requestedBuckets ∧
      after = { server with
        processor := .target connId roomId
          (collectUpdates iteration server.pool.shared.state roomId
            requestedBuckets) } := by
  unfold collect at stepped
  split at stepped
  · next connId roomId requestedBuckets _ isCollect =>
    exact ⟨connId, roomId, requestedBuckets, isCollect,
      (Option.some.inj stepped).symm⟩
  · cases stepped

/--
The processor sends the next update, or ends with the last or a full channel.
-/
theorem target_eq_some (stepped : server.target = some after) :
    ∃ connId roomId updates,
      server.processor = .target connId roomId updates ∧
      ((∃ update rest sent, updates = update :: rest ∧
        sent.items = server.notifications.items ++
          [⟨roomId, none, .targeted connId update.dataUpdate⟩] ∧
        after = { server.withNotifications sent with
          processor := .target connId roomId rest }) ∨
      (updates ≠ [] →
        notificationCapacity ≤ server.notifications.items.length) ∧
        after = { server with processor := .idle }) := by
  unfold target at stepped
  split at stepped
  · next connId roomId update rest isTarget =>
    refine ⟨connId, roomId, update :: rest, isTarget, ?_⟩
    split at stepped
    · next sent accepted =>
      exact Or.inl ⟨update, rest, sent, rfl,
        (Channel.trySend_eq_some_iff.mp accepted).2,
        (Option.some.inj stepped).symm⟩
    · next isFull =>
      exact Or.inr ⟨fun _ => Channel.trySend_eq_none_iff.mp isFull,
        (Option.some.inj stepped).symm⟩
  · next connId roomId isTarget =>
    exact ⟨connId, roomId, [], isTarget,
      Or.inr ⟨fun some => absurd rfl some, (Option.some.inj stepped).symm⟩⟩
  · cases stepped

theorem takeNotification_eq_some
    (stepped : server.takeNotification = some after) :
    server.forwarder = none ∧ ∃ notification rest,
      server.notifications.items = notification :: rest.items ∧
      after = { server.withNotifications rest with
        forwarder := some notification } := by
  unfold takeNotification at stepped
  split at stepped
  · next isFree =>
    obtain ⟨⟨notification, rest⟩, received, equal⟩ :=
      Option.map_eq_some_iff.mp stepped
    exact ⟨isFree, notification, rest, Channel.recv_eq_some_iff.mp received,
      equal.symm⟩
  · cases stepped

/-- The forwarder hands its notification to the hub. -/
theorem forward_eq_some [SerdeJson Value]
    (stepped : server.forward = some after) :
    ∃ notification, server.forwarder = some notification ∧
      after = { server with
        hub := server.hub.forward notification
        forwarder := none } := by
  unfold forward at stepped
  split at stepped
  · next notification _ isTaken =>
    exact ⟨notification, isTaken, (Option.some.inj stepped).symm⟩
  · cases stepped

end Inversion

end Server

/-! ## Runs -/

/-- What happens to a server, one event at a time. -/
inductive ServerEvent (Value : Type) where
  /-- A command arrives. -/
  | command (command : Commands)
  /-- A command in progress executes its next section. -/
  | advance (task : Nat)
  | connect (granted : Grant)
  | register (position : Nat)
  | refuse
  | greet (position : Nat) (requestedBuckets : List BucketId)
  | drain (position : Nat)
  | receive (position : Nat) (payload : ByteArray)
  | leave (position : Nat)
  | processClientMessage (position : Nat)
  | ask
  | send
  | remove (position : Nat)
  | depart (position : Nat)
  | takeMessage
  | lookUp
  | collect (iteration : Iteration Value)
  | target
  | takeNotification
  | forward

/-- The server after an event, if the event can happen. -/
def Server.step [SerdeJson Value] (faults : Faults)
    (server : Server Value) : ServerEvent Value → Option (Server Value)
  | .command command =>
      some { server with
        pool := server.pool.spawn (handleCommand faults command) }
  | .advance task =>
      (server.pool.advance task).map fun pool => { server with pool := pool }
  | .connect granted => some (server.connect granted)
  | .register position => server.register position
  | .refuse => server.refuse
  | .greet position requestedBuckets => server.greet position requestedBuckets
  | .drain position => server.drain position
  | .receive position payload => server.receive position payload
  | .leave position => server.leave position
  | .processClientMessage position => server.processClientMessage position
  | .ask => server.ask
  | .send => server.send
  | .remove position => server.remove position
  | .depart position => server.depart position
  | .takeMessage => server.takeMessage
  | .lookUp => server.lookUp
  | .collect iteration => server.collect iteration
  | .target => server.target
  | .takeNotification => server.takeNotification
  | .forward => server.forward

end Syncpond.Tasks
