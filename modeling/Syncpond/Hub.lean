import Syncpond.Library.Channel
import Syncpond.Library.Maps
import Syncpond.Serde

/-!
# The hub of websocket clients

The hub keeps the registered connections, an index from buckets to the
connections that subscribe to them, and a sender to the queue of each
connection.  An update goes either to one client or to all subscribers of its
bucket; a client whose queue does not take a frame is removed.

A frame is the protobuf message before its encoding.  The queues live outside
the hub in the source; here they are a list that senders point into.
-/

namespace Syncpond.Hub

open Syncpond.Protocol
open Syncpond.Serde
open Syncpond.Library.Maps
open Syncpond.Library.Channels

/-- The most clients that may subscribe to a bucket. -/
def maxWsClientsPerBucket : Nat := 200

/-- The most frames that may wait for a connection. -/
def maxWsPendingMessages : Nat := 256

/-- The `DataUpdate` payload of a frame. -/
structure ProtoDataUpdate where
  bucketId : BucketId
  key : String
  value : ByteArray
  bucketCounter : UInt64
  deleted : Bool

/-- The frame of an update. -/
def updateEvent {Value : Type} [SerdeJson Value] (update : DataUpdate Value) :
    ProtoDataUpdate where
  bucketId := update.bucketId
  key := update.key
  value :=
    (update.value.bind fun value =>
      (SerdeJson.value.toVec value).toOption).getD .empty
  bucketCounter := update.bucketCounter
  deleted := update.value.isNone

/-- A frame with the room of the update that it was made from. -/
abbrev Frame := Sourced ProtoDataUpdate

/-- The frame of an update, with the origin of the update. -/
def Frame.of {Value : Type} [SerdeJson Value]
    (update : Sourced (DataUpdate Value)) : Frame :=
  ⟨update.origin, update.assigned, updateEvent update.content⟩

/-! ## Queues -/

/-- The queue of a connection, closed once its receiver is dropped. -/
structure Queue where
  frames : Channel Frame maxWsPendingMessages
  closed : Bool

/-- Why a queue does not take a frame. -/
inductive TrySendError where
  | full
  | closed

namespace Queue

/-- The queue of a new connection. -/
def empty : Queue := ⟨.empty, false⟩

/-- The queue takes a frame. -/
def Accepts (queue : Queue) : Prop :=
  queue.closed = false ∧ queue.frames.items.length < maxWsPendingMessages

/-- Put a frame into the queue, without waiting for room. -/
def trySend (queue : Queue) (frame : Frame) : Except TrySendError Queue :=
  if queue.closed then .error .closed
  else
    match queue.frames.trySend frame with
    | some frames => .ok { queue with frames := frames }
    | none => .error .full

/-- A queue that takes a frame accepts it at its end. -/
theorem trySend_eq_ok {queue sent : Queue} {frame : Frame}
    (equal : queue.trySend frame = .ok sent) :
    queue.Accepts ∧ sent.closed = false ∧
      sent.frames.items = queue.frames.items ++ [frame] := by
  unfold trySend at equal
  split at equal
  · cases equal
  · next isOpen =>
    split at equal
    · next frames accepted =>
      cases equal
      obtain ⟨room, items⟩ := Channel.trySend_eq_some_iff.mp accepted
      exact ⟨⟨Bool.eq_false_iff.mpr isOpen, room⟩,
        Bool.eq_false_iff.mpr isOpen, items⟩
    · cases equal

end Queue

/-! ## The hub -/

/-- A registered client. -/
structure ClientInfo where
  roomId : RoomId
  buckets : FinSet BucketId
  /-- The position of the queue that the sender feeds. -/
  sender : Nat

/-- The connections of the server, by client and by bucket. -/
structure WsHub where
  nextConnId : ConnId
  connections : Map ConnId ClientInfo
  /-- The subscribers of each bucket. -/
  buckets : Map BucketId (FinSet ConnId)
  queues : List Queue

namespace WsHub

/-- A hub without clients. -/
def new : WsHub where
  nextConnId := 1
  connections := ∅
  buckets := ∅
  queues := []

/-- `u64::saturating_add(1)`. -/
def saturatingSucc (id : ConnId) : ConnId :=
  if id.toNat + 1 < UInt64.size then id + 1 else id

/-- Take the next id for a connection. -/
def allocateConnectionId (hub : WsHub) : ConnId × WsHub :=
  (hub.nextConnId,
    { hub with nextConnId := saturatingSucc hub.nextConnId })

/-- The bucket has as many clients as it may have, and not this one. -/
def isFull (hub : WsHub) (connId : ConnId) (bucket : BucketId) : Bool :=
  match hub.buckets[bucket]? with
  | some clients =>
      decide (maxWsClientsPerBucket ≤ clients.size) &&
        !clients.contains connId
  | none => false

/-- Add a client to the subscribers of a bucket. -/
def subscribe (connId : ConnId) (buckets : Map BucketId (FinSet ConnId))
    (bucket : BucketId) : Map BucketId (FinSet ConnId) :=
  buckets.insert bucket ((buckets[bucket]?.getD ∅).insert connId)

/-- Register a client with the buckets that its token allows. -/
def addClient (hub : WsHub) (connId : ConnId) (roomId : RoomId)
    (allowedBuckets : FinSet BucketId) (sender : Nat) :
    Except String WsHub :=
  if allowedBuckets.toList.any (hub.isFull connId) then
    .error "bucket_client_limit_exceeded"
  else
    .ok { hub with
      connections :=
        hub.connections.insert connId ⟨roomId, allowedBuckets, sender⟩
      buckets :=
        allowedBuckets.toList.foldl (subscribe connId) hub.buckets }

/-- The room of a registered client. -/
def getClientRoomId (hub : WsHub) (connId : ConnId) : Option RoomId :=
  hub.connections[connId]?.map ClientInfo.roomId

/-- Take a client from the subscribers of a bucket. -/
def unsubscribe (connId : ConnId) (buckets : Map BucketId (FinSet ConnId))
    (bucket : BucketId) : Map BucketId (FinSet ConnId) :=
  match buckets[bucket]? with
  | some clients =>
      let remaining := clients.erase connId
      if remaining.isEmpty then buckets.erase bucket
      else buckets.insert bucket remaining
  | none => buckets

/-- Forget a client and its subscriptions. -/
def removeClient (hub : WsHub) (connId : ConnId) : WsHub :=
  match hub.connections[connId]? with
  | some client =>
      { hub with
        connections := hub.connections.erase connId
        buckets :=
          client.buckets.toList.foldl (unsubscribe connId) hub.buckets }
  | none => hub

/-- `try_send` on the queue that a sender feeds. -/
def trySend (hub : WsHub) (sender : Nat) (frame : Frame) :
    Except TrySendError WsHub :=
  match hub.queues[sender]? with
  | some queue =>
      match queue.trySend frame with
      | .ok sent => .ok { hub with queues := hub.queues.set sender sent }
      | .error error => .error error
  | none => .error .closed

variable {Value : Type} [SerdeJson Value]

/-- Send an update to one client; `true` when the client was dropped. -/
def sendTargetedUpdate (hub : WsHub) (clientId : ConnId)
    (update : Sourced (DataUpdate Value)) : Bool × WsHub :=
  match hub.connections[clientId]? with
  | some client =>
      match hub.trySend client.sender (.of update) with
      | .ok sent => (false, sent)
      | .error _ => (true, hub.removeClient clientId)
  | none => (true, hub.removeClient clientId)

/-- The clients that subscribe to a bucket. -/
def recipients (hub : WsHub) (bucketId : BucketId) : List ConnId :=
  (hub.buckets[bucketId]?.getD ∅).toList

/-- Send an update to each of some clients. -/
def sendEach (hub : WsHub) (clients : List ConnId)
    (update : Sourced (DataUpdate Value)) : WsHub :=
  clients.foldl (fun hub client => (hub.sendTargetedUpdate client update).2)
    hub

/-- Send an update to the subscribers of its bucket, of whatever room. -/
def broadcastUpdate (hub : WsHub) (update : Sourced (DataUpdate Value)) :
    WsHub :=
  hub.sendEach (hub.recipients update.content.bucketId) update

/-- What the forwarder does with a notification. -/
def forward (hub : WsHub)
    (notification : Sourced (UpdateChannelMessage Value)) : WsHub :=
  match notification.content with
  | .broadcast update =>
      hub.broadcastUpdate
        ⟨notification.origin, notification.assigned, update⟩
  | .targeted connId msg =>
      (hub.sendTargetedUpdate connId
        ⟨notification.origin, notification.assigned, msg⟩).2

/-! ### The receivers -/

/-- Create the queue of a new connection. -/
def openQueue (hub : WsHub) : WsHub :=
  { hub with queues := hub.queues ++ [.empty] }

/-- Take the oldest frame of a queue. -/
def receive (hub : WsHub) (position : Nat) : Option (Frame × WsHub) :=
  match hub.queues[position]? with
  | some queue =>
      queue.frames.recv.map fun (frame, rest) =>
        (frame, { hub with
          queues := hub.queues.set position { queue with frames := rest } })
  | none => none

/-- Drop the receiver of a queue. -/
def closeQueue (hub : WsHub) (position : Nat) : WsHub :=
  match hub.queues[position]? with
  | some queue =>
      { hub with
        queues := hub.queues.set position { queue with closed := true } }
  | none => hub

end WsHub

/-! ## Subscriptions -/

section Subscriptions

variable {connId : ConnId}

/-- A client subscribes to the buckets of a list, and to no others. -/
theorem mem_foldl_subscribe {bucket : BucketId} (added : List BucketId)
    (buckets : Map BucketId (FinSet ConnId)) :
    bucket ∈ added.foldl (WsHub.subscribe connId) buckets ↔
      bucket ∈ added ∨ bucket ∈ buckets := by
  induction added generalizing buckets with
  | nil => simp
  | cons head tail ih =>
      rw [List.foldl_cons, ih, WsHub.subscribe, mem_map_insert,
        List.mem_cons, eq_comm]
      tauto

theorem mem_of_mem_unsubscribe {bucket removed : BucketId}
    {buckets : Map BucketId (FinSet ConnId)}
    (member : bucket ∈ WsHub.unsubscribe connId buckets removed) :
    bucket ∈ buckets := by
  unfold WsHub.unsubscribe at member
  split at member
  · next clients found =>
    have present : removed ∈ buckets := by
      rw [Std.ExtTreeMap.mem_iff_isSome_getElem?, found]
      rfl
    simp only [apply_ite (bucket ∈ ·)] at member
    split at member
    · exact Std.ExtTreeMap.mem_of_mem_erase member
    · rcases mem_map_insert.mp member with rfl | before
      · exact present
      · exact before
  · exact member

theorem mem_of_mem_foldl_unsubscribe {bucket : BucketId}
    (removed : List BucketId) {buckets : Map BucketId (FinSet ConnId)}
    (member : bucket ∈ removed.foldl (WsHub.unsubscribe connId) buckets) :
    bucket ∈ buckets := by
  induction removed generalizing buckets with
  | nil => exact member
  | cons head tail ih => exact mem_of_mem_unsubscribe (ih member)

end Subscriptions

/-! ## Frames in queues -/

namespace WsHub

/-- A frame is in the queue at a position. -/
def Holds (hub : WsHub) (position : Nat) (frame : Frame) : Prop :=
  ∃ queue, hub.queues[position]? = some queue ∧
    frame ∈ queue.frames.items

theorem Holds.lt_length {hub : WsHub} {position : Nat} {frame : Frame}
    (holds : hub.Holds position frame) : position < hub.queues.length := by
  obtain ⟨queue, found, _⟩ := holds
  exact (List.getElem?_eq_some_iff.mp found).1

/-- The queue at a position takes a frame. -/
def Takes (hub : WsHub) (position : Nat) : Prop :=
  ∃ queue, hub.queues[position]? = some queue ∧ queue.Accepts

/-- A frame to a client enters the queue at a position. -/
def Reaches (hub : WsHub) (clientId : ConnId) (position : Nat) : Prop :=
  ∃ client, hub.connections[clientId]? = some client ∧
    client.sender = position ∧ hub.Takes position

/-- What a registration changes in the hub. -/
theorem addClient_eq_ok {hub after : WsHub} {connId : ConnId}
    {roomId : RoomId} {allowedBuckets : FinSet BucketId} {sender : Nat}
    (equal : hub.addClient connId roomId allowedBuckets sender = .ok after) :
    after = { hub with
      connections :=
        hub.connections.insert connId ⟨roomId, allowedBuckets, sender⟩
      buckets :=
        allowedBuckets.toList.foldl (subscribe connId) hub.buckets } := by
  unfold addClient at equal
  split at equal
  · cases equal
  · exact (Except.ok.inj equal).symm

/-- The frames after a queue was replaced. -/
theorem holds_setQueue {hub : WsHub} {position other : Nat}
    {queue sent : Queue} {frame : Frame}
    (found : hub.queues[position]? = some queue)
    (holds : Holds { hub with queues := hub.queues.set position sent }
      other frame) :
    hub.Holds other frame ∨
      position = other ∧ frame ∈ sent.frames.items := by
  obtain ⟨otherQueue, present, member⟩ := holds
  by_cases same : position = other
  · subst same
    obtain ⟨bound, _⟩ := List.getElem?_eq_some_iff.mp found
    rw [List.getElem?_set_self bound] at present
    cases present
    exact Or.inr ⟨rfl, member⟩
  · rw [List.getElem?_set_ne same] at present
    exact Or.inl ⟨otherQueue, present, member⟩

/-- Nothing is registered or subscribed in the step from one hub to another. -/
structure Shrinks (before after : WsHub) : Prop where
  nextConnId : after.nextConnId = before.nextConnId
  queues : after.queues.length = before.queues.length
  connections : ∀ (connId : ConnId) (client : ClientInfo),
    after.connections[connId]? = some client →
    before.connections[connId]? = some client
  buckets : ∀ bucket, bucket ∈ after.buckets → bucket ∈ before.buckets

namespace Shrinks

theorem refl (hub : WsHub) : Shrinks hub hub where
  nextConnId := rfl
  queues := rfl
  connections _ _ present := present
  buckets _ member := member

theorem trans {first second third : WsHub}
    (front : Shrinks first second) (back : Shrinks second third) :
    Shrinks first third where
  nextConnId := back.nextConnId.trans front.nextConnId
  queues := back.queues.trans front.queues
  connections connId client present :=
    front.connections connId client (back.connections connId client present)
  buckets bucket member := front.buckets bucket (back.buckets bucket member)

/-- Only the queues change, and none is added. -/
theorem setQueue (hub : WsHub) (position : Nat) (queue : Queue) :
    Shrinks hub { hub with queues := hub.queues.set position queue } :=
  { refl hub with queues := List.length_set }

end Shrinks

@[simp]
theorem queues_removeClient (hub : WsHub) (connId : ConnId) :
    (hub.removeClient connId).queues = hub.queues := by
  unfold removeClient
  split <;> rfl

/-- A removal leaves fewer clients and subscriptions. -/
theorem shrinks_removeClient (hub : WsHub) (connId : ConnId) :
    Shrinks hub (hub.removeClient connId) := by
  unfold removeClient
  split
  · next client found =>
    refine { Shrinks.refl hub with connections := ?_, buckets := ?_ }
    · intro other otherClient present
      rw [lookup_erase] at present
      split at present
      · cases present
      · exact present
    · intro bucket member
      exact mem_of_mem_foldl_unsubscribe _ member
  · exact .refl hub

/-- What a send to a queue does. -/
theorem trySend_eq_ok {hub after : WsHub} {sender : Nat} {frame : Frame}
    (equal : hub.trySend sender frame = .ok after) :
    ∃ queue sent, hub.queues[sender]? = some queue ∧ queue.Accepts ∧
      sent.closed = false ∧
      sent.frames.items = queue.frames.items ++ [frame] ∧
      after = { hub with queues := hub.queues.set sender sent } := by
  unfold trySend at equal
  split at equal
  · next queue found =>
    split at equal
    · next sent accepted =>
      obtain ⟨accepts, isOpen, items⟩ := Queue.trySend_eq_ok accepted
      cases equal
      exact ⟨queue, sent, found, accepts, isOpen, items, rfl⟩
    · cases equal
  · cases equal

variable {Value : Type} [SerdeJson Value]

/-- A send changes a queue or removes the client. -/
theorem sendTargetedUpdate_induction {property : WsHub → Prop} {hub : WsHub}
    {clientId : ConnId} {update : Sourced (DataUpdate Value)}
    (sent : ∀ position queue,
      property { hub with queues := hub.queues.set position queue })
    (removed : property (hub.removeClient clientId)) :
    property (hub.sendTargetedUpdate clientId update).2 := by
  unfold sendTargetedUpdate
  split
  · next client found =>
    split
    · next after accepted =>
      obtain ⟨queue, filled, _, _, _, _, rfl⟩ := trySend_eq_ok accepted
      exact sent client.sender filled
    · exact removed
  · exact removed

/-- What every send keeps, sending to some clients keeps. -/
theorem sendEach_invariant {property : WsHub → Prop}
    {update : Sourced (DataUpdate Value)}
    (preserved : ∀ hub client, property hub →
      property (hub.sendTargetedUpdate client update).2)
    {hub : WsHub} (initial : property hub) (clients : List ConnId) :
    property (hub.sendEach clients update) := by
  induction clients generalizing hub with
  | nil => exact initial
  | cons client rest ih => exact ih (preserved hub client initial)

theorem shrinks_sendTargetedUpdate (hub : WsHub) (clientId : ConnId)
    (update : Sourced (DataUpdate Value)) :
    Shrinks hub (hub.sendTargetedUpdate clientId update).2 :=
  sendTargetedUpdate_induction (.setQueue hub)
    (shrinks_removeClient hub clientId)

/-- A send to a client does not reach anything that it did not reach before. -/
theorem reaches_sendTargetedUpdate {hub : WsHub} {clientId other : ConnId}
    {update : Sourced (DataUpdate Value)} {position : Nat}
    (reaches : (hub.sendTargetedUpdate clientId update).2.Reaches other
      position) :
    hub.Reaches other position := by
  obtain ⟨client, present, sender, takes⟩ := reaches
  refine ⟨client, (shrinks_sendTargetedUpdate hub clientId update).connections
    other client present, sender, ?_⟩
  unfold sendTargetedUpdate at takes
  split at takes
  · next target found =>
    split at takes
    · next after accepted =>
      obtain ⟨queue, sent, isQueue, accepts, _, _, rfl⟩ :=
        trySend_eq_ok accepted
      obtain ⟨otherQueue, isOther, otherAccepts⟩ := takes
      by_cases same : target.sender = position
      · subst same
        exact ⟨queue, isQueue, accepts⟩
      · rw [List.getElem?_set_ne same] at isOther
        exact ⟨otherQueue, isOther, otherAccepts⟩
    · simpa [Takes] using takes
  · simpa [Takes] using takes

/-- A send to a client adds its frame to the queue of that client only. -/
theorem holds_sendTargetedUpdate {hub : WsHub} {clientId : ConnId}
    {update : Sourced (DataUpdate Value)} {position : Nat} {frame : Frame}
    (holds : (hub.sendTargetedUpdate clientId update).2.Holds position
      frame) :
    hub.Holds position frame ∨
      frame = .of update ∧ hub.Reaches clientId position := by
  unfold sendTargetedUpdate at holds
  split at holds
  · next client found =>
    split at holds
    · next sent accepted =>
      obtain ⟨queue, after, isQueue, accepts, _, items, rfl⟩ :=
        trySend_eq_ok accepted
      rcases holds_setQueue isQueue holds with before | ⟨rfl, member⟩
      · exact Or.inl before
      · rw [items, List.mem_append, List.mem_singleton] at member
        rcases member with before | new
        · exact Or.inl ⟨queue, isQueue, before⟩
        · exact Or.inr ⟨new, client, found, rfl, queue, isQueue, accepts⟩
    · exact Or.inl (by simpa [Holds] using holds)
  · exact Or.inl (by simpa [Holds] using holds)

/-- A hub that sends can only lose clients. -/
theorem shrinks_sendEach (hub : WsHub) (clients : List ConnId)
    (update : Sourced (DataUpdate Value)) :
    Shrinks hub (hub.sendEach clients update) :=
  sendEach_invariant
    (fun between client shrinks =>
      shrinks.trans (shrinks_sendTargetedUpdate between client update))
    (.refl hub) clients

/-- Sending to some clients adds the frame to the queues it reaches. -/
theorem holds_sendEach {hub : WsHub} {clients : List ConnId}
    {update : Sourced (DataUpdate Value)} {position : Nat} {frame : Frame}
    (holds : (hub.sendEach clients update).Holds position frame) :
    hub.Holds position frame ∨
      frame = .of update ∧
        ∃ client ∈ clients, hub.Reaches client position := by
  induction clients generalizing hub with
  | nil => exact Or.inl holds
  | cons client rest ih =>
      rcases ih holds with before | ⟨isNew, other, member, reaches⟩
      · rcases holds_sendTargetedUpdate before with before | ⟨isNew, reaches⟩
        · exact Or.inl before
        · exact Or.inr ⟨isNew, client, List.mem_cons_self, reaches⟩
      · exact Or.inr ⟨isNew, other, List.mem_cons_of_mem _ member,
          reaches_sendTargetedUpdate reaches⟩

/-- The clients that the forwarder sends a notification to. -/
def addressees (hub : WsHub) : UpdateChannelMessage Value → List ConnId
  | .broadcast update => hub.recipients update.bucketId
  | .targeted connId _ => [connId]

/-- Notifications of both kinds are sent to their addressees one by one. -/
theorem forward_eq_sendEach (hub : WsHub)
    (notification : Sourced (UpdateChannelMessage Value)) :
    hub.forward notification =
      hub.sendEach (hub.addressees notification.content)
        ⟨notification.origin, notification.assigned,
          notification.content.update⟩ := by
  unfold forward
  cases notification.content with
  | broadcast update => rfl
  | targeted connId msg => rfl

theorem shrinks_forward (hub : WsHub)
    (notification : Sourced (UpdateChannelMessage Value)) :
    Shrinks hub (hub.forward notification) := by
  rw [forward_eq_sendEach]
  exact shrinks_sendEach hub _ _

/-- The forwarder adds one frame to the queues that it reaches. -/
theorem holds_forward {hub : WsHub}
    {notification : Sourced (UpdateChannelMessage Value)} {position : Nat}
    {frame : Frame}
    (holds : (hub.forward notification).Holds position frame) :
    hub.Holds position frame ∨
      frame = .of ⟨notification.origin, notification.assigned,
        notification.content.update⟩ ∧
        ∃ client ∈ hub.addressees notification.content,
          hub.Reaches client position := by
  rw [forward_eq_sendEach] at holds
  exact holds_sendEach holds

/-! ### Queues of the receivers -/

theorem holds_openQueue {hub : WsHub} {position : Nat} {frame : Frame}
    (holds : hub.openQueue.Holds position frame) :
    hub.Holds position frame := by
  obtain ⟨queue, present, member⟩ := holds
  rcases Nat.lt_or_ge position hub.queues.length with inside | outside
  · rw [openQueue, List.getElem?_append_left inside] at present
    exact ⟨queue, present, member⟩
  · rw [openQueue, List.getElem?_append_right outside] at present
    rw [List.mem_singleton.mp (List.mem_of_getElem? present)] at member
    cases member

/-- A connection receives the first frame of its queue. -/
theorem receive_eq_some {hub after : WsHub} {position : Nat}
    {frame : Frame} (equal : hub.receive position = some (frame, after)) :
    ∃ queue rest, hub.queues[position]? = some queue ∧
      queue.frames.items = frame :: rest.items ∧
      after = { hub with
        queues :=
          hub.queues.set position { queue with frames := rest } } := by
  unfold receive at equal
  split at equal
  · next queue found =>
    obtain ⟨⟨taken, rest⟩, isTaken, equal⟩ := Option.map_eq_some_iff.mp equal
    cases equal
    exact ⟨queue, rest, found, Channel.recv_eq_some_iff.mp isTaken, rfl⟩
  · cases equal

/-- What is in the queues after a frame was received was there before. -/
theorem holds_receive {hub after : WsHub} {position other : Nat}
    {received frame : Frame}
    (equal : hub.receive position = some (received, after))
    (holds : after.Holds other frame) : hub.Holds other frame := by
  obtain ⟨queue, rest, found, items, rfl⟩ := receive_eq_some equal
  rcases holds_setQueue found holds with before | ⟨rfl, member⟩
  · exact before
  · exact ⟨queue, found, items ▸ List.mem_cons_of_mem _ member⟩

theorem shrinks_receive {hub after : WsHub} {position : Nat} {frame : Frame}
    (equal : hub.receive position = some (frame, after)) :
    Shrinks hub after := by
  obtain ⟨queue, rest, _, _, rfl⟩ := receive_eq_some equal
  exact .setQueue hub position _

theorem shrinks_closeQueue (hub : WsHub) (position : Nat) :
    Shrinks hub (hub.closeQueue position) := by
  unfold closeQueue
  split
  · exact .setQueue hub position _
  · exact .refl hub

theorem holds_closeQueue {hub : WsHub} {position other : Nat}
    {frame : Frame}
    (holds : (hub.closeQueue position).Holds other frame) :
    hub.Holds other frame := by
  unfold closeQueue at holds
  split at holds
  · next queue found =>
    rcases holds_setQueue found holds with before | ⟨rfl, member⟩
    · exact before
    · exact ⟨queue, found, member⟩
  · exact holds

end WsHub

end Syncpond.Hub
