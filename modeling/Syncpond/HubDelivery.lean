import Syncpond.HubIndex

/-!
# Delivery by the hub

What a forwarded notification does for each client and for each queue.  A
client that it is addressed to either has a queue that takes the frame, and
then the frame is the last one of that queue, or it is removed.  All other
clients and queues are left alone.  This needs that no two clients share a
queue, since a broadcast goes to one client after the other.

Every allowed bucket of a registered client lists the client, even when ids
are given twice; so a broadcast is addressed to all clients of its bucket.
-/

namespace Syncpond.HubDelivery

open Syncpond.Protocol
open Syncpond.Serde
open Syncpond.Hub
open Syncpond.HubIndex
open Syncpond.Library.Maps
open Syncpond.Library.Channels

variable {Value : Type}

/-! ## Clients and queues -/

/-- No two clients share a queue. -/
def OwnQueues (hub : WsHub) : Prop :=
  ∀ (connId other : ConnId) (client otherClient : ClientInfo),
    hub.connections[connId]? = some client →
    hub.connections[other]? = some otherClient →
    client.sender = otherClient.sender → connId = other

/-- Every client is listed for the buckets that it was allowed. -/
def Covered (hub : WsHub) : Prop :=
  ∀ connId bucketId, Allowed hub connId bucketId →
    Listed hub connId bucketId

/-- The frames in the queue at a position. -/
def pending (hub : WsHub) (position : Nat) : List Frame :=
  match hub.queues[position]? with
  | some queue => queue.frames.items
  | none => []

/-- A queue with one more frame, if it has room for it. -/
def pushed (queue : Queue) (frame : Frame) : Queue :=
  { queue with frames := queue.frames.sendOrDrop frame }

theorem items_pushed {queue : Queue} (accepts : queue.Accepts)
    (frame : Frame) :
    (pushed queue frame).frames.items = queue.frames.items ++ [frame] :=
  Channel.items_sendOrDrop_of_lt accepts.2

theorem trySend_eq_pushed {queue : Queue} (accepts : queue.Accepts)
    (frame : Frame) : queue.trySend frame = .ok (pushed queue frame) := by
  obtain ⟨isOpen, room⟩ := accepts
  simp [Queue.trySend, isOpen, pushed, Channel.sendOrDrop, Channel.trySend,
    room]

theorem OwnQueues.of_shrinks {before after : WsHub}
    (own : OwnQueues before) (shrinks : WsHub.Shrinks before after) :
    OwnQueues after := by
  intro connId other client otherClient present isOther same
  exact own connId other client otherClient
    (shrinks.connections connId client present)
    (shrinks.connections other otherClient isOther) same

theorem pending_eq {hub : WsHub} {position : Nat} {queue : Queue}
    (found : hub.queues[position]? = some queue) :
    pending hub position = queue.frames.items := by
  rw [pending, found]

/-- The frames after a queue was replaced. -/
theorem pending_setQueue {hub : WsHub} {position : Nat} {queue : Queue}
    (found : hub.queues[position]? = some queue) (sent : Queue)
    (other : Nat) :
    pending { hub with queues := hub.queues.set position sent } other =
      if position = other then sent.frames.items else pending hub other := by
  obtain ⟨bound, _⟩ := List.getElem?_eq_some_iff.mp found
  unfold pending
  split
  · next queue isQueue =>
    split
    · next same =>
      subst same
      rw [List.getElem?_set_self bound] at isQueue
      cases isQueue
      rfl
    · next different =>
      rw [List.getElem?_set_ne different] at isQueue
      rw [isQueue]
  · next absent =>
    split
    · next same =>
      subst same
      rw [List.getElem?_set_self bound] at absent
      cases absent
    · next different =>
      rw [List.getElem?_set_ne different] at absent
      rw [absent]

/-! ## Removed clients -/

theorem Covered.removeClient {hub : WsHub} (covered : Covered hub)
    (connId : ConnId) : Covered (hub.removeClient connId) := by
  intro other bucketId allowed
  obtain ⟨different, before⟩ := allowed_removeClient.mp allowed
  exact listed_removeClient.mpr
    ⟨covered other bucketId before, fun removed => different removed.1⟩

/-- A client that the hub takes is listed, whatever its id was before. -/
theorem Covered.addClient {hub after : WsHub} (covered : Covered hub)
    {connId : ConnId} {roomId : RoomId} {allowedBuckets : FinSet BucketId}
    {sender : Nat}
    (added : hub.addClient connId roomId allowedBuckets sender = .ok after) :
    Covered after := by
  intro other bucketId allowed
  rw [allowed_addClient added] at allowed
  refine (listed_addClient added).mpr ?_
  split at allowed
  · next same => exact Or.inl ⟨same, allowed⟩
  · exact Or.inr (covered other bucketId allowed)

/-! ## A frame to one client -/

section Targeted

variable [SerdeJson Value] {hub : WsHub} {connId : ConnId}
variable (update : Sourced (DataUpdate Value))

/-- A client whose queue takes the frame gets it. -/
theorem sendTargetedUpdate_of_accepts {client : ClientInfo} {queue : Queue}
    (present : hub.connections[connId]? = some client)
    (isQueue : hub.queues[client.sender]? = some queue)
    (accepts : queue.Accepts) :
    (hub.sendTargetedUpdate connId update).2 =
      { hub with
        queues := hub.queues.set client.sender
          (pushed queue (.of update)) } := by
  simp [WsHub.sendTargetedUpdate, present, WsHub.trySend, isQueue,
    trySend_eq_pushed accepts]

/-- A client that no frame reaches is removed. -/
theorem sendTargetedUpdate_of_not_reaches
    (unreached : ∀ position, ¬hub.Reaches connId position) :
    (hub.sendTargetedUpdate connId update).2 = hub.removeClient connId := by
  unfold WsHub.sendTargetedUpdate
  split
  · next client found =>
    split
    · next after accepted =>
      obtain ⟨queue, _, isQueue, accepts, _, _, _⟩ :=
        WsHub.trySend_eq_ok accepted
      exact absurd ⟨client, found, rfl, queue, isQueue, accepts⟩
        (unreached client.sender)
    · rfl
  · rfl

variable (hub connId) in
/-- A send puts the frame into the queue of the client, or removes it. -/
theorem sendTargetedUpdate_cases :
    (∃ client queue, hub.connections[connId]? = some client ∧
      hub.queues[client.sender]? = some queue ∧ queue.Accepts ∧
      (hub.sendTargetedUpdate connId update).2 =
        { hub with
          queues := hub.queues.set client.sender
            (pushed queue (.of update)) }) ∨
    ((∀ position, ¬hub.Reaches connId position) ∧
      (hub.sendTargetedUpdate connId update).2 =
        hub.removeClient connId) := by
  by_cases reached : ∃ position, hub.Reaches connId position
  · obtain ⟨_, client, present, rfl, queue, isQueue, accepts⟩ := reached
    exact Or.inl ⟨client, queue, present, isQueue, accepts,
      sendTargetedUpdate_of_accepts update present isQueue accepts⟩
  · have unreached : ∀ position, ¬hub.Reaches connId position :=
      fun position reaches => reached ⟨position, reaches⟩
    exact Or.inr ⟨unreached,
      sendTargetedUpdate_of_not_reaches update unreached⟩

/-- Whom the hub still knows after a send. -/
theorem lookup_sendTargetedUpdate_iff {other : ConnId}
    {client : ClientInfo} :
    (hub.sendTargetedUpdate connId update).2.connections[other]? =
        some client ↔
      hub.connections[other]? = some client ∧
        (other = connId → hub.Takes client.sender) := by
  rcases sendTargetedUpdate_cases hub connId update with
    ⟨target, queue, found, isQueue, accepts, equal⟩ | ⟨unreached, equal⟩
  · rw [equal]
    refine ⟨fun present => ⟨present, ?_⟩, And.left⟩
    rintro rfl
    cases found.symm.trans present
    exact ⟨queue, isQueue, accepts⟩
  · rw [equal, lookup_removeClient]
    split
    · next same =>
      subst same
      refine ⟨by simp, ?_⟩
      rintro ⟨present, takes⟩
      exact absurd ⟨client, present, rfl, takes rfl⟩ (unreached client.sender)
    · next different =>
      exact ⟨fun present => ⟨present, fun same => absurd same.symm different⟩,
        And.left⟩

/-- A queue that the frame reaches has it as its last one. -/
theorem queue_sendTargetedUpdate_of_reaches {position : Nat} {queue : Queue}
    (isQueue : hub.queues[position]? = some queue)
    (reaches : hub.Reaches connId position) :
    (hub.sendTargetedUpdate connId update).2.queues[position]? =
      some (pushed queue (.of update)) := by
  obtain ⟨client, present, rfl, other, isOther, accepts⟩ := reaches
  cases isQueue.symm.trans isOther
  obtain ⟨bound, _⟩ := List.getElem?_eq_some_iff.mp isQueue
  rw [sendTargetedUpdate_of_accepts update present isQueue accepts,
    List.getElem?_set_self bound]

/-- Queues that the frame does not reach are left alone. -/
theorem queue_sendTargetedUpdate_of_not_reaches {position : Nat}
    (unreached : ¬hub.Reaches connId position) :
    (hub.sendTargetedUpdate connId update).2.queues[position]? =
      hub.queues[position]? := by
  rcases sendTargetedUpdate_cases hub connId update with
    ⟨target, queue, found, isQueue, accepts, equal⟩ | ⟨_, equal⟩
  · have different : target.sender ≠ position := by
      rintro rfl
      exact unreached ⟨target, found, rfl, queue, isQueue, accepts⟩
    rw [equal, List.getElem?_set_ne different]
  · rw [equal, WsHub.queues_removeClient]

/-- A send to one client leaves the queues of the others alone. -/
theorem takes_sendTargetedUpdate_iff (own : OwnQueues hub)
    {other : ConnId} {client : ClientInfo}
    (present : hub.connections[other]? = some client)
    (different : connId ≠ other) :
    (hub.sendTargetedUpdate connId update).2.Takes client.sender ↔
      hub.Takes client.sender := by
  rcases sendTargetedUpdate_cases hub connId update with
    ⟨target, queue, found, _, _, equal⟩ | ⟨_, equal⟩
  · have elsewhere : target.sender ≠ client.sender := fun same =>
      different (own connId other target client found present same)
    rw [equal, WsHub.Takes, List.getElem?_set_ne elsewhere, ← WsHub.Takes]
  · rw [equal, WsHub.Takes, WsHub.queues_removeClient, ← WsHub.Takes]

theorem reaches_sendTargetedUpdate_iff (own : OwnQueues hub)
    {other : ConnId} (different : connId ≠ other) {position : Nat} :
    (hub.sendTargetedUpdate connId update).2.Reaches other position ↔
      hub.Reaches other position := by
  refine ⟨WsHub.reaches_sendTargetedUpdate, ?_⟩
  rintro ⟨client, present, rfl, takes⟩
  exact ⟨client,
    (lookup_sendTargetedUpdate_iff update).mpr
      ⟨present, fun same => absurd same.symm different⟩, rfl,
    (takes_sendTargetedUpdate_iff update own present different).mpr takes⟩

theorem Covered.sendTargetedUpdate (covered : Covered hub)
    (connId : ConnId) :
    Covered (hub.sendTargetedUpdate connId update).2 :=
  WsHub.sendTargetedUpdate_induction (fun _ _ => covered)
    (covered.removeClient connId)

end Targeted

/-! ## A frame to some clients -/

section Each

variable [SerdeJson Value] {hub : WsHub} {clients : List ConnId}
variable (update : Sourced (DataUpdate Value))

theorem Covered.sendEach (covered : Covered hub) (clients : List ConnId) :
    Covered (hub.sendEach clients update) :=
  WsHub.sendEach_invariant
    (fun _ client covered => covered.sendTargetedUpdate update client)
    covered clients

variable {update} in
/-- Queues that no frame reaches are left alone. -/
theorem queue_sendEach_of_not_reaches {position : Nat}
    (unreached : ∀ connId ∈ clients, ¬hub.Reaches connId position) :
    (hub.sendEach clients update).queues[position]? =
      hub.queues[position]? := by
  induction clients generalizing hub with
  | nil => rfl
  | cons head rest ih =>
      refine Eq.trans (ih fun connId later reaches => ?_)
        (queue_sendTargetedUpdate_of_not_reaches update
          (unreached head List.mem_cons_self))
      exact unreached connId (List.mem_cons_of_mem _ later)
        (WsHub.reaches_sendTargetedUpdate reaches)

variable {update} in
theorem pending_sendEach_of_not_reaches {position : Nat}
    (unreached : ∀ connId ∈ clients, ¬hub.Reaches connId position) :
    pending (hub.sendEach clients update) position =
      pending hub position := by
  rw [pending, queue_sendEach_of_not_reaches unreached, ← pending]

variable (own : OwnQueues hub) (distinct : clients.Nodup)

include own distinct

/-- Whom the hub still knows after a frame was sent to some clients. -/
theorem lookup_sendEach_iff {other : ConnId} {client : ClientInfo} :
    (hub.sendEach clients update).connections[other]? = some client ↔
      hub.connections[other]? = some client ∧
        (other ∈ clients → hub.Takes client.sender) := by
  induction clients generalizing hub with
  | nil => simp [WsHub.sendEach]
  | cons head rest ih =>
      obtain ⟨notLater, distinctRest⟩ := List.nodup_cons.mp distinct
      change (((hub.sendTargetedUpdate head update).2.sendEach rest
        update).connections[other]? = some client) ↔ _
      rw [ih (own.of_shrinks (WsHub.shrinks_sendTargetedUpdate _ _ _))
          distinctRest,
        lookup_sendTargetedUpdate_iff, and_assoc]
      refine and_congr_right fun present => ?_
      by_cases same : other = head
      · subst same
        simp [notLater]
      · have later := takes_sendTargetedUpdate_iff update own present
          (Ne.symm same)
        simp [same, later]

/-- The queue of a client that takes the frame has it as its last one. -/
theorem queue_sendEach_of_reaches {connId : ConnId} {position : Nat}
    {queue : Queue} (isQueue : hub.queues[position]? = some queue)
    (member : connId ∈ clients) (reaches : hub.Reaches connId position) :
    (hub.sendEach clients update).queues[position]? =
      some (pushed queue (.of update)) := by
  induction clients generalizing hub with
  | nil => cases member
  | cons head rest ih =>
      obtain ⟨notLater, distinctRest⟩ := List.nodup_cons.mp distinct
      change ((hub.sendTargetedUpdate head update).2.sendEach rest
        update).queues[position]? = _
      by_cases same : connId = head
      · subst same
        rw [← queue_sendTargetedUpdate_of_reaches update isQueue reaches]
        refine queue_sendEach_of_not_reaches fun other later again => ?_
        -- Another client with that queue would be this one.
        obtain ⟨client, present, sender, _⟩ := reaches
        obtain ⟨otherClient, isOther, otherSender, _⟩ :=
          WsHub.reaches_sendTargetedUpdate again
        have equal := own connId other client otherClient present isOther
          (sender.trans otherSender.symm)
        exact notLater (equal ▸ later)
      · have later := (List.mem_cons.mp member).resolve_left same
        refine ih (own.of_shrinks (WsHub.shrinks_sendTargetedUpdate _ _ _))
          distinctRest ?_ later
          ((reaches_sendTargetedUpdate_iff update own
            (Ne.symm same)).mpr reaches)
        refine (queue_sendTargetedUpdate_of_not_reaches update ?_).trans
          isQueue
        rintro ⟨otherClient, isOther, otherSender, _⟩
        obtain ⟨client, present, sender, _⟩ := reaches
        exact same (own connId head client otherClient present isOther
          (sender.trans otherSender.symm))

theorem pending_sendEach_of_reaches {connId : ConnId} {position : Nat}
    (member : connId ∈ clients) (reaches : hub.Reaches connId position) :
    pending (hub.sendEach clients update) position =
      pending hub position ++ [.of update] := by
  obtain ⟨client, present, sender, queue, isQueue, accepts⟩ := reaches
  rw [pending_eq (queue_sendEach_of_reaches update own distinct isQueue member
      ⟨client, present, sender, queue, isQueue, accepts⟩),
    items_pushed accepts, pending_eq isQueue]

end Each

/-! ## A notification -/

section Forward

variable [SerdeJson Value] {hub : WsHub}
variable (notification : Sourced (UpdateChannelMessage Value))

/-- The frame of a notification. -/
def frameOf : Frame :=
  .of ⟨notification.origin, notification.assigned,
    notification.content.update⟩

/-- A notification is sent to a client. -/
def Addresses (hub : WsHub) (connId : ConnId) : Prop :=
  connId ∈ hub.addressees notification.content

omit [SerdeJson Value] in
theorem nodup_addressees (hub : WsHub)
    (content : UpdateChannelMessage Value) :
    (hub.addressees content).Nodup := by
  cases content with
  | broadcast update => exact nodup_toList _
  | targeted connId msg => exact List.pairwise_singleton _ connId

omit [SerdeJson Value] in
/-- A broadcast is sent to every client that was allowed its bucket. -/
theorem addresses_of_allowed {notification} (covered : Covered hub)
    {update : DataUpdate Value}
    (isBroadcast : notification.content = .broadcast update)
    {connId : ConnId} {client : ClientInfo}
    (present : hub.connections[connId]? = some client)
    (allowed : update.bucketId ∈ client.buckets) :
    Addresses notification hub connId := by
  rw [Addresses, isBroadcast]
  exact Std.ExtTreeSet.mem_toList.mpr (listed_iff_mem.mp
    (covered connId update.bucketId ⟨client, present, allowed⟩))

theorem Covered.forward (covered : Covered hub) :
    Covered (hub.forward notification) := by
  rw [WsHub.forward_eq_sendEach]
  exact covered.sendEach _ _

variable (own : OwnQueues hub)

include own

/-- A client stays unless its queue does not take a frame that is sent to it. -/
theorem lookup_forward_iff {connId : ConnId} {client : ClientInfo} :
    (hub.forward notification).connections[connId]? = some client ↔
      hub.connections[connId]? = some client ∧
        (Addresses notification hub connId → hub.Takes client.sender) := by
  rw [WsHub.forward_eq_sendEach]
  exact lookup_sendEach_iff _ own (nodup_addressees hub _)

/-- The frame becomes the last one in the queues that it reaches. -/
theorem pending_forward_of_reaches {connId : ConnId} {position : Nat}
    (addressed : Addresses notification hub connId)
    (reaches : hub.Reaches connId position) :
    pending (hub.forward notification) position =
      pending hub position ++ [frameOf notification] := by
  rw [WsHub.forward_eq_sendEach]
  exact pending_sendEach_of_reaches _ own (nodup_addressees hub _) addressed
    reaches

omit own in
theorem pending_forward_of_not_reaches {position : Nat}
    (unreached : ∀ connId, Addresses notification hub connId →
      ¬hub.Reaches connId position) :
    pending (hub.forward notification) position =
      pending hub position := by
  rw [WsHub.forward_eq_sendEach]
  exact pending_sendEach_of_not_reaches unreached

/-- A queue stays as it is, or gets the frame. -/
theorem pending_forward (position : Nat) :
    pending (hub.forward notification) position = pending hub position ∨
      pending (hub.forward notification) position =
        pending hub position ++ [frameOf notification] := by
  by_cases reached : ∃ connId, Addresses notification hub connId ∧
      hub.Reaches connId position
  · obtain ⟨connId, addressed, reaches⟩ := reached
    exact Or.inr
      (pending_forward_of_reaches notification own addressed reaches)
  · exact Or.inl (pending_forward_of_not_reaches notification
      fun connId addressed reaches =>
        reached ⟨connId, addressed, reaches⟩)

/-- A client that stays received the frame that was sent to it. -/
theorem pending_forward_of_stays {connId : ConnId} {client : ClientInfo}
    (addressed : Addresses notification hub connId)
    (stays : (hub.forward notification).connections[connId]? =
      some client) :
    pending (hub.forward notification) client.sender =
      pending hub client.sender ++ [frameOf notification] := by
  obtain ⟨present, takes⟩ := (lookup_forward_iff notification own).mp stays
  exact pending_forward_of_reaches notification own addressed
    ⟨client, present, rfl, takes addressed⟩

end Forward

end Syncpond.HubDelivery
