import Syncpond.HubDelivery

/-!
# One broadcast

A broadcast goes through a copy of the subscribers of its bucket, and removes
clients from the index that the copy was made of.  Each subscriber gets the
frame once or is removed, and everybody else keeps what they had.

Sends to two clients with queues of their own commute, so that the order in
which the subscribers are listed does not matter.
-/

namespace Syncpond.HubBroadcast

open Syncpond.Protocol
open Syncpond.Serde
open Syncpond.Hub
open Syncpond.HubIndex
open Syncpond.HubDelivery
open Syncpond.Library.Maps
open Syncpond.Library.Runs

variable {Value : Type}

/-! ## Removals commute -/

section Removals

variable {hub : WsHub} {connId other : ConnId} {bucketId : BucketId}

theorem bind_without_without (clients : FinSet ConnId) :
    (without connId clients).bind (without other) =
      if ((clients.erase connId).erase other).isEmpty then none
      else some ((clients.erase connId).erase other) := by
  unfold without
  split
  · next isEmpty =>
    rw [Std.ExtTreeSet.isEmpty_iff] at isEmpty
    simp [isEmpty]
  · rfl

theorem without_comm (clients : Option (FinSet ConnId)) :
    (clients.bind (without connId)).bind (without other) =
      (clients.bind (without other)).bind (without connId) := by
  cases clients with
  | none => rfl
  | some clients =>
      have same : (clients.erase connId).erase other =
          (clients.erase other).erase connId := by
        ext member
        simp only [Std.ExtTreeSet.mem_erase]
        tauto
      rw [Option.bind_some, Option.bind_some, bind_without_without,
        bind_without_without, same]

theorem lookup_buckets_removeClient (hub : WsHub) (connId : ConnId)
    (bucketId : BucketId) :
    (hub.removeClient connId).buckets[bucketId]? =
      if hub.connections[connId]?.any (·.buckets.contains bucketId) then
        hub.buckets[bucketId]?.bind (without connId)
      else hub.buckets[bucketId]? := by
  unfold WsHub.removeClient
  split
  · next client present =>
    simp [lookup_foldl_unsubscribe, present]
  · next absent => simp [absent]

theorem hub_ext {hub other : WsHub}
    (nextConnId : hub.nextConnId = other.nextConnId)
    (connections : hub.connections = other.connections)
    (buckets : hub.buckets = other.buckets)
    (queues : hub.queues = other.queues) : hub = other := by
  cases hub
  cases other
  cases nextConnId
  cases connections
  cases buckets
  cases queues
  rfl

theorem nextConnId_removeClient (hub : WsHub) (connId : ConnId) :
    (hub.removeClient connId).nextConnId = hub.nextConnId :=
  (WsHub.shrinks_removeClient hub connId).nextConnId

theorem removeClient_comm (hub : WsHub) {connId other : ConnId}
    (different : connId ≠ other) :
    (hub.removeClient connId).removeClient other =
      (hub.removeClient other).removeClient connId := by
  apply hub_ext
  · simp only [nextConnId_removeClient]
  · apply Std.ExtTreeMap.ext_getElem?
    intro member
    simp only [lookup_removeClient]
    split <;> split <;> rfl
  · apply Std.ExtTreeMap.ext_getElem?
    intro bucketId
    simp only [lookup_buckets_removeClient, lookup_removeClient, different,
      different.symm, if_false]
    split
    · split
      · exact without_comm _
      · rfl
    · rfl
  · simp only [WsHub.queues_removeClient]

/-- A removal does not look at the queues. -/
theorem removeClient_setQueues (hub : WsHub) (queues : List Queue)
    (connId : ConnId) :
    { hub with queues := queues }.removeClient connId =
      { hub.removeClient connId with queues := queues } := by
  unfold WsHub.removeClient
  dsimp only
  split <;> rfl

end Removals

/-! ## The order of the recipients -/

section Order

variable [SerdeJson Value] {hub : WsHub}
variable (update : Sourced (DataUpdate Value))

/-- A queue takes its frame after a send to another client as well. -/
theorem sendTargetedUpdate_after_of_accepts (own : OwnQueues hub)
    {connId other : ConnId} (different : other ≠ connId)
    {client : ClientInfo} {queue : Queue}
    (present : hub.connections[connId]? = some client)
    (isQueue : hub.queues[client.sender]? = some queue)
    (accepts : queue.Accepts) :
    ((hub.sendTargetedUpdate other update).2.sendTargetedUpdate connId
        update).2 =
      { (hub.sendTargetedUpdate other update).2 with
        queues := (hub.sendTargetedUpdate other update).2.queues.set
          client.sender (pushed queue (.of update)) } := by
  refine sendTargetedUpdate_of_accepts update ?_ ?_ accepts
  · exact (lookup_sendTargetedUpdate_iff update).mpr
      ⟨present, fun same => absurd same.symm different⟩
  · refine (queue_sendTargetedUpdate_of_not_reaches update ?_).trans isQueue
    rintro ⟨otherClient, isOther, same, _⟩
    exact different (own other connId otherClient client isOther present same)

/-- A client that no frame reaches is removed after another send as well. -/
theorem sendTargetedUpdate_after_of_not_reaches {connId : ConnId}
    (unreached : ∀ position, ¬hub.Reaches connId position)
    (other : ConnId) :
    ((hub.sendTargetedUpdate other update).2.sendTargetedUpdate connId
        update).2 =
      (hub.sendTargetedUpdate other update).2.removeClient connId :=
  sendTargetedUpdate_of_not_reaches update fun position reaches =>
    unreached position (WsHub.reaches_sendTargetedUpdate reaches)

/-- Sends to two clients commute. -/
theorem sendTargetedUpdate_comm (own : OwnQueues hub)
    (connId other : ConnId) :
    ((hub.sendTargetedUpdate connId update).2.sendTargetedUpdate other
        update).2 =
      ((hub.sendTargetedUpdate other update).2.sendTargetedUpdate connId
        update).2 := by
  by_cases same : connId = other
  · rw [same]
  rcases sendTargetedUpdate_cases hub connId update with
    ⟨client, queue, present, isQueue, accepts, sent⟩ | ⟨unreached, removed⟩
  · rw [sendTargetedUpdate_after_of_accepts update own (Ne.symm same) present
      isQueue accepts]
    rcases sendTargetedUpdate_cases hub other update with
      ⟨otherClient, otherQueue, isOther, isOtherQueue, otherAccepts,
        otherSent⟩ | ⟨otherUnreached, otherRemoved⟩
    · have apart : client.sender ≠ otherClient.sender := fun equal =>
        same (own connId other client otherClient present isOther equal)
      rw [sendTargetedUpdate_after_of_accepts update own same isOther
        isOtherQueue otherAccepts, sent, otherSent]
      dsimp only
      rw [List.set_comm _ _ apart]
    · rw [sendTargetedUpdate_after_of_not_reaches update otherUnreached, sent,
        otherRemoved, removeClient_setQueues hub (hub.queues.set _ _),
        WsHub.queues_removeClient]
  · rw [sendTargetedUpdate_after_of_not_reaches update unreached]
    rcases sendTargetedUpdate_cases hub other update with
      ⟨otherClient, otherQueue, isOther, isOtherQueue, otherAccepts,
        otherSent⟩ | ⟨otherUnreached, otherRemoved⟩
    · rw [sendTargetedUpdate_after_of_accepts update own same isOther
        isOtherQueue otherAccepts, removed, otherSent,
        removeClient_setQueues hub (hub.queues.set _ _),
        WsHub.queues_removeClient]
    · rw [sendTargetedUpdate_after_of_not_reaches update otherUnreached,
        removed, otherRemoved, removeClient_comm hub same]

/-- The order of the clients does not matter. -/
theorem sendEach_perm (own : OwnQueues hub) {clients others : List ConnId}
    (permuted : clients.Perm others) :
    hub.sendEach clients update = hub.sendEach others update := by
  induction permuted generalizing hub with
  | nil => rfl
  | cons client _ ih =>
      exact ih (own.of_shrinks (WsHub.shrinks_sendTargetedUpdate _ _ _))
  | swap first second rest =>
      simp only [WsHub.sendEach, List.foldl_cons]
      rw [sendTargetedUpdate_comm update own]
  | trans _ _ ih ihLater => exact (ih own).trans (ihLater own)

end Order

/-! ## What a broadcast does -/

section Outcome

variable (hub after : WsHub) (connId : ConnId) (client : ClientInfo)

/-- The client stays where it is, and one frame was added to its queue. -/
structure Served (frame : Frame) : Prop where
  stays : after.connections[connId]? = some client
  listed : ∀ bucketId, Listed after connId bucketId ↔
    Listed hub connId bucketId
  appended : ∃ queue sent, hub.queues[client.sender]? = some queue ∧
    after.queues[client.sender]? = some sent ∧
    sent.closed = queue.closed ∧
    sent.frames.items = queue.frames.items ++ [frame]

/-- The client left the hub with all its buckets, and its queue is the same. -/
structure Dropped : Prop where
  gone : after.connections[connId]? = none
  unlisted : ∀ bucketId, ¬Listed after connId bucketId
  queue : after.queues[client.sender]? = hub.queues[client.sender]?

/-- Nothing about the client changed. -/
structure Unchanged : Prop where
  stays : after.connections[connId]? = some client
  listed : ∀ bucketId, Listed after connId bucketId ↔
    Listed hub connId bucketId
  queue : after.queues[client.sender]? = hub.queues[client.sender]?

end Outcome

/--
Each subscriber gets the frame once if its queue has room, and is dropped
otherwise; everything else is the same.
-/
structure ReachesOnce (hub after : WsHub) (bucketId : BucketId)
    (frame : Frame) : Prop where
  served : ∀ (connId : ConnId) (client : ClientInfo),
    hub.connections[connId]? = some client →
    bucketId ∈ client.buckets → hub.Takes client.sender →
      Served hub after connId client frame
  dropped : ∀ (connId : ConnId) (client : ClientInfo),
    hub.connections[connId]? = some client →
    bucketId ∈ client.buckets → ¬hub.Takes client.sender →
      Dropped hub after connId client
  others : ∀ (connId : ConnId) (client : ClientInfo),
    hub.connections[connId]? = some client →
    bucketId ∉ client.buckets → Unchanged hub after connId client
  strangers : ∀ connId : ConnId, hub.connections[connId]? = none →
    after.connections[connId]? = none ∧
      ∀ bucketId, ¬Listed after connId bucketId
  queues : ∀ position : Nat, (∀ (connId : ConnId) (client : ClientInfo),
      hub.connections[connId]? = some client → bucketId ∈ client.buckets →
        client.sender ≠ position) →
    after.queues[position]? = hub.queues[position]?
  nextConnId : after.nextConnId = hub.nextConnId

section Broadcast

variable [SerdeJson Value] {hub : WsHub}
variable (agreeing : Agreeing hub) (own : OwnQueues hub)
variable (update : Sourced (DataUpdate Value))

include agreeing

omit [SerdeJson Value] in
/-- The recipients are the subscribers. -/
theorem mem_recipients_iff {connId : ConnId} {client : ClientInfo}
    (present : hub.connections[connId]? = some client)
    (bucketId : BucketId) :
    connId ∈ hub.recipients bucketId ↔ bucketId ∈ client.buckets := by
  rw [WsHub.recipients, Std.ExtTreeSet.mem_toList, ← listed_iff_mem,
    agreeing connId bucketId]
  simp [Allowed, present]

theorem agreeing_broadcast : Agreeing (hub.broadcastUpdate update) :=
  agreeing.sendEach _ update

theorem not_listed_broadcast {connId : ConnId}
    (gone : (hub.broadcastUpdate update).connections[connId]? = none)
    (bucketId : BucketId) :
    ¬Listed (hub.broadcastUpdate update) connId bucketId := by
  rw [agreeing_broadcast agreeing update]
  simp [Allowed, gone]

section Client

variable {connId : ConnId} {client : ClientInfo}
variable (present : hub.connections[connId]? = some client)

include present

/-- A client that stays is listed where it was listed. -/
theorem listed_broadcast_iff
    (remains : (hub.broadcastUpdate update).connections[connId]? =
      some client) (bucketId : BucketId) :
    Listed (hub.broadcastUpdate update) connId bucketId ↔
      Listed hub connId bucketId := by
  rw [agreeing_broadcast agreeing update, agreeing]
  simp [Allowed, present, remains]

include own

omit agreeing in
/-- A client stays unless it is a recipient that takes no frame. -/
theorem lookup_broadcast
    (takes : connId ∈ hub.recipients update.content.bucketId →
      hub.Takes client.sender) :
    (hub.broadcastUpdate update).connections[connId]? = some client :=
  (lookup_sendEach_iff update own (nodup_toList _)).mpr ⟨present, takes⟩

/-- A subscriber whose queue has room gets the frame. -/
theorem served_broadcast
    (subscribes : update.content.bucketId ∈ client.buckets)
    (takes : hub.Takes client.sender) :
    Served hub (hub.broadcastUpdate update) connId client (.of update) := by
  have member := (mem_recipients_iff agreeing present _).mpr subscribes
  have remains := lookup_broadcast own update present fun _ => takes
  obtain ⟨queue, isQueue, accepts⟩ := takes
  have sent : (hub.broadcastUpdate update).queues[client.sender]? =
      some (pushed queue (.of update)) :=
    queue_sendEach_of_reaches update own (nodup_toList _) isQueue member
      ⟨client, present, rfl, queue, isQueue, accepts⟩
  exact {
    stays := remains
    listed := listed_broadcast_iff agreeing update present remains
    appended := ⟨queue, _, isQueue, sent, rfl, items_pushed accepts _⟩ }

/-- A subscriber whose queue has no room is dropped. -/
theorem dropped_broadcast
    (subscribes : update.content.bucketId ∈ client.buckets)
    (full : ¬hub.Takes client.sender) :
    Dropped hub (hub.broadcastUpdate update) connId client := by
  have member := (mem_recipients_iff agreeing present _).mpr subscribes
  have gone : (hub.broadcastUpdate update).connections[connId]? = none := by
    rw [Option.eq_none_iff_forall_ne_some]
    intro other remains
    obtain ⟨same, takes⟩ :=
      (lookup_sendEach_iff update own (nodup_toList _)).mp remains
    cases present.symm.trans same
    exact full (takes member)
  refine ⟨gone, not_listed_broadcast agreeing update gone,
    queue_sendEach_of_not_reaches ?_⟩
  rintro other _ ⟨otherClient, isOther, sender, takes⟩
  exact full (sender ▸ takes)

/-- A client without the bucket notices nothing. -/
theorem unchanged_broadcast
    (notSubscribed : update.content.bucketId ∉ client.buckets) :
    Unchanged hub (hub.broadcastUpdate update) connId client := by
  have notMember := mt (mem_recipients_iff agreeing present _).mp
    notSubscribed
  have remains := lookup_broadcast own update present
    fun member => absurd member notMember
  refine ⟨remains, listed_broadcast_iff agreeing update present remains,
    queue_sendEach_of_not_reaches ?_⟩
  rintro other member ⟨otherClient, isOther, sender, _⟩
  have same := own other connId otherClient client isOther present sender
  exact notMember (same ▸ member)

end Client

include own

theorem reachesOnce_broadcastUpdate :
    ReachesOnce hub (hub.broadcastUpdate update) update.content.bucketId
      (.of update) where
  served _ _ present := served_broadcast agreeing own update present
  dropped _ _ present := dropped_broadcast agreeing own update present
  others _ _ present := unchanged_broadcast agreeing own update present
  strangers connId absent := by
    have gone : (hub.broadcastUpdate update).connections[connId]? = none := by
      rw [Option.eq_none_iff_forall_ne_some]
      intro client remains
      obtain ⟨present, _⟩ :=
        (lookup_sendEach_iff update own (nodup_toList _)).mp remains
      cases absent.symm.trans present
    exact ⟨gone, not_listed_broadcast agreeing update gone⟩
  queues position apart := by
    refine queue_sendEach_of_not_reaches ?_
    rintro connId member ⟨client, present, sender, _⟩
    exact apart connId client present
      ((mem_recipients_iff agreeing present _).mp member) sender
  nextConnId := (WsHub.shrinks_sendEach hub _ update).nextConnId

/--
From every hub whose index agrees with its connections, and whose clients have
queues of their own, a broadcast reaches each subscriber once, in whatever
order the subscribers are listed.
-/
theorem broadcast_reaches_once {order : List ConnId}
    (isOrder : order.Perm (hub.recipients update.content.bucketId)) :
    hub.sendEach order update = hub.broadcastUpdate update ∧
      ReachesOnce hub (hub.sendEach order update) update.content.bucketId
        (.of update) := by
  have same : hub.sendEach order update = hub.broadcastUpdate update :=
    sendEach_perm update own isOrder
  exact ⟨same, same ▸ reachesOnce_broadcastUpdate agreeing own update⟩

end Broadcast

/-! ## Three clients -/

/-- Two clients of bucket 7, the second one with a closed queue, and another. -/
def threeClients : List (HubOperation Json) :=
  [.allocateConnectionId, .allocateConnectionId, .allocateConnectionId,
    .setQueues [.empty, ⟨.empty, true⟩, .empty],
    .addClient 1 1 (Std.ExtTreeSet.ofList [7] compare) 0,
    .addClient 2 1 (Std.ExtTreeSet.ofList [7, 8] compare) 1,
    .addClient 3 1 (Std.ExtTreeSet.ofList [8] compare) 2]

def threeClientsHub : WsHub :=
  (threeClients.foldl HubHistory.apply .start).hub

theorem agreeing_threeClients : Agreeing threeClientsHub := by
  have orderly : Along HubHistory.apply Orderly .start threeClients := by
    decide +kernel
  have consistent : Consistent (threeClients.foldl HubHistory.apply .start) :=
    orderly.invariant Consistent
      (fun _ _ isOrderly consistent => consistent.apply isOrderly) .start
  exact consistent.indexed.listed_iff

theorem ownQueues_of_toList {hub : WsHub}
    (own : ∀ entry ∈ hub.connections.toList,
      ∀ other ∈ hub.connections.toList,
        entry.2.sender = other.2.sender → entry.1 = other.1) :
    OwnQueues hub := by
  intro connId other client otherClient present isOther same
  exact own (connId, client)
    (Std.ExtTreeMap.mem_toList_iff_getElem?_eq_some.mpr present)
    (other, otherClient)
    (Std.ExtTreeMap.mem_toList_iff_getElem?_eq_some.mpr isOther) same

/-- The deletion of a key of bucket 7. -/
def deletion : Sourced (DataUpdate Json) :=
  ⟨1, some 1, ⟨7, "key", none, 1⟩⟩

theorem broadcast_reaches_once_threeClients :
    threeClientsHub.sendEach [2, 1] deletion =
        threeClientsHub.broadcastUpdate deletion ∧
      ReachesOnce threeClientsHub (threeClientsHub.sendEach [2, 1] deletion) 7
        (.of deletion) := by
  have own : OwnQueues threeClientsHub :=
    ownQueues_of_toList (by decide +kernel)
  have isOrder : [2, 1].Perm (threeClientsHub.recipients 7) := by
    decide +kernel
  exact broadcast_reaches_once agreeing_threeClients own deletion isOrder

end Syncpond.HubBroadcast
