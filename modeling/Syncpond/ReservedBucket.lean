import Syncpond.Library.Runs
import Syncpond.Tasks

/-!
# The reserved bucket never reaches a client

The handshake takes the reserved bucket out of what it grants, and nothing
after it checks the bucket again: neither the hub when it sends, nor the
kernel when it collects the fragments for a new client.  The invariant follows
the bucket ids through the hub, both channels and the tasks between them.
-/

namespace Syncpond.ReservedBucket

open Syncpond.Protocol
open Syncpond.Serde
open Syncpond.State
open Syncpond.Persistence
open Syncpond.Kernel
open Syncpond.Hub
open Syncpond.Tasks
open Syncpond.Sections
open Syncpond.Library.Maps
open Syncpond.Library.Channels
open Syncpond.Library.Programs
open Syncpond.Library.Runs

variable {Value : Type}

/-! ## Bucket ids on their way to a client -/

/-- The buckets that a downstream message asks for. -/
def messageBuckets : DownstreamMessage → List BucketId
  | .clientConnected _ requestedBuckets => requestedBuckets
  | _ => []

/-- The buckets that a client message in transfer asks for. -/
def guardBuckets : HubGuard → List BucketId
  | .sending _ _ event _ => messageBuckets event
  | .refusing _ => []

/-- The buckets that the processor has to send fragments of. -/
def processorBuckets : Processor Value → List BucketId
  | .idle => []
  | .lookup _ requestedBuckets => requestedBuckets
  | .collect _ _ requestedBuckets => requestedBuckets
  | .target _ _ updates => updates.map SyncUpdate.bucketId

/-- The bucket of a notification to one client. -/
def targetedBuckets : UpdateChannelMessage Value → List BucketId
  | .broadcast _ => []
  | .targeted _ msg => [msg.bucketId]

/--
No client subscribes to the bucket, and no fragment of it is requested or on
its way to one client.
-/
structure Withheld (bucketId : BucketId) (server : Server Value) : Prop where
  index : bucketId ∉ server.hub.buckets
  frames : ∀ position frame, server.hub.Holds position frame →
    frame.content.bucketId ≠ bucketId
  grants : ∀ granted ∈ server.grants, bucketId ∉ granted.allowedBuckets
  messages : ∀ message ∈ server.messages.items,
    bucketId ∉ messageBuckets message
  lock : ∀ guard, server.lock = some guard → bucketId ∉ guardBuckets guard
  processor : bucketId ∉ processorBuckets server.processor
  notifications : ∀ notification ∈ server.notifications.items,
    bucketId ∉ targetedBuckets notification.content
  forwarder : ∀ notification, server.forwarder = some notification →
    bucketId ∉ targetedBuckets notification.content
  commands : Announcing server.pool

namespace Withheld

variable {bucketId : BucketId} {server : Server Value}

theorem boot [SerdeJson Value] (faults : Faults) (dirs : Map String Db) :
    Withheld bucketId (.start (boot faults dirs : SyncpondKernel Value)) where
  index := by simp [Server.start, WsHub.new]
  frames := by simp [Server.start, WsHub.new, WsHub.Holds]
  grants := by simp [Server.start]
  messages := by simp [Server.start]
  lock := by simp [Server.start]
  processor := by simp [Server.start, processorBuckets]
  notifications := by
    simp [Server.start, Server.notifications, Kernel.boot]
  forwarder := by simp [Server.start]
  commands := by simp [Server.start, Announcing]

variable (withheld : Withheld bucketId server)

include withheld

/-- A message that asks for other buckets can be sent. -/
theorem trySend {message : DownstreamMessage}
    (other : bucketId ∉ messageBuckets message) :
    Withheld bucketId (server.trySend message) := by
  unfold Server.trySend
  split
  · refine { withheld with messages := ?_ }
    intro sent member
    rcases Channel.mem_sendOrDrop member with before | rfl
    · exact withheld.messages sent before
    · exact other
  · exact withheld

theorem enter (position : Nat) (stage : Stage) :
    Withheld bucketId (server.enter position stage) :=
  { withheld with }

theorem withHub {hub : WsHub}
    (index : bucketId ∈ hub.buckets → bucketId ∈ server.hub.buckets)
    (frames : ∀ position frame, hub.Holds position frame →
      server.hub.Holds position frame) :
    Withheld bucketId { server with hub := hub } :=
  { withheld with
    index := fun member => withheld.index (index member)
    frames := fun position frame holds =>
      withheld.frames position frame (frames position frame holds) }

theorem closeQueue (position : Nat) :
    Withheld bucketId
      { server with hub := server.hub.closeQueue position } :=
  withheld.withHub
    ((WsHub.shrinks_closeQueue server.hub position).buckets bucketId)
    fun _ _ => WsHub.holds_closeQueue

theorem deliver {position : Nat} {connId : ConnId}
    {event : DownstreamMessage} {capacity : Capacity}
    (isSending :
      server.lock = some (.sending position connId event capacity))
    {after : Server Value}
    (stepped : server.deliver position connId event = some after) :
    Withheld bucketId after := by
  obtain ⟨messages, items, rfl⟩ := Server.deliver_eq_some stepped
  refine Withheld.enter ?_ position _
  refine { withheld with messages := ?_, lock := by simp }
  intro message member
  rw [items, List.mem_append, List.mem_singleton] at member
  rcases member with before | rfl
  · exact withheld.messages message before
  · exact withheld.lock _ isSending

end Withheld

/-- The handshake grants every bucket but the reserved one. -/
theorem not_mem_of_grant {reservedBucketId : BucketId} {claims : Claims}
    {granted : Grant} (isGrant : grant reservedBucketId claims = some granted) :
    reservedBucketId ∉ granted.allowedBuckets := by
  unfold grant at isGrant
  split at isGrant
  · split at isGrant
    · cases isGrant
      simp [allowedBuckets]
    · cases isGrant
  · cases isGrant

/-- The initial sync sends fragments of the requested buckets only. -/
theorem bucketId_mem_of_collectUpdates [SerdeJson Value]
    {iteration : Iteration Value} {app : AppState Value} {roomId : RoomId}
    {requestedBuckets : List BucketId} {update : SyncUpdate Value}
    (member : update ∈
      collectUpdates iteration app roomId requestedBuckets) :
    update.bucketId ∈ requestedBuckets := by
  unfold collectUpdates at member
  split at member
  · cases member
  · obtain ⟨bucketId, requested, member⟩ := List.mem_flatMap.mp member
    split at member
    · cases member
    · obtain ⟨entry, _, isUpdate⟩ := List.mem_filterMap.mp member
      unfold syncEntry at isUpdate
      split at isUpdate
      · cases isUpdate
      · cases isUpdate
        exact requested

/-- What the forwarder sends to anyone is not of the bucket. -/
theorem Withheld.bucketId_forward {bucketId : BucketId}
    {server : Server Value} (withheld : Withheld bucketId server)
    {notification : Sourced (UpdateChannelMessage Value)}
    (isTaken : server.forwarder = some notification) {client : ConnId}
    (member : client ∈ server.hub.addressees notification.content) :
    notification.content.update.bucketId ≠ bucketId := by
  rintro rfl
  have other := withheld.forwarder notification isTaken
  cases content : notification.content with
  | broadcast update =>
      rw [content] at member
      refine withheld.index (Std.ExtTreeMap.mem_iff_isSome_getElem?.mpr ?_)
      change server.hub.buckets[notification.content.update.bucketId]?.isSome
      rw [content]
      cases found : server.hub.buckets[update.bucketId]? with
      | none => simp [WsHub.addressees, WsHub.recipients, found] at member
      | some clients => simp [UpdateChannelMessage.update, found]
  | targeted connId msg =>
      rw [content] at other
      exact other List.mem_cons_self

/-- Connections come from a handshake that holds back the bucket. -/
def FromHandshake (reservedBucketId : BucketId) :
    ServerEvent Value → Prop
  | .connect granted => ∃ claims, grant reservedBucketId claims = some granted
  | _ => True

namespace Withheld

variable [SerdeJson Value] {faults : Faults} {bucketId : BucketId}
variable {server after : Server Value}
variable (withheld : Withheld bucketId server)

include withheld

/-- Commands broadcast, and target nobody. -/
theorem step_advance {task : Nat}
    (stepped : server.step faults (.advance task) = some after) :
    Withheld bucketId after := by
  obtain ⟨pool, advanced, rfl⟩ := Option.map_eq_some_iff.mp stepped
  obtain ⟨commands, added⟩ := withheld.commands.advance advanced
  refine { withheld with commands := commands, notifications := ?_ }
  intro notification member
  rcases added notification member with before | ⟨update, isBroadcast⟩
  · exact withheld.notifications notification before
  · simp [isBroadcast, targetedBuckets]

/-- The grant of a new connection comes from its handshake. -/
theorem step_connect {granted : Grant}
    (fromHandshake : FromHandshake bucketId
      (.connect granted : ServerEvent Value))
    (stepped : server.step faults (.connect granted) = some after) :
    Withheld bucketId after := by
  cases stepped
  obtain ⟨claims, isGrant⟩ := fromHandshake
  refine { withheld with
    frames := fun position frame holds =>
      withheld.frames position frame (WsHub.holds_openQueue holds)
    grants := ?_ }
  intro other member
  rcases List.mem_append.mp member with before | last
  · exact withheld.grants other before
  · rw [List.mem_singleton.mp last]
    exact not_mem_of_grant isGrant

/-- A client is registered for what was granted. -/
theorem step_register {position : Nat}
    (stepped : server.step faults (.register position) = some after) :
    Withheld bucketId after := by
  obtain ⟨_, _, granted, isGranted, registered | rfl⟩ :=
    Server.register_eq_some stepped
  · obtain ⟨hub, added, rfl⟩ := registered
    cases WsHub.addClient_eq_ok added
    refine Withheld.enter ?_ position _
    refine withheld.withHub ?_ fun _ _ holds => holds
    intro member
    rcases (mem_foldl_subscribe _ _).mp member with allowed | before
    · exact absurd (Std.ExtTreeSet.mem_toList.mp allowed)
        (withheld.grants granted (List.mem_of_getElem? isGranted))
    · exact before
  · refine Withheld.enter ?_ position _
    exact { withheld with lock := by simp [guardBuckets] }

/-- A greeting asks for what was granted. -/
theorem step_greet {position : Nat}
    {requestedBuckets : List BucketId}
    (stepped : server.step faults (.greet position requestedBuckets) =
      some after) :
    Withheld bucketId after := by
  obtain ⟨connId, granted, _, isGranted, perm, rfl⟩ :=
    Server.greet_eq_some stepped
  refine Withheld.enter ?_ position _
  refine withheld.trySend ?_
  intro member
  exact withheld.grants granted (List.mem_of_getElem? isGranted)
    (Std.ExtTreeSet.mem_toList.mp (perm.mem_iff.mp member))

/-- A command asks for no buckets. -/
theorem step_processClientMessage {position : Nat}
    (stepped : server.step faults (.processClientMessage position) =
      some after) :
    Withheld bucketId after := by
  obtain ⟨_, connId, payload, _, ⟨roomId, rfl⟩ | rfl⟩ :=
    Server.processClientMessage_eq_some stepped
  · refine Withheld.enter ?_ position _
    exact { withheld with
      lock := by simp [guardBuckets, messageBuckets] }
  · exact withheld.enter position _

/-- A message that is asked for waits with the same buckets. -/
theorem step_ask
    (stepped : server.step faults .ask = some after) :
    Withheld bucketId after := by
  obtain ⟨position, connId, event, isAsking, delivered | queued⟩ :=
    Server.ask_eq_some stepped
  · exact withheld.deliver isAsking delivered.2
  · obtain ⟨_, rfl⟩ := queued
    refine { withheld with lock := ?_ }
    rintro guard ⟨⟩
    have other := withheld.lock _ isAsking
    exact other

/-- The processor asks for what the message asks for. -/
theorem step_takeMessage
    (stepped : server.step faults .takeMessage = some after) :
    Withheld bucketId after := by
  obtain ⟨_, message, rest, items, rfl⟩ :=
    Server.takeMessage_eq_some stepped
  have other := withheld.messages message (items ▸ List.mem_cons_self)
  refine { withheld with messages := ?_, processor := ?_, lock := ?_ }
  · intro kept member
    exact withheld.messages kept (items ▸ List.mem_cons_of_mem _ member)
  · intro guard given
    rcases Server.giveSlot_eq_some given with before | waited
    · exact withheld.lock guard before
    · obtain ⟨position, connId, event, isQueued, rfl⟩ := waited
      have other := withheld.lock _ isQueued
      exact other
  · cases message with
    | clientConnected connId requestedBuckets => exact other
    | clientDisconnected connId => exact List.not_mem_nil
    | wsMessage roomId payload => exact List.not_mem_nil

/-- Collected fragments are of the requested buckets. -/
theorem step_collect {iteration : Iteration Value}
    (stepped : server.step faults (.collect iteration) = some after) :
    Withheld bucketId after := by
  obtain ⟨connId, roomId, requestedBuckets, isCollect, rfl⟩ :=
    Server.collect_eq_some stepped
  refine { withheld with processor := ?_ }
  intro member
  obtain ⟨update, isUpdate, rfl⟩ := List.mem_map.mp member
  have other := withheld.processor
  rw [isCollect] at other
  exact other (bucketId_mem_of_collectUpdates isUpdate)

/-- A targeted notification is one of the collected fragments. -/
theorem step_target
    (stepped : server.step faults .target = some after) :
    Withheld bucketId after := by
  obtain ⟨connId, roomId, updates, isTarget, sent | ⟨_, rfl⟩⟩ :=
    Server.target_eq_some stepped
  · obtain ⟨update, rest, sent, rfl, items, rfl⟩ := sent
    have other := withheld.processor
    rw [isTarget] at other
    refine { withheld with processor := ?_, notifications := ?_ }
    · exact fun member => other (List.mem_cons_of_mem _ member)
    · intro notification member
      have member : notification ∈ sent.items := member
      rw [items, List.mem_append, List.mem_singleton] at member
      rcases member with before | rfl
      · exact withheld.notifications notification before
      · intro isTargeted
        rw [List.mem_singleton.mp isTargeted] at other
        exact other List.mem_cons_self
  · exact { withheld with processor := by simp [processorBuckets] }

/-- The forwarder takes what is waiting. -/
theorem step_takeNotification
    (stepped : server.step faults .takeNotification = some after) :
    Withheld bucketId after := by
  obtain ⟨_, notification, rest, items, rfl⟩ :=
    Server.takeNotification_eq_some stepped
  refine { withheld with notifications := ?_, forwarder := ?_ }
  · intro kept member
    exact withheld.notifications kept
      (items ▸ List.mem_cons_of_mem _ member)
  · rintro taken ⟨⟩
    exact withheld.notifications notification
      (items ▸ List.mem_cons_self)

/-- Frames that are enqueued are not of the bucket. -/
theorem step_forward
    (stepped : server.step faults .forward = some after) :
    Withheld bucketId after := by
  obtain ⟨notification, isTaken, rfl⟩ := Server.forward_eq_some stepped
  have shrinks := WsHub.shrinks_forward server.hub notification
  refine { withheld with
    index := fun member =>
      withheld.index (shrinks.buckets bucketId member)
    frames := ?_
    forwarder := by simp }
  intro position frame holds
  rcases WsHub.holds_forward holds with before | ⟨rfl, client, member, _⟩
  · exact withheld.frames position frame before
  · exact withheld.bucketId_forward isTaken member

end Withheld

/-- Every event keeps the bucket withheld. -/
theorem Withheld.step [SerdeJson Value] {faults : Faults}
    {bucketId : BucketId} {server after : Server Value}
    {event : ServerEvent Value} (withheld : Withheld bucketId server)
    (fromHandshake : FromHandshake bucketId event)
    (stepped : server.step faults event = some after) :
    Withheld bucketId after := by
  cases event with
  | command command =>
      cases stepped
      exact { withheld with commands := withheld.commands.spawn faults command }
  | advance task => exact withheld.step_advance stepped
  | connect granted => exact withheld.step_connect fromHandshake stepped
  | register position => exact withheld.step_register stepped
  | refuse =>
      obtain ⟨position, _, rfl⟩ := Server.refuse_eq_some stepped
      refine Withheld.enter ?_ position _
      exact { withheld.closeQueue position with lock := by simp }
  | greet position requestedBuckets => exact withheld.step_greet stepped
  | drain position =>
      obtain ⟨frame, hub, received, rfl⟩ := Server.drain_eq_some stepped
      exact withheld.withHub
        ((WsHub.shrinks_receive received).buckets bucketId)
        fun _ _ => WsHub.holds_receive received
  | receive position payload =>
      obtain ⟨connId, _, rfl⟩ := Server.receive_eq_some stepped
      exact withheld.enter position _
  | leave position =>
      obtain ⟨connId, _, rfl⟩ := Server.leave_eq_some stepped
      exact withheld.enter position _
  | processClientMessage position =>
      exact withheld.step_processClientMessage stepped
  | ask => exact withheld.step_ask stepped
  | send =>
      obtain ⟨position, connId, event, isGranted, delivered⟩ :=
        Server.send_eq_some stepped
      exact withheld.deliver isGranted delivered
  | remove position =>
      obtain ⟨_, connId, _, rfl⟩ := Server.remove_eq_some stepped
      have shrinks := WsHub.shrinks_removeClient server.hub connId
      refine Withheld.enter ?_ position _
      refine withheld.withHub (shrinks.buckets bucketId) ?_
      intro _ _ holds
      simpa [WsHub.Holds] using holds
  | depart position =>
      obtain ⟨connId, _, rfl⟩ := Server.depart_eq_some stepped
      refine Withheld.enter ?_ position _
      refine Withheld.closeQueue ?_ position
      exact withheld.trySend (by simp [messageBuckets])
  | takeMessage => exact withheld.step_takeMessage stepped
  | lookUp =>
      obtain ⟨connId, requestedBuckets, isLookup, found | ⟨_, rfl⟩⟩ :=
        Server.lookUp_eq_some stepped
      · obtain ⟨client, _, rfl⟩ := found
        have other := withheld.processor
        rw [isLookup] at other
        exact { withheld with processor := other }
      · exact { withheld with processor := by simp [processorBuckets] }
  | collect iteration => exact withheld.step_collect stepped
  | target => exact withheld.step_target stepped
  | takeNotification => exact withheld.step_takeNotification stepped
  | forward => exact withheld.step_forward stepped

/--
In every run of the server whose connections come from a handshake with the
reserved bucket `serverOnlyBucketId`, no queue ever holds a frame of that
bucket.
-/
theorem serverOnlyBucket_never_sent [SerdeJson Value] (faults : Faults)
    (dirs : Map String Db) {server : Server Value}
    (run : Follows (Server.step faults)
      (fun _ event => FromHandshake serverOnlyBucketId event)
      (.start (boot faults dirs)) server) :
    ∀ position frame, server.hub.Holds position frame →
      frame.content.bucketId ≠ serverOnlyBucketId :=
  (run.invariant (Withheld serverOnlyBucketId)
    (fun _ _ _ withheld fromHandshake stepped =>
      withheld.step fromHandshake stepped)
    (.boot faults dirs)).frames

/-! ## A token that claims the reserved bucket -/

/-- What a token for room 1 that claims the reserved bucket is granted. -/
def claimsReserved : Grant :=
  ⟨1, allowedBuckets serverOnlyBucketId
    ⟨some 1, some [5, serverOnlyBucketId]⟩⟩

/-- The connection registers, and both claimed buckets are written. -/
def writeClaimed : List (ServerEvent Json) :=
  .command (.newRoom "room") :: List.replicate 3 (.advance 0) ++
  [.connect claimsReserved, .register 0, .greet 0 [0, 5]] ++
  .command (.writeFragment 1 5 "key" "1".toUTF8) ::
    List.replicate 7 (.advance 1) ++
  .command (.writeFragment 1 serverOnlyBucketId "key" "2".toUTF8) ::
    List.replicate 7 (.advance 2) ++
  [.takeNotification, .forward, .takeNotification, .forward]

/-- One frame is in the queue, and it is not of the reserved bucket. -/
theorem serverOnlyBucket_never_sent_claimed :
    ∃ server : Server Json,
      writeClaimed.foldlM (Server.step .none) (.start (boot .none ∅)) =
        some server ∧
      server.hub.queues.map (fun queue => queue.frames.items.length) =
        [1] ∧
      ∀ position frame, server.hub.Holds position frame →
        frame.content.bucketId ≠ serverOnlyBucketId := by
  have ran : (writeClaimed.foldlM (Server.step .none)
      (.start (boot .none ∅))).map (fun server =>
        server.hub.queues.map fun queue => queue.frames.items.length) =
      some [1] := by
    decide +kernel
  obtain ⟨server, ran, frames⟩ := Option.map_eq_some_iff.mp ran
  refine ⟨server, ran, frames, serverOnlyBucket_never_sent .none ∅
    (follows_of_forall ?_ ran)⟩
  intro event member
  cases event with
  | connect granted =>
      have same : granted = claimsReserved := by
        simpa [writeClaimed] using member
      exact ⟨⟨some 1, some [5, serverOnlyBucketId]⟩, same ▸ rfl⟩
  | _ => trivial

end Syncpond.ReservedBucket
