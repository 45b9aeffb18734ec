import Syncpond.Library.Runs
import Syncpond.Tasks

/-!
# Frames and rooms

A frame that is addressed to one client comes from the room of that client:
the kernel looks the room up in the hub, and connection ids are not given
twice.  A broadcast goes to all subscribers of its bucket id, and rooms share
bucket ids, so it stays in its room only as long as no client of another room
subscribes to the same id.
-/

namespace Syncpond.RoomIsolation

open Syncpond.Protocol
open Syncpond.Serde
open Syncpond.State
open Syncpond.Persistence
open Syncpond.Kernel
open Syncpond.Hub
open Syncpond.Tasks
open Syncpond.Sections
open Syncpond.Library.Maps
open Syncpond.Library.Channels
open Syncpond.Library.Programs
open Syncpond.Library.Runs

variable {Value : Type}

/-! ## Isolation -/

/-- Every frame in the queue of a client comes from the room of the client. -/
def Isolated (server : Server Value) : Prop :=
  ∀ (connId : ConnId) (client : ClientInfo),
    server.hub.connections[connId]? = some client →
    ∀ frame, server.hub.Holds client.sender frame →
      frame.origin = client.roomId

/--
Registrations find an id that was not given before, and a broadcast finds no
client of another room that subscribes to its bucket id and takes the frame.
-/
def Separate (server : Server Value) : ServerEvent Value → Prop
  | .register _ => server.hub.nextConnId.toNat + 1 < UInt64.size
  | .forward =>
      ∀ notification update, server.forwarder = some notification →
        notification.content = .broadcast update →
        ∀ subscriber ∈ server.hub.recipients update.bucketId,
        ∀ client : ClientInfo,
          server.hub.connections[subscriber]? = some client →
          server.hub.Takes client.sender →
          client.roomId = notification.origin
  | _ => True

/-! ## Addresses -/

/-- The id was given, and to no client of another room. -/
def Addressed (hub : WsHub) (connId : ConnId) (roomId : RoomId) : Prop :=
  connId < hub.nextConnId ∧
    ∀ client : ClientInfo, hub.connections[connId]? = some client →
      client.roomId = roomId

/-- What the processor sends is addressed. -/
def ProcessorAddressed (hub : WsHub) : Processor Value → Prop
  | .collect connId roomId _ => Addressed hub connId roomId
  | .target connId roomId _ => Addressed hub connId roomId
  | _ => True

/-- A notification to one client is addressed. -/
def NotificationAddressed (hub : WsHub)
    (notification : Sourced (UpdateChannelMessage Value)) : Prop :=
  ∀ connId msg, notification.content = .targeted connId msg →
    Addressed hub connId notification.origin

/-- An address stays valid while ids are only given to new clients. -/
structure Later (before after : WsHub) : Prop where
  nextConnId : before.nextConnId ≤ after.nextConnId
  connections : ∀ (connId : ConnId) (client : ClientInfo),
    connId < before.nextConnId →
    after.connections[connId]? = some client →
    before.connections[connId]? = some client

namespace Later

variable {before after : WsHub} (later : Later before after)

theorem of_shrinks (shrinks : WsHub.Shrinks before after) :
    Later before after where
  nextConnId := shrinks.nextConnId ▸ UInt64.le_refl _
  connections connId client _ := shrinks.connections connId client

include later

theorem addressed {connId : ConnId} {roomId : RoomId}
    (addressed : Addressed before connId roomId) :
    Addressed after connId roomId :=
  ⟨UInt64.lt_of_lt_of_le addressed.1 later.nextConnId,
    fun client present =>
      addressed.2 client (later.connections connId client addressed.1 present)⟩

theorem processor {processor : Processor Value}
    (addressed : ProcessorAddressed before processor) :
    ProcessorAddressed after processor := by
  cases processor with
  | idle => trivial
  | lookup connId requestedBuckets => trivial
  | collect connId roomId requestedBuckets => exact later.addressed addressed
  | target connId roomId updates => exact later.addressed addressed

theorem notification {notification : Sourced (UpdateChannelMessage Value)}
    (addressed : NotificationAddressed before notification) :
    NotificationAddressed after notification :=
  fun connId msg isTargeted =>
    later.addressed (addressed connId msg isTargeted)

end Later

theorem lt_saturatingSucc {id : ConnId}
    (fits : id.toNat + 1 < UInt64.size) : id < WsHub.saturatingSucc id := by
  rw [WsHub.saturatingSucc, if_pos fits]
  exact lt_succ fits

/-! ## The invariant -/

/-- Clients and frames are of the room that their connection was granted. -/
structure Confined (server : Server Value) : Prop where
  aligned : server.hub.queues.length = server.grants.length
  ids : ∀ (connId : ConnId) (client : ClientInfo),
    server.hub.connections[connId]? = some client →
    connId < server.hub.nextConnId
  clients : ∀ (connId : ConnId) (client : ClientInfo),
    server.hub.connections[connId]? = some client →
    ∃ granted, server.grants[client.sender]? = some granted ∧
      granted.roomId = client.roomId
  frames : ∀ position granted frame,
    server.grants[position]? = some granted →
    server.hub.Holds position frame → frame.origin = granted.roomId
  processor : ProcessorAddressed server.hub server.processor
  notifications : ∀ notification ∈ server.notifications.items,
    NotificationAddressed server.hub notification
  forwarder : ∀ notification, server.forwarder = some notification →
    NotificationAddressed server.hub notification
  commands : Announcing server.pool

namespace Confined

variable {server : Server Value}

theorem boot [SerdeJson Value] (faults : Faults) (dirs : Map String Db) :
    Confined (.start (boot faults dirs : SyncpondKernel Value)) where
  aligned := rfl
  ids := by simp [Server.start, WsHub.new]
  clients := by simp [Server.start, WsHub.new]
  frames := by simp [Server.start]
  processor := trivial
  notifications := by
    simp [Server.start, Server.notifications, Kernel.boot]
  forwarder := by simp [Server.start]
  commands := by simp [Server.start, Announcing]

variable (confined : Confined server)

include confined

theorem isolated : Isolated server := by
  intro connId client present frame holds
  obtain ⟨granted, isGranted, roomId⟩ :=
    confined.clients connId client present
  rw [← roomId]
  exact confined.frames client.sender granted frame isGranted holds

theorem enter (position : Nat) (stage : Stage) :
    Confined (server.enter position stage) :=
  { confined with }

theorem trySend (message : DownstreamMessage) :
    Confined (server.trySend message) := by
  unfold Server.trySend
  split
  · exact { confined with }
  · exact confined

theorem deliver {position : Nat} {connId : ConnId}
    {event : DownstreamMessage} {after : Server Value}
    (stepped : server.deliver position connId event = some after) :
    Confined after := by
  obtain ⟨messages, _, rfl⟩ := Server.deliver_eq_some stepped
  refine Confined.enter ?_ position _
  exact { confined with }

/-- Addresses stay valid in a later hub. -/
theorem withLater {hub : WsHub} (later : Later server.hub hub)
    (aligned : hub.queues.length = server.hub.queues.length)
    (ids : ∀ (connId : ConnId) (client : ClientInfo),
      hub.connections[connId]? = some client → connId < hub.nextConnId)
    (clients : ∀ (connId : ConnId) (client : ClientInfo),
      hub.connections[connId]? = some client →
      ∃ granted, server.grants[client.sender]? = some granted ∧
        granted.roomId = client.roomId)
    (frames : ∀ position granted frame,
      server.grants[position]? = some granted →
      hub.Holds position frame →
      server.hub.Holds position frame ∨ frame.origin = granted.roomId) :
    Confined { server with hub := hub } where
  aligned := aligned.trans confined.aligned
  ids := ids
  clients := clients
  frames position granted frame isGranted holds := by
    rcases frames position granted frame isGranted holds with before | origin
    · exact confined.frames position granted frame isGranted before
    · exact origin
  processor := later.processor confined.processor
  notifications notification member :=
    later.notification (confined.notifications notification member)
  forwarder notification isTaken :=
    later.notification (confined.forwarder notification isTaken)
  commands := confined.commands

/-- The hub loses clients, and gains frames of the right rooms. -/
theorem withHub {hub : WsHub}
    (shrinks : WsHub.Shrinks server.hub hub)
    (frames : ∀ position granted frame,
      server.grants[position]? = some granted →
      hub.Holds position frame →
      server.hub.Holds position frame ∨ frame.origin = granted.roomId) :
    Confined { server with hub := hub } := by
  refine confined.withLater (.of_shrinks shrinks) shrinks.queues ?_ ?_ frames
  · intro connId client present
    exact shrinks.nextConnId ▸
      confined.ids connId client (shrinks.connections connId client present)
  · intro connId client present
    exact confined.clients connId client
      (shrinks.connections connId client present)

theorem closeQueue (position : Nat) :
    Confined { server with hub := server.hub.closeQueue position } :=
  confined.withHub (WsHub.shrinks_closeQueue server.hub position)
    fun _ _ _ _ holds => Or.inl (WsHub.holds_closeQueue holds)

/-- The queue of a new connection is empty. -/
theorem connect (granted : Grant) : Confined (server.connect granted) := by
  refine { confined with aligned := ?_, clients := ?_, frames := ?_ }
  · simp [Server.connect, WsHub.openQueue, confined.aligned]
  · intro connId client present
    obtain ⟨other, isOther, roomId⟩ :=
      confined.clients connId client present
    obtain ⟨bound, _⟩ := List.getElem?_eq_some_iff.mp isOther
    exact ⟨other, (List.getElem?_append_left bound).trans isOther, roomId⟩
  · intro position other frame isOther holds
    have before := WsHub.holds_openQueue holds
    have bound := confined.aligned ▸ before.lt_length
    exact confined.frames position other frame
      ((List.getElem?_append_left bound).symm.trans isOther) before

/-- A registration gives a new id to a client of the granted room. -/
theorem register {position : Nat} {after : Server Value}
    (fits : server.hub.nextConnId.toNat + 1 < UInt64.size)
    (stepped : server.register position = some after) : Confined after := by
  have newer := lt_saturatingSucc fits
  obtain ⟨_, _, granted, isGranted, registered | rfl⟩ :=
    Server.register_eq_some stepped
  · obtain ⟨hub, added, rfl⟩ := registered
    cases WsHub.addClient_eq_ok added
    refine Confined.enter ?_ position _
    refine confined.withLater ⟨UInt64.le_of_lt newer, ?_⟩ rfl ?_ ?_
      fun _ _ _ _ holds => Or.inl holds
    · intro connId client given present
      have different : server.hub.nextConnId ≠ connId := by
        rintro rfl
        exact UInt64.lt_irrefl _ given
      rwa [lookup_insert, if_neg different] at present
    · intro connId client present
      rw [lookup_insert] at present
      split at present
      · next same => exact same ▸ newer
      · exact UInt64.lt_trans (confined.ids connId client present) newer
    · intro connId client present
      rw [lookup_insert] at present
      split at present
      · cases present
        exact ⟨granted, isGranted, rfl⟩
      · exact confined.clients connId client present
  · refine Confined.enter ?_ position _
    have later : Later server.hub server.hub.allocateConnectionId.2 :=
      ⟨UInt64.le_of_lt newer, fun _ _ _ present => present⟩
    have allocated := confined.withLater later rfl
      (fun connId client present =>
        UInt64.lt_trans (confined.ids connId client present) newer)
      confined.clients fun _ _ _ _ holds => Or.inl holds
    exact { allocated with }

end Confined

/-- What the forwarder adds to a queue is of the room of its connection. -/
theorem Confined.forward [SerdeJson Value] {server after : Server Value}
    (confined : Confined server) (separate : Separate server .forward)
    (stepped : server.forward = some after) : Confined after := by
  obtain ⟨notification, isTaken, rfl⟩ := Server.forward_eq_some stepped
  have forwarded := confined.withHub
    (WsHub.shrinks_forward server.hub notification) (by
      intro position granted frame isGranted holds
      rcases WsHub.holds_forward holds with
        before | ⟨rfl, target, member, reaches⟩
      · exact Or.inl before
      · right
        obtain ⟨client, present, rfl, takes⟩ := reaches
        obtain ⟨other, isOther, roomId⟩ :=
          confined.clients target client present
        cases isGranted.symm.trans isOther
        rw [roomId]
        cases content : notification.content with
        | broadcast update =>
            rw [content] at member
            exact (separate notification update isTaken content target member
              client present takes).symm
        | targeted connId msg =>
            rw [content] at member
            cases List.mem_singleton.mp member
            exact ((confined.forwarder notification isTaken _ msg
              content).2 client present).symm)
  exact { forwarded with forwarder := by simp }

/-- An event that meets the condition keeps clients and frames in rooms. -/
theorem Confined.step [SerdeJson Value] {faults : Faults}
    {server after : Server Value} {event : ServerEvent Value}
    (confined : Confined server) (separate : Separate server event)
    (stepped : server.step faults event = some after) : Confined after := by
  cases event with
  | command command =>
      cases stepped
      exact { confined with commands := confined.commands.spawn faults command }
  | advance task =>
      obtain ⟨pool, advanced, rfl⟩ := Option.map_eq_some_iff.mp stepped
      obtain ⟨commands, added⟩ := confined.commands.advance advanced
      refine { confined with commands := commands, notifications := ?_ }
      intro notification member connId msg isTargeted
      rcases added notification member with before | ⟨update, isBroadcast⟩
      · exact confined.notifications notification before connId msg isTargeted
      · cases isBroadcast.symm.trans isTargeted
  | connect granted =>
      cases stepped
      exact confined.connect granted
  | register position => exact confined.register separate stepped
  | refuse =>
      obtain ⟨position, _, rfl⟩ := Server.refuse_eq_some stepped
      refine Confined.enter ?_ position _
      exact { confined.closeQueue position with }
  | greet position requestedBuckets =>
      obtain ⟨connId, granted, _, _, _, rfl⟩ := Server.greet_eq_some stepped
      refine Confined.enter ?_ position _
      exact confined.trySend _
  | drain position =>
      obtain ⟨frame, hub, received, rfl⟩ := Server.drain_eq_some stepped
      exact confined.withHub (WsHub.shrinks_receive received)
        fun _ _ _ _ holds => Or.inl (WsHub.holds_receive received holds)
  | receive position payload =>
      obtain ⟨connId, _, rfl⟩ := Server.receive_eq_some stepped
      exact confined.enter position _
  | leave position =>
      obtain ⟨connId, _, rfl⟩ := Server.leave_eq_some stepped
      exact confined.enter position _
  | processClientMessage position =>
      obtain ⟨_, connId, payload, _, ⟨roomId, rfl⟩ | rfl⟩ :=
        Server.processClientMessage_eq_some stepped
      · refine Confined.enter ?_ position _
        exact { confined with }
      · exact confined.enter position _
  | ask =>
      obtain ⟨position, connId, event, _, delivered | queued⟩ :=
        Server.ask_eq_some stepped
      · exact confined.deliver delivered.2
      · obtain ⟨_, rfl⟩ := queued
        exact { confined with }
  | send =>
      obtain ⟨position, connId, event, _, delivered⟩ :=
        Server.send_eq_some stepped
      exact confined.deliver delivered
  | remove position =>
      obtain ⟨_, connId, _, rfl⟩ := Server.remove_eq_some stepped
      refine Confined.enter ?_ position _
      refine confined.withHub (WsHub.shrinks_removeClient server.hub connId) ?_
      intro _ _ _ _ holds
      exact Or.inl (by simpa [WsHub.Holds] using holds)
  | depart position =>
      obtain ⟨connId, _, rfl⟩ := Server.depart_eq_some stepped
      refine Confined.enter ?_ position _
      refine Confined.closeQueue ?_ position
      exact confined.trySend _
  | takeMessage =>
      obtain ⟨_, message, rest, _, rfl⟩ :=
        Server.takeMessage_eq_some stepped
      refine { confined with processor := ?_ }
      cases message <;> trivial
  | lookUp =>
      obtain ⟨connId, requestedBuckets, _, found | ⟨_, rfl⟩⟩ :=
        Server.lookUp_eq_some stepped
      · obtain ⟨client, present, rfl⟩ := found
        refine { confined with
          processor := ⟨confined.ids connId client present, ?_⟩ }
        intro other isOther
        cases present.symm.trans isOther
        rfl
      · exact { confined with processor := trivial }
  | collect iteration =>
      obtain ⟨connId, roomId, requestedBuckets, isCollect, rfl⟩ :=
        Server.collect_eq_some stepped
      have addressed := confined.processor
      rw [isCollect] at addressed
      exact { confined with processor := addressed }
  | target =>
      obtain ⟨connId, roomId, updates, isTarget, sent | ⟨_, rfl⟩⟩ :=
        Server.target_eq_some stepped
      · obtain ⟨update, rest, sent, rfl, items, rfl⟩ := sent
        have addressed := confined.processor
        rw [isTarget] at addressed
        refine { confined with processor := addressed, notifications := ?_ }
        intro notification member
        have member : notification ∈ sent.items := member
        rw [items, List.mem_append, List.mem_singleton] at member
        rcases member with before | rfl
        · exact confined.notifications notification before
        · rintro _ _ ⟨⟩
          exact addressed
      · exact { confined with processor := trivial }
  | takeNotification =>
      obtain ⟨_, notification, rest, items, rfl⟩ :=
        Server.takeNotification_eq_some stepped
      refine { confined with notifications := ?_, forwarder := ?_ }
      · intro kept member
        exact confined.notifications kept
          (items ▸ List.mem_cons_of_mem _ member)
      · rintro taken ⟨⟩
        exact confined.notifications notification
          (items ▸ List.mem_cons_self)
  | forward => exact confined.forward separate stepped

/--
In a run of the server in which every broadcast finds only clients of its own
room among the subscribers of its bucket id, no client is sent a frame of
another room.
-/
theorem rooms_isolated [SerdeJson Value] (faults : Faults)
    (dirs : Map String Db) {server : Server Value}
    (run : Follows (Server.step faults) Separate
      (.start (boot faults dirs)) server) :
    Isolated server :=
  (run.invariant Confined
    (fun _ _ _ confined separate stepped => confined.step separate stepped)
    (.boot faults dirs)).isolated

/-! ## Two rooms -/

/-- What a token for room 2 without further buckets is granted. -/
def secondRoom : Grant :=
  ⟨2, allowedBuckets serverOnlyBucketId ⟨some 2, none⟩⟩

/-- A client of room 2 connects, and a room writes a fragment of bucket 0. -/
def writeBeside (roomId : RoomId) : List (ServerEvent Json) :=
  .command (.newRoom "first") :: List.replicate 3 (.advance 0) ++
  .command (.newRoom "second") :: List.replicate 3 (.advance 1) ++
  [.connect secondRoom, .register 0, .greet 0 [0]] ++
  .command (.writeFragment roomId 0 "key" "1".toUTF8) ::
    List.replicate 7 (.advance 2) ++
  [.takeNotification, .forward]

/-- A check that is enough for `Separate`. -/
def checkSeparate (server : Server Value) : ServerEvent Value → Bool
  | .register _ => decide (server.hub.nextConnId.toNat + 1 < UInt64.size)
  | .forward =>
      server.forwarder.all fun notification =>
        (server.hub.addressees notification.content).all fun subscriber =>
          server.hub.connections[subscriber]?.all fun client =>
            client.roomId = notification.origin
  | _ => true

theorem separate_of_check (server : Server Value)
    (event : ServerEvent Value)
    (checked : checkSeparate server event = true) :
    Separate server event := by
  cases event with
  | register position =>
      have fits : decide (server.hub.nextConnId.toNat + 1 < UInt64.size) =
        true := checked
      exact (of_decide_eq_true fits :)
  | forward =>
      intro notification update isTaken isBroadcast subscriber member client
        present _
      simp only [checkSeparate, isTaken, Option.all_some, isBroadcast,
        List.all_eq_true] at checked
      have checked := checked subscriber member
      rw [present] at checked
      exact of_decide_eq_true checked
  | _ => trivial

/-- The frame of a write to the room of the client is in its queue. -/
theorem rooms_isolated_sameRoom :
    ∃ server : Server Json,
      server.hub.queues.map
        (fun queue => queue.frames.items.map Sourced.origin) = [[2]] ∧
      Isolated server := by
  have ran : ((writeBeside 2).foldlM (fun server event =>
      if checkSeparate server event then server.step .none event else none)
      (.start (boot .none ∅))).map (fun server =>
        server.hub.queues.map
          fun queue => queue.frames.items.map Sourced.origin) =
      some [[2]] := by
    decide +kernel
  obtain ⟨server, ran, frames⟩ := Option.map_eq_some_iff.mp ran
  exact ⟨server, frames,
    rooms_isolated .none ∅ (follows_of_checked separate_of_check ran)⟩

/-- The frame of a write to room 1 is in the queue of the client of room 2. -/
theorem sharedBucket_leaks :
    ¬ ∀ server : Server Json,
      Follows (Server.step .none) (fun _ _ => True)
        (.start (boot .none ∅)) server →
      Isolated server := by
  intro isolated
  have ran : ((writeBeside 1).foldlM (Server.step .none)
      (.start (boot .none ∅))).map (fun server =>
        (server.hub.connections[(1 : ConnId)]?.map fun client =>
          (client.roomId, client.sender),
        server.hub.queues.map
          fun queue => queue.frames.items.map Sourced.origin)) =
      some (some (2, 0), [[1]]) := by
    decide +kernel
  obtain ⟨server, ran, seen⟩ := Option.map_eq_some_iff.mp ran
  obtain ⟨isClient, frames⟩ := Prod.mk.inj seen
  obtain ⟨client, present, isSecond⟩ := Option.map_eq_some_iff.mp isClient
  obtain ⟨roomId, sender⟩ := Prod.mk.inj isSecond
  obtain ⟨queue, isQueue, items⟩ := List.map_eq_singleton_iff.mp frames
  obtain ⟨frame, isFrame, origin⟩ := List.map_eq_singleton_iff.mp items
  have holds : server.hub.Holds client.sender frame := by
    refine ⟨queue, by rw [isQueue, sender]; rfl, ?_⟩
    rw [isFrame]
    exact List.mem_cons_self
  have same := isolated server (follows_of_foldlM ran) 1 client present
    frame holds
  rw [origin, roomId] at same
  exact absurd same (by decide)

end Syncpond.RoomIsolation
