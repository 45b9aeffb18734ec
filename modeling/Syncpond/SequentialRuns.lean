import Syncpond.RoomIsolation
import Syncpond.SyncOrder

/-!
# Sequential runs

In a sequential run each command is handled alone, while connections, the
processor and the forwarder go on between commands.  `Flow` says once what such
an event does to the frames on their way.  `InUse` collects everything that
still refers to a connection id; nothing refers to an id before a connection
registers under it.
-/

namespace Syncpond.SequentialRuns

open Syncpond.Protocol
open Syncpond.Serde
open Syncpond.Persistence
open Syncpond.Kernel
open Syncpond.Hub
open Syncpond.HubIndex
open Syncpond.HubDelivery
open Syncpond.Tasks
open Syncpond.Registration
open Syncpond.Delivery
open Syncpond.Transit
open Syncpond.InitialSyncs
open Syncpond.SyncOrder
open Syncpond.RoomIsolation
open Syncpond.Library.Maps
open Syncpond.Library.Channels
open Syncpond.Library.Programs

variable {Value : Type}

/-! ## Happenings -/

/-- A command is handled alone, or another task of the server goes on. -/
inductive Happening (Value : Type) where
  | command (command : Commands)
  | event (event : ServerEvent Value)

/-- The server with another kernel. -/
def withKernel (server : Server Value) (kernel : SyncpondKernel Value) :
    Server Value :=
  { server with pool := { server.pool with shared := kernel } }

/-- The trace after a command was handled alone. -/
def handled [SerdeJson Value] (trace : Trace Value) (command : Commands) :
    Trace Value :=
  { trace with
    server := withKernel trace.server
      (Kernel.apply .none trace.server.pool.shared (.command command))
    commands := trace.commands ++ [command] }

/-- The trace after a happening, if it can happen. -/
def happen [SerdeJson Value] (trace : Trace Value) :
    Happening Value → Option (Trace Value)
  | .command command => some (handled trace command)
  | .event event => trace.step .none event

/-! ## Frames on their way -/

instance (notification : Sourced (UpdateChannelMessage Value))
    (connId : ConnId) (client : ClientInfo) :
    Decidable (IsFor notification connId client) :=
  match content : notification.content with
  | .broadcast update =>
      decidable_of_iff (update.bucketId ∈ client.buckets) (by
        rw [IsFor, content])
  | .targeted target _ =>
      decidable_of_iff (target = connId) (by rw [IsFor, content])

/-- The frames that a client was sent, or is to be sent. -/
def sentTo [SerdeJson Value] (trace : Trace Value) (connId : ConnId)
    (client : ClientInfo) : List Frame :=
  trace.enqueued client.sender ++
    ((waiting trace.server).filter fun notification =>
      decide (IsFor notification connId client)).map frameOf

/-- The collected fragments that the processor has yet to send to a client. -/
def owedTo (server : Server Value) (connId : ConnId) :
    List (SyncUpdate Value) :=
  match server.processor with
  | .target target _ updates => if target = connId then updates else []
  | _ => []

theorem owedTo_target {server : Server Value} {target : ConnId}
    {roomId : RoomId} {updates : List (SyncUpdate Value)}
    (isTarget : server.processor = .target target roomId updates)
    (connId : ConnId) :
    owedTo server connId = if target = connId then updates else [] := by
  rw [owedTo, isTarget]

theorem mem_owedTo {server : Server Value} {connId : ConnId}
    {update : SyncUpdate Value} (member : update ∈ owedTo server connId) :
    ∃ roomId updates,
      server.processor = .target connId roomId updates ∧
        update ∈ updates := by
  unfold owedTo at member
  split at member
  · next target roomId updates isTarget =>
    split at member
    · next same => exact ⟨roomId, updates, same ▸ isTarget, member⟩
    · cases member
  · cases member

theorem owedTo_eq_nil {server : Server Value} {connId : ConnId}
    (elsewhere : ∀ roomId updates,
      server.processor ≠ .target connId roomId updates) :
    owedTo server connId = [] := by
  unfold owedTo
  split
  · next target roomId updates isTarget =>
    refine if_neg fun same => elsewhere roomId updates ?_
    exact same ▸ isTarget
  · rfl

/-- Only the processor matters. -/
theorem owedTo_congr {server after : Server Value}
    (processor : after.processor = server.processor) (connId : ConnId) :
    owedTo after connId = owedTo server connId := by
  rw [owedTo, owedTo, processor]

variable [SerdeJson Value]

/-- What an event does to the frames on their way to registered clients. -/
inductive Flow (trace : Trace Value) :
    ServerEvent Value → Trace Value → Prop
  | still {event : ServerEvent Value} {after : Trace Value}
      (collected : after.collected = trace.collected)
      (waiting : waiting after.server = waiting trace.server)
      (enqueued : ∀ position,
        after.enqueued position = trace.enqueued position)
      (owed : ∀ (connId : ConnId) (client : ClientInfo),
        trace.server.hub.connections[connId]? = some client →
        owedTo after.server connId = owedTo trace.server connId) :
      Flow trace event after
  | collect (iteration : Iteration Value) (connId : ConnId)
      (roomId : RoomId) (requestedBuckets : List BucketId)
      (isCollect :
        trace.server.processor = .collect connId roomId requestedBuckets) :
      Flow trace (.collect iteration)
        { trace with
          server := { trace.server with
            processor := .target connId roomId
              (collectUpdates iteration trace.server.pool.shared.state roomId
                requestedBuckets) }
          collected := trace.collected ++
            [⟨connId, roomId, requestedBuckets,
              collectUpdates iteration trace.server.pool.shared.state roomId
                requestedBuckets⟩] }
  | target (connId : ConnId) (roomId : RoomId) (update : SyncUpdate Value)
      (rest : List (SyncUpdate Value)) (sent : Notifications Value)
      (isTarget :
        trace.server.processor = .target connId roomId (update :: rest))
      (items : sent.items = trace.server.notifications.items ++
        [⟨roomId, none, .targeted connId update.dataUpdate⟩]) :
      Flow trace .target
        { trace with
          server := { trace.server.withNotifications sent with
            processor := .target connId roomId rest } }
  | forward (notification : Sourced (UpdateChannelMessage Value))
      (isTaken : trace.server.forwarder = some notification) :
      Flow trace .forward
        { trace with
          server := { trace.server with
            hub := trace.server.hub.forward notification
            forwarder := none } }

section Flow

variable {trace after : Trace Value} {event : ServerEvent Value}

/-- Without commands in progress every event is one of these. -/
theorem flow (passed : Passage .none trace event after)
    (notCommand : ∀ command, event ≠ .command command)
    (notAdvance : ∀ task, event ≠ .advance task)
    (findsRoom : FindsRoom .none trace event) :
    Flow trace event after := by
  have idle {server : Server Value} (connId : ConnId)
      (before : trace.server.processor = .idle ∨
        ∃ target requestedBuckets,
          trace.server.processor = .lookup target requestedBuckets)
      (now : server.processor = .idle ∨
        (∃ target requestedBuckets,
          server.processor = .lookup target requestedBuckets) ∨
        ∃ target roomId requestedBuckets,
          server.processor = .collect target roomId requestedBuckets) :
      owedTo server connId = owedTo trace.server connId := by
    unfold owedTo
    rcases before with isIdle | ⟨_, _, isLookup⟩ <;>
      rcases now with isNow | ⟨_, _, isNow⟩ | ⟨_, _, _, isNow⟩ <;>
      simp_all
  cases passed with
  | aside _ aside =>
      refine .still aside.collected ?_ aside.enqueued
        fun connId _ _ => owedTo_congr aside.processor connId
      rw [waiting, waiting, aside.forwarder, Server.notifications, aside.pool]
      rfl
  | command command => exact absurd rfl (notCommand command)
  | advance task => exact absurd rfl (notAdvance task)
  | greet position connId granted requestedBuckets _ _ _ =>
      refine .still rfl ?_ ?_ ?_
      · simp [waiting, Server.enter, Server.notifications]
      · simp [Trace.enqueued, Server.enter]
      · exact fun _ _ _ => owedTo_congr (by simp [Server.enter]) _
  | takeMessage message rest isIdle items =>
      refine .still rfl rfl (fun _ => rfl) fun connId _ _ =>
        idle connId (Or.inl isIdle) ?_
      cases message with
      | clientConnected target requestedBuckets =>
          exact Or.inr (Or.inl ⟨target, requestedBuckets, rfl⟩)
      | clientDisconnected target => exact Or.inl rfl
      | wsMessage roomId payload => exact Or.inl rfl
  | lookUp target requestedBuckets client isLookup present =>
      exact .still rfl rfl (fun _ => rfl) fun connId _ _ =>
        idle connId (Or.inr ⟨_, _, isLookup⟩) (Or.inr (Or.inr ⟨_, _, _, rfl⟩))
  | lookUpFailed target requestedBuckets isLookup absent =>
      exact .still rfl rfl (fun _ => rfl) fun connId _ _ =>
        idle connId (Or.inr ⟨_, _, isLookup⟩) (Or.inl rfl)
  | collect iteration connId roomId requestedBuckets isCollect =>
      exact .collect iteration connId roomId requestedBuckets isCollect
  | target connId roomId update rest sent isTarget items =>
      exact .target connId roomId update rest sent isTarget items
  | targetEnded target roomId updates isTarget isFull =>
      refine .still rfl rfl (fun _ => rfl) fun connId client present => ?_
      rw [owedTo_target isTarget]
      split
      · next same =>
        subst same
        -- There is room for what a registered client is owed.
        by_contra owed
        have left : updates ≠ [] := fun none => owed none.symm
        exact absurd (isFull left) (Nat.not_le.mpr
          (findsRoom target roomId updates client isTarget left present))
      · rfl
  | takeNotification notification rest isFree items =>
      refine .still rfl ?_ (fun _ => rfl) fun _ _ _ => owedTo_congr rfl _
      rw [waiting, waiting, isFree, items]
      rfl
  | forward notification isTaken => exact .forward notification isTaken

variable {connId : ConnId} {client : ClientInfo}

omit [SerdeJson Value] in
/-- The hub sends a notification only to the clients that it is for. -/
theorem isFor_of_addresses {hub : WsHub} (indexed : Indexed hub)
    {notification : Sourced (UpdateChannelMessage Value)}
    (addressed : Addresses notification hub connId)
    (present : hub.connections[connId]? = some client) :
    IsFor notification connId client := by
  unfold IsFor
  unfold Addresses at addressed
  cases content : notification.content with
  | broadcast update =>
      rw [content] at addressed
      have listed := listed_iff_mem.mpr
        (Std.ExtTreeSet.mem_toList.mp addressed)
      obtain ⟨other, isOther, allowed⟩ :=
        (indexed.listed_iff connId update.bucketId).mp listed
      cases present.symm.trans isOther
      exact allowed
  | targeted target msg =>
      rw [content] at addressed
      exact (List.mem_singleton.mp addressed).symm

/-- A notification that is forwarded is the next frame of those it is for. -/
theorem sentTo_forward (roster : Roster trace.server)
    (indexed : Indexed trace.server.hub)
    {notification : Sourced (UpdateChannelMessage Value)}
    (isTaken : trace.server.forwarder = some notification)
    (stays : (trace.server.hub.forward notification).connections[connId]? =
      some client) :
    sentTo
      { trace with
        server := { trace.server with
          hub := trace.server.hub.forward notification
          forwarder := none } } connId client =
      sentTo trace connId client := by
  have present :=
    ((lookup_forward_iff notification roster.ownQueues).mp stays).1
  simp only [sentTo, waiting, isTaken, Trace.enqueued, Option.toList_some,
    Option.toList_none, List.nil_append, List.singleton_append,
    List.append_assoc]
  refine congrArg (_ ++ ·) ?_
  by_cases isFor : IsFor notification connId client
  · rw [List.filter_cons_of_pos (by simpa using isFor), List.map_cons,
      pending_forward_of_stays notification roster.ownQueues
        (isFor.addresses roster.covered present) stays, List.append_assoc]
    rfl
  · rw [List.filter_cons_of_neg (by simpa using isFor)]
    refine congrArg (· ++ _) (pending_forward_of_not_reaches notification ?_)
    rintro other addressed ⟨otherClient, isOther, sender, _⟩
    have same := roster.ownQueues other connId otherClient client isOther
      present sender
    subst same
    exact isFor (isFor_of_addresses indexed addressed present)

variable (trace) in
/-- New notifications are added to what their clients are to be sent. -/
theorem sentTo_append
    {added : List (Sourced (UpdateChannelMessage Value))}
    (grows : waiting after.server = waiting trace.server ++ added)
    (enqueued : after.enqueued client.sender =
      trace.enqueued client.sender) :
    sentTo after connId client = sentTo trace connId client ++
      (added.filter fun notification =>
        decide (IsFor notification connId client)).map frameOf := by
  rw [sentTo, sentTo, enqueued, grows, List.filter_append, List.map_append,
    List.append_assoc]

/-- A fragment that the processor sends is the next frame of its client. -/
theorem sentTo_target {target : ConnId} {roomId : RoomId}
    {update : SyncUpdate Value} {sent : Notifications Value}
    (items : sent.items = trace.server.notifications.items ++
      [⟨roomId, none, .targeted target update.dataUpdate⟩])
    (rest : List (SyncUpdate Value)) :
    sentTo
      { trace with
        server := { trace.server.withNotifications sent with
          processor := .target target roomId rest } } connId client =
      sentTo trace connId client ++
        if target = connId then [syncFrame roomId update] else [] := by
  have grows : waiting { trace.server.withNotifications sent with
        processor := .target target roomId rest } =
      waiting trace.server ++
        [⟨roomId, none, .targeted target update.dataUpdate⟩] := by
    change trace.server.forwarder.toList ++ sent.items = _
    rw [items, waiting, List.append_assoc]
  refine Eq.trans (sentTo_append trace grows rfl)
    (congrArg (sentTo trace connId client ++ ·) ?_)
  by_cases same : target = connId
  · simp [same, IsFor, frameOf, syncFrame, UpdateChannelMessage.update]
  · simp [same, IsFor]

/-- Only a snapshot that is taken ends the time before it. -/
theorem syncAhead_stays (roster : Roster trace.server)
    (passed : Passage .none trace event after)
    (findsRoom : FindsRoom .none trace event)
    (collected : after.collected = trace.collected)
    (present : trace.server.hub.connections[connId]? = some client)
    (ahead : SyncAhead trace.server connId client) :
    SyncAhead after.server connId client := by
  rcases ahead.passage roster passed findsRoom present with
    ahead | ⟨iteration, requestedBuckets, _, rfl⟩
  · exact ahead
  · have length := congrArg List.length collected
    simp [InitialSyncs.collected] at length

end Flow

/-! ## Connection ids in use -/

/-- A message is in the message channel, or its sender waits for a slot. -/
def Carries (server : Server Value) (message : DownstreamMessage) : Prop :=
  message ∈ server.messages.items ∨ ∃ position connId capacity,
    server.lock = some (.sending position connId message capacity)

/-- The connection whose initial sync is being processed. -/
def processing : Processor Value → Option ConnId
  | .idle => none
  | .lookup connId _ => some connId
  | .collect connId _ _ => some connId
  | .target connId _ _ => some connId

/-- Something still refers to a connection id. -/
inductive InUse (server : Server Value) (connId : ConnId) : Prop
  | registered (client : ClientInfo)
      (present : server.hub.connections[connId]? = some client)
  | task (position : Nat) (goes : GoesBy server position connId)
  | announced (requestedBuckets : List BucketId)
      (carries : Carries server (.clientConnected connId requestedBuckets))
  | processed (isProcessed : processing server.processor = some connId)
  | targeted (notification : Sourced (UpdateChannelMessage Value))
      (member : notification ∈ waiting server) (msg : DataUpdate Value)
      (content : notification.content = .targeted connId msg)

/-- What a step does to the next id and to the announced connections. -/
structure IdStep (server : Server Value) (event : ServerEvent Value)
    (after : Server Value) : Prop where
  next : (∀ position, event ≠ .register position) ∧
      after.hub.nextConnId = server.hub.nextConnId ∨
    ∃ position, event = .register position ∧
      after.hub.nextConnId = WsHub.saturatingSucc server.hub.nextConnId
  carried : ∀ connId requestedBuckets,
    Carries after (.clientConnected connId requestedBuckets) →
    Carries server (.clientConnected connId requestedBuckets) ∨
    ∃ position granted, event = .greet position requestedBuckets ∧
      server.stages[position]? = some (.greeting connId) ∧
      server.grants[position]? = some granted ∧
      requestedBuckets.Perm granted.allowedBuckets.toList

section Ids

omit [SerdeJson Value]

variable {server after : Server Value} {event : ServerEvent Value}

theorem IdStep.same (notRegister : ∀ position, event ≠ .register position)
    (next : after.hub.nextConnId = server.hub.nextConnId)
    (messages : after.messages = server.messages)
    (lock : after.lock = server.lock) : IdStep server event after where
  next := Or.inl ⟨notRegister, next⟩
  carried _ _ carries := by
    unfold Carries at carries ⊢
    rw [messages, lock] at carries
    exact Or.inl carries

theorem carries_trySend {message other : DownstreamMessage}
    (carries : Carries (server.trySend message) other) :
    Carries server other ∨ other = message := by
  unfold Carries at carries ⊢
  rw [lock_trySend] at carries
  rcases carries with member | held
  · unfold Server.trySend at member
    split at member
    · exact (Channel.mem_sendOrDrop member).imp_left Or.inl
    · exact Or.inl (Or.inl member)
  · exact Or.inl (Or.inr held)

/-- A message that is handed over was carried before. -/
theorem IdStep.deliver (notRegister : ∀ position, event ≠ .register position)
    {position : Nat} {connId : ConnId} {message : DownstreamMessage}
    {capacity : Capacity}
    (held : server.lock = some (.sending position connId message capacity))
    (delivered : server.deliver position connId message = some after) :
    IdStep server event after := by
  obtain ⟨messages, items, rfl⟩ := Server.deliver_eq_some delivered
  refine ⟨Or.inl ⟨notRegister, rfl⟩, fun other requestedBuckets carries =>
    Or.inl ?_⟩
  rcases carries with member | ⟨_, _, _, absent⟩
  · change _ ∈ messages.items at member
    rw [items] at member
    rcases List.mem_append.mp member with before | new
    · exact Or.inl before
    · rw [List.mem_singleton.mp new]
      exact Or.inr ⟨position, connId, capacity, held⟩
  · cases absent

/-- A registration finds an id that was not given before. -/
def IdsLeft (server : Server Value) : ServerEvent Value → Prop
  | .register _ => server.hub.nextConnId.toNat + 1 < UInt64.size
  | _ => True

end Ids

theorem idStep {faults : Faults} {server after : Server Value}
    {event : ServerEvent Value}
    (stepped : server.step faults event = some after) :
    IdStep server event after := by
  cases event with
  | command command =>
      cases stepped
      exact .same (by simp) rfl rfl rfl
  | advance task =>
      obtain ⟨pool, _, rfl⟩ := Option.map_eq_some_iff.mp stepped
      exact .same (by simp) rfl rfl rfl
  | connect granted =>
      cases stepped
      exact .same (by simp) rfl rfl rfl
  | register position =>
      obtain ⟨isFree, _, granted, _, ⟨hub, added, rfl⟩ | rfl⟩ :=
        Server.register_eq_some stepped
      · cases WsHub.addClient_eq_ok added
        exact ⟨Or.inr ⟨position, rfl, rfl⟩, fun _ _ => Or.inl⟩
      · refine ⟨Or.inr ⟨position, rfl, rfl⟩, fun _ _ carries => Or.inl ?_⟩
        rcases carries with member | ⟨_, _, _, held⟩
        · exact Or.inl member
        · cases held
  | refuse =>
      obtain ⟨position, held, rfl⟩ := Server.refuse_eq_some stepped
      refine ⟨Or.inl ⟨by simp, ?_⟩, fun _ _ carries => Or.inl ?_⟩
      · change (server.hub.closeQueue position).nextConnId = _
        exact (WsHub.shrinks_closeQueue server.hub position).nextConnId
      · rcases carries with member | ⟨_, _, _, absent⟩
        · exact Or.inl member
        · cases absent
  | greet position requestedBuckets =>
      obtain ⟨connId, granted, isGreeting, isGranted, perm, rfl⟩ :=
        Server.greet_eq_some stepped
      refine ⟨Or.inl ⟨by simp, by simp [Server.enter]⟩,
        fun other requested carries => ?_⟩
      rcases carries_trySend carries with before | new
      · exact Or.inl before
      · cases new
        exact Or.inr ⟨position, granted, rfl, isGreeting, isGranted, perm⟩
  | drain position =>
      obtain ⟨frame, hub, received, rfl⟩ := Server.drain_eq_some stepped
      exact .same (by simp) (WsHub.shrinks_receive received).nextConnId rfl rfl
  | receive position payload =>
      obtain ⟨connId, _, rfl⟩ := Server.receive_eq_some stepped
      exact .same (by simp) rfl rfl rfl
  | leave position =>
      obtain ⟨connId, _, rfl⟩ := Server.leave_eq_some stepped
      exact .same (by simp) rfl rfl rfl
  | processClientMessage position =>
      obtain ⟨_, connId, payload, _, ⟨roomId, rfl⟩ | rfl⟩ :=
        Server.processClientMessage_eq_some stepped
      · refine ⟨Or.inl ⟨by simp, rfl⟩, fun _ _ carries => Or.inl ?_⟩
        rcases carries with member | ⟨_, _, _, held⟩
        · exact Or.inl member
        · cases held
      · exact .same (by simp) rfl rfl rfl
  | ask =>
      obtain ⟨position, connId, event, isAsking, ⟨_, delivered⟩ | ⟨_, rfl⟩⟩ :=
        Server.ask_eq_some stepped
      · exact .deliver (by simp) isAsking delivered
      · refine ⟨Or.inl ⟨by simp, rfl⟩, fun _ _ carries => Or.inl ?_⟩
        rcases carries with member | ⟨_, _, _, held⟩
        · exact Or.inl member
        · cases held
          exact Or.inr ⟨position, connId, .asking, isAsking⟩
  | send =>
      obtain ⟨position, connId, event, isGranted, delivered⟩ :=
        Server.send_eq_some stepped
      exact .deliver (by simp) isGranted delivered
  | remove position =>
      obtain ⟨_, connId, _, rfl⟩ := Server.remove_eq_some stepped
      exact .same (by simp)
        (WsHub.shrinks_removeClient server.hub connId).nextConnId rfl rfl
  | depart position =>
      obtain ⟨connId, _, rfl⟩ := Server.depart_eq_some stepped
      refine ⟨Or.inl ⟨by simp, ?_⟩, fun other requestedBuckets carries => ?_⟩
      · change (WsHub.closeQueue (server.trySend _).hub position).nextConnId = _
        rw [(WsHub.shrinks_closeQueue _ position).nextConnId, hub_trySend]
      · rcases carries_trySend carries with before | new
        · exact Or.inl before
        · cases new
  | takeMessage =>
      obtain ⟨_, message, rest, items, rfl⟩ :=
        Server.takeMessage_eq_some stepped
      refine ⟨Or.inl ⟨by simp, rfl⟩, fun _ _ carries => Or.inl ?_⟩
      rcases carries with member | ⟨position, connId, capacity, held⟩
      · exact Or.inl (items ▸ List.mem_cons_of_mem _ member)
      · refine Or.inr ?_
        rcases Server.giveSlot_eq_some held with
          before | ⟨_, _, _, before, other⟩
        · exact ⟨position, connId, capacity, before⟩
        · cases other
          exact ⟨_, _, _, before⟩
  | lookUp =>
      obtain ⟨connId, requestedBuckets, _, ⟨client, _, rfl⟩ | ⟨_, rfl⟩⟩ :=
        Server.lookUp_eq_some stepped
      · exact .same (by simp) rfl rfl rfl
      · exact .same (by simp) rfl rfl rfl
  | collect iteration =>
      obtain ⟨connId, roomId, requestedBuckets, _, rfl⟩ :=
        Server.collect_eq_some stepped
      exact .same (by simp) rfl rfl rfl
  | target =>
      obtain ⟨connId, roomId, updates, _, ⟨_, _, _, _, _, rfl⟩ | ⟨_, rfl⟩⟩ :=
        Server.target_eq_some stepped
      · exact .same (by simp) rfl rfl rfl
      · exact .same (by simp) rfl rfl rfl
  | takeNotification =>
      obtain ⟨_, notification, rest, _, rfl⟩ :=
        Server.takeNotification_eq_some stepped
      exact .same (by simp) rfl rfl rfl
  | forward =>
      obtain ⟨notification, _, rfl⟩ := Server.forward_eq_some stepped
      exact .same (by simp)
        (WsHub.shrinks_forward server.hub notification).nextConnId rfl rfl

/-- While ids are left, they are only given to new clients. -/
theorem later_of_step {faults : Faults} {server after : Server Value}
    {event : ServerEvent Value} (left : IdsLeft server event)
    (stepped : server.step faults event = some after) :
    Later server.hub after.hub := by
  constructor
  · rcases (idStep stepped).next with ⟨_, same⟩ | ⟨position, isEvent, next⟩
    · exact same ▸ UInt64.le_refl _
    · subst isEvent
      exact next ▸ UInt64.le_of_lt (lt_saturatingSucc left)
  · intro connId client given present
    rcases (hubStep stepped).before present with before | ⟨_, _, isNext, _⟩
    · exact before
    · exact absurd (isNext ▸ given) (UInt64.lt_irrefl _)

/-- The processor deals with a connection that it was told of before. -/
theorem processing_before {trace after : Trace Value}
    {event : ServerEvent Value} (passed : Passage .none trace event after)
    {connId : ConnId}
    (isProcessed : processing after.server.processor = some connId) :
    InUse trace.server connId := by
  cases passed with
  | aside _ aside => exact .processed (aside.processor ▸ isProcessed)
  | greet position greeted granted requestedBuckets _ _ _ =>
      exact .processed (by simpa [Server.enter] using isProcessed)
  | takeMessage message rest isIdle items =>
      cases message with
      | clientConnected other requestedBuckets =>
          cases isProcessed
          refine .announced requestedBuckets (Or.inl ?_)
          exact items ▸ List.mem_cons_self
      | clientDisconnected other => cases isProcessed
      | wsMessage roomId payload => cases isProcessed
  | lookUp other requestedBuckets client isLookup present =>
      exact .processed (isLookup ▸ isProcessed)
  | lookUpFailed => cases isProcessed
  | collect iteration other roomId requestedBuckets isCollect =>
      exact .processed (isCollect ▸ isProcessed)
  | target other roomId update rest sent isTarget items =>
      exact .processed (isTarget ▸ isProcessed)
  | targetEnded => cases isProcessed
  | _ => exact .processed isProcessed

/-- A notification to a connection waited before, or the processor sends it. -/
theorem targeted_before {trace after : Trace Value}
    {event : ServerEvent Value} (passed : Passage .none trace event after)
    (notAdvance : ∀ task, event ≠ .advance task)
    {notification : Sourced (UpdateChannelMessage Value)} {connId : ConnId}
    {msg : DataUpdate Value} (member : notification ∈ waiting after.server)
    (content : notification.content = .targeted connId msg) :
    InUse trace.server connId := by
  have waited (before : notification ∈ waiting trace.server) :
      InUse trace.server connId :=
    .targeted notification before msg content
  cases passed with
  | aside _ aside =>
      refine waited ?_
      rw [waiting, aside.forwarder, Server.notifications, aside.pool] at member
      exact member
  | advance task => exact absurd rfl (notAdvance task)
  | greet position greeted granted requestedBuckets _ _ _ =>
      exact waited (by
        simpa [waiting, Server.enter, Server.notifications] using member)
  | target target roomId update rest sent isTarget items =>
      change notification ∈
        trace.server.forwarder.toList ++ sent.items at member
      rw [items, ← List.append_assoc] at member
      rcases List.mem_append.mp member with before | new
      · exact waited before
      · rw [List.mem_singleton.mp new] at content
        cases content
        exact .processed (by rw [isTarget]; rfl)
  | takeNotification taken rest isFree items =>
      refine waited ?_
      rw [waiting, isFree, items]
      exact member
  | forward taken isTaken =>
      refine waited ?_
      rw [waiting, isTaken]
      exact List.mem_cons_of_mem _ member
  | _ => exact waited member

/-- An id comes into use when a connection registers under it. -/
theorem InUse.before {trace after : Trace Value} {event : ServerEvent Value}
    (roster : Roster trace.server)
    (stepped : trace.step .none event = some after)
    (notAdvance : ∀ task, event ≠ .advance task) {connId : ConnId}
    (inUse : InUse after.server connId) :
    InUse trace.server connId ∨
      (∃ position, event = .register position) ∧
        connId = trace.server.hub.nextConnId := by
  have passed := passage roster.guarded stepped
  cases inUse with
  | registered client present =>
      refine (isSome_before (hubStep_of_step stepped)
        (Option.isSome_iff_exists.mpr ⟨client, present⟩)).imp_left ?_
      intro before
      obtain ⟨older, isOlder⟩ := Option.isSome_iff_exists.mp before
      exact .registered older isOlder
  | task position goes =>
      rcases goes.before roster.guarded (stageStep_of_step stepped) with
        ⟨before, _⟩ | ⟨isEvent, isNext, _⟩
      · exact Or.inl (.task position before)
      · exact Or.inr ⟨⟨position, isEvent⟩, isNext⟩
  | announced requestedBuckets carries =>
      obtain ⟨server, served, rfl⟩ := Option.map_eq_some_iff.mp stepped
      rcases (idStep served).carried connId requestedBuckets carries with
        before | ⟨position, granted, _, isGreeting, _, _⟩
      · exact Or.inl (.announced requestedBuckets before)
      · exact Or.inl (.task position (Or.inl ⟨_, isGreeting, rfl⟩))
  | processed isProcessed => exact Or.inl (processing_before passed isProcessed)
  | targeted notification member msg content =>
      exact Or.inl (targeted_before passed notAdvance member content)

/-- The ids in use were given out, and no two tasks have the same. -/
structure Distinct (server : Server Value) : Prop where
  below : ∀ connId, InUse server connId → connId < server.hub.nextConnId
  oneTask : ∀ position other connId, GoesBy server position connId →
    GoesBy server other connId → position = other

omit [SerdeJson Value] in
theorem Distinct.start (kernel : SyncpondKernel Value)
    (drained : kernel.notifications.items = []) :
    Distinct (.start kernel) where
  below := by
    intro connId inUse
    exfalso
    cases inUse with
    | registered client present =>
        simp [Server.start, WsHub.new] at present
    | task position goes => simp [Server.start, GoesBy] at goes
    | announced requestedBuckets carries =>
        simp [Server.start, Carries, Channel.empty] at carries
    | processed isProcessed => cases isProcessed
    | targeted notification member =>
        simp [waiting, Server.start, Server.notifications, drained] at member
  oneTask := by simp [Server.start, GoesBy]

omit [SerdeJson Value] in
/-- Nothing refers to the id that is given next. -/
theorem Distinct.unused {server : Server Value} (distinct : Distinct server)
    (inUse : InUse server server.hub.nextConnId) : False :=
  UInt64.lt_irrefl _ (distinct.below _ inUse)

/-- Ids that are not given twice stay distinct. -/
theorem Distinct.step {trace after : Trace Value}
    {event : ServerEvent Value} (distinct : Distinct trace.server)
    (roster : Roster trace.server)
    (stepped : trace.step .none event = some after)
    (notAdvance : ∀ task, event ≠ .advance task)
    (fits : ∀ position, event = .register position →
      trace.server.hub.nextConnId.toNat + 1 < UInt64.size) :
    Distinct after.server := by
  obtain ⟨server, served, rfl⟩ := Option.map_eq_some_iff.mp stepped
  have next := (idStep served).next
  have moved := stageStep served
  constructor
  · intro connId inUse
    rcases inUse.before roster stepped notAdvance with
      before | ⟨⟨position, rfl⟩, rfl⟩
    · have below := distinct.below connId before
      rcases next with ⟨_, same⟩ | ⟨position, isEvent, equal⟩
      · exact same ▸ below
      · refine equal ▸ UInt64.lt_trans below ?_
        exact lt_saturatingSucc (fits position isEvent)
    · rcases next with ⟨notRegister, _⟩ | ⟨position, isEvent, equal⟩
      · exact absurd rfl (notRegister position)
      · exact equal ▸ lt_saturatingSucc (fits position isEvent)
  · intro position other connId goes goesOther
    rcases goes.before roster.guarded moved with
      ⟨before, _⟩ | ⟨isEvent, isNext, _⟩
    · rcases goesOther.before roster.guarded moved with
        ⟨otherBefore, _⟩ | ⟨_, isNext, _⟩
      · exact distinct.oneTask position other connId before otherBefore
      · have below := distinct.below connId (.task position before)
        rw [isNext] at below
        exact absurd below (UInt64.lt_irrefl _)
    · rcases goesOther.before roster.guarded moved with
        ⟨otherBefore, _⟩ | ⟨isOtherEvent, _, _⟩
      · have below := distinct.below connId (.task other otherBefore)
        rw [isNext] at below
        exact absurd below (UInt64.lt_irrefl _)
      · cases isEvent.symm.trans isOtherEvent
        rfl

end Syncpond.SequentialRuns
