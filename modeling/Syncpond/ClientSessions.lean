import Syncpond.SequentialRuns

/-!
# Client messages reach the kernel in order

A connection announces itself, hands over the client commands that it receives
one at a time, and announces its end.  All of this goes through one channel:
the two announcements are dropped when the channel is full, and a command is
dropped when the hub does not know the connection.  A command that the hub
takes waits for the channel, with the hub lock held, so it is neither lost nor
overtaken by a later one.

A `Ledger` is a server with what its connections received, what they sent to
the kernel, and what the kernel took.  `Session` says what one connection sent
of what it received.
-/

namespace Syncpond.ClientSessions

open Syncpond.Protocol
open Syncpond.Serde
open Syncpond.State (serverOnlyBucketId)
open Syncpond.Persistence
open Syncpond.Kernel
open Syncpond.Hub
open Syncpond.HubIndex
open Syncpond.Tasks
open Syncpond.Registration
open Syncpond.RoomIsolation
open Syncpond.SequentialRuns
open Syncpond.Library.Maps
open Syncpond.Library.Channels
open Syncpond.Library.Runs

variable {Value : Type}

/-! ## Ledgers -/

/-- The items of one connection in a log of items and their connections. -/
def ofConnection {Item : Type} (position : Nat) (log : List (Nat × Item)) :
    List Item :=
  log.filterMap fun (owner, item) =>
    if owner = position then some item else none

section OfConnection

variable {Item : Type} {position other : Nat}

@[simp]
theorem ofConnection_nil : ofConnection position ([] : List (Nat × Item)) = [] :=
  rfl

@[simp]
theorem ofConnection_append (front back : List (Nat × Item)) :
    ofConnection position (front ++ back) =
      ofConnection position front ++ ofConnection position back :=
  List.filterMap_append

@[simp]
theorem ofConnection_self (item : Item) :
    ofConnection position [(position, item)] = [item] := by
  simp [ofConnection]

theorem ofConnection_other (different : other ≠ position) (item : Item) :
    ofConnection position [(other, item)] = [] := by
  simp [ofConnection, different]

end OfConnection

/-- A server, and what its connections and its kernel heard. -/
structure Ledger (Value : Type) where
  server : Server Value
  /-- The client commands, with the connections that received them. -/
  received : List (Nat × ByteArray)
  /-- The messages that entered the channel, with their senders. -/
  sent : List (Nat × DownstreamMessage)
  /-- The messages that the processor took from the channel. -/
  taken : List DownstreamMessage

/-- The commands that an event receives from a client. -/
def receivedBy : ServerEvent Value → List (Nat × ByteArray)
  | .receive position payload => [(position, payload)]
  | _ => []

/-- What a send enters into the channel if there is room. -/
def tried (server : Server Value) (position : Nat)
    (message : DownstreamMessage) : List (Nat × DownstreamMessage) :=
  if server.hasRoom then [(position, message)] else []

/-- What an event enters into the message channel. -/
def sentBy (server : Server Value) :
    ServerEvent Value → List (Nat × DownstreamMessage)
  | .greet position requestedBuckets =>
      match server.stages[position]? with
      | some (.greeting connId) =>
          tried server position (.clientConnected connId requestedBuckets)
      | _ => []
  | .ask =>
      match server.lock with
      | some (.sending position _ event .asking) =>
          tried server position event
      | _ => []
  | .send =>
      match server.lock with
      | some (.sending position _ event .granted) => [(position, event)]
      | _ => []
  | .depart position =>
      match server.stages[position]? with
      | some (.departing connId) =>
          tried server position (.clientDisconnected connId)
      | _ => []
  | _ => []

/-- The message that an event takes from the channel. -/
def takenBy (server : Server Value) :
    ServerEvent Value → List DownstreamMessage
  | .takeMessage => server.messages.items.take 1
  | _ => []

namespace Ledger

def start (kernel : SyncpondKernel Value) : Ledger Value :=
  ⟨.start kernel, [], [], []⟩

/-- The ledger with what an event showed. -/
def observe (ledger : Ledger Value) (event : ServerEvent Value)
    (after : Server Value) : Ledger Value where
  server := after
  received := ledger.received ++ receivedBy event
  sent := ledger.sent ++ sentBy ledger.server event
  taken := ledger.taken ++ takenBy ledger.server event

/-- The ledger after an event, if the event can happen. -/
def step [SerdeJson Value] (faults : Faults) (ledger : Ledger Value)
    (event : ServerEvent Value) : Option (Ledger Value) :=
  (ledger.server.step faults event).map (ledger.observe event)

end Ledger

/-! ## The channel -/

theorem items_trySend (server : Server Value) (position : Nat)
    (message : DownstreamMessage) :
    (server.trySend message).messages.items =
      server.messages.items ++ (tried server position message).map Prod.snd := by
  unfold Server.trySend tried
  split
  · next room =>
    have fits : server.messages.items.length < downstreamCapacity :=
      Nat.lt_of_le_of_lt (Nat.le_add_right _ _) (of_decide_eq_true room)
    exact Channel.items_sendOrDrop_of_lt fits
  · exact (List.append_nil _).symm

/-- The channel loses nothing, and gives its messages in their order. -/
theorem conserved [SerdeJson Value] {faults : Faults}
    {server after : Server Value} {event : ServerEvent Value}
    (stepped : server.step faults event = some after) :
    takenBy server event ++ after.messages.items =
      server.messages.items ++ (sentBy server event).map Prod.snd := by
  have same (messages : after.messages = server.messages)
      (sent : sentBy server event = []) (taken : takenBy server event = []) :
      takenBy server event ++ after.messages.items =
        server.messages.items ++ (sentBy server event).map Prod.snd := by
    simp [messages, sent, taken]
  cases event with
  | command command =>
      cases stepped
      exact same rfl rfl rfl
  | advance task =>
      obtain ⟨pool, _, rfl⟩ := Option.map_eq_some_iff.mp stepped
      exact same rfl rfl rfl
  | connect granted =>
      cases stepped
      exact same rfl rfl rfl
  | register position =>
      obtain ⟨_, _, granted, _, ⟨hub, _, rfl⟩ | rfl⟩ :=
        Server.register_eq_some stepped
      · exact same rfl rfl rfl
      · exact same rfl rfl rfl
  | refuse =>
      obtain ⟨position, _, rfl⟩ := Server.refuse_eq_some stepped
      exact same rfl rfl rfl
  | greet position requestedBuckets =>
      obtain ⟨connId, granted, isGreeting, _, _, rfl⟩ :=
        Server.greet_eq_some stepped
      simp only [takenBy, sentBy, isGreeting, List.nil_append]
      exact items_trySend server position _
  | drain position =>
      obtain ⟨frame, hub, _, rfl⟩ := Server.drain_eq_some stepped
      exact same rfl rfl rfl
  | receive position payload =>
      obtain ⟨connId, _, rfl⟩ := Server.receive_eq_some stepped
      exact same rfl rfl rfl
  | leave position =>
      obtain ⟨connId, _, rfl⟩ := Server.leave_eq_some stepped
      exact same rfl rfl rfl
  | processClientMessage position =>
      obtain ⟨_, connId, payload, _, ⟨roomId, rfl⟩ | rfl⟩ :=
        Server.processClientMessage_eq_some stepped
      · exact same rfl rfl rfl
      · exact same rfl rfl rfl
  | ask =>
      obtain ⟨position, connId, message, isAsking,
          ⟨room, delivered⟩ | ⟨isFull, rfl⟩⟩ := Server.ask_eq_some stepped
      · obtain ⟨messages, items, rfl⟩ := Server.deliver_eq_some delivered
        simpa [takenBy, sentBy, isAsking, tried, room, Server.enter] using items
      · simp [takenBy, sentBy, isAsking, tried, isFull]
  | send =>
      obtain ⟨position, connId, message, isGranted, delivered⟩ :=
        Server.send_eq_some stepped
      obtain ⟨messages, items, rfl⟩ := Server.deliver_eq_some delivered
      simpa [takenBy, sentBy, isGranted, Server.enter] using items
  | remove position =>
      obtain ⟨_, connId, _, rfl⟩ := Server.remove_eq_some stepped
      exact same rfl rfl rfl
  | depart position =>
      obtain ⟨connId, isDeparting, rfl⟩ := Server.depart_eq_some stepped
      simp only [takenBy, sentBy, isDeparting, List.nil_append]
      exact items_trySend server position _
  | takeMessage =>
      obtain ⟨_, message, rest, items, rfl⟩ := Server.takeMessage_eq_some stepped
      simp [takenBy, sentBy, items]
  | lookUp =>
      obtain ⟨connId, requestedBuckets, _, ⟨client, _, rfl⟩ | ⟨_, rfl⟩⟩ :=
        Server.lookUp_eq_some stepped
      · exact same rfl rfl rfl
      · exact same rfl rfl rfl
  | collect iteration =>
      obtain ⟨connId, roomId, requestedBuckets, _, rfl⟩ :=
        Server.collect_eq_some stepped
      exact same rfl rfl rfl
  | target =>
      obtain ⟨connId, roomId, updates, _, ⟨_, _, _, _, _, rfl⟩ | ⟨_, rfl⟩⟩ :=
        Server.target_eq_some stepped
      · exact same rfl rfl rfl
      · exact same rfl rfl rfl
  | takeNotification =>
      obtain ⟨_, notification, rest, _, rfl⟩ :=
        Server.takeNotification_eq_some stepped
      exact same rfl rfl rfl
  | forward =>
      obtain ⟨notification, _, rfl⟩ := Server.forward_eq_some stepped
      exact same rfl rfl rfl

/-! ## What one connection says -/

/-- No client of the hub feeds the queue of a connection. -/
def Unknown (hub : WsHub) (position : Nat) : Prop :=
  ∀ (connId : ConnId) (client : ClientInfo),
    hub.connections[connId]? = some client → client.sender ≠ position

/-- The announcement of a connection, which a full channel drops. -/
def Opens (granted : Grant) (connId : ConnId)
    (opening : List DownstreamMessage) : Prop :=
  opening = [] ∨ ∃ requestedBuckets : List BucketId,
    requestedBuckets.Perm granted.allowedBuckets.toList ∧
      opening = [.clientConnected connId requestedBuckets]

/-- The announcement of its end, which a full channel drops. -/
def Closes (connId : ConnId) (closing : List DownstreamMessage) : Prop :=
  closing = [] ∨ closing = [.clientDisconnected connId]

/-- What a connection handed over, in the room that it was granted. -/
def messagesOf (granted : Grant) (handed : List ByteArray) :
    List DownstreamMessage :=
  handed.map (.wsMessage granted.roomId)

/--
A connection announced itself and handed over what it received.  It lost the
last of it only if the hub does not know the connection any more.
-/
def Spoke (hub : WsHub) (position : Nat) (granted : Grant) (connId : ConnId)
    (sent : List DownstreamMessage) (received : List ByteArray) : Prop :=
  ∃ opening handed lost, Opens granted connId opening ∧
    sent = opening ++ messagesOf granted handed ∧
    received = handed ++ lost ∧ (lost = [] ∨ Unknown hub position)

/-- The message that a connection holds the hub lock to send. -/
def held : Option HubGuard → Nat → Option (ConnId × DownstreamMessage)
  | some (.sending holder connId event _), position =>
      if holder = position then some (connId, event) else none
  | _, _ => none

/-- What a connection sent and received when it is in a stage. -/
inductive Stands (hub : WsHub) (position : Nat) (granted : Grant)
    (guard : Option (ConnId × DownstreamMessage)) :
    Stage → List DownstreamMessage → List ByteArray → Prop
  | registering : Stands hub position granted guard .registering [] []
  | refusing : Stands hub position granted guard .refusing [] []
  | greeting {connId : ConnId} :
      Stands hub position granted guard (.greeting connId) [] []
  | serving {connId : ConnId} {sent : List DownstreamMessage}
      {received : List ByteArray}
      (spoke : Spoke hub position granted connId sent received) :
      Stands hub position granted guard (.serving connId) sent received
  | commanding {connId : ConnId} {payload : ByteArray}
      {sent : List DownstreamMessage} {received : List ByteArray}
      (spoke : Spoke hub position granted connId sent received) :
      Stands hub position granted guard (.commanding connId payload) sent
        (received ++ [payload])
  | sending {connId : ConnId} {payload : ByteArray}
      {opening : List DownstreamMessage} {handed : List ByteArray}
      (opens : Opens granted connId opening)
      (holds : guard = some (connId, .wsMessage granted.roomId payload)) :
      Stands hub position granted guard .sending
        (opening ++ messagesOf granted handed) (handed ++ [payload])
  | leaving {connId : ConnId} {sent : List DownstreamMessage}
      {received : List ByteArray}
      (spoke : Spoke hub position granted connId sent received) :
      Stands hub position granted guard (.leaving connId) sent received
  | departing {connId : ConnId} {sent : List DownstreamMessage}
      {received : List ByteArray}
      (spoke : Spoke hub position granted connId sent received) :
      Stands hub position granted guard (.departing connId) sent received
  | refused : Stands hub position granted guard .closed [] []
  | closed {connId : ConnId} {sent closing : List DownstreamMessage}
      {received : List ByteArray}
      (spoke : Spoke hub position granted connId sent received)
      (closes : Closes connId closing) :
      Stands hub position granted guard .closed (sent ++ closing) received

section Stands

variable {hub after : WsHub} {position : Nat} {granted : Grant}
variable {guard : Option (ConnId × DownstreamMessage)}
variable {sent : List DownstreamMessage} {received : List ByteArray}

theorem Spoke.later {connId : ConnId}
    (stays : Unknown hub position → Unknown after position)
    (spoke : Spoke hub position granted connId sent received) :
    Spoke after position granted connId sent received := by
  obtain ⟨opening, handed, lost, opens, isSent, isReceived, isLost⟩ := spoke
  exact ⟨opening, handed, lost, opens, isSent, isReceived,
    isLost.imp_right stays⟩

/-- A connection that the hub does not know loses what it received. -/
theorem Spoke.lose {connId : ConnId} {payload : ByteArray}
    (spoke : Spoke hub position granted connId sent received)
    (unknown : Unknown hub position) :
    Spoke hub position granted connId sent (received ++ [payload]) := by
  obtain ⟨opening, handed, lost, opens, isSent, rfl, _⟩ := spoke
  exact ⟨opening, handed, lost ++ [payload], opens, isSent,
    List.append_assoc _ _ _, Or.inr unknown⟩

/-- What an unregistered connection is not told stays so. -/
theorem Stands.later {stage : Stage}
    (stays : stage ≠ .registering → Unknown hub position →
      Unknown after position)
    (stands : Stands hub position granted guard stage sent received) :
    Stands after position granted guard stage sent received := by
  cases stands with
  | registering => exact .registering
  | refusing => exact .refusing
  | greeting => exact .greeting
  | serving spoke => exact .serving (spoke.later (stays (by simp)))
  | commanding spoke => exact .commanding (spoke.later (stays (by simp)))
  | sending opens holds => exact .sending opens holds
  | leaving spoke => exact .leaving (spoke.later (stays (by simp)))
  | departing spoke => exact .departing (spoke.later (stays (by simp)))
  | refused => exact .refused
  | closed spoke closes => exact .closed (spoke.later (stays (by simp))) closes

end Stands

/-- A connection to come sent and received nothing. -/
inductive StandsAt (ledger : Ledger Value) (position : Nat) : Prop
  | absent (isAbsent : ledger.server.stages[position]? = none)
      (isUngranted : ledger.server.grants[position]? = none)
      (sent : ofConnection position ledger.sent = [])
      (received : ofConnection position ledger.received = [])
  | present (stage : Stage) (granted : Grant)
      (isStage : ledger.server.stages[position]? = some stage)
      (isGranted : ledger.server.grants[position]? = some granted)
      (stands : Stands ledger.server.hub position granted
        (held ledger.server.lock position) stage
        (ofConnection position ledger.sent)
        (ofConnection position ledger.received))

/-! ## Steps -/

/-- What a step leaves alone for a connection. -/
structure Untouched (ledger after : Ledger Value) (position : Nat) : Prop where
  stage : after.server.stages[position]? = ledger.server.stages[position]?
  grants : after.server.grants[position]? = ledger.server.grants[position]?
  held : held after.server.lock position = held ledger.server.lock position
  sent : ofConnection position after.sent = ofConnection position ledger.sent
  received : ofConnection position after.received =
    ofConnection position ledger.received

/-- A connection that tried to register stays unknown to the hub. -/
theorem Unknown.step [SerdeJson Value] {faults : Faults}
    {server after : Server Value} {event : ServerEvent Value}
    (stepped : server.step faults event = some after) {position : Nat}
    (past : Past server position) (unknown : Unknown server.hub position) :
    Unknown after.hub position := by
  intro connId client present isSender
  subst isSender
  exact unknown connId client (past.before (hubStep stepped) present) rfl

theorem StandsAt.untouched {ledger after : Ledger Value} {position : Nat}
    (stays : Past ledger.server position →
      Unknown ledger.server.hub position → Unknown after.server.hub position)
    (untouched : Untouched ledger after position)
    (standsAt : StandsAt ledger position) : StandsAt after position := by
  cases standsAt with
  | absent isAbsent isUngranted sent received =>
      exact .absent (untouched.stage.trans isAbsent)
        (untouched.grants.trans isUngranted) (untouched.sent.trans sent)
        (untouched.received.trans received)
  | present stage granted isStage isGranted stands =>
      refine .present stage granted (untouched.stage.trans isStage)
        (untouched.grants.trans isGranted) ?_
      rw [untouched.held, untouched.sent, untouched.received]
      exact stands.later fun notRegistering =>
        stays ⟨stage, isStage, notRegistering⟩

@[simp]
theorem held_giveSlot (lock : Option HubGuard) (position : Nat) :
    held (Server.giveSlot lock) position = held lock position := by
  cases lock with
  | none => rfl
  | some guard =>
      cases guard with
      | refusing holder => rfl
      | sending holder connId event capacity => cases capacity <;> rfl

/-- A command is handed over in the room of its client, or dropped. -/
theorem processClientMessage_cases {server after : Server Value}
    {position : Nat}
    (stepped : server.processClientMessage position = some after) :
    server.lock = none ∧ ∃ connId payload,
      server.stages[position]? = some (.commanding connId payload) ∧
      ((∃ client, server.hub.connections[connId]? = some client ∧
        after = Server.enter
          { server with
            lock := some (.sending position connId
              (.wsMessage client.roomId payload) .asking) }
          position .sending) ∨
        (server.hub.connections[connId]? = none ∧
          after = server.enter position (.serving connId))) := by
  unfold Server.processClientMessage at stepped
  split at stepped
  · next connId payload isFree isCommanding =>
    refine ⟨isFree, connId, payload, isCommanding, ?_⟩
    split at stepped
    · next client present =>
      exact Or.inl ⟨client, present, (Option.some.inj stepped).symm⟩
    · next absent => exact Or.inr ⟨absent, (Option.some.inj stepped).symm⟩
  · cases stepped

theorem getElem?_append_singleton {Item : Type} {items : List Item}
    {item : Item} {position : Nat} (different : position ≠ items.length) :
    (items ++ [item])[position]? = items[position]? := by
  rcases Nat.lt_or_gt_of_ne different with inside | outside
  · exact List.getElem?_append_left inside
  · have beyond : (items ++ [item]).length ≤ position := by
      rw [List.length_append, List.length_singleton]
      exact outside
    rw [List.getElem?_eq_none beyond,
      List.getElem?_eq_none (Nat.le_of_lt outside)]

/-- The id of a connection was given, and only feeds its own queue. -/
def Own (hub : WsHub) (position : Nat) (connId : ConnId) : Prop :=
  connId < hub.nextConnId ∧ ∀ client : ClientInfo,
    hub.connections[connId]? = some client → client.sender = position

/-- Each connection said what it received, and the channel is in order. -/
structure Faithful (ledger : Ledger Value) : Prop where
  roster : Roster ledger.server
  own : ∀ (position : Nat) (connId : ConnId),
    GoesBy ledger.server position connId →
    Own ledger.server.hub position connId
  fifo : ledger.taken ++ ledger.server.messages.items =
    ledger.sent.map Prod.snd
  stands : ∀ position, StandsAt ledger position

theorem faithful_start (kernel : SyncpondKernel Value) :
    Faithful (.start kernel) where
  roster := .start kernel
  own := by simp [Ledger.start, Server.start, GoesBy]
  fifo := rfl
  stands _ := .absent rfl rfl rfl rfl

namespace Faithful

variable {ledger : Ledger Value} (faithful : Faithful ledger)

include faithful

/-- A connection whose id the hub does not know is unknown to it. -/
theorem unknown {position : Nat} {connId : ConnId}
    (goes : GoesBy ledger.server position connId)
    (absent : ledger.server.hub.connections[connId]? = none) :
    Unknown ledger.server.hub position := by
  intro other client present isSender
  subst isSender
  have same := goes.unique (faithful.roster.enrolled other client present)
  subst same
  cases absent.symm.trans present

/-- Connections have as many grants as tasks. -/
theorem aligned :
    ledger.server.grants.length = ledger.server.stages.length := by
  have both (position : Nat) : position < ledger.server.grants.length ↔
      position < ledger.server.stages.length := by
    cases faithful.stands position with
    | absent isAbsent isUngranted _ _ =>
        have outside := List.getElem?_eq_none_iff.mp isAbsent
        have ungranted := List.getElem?_eq_none_iff.mp isUngranted
        omega
    | present stage granted isStage isGranted _ =>
        have inside := (List.getElem?_eq_some_iff.mp isStage).1
        have isInside := (List.getElem?_eq_some_iff.mp isGranted).1
        exact ⟨fun _ => inside, fun _ => isInside⟩
  have up := both ledger.server.grants.length
  have down := both ledger.server.stages.length
  omega

variable [SerdeJson Value] {faults : Faults} {after : Server Value}
variable {event : ServerEvent Value}
variable (stepped : ledger.server.step faults event = some after)

include stepped

/-- A step that is quiet about connections. -/
theorem aside (stages : after.stages = ledger.server.stages)
    (grants : after.grants = ledger.server.grants)
    (sameHeld : ∀ position,
      held after.lock position = held ledger.server.lock position)
    (received : receivedBy event = [])
    (sent : sentBy ledger.server event = []) (position : Nat) :
    StandsAt (ledger.observe event after) position := by
  refine (faithful.stands position).untouched (Unknown.step stepped) ?_
  constructor
  · exact congrArg (·[position]?) stages
  · exact congrArg (·[position]?) grants
  · exact sameHeld position
  · simp [Ledger.observe, sent]
  · simp [Ledger.observe, received]

/-- A step of one connection. -/
theorem move {mover : Nat} {stage : Stage} (next : Stage)
    (isStage : ledger.server.stages[mover]? = some stage)
    (stages : after.stages = ledger.server.stages.set mover next)
    (grants : after.grants = ledger.server.grants)
    (sameHeld : ∀ position, mover ≠ position →
      held after.lock position = held ledger.server.lock position)
    (received : ∀ position, mover ≠ position →
      ofConnection position (receivedBy event) = [])
    (sent : ∀ position, mover ≠ position →
      ofConnection position (sentBy ledger.server event) = [])
    (here : ∀ granted spoken heard,
      ledger.server.grants[mover]? = some granted →
      Stands after.hub mover granted (held ledger.server.lock mover) stage
        spoken heard →
      Stands after.hub mover granted (held after.lock mover) next
        (spoken ++ ofConnection mover (sentBy ledger.server event))
        (heard ++ ofConnection mover (receivedBy event)))
    (position : Nat) : StandsAt (ledger.observe event after) position := by
  by_cases same : mover = position
  · subst same
    cases faithful.stands mover with
    | absent isAbsent _ _ _ => cases isAbsent.symm.trans isStage
    | present old granted isOld isGranted stands =>
        cases isOld.symm.trans isStage
        have inside := (List.getElem?_eq_some_iff.mp isStage).1
        refine .present next granted ?_ ?_ ?_
        · exact (congrArg (·[mover]?) stages).trans
            (List.getElem?_set_self inside)
        · exact (congrArg (·[mover]?) grants).trans isGranted
        · rw [Ledger.observe, ofConnection_append, ofConnection_append]
          refine here granted _ _ isGranted (stands.later ?_)
          exact fun notRegistering => Unknown.step stepped
            ⟨stage, isStage, notRegistering⟩
  · refine (faithful.stands position).untouched (Unknown.step stepped) ?_
    constructor
    · exact (congrArg (·[position]?) stages).trans
        (List.getElem?_set_ne same)
    · exact congrArg (·[position]?) grants
    · exact sameHeld position same
    · simp [Ledger.observe, sent position same]
    · simp [Ledger.observe, received position same]

/-- A connection keeps its own id. -/
theorem own_after (left : IdsLeft ledger.server event) {position : Nat}
    {connId : ConnId} (goes : GoesBy after position connId) :
    Own after.hub position connId := by
  have later := later_of_step left stepped
  rcases goes.before faithful.roster.guarded (stageStep stepped) with
    ⟨before, _⟩ | ⟨isEvent, isNext, client, present, isSender⟩
  · have own := faithful.own position connId before
    exact ⟨UInt64.lt_of_lt_of_le own.1 later.nextConnId, fun client present =>
      own.2 client (later.connections connId client own.1 present)⟩
  · subst isEvent isNext
    constructor
    · rcases (idStep stepped).next with ⟨notRegister, _⟩ | ⟨_, _, next⟩
      · exact absurd rfl (notRegister position)
      · exact next ▸ lt_saturatingSucc left
    · intro other isOther
      cases present.symm.trans isOther
      exact isSender

end Faithful

/-! ### Each step of a connection -/

section Tried

variable {server : Server Value} {position other : Nat}
variable {message : DownstreamMessage}

theorem tried_other (different : position ≠ other) :
    ofConnection other (tried server position message) = [] := by
  unfold tried
  split
  · exact ofConnection_other different message
  · rfl

theorem tried_self :
    ofConnection position (tried server position message) = [] ∨
      ofConnection position (tried server position message) = [message] := by
  unfold tried
  split
  · exact Or.inr (ofConnection_self message)
  · exact Or.inl rfl

end Tried

section Turns

variable {hub : WsHub} {position : Nat} {granted : Grant}
variable {guard next : Option (ConnId × DownstreamMessage)}
variable {connId : ConnId} {sent : List DownstreamMessage}
variable {received : List ByteArray}

/-- The first message of a connection announces it. -/
theorem Stands.greet {requestedBuckets : List BucketId}
    (perm : requestedBuckets.Perm granted.allowedBuckets.toList)
    {announced : List DownstreamMessage}
    (tried : announced = [] ∨
      announced = [.clientConnected connId requestedBuckets])
    (stands : Stands hub position granted guard (.greeting connId) sent
      received) :
    Stands hub position granted next (.serving connId) (sent ++ announced)
      received := by
  cases stands with
  | greeting =>
      apply Stands.serving
      refine ⟨announced, [], [], ?_, ?_, rfl, Or.inl rfl⟩
      · exact tried.imp_right fun sent => ⟨requestedBuckets, perm, sent⟩
      · exact (List.append_nil announced).symm

/-- A command of a client that the hub knows is about to be sent. -/
theorem Stands.hold {payload : ByteArray}
    (known : ¬Unknown hub position)
    (stands : Stands hub position granted guard (.commanding connId payload)
      sent received) :
    Stands hub position granted
      (some (connId, .wsMessage granted.roomId payload)) .sending sent
      received := by
  cases stands with
  | commanding spoke =>
      obtain ⟨opening, handed, lost, opens, rfl, rfl, rfl | unknown⟩ := spoke
      · rw [List.append_nil]
        exact .sending opens rfl
      · exact absurd unknown known

/-- A command of a client that the hub does not know is lost. -/
theorem Stands.drop {payload : ByteArray} (unknown : Unknown hub position)
    (stands : Stands hub position granted guard (.commanding connId payload)
      sent received) :
    Stands hub position granted next (.serving connId) sent received := by
  cases stands with
  | commanding spoke => exact .serving (spoke.lose unknown)

/-- What is sent is the command that was received last. -/
theorem Stands.deliver {message : DownstreamMessage}
    (stands : Stands hub position granted (some (connId, message)) .sending
      sent received) :
    Stands hub position granted next (.serving connId) (sent ++ [message])
      received := by
  cases stands with
  | sending opens holds =>
      cases holds
      apply Stands.serving
      refine ⟨_, _, [], opens, ?_, (List.append_nil _).symm, Or.inl rfl⟩
      simp [messagesOf]

/-- The last message of a connection announces its end. -/
theorem Stands.depart {announced : List DownstreamMessage}
    (tried : announced = [] ∨
      announced = [.clientDisconnected connId])
    (stands : Stands hub position granted guard (.departing connId) sent
      received) :
    Stands hub position granted next .closed (sent ++ announced)
      received := by
  cases stands with
  | departing spoke => exact .closed spoke tried

end Turns

namespace Faithful

variable {ledger : Ledger Value} (faithful : Faithful ledger)
variable [SerdeJson Value] {faults : Faults} {after : Server Value}

include faithful

/-- A message that is handed over leaves the lock. -/
theorem deliver {event : ServerEvent Value}
    (stepped : ledger.server.step faults event = some after) {mover : Nat}
    {connId : ConnId} {message : DownstreamMessage} {capacity : Capacity}
    (isHeld : ledger.server.lock =
      some (.sending mover connId message capacity))
    (delivered : ledger.server.deliver mover connId message = some after)
    (received : receivedBy event = [])
    (sent : sentBy ledger.server event = [(mover, message)])
    (position : Nat) : StandsAt (ledger.observe event after) position := by
  have isSending := faithful.roster.guarded.sending _ _ _ _ isHeld
  obtain ⟨messages, _, rfl⟩ := Server.deliver_eq_some delivered
  refine faithful.move stepped _ isSending rfl rfl ?_ ?_ ?_ ?_ position
  · intro other different
    simp [Server.enter, isHeld, held, different]
  · simp [received]
  · intro other different
    rw [sent, ofConnection_other different]
  · intro granted spoken heard _ stands
    rw [sent, received, ofConnection_self, ofConnection_nil,
      List.append_nil]
    apply Stands.deliver
    simpa [isHeld, held] using stands

/-- A new connection stands at the registration. -/
theorem stands_after_connect {granted : Grant}
    (stepped : ledger.server.step faults (.connect granted) = some after)
    (position : Nat) :
    StandsAt (ledger.observe (.connect granted) after) position := by
  have all := stepped
  cases stepped
  by_cases same : position = ledger.server.stages.length
  · subst same
    cases faithful.stands ledger.server.stages.length with
    | absent _ _ sent received =>
        refine .present .registering granted ?_ ?_ ?_
        · simp [Ledger.observe, Server.connect]
        · simp [Ledger.observe, Server.connect, ← faithful.aligned]
        · simp only [Ledger.observe, receivedBy, sentBy, List.append_nil]
          rw [sent, received]
          exact .registering
    | present stage _ isStage _ _ => simp at isStage
  · refine (faithful.stands position).untouched (Unknown.step all) ?_
    constructor
    · exact getElem?_append_singleton same
    · exact getElem?_append_singleton (faithful.aligned.symm ▸ same)
    · rfl
    · simp [Ledger.observe, sentBy]
    · simp [Ledger.observe, receivedBy]

/-- A registration is followed by the greeting, or refused. -/
theorem stands_after_register {mover : Nat}
    (stepped : ledger.server.step faults (.register mover) = some after)
    (position : Nat) :
    StandsAt (ledger.observe (.register mover) after) position := by
  have all := stepped
  obtain ⟨isFree, isRegistering, granted, _, ⟨hub, _, rfl⟩ | rfl⟩ :=
    Server.register_eq_some stepped
  · refine faithful.move all _ isRegistering rfl rfl (fun _ _ => rfl)
      (fun _ _ => rfl) (fun _ _ => rfl) ?_ position
    intro _ spoken heard _ stands
    cases stands
    exact .greeting
  · refine faithful.move all _ isRegistering rfl rfl ?_
      (fun _ _ => rfl) (fun _ _ => rfl) ?_ position
    · intro _ _
      rw [isFree]
      rfl
    · intro _ spoken heard _ stands
      cases stands
      exact .refusing

/-- A refused connection says nothing. -/
theorem stands_after_refuse
    (stepped : ledger.server.step faults .refuse = some after)
    (position : Nat) : StandsAt (ledger.observe .refuse after) position := by
  have all := stepped
  obtain ⟨mover, isHeld, rfl⟩ := Server.refuse_eq_some stepped
  have isRefusing := faithful.roster.guarded.refusing mover isHeld
  refine faithful.move all _ isRefusing rfl rfl ?_ (fun _ _ => rfl)
    (fun _ _ => rfl) ?_ position
  · intro _ _
    rw [isHeld]
    rfl
  · intro _ spoken heard _ stands
    cases stands
    exact .refused

/-- A greeting is the first message of its connection. -/
theorem stands_after_greet {mover : Nat}
    {requestedBuckets : List BucketId}
    (stepped : ledger.server.step faults (.greet mover requestedBuckets) =
      some after)
    (position : Nat) :
    StandsAt (ledger.observe (.greet mover requestedBuckets) after)
      position := by
  have all := stepped
  obtain ⟨connId, granted, isGreeting, isGranted, perm, rfl⟩ :=
    Server.greet_eq_some stepped
  refine faithful.move all (.serving connId) isGreeting ?_ ?_ ?_ (fun _ _ => rfl) ?_ ?_
    position
  · simp [Server.enter]
  · simp [Server.enter]
  · simp [Server.enter]
  · intro other different
    simp only [sentBy, isGreeting]
    exact tried_other different
  · intro other spoken heard isOther stands
    cases isGranted.symm.trans isOther
    simp only [sentBy, isGreeting, receivedBy, ofConnection_nil,
      List.append_nil]
    exact stands.greet perm tried_self

/-- A received command is not sent yet. -/
theorem stands_after_receive {mover : Nat} {payload : ByteArray}
    (stepped : ledger.server.step faults (.receive mover payload) = some after)
    (position : Nat) :
    StandsAt (ledger.observe (.receive mover payload) after) position := by
  have all := stepped
  obtain ⟨connId, isServing, rfl⟩ := Server.receive_eq_some stepped
  refine faithful.move all _ isServing rfl rfl (fun _ _ => rfl) ?_
    (fun _ _ => rfl) ?_ position
  · intro other different
    exact ofConnection_other different payload
  · intro _ spoken heard _ stands
    cases stands with
    | serving spoke =>
        simp only [sentBy, receivedBy, ofConnection_nil,
          ofConnection_self, List.append_nil]
        exact .commanding spoke

/-- A connection that leaves has sent what it could. -/
theorem stands_after_leave {mover : Nat}
    (stepped : ledger.server.step faults (.leave mover) = some after)
    (position : Nat) :
    StandsAt (ledger.observe (.leave mover) after) position := by
  have all := stepped
  obtain ⟨connId, isServing, rfl⟩ := Server.leave_eq_some stepped
  refine faithful.move all _ isServing rfl rfl (fun _ _ => rfl)
    (fun _ _ => rfl) (fun _ _ => rfl) ?_ position
  intro _ spoken heard _ stands
  cases stands with
  | serving spoke =>
      simp only [sentBy, receivedBy, ofConnection_nil, List.append_nil]
      exact .leaving spoke

/-- A command is kept for the channel, or lost with its client. -/
theorem stands_after_processClientMessage {mover : Nat}
    (stepped : ledger.server.step faults (.processClientMessage mover) =
      some after)
    (position : Nat) :
    StandsAt (ledger.observe (.processClientMessage mover) after) position := by
  have all := stepped
  obtain ⟨isFree, connId, payload, isCommanding,
      ⟨client, present, rfl⟩ | ⟨absent, rfl⟩⟩ :=
    processClientMessage_cases stepped
  · have goes : GoesBy ledger.server mover connId :=
      Or.inl ⟨_, isCommanding, rfl⟩
    have isSender := (faithful.own mover connId goes).2 client present
    have isGranted := faithful.roster.granted connId client present
    rw [isSender] at isGranted
    refine faithful.move all _ isCommanding rfl rfl ?_ (fun _ _ => rfl)
      (fun _ _ => rfl) ?_ position
    · intro other different
      simp [Server.enter, isFree, held, different]
    · intro other spoken heard isOther stands
      cases isGranted.symm.trans isOther
      simp only [sentBy, receivedBy, ofConnection_nil, List.append_nil,
        Server.enter, held, if_true]
      apply stands.hold
      exact fun unknown => unknown connId client present isSender
  · refine faithful.move all _ isCommanding rfl rfl (fun _ _ => rfl)
      (fun _ _ => rfl) (fun _ _ => rfl) ?_ position
    intro _ spoken heard _ stands
    simp only [sentBy, receivedBy, ofConnection_nil, List.append_nil]
    apply stands.drop
    exact faithful.unknown (Or.inl ⟨_, isCommanding, rfl⟩) absent

/-- A message that finds room in the channel is sent. -/
theorem stands_after_ask
    (stepped : ledger.server.step faults .ask = some after)
    (position : Nat) : StandsAt (ledger.observe .ask after) position := by
  have all := stepped
  obtain ⟨mover, connId, message, isAsking,
      ⟨room, delivered⟩ | ⟨isFull, rfl⟩⟩ := Server.ask_eq_some stepped
  · refine faithful.deliver all isAsking delivered rfl ?_ position
    simp [sentBy, isAsking, tried, room]
  · refine faithful.aside all rfl rfl ?_ rfl ?_ position
    · intro other
      rw [isAsking]
      rfl
    · simp [sentBy, isAsking, tried, isFull]

/-- A connection is removed before it says so. -/
theorem stands_after_remove {mover : Nat}
    (stepped : ledger.server.step faults (.remove mover) = some after)
    (position : Nat) :
    StandsAt (ledger.observe (.remove mover) after) position := by
  have all := stepped
  obtain ⟨_, connId, isLeaving, rfl⟩ := Server.remove_eq_some stepped
  refine faithful.move all _ isLeaving rfl rfl (fun _ _ => rfl)
    (fun _ _ => rfl) (fun _ _ => rfl) ?_ position
  intro _ spoken heard _ stands
  cases stands with
  | leaving spoke =>
      simp only [sentBy, receivedBy, ofConnection_nil, List.append_nil]
      exact .departing spoke

/-- The end of a connection is its last message. -/
theorem stands_after_depart {mover : Nat}
    (stepped : ledger.server.step faults (.depart mover) = some after)
    (position : Nat) :
    StandsAt (ledger.observe (.depart mover) after) position := by
  have all := stepped
  obtain ⟨connId, isDeparting, rfl⟩ := Server.depart_eq_some stepped
  refine faithful.move all .closed isDeparting ?_ ?_ ?_ (fun _ _ => rfl) ?_ ?_
    position
  · simp [Server.enter]
  · simp [Server.enter]
  · simp [Server.enter]
  · intro other different
    simp only [sentBy, isDeparting]
    exact tried_other different
  · intro _ spoken heard _ stands
    simp only [sentBy, isDeparting, receivedBy, ofConnection_nil,
      List.append_nil]
    exact stands.depart tried_self

variable {event : ServerEvent Value}
variable (stepped : ledger.server.step faults event = some after)

include stepped

/-- Every connection stands as its next stage says. -/
theorem stands_after (position : Nat) :
    StandsAt (ledger.observe event after) position := by
  have all := stepped
  cases event with
  | command command =>
      cases stepped
      exact faithful.aside all rfl rfl (fun _ => rfl) rfl rfl position
  | advance task =>
      obtain ⟨pool, _, rfl⟩ := Option.map_eq_some_iff.mp stepped
      exact faithful.aside all rfl rfl (fun _ => rfl) rfl rfl position
  | connect granted => exact faithful.stands_after_connect stepped position
  | register mover => exact faithful.stands_after_register stepped position
  | refuse => exact faithful.stands_after_refuse stepped position
  | greet mover requestedBuckets =>
      exact faithful.stands_after_greet stepped position
  | drain mover =>
      obtain ⟨frame, hub, _, rfl⟩ := Server.drain_eq_some stepped
      exact faithful.aside all rfl rfl (fun _ => rfl) rfl rfl position
  | receive mover payload =>
      exact faithful.stands_after_receive stepped position
  | leave mover => exact faithful.stands_after_leave stepped position
  | processClientMessage mover =>
      exact faithful.stands_after_processClientMessage stepped position
  | ask => exact faithful.stands_after_ask stepped position
  | send =>
      obtain ⟨mover, connId, message, isGranted, delivered⟩ :=
        Server.send_eq_some stepped
      refine faithful.deliver all isGranted delivered rfl ?_ position
      simp [sentBy, isGranted]
  | remove mover => exact faithful.stands_after_remove stepped position
  | depart mover => exact faithful.stands_after_depart stepped position
  | takeMessage =>
      obtain ⟨_, message, rest, _, rfl⟩ := Server.takeMessage_eq_some stepped
      exact faithful.aside all rfl rfl (held_giveSlot _) rfl rfl position
  | lookUp =>
      obtain ⟨connId, requestedBuckets, _, ⟨client, _, rfl⟩ | ⟨_, rfl⟩⟩ :=
        Server.lookUp_eq_some stepped
      · exact faithful.aside all rfl rfl (fun _ => rfl) rfl rfl position
      · exact faithful.aside all rfl rfl (fun _ => rfl) rfl rfl position
  | collect iteration =>
      obtain ⟨connId, roomId, requestedBuckets, _, rfl⟩ :=
        Server.collect_eq_some stepped
      exact faithful.aside all rfl rfl (fun _ => rfl) rfl rfl position
  | target =>
      obtain ⟨connId, roomId, updates, _, ⟨_, _, _, _, _, rfl⟩ | ⟨_, rfl⟩⟩ :=
        Server.target_eq_some stepped
      · exact faithful.aside all rfl rfl (fun _ => rfl) rfl rfl position
      · exact faithful.aside all rfl rfl (fun _ => rfl) rfl rfl position
  | takeNotification =>
      obtain ⟨_, notification, rest, _, rfl⟩ :=
        Server.takeNotification_eq_some stepped
      exact faithful.aside all rfl rfl (fun _ => rfl) rfl rfl position
  | forward =>
      obtain ⟨notification, _, rfl⟩ := Server.forward_eq_some stepped
      exact faithful.aside all rfl rfl (fun _ => rfl) rfl rfl position

/-- The channel gives messages in the order in which they were sent. -/
theorem fifo_after :
    (ledger.observe event after).taken ++ after.messages.items =
      (ledger.observe event after).sent.map Prod.snd := by
  calc
    (ledger.taken ++ takenBy ledger.server event) ++ after.messages.items =
        ledger.taken ++ (takenBy ledger.server event ++ after.messages.items) :=
      List.append_assoc _ _ _
    _ = ledger.taken ++ (ledger.server.messages.items ++
          (sentBy ledger.server event).map Prod.snd) := by
      rw [conserved stepped]
    _ = (ledger.taken ++ ledger.server.messages.items) ++
          (sentBy ledger.server event).map Prod.snd :=
      (List.append_assoc _ _ _).symm
    _ = (ledger.sent ++ sentBy ledger.server event).map Prod.snd := by
      rw [faithful.fifo, List.map_append]

end Faithful

/-- A step while ids are left keeps the ledger faithful. -/
theorem Faithful.step [SerdeJson Value] {faults : Faults}
    {ledger after : Ledger Value} {event : ServerEvent Value}
    (faithful : Faithful ledger) (left : IdsLeft ledger.server event)
    (stepped : ledger.step faults event = some after) : Faithful after := by
  obtain ⟨server, served, rfl⟩ := Option.map_eq_some_iff.mp stepped
  constructor
  · exact faithful.roster.step served
  · exact fun _ _ goes => faithful.own_after served left goes
  · exact faithful.fifo_after served
  · exact faithful.stands_after served

/-! ## Sessions -/

/-- What a connection received and did not hand over or lose yet. -/
def inHand (server : Server Value) (position : Nat) : List ByteArray :=
  match server.stages[position]?, held server.lock position with
  | some (.commanding _ payload), _ => [payload]
  | some .sending, some (_, .wsMessage _ payload) => [payload]
  | _, _ => []

/--
A connection announced itself, handed over the commands that it received in
their order and in the room that it was granted, and announced its end.  Only
the last commands can be lost, and only once the hub does not know it any more.
-/
def Session (ledger : Ledger Value) (position : Nat) (granted : Grant) :
    Prop :=
  ∃ connId opening handed lost closing,
    Opens granted connId opening ∧ Closes connId closing ∧
      ofConnection position ledger.sent =
        opening ++ messagesOf granted handed ++ closing ∧
      ofConnection position ledger.received =
        handed ++ lost ++ inHand ledger.server position ∧
      (lost = [] ∨ Unknown ledger.server.hub position) ∧
      (closing = [] ∨ ledger.server.stages[position]? = some .closed)

theorem StandsAt.session {ledger : Ledger Value} {position : Nat}
    {granted : Grant}
    (isGranted : ledger.server.grants[position]? = some granted)
    (standsAt : StandsAt ledger position) :
    Session ledger position granted := by
  cases standsAt with
  | absent _ isUngranted _ _ => cases isUngranted.symm.trans isGranted
  | present stage other isStage isOther stands =>
      cases isOther.symm.trans isGranted
      have silent (sent : ofConnection position ledger.sent = [])
          (received : ofConnection position ledger.received = [])
          (idle : inHand ledger.server position = []) :
          Session ledger position granted :=
        ⟨0, [], [], [], [], Or.inl rfl, Or.inl rfl, sent,
          by rw [received, idle]; rfl, Or.inl rfl, Or.inl rfl⟩
      have spoken {connId : ConnId} {received : List ByteArray}
          (spoke : Spoke ledger.server.hub position granted connId
            (ofConnection position ledger.sent) received)
          (all : ofConnection position ledger.received =
            received ++ inHand ledger.server position) :
          Session ledger position granted := by
        obtain ⟨opening, handed, lost, opens, sent, rfl, isLost⟩ := spoke
        exact ⟨connId, opening, handed, lost, [], opens, Or.inl rfl,
          sent.trans (List.append_nil _).symm, all, isLost, Or.inl rfl⟩
      generalize isSent : ofConnection position ledger.sent = sent at *
      generalize isReceived : ofConnection position ledger.received =
        received at *
      cases stands with
      | registering => exact silent rfl rfl (by simp [inHand, isStage])
      | refusing => exact silent rfl rfl (by simp [inHand, isStage])
      | greeting => exact silent rfl rfl (by simp [inHand, isStage])
      | serving spoke => exact spoken spoke (by simp [inHand, isStage])
      | commanding spoke => exact spoken spoke (by simp [inHand, isStage])
      | sending opens holds =>
          refine spoken ⟨_, _, [], opens, rfl, (List.append_nil _).symm,
            Or.inl rfl⟩ ?_
          simp [inHand, isStage, holds]
      | leaving spoke => exact spoken spoke (by simp [inHand, isStage])
      | departing spoke => exact spoken spoke (by simp [inHand, isStage])
      | refused => exact silent rfl rfl (by simp [inHand, isStage])
      | closed spoke closes =>
          obtain ⟨opening, handed, lost, opens, rfl, rfl, isLost⟩ := spoke
          refine ⟨_, opening, handed, lost, _, opens, closes, isSent, ?_,
            isLost, Or.inr isStage⟩
          simp [inHand, isStage, isReceived]

/--
In every run in which connection ids do not run out, the kernel takes the
messages of the connections in the order in which they were sent, each of them
once.  What each connection sent is its session: its commands reach the kernel
in the order in which it received them, in the room of its token, and no
command is lost while the hub knows the connection.
-/
theorem commands_reach_kernel_in_order [SerdeJson Value]
    {kernel : SyncpondKernel Value} {faults : Faults} {ledger : Ledger Value}
    (run : Follows (Ledger.step faults)
      (fun ledger event => IdsLeft ledger.server event) (.start kernel)
      ledger) :
    ledger.taken ++ ledger.server.messages.items =
        ledger.sent.map Prod.snd ∧
      ∀ position granted,
        ledger.server.grants[position]? = some granted →
        Session ledger position granted := by
  have faithful : Faithful ledger := by
    refine run.invariant Faithful ?_ (faithful_start kernel)
    intro before event after faithful left stepped
    exact faithful.step left stepped
  constructor
  · exact faithful.fifo
  · intro position granted isGranted
    exact (faithful.stands position).session isGranted

/-! ## An example run -/

/-- The grant of a token of the room. -/
def grantOf (roomId : RoomId) : Grant :=
  ⟨roomId, allowedBuckets serverOnlyBucketId ⟨some roomId, none⟩⟩

/-- Two connections take turns, and the first one leaves. -/
def twoConnections : List (ServerEvent Json) :=
  [.connect (grantOf 1), .register 0, .greet 0 [0],
    .receive 0 "a".toUTF8, .processClientMessage 0, .ask,
    .connect (grantOf 2), .register 1, .greet 1 [0],
    .receive 1 "b".toUTF8, .receive 0 "c".toUTF8,
    .processClientMessage 1, .ask, .processClientMessage 0, .ask,
    .leave 0, .remove 0, .depart 0,
    .takeMessage, .lookUp, .takeMessage]

def checkIdsLeft (ledger : Ledger Json) : ServerEvent Json → Bool
  | .register _ =>
      decide (ledger.server.hub.nextConnId.toNat + 1 < UInt64.size)
  | _ => true

theorem idsLeft_of_check (ledger : Ledger Json) (event : ServerEvent Json)
    (checked : checkIdsLeft ledger event = true) :
    IdsLeft ledger.server event := by
  cases event with
  | register position =>
      exact of_decide_eq_true
        (p := ledger.server.hub.nextConnId.toNat + 1 < UInt64.size) checked
  | _ => trivial

theorem commands_reach_kernel_in_order_twoConnections :
    ∃ ledger : Ledger Json,
      (ledger.taken.length = 2 ∧ ledger.sent.length = 6 ∧
        ofConnection 0 ledger.received = ["a".toUTF8, "c".toUTF8] ∧
        ledger.server.grants.map Grant.roomId = [1, 2]) ∧
      ledger.taken ++ ledger.server.messages.items =
        ledger.sent.map Prod.snd ∧
      ∀ position granted,
        ledger.server.grants[position]? = some granted →
        Session ledger position granted := by
  have ran : (twoConnections.foldlM (fun ledger event =>
      if checkIdsLeft ledger event then Ledger.step .none ledger event
      else none) (.start (boot .none ∅))).map (fun ledger =>
        (ledger.taken.length, ledger.sent.length,
          ofConnection 0 ledger.received,
          ledger.server.grants.map Grant.roomId)) =
      some (2, 6, ["a".toUTF8, "c".toUTF8], [1, 2]) := by
    decide +kernel
  obtain ⟨ledger, ran, seen⟩ := Option.map_eq_some_iff.mp ran
  have run := follows_of_checked idsLeft_of_check ran
  refine ⟨ledger, ?_, commands_reach_kernel_in_order run⟩
  simpa using seen

end Syncpond.ClientSessions
