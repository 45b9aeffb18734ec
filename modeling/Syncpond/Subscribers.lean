import Syncpond.Library.Subscription
import Syncpond.RoomContent
import Syncpond.SequentialRuns

/-!
# Subscribers of a room

A client of a room subscribes to the content of its buckets: it is sent a
snapshot, and the update of every write.  `Tracking` relates the server to the
views of its clients along a sequential run.  It is kept as long as no command
takes a fragment away, or brings one back, that somebody watches: nothing is
announced then.
-/

namespace Syncpond.Subscribers

open Syncpond.Protocol
open Syncpond.Serde
open Syncpond.State
open Syncpond.Persistence
open Syncpond.Kernel
open Syncpond.KernelStore
open Syncpond.Consistency
open Syncpond.Hub
open Syncpond.HubIndex
open Syncpond.HubDelivery
open Syncpond.Tasks
open Syncpond.Registration
open Syncpond.Delivery
open Syncpond.Reads
open Syncpond.Views
open Syncpond.WriteProgress
open Syncpond.Transit
open Syncpond.InitialSyncs
open Syncpond.SyncOrder
open Syncpond.RoomContent
open Syncpond.SequentialRuns
open Syncpond.Library.Maps
open Syncpond.Library.Channels
open Syncpond.Library.Programs
open Syncpond.Library.Runs
open Syncpond.Library.Subscriptions

variable {Value : Type} [SerdeJson Value]

/-! ## Conditions of a run -/

/--
A registered client was or will be sent the key, or a broadcast of it waits for
whoever registers.
-/
def Told (trace : Trace Value) (bucketId : BucketId) (key : String) : Prop :=
  (∃ (connId : ConnId) (client : ClientInfo),
    trace.server.hub.connections[connId]? = some client ∧
    ((∃ frame ∈ sentTo trace connId client,
      frame.content.bucketId = bucketId ∧ frame.content.key = key) ∨
    ∃ update ∈ owedTo trace.server connId,
      update.bucketId = bucketId ∧ update.key = key)) ∨
  ∃ notification ∈ waiting trace.server, ∃ update,
    notification.content = .broadcast update ∧
      update.bucketId = bucketId ∧ update.key = key

/-- The snapshot of a registered client with the bucket was taken. -/
def Synced (server : Server Value) (bucketId : BucketId) : Prop :=
  ∃ (connId : ConnId) (client : ClientInfo),
    server.hub.connections[connId]? = some client ∧
      bucketId ∈ client.buckets ∧ ¬SyncAhead server connId client

/--
Commands of one room are handled alone, connections are granted that room,
what is sent finds room in its channel, and no id is given twice.
-/
def IsSequential (roomId : RoomId) (trace : Trace Value) :
    Happening Value → Prop
  | .command command =>
      IsLifecycle Value roomId command ∧
        (isWrite command = true →
          trace.server.notifications.items.length < notificationCapacity)
  | .event (.command _) => False
  | .event (.connect granted) => granted.roomId = roomId
  | .event (.register _) =>
      trace.server.hub.nextConnId.toNat + 1 < UInt64.size
  | .event event => FindsRoom .none trace event

/--
No command takes away a fragment that somebody was told of, or brings one back
behind a snapshot; a snapshot that is still to be sent is not older than a
write, and a snapshot of an unloaded room has nothing to miss.
-/
def KeepsSubscribers (roomId : RoomId) (trace : Trace Value) :
    Happening Value → Prop
  | .command (.writeFragment _ bucketId key data) =>
      trace.server.pool.shared.state.isRoomLoaded roomId = true →
      ∀ (connId : ConnId) (client : ClientInfo),
        trace.server.hub.connections[connId]? = some client →
        ∀ update ∈ owedTo trace.server connId,
          update.bucketId = bucketId → update.key = key →
          update.value = SerdeJson.parsePayload data
  | .command command =>
      trace.server.pool.shared.state.isRoomLoaded roomId = true →
      Spares trace.server.pool.shared roomId (Told trace)
        (Synced trace.server) command
  | .event (.collect _) =>
      trace.server.pool.shared.state.isRoomLoaded roomId = false →
      ∀ (connId : ConnId) (client : ClientInfo) (room : RoomId)
        (requestedBuckets : List BucketId),
        trace.server.processor = .collect connId room requestedBuckets →
        trace.server.hub.connections[connId]? = some client →
        ∀ bucketId ∈ requestedBuckets,
          SurvivesReload trace.server.pool.shared roomId bucketId
  | _ => True

/-- The view that a client built from the frames that were enqueued to it. -/
def view (trace : Trace Value) (client : ClientInfo) : View :=
  View.receive (fun _ => none)
    ((trace.enqueued client.sender).map Sourced.content)

/--
At rest, each client of a loaded room that greeted the kernel sees what
`ReadFragment` returns for its buckets.
-/
def TracksRoom (roomId : RoomId) (trace : Trace Value) : Prop :=
  Quiescent trace.server →
  trace.server.pool.shared.state.isRoomLoaded roomId = true →
  ∀ (connId : ConnId) (client : ClientInfo),
    trace.server.hub.connections[connId]? = some client →
    trace.server.stages[client.sender]? ≠ some (.greeting connId) →
    view trace client =
      content trace.server.pool.shared.state roomId client.buckets

/-! ## Views -/

/-- The view that a client with some buckets is to end with. -/
def promised (store : Store Value) (roomId : RoomId)
    (allowed : FinSet BucketId) : View :=
  fun target =>
    if target.1 ∈ allowed then
      (shown store roomId target.1 target.2).map encode
    else none

/-- What frames do to their keys. -/
def frameUpdates (frames : List Frame) :
    List ((BucketId × String) × Option ByteArray) :=
  frames.map fun frame => frameUpdate frame.content

@[simp]
theorem frameUpdates_nil : frameUpdates [] = [] :=
  rfl

theorem frameUpdates_append (frames later : List Frame) :
    frameUpdates (frames ++ later) =
      frameUpdates frames ++ frameUpdates later :=
  List.map_append

theorem frameUpdates_singleton (frame : Frame) :
    frameUpdates [frame] = [frameUpdate frame.content] :=
  rfl

/-- What a fragment of a snapshot does to its key. -/
def syncUpdate (update : SyncUpdate Value) :
    (BucketId × String) × Option ByteArray :=
  ((update.bucketId, update.key), some (encode update.value))

theorem frameUpdate_syncFrame (roomId : RoomId) (update : SyncUpdate Value) :
    frameUpdate (syncFrame roomId update).content = syncUpdate update :=
  frameUpdate_updateEvent _ _ _ _

/-- A room that shows the same in some buckets promises the same. -/
theorem promised_congr {store after : Store Value} {roomId : RoomId}
    {allowed : FinSet BucketId}
    (same : ∀ bucketId ∈ allowed, ∀ key,
      shown after roomId bucketId key = shown store roomId bucketId key) :
    promised after roomId allowed = promised store roomId allowed := by
  funext ⟨bucketId, key⟩
  unfold promised
  split
  · next member => rw [same bucketId member key]
  · rfl

/-- What changes in a room changes in what is promised of it. -/
theorem promised_change {store after : Store Value} {roomId : RoomId}
    {told : BucketId → String → Prop} {synced : BucketId → Prop}
    (changed : ∀ bucketId key,
      shown after roomId bucketId key = shown store roomId bucketId key ∨
      (shown after roomId bucketId key = none ∧ ¬told bucketId key) ∨
      (shown store roomId bucketId key = none ∧ ¬synced bucketId))
    (allowed : FinSet BucketId) (bucketId : BucketId) (key : String) :
    promised after roomId allowed (bucketId, key) =
        promised store roomId allowed (bucketId, key) ∨
      (bucketId ∈ allowed ∧
        promised after roomId allowed (bucketId, key) = none ∧
        ¬told bucketId key) ∨
      (bucketId ∈ allowed ∧
        promised store roomId allowed (bucketId, key) = none ∧
        ¬synced bucketId) := by
  by_cases member : bucketId ∈ allowed
  · simp only [promised, member, if_true]
    rcases changed bucketId key with
      same | ⟨isNone, notTold⟩ | ⟨isNone, notSynced⟩
    · exact Or.inl (congrArg (Option.map encode) same)
    · exact Or.inr (Or.inl ⟨trivial, by rw [isNone]; rfl, notTold⟩)
    · exact Or.inr (Or.inr ⟨trivial, by rw [isNone]; rfl, notSynced⟩)
  · simp only [promised, member, if_false]
    exact Or.inl trivial

/-- The waiting broadcasts of some buckets. -/
def isNews (allowed : FinSet BucketId)
    (notification : Sourced (UpdateChannelMessage Value)) : Bool :=
  match notification.content with
  | .broadcast update => decide (update.bucketId ∈ allowed)
  | .targeted _ _ => false

/-- What a client with some buckets will hear if it registers now. -/
def newsFor (server : Server Value) (allowed : FinSet BucketId) :
    List Frame :=
  ((waiting server).filter (isNews allowed)).map frameOf

/-! ## The invariant -/

/-- What is asked of the kernel for a client is its own room and buckets. -/
structure Requests (server : Server Value) (connId : ConnId)
    (client : ClientInfo) : Prop where
  announced : ∀ requestedBuckets,
    Carries server (.clientConnected connId requestedBuckets) →
    requestedBuckets.Perm client.buckets.toList
  lookup : ∀ requestedBuckets,
    server.processor = .lookup connId requestedBuckets →
    requestedBuckets.Perm client.buckets.toList
  collect : ∀ room requestedBuckets,
    server.processor = .collect connId room requestedBuckets →
    room = client.roomId ∧ requestedBuckets.Perm client.buckets.toList

/-- A client will know what it is promised. -/
def IsInformed (roomId : RoomId) (store : Store Value) (trace : Trace Value)
    (connId : ConnId) (client : ClientInfo) : Prop :=
  Informed (promised store roomId client.buckets)
    (frameUpdates (sentTo trace connId client))
    ((owedTo trace.server connId).map syncUpdate)
    (SyncAhead trace.server connId client)

/-- The clients of a room track the content of a store. -/
structure Tracking (roomId : RoomId) (store : Store Value)
    (trace : Trace Value) : Prop where
  roster : Roster trace.server
  indexed : Indexed trace.server.hub
  distinct : Distinct trace.server
  alone : trace.server.pool.tasks = []
  refines : Refines trace.server.pool.shared store
  consistent : Consistent store
  oneRoom : ∀ granted ∈ trace.server.grants, granted.roomId = roomId
  silent : ∀ position, ¬Past trace.server position →
    trace.enqueued position = []
  requests : ∀ (connId : ConnId) (client : ClientInfo),
    trace.server.hub.connections[connId]? = some client →
    Requests trace.server connId client
  news : ∀ allowed, Agrees (known (frameUpdates
    (newsFor trace.server allowed))) (promised store roomId allowed)
  informed : ∀ (connId : ConnId) (client : ClientInfo),
    trace.server.hub.connections[connId]? = some client →
    IsInformed roomId store trace connId client

/-! ## Events between commands -/

section Events

variable {trace after : Trace Value} {event : ServerEvent Value}
variable {roomId : RoomId} {store : Store Value}

/-- A kernel differs by its notifications only. -/
theorem refines_passage
    (refines : Refines trace.server.pool.shared store)
    (passed : Passage .none trace event after)
    (notCommand : ∀ command, event ≠ .command command)
    (notAdvance : ∀ task, event ≠ .advance task) :
    Refines after.server.pool.shared store := by
  cases passed with
  | aside _ aside => exact aside.pool ▸ refines
  | command command => exact absurd rfl (notCommand command)
  | advance task => exact absurd rfl (notAdvance task)
  | greet => simpa [Server.enter] using refines
  | target connId roomId update rest sent _ _ =>
      exact refines.setNotifications sent
  | takeNotification notification rest _ _ =>
      exact refines.setNotifications rest
  | _ => exact refines

/-- A client under a new id is listed as it was allowed. -/
theorem indexed_step (indexed : Indexed trace.server.hub)
    (distinct : Distinct trace.server)
    (changed : HubStep trace.server event after.server) :
    Indexed after.server.hub := by
  cases changed with
  | keep connections buckets _ => exact indexed.congr connections buckets
  | register position granted _ _ _ added _ _ =>
      have allocated : Indexed trace.server.hub.allocateConnectionId.2 :=
        indexed.congr rfl rfl
      refine allocated.addClient ?_ added
      by_contra present
      obtain ⟨client, isClient⟩ := Option.ne_none_iff_exists'.mp present
      exact distinct.unused (.registered client isClient)
  | remove position connId _ _ hub _ =>
      exact hub ▸ indexed.removeClient connId
  | forward notification _ _ hub _ =>
      rw [hub, WsHub.forward_eq_sendEach]
      exact indexed.sendEach _ _

/-- A connection that did not register is sent nothing. -/
theorem silent_step (roster : Roster trace.server)
    (passed : Passage .none trace event after)
    (moved : StageStep trace.server event after.server)
    (silent : ∀ position, ¬Past trace.server position →
      trace.enqueued position = [])
    {position : Nat} (notPast : ¬Past after.server position) :
    after.enqueued position = [] := by
  have before : ¬Past trace.server position :=
    fun past => notPast (past.stageStep moved)
  cases passed with
  | aside _ aside => rw [aside.enqueued, silent position before]
  | greet =>
      have unsent := silent position before
      simpa [Trace.enqueued, Server.enter] using unsent
  | forward notification isTaken =>
      refine Eq.trans ?_ (silent position before)
      refine congrArg (_ ++ ·) (pending_forward_of_not_reaches notification ?_)
      rintro connId _ ⟨client, present, rfl, _⟩
      exact before (roster.enrolled connId client present).past
  | _ => exact silent position before

/-- What is asked for a registered client stays its own. -/
theorem requests_step (tracking : Tracking roomId store trace)
    (stepped : trace.step .none event = some after) {connId : ConnId}
    {client : ClientInfo}
    (present : trace.server.hub.connections[connId]? = some client) :
    Requests after.server connId client := by
  have requests := tracking.requests connId client present
  have roster := tracking.roster
  have passed := passage roster.guarded stepped
  constructor
  · intro requestedBuckets carries
    obtain ⟨server, served, rfl⟩ := Option.map_eq_some_iff.mp stepped
    rcases (idStep served).carried connId requestedBuckets carries with
      before | ⟨position, granted, _, isGreeting, isGranted, perm⟩
    · exact requests.announced requestedBuckets before
    · -- The greeting task is the one of the client.
      have same := tracking.distinct.oneTask position client.sender connId
        (Or.inl ⟨_, isGreeting, rfl⟩) (roster.enrolled connId client present)
      subst same
      cases isGranted.symm.trans (roster.granted connId client present)
      exact perm
  · intro requestedBuckets isLookup
    cases passed with
    | aside _ aside =>
        exact requests.lookup requestedBuckets (aside.processor ▸ isLookup)
    | greet =>
        exact requests.lookup requestedBuckets
          (by simpa [Server.enter] using isLookup)
    | takeMessage message rest isIdle items =>
        cases message with
        | clientConnected other requested =>
            cases isLookup
            refine requests.announced requestedBuckets (Or.inl ?_)
            exact items ▸ List.mem_cons_self
        | clientDisconnected other => cases isLookup
        | wsMessage room payload => cases isLookup
    | lookUp => cases isLookup
    | lookUpFailed => cases isLookup
    | collect => cases isLookup
    | target => cases isLookup
    | targetEnded => cases isLookup
    | _ => exact requests.lookup requestedBuckets isLookup
  · intro room requestedBuckets isCollect
    cases passed with
    | aside _ aside =>
        exact requests.collect room requestedBuckets
          (aside.processor ▸ isCollect)
    | greet =>
        exact requests.collect room requestedBuckets
          (by simpa [Server.enter] using isCollect)
    | takeMessage message rest isIdle items =>
        cases message <;> cases isCollect
    | lookUp other requested otherClient isLookup isOther =>
        cases isCollect
        cases present.symm.trans isOther
        exact ⟨rfl, requests.lookup requestedBuckets isLookup⟩
    | lookUpFailed => cases isCollect
    | collect => cases isCollect
    | target => cases isCollect
    | targetEnded => cases isCollect
    | _ => exact requests.collect room requestedBuckets isCollect

/-- An event makes no waiting update stale. -/
theorem news_flow {map : View} {allowed : FinSet BucketId}
    (flowed : Flow trace event after)
    (news : Agrees (known (frameUpdates (newsFor trace.server allowed)))
      map) :
    Agrees (known (frameUpdates (newsFor after.server allowed))) map := by
  cases flowed with
  | still _ waiting _ _ =>
      rw [newsFor, waiting]
      exact news
  | collect => exact news
  | target connId room update rest sent isTarget items =>
      have same : newsFor { trace.server.withNotifications sent with
          processor := .target connId room rest } allowed =
          newsFor trace.server allowed := by
        change List.map _ (List.filter _
          (trace.server.forwarder.toList ++ sent.items)) = _
        rw [items, ← List.append_assoc, List.filter_append]
        simp [newsFor, waiting, isNews]
      exact same ▸ news
  | forward notification isTaken =>
      have equal : newsFor trace.server allowed =
          (List.filter (isNews allowed) (notification ::
            trace.server.notifications.items)).map frameOf := by
        simp [newsFor, waiting, isTaken]
      rw [equal] at news
      cases isOne : isNews allowed notification with
      | true =>
          rw [List.filter_cons_of_pos isOne] at news
          exact news.tail
      | false =>
          rw [List.filter_cons_of_neg (by simp [isOne])] at news
          exact news

/-! ### Registered clients -/

/-- Between commands, what is sent for a registered client finds room. -/
theorem findsRoom_of_sequential
    (sequential : IsSequential roomId trace (.event event)) :
    FindsRoom .none trace event := by
  cases event with
  | command command => exact sequential.elim
  | connect granted => trivial
  | register position => trivial
  | _ => exact sequential

theorem roomId_eq (tracking : Tracking roomId store trace) {connId : ConnId}
    {client : ClientInfo}
    (present : trace.server.hub.connections[connId]? = some client) :
    client.roomId = roomId :=
  tracking.oneRoom _
    (List.mem_of_getElem? (tracking.roster.granted connId client present))

variable {connId : ConnId} {client : ClientInfo}

/-- A snapshot is what its client is promised. -/
theorem informed_collect (tracking : Tracking roomId store trace)
    (iteration : Iteration Value) {room : RoomId}
    {requestedBuckets : List BucketId}
    (isCollect :
      trace.server.processor = .collect connId room requestedBuckets)
    (keeps : KeepsSubscribers roomId trace (.event (.collect iteration)))
    (present : trace.server.hub.connections[connId]? = some client)
    (later : Prop) :
    Informed (promised store roomId client.buckets)
      (frameUpdates (sentTo trace connId client))
      ((collectUpdates iteration trace.server.pool.shared.state room
        requestedBuckets).map syncUpdate) later := by
  have informed := tracking.informed connId client present
  obtain ⟨rfl, perm⟩ := (tracking.requests connId client present).collect
    room requestedBuckets isCollect
  have allowed_iff (bucketId : BucketId) :
      bucketId ∈ requestedBuckets ↔ bucketId ∈ client.buckets :=
    perm.mem_iff.trans Std.ExtTreeSet.mem_toList
  have sameRoom := roomId_eq tracking present
  have inMemory : ∀ bucketId ∈ requestedBuckets, ∀ key,
      shown store roomId bucketId key =
        memoryFragment trace.server.pool.shared.state client.roomId bucketId
          key := by
    intro bucketId requested key
    rw [tracking.refines.state, sameRoom]
    cases loaded : store.state.isRoomLoaded roomId with
    | true => exact shown_of_loaded loaded
    | false =>
        rw [shown_of_unloaded loaded]
        have survives := keeps (tracking.refines.state ▸ loaded) connId client
          client.roomId requestedBuckets isCollect present bucketId requested
        exact survives.restored_eq tracking.refines tracking.consistent key
  refine informed.snapshot ?_ ?_ later
  · intro update member
    obtain ⟨collected, isCollected, rfl⟩ := List.mem_map.mp member
    obtain ⟨requested, live⟩ := memoryFragment_of_mem isCollected
    simp only [promised, syncUpdate, (allowed_iff _).mp requested, if_true]
    rw [inMemory _ requested, live]
    rfl
  · rintro ⟨bucketId, key⟩
    by_cases allowed : bucketId ∈ client.buckets
    · have requested := (allowed_iff bucketId).mpr allowed
      simp only [promised, allowed, if_true]
      rw [inMemory bucketId requested]
      cases live : memoryFragment trace.server.pool.shared.state
          client.roomId bucketId key with
      | none => exact Or.inl rfl
      | some value =>
          obtain ⟨version, isSent⟩ :=
            exists_mem_of_memoryFragment iteration requested live
          exact Or.inr ⟨_, List.mem_map.mpr ⟨_, isSent, rfl⟩, rfl⟩
    · exact Or.inl (if_neg allowed)

/-- An event between commands keeps a client informed. -/
theorem informed_flow (tracking : Tracking roomId store trace)
    (passed : Passage .none trace event after)
    (flowed : Flow trace event after)
    (findsRoom : FindsRoom .none trace event)
    (keeps : KeepsSubscribers roomId trace (.event event))
    (present : trace.server.hub.connections[connId]? = some client)
    (stays : after.server.hub.connections[connId]? = some client) :
    IsInformed roomId store after connId client := by
  have informed := tracking.informed connId client present
  have ahead (collected : after.collected = trace.collected) :=
    syncAhead_stays tracking.roster passed findsRoom collected present
  cases flowed with
  | still collected waiting enqueued owed =>
      have sent : sentTo after connId client =
          sentTo trace connId client := by
        rw [sentTo, sentTo, waiting, enqueued]
      rw [IsInformed, sent, owed connId client present]
      exact informed.imp (ahead collected)
  | collect iteration target room requestedBuckets isCollect =>
      unfold IsInformed
      rw [owedTo_target rfl]
      by_cases same : target = connId
      · subst same
        rw [if_pos rfl]
        exact informed_collect tracking iteration isCollect keeps present _
      · rw [if_neg same]
        have none : owedTo trace.server connId = [] := by
          rw [owedTo, isCollect]
        rw [IsInformed, none] at informed
        refine informed.imp fun isAhead => ?_
        rcases isAhead.passage tracking.roster passed findsRoom present with
          stillAhead | ⟨_, _, _, equal⟩
        · exact stillAhead
        · have processor := congrArg (fun trace => trace.server.processor)
            equal
          exact absurd (Processor.target.inj processor).1 same
  | target target room update rest sent isTarget items =>
      rw [IsInformed, owedTo_target isTarget] at informed
      unfold IsInformed
      rw [owedTo_target rfl, sentTo_target items]
      by_cases same : target = connId
      · subst same
        rw [if_pos rfl] at informed ⊢
        rw [if_pos rfl, frameUpdates_append, frameUpdates_singleton,
          frameUpdate_syncFrame]
        exact informed.send.imp (ahead rfl)
      · rw [if_neg same] at informed ⊢
        rw [if_neg same, List.append_nil]
        exact informed.imp (ahead rfl)
  | forward notification isTaken =>
      unfold IsInformed
      rw [sentTo_forward tracking.roster tracking.indexed isTaken stays]
      exact informed.imp (ahead rfl)

/-! ### A client that registers -/

/-- A client that registers will hear of the updates that wait. -/
theorem informed_joined (tracking : Tracking roomId store trace)
    {position : Nat}
    (stepped : trace.step .none (.register position) = some after)
    (isRegistering :
      trace.server.stages[client.sender]? = some .registering)
    (isGreeting : after.server.stages[client.sender]? =
      some (.greeting trace.server.hub.nextConnId)) :
    Requests after.server trace.server.hub.nextConnId client ∧
      IsInformed roomId store after trace.server.hub.nextConnId client := by
  have unused := tracking.distinct.unused
  have passed := passage tracking.roster.guarded stepped
  obtain ⟨server, served, rfl⟩ := Option.map_eq_some_iff.mp stepped
  cases passed with
  | aside _ aside =>
  have processed {processor : Processor Value}
      (isProcessor : (trace.observe (.register position)
        server).server.processor = processor)
      (isOurs : processing processor = some trace.server.hub.nextConnId) :
      False :=
    unused (.processed ((aside.processor.symm.trans isProcessor) ▸ isOurs))
  constructor
  · constructor
    · intro requestedBuckets carries
      rcases (idStep served).carried _ requestedBuckets carries with
        before | ⟨_, _, absent, _⟩
      · exact (unused (.announced requestedBuckets before)).elim
      · cases absent
    · exact fun _ isLookup => (processed isLookup rfl).elim
    · exact fun _ _ isCollect => (processed isCollect rfl).elim
  · have none : owedTo (trace.observe (.register position) server).server
        trace.server.hub.nextConnId = [] :=
      owedTo_eq_nil fun room updates isTarget => processed isTarget rfl
    have notPast : ¬Past trace.server client.sender := by
      rintro ⟨stage, isStage, notRegistering⟩
      exact notRegistering (Option.some.inj (isStage.symm.trans isRegistering))
    have sameWaiting : waiting (trace.observe (.register position)
        server).server = waiting trace.server := by
      rw [waiting, waiting, aside.forwarder, Server.notifications, aside.pool]
      rfl
    have sent : sentTo (trace.observe (.register position) server)
        trace.server.hub.nextConnId client =
        newsFor trace.server client.buckets := by
      rw [sentTo, aside.enqueued, tracking.silent _ notPast, List.nil_append,
        sameWaiting, newsFor]
      refine congrArg (List.map frameOf) (List.filter_congr ?_)
      intro notification member
      cases content : notification.content with
      | broadcast update => simp [IsFor, isNews, content]
      | targeted target msg =>
          have other : target ≠ trace.server.hub.nextConnId := by
            rintro rfl
            exact unused (.targeted notification member msg content)
          simp [IsFor, isNews, content, other]
    rw [IsInformed, sent, none]
    exact .joining (.greeting isGreeting) (tracking.news client.buckets)

/-! ### The step -/

theorem notAdvance_of_alone (alone : trace.server.pool.tasks = [])
    (stepped : trace.step .none event = some after) (task : Nat) :
    event ≠ .advance task := by
  rintro rfl
  obtain ⟨server, served, rfl⟩ := Option.map_eq_some_iff.mp stepped
  obtain ⟨pool, advanced, rfl⟩ := Option.map_eq_some_iff.mp served
  obtain ⟨_, _, _, found, _, _⟩ := Pool.advance_eq_some advanced
  simp [alone] at found

/-- Events between commands keep the clients on track. -/
theorem Tracking.between (tracking : Tracking roomId store trace)
    (sequential : IsSequential roomId trace (.event event))
    (keeps : KeepsSubscribers roomId trace (.event event))
    (stepped : trace.step .none event = some after) :
    Tracking roomId store after := by
  have roster := tracking.roster
  have passed := passage roster.guarded stepped
  have changed := hubStep_of_step stepped
  have moved := stageStep_of_step stepped
  have findsRoom := findsRoom_of_sequential sequential
  have notAdvance := notAdvance_of_alone tracking.alone stepped
  have notCommand : ∀ command, event ≠ .command command := by
    rintro command rfl
    exact sequential
  have flowed := flow passed notCommand notAdvance findsRoom
  have registered {connId : ConnId} {client : ClientInfo}
      (stays : after.server.hub.connections[connId]? = some client) :
      Requests after.server connId client ∧
        IsInformed roomId store after connId client := by
    rcases changed.before stays with
      present | ⟨position, rfl, rfl, isRegistering, isGreeting⟩
    · exact ⟨requests_step tracking stepped present,
        informed_flow tracking passed flowed findsRoom keeps present stays⟩
    · exact informed_joined tracking stepped isRegistering isGreeting
  constructor
  · obtain ⟨server, served, rfl⟩ := Option.map_eq_some_iff.mp stepped
    exact roster.step served
  · exact indexed_step tracking.indexed tracking.distinct changed
  · refine tracking.distinct.step roster stepped notAdvance ?_
    rintro position rfl
    exact sequential
  · cases commandStep passed with
    | start command => exact absurd rfl (notCommand command)
    | advance task => exact absurd rfl (notAdvance task)
    | rest _ _ tasks _ => exact tasks.trans tracking.alone
  · exact refines_passage tracking.refines passed notCommand notAdvance
  · exact tracking.consistent
  · rcases changed.grants_cases with same | ⟨granted, rfl, added⟩
    · exact same ▸ tracking.oneRoom
    · intro other member
      rw [added] at member
      rcases List.mem_append.mp member with before | new
      · exact tracking.oneRoom other before
      · exact List.mem_singleton.mp new ▸ sequential
  · exact fun position => silent_step roster passed moved tracking.silent
  · exact fun _ _ stays => (registered stays).1
  · exact fun allowed => news_flow flowed (tracking.news allowed)
  · exact fun _ _ stays => (registered stays).2

end Events

/-! ## Commands -/

section Commands

variable {trace : Trace Value} {command : Commands}
variable {roomId : RoomId} {store after : Store Value}

/-- A command that is handled alone adds broadcasts, and changes the content. -/
theorem Tracking.of_broadcasts (tracking : Tracking roomId store trace)
    (refines : Refines (handled trace command).server.pool.shared after)
    (consistent : Consistent after)
    {added : List (Sourced (UpdateChannelMessage Value))}
    (grows : waiting (handled trace command).server =
      waiting trace.server ++ added)
    (broadcasts : ∀ notification ∈ added, ∃ update,
      notification.content = .broadcast update)
    (news : ∀ allowed, Agrees (known (frameUpdates
      (newsFor (handled trace command).server allowed)))
      (promised after roomId allowed))
    (informed : ∀ (connId : ConnId) (client : ClientInfo),
      trace.server.hub.connections[connId]? = some client →
      Informed (promised after roomId client.buckets)
        (frameUpdates (sentTo (handled trace command) connId client))
        ((owedTo trace.server connId).map syncUpdate)
        (SyncAhead trace.server connId client)) :
    Tracking roomId after (handled trace command) where
  roster := {
    guarded := ⟨tracking.roster.guarded.refusing,
      tracking.roster.guarded.sending⟩
    enrolled := tracking.roster.enrolled
    granted := tracking.roster.granted
    covered := tracking.roster.covered }
  indexed := tracking.indexed
  distinct := by
    refine ⟨fun connId inUse => tracking.distinct.below connId ?_,
      tracking.distinct.oneTask⟩
    cases inUse with
    | registered client present => exact .registered client present
    | task position goes => exact .task position goes
    | announced requestedBuckets carries =>
        exact .announced requestedBuckets carries
    | processed isProcessed => exact .processed isProcessed
    | targeted notification member msg content =>
        rw [grows] at member
        rcases List.mem_append.mp member with before | new
        · exact .targeted notification before msg content
        · obtain ⟨update, isBroadcast⟩ := broadcasts notification new
          cases isBroadcast.symm.trans content
  alone := tracking.alone
  refines := refines
  consistent := consistent
  oneRoom := tracking.oneRoom
  silent := tracking.silent
  requests connId client present :=
    let requests := tracking.requests connId client present
    ⟨requests.announced, requests.lookup, requests.collect⟩
  news := news
  informed connId client present :=
    (informed connId client present).imp fun ahead =>
      ahead.congr (fun _ _ => id) (fun _ => id) rfl

/--
Nothing is announced, and what changes is taken away when nobody was told of
it, or brought back where no snapshot was taken.
-/
theorem Tracking.unannounced (tracking : Tracking roomId store trace)
    (refines : Refines (handled trace command).server.pool.shared after)
    (consistent : Consistent after)
    (quiet : waiting (handled trace command).server = waiting trace.server)
    (changed : ∀ bucketId key,
      shown after roomId bucketId key = shown store roomId bucketId key ∨
      (shown after roomId bucketId key = none ∧ ¬Told trace bucketId key) ∨
      (shown store roomId bucketId key = none ∧
        ¬Synced trace.server bucketId)) :
    Tracking roomId after (handled trace command) := by
  have grows : waiting (handled trace command).server =
      waiting trace.server ++ [] := by
    rw [quiet, List.append_nil]
  refine tracking.of_broadcasts refines consistent grows (by simp) ?_ ?_
  · intro allowed
    rw [newsFor, quiet, ← newsFor]
    have news := tracking.news allowed
    refine news.change fun ⟨bucketId, key⟩ => ?_
    rcases promised_change changed allowed bucketId key with
      same | ⟨_, _, notTold⟩ | ⟨_, isNone, _⟩
    · exact Or.inl same
    · refine Or.inr (known_of_forall_ne fun update isUpdate equal => ?_)
      obtain ⟨frame, isFrame, rfl⟩ := List.mem_map.mp isUpdate
      obtain ⟨notification, isNotification, rfl⟩ := List.mem_map.mp isFrame
      obtain ⟨isWaiting, isOne⟩ := List.mem_filter.mp isNotification
      obtain ⟨sameBucket, sameKey⟩ := Prod.mk.inj equal
      unfold isNews at isOne
      cases content : notification.content with
      | targeted target msg => simp [content] at isOne
      | broadcast update =>
          rw [frameOf, content] at sameBucket sameKey
          exact notTold (Or.inr ⟨notification, isWaiting, update, content,
            sameBucket, sameKey⟩)
    · refine Or.inr ?_
      rcases news (bucketId, key) with unknown | equal
      · exact unknown
      · exact equal.trans isNone
  · intro connId client present
    have sent : sentTo (handled trace command) connId client =
        sentTo trace connId client := by
      rw [sentTo, sentTo, quiet]
      rfl
    have informed := tracking.informed connId client present
    rw [sent]
    refine informed.change fun ⟨bucketId, key⟩ => ?_
    rcases promised_change changed client.buckets bucketId key with
      same | ⟨_, isNone, notTold⟩ | ⟨allowed, isNone, notSynced⟩
    · exact Or.inl same
    · refine Or.inr ⟨known_of_forall_ne fun update isUpdate equal => ?_,
        fun update isOwed equal => ?_, Or.inr isNone⟩
      · obtain ⟨frame, isFrame, rfl⟩ := List.mem_map.mp isUpdate
        obtain ⟨sameBucket, sameKey⟩ := Prod.mk.inj equal
        exact notTold (Or.inl ⟨connId, client, present,
          Or.inl ⟨frame, isFrame, sameBucket, sameKey⟩⟩)
      · obtain ⟨fragment, isFragment, rfl⟩ := List.mem_map.mp isOwed
        obtain ⟨sameBucket, sameKey⟩ := Prod.mk.inj equal
        exact notTold (Or.inl ⟨connId, client, present,
          Or.inr ⟨fragment, isFragment, sameBucket, sameKey⟩⟩)
    · refine Or.inr ⟨?_, fun update isOwed equal => ?_, Or.inl ?_⟩
      · rcases informed.agrees (bucketId, key) with unknown | equal
        · exact unknown
        · exact equal.trans isNone
      · have owed := informed.owes update isOwed
        obtain ⟨fragment, _, rfl⟩ := List.mem_map.mp isOwed
        rw [equal, isNone] at owed
        cases owed
      · by_contra notAhead
        exact notSynced ⟨connId, client, present, allowed, notAhead⟩

/-- The content changes by one key. -/
theorem promised_write {bucketId : BucketId} {key : String} {value : Value}
    (written : ∀ other otherKey, shown after roomId other otherKey =
      if bucketId = other ∧ key = otherKey then some value
      else shown store roomId other otherKey) (allowed : FinSet BucketId) :
    promised after roomId allowed =
      if bucketId ∈ allowed then
        Function.update (promised store roomId allowed) (bucketId, key)
          (some (encode value))
      else promised store roomId allowed := by
  split
  · next member =>
    funext ⟨other, otherKey⟩
    by_cases same : bucketId = other ∧ key = otherKey
    · obtain ⟨rfl, rfl⟩ := same
      simp [promised, member, written]
    · have different : (other, otherKey) ≠ (bucketId, key) := by
        rintro ⟨⟩
        exact same ⟨rfl, rfl⟩
      rw [Function.update_of_ne different]
      simp only [promised, written, if_neg same]
  · next absent =>
    refine promised_congr fun other member otherKey => ?_
    rw [written, if_neg]
    rintro ⟨rfl, _⟩
    exact absent member

/-- A change of one key that is announced. -/
theorem Tracking.announced (tracking : Tracking roomId store trace)
    (refines : Refines (handled trace command).server.pool.shared after)
    (consistent : Consistent after) {bucketId : BucketId} {key : String}
    {value : Value} {roomCounter : UInt64}
    {notification : Sourced (UpdateChannelMessage Value)}
    (content : notification.content =
      .broadcast (writeUpdate bucketId key value roomCounter))
    (grows : waiting (handled trace command).server =
      waiting trace.server ++ [notification])
    (written : ∀ other otherKey, shown after roomId other otherKey =
      if bucketId = other ∧ key = otherKey then some value
      else shown store roomId other otherKey)
    (current : ∀ (connId : ConnId) (client : ClientInfo),
      trace.server.hub.connections[connId]? = some client →
      ∀ update ∈ owedTo trace.server connId,
        update.bucketId = bucketId → update.key = key →
        update.value = value) :
    Tracking roomId after (handled trace command) := by
  have announcement : frameUpdate (frameOf notification).content =
      ((bucketId, key), some (encode value)) := by
    rw [frameOf, content]
    exact frameUpdate_updateEvent _ _ _ _
  refine tracking.of_broadcasts refines consistent grows ?_ ?_ ?_
  · intro other member
    exact ⟨_, List.mem_singleton.mp member ▸ content⟩
  · intro allowed
    have isNews_eq : isNews allowed notification =
        decide (bucketId ∈ allowed) := by
      rw [isNews, content]
      rfl
    rw [newsFor, grows, List.filter_append, List.map_append,
      frameUpdates_append, promised_write written allowed]
    by_cases member : bucketId ∈ allowed
    · rw [if_pos member, List.filter_cons_of_pos (by simpa [isNews_eq]),
        List.filter_nil, List.map_singleton, frameUpdates_singleton,
        announcement, known_snoc]
      exact (tracking.news allowed).update _ _
    · rw [if_neg member, List.filter_cons_of_neg (by simpa [isNews_eq]),
        List.filter_nil, List.map_nil, frameUpdates_nil, List.append_nil]
      exact tracking.news allowed
  · intro connId client present
    have isFor_iff : IsFor notification connId client ↔
        bucketId ∈ client.buckets := by
      rw [IsFor, content]
      rfl
    have informed := tracking.informed connId client present
    have sent : sentTo (handled trace command) connId client = _ :=
      sentTo_append trace grows rfl
    rw [sent, frameUpdates_append, promised_write written client.buckets]
    by_cases member : bucketId ∈ client.buckets
    · rw [if_pos member, List.filter_cons_of_pos (by simpa [isFor_iff]),
        List.filter_nil, List.map_singleton, frameUpdates_singleton,
        announcement]
      refine informed.update _ _ fun update isOwed same => ?_
      obtain ⟨fragment, isFragment, rfl⟩ := List.mem_map.mp isOwed
      obtain ⟨sameBucket, sameKey⟩ := Prod.mk.inj same
      rw [syncUpdate, current connId client present fragment isFragment
        sameBucket sameKey]
    · rw [if_neg member, List.filter_cons_of_neg (by simpa [isFor_iff]),
        List.filter_nil, List.map_nil, frameUpdates_nil, List.append_nil]
      exact informed

/-- A command that is handled alone keeps the clients on track. -/
theorem Tracking.alone_step (tracking : Tracking roomId store trace)
    (sequential : IsSequential roomId trace (.command command))
    (keeps : KeepsSubscribers roomId trace (.command command)) :
    Tracking roomId (store.command command) (handled trace command) := by
  obtain ⟨lifecycle, room⟩ := sequential
  have refines := refines_command tracking.refines command
  have consistent := tracking.consistent.command command
  cases isWriting : isWrite command with
  | false =>
      have quiet : waiting (handled trace command).server =
          waiting trace.server :=
        congrArg (fun notifications : Notifications Value =>
            trace.server.forwarder.toList ++ notifications.items)
          (Program.Every.run (quiet_handleCommand .none isWriting) _)
      have spares : trace.server.pool.shared.state.isRoomLoaded roomId =
          true → Spares trace.server.pool.shared roomId (Told trace)
            (Synced trace.server) command := by
        cases command with
        | writeFragment => cases isWriting
        | _ => exact keeps
      exact tracking.unannounced refines consistent quiet
        (shown_command tracking.refines tracking.consistent lifecycle
          isWriting spares)
  | true =>
      cases command with
      | writeFragment target bucketId key data =>
          obtain ⟨rfl, live⟩ := lifecycle
          cases loaded : store.state.isRoomLoaded target with
          | false =>
              have ignored : Kernel.apply .none trace.server.pool.shared
                  (.command (.writeFragment target bucketId key data)) =
                  trace.server.pool.shared := by
                rw [← tracking.refines.state] at loaded
                simp [Kernel.apply, handleCommand, handleWriteFragment,
                  loaded]
              refine tracking.unannounced refines consistent ?_ ?_
              · rw [handled, ignored]
                rfl
              · intro other otherKey
                rw [Store.command, writeFragment_of_unloaded loaded]
                exact Or.inl rfl
          | true =>
              have resident := tracking.refines.state ▸ loaded
              obtain ⟨assigned, roomCounter, announced⟩ :=
                notifications_run_writeFragment .none bucketId key data
                  resident
              have items := (congrArg Channel.items announced).trans
                (Channel.items_sendOrDrop_of_lt (room rfl))
              have grows : waiting (handled trace (.writeFragment target
                  bucketId key data)).server = waiting trace.server ++
                    [⟨target, assigned, .broadcast (writeUpdate bucketId key
                      (SerdeJson.parsePayload data) roomCounter)⟩] :=
                (congrArg (trace.server.forwarder.toList ++ ·) items).trans
                  (List.append_assoc _ _ _).symm
              exact tracking.announced refines consistent rfl grows
                (fun other otherKey => shown_writeFragment
                  tracking.consistent loaded bucketId key live)
                (keeps resident)
      | _ => cases isWriting

end Commands

/-! ## Runs -/

/-- No client is connected, and nothing waits. -/
theorem Tracking.start (roomId : RoomId) {kernel : SyncpondKernel Value}
    {store : Store Value} (refines : Refines kernel store)
    (consistent : Consistent store)
    (drained : kernel.notifications.items = []) :
    Tracking roomId store (.start kernel) where
  roster := .start kernel
  indexed := .new
  distinct := .start kernel drained
  alone := rfl
  refines := refines
  consistent := consistent
  oneRoom := by simp [Trace.start, Server.start]
  silent := by
    simp [Trace.start, Trace.enqueued, Server.start, WsHub.new, pending]
  requests := by simp [Trace.start, Server.start, WsHub.new]
  news := by
    intro allowed
    have none : newsFor (Server.start kernel) allowed = [] := by
      simp [newsFor, waiting, Server.start, Server.notifications, drained]
    rw [Trace.start, none]
    exact agrees_nil
  informed := by simp [Trace.start, Server.start, WsHub.new]

/-- A happening keeps the clients on track. -/
theorem Tracking.happen {roomId : RoomId} {store : Store Value}
    {trace after : Trace Value} {happening : Happening Value}
    (tracking : Tracking roomId store trace)
    (meets : IsSequential roomId trace happening ∧
      KeepsSubscribers roomId trace happening)
    (happened : happen trace happening = some after) :
    ∃ store, Tracking roomId store after := by
  cases happening with
  | command command =>
      cases happened
      exact ⟨_, tracking.alone_step meets.1 meets.2⟩
  | event event => exact ⟨store, tracking.between meets.1 meets.2 happened⟩

/-- At rest the clients on track see their room. -/
theorem Tracking.tracksRoom {roomId : RoomId} {store : Store Value}
    {trace : Trace Value} (tracking : Tracking roomId store trace) :
    TracksRoom roomId trace := by
  intro quiescent loaded connId client registered greeted
  have drained : waiting trace.server = [] := by
    rw [waiting, quiescent.forwarder, quiescent.notifications]
    rfl
  have informed := tracking.informed connId client registered
  have nothing : owedTo trace.server connId = [] := by
    rw [owedTo, quiescent.processor]
  have sent : sentTo trace connId client = trace.enqueued client.sender := by
    rw [sentTo, drained]
    exact List.append_nil _
  rw [IsInformed, nothing, sent] at informed
  have known_eq := informed.settled
    fun ahead => ahead.not_quiescent quiescent greeted
  rw [tracking.refines.state] at loaded ⊢
  obtain ⟨room, present, resident⟩ := isRoomLoaded_iff.mp loaded
  have unlocked := (tracking.consistent.rooms roomId room present).unlocked
  have promised_eq : promised store roomId client.buckets =
      content store.state roomId client.buckets := by
    funext target
    simp only [promised, content, shown_of_loaded loaded,
      readable_eq present unlocked resident]
  rw [← promised_eq, ← known_eq, view, View.receive, List.map_map]
  rfl

/--
In a sequential run of commands on one room and connections to it, in which no
command takes away or brings back a fragment that somebody watches, the clients
see what they can read whenever the channels are drained and the room is loaded.
-/
theorem subscribers_track_room (roomId : RoomId)
    {kernel : SyncpondKernel Value} (reachable : Kernel.Reachable kernel)
    (drained : kernel.notifications.items = []) {final : Trace Value}
    (run : Follows SequentialRuns.happen (fun trace happening =>
      IsSequential roomId trace happening ∧
        KeepsSubscribers roomId trace happening) (.start kernel) final) :
    TracksRoom roomId final := by
  obtain ⟨store, refines, reachableStore⟩ :=
    exists_store_of_reachable reachable
  obtain ⟨_, tracking⟩ := run.invariant
    (fun trace => ∃ store, Tracking roomId store trace)
    (fun _ _ _ ⟨_, tracking⟩ meets happened =>
      tracking.happen meets happened)
    ⟨store, .start roomId refines (consistent_of_reachable reachableStore)
      drained⟩
  exact tracking.tracksRoom

/-! ## A deleted bucket -/

/-- A loaded room without buckets. -/
def oneRoom : SyncpondKernel Json :=
  run (boot .none ∅) [.command (.newRoom "room")]

/-- The forwarder forwards the next notification. -/
def forwardNext : List (Happening Json) :=
  [.event .takeNotification, .event .forward]

/-- A client connects, and gets a snapshot of one fragment. -/
def connectAndSync : List (Happening Json) :=
  [.event (.connect DroppedClients.firstRoom), .event (.register 0),
    .event (.greet 0 [0]), .event .takeMessage, .event .lookUp,
    .event (.collect Reconnect.inOrder), .event .target, .event .target] ++
    forwardNext

/-- A check that is enough for `IsSequential`. -/
def checkSequential (roomId : RoomId) (trace : Trace Json) :
    Happening Json → Bool
  | .command command =>
      decide (IsLifecycle Json roomId command) &&
        decide (trace.server.notifications.items.length <
          notificationCapacity)
  | .event (.command _) => false
  | .event (.connect granted) => decide (granted.roomId = roomId)
  | .event (.register _) =>
      decide (trace.server.hub.nextConnId.toNat + 1 < UInt64.size)
  | .event event => checkFindsRoom trace event

theorem isSequential_of_check (roomId : RoomId) (trace : Trace Json)
    (happening : Happening Json)
    (checked : checkSequential roomId trace happening = true) :
    IsSequential roomId trace happening := by
  cases happening with
  | command command =>
      simp only [checkSequential, Bool.and_eq_true, decide_eq_true_eq]
        at checked
      exact ⟨checked.1, fun _ => checked.2⟩
  | event event =>
      have findsRoom := findsRoom_of_check .none trace event
      cases event with
      | command command => cases checked
      | connect granted =>
          have sameRoom : granted.roomId = roomId := of_decide_eq_true checked
          exact sameRoom
      | register position =>
          have fits : trace.server.hub.nextConnId.toNat + 1 < UInt64.size :=
            of_decide_eq_true checked
          exact fits
      | _ => exact findsRoom checked

/-- Nobody is connected, and nothing waits. -/
def isDeserted (server : Server Json) : Bool :=
  server.hub.connections.toList.isEmpty && (waiting server).isEmpty

theorem lookup_of_isDeserted {server : Server Json}
    (deserted : isDeserted server = true) (connId : ConnId) :
    server.hub.connections[connId]? = none := by
  have nobody := List.isEmpty_iff.mp (Bool.and_eq_true_iff.mp deserted).1
  cases found : server.hub.connections[connId]? with
  | none => rfl
  | some client =>
      have member := Std.ExtTreeMap.mem_toList_iff_getElem?_eq_some.mpr found
      rw [nobody] at member
      cases member

theorem not_told_of_isDeserted {trace : Trace Json}
    (deserted : isDeserted trace.server = true) (bucketId : BucketId)
    (key : String) : ¬Told trace bucketId key := by
  rintro (⟨connId, client, present, _⟩ | ⟨notification, member, _⟩)
  · cases (lookup_of_isDeserted deserted connId).symm.trans present
  · rw [List.isEmpty_iff.mp (Bool.and_eq_true_iff.mp deserted).2] at member
    cases member

theorem not_synced_of_isDeserted {server : Server Json}
    (deserted : isDeserted server = true) (bucketId : BucketId) :
    ¬Synced server bucketId := by
  rintro ⟨connId, client, present, _⟩
  cases (lookup_of_isDeserted deserted connId).symm.trans present

/-- A check that is enough for `KeepsSubscribers`. -/
def checkKeepsSubscribers (roomId : RoomId) (trace : Trace Json) :
    Happening Json → Bool
  | .command (.writeFragment _ _ _ _) =>
      match trace.server.processor with
      | .idle => true
      | _ => false
  | .command _ => isDeserted trace.server
  | .event (.collect _) =>
      trace.server.pool.shared.state.isRoomLoaded roomId
  | .event _ => true

theorem keepsSubscribers_of_check (roomId : RoomId) (trace : Trace Json)
    (happening : Happening Json)
    (checked : checkKeepsSubscribers roomId trace happening = true) :
    KeepsSubscribers roomId trace happening := by
  cases happening with
  | command command =>
      cases command with
      | writeFragment room bucketId key data =>
          intro _ connId client _ update isOwed
          obtain ⟨room, updates, isTarget, _⟩ := mem_owedTo isOwed
          simp [checkKeepsSubscribers, isTarget] at checked
      | deleteBucket room bucketId =>
          intro _ key told
          exact (not_told_of_isDeserted checked bucketId key told).elim
      | loadRoom room =>
          exact fun _ bucketId key =>
            ⟨fun told =>
              (not_told_of_isDeserted checked bucketId key told).elim,
            fun synced =>
              (not_synced_of_isDeserted checked bucketId synced).elim⟩
      | unloadRoom room =>
          exact fun _ bucketId key =>
            ⟨fun told =>
              (not_told_of_isDeserted checked bucketId key told).elim,
            fun synced =>
              (not_synced_of_isDeserted checked bucketId synced).elim⟩
      | _ => exact fun _ => trivial
  | event event =>
      cases event with
      | collect iteration =>
          intro unloaded
          cases unloaded.symm.trans checked
      | _ => trivial

/-- A room is filled, reloaded and followed by a client. -/
def followed : List (Happening Json) :=
  [.command (.newBucket 1 0 "bucket"),
    .command (.writeFragment 1 0 "key" "1".toUTF8)] ++ forwardNext ++
    [.command (.unloadRoom 1), .command (.loadRoom 1)] ++ connectAndSync ++
    [.command (.writeFragment 1 0 "key" "2".toUTF8)] ++ forwardNext

/-- The client is served at rest, its room is loaded, and it sees a value. -/
def checkServed (value : FragmentData) (final : Trace Json) : Bool :=
  checkQuiescent final.server &&
    final.server.pool.shared.state.isRoomLoaded 1 &&
    final.server.stages.all DroppedClients.inMainLoop &&
    final.server.hub.connections[(1 : ConnId)]?.any fun client =>
      decide (view final client (0, "key") = some value)

theorem subscribers_track_room_followed :
    ∃ (final : Trace Json) (client : ClientInfo),
      final.server.hub.connections[(1 : ConnId)]? = some client ∧
      view final client (0, "key") = some "2".toUTF8 ∧
      view final client =
        content final.server.pool.shared.state 1 client.buckets := by
  have ran : (followed.foldlM (fun trace happening =>
      if checkSequential 1 trace happening &&
          checkKeepsSubscribers 1 trace happening then
        happen trace happening
      else none) (.start oneRoom)).map (checkServed "2".toUTF8) =
      some true := by
    decide +kernel
  obtain ⟨final, ran, checked⟩ := Option.map_eq_some_iff.mp ran
  simp only [checkServed, Bool.and_eq_true, Option.any_eq_true,
    List.all_eq_true, decide_eq_true_eq] at checked
  obtain ⟨⟨⟨rests, loaded⟩, inLoop⟩, client, registered, seen⟩ := checked
  refine ⟨final, client, registered, seen,
    subscribers_track_room 1 ⟨_, rfl⟩
      (List.eq_nil_of_length_eq_zero (by decide +kernel))
      (follows_of_checked (fun trace happening checked => ?_) ran)
      (quiescent_of_check rests) loaded 1 client registered ?_⟩
  · obtain ⟨sequential, keeps⟩ := Bool.and_eq_true_iff.mp checked
    exact ⟨isSequential_of_check 1 trace happening sequential,
      keepsSubscribers_of_check 1 trace happening keeps⟩
  · intro isGreeting
    cases inLoop _ (List.mem_of_getElem? isGreeting)

/-- A client follows a bucket that is deleted. -/
def followedAndDeleted : List (Happening Json) :=
  [.command (.newBucket 1 0 "bucket"),
    .command (.writeFragment 1 0 "key" "1".toUTF8)] ++ forwardNext ++
    connectAndSync ++ [.command (.deleteBucket 1 0)]

/-- A client keeps the fragment of a bucket that was deleted. -/
theorem deletedBucket_stays :
    ¬∀ kernel : SyncpondKernel Json, Kernel.Reachable kernel →
      kernel.notifications.items = [] →
      ∀ final, Follows happen (IsSequential 1) (.start kernel) final →
        TracksRoom 1 final := by
  intro claimed
  have ran : (followedAndDeleted.foldlM (fun trace happening =>
      if checkSequential 1 trace happening then happen trace happening
      else none) (.start oneRoom)).map (fun final =>
        (checkServed "1".toUTF8 final,
          readable final.server.pool.shared.state 1 0 "key")) =
      some (true, none) := by
    decide +kernel
  obtain ⟨final, ran, checked⟩ := Option.map_eq_some_iff.mp ran
  obtain ⟨served, unreadable⟩ := Prod.mk.inj checked
  simp only [checkServed, Bool.and_eq_true, Option.any_eq_true,
    List.all_eq_true, decide_eq_true_eq] at served
  obtain ⟨⟨⟨rests, loaded⟩, inLoop⟩, client, registered, seen⟩ := served
  have tracks := claimed oneRoom ⟨_, rfl⟩
    (List.eq_nil_of_length_eq_zero (by decide +kernel)) final
    (follows_of_checked (isSequential_of_check 1) ran)
    (quiescent_of_check rests) loaded 1 client registered
    (fun isGreeting => by
      cases inLoop _ (List.mem_of_getElem? isGreeting))
  rw [tracks] at seen
  simp only [content, unreadable, ite_self] at seen
  cases seen

end Syncpond.Subscribers
