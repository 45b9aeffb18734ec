import Syncpond.ReservedBucket
import Syncpond.SequentialRuns
import Syncpond.WrittenContent

/-!
# Clients get what they were granted and what was written

A frame reaches a queue in two ways: a broadcast goes to the clients that the
index lists for its bucket, and the initial sync sends fragments of the buckets
that a connection announced.  Neither way checks the grant again.  As long as
connection ids are not given twice, every frame that is ever enqueued to a
connection is of a bucket that its handshake granted, and carries the value of
a write that was issued for the room, bucket and key that it names.
-/

namespace Syncpond.GrantedFrames

open Syncpond.Protocol
open Syncpond.Serde
open Syncpond.State
open Syncpond.Persistence
open Syncpond.Kernel
open Syncpond.Hub
open Syncpond.HubIndex
open Syncpond.HubDelivery
open Syncpond.Tasks
open Syncpond.Sections
open Syncpond.Registration
open Syncpond.Delivery
open Syncpond.Transit
open Syncpond.InitialSyncs (hubStep_of_step stageStep_of_step)
open Syncpond.SyncOrder
open Syncpond.SequentialRuns
open Syncpond.RoomIsolation
open Syncpond.Provenance
open Syncpond.Lifetimes
open Syncpond.WrittenContent
open Syncpond.ReservedBucket (bucketId_mem_of_collectUpdates)
open Syncpond.Library.Maps
open Syncpond.Library.Channels
open Syncpond.Library.Programs
open Syncpond.Library.Runs

variable {Value : Type}

/-! ## Grants on the way of a frame -/

/-- The id was given, and whoever is registered under it was granted the bucket. -/
def Entitled (hub : WsHub) (connId : ConnId) (bucketId : BucketId) : Prop :=
  connId < hub.nextConnId ∧
    ∀ client : ClientInfo, hub.connections[connId]? = some client →
      bucketId ∈ client.buckets

/-- What the processor will send goes to a client that was granted it. -/
def ProcessorEntitled (hub : WsHub) : Processor Value → Prop
  | .idle => True
  | .lookup connId requestedBuckets =>
      ∀ bucketId ∈ requestedBuckets, Entitled hub connId bucketId
  | .collect connId _ requestedBuckets =>
      ∀ bucketId ∈ requestedBuckets, Entitled hub connId bucketId
  | .target connId _ updates =>
      ∀ update ∈ updates, Entitled hub connId update.bucketId

/-- A notification to one client goes to one that was granted its bucket. -/
def NotificationEntitled (hub : WsHub)
    (notification : Sourced (UpdateChannelMessage Value)) : Prop :=
  ∀ connId msg, notification.content = .targeted connId msg →
    Entitled hub connId msg.bucketId

section Later

variable {before after : WsHub} (isLater : Later before after)

include isLater

/-- A connection stays entitled to what its token granted. -/
theorem Entitled.later {connId : ConnId} {bucketId : BucketId}
    (entitled : Entitled before connId bucketId) :
    Entitled after connId bucketId :=
  ⟨UInt64.lt_of_lt_of_le entitled.1 isLater.nextConnId,
    fun client present => entitled.2 client
      (isLater.connections connId client entitled.1 present)⟩

theorem ProcessorEntitled.later {processor : Processor Value}
    (entitled : ProcessorEntitled before processor) :
    ProcessorEntitled after processor := by
  cases processor with
  | idle => trivial
  | lookup connId requestedBuckets =>
      exact fun bucketId member => (entitled bucketId member).later isLater
  | collect connId roomId requestedBuckets =>
      exact fun bucketId member => (entitled bucketId member).later isLater
  | target connId roomId updates =>
      exact fun update member => (entitled update member).later isLater

theorem NotificationEntitled.later
    {notification : Sourced (UpdateChannelMessage Value)}
    (entitled : NotificationEntitled before notification) :
    NotificationEntitled after notification :=
  fun connId msg isTargeted => (entitled connId msg isTargeted).later isLater

end Later

variable [SerdeJson Value]

/-! ## What frames carry -/

variable (Value) in
/-- A frame carries what a command wrote to the fragment that it names. -/
def Truthful (issued : Commands → Prop) (frame : Frame) : Prop :=
  ∃ value : Value, Wrote issued frame.origin frame.content.bucketId
      frame.content.key value ∧
    SerdeJson.value.toVec value = .ok frame.content.value ∧
    frame.content.deleted = false

/-- What the processor will send was written to the room. -/
def ProcessorTruthful (issued : Commands → Prop) : Processor Value → Prop
  | .target _ roomId updates => ∀ update ∈ updates,
      Wrote issued roomId update.bucketId update.key update.value
  | _ => True

section Frames

variable {issued : Commands → Prop}

/-- The frame of a written notification carries what was written. -/
theorem truthful_frameOf {notification : Sourced (UpdateChannelMessage Value)}
    (written : InNotification issued notification) :
    Truthful Value issued (frameOf notification) := by
  obtain ⟨value, isValue, wrote⟩ := written
  obtain ⟨bytes, serialized, _⟩ := SerdeJson.value.roundTrip value
  refine ⟨value, wrote, ?_, ?_⟩
  · simp [frameOf, Frame.of, updateEvent, isValue, serialized, Except.toOption]
  · simp [frameOf, Frame.of, updateEvent, isValue]

/-- The initial sync collects what was written to the room. -/
theorem wrote_of_collectUpdates {kernel : SyncpondKernel Value}
    (accounted : Accounted issued kernel) {iteration : Iteration Value}
    {roomId : RoomId} {requestedBuckets : List BucketId}
    {update : SyncUpdate Value}
    (member : update ∈
      collectUpdates iteration kernel.state roomId requestedBuckets) :
    Wrote issued roomId update.bucketId update.key update.value := by
  unfold collectUpdates at member
  split at member
  · cases member
  · next room isRoom =>
    obtain ⟨bucketId, _, member⟩ := List.mem_flatMap.mp member
    split at member
    · cases member
    · next bucket isBucket =>
      obtain ⟨⟨key, entry⟩, isEntry, isUpdate⟩ := List.mem_filterMap.mp member
      unfold syncEntry at isUpdate
      split at isUpdate
      · cases isUpdate
      · cases isUpdate
        apply (accounted.rooms roomId room isRoom).fragments bucketId key entry
        rw [getNested, isBucket]
        exact Std.ExtTreeMap.mem_toList_iff_getElem?_eq_some.mp
          ((iteration.complete bucket).mem_iff.mp isEntry)

end Frames

/-! ## The invariant -/

/--
The commands are issued, and a registration finds an id that was not given
before.
-/
def Regular (issued : Commands → Prop) (trace : Trace Value) :
    ServerEvent Value → Prop
  | .command command => issued command
  | .register _ => trace.server.hub.nextConnId.toNat + 1 < UInt64.size
  | _ => True

/-- Everything on its way to a client was granted and written. -/
structure Rightful (issued : Commands → Prop) (trace : Trace Value) :
    Prop where
  roster : Roster trace.server
  indexed : Indexed trace.server.hub
  ids : ∀ (connId : ConnId) (client : ClientInfo),
    trace.server.hub.connections[connId]? = some client →
    connId < trace.server.hub.nextConnId
  tasks : ∀ (position : Nat) (connId : ConnId),
    GoesBy trace.server position connId → ∃ granted,
      trace.server.grants[position]? = some granted ∧
        ∀ bucketId ∈ granted.allowedBuckets,
          Entitled trace.server.hub connId bucketId
  announced : ∀ (connId : ConnId) (requestedBuckets : List BucketId),
    Carries trace.server (.clientConnected connId requestedBuckets) →
    ∀ bucketId ∈ requestedBuckets, Entitled trace.server.hub connId bucketId
  processor : ProcessorEntitled trace.server.hub trace.server.processor ∧
    ProcessorTruthful issued trace.server.processor
  notifications : ∀ notification ∈ waiting trace.server,
    NotificationEntitled trace.server.hub notification ∧
      InNotification issued notification
  commands : Announcing trace.server.pool
  pool : trace.server.pool.Maintains (Accounted issued) fun _ _ => True
  frames : ∀ (position : Nat) (frame : Frame),
    frame ∈ trace.enqueued position →
    (∃ granted, trace.server.grants[position]? = some granted ∧
      frame.content.bucketId ∈ granted.allowedBuckets) ∧
      Truthful Value issued frame

/-- A server that starts has enqueued nothing. -/
theorem rightful_start {issued : Commands → Prop}
    {kernel : SyncpondKernel Value} (accounted : Accounted issued kernel)
    (drained : kernel.notifications.items = []) :
    Rightful issued (.start kernel) where
  roster := .start kernel
  indexed := .new
  ids := by simp [Trace.start, Server.start, WsHub.new]
  tasks := by simp [Trace.start, Server.start, GoesBy]
  announced := by
    simp [Trace.start, Server.start, Carries, Channel.empty]
  processor := ⟨trivial, trivial⟩
  notifications := by
    simp [Trace.start, Server.start, waiting, Server.notifications, drained]
  commands := by simp [Trace.start, Server.start, Announcing]
  pool := .start accounted
  frames := by
    simp [Trace.start, Trace.enqueued, Server.start, pending, WsHub.new]

namespace Rightful

variable {issued : Commands → Prop} {faults : Faults}
variable {trace after : Trace Value} {event : ServerEvent Value}
variable (rightful : Rightful issued trace)
variable (regular : Regular issued trace event)
variable (stepped : trace.step faults event = some after)

include stepped regular in
/-- Ids are only given to new clients. -/
theorem later : Later trace.server.hub after.server.hub := by
  obtain ⟨server, served, rfl⟩ := Option.map_eq_some_iff.mp stepped
  refine later_of_step ?_ served
  cases event with
  | register position => exact regular
  | _ => trivial

include stepped in
/-- What a connection was granted stays. -/
theorem grants_after {position : Nat} {granted : Grant}
    (isGranted : trace.server.grants[position]? = some granted) :
    after.server.grants[position]? = some granted := by
  obtain ⟨added, equal⟩ := (hubStep_of_step stepped).grants_grow
  rw [← equal, List.getElem?_append_left, isGranted]
  exact (List.getElem?_eq_some_iff.mp isGranted).1

include rightful

theorem unused : trace.server.hub.connections[trace.server.hub.nextConnId]? =
    none := by
  by_contra present
  obtain ⟨client, isClient⟩ := Option.ne_none_iff_exists'.mp present
  exact UInt64.lt_irrefl _ (rightful.ids _ client isClient)

include stepped

/-- The hub stays indexed. -/
theorem indexed_after : Indexed after.server.hub := by
  cases hubStep_of_step stepped with
  | keep connections buckets _ =>
      exact rightful.indexed.congr connections buckets
  | register position granted _ _ _ added _ _ =>
      have allocated : Indexed trace.server.hub.allocateConnectionId.2 :=
        rightful.indexed.congr rfl rfl
      exact allocated.addClient rightful.unused added
  | remove position connId _ _ hub _ =>
      exact hub ▸ rightful.indexed.removeClient connId
  | forward notification _ _ hub _ =>
      rw [hub, WsHub.forward_eq_sendEach]
      exact rightful.indexed.sendEach _ _

include regular

theorem ids_after (connId : ConnId) (client : ClientInfo)
    (present : after.server.hub.connections[connId]? = some client) :
    connId < after.server.hub.nextConnId := by
  have later := later regular stepped
  obtain ⟨server, served, rfl⟩ := Option.map_eq_some_iff.mp stepped
  rcases (hubStep served).before present with
    before | ⟨position, isEvent, isNext, _⟩
  · exact UInt64.lt_of_lt_of_le (rightful.ids connId client before)
      later.nextConnId
  · subst isEvent isNext
    rcases (idStep served).next with ⟨notRegister, _⟩ | ⟨_, _, next⟩
    · exact absurd rfl (notRegister position)
    · rw [show (trace.observe (.register position) server).server.hub.nextConnId =
        _ from next]
      exact lt_saturatingSucc regular

/-- Every connection goes by the grant of its own token. -/
theorem tasks_after {position : Nat} {connId : ConnId}
    (goes : GoesBy after.server position connId) :
    ∃ granted, after.server.grants[position]? = some granted ∧
      ∀ bucketId ∈ granted.allowedBuckets,
        Entitled after.server.hub connId bucketId := by
  rcases goes.before rightful.roster.guarded (stageStep_of_step stepped) with
    ⟨before, _⟩ | ⟨_, _, client, present, rfl⟩
  · obtain ⟨granted, isGranted, entitled⟩ :=
      rightful.tasks position connId before
    exact ⟨granted, grants_after stepped isGranted, fun bucketId member =>
      (entitled bucketId member).later (later regular stepped)⟩
  · have given := ids_after rightful regular stepped connId client present
    obtain ⟨server, served, rfl⟩ := Option.map_eq_some_iff.mp stepped
    refine ⟨⟨client.roomId, client.buckets⟩,
      (rightful.roster.step served).granted connId client present, ?_⟩
    intro bucketId member
    refine ⟨given, fun other isOther => ?_⟩
    cases present.symm.trans isOther
    exact member

/-- What a connection announces is within its grant. -/
theorem announced_after {connId : ConnId} {requestedBuckets : List BucketId}
    (carries : Carries after.server
      (.clientConnected connId requestedBuckets))
    {bucketId : BucketId} (member : bucketId ∈ requestedBuckets) :
    Entitled after.server.hub connId bucketId := by
  have isLater := later regular stepped
  obtain ⟨server, served, rfl⟩ := Option.map_eq_some_iff.mp stepped
  rcases (idStep served).carried connId requestedBuckets carries with
    before | ⟨position, granted, _, isGreeting, isGranted, perm⟩
  · exact (rightful.announced connId requestedBuckets before bucketId
      member).later isLater
  · obtain ⟨other, isOther, entitled⟩ :=
      rightful.tasks position connId (Or.inl ⟨_, isGreeting, rfl⟩)
    cases isGranted.symm.trans isOther
    exact (entitled bucketId
      (Std.ExtTreeSet.mem_toList.mp (perm.mem_iff.mp member))).later isLater

theorem processor_after :
    ProcessorEntitled after.server.hub after.server.processor ∧
      ProcessorTruthful issued after.server.processor := by
  have isLater := later regular stepped
  have same (processor : after.server.processor = trace.server.processor) :
      ProcessorEntitled after.server.hub after.server.processor ∧
        ProcessorTruthful issued after.server.processor :=
    processor ▸ ⟨rightful.processor.1.later isLater, rightful.processor.2⟩
  cases passage rightful.roster.guarded stepped with
  | aside _ aside => exact same aside.processor
  | greet position connId granted requestedBuckets _ _ _ =>
      exact same (by simp [Server.enter])
  | takeMessage message rest isIdle items =>
      cases message with
      | clientConnected connId requestedBuckets =>
          refine ⟨?_, trivial⟩
          intro bucketId member
          exact (rightful.announced connId requestedBuckets
            (Or.inl (items ▸ List.mem_cons_self)) bucketId member)
      | clientDisconnected connId => exact ⟨trivial, trivial⟩
      | wsMessage roomId payload => exact ⟨trivial, trivial⟩
  | lookUp connId requestedBuckets client isLookup present =>
      have entitled := rightful.processor.1
      rw [isLookup] at entitled
      exact ⟨entitled, trivial⟩
  | collect iteration connId roomId requestedBuckets isCollect =>
      have entitled := rightful.processor.1
      rw [isCollect] at entitled
      constructor
      · intro update member
        exact entitled update.bucketId (bucketId_mem_of_collectUpdates member)
      · intro update member
        exact wrote_of_collectUpdates rightful.pool.shared member
  | target connId roomId update rest sent isTarget items =>
      obtain ⟨entitled, wrote⟩ := rightful.processor
      rw [isTarget] at entitled wrote
      exact ⟨fun other member => entitled other (List.mem_cons_of_mem _ member),
        fun other member => wrote other (List.mem_cons_of_mem _ member)⟩
  | lookUpFailed => exact ⟨trivial, trivial⟩
  | targetEnded => exact ⟨trivial, trivial⟩
  | _ => exact same rfl

theorem pool_after :
    after.server.pool.Maintains (Accounted issued) fun _ _ => True := by
  have maintains := rightful.pool
  have accounted := maintains.shared
  cases passage rightful.roster.guarded stepped with
  | aside _ aside => exact aside.pool ▸ maintains
  | command command =>
      apply maintains.spawn _ fun _ _ => rfl
      exact (keeps_handleCommand faults regular).mono fun _ _ => trivial
  | advance task pool advanced => exact maintains.advance advanced
  | greet position connId granted requestedBuckets _ _ _ =>
      change (trace.server.trySend _).pool.Maintains _ _
      rw [pool_trySend]
      exact maintains
  | target connId roomId update rest sent isTarget items =>
      apply maintains.withShared
      refine ⟨accounted.rooms, accounted.labels, accounted.storage, ?_⟩
      intro notification member
      change notification ∈ sent.items at member
      rw [items] at member
      rcases List.mem_append.mp member with before | new
      · exact accounted.notifications notification before
      · have wrote := rightful.processor.2
        rw [isTarget] at wrote
        rw [List.mem_singleton.mp new]
        exact ⟨update.value, rfl, wrote update List.mem_cons_self⟩
  | takeNotification notification rest isFree items =>
      apply maintains.withShared
      refine ⟨accounted.rooms, accounted.labels, accounted.storage, ?_⟩
      intro other member
      apply accounted.notifications other
      change trace.server.pool.shared.notifications.items = _ at items
      rw [items]
      exact List.mem_cons_of_mem _ member
  | _ => exact maintains

theorem commands_after : Announcing after.server.pool := by
  have commands := rightful.commands
  cases passage rightful.roster.guarded stepped with
  | aside _ aside => exact aside.pool ▸ commands
  | command command => exact commands.spawn faults command
  | advance task pool advanced => exact (commands.advance advanced).1
  | greet position connId granted requestedBuckets _ _ _ =>
      change Announcing (trace.server.trySend _).pool
      rw [pool_trySend]
      exact commands
  | _ => exact commands

/-- What waits for the forwarder is granted to its receiver, and was written. -/
theorem notifications_after (notification : Sourced (UpdateChannelMessage Value))
    (member : notification ∈ waiting after.server) :
    NotificationEntitled after.server.hub notification ∧
      InNotification issued notification := by
  have isLater := later regular stepped
  have maintains := pool_after rightful regular stepped
  have before (waited : notification ∈ waiting trace.server) :
      NotificationEntitled after.server.hub notification ∧
        InNotification issued notification :=
    (rightful.notifications notification waited).imp_left
      fun entitled => entitled.later isLater
  cases passage rightful.roster.guarded stepped with
  | aside _ aside =>
      apply before
      rw [waiting, aside.forwarder, Server.notifications, aside.pool] at member
      exact member
  | advance task pool advanced =>
      rcases List.mem_append.mp member with taken | new
      · exact before (List.mem_append_left _ taken)
      · rcases (rightful.commands.advance advanced).2 notification new with
          older | ⟨update, isBroadcast⟩
        · exact before (List.mem_append_right _ older)
        · refine ⟨?_, maintains.shared.notifications notification new⟩
          intro connId msg isTargeted
          cases isBroadcast.symm.trans isTargeted
  | greet position connId granted requestedBuckets _ _ _ =>
      apply before
      simpa [waiting, Server.enter, Server.notifications] using member
  | target connId roomId update rest sent isTarget items =>
      rcases List.mem_append.mp member with taken | new
      · exact before (List.mem_append_left _ taken)
      · change notification ∈ sent.items at new
        refine ⟨?_, maintains.shared.notifications notification new⟩
        rw [items] at new
        rcases List.mem_append.mp new with older | last
        · exact (before (List.mem_append_right _ older)).1
        · have entitled := rightful.processor.1
          rw [isTarget] at entitled
          rw [List.mem_singleton.mp last]
          rintro target msg ⟨⟩
          exact (entitled update List.mem_cons_self).later isLater
  | takeNotification taken rest isFree items =>
      apply before
      rw [waiting, isFree, items]
      exact member
  | forward taken isTaken =>
      apply before
      rw [waiting, isTaken]
      exact List.mem_cons_of_mem _ member
  | _ => exact before member

omit regular in
/-- What is enqueued is granted to its connection, and was written. -/
theorem frames_after (position : Nat) (frame : Frame)
    (member : frame ∈ after.enqueued position) :
    (∃ granted, after.server.grants[position]? = some granted ∧
      frame.content.bucketId ∈ granted.allowedBuckets) ∧
      Truthful Value issued frame := by
  have before (enqueued : frame ∈ trace.enqueued position) :
      (∃ granted, after.server.grants[position]? = some granted ∧
        frame.content.bucketId ∈ granted.allowedBuckets) ∧
        Truthful Value issued frame := by
    obtain ⟨⟨granted, isGranted, allowed⟩, truthful⟩ :=
      rightful.frames position frame enqueued
    exact ⟨⟨granted, grants_after stepped isGranted, allowed⟩, truthful⟩
  cases passage rightful.roster.guarded stepped with
  | aside _ aside => exact before (aside.enqueued position ▸ member)
  | greet other connId granted requestedBuckets _ _ _ =>
      apply before
      simpa [Trace.enqueued, Server.enter] using member
  | forward notification isTaken =>
      rcases List.mem_append.mp member with transmitted | queued
      · exact before (List.mem_append_left _ transmitted)
      · by_cases reached : ∃ connId,
            Addresses notification trace.server.hub connId ∧
              trace.server.hub.Reaches connId position
        · obtain ⟨connId, addressed, reaches⟩ := reached
          rw [pending_forward_of_reaches notification rightful.roster.ownQueues
            addressed reaches] at queued
          rcases List.mem_append.mp queued with older | new
          · exact before (List.mem_append_right _ older)
          · obtain ⟨client, present, rfl, _⟩ := reaches
            obtain ⟨entitled, written⟩ := rightful.notifications notification (by
              rw [waiting, isTaken]
              exact List.mem_cons_self)
            rw [List.mem_singleton.mp new]
            refine ⟨⟨_, rightful.roster.granted connId client present, ?_⟩,
              truthful_frameOf written⟩
            have isFor := isFor_of_addresses rightful.indexed addressed present
            change notification.content.update.bucketId ∈ client.buckets
            cases content : notification.content with
            | broadcast update =>
                rw [IsFor, content] at isFor
                exact isFor
            | targeted target msg =>
                rw [IsFor, content] at isFor
                subst isFor
                exact (entitled target msg content).2 client present
        · rw [pending_forward_of_not_reaches notification fun connId addressed
            reaches => reached ⟨connId, addressed, reaches⟩] at queued
          exact before (List.mem_append_right _ queued)
  | _ => exact before member

/-- Every event keeps what is on its way rightful. -/
theorem step : Rightful issued after where
  roster := by
    obtain ⟨server, served, rfl⟩ := Option.map_eq_some_iff.mp stepped
    exact rightful.roster.step served
  indexed := indexed_after rightful stepped
  ids := ids_after rightful regular stepped
  tasks _ _ := tasks_after rightful regular stepped
  announced _ _ carries _ := announced_after rightful regular stepped carries
  processor := processor_after rightful regular stepped
  notifications := notifications_after rightful regular stepped
  commands := commands_after rightful regular stepped
  pool := pool_after rightful regular stepped
  frames := frames_after rightful stepped

end Rightful

/--
In every run of a server over the data directory that earlier processes left,
every frame that is ever enqueued to a connection is of a bucket that the
connection was granted, and carries what an issued command wrote.
-/
theorem frames_granted_and_written {issued : Commands → Prop}
    {faults : Faults} {life : Lifetime Value} {trace : Trace Value}
    (earlier : Follows Lifetime.step (fun _ => Issues issued) .start life)
    (bootFaults : Faults)
    (follows : Follows (Trace.step faults) (Regular issued)
      (.start (boot bootFaults life.kernel.persistence.dirs)) trace) :
    ∀ (position : Nat) (frame : Frame), frame ∈ trace.enqueued position →
      (∃ granted, trace.server.grants[position]? = some granted ∧
        frame.content.bucketId ∈ granted.allowedBuckets) ∧
        Truthful Value issued frame := by
  have start := rightful_start (accounted_reboot earlier bootFaults) rfl
  exact (follows.invariant (Rightful issued)
    (fun _ _ _ rightful regular stepped => rightful.step regular stepped)
    start).frames

/-! ### A reader of one bucket -/

def readsOneBucket : Grant :=
  ⟨1, allowedBuckets serverOnlyBucketId ⟨some 1, some [5]⟩⟩

/-- Both buckets of a room are written, one of them before the initial sync. -/
def writeBesideReader : List (ServerEvent Json) :=
  .command (.newRoom "room") :: List.replicate 3 (.advance 0) ++
  .command (.writeFragment 1 5 "key" "1".toUTF8) ::
    List.replicate 7 (.advance 1) ++
  [.takeNotification, .forward,
    .connect readsOneBucket, .register 0, .greet 0 [0, 5],
    .takeMessage, .lookUp, .collect Reconnect.inOrder,
    .target, .takeNotification, .forward] ++
  .command (.writeFragment 1 6 "key" "2".toUTF8) ::
    List.replicate 7 (.advance 2) ++
  .command (.writeFragment 1 5 "key" "3".toUTF8) ::
    List.replicate 7 (.advance 3) ++
  [.drain 0, .takeNotification, .forward, .takeNotification, .forward]

def isIssued : Commands → Bool
  | .newRoom _ => true
  | .writeFragment roomId bucketId key data =>
      roomId = 1 && key = "key" &&
        (bucketId = 5 && (data = "1".toUTF8 || data = "3".toUTF8) ||
          bucketId = 6 && data = "2".toUTF8)
  | _ => false

def checkRegular (trace : Trace Json) : ServerEvent Json → Bool
  | .command command => isIssued command
  | .register _ =>
      decide (trace.server.hub.nextConnId.toNat + 1 < UInt64.size)
  | _ => true

theorem regular_of_check (trace : Trace Json) (event : ServerEvent Json)
    (checked : checkRegular trace event = true) :
    Regular (fun command => isIssued command = true) trace event := by
  cases event with
  | command command => exact checked
  | register position =>
      exact of_decide_eq_true
        (p := trace.server.hub.nextConnId.toNat + 1 < UInt64.size) checked
  | _ => trivial

theorem frames_granted_and_written_besideReader :
    ∃ trace : Trace Json,
      (trace.enqueued 0).map (fun frame => frame.content.bucketId) = [5, 5] ∧
      ∀ frame ∈ trace.enqueued 0,
        (∃ granted, trace.server.grants[0]? = some granted ∧
          frame.content.bucketId ∈ granted.allowedBuckets) ∧
        Truthful Json (fun command => isIssued command = true) frame := by
  have ran : (writeBesideReader.foldlM (fun trace event =>
      if checkRegular trace event then Trace.step .none trace event else none)
      (.start (boot .none ∅))).map (fun trace =>
        (trace.enqueued 0).map fun frame => frame.content.bucketId) =
      some [5, 5] := by
    decide +kernel
  obtain ⟨trace, ran, buckets⟩ := Option.map_eq_some_iff.mp ran
  have earlier : Follows Lifetime.step
      (fun _ => Issues fun command => isIssued command = true)
      (.start : Lifetime Json) .start := .start
  have empty : (Lifetime.start : Lifetime Json).kernel.persistence.dirs = ∅ :=
    rfl
  exact ⟨trace, buckets, frames_granted_and_written earlier .none
    (empty ▸ follows_of_checked regular_of_check ran) 0⟩

end Syncpond.GrantedFrames
