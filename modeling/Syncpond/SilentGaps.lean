import Syncpond.DroppedClients
import Syncpond.InitialSyncs
import Syncpond.Reconnect

/-!
# Silent gaps

A client that is still registered once everything is drained should have been
sent every update that was committed for it while it was registered, and its
whole initial sync.  The hub sees to it for its own queues: it removes a client
whose queue does not take a frame.  The kernel does not: an announcement, a
fragment of an initial sync or a greeting that does not fit into its channel is
dropped, and the client stays.

When everything that is sent for a registered client finds room in the channel,
there is no silent gap.
-/

namespace Syncpond.SilentGaps

open Syncpond.Protocol
open Syncpond.Serde
open Syncpond.Persistence
open Syncpond.Kernel
open Syncpond.Hub
open Syncpond.Tasks
open Syncpond.Registration
open Syncpond.Delivery
open Syncpond.WriteProgress
open Syncpond.Transit
open Syncpond.InitialSyncs
open Syncpond.Library.Maps
open Syncpond.Library.Channels
open Syncpond.Library.Programs
open Syncpond.Library.Runs

variable {Value : Type} [SerdeJson Value]

/-! ## What a client should have been sent -/

/-- The next section of a task commits a write to memory under a version. -/
structure Commits (faults : Faults) (trace : Trace Value) (task : Nat)
    (write : WriteArgs) (version : UInt64) : Prop where
  isCommand : trace.commands[task]? = some write.command
  isProgram :
    trace.server.pool.tasks[task]? = some (write.fromCommit faults)
  committed : (trace.server.pool.shared.commitWrite write.roomId
    write.bucketId write.key (write.parsed Value)).1 = some version

/-- The frame that announces a write. -/
def writeFrame (Value : Type) [SerdeJson Value] (write : WriteArgs)
    (version roomCounter : UInt64) : Frame :=
  .of ⟨write.roomId, some version, write.update Value roomCounter⟩

/--
A registered client was sent every update that was committed for its buckets
since it registered, and its whole initial sync.
-/
structure NoSilentGap (faults : Faults)
    (condition : Trace Value → ServerEvent Value → Prop)
    (start final : Trace Value) (connId : ConnId) (client : ClientInfo) :
    Prop where
  updates : ∀ (before after : Trace Value) (task : Nat) (write : WriteArgs)
    (version : UInt64),
    Follows (Trace.step faults) condition start before →
    before.server.hub.connections[connId]? = some client →
    Commits faults before task write version →
    write.roomId = client.roomId → write.bucketId ∈ client.buckets →
    before.step faults (.advance task) = some after →
    Follows (Trace.step faults) condition after final →
    ∃ roomCounter, writeFrame Value write version roomCounter ∈
      final.enqueued client.sender
  initialSync : final.server.stages[client.sender]? ≠
      some (.greeting connId) →
    ∃ sync ∈ final.collected, sync.connId = connId ∧
      sync.roomId = client.roomId ∧
      sync.requestedBuckets.Perm client.buckets.toList ∧
      ∀ update ∈ sync.updates, ∃ frame ∈ final.enqueued client.sender,
        frame.content = updateEvent update.dataUpdate

/-! ## Committed writes -/

/-- A committed write is still to be announced, or its frame is on its way. -/
def Announced (faults : Faults) (trace : Trace Value) (connId : ConnId)
    (client : ClientInfo) (task : Nat) (write : WriteArgs)
    (version : UInt64) : Prop :=
  IsAt faults trace task write (.persisting (some version)) ∨
    ∃ roomCounter,
      IsAt faults trace task write
        (.announcing (some version) roomCounter) ∨
      InFlight trace connId client
        (writeFrame Value write version roomCounter)

section Announced

variable {faults : Faults} {trace after : Trace Value}
variable {event : ServerEvent Value} {connId : ConnId} {client : ClientInfo}
variable {task : Nat} {write : WriteArgs} {version : UInt64}

/-- A committed write gets to the clients of its bucket. -/
theorem Announced.passage (coherent : Coherent faults trace)
    (passed : Passage faults trace event after)
    (findsRoom : FindsRoom faults trace event)
    (sameRoom : client.roomId = write.roomId)
    (allowed : write.bucketId ∈ client.buckets)
    (announced :
      Announced faults trace connId client task write version)
    (present : trace.server.hub.connections[connId]? = some client)
    (stays : after.server.hub.connections[connId]? = some client) :
    Announced faults after connId client task write version := by
  rcases announced with isAt | ⟨roomCounter, isAt | flies⟩
  · rcases isAt.passage passed with
      same | ⟨pool, later, _, _, isNext, advances⟩
    · exact Or.inl same
    · generalize pool.shared = shared at advances
      cases advances with
      | persist => exact Or.inl isNext
      | readVersion => exact Or.inr ⟨_, Or.inl isNext⟩
  · rcases isAt.passage passed with
      same | ⟨pool, later, isEvent, rfl, _, advances⟩
    · exact Or.inr ⟨roomCounter, Or.inl same⟩
    · subst isEvent
      have room := findsRoom write _ roomCounter isAt
        ⟨connId, client, present, sameRoom, allowed⟩
      generalize shared : pool.shared = kernel at advances
      cases advances with
      | announce =>
          exact Or.inr ⟨roomCounter, Or.inr
            (.of_broadcast shared room connId allowed)⟩
  · exact Or.inr ⟨roomCounter, Or.inr
      (flies.passage coherent.roster coherent.tracked passed stays)⟩

/-- At rest a committed write was enqueued. -/
theorem Announced.enqueued
    (announced : Announced faults trace connId client task write version)
    (quiescent : Quiescent trace.server) :
    ∃ roomCounter, writeFrame Value write version roomCounter ∈
      trace.enqueued client.sender := by
  rcases announced with isAt | ⟨roomCounter, isAt | flies⟩
  · cases isAt.returned quiescent
  · cases isAt.returned quiescent
  · exact ⟨roomCounter, flies.enqueued quiescent⟩

/-- A write that commits is still to be announced. -/
theorem Commits.announced
    (commits : Commits faults trace task write version)
    {pool : Pool (SyncpondKernel Value) CommandResponse}
    (advanced : trace.server.pool.advance task = some pool) :
    Announced faults
      { trace with server := { trace.server with pool := pool } }
      connId client task write version := by
  have isAt : IsAt faults trace task write .committing :=
    ⟨commits.isCommand, _, commits.isProgram, rfl⟩
  obtain ⟨later, isNext, advances⟩ := isAt.advance advanced
  generalize pool.shared = shared at advances
  cases advances with
  | commit assigned _ committed =>
      have equal := commits.committed
      rw [committed] at equal
      cases equal
      exact Or.inl isNext

end Announced

/-! ## Initial syncs -/

/-- The initial sync of a client is ahead, or all its fragments are under way. -/
def Synced (trace : Trace Value) (connId : ConnId) (client : ClientInfo) :
    Prop :=
  SyncAhead trace.server connId client ∨
    ∃ sync ∈ trace.collected, sync.connId = connId ∧
      sync.roomId = client.roomId ∧
      sync.requestedBuckets.Perm client.buckets.toList ∧
      ∀ update ∈ sync.updates, UnderWay trace connId client update

/-- What was collected stays known. -/
theorem collected_subset {faults : Faults} {trace after : Trace Value}
    {event : ServerEvent Value}
    (passed : Passage faults trace event after) :
    ∀ sync ∈ trace.collected, sync ∈ after.collected := by
  intro sync member
  cases passed with
  | aside _ aside => exact aside.collected ▸ member
  | collect _ _ _ _ _ => exact List.mem_append_left _ member
  | _ => exact member

theorem Synced.passage {faults : Faults} {trace after : Trace Value}
    {event : ServerEvent Value} {connId : ConnId} {client : ClientInfo}
    (coherent : Coherent faults trace)
    (passed : Passage faults trace event after)
    (findsRoom : FindsRoom faults trace event)
    (synced : Synced trace connId client)
    (present : trace.server.hub.connections[connId]? = some client)
    (stays : after.server.hub.connections[connId]? = some client) :
    Synced after connId client := by
  rcases synced with ahead | ⟨sync, isSync, sameId, sameRoom, perm, all⟩
  · rcases ahead.passage coherent.roster passed findsRoom present with
      stillAhead | ⟨iteration, requestedBuckets, perm, rfl⟩
    · exact Or.inl stillAhead
    · refine Or.inr ⟨_, List.mem_append_right _ (List.mem_singleton.mpr rfl),
        rfl, rfl, perm, ?_⟩
      exact fun update member => Or.inl ⟨_, rfl, member⟩
  · exact Or.inr ⟨sync, collected_subset passed sync isSync, sameId, sameRoom,
      perm, fun update member =>
        (all update member).passage coherent passed findsRoom present stays⟩

/-! ## Runs -/

/-- Every registered client is on the way to its initial sync. -/
structure AllSynced (faults : Faults) (trace : Trace Value) : Prop where
  coherent : Coherent faults trace
  synced : ∀ (connId : ConnId) (client : ClientInfo),
    trace.server.hub.connections[connId]? = some client →
    Synced trace connId client

theorem AllSynced.step {faults : Faults} {trace after : Trace Value}
    {event : ServerEvent Value} (allSynced : AllSynced faults trace)
    (findsRoom : FindsRoom faults trace event)
    (stepped : trace.step faults event = some after) :
    AllSynced faults after := by
  have coherent := allSynced.coherent
  refine ⟨coherent.step stepped, fun connId client stays => ?_⟩
  rcases (hubStep_of_step stepped).before stays with
    present | ⟨_, _, _, _, isGreeting⟩
  · exact (allSynced.synced connId client present).passage coherent
      (coherent.passage stepped) findsRoom present stays
  · exact Or.inl (.greeting isGreeting)

/-- The update of a write is on its way to a client as long as it is there. -/
structure Expected (faults : Faults) (connId : ConnId) (client : ClientInfo)
    (task : Nat) (write : WriteArgs) (version : UInt64)
    (trace : Trace Value) : Prop where
  coherent : Coherent faults trace
  past : Past trace.server client.sender
  announced : trace.server.hub.connections[connId]? = some client →
    Announced faults trace connId client task write version

variable {faults : Faults} {trace after : Trace Value}
variable {event : ServerEvent Value} {connId : ConnId} {client : ClientInfo}
variable {task : Nat} {write : WriteArgs} {version : UInt64}

theorem Expected.step
    (sameRoom : client.roomId = write.roomId)
    (allowed : write.bucketId ∈ client.buckets)
    (expected : Expected faults connId client task write version trace)
    (findsRoom : FindsRoom faults trace event)
    (stepped : trace.step faults event = some after) :
    Expected faults connId client task write version after := by
  have coherent := expected.coherent
  refine ⟨coherent.step stepped,
    expected.past.stageStep (stageStep_of_step stepped), fun stays => ?_⟩
  have present := expected.past.before (hubStep_of_step stepped) stays
  exact (expected.announced present).passage coherent
    (coherent.passage stepped) findsRoom sameRoom allowed present stays

/--
When everything that is sent for a registered client finds room in its channel,
a client that is registered once the server is at rest was sent every update
that was committed for it since it registered, and its whole initial sync.
-/
theorem no_silent_gap (faults : Faults) (kernel : SyncpondKernel Value)
    {final : Trace Value}
    (run : Follows (Trace.step faults) (FindsRoom faults) (.start kernel)
      final)
    (quiescent : Quiescent final.server) {connId : ConnId}
    {client : ClientInfo}
    (registered : final.server.hub.connections[connId]? = some client) :
    NoSilentGap faults (FindsRoom faults) (.start kernel) final connId
      client where
  updates := by
    intro before after task write version front present commits sameRoom
      allowed stepped back
    have coherent := front.invariant (Coherent faults)
      (fun _ _ _ coherent _ stepped => coherent.step stepped)
      (.start faults kernel)
    have past := (coherent.roster.enrolled connId client present).past
    have expected : Expected faults connId client task write version
        after := by
      refine ⟨coherent.step stepped,
        past.stageStep (stageStep_of_step stepped), fun _ => ?_⟩
      obtain ⟨server, served, rfl⟩ := Option.map_eq_some_iff.mp stepped
      obtain ⟨pool, advanced, rfl⟩ := Option.map_eq_some_iff.mp served
      rw [Trace.observe_eq rfl rfl rfl]
      exact commits.announced advanced
    have arrives := back.invariant _
      (fun _ _ _ expected findsRoom stepped =>
        expected.step sameRoom.symm allowed findsRoom stepped) expected
    exact (arrives.announced registered).enqueued quiescent
  initialSync := by
    intro greeted
    have allSynced := run.invariant (AllSynced faults)
      (fun _ _ _ allSynced findsRoom stepped =>
        allSynced.step findsRoom stepped)
      ⟨.start faults kernel, by simp [Trace.start, Server.start, WsHub.new]⟩
    rcases allSynced.synced connId client registered with
      ahead | ⟨sync, isSync, sameId, sameRoom, perm, all⟩
    · exact (ahead.not_quiescent quiescent greeted).elim
    · exact ⟨sync, isSync, sameId, sameRoom, perm,
        fun update member =>
          ⟨_, (all update member).enqueued quiescent, rfl⟩⟩

/-! ## A full channel -/

/-- Room 1 with a fragment in bucket 0, loaded after a restart. -/
def restarted : SyncpondKernel Json :=
  run (boot .none ∅)
    [.command (.newRoom "room"), .command (.newBucket 1 0 "bucket"),
      .command (.writeFragment 1 0 "key" "1".toUTF8), .restart,
      .command (.loadRoom 1)]

/-- A client gets its initial sync and an update that follows. -/
def syncAndUpdate : List (ServerEvent Json) :=
  [.connect DroppedClients.firstRoom, .register 0, .greet 0 [0],
    .takeMessage, .lookUp, .collect Reconnect.inOrder, .target, .target,
    .takeNotification, .forward,
    .command (.writeFragment 1 0 "other" "2".toUTF8)] ++
    List.replicate 7 (.advance 0) ++ [.takeNotification, .forward]

theorem no_silent_gap_syncAndUpdate :
    ∃ final : Trace Json,
      (final.enqueued 0).map (fun frame =>
        (frame.content.key, frame.content.bucketCounter)) =
          [("key", 0), ("other", 1)] ∧
      ∃ client, final.server.hub.connections[(1 : ConnId)]? = some client ∧
        NoSilentGap .none (FindsRoom .none) (.start restarted) final 1
          client := by
  have ran : (syncAndUpdate.foldlM (fun trace event =>
      if checkFindsRoom trace event then trace.step .none event
      else none) (.start restarted)).map (fun final =>
        ((final.enqueued 0).map (fun frame =>
          (frame.content.key, frame.content.bucketCounter)),
          checkQuiescent final.server,
          final.server.hub.connections[(1 : ConnId)]?.isSome)) =
      some ([("key", 0), ("other", 1)], true, true) := by
    decide +kernel
  obtain ⟨final, ran, seen⟩ := Option.map_eq_some_iff.mp ran
  obtain ⟨frames, seen⟩ := Prod.mk.inj seen
  obtain ⟨rests, present⟩ := Prod.mk.inj seen
  obtain ⟨client, registered⟩ := Option.isSome_iff_exists.mp present
  exact ⟨final, frames, client, registered,
    no_silent_gap .none restarted
      (follows_of_checked (findsRoom_of_check .none) ran)
      (quiescent_of_check rests) registered⟩

/-! ### A fragment that does not fit -/

/-- A write to bucket 7, for which no client is registered. -/
def unheard : Reconnect.Write := ⟨1, 7, "key", "1".toUTF8⟩

/-- The room after some unheard writes that no one forwarded. -/
def backlog (writes : Nat) : SyncpondKernel Json :=
  Reconnect.writeAll restarted (List.replicate writes unheard)

/-- All notifications in the channel are broadcasts of bucket 7. -/
def AllUnheard (notifications : Notifications Json) : Prop :=
  ∀ notification ∈ notifications.items,
    ∃ update, notification.content = .broadcast update ∧ update.bucketId = 7

theorem backlog_succ (writes : Nat) :
    backlog (writes + 1) = apply .none (backlog writes) unheard.event := by
  simp [backlog, Reconnect.writeAll, run, List.replicate_succ']

/-- Unheard writes leave the fragment of bucket 0 alone. -/
theorem lastPayload_unheard (writes : Nat) :
    Reconnect.lastPayload (List.replicate writes unheard) 1 0 "key" =
      none := by
  induction writes with
  | zero => rfl
  | succ writes ih =>
      rw [List.replicate_succ', Reconnect.lastPayload_append, ih]
      rfl

/-- Room 1 takes writes, and has its fragment of bucket 0. -/
theorem ready_backlog (writes : Nat) :
    (∃ room, Reconnect.Ready (backlog writes).state 1 room) ∧
      collectUpdates Reconnect.inOrder (backlog writes).state 1 [0] ≠ [] := by
  obtain ⟨first, ready⟩ : ∃ room, Reconnect.Ready restarted.state 1 room :=
    Reconnect.exists_ready ⟨_, rfl⟩ (by decide +kernel)
  obtain ⟨room, readyRoom, fragments⟩ :=
    Reconnect.ready_writes ready (List.replicate writes unheard)
  have live := fragments 0 "key"
  have stored :
      (Reads.memoryFragment restarted.state 1 0 "key").isSome = true := by
    decide +kernel
  obtain ⟨value, isStored⟩ := Option.isSome_iff_exists.mp stored
  rw [lastPayload_unheard, isStored] at live
  obtain ⟨version, member⟩ :=
    Views.exists_mem_of_memoryFragment Reconnect.inOrder
      (List.mem_singleton.mpr rfl) live
  exact ⟨⟨room, readyRoom⟩, List.ne_nil_of_mem member⟩

/-- Each unheard write fills one place of the channel. -/
theorem notifications_backlog {writes : Nat}
    (fits : writes ≤ notificationCapacity) :
    (backlog writes).notifications.items.length = writes ∧
      AllUnheard (backlog writes).notifications := by
  induction writes with
  | zero =>
      have length : (backlog 0).notifications.items.length = 0 := by
        decide +kernel
      have items := List.eq_nil_of_length_eq_zero length
      exact ⟨length, by simp [AllUnheard, items]⟩
  | succ writes ih =>
      obtain ⟨length, unheardBefore⟩ := ih (Nat.le_of_succ_le fits)
      obtain ⟨⟨room, ready⟩, _⟩ := ready_backlog writes
      obtain ⟨assigned, roomCounter, added⟩ :=
        notifications_run_writeFragment .none 7 "key" "1".toUTF8
          (State.isRoomLoaded_iff.mpr ⟨room, ready.present, ready.loaded⟩)
      have fitsIn : (backlog writes).notifications.items.length <
          notificationCapacity :=
        length.symm ▸ fits
      rw [backlog_succ]
      change ((handleWriteFragment .none 1 7 "key" "1".toUTF8).run
        (backlog writes)).2.notifications.items.length = _ ∧
        AllUnheard ((handleWriteFragment .none 1 7 "key" "1".toUTF8).run
          (backlog writes)).2.notifications
      rw [AllUnheard, added, Channel.items_sendOrDrop_of_lt fitsIn]
      refine ⟨by simp [length], fun notification member => ?_⟩
      rcases List.mem_append.mp member with before | new
      · exact unheardBefore notification before
      · cases List.mem_singleton.mp new
        exact ⟨_, rfl, rfl⟩

/-- A notification without addressees can be taken and forwarded. -/
theorem forwarded {trace : Trace Value} (faults : Faults)
    (isFree : trace.server.lock = none)
    (isIdle : trace.server.forwarder = none)
    {notification : Sourced (UpdateChannelMessage Value)}
    {rest : Notifications Value}
    (items : trace.server.notifications.items = notification :: rest.items)
    (noOne : trace.server.hub.addressees notification.content = []) :
    Follows (Trace.step faults) (fun _ _ => True) trace
      { trace with server := trace.server.withNotifications rest } := by
  obtain ⟨⟨pool, hub, lock, messages, processor, forwarder, grants, stages⟩,
    commands, transmitted, collected⟩ := trace
  cases isFree
  cases isIdle
  have isFirst := Channel.recv_eq_some_iff.mpr items
  have unchanged : hub.forward notification = hub := by
    rw [WsHub.forward_eq_sendEach, noOne]
    rfl
  have taken : Trace.step faults
      ⟨⟨pool, hub, none, messages, processor, none, grants, stages⟩, commands,
        transmitted, collected⟩ .takeNotification =
      some ⟨{ Server.withNotifications
          ⟨pool, hub, none, messages, processor, none, grants, stages⟩ rest
            with forwarder := some notification },
        commands, transmitted, collected⟩ := by
    rw [Trace.step, Server.step, Server.takeNotification, isFirst]
    simp [Trace.observe, startedBy, transmittedBy, collectedBy]
  refine .next (.next .start trivial taken) trivial
    (?_ : Trace.step faults _ .forward = _)
  simp [Trace.step, Server.step, Server.forward, Server.withNotifications,
    unchanged, Trace.observe, startedBy, transmittedBy, collectedBy]

/-- Notifications without addressees can be drained. -/
theorem drained {trace : Trace Value} (faults : Faults)
    (isFree : trace.server.lock = none)
    (isIdle : trace.server.forwarder = none)
    (noOne : ∀ notification ∈ trace.server.notifications.items,
      trace.server.hub.addressees notification.content = []) :
    Follows (Trace.step faults) (fun _ _ => True) trace
      { trace with
        server := trace.server.withNotifications .empty } := by
  obtain ⟨items, isItems⟩ : ∃ items,
    trace.server.notifications.items = items := ⟨_, rfl⟩
  induction items generalizing trace with
  | nil =>
      have same : trace.server.withNotifications .empty = trace.server := by
        have empty : trace.server.notifications = .empty :=
          Channel.ext isItems
        rw [← empty]
        rfl
      rw [same]
      exact .start
  | cons notification rest ih =>
      have bounded : rest.length ≤ notificationCapacity := by
        have length := trace.server.notifications.bounded
        rw [isItems] at length
        exact Nat.le_of_succ_le length
      have noLater : ∀ other ∈ rest,
          trace.server.hub.addressees other.content = [] := by
        intro other member
        exact noOne other (isItems ▸ List.mem_cons_of_mem _ member)
      have first : Follows (Trace.step faults) (fun _ _ => True) trace
          { trace with
            server := trace.server.withNotifications ⟨rest, bounded⟩ } :=
        forwarded faults isFree isIdle isItems
          (noOne notification (by simp [isItems]))
      exact first.trans (ih isFree isIdle noLater rfl)

/-- The hub after a client of room 1 registered as its first one. -/
def firstClient : WsHub :=
  ((WsHub.new.openQueue.allocateConnectionId.2.addClient 1 1
    DroppedClients.firstRoom.allowedBuckets 0).toOption).getD .new

theorem recipients_firstClient : firstClient.recipients 7 = [] :=
  List.eq_nil_of_length_eq_zero (by decide +kernel)

/-- The trace after the fragments of that client were collected. -/
def syncing (kernel : SyncpondKernel Json) (processor : Processor Json) :
    Trace Json where
  server := { Server.start kernel with
    hub := firstClient
    processor := processor
    grants := [DroppedClients.firstRoom]
    stages := [.serving 1] }
  commands := []
  transmitted := []
  collected :=
    [⟨1, 1, [0], collectUpdates Reconnect.inOrder kernel.state 1 [0]⟩]

theorem follows_syncing (kernel : SyncpondKernel Json) :
    Follows (Trace.step .none) (fun _ _ => True) (.start kernel)
      (syncing kernel (.target 1 1
        (collectUpdates Reconnect.inOrder kernel.state 1 [0]))) := by
  have ran : ([.connect DroppedClients.firstRoom, .register 0,
      .greet 0 [0], .takeMessage, .lookUp,
      .collect Reconnect.inOrder] : List (ServerEvent Json)).foldlM
        (Trace.step .none) (.start kernel) = some (syncing kernel _) :=
    rfl
  exact follows_of_foldlM ran

/-- A full channel ends the initial sync. -/
theorem step_target_full {kernel : SyncpondKernel Json}
    (isFull : notificationCapacity ≤ kernel.notifications.items.length)
    {updates : List (SyncUpdate Json)} :
    Trace.step .none (syncing kernel (.target 1 1 updates)) .target =
      some (syncing kernel .idle) := by
  cases updates with
  | nil => rfl
  | cons update rest =>
      have dropped (message : Sourced (UpdateChannelMessage Json)) :
          kernel.notifications.trySend message = none :=
        Channel.trySend_eq_none_iff.mpr isFull
      simp [Trace.step, Server.step, Server.target, syncing, Server.start,
        Server.notifications, dropped, Trace.observe, startedBy,
        transmittedBy, collectedBy]

/-- A channel can be full of unheard updates. -/
theorem exists_full :
    ∃ kernel : SyncpondKernel Json, Kernel.Reachable kernel ∧
      notificationCapacity ≤ kernel.notifications.items.length ∧
      AllUnheard kernel.notifications ∧
      collectUpdates Reconnect.inOrder kernel.state 1 [0] ≠ [] := by
  obtain ⟨length, unheardAll⟩ :=
    notifications_backlog (Nat.le_refl notificationCapacity)
  refine ⟨backlog notificationCapacity, ?_, length.ge, unheardAll,
    (ready_backlog notificationCapacity).2⟩
  exact ⟨[.command (.newRoom "room"), .command (.newBucket 1 0 "bucket"),
    .command (.writeFragment 1 0 "key" "1".toUTF8), .restart,
    .command (.loadRoom 1)] ++
    (List.replicate notificationCapacity unheard).map Reconnect.Write.event,
    by rw [run, List.foldl_append]; rfl⟩

/--
A client connects while the channel is full: its initial sync ends before the
first fragment, and once the channel is drained the client is still registered
and was sent nothing.
-/
theorem fullChannel_leaves_gap :
    ¬∀ kernel : SyncpondKernel Json, Kernel.Reachable kernel →
      ∀ final,
        Follows (Trace.step .none) (fun _ _ => True) (.start kernel) final →
        Quiescent final.server →
        ∀ (connId : ConnId) (client : ClientInfo),
          final.server.hub.connections[connId]? = some client →
          NoSilentGap .none (fun _ _ => True) (.start kernel) final connId
            client := by
  intro claimed
  obtain ⟨kernel, reachable, isFull, unheardAll, live⟩ := exists_full
  have run := ((follows_syncing kernel).next trivial
    (step_target_full isFull)).trans
    (drained .none rfl rfl fun notification member => by
      obtain ⟨update, content, bucket⟩ := unheardAll notification member
      rw [content, WsHub.addressees, bucket]
      exact recipients_firstClient)
  have gap := claimed kernel reachable _ run
    ⟨by simp [syncing, Server.start, Server.withNotifications], rfl, rfl,
      rfl, rfl⟩
    1 ⟨1, DroppedClients.firstRoom.allowedBuckets, 0⟩ rfl
  obtain ⟨sync, isSync, _, _, _, all⟩ :=
    gap.initialSync (by simp [syncing, Server.withNotifications])
  cases List.mem_singleton.mp isSync
  obtain ⟨update, member⟩ := List.exists_mem_of_ne_nil _ live
  obtain ⟨frame, sent, _⟩ := all update member
  cases sent

end Syncpond.SilentGaps
