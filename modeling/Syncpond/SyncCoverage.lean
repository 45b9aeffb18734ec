import Syncpond.Reconnect
import Syncpond.SerialWrites
import Syncpond.SilentGaps

/-!
# Coverage of a connecting client

A client is registered before its initial sync is collected, so a write that
commits in between is caught by the announcement, the snapshot, or both.  Once
the channels are drained, each fragment that is live in an allowed bucket was
enqueued with its current value and version.
-/

namespace Syncpond.SyncCoverage

open Syncpond.Protocol
open Syncpond.Serde
open Syncpond.State
open Syncpond.Persistence
open Syncpond.Kernel
open Syncpond.Hub
open Syncpond.Tasks
open Syncpond.Registration
open Syncpond.Delivery
open Syncpond.Reads
open Syncpond.WriteProgress
open Syncpond.Transit
open Syncpond.InitialSyncs
open Syncpond.SerialWrites
open Syncpond.Library.Maps
open Syncpond.Library.Channels
open Syncpond.Library.Programs
open Syncpond.Library.Runs

variable {Value : Type} [SerdeJson Value]

/-- Commands are serial writes to the room, and what they send finds room. -/
def SerialAndRoomy (faults : Faults) (roomId : RoomId)
    (trace : Trace Value) (event : ServerEvent Value) : Prop :=
  Serially roomId trace event ∧ FindsRoom faults trace event

/-! ## Caught fragments -/

/-- The write in progress stored the fragment, and is to announce it. -/
def Owed (current : Option Active) (bucketId : BucketId) (key : String)
    (entry : FragmentEntry Value) : Prop :=
  ∃ active ∈ current, active.write.bucketId = bucketId ∧
    active.write.key = key ∧ active.write.parsed Value = entry.value ∧
    (active.progress = .persisting (some entry.keyVersion) ∨
      active.progress =
        .announcing (some entry.keyVersion) entry.keyVersion)

/-- The update that sets a fragment as it is stored. -/
def entryUpdate (bucketId : BucketId) (key : String)
    (entry : FragmentEntry Value) : DataUpdate Value :=
  ⟨bucketId, key, some entry.value, entry.keyVersion⟩

/-- The fragment as it is stored gets to the client. -/
inductive Caught (trace : Trace Value) (current : Option Active)
    (connId : ConnId) (client : ClientInfo) (bucketId : BucketId)
    (key : String) (entry : FragmentEntry Value) : Prop
  | owed (owed : Owed current bucketId key entry)
  | announced (frame : Frame) (flies : InFlight trace connId client frame)
      (content : frame.content = updateEvent (entryUpdate bucketId key entry))
  | collected (underWay : UnderWay trace connId client
      ⟨bucketId, key, entry.value, entry.keyVersion⟩)

section Caught

variable {faults : Faults} {roomId : RoomId} {trace after : Trace Value}
variable {current later : Option Active} {event : ServerEvent Value}
variable {connId : ConnId} {client : ClientInfo} {bucketId : BucketId}
variable {key : String} {entry : FragmentEntry Value}

/-- What was stored before is still on its way, or announced now. -/
theorem Caught.step (serial : Serial faults roomId trace current)
    (moved : SerialStep faults roomId trace current event after later)
    (passed : Passage faults trace event after)
    (findsRoom : FindsRoom faults trace event)
    (version : ∀ active ∈ current, ∀ version,
      active.progress = .persisting (some version) →
      trace.server.pool.shared.readVersion roomId = version)
    (sameRoom : client.roomId = roomId) (allowed : bucketId ∈ client.buckets)
    (caught : Caught trace current connId client bucketId key entry)
    (present : trace.server.hub.connections[connId]? = some client)
    (stays : after.server.hub.connections[connId]? = some client) :
    Caught after later connId client bucketId key entry := by
  have coherent := serial.coherent
  cases caught with
  | announced frame flies content =>
      exact .announced frame
        (flies.passage coherent.roster coherent.tracked passed stays) content
  | collected underWay =>
      exact .collected
        (underWay.passage coherent passed findsRoom present stays)
  | owed owed =>
  obtain ⟨active, isCurrent, rfl, rfl, value, progress⟩ := owed
  obtain ⟨isAt, isRoom⟩ := serial.isAt active isCurrent
  cases moved with
  | start write _ idle =>
      have returned := idle active isCurrent
      rw [returned] at progress
      rcases progress with absurd | absurd <;> cases absurd
  | rest _ state =>
      exact .owed ⟨active, isCurrent, rfl, rfl, value, progress⟩
  | advance other pool next isOther advances =>
      cases isCurrent.symm.trans isOther
      rcases progress with isPersisting | isAnnouncing
      · rw [isPersisting] at advances
        have stored := version active isCurrent _ isPersisting
        generalize pool.shared = kernel at advances
        cases advances with
        | persist =>
            exact .owed ⟨_, rfl, rfl, rfl, value, Or.inl rfl⟩
        | readVersion =>
            refine .owed ⟨_, rfl, rfl, rfl, value, Or.inr ?_⟩
            rw [isRoom, stored]
      · rw [isAnnouncing] at advances isAt
        have room := findsRoom active.write _ _ isAt
          ⟨connId, client, present, sameRoom.trans isRoom.symm, allowed⟩
        generalize shared : pool.shared = kernel at advances
        cases advances with
        | announce =>
            refine .announced _ (.of_broadcast shared room connId allowed) ?_
            change updateEvent (active.write.update Value _) = _
            rw [entryUpdate, ← value]
            rfl

/-- What a write in progress has stored since the step is owed. -/
theorem stored_step
    (moved : SerialStep faults roomId trace current event after later)
    (sameRoom : ∀ active ∈ current, active.write.roomId = roomId)
    (stored : storedEntry after.server.pool.shared.state roomId bucketId key =
      some entry) :
    storedEntry trace.server.pool.shared.state roomId bucketId key =
        some entry ∨
      Owed later bucketId key entry := by
  cases moved with
  | start => exact Or.inl stored
  | rest _ state => exact Or.inl (state ▸ stored)
  | advance active pool next isCurrent advances =>
      have isRoom := sameRoom active isCurrent
      obtain ⟨task, write, progress⟩ := active
      dsimp only at isRoom advances stored ⊢
      generalize pool.shared = kernel at advances stored
      cases advances with
      | commit assigned _ committed =>
          rw [isRoom] at committed
          rcases storedEntry_commitWrite committed bucketId key with
            same | ⟨version, rfl, rfl, rfl, new⟩
          · exact Or.inl (same ▸ stored)
          · cases new.symm.trans stored
            exact Or.inr ⟨_, rfl, rfl, rfl, rfl, Or.inl rfl⟩
      | persist _ _ state => exact Or.inl (state ▸ stored)
      | _ => exact Or.inl stored

end Caught

/-! ## Runs -/

/--
Every live fragment that a registered client is allowed is caught, unless the
initial sync of the client is still ahead.
-/
structure Covering (faults : Faults) (roomId : RoomId) (trace : Trace Value)
    (current : Option Active) : Prop where
  serial : Serial faults roomId trace current
  version : ∀ active ∈ current, ∀ version,
    active.progress = .persisting (some version) →
    trace.server.pool.shared.readVersion roomId = version
  covered : ∀ (connId : ConnId) (client : ClientInfo),
    trace.server.hub.connections[connId]? = some client →
    client.roomId = roomId →
    SyncAhead trace.server connId client ∨
      ∀ bucketId ∈ client.buckets, ∀ (key : String)
        (entry : FragmentEntry Value),
        storedEntry trace.server.pool.shared.state roomId bucketId key =
          some entry →
        SerdeJson.isNull entry.value = false →
        Caught trace current connId client bucketId key entry

namespace Covering

variable {faults : Faults} {roomId : RoomId} {trace after : Trace Value}
variable {current later : Option Active} {event : ServerEvent Value}

theorem start (faults : Faults) (roomId : RoomId)
    (kernel : SyncpondKernel Value) :
    Covering faults roomId (.start kernel) none where
  serial := .start faults roomId kernel
  version := by simp
  covered := by simp [Trace.start, Server.start, WsHub.new]

/-- The room keeps the version of a write until the write read it. -/
theorem version_step (covering : Covering faults roomId trace current)
    (moved : SerialStep faults roomId trace current event after later) :
    ∀ active ∈ later, ∀ version,
      active.progress = .persisting (some version) →
      after.server.pool.shared.readVersion roomId = version := by
  intro active isLater version isPersisting
  cases moved with
  | start =>
      cases isLater
      cases isPersisting
  | rest _ state =>
      rw [SyncpondKernel.readVersion, state]
      exact covering.version active isLater version isPersisting
  | advance active pool next isCurrent advances =>
      cases isLater
      have sameRoom := (covering.serial.isAt active isCurrent).2
      have before := covering.version active isCurrent version
      obtain ⟨task, write, progress⟩ := active
      cases isPersisting
      dsimp only at sameRoom before advances ⊢
      generalize pool.shared = kernel at advances
      cases advances with
      | commit _ _ committed =>
          rw [sameRoom] at committed
          exact readVersion_commitWrite committed
      | persist _ _ state =>
          rw [SyncpondKernel.readVersion, state]
          exact before rfl

/-- A step keeps every live fragment caught. -/
theorem step (covering : Covering faults roomId trace current)
    (meets : SerialAndRoomy faults roomId trace event)
    (stepped : trace.step faults event = some after) :
    ∃ later, Covering faults roomId after later := by
  have serial := covering.serial
  have coherent := serial.coherent
  have passed := coherent.passage stepped
  obtain ⟨later, moved, serialAfter⟩ := serial.step meets.1 stepped
  refine ⟨later, serialAfter, covering.version_step moved, ?_⟩
  intro connId client stays sameRoom
  rcases (hubStep_of_step stepped).before stays with
    present | ⟨_, _, _, _, isGreeting⟩
  · rcases covering.covered connId client present sameRoom with
      ahead | caught
    · rcases ahead.passage coherent.roster passed meets.2 present with
        stillAhead | ⟨iteration, requestedBuckets, perm, rfl⟩
      · exact Or.inl stillAhead
      · -- The snapshot is taken now.
        right
        intro bucketId allowed key entry stored live
        obtain ⟨room, isRoom, found⟩ := Option.bind_eq_some_iff.mp stored
        refine .collected (Or.inl ⟨_, rfl, mem_collectUpdates_iff.mpr
          ⟨?_, room, sameRoom.symm ▸ isRoom, found, live⟩⟩)
        exact perm.mem_iff.mpr (Std.ExtTreeSet.mem_toList.mpr allowed)
    · right
      intro bucketId allowed key entry stored live
      rcases stored_step moved (fun active isCurrent =>
        (serial.isAt active isCurrent).2) stored with before | owed
      · exact (caught bucketId allowed key entry before live).step serial
          moved passed meets.2 covering.version sameRoom allowed present stays
      · exact .owed owed
  · exact Or.inl (.greeting isGreeting)

end Covering

/-- At rest what was caught was enqueued. -/
theorem Caught.enqueued {faults : Faults} {roomId : RoomId}
    {trace : Trace Value} {current : Option Active} {connId : ConnId}
    {client : ClientInfo} {bucketId : BucketId} {key : String}
    {entry : FragmentEntry Value}
    (serial : Serial faults roomId trace current)
    (caught : Caught trace current connId client bucketId key entry)
    (quiescent : Quiescent trace.server) :
    ∃ frame ∈ trace.enqueued client.sender,
      frame.content = updateEvent (entryUpdate bucketId key entry) := by
  cases caught with
  | owed owed =>
      obtain ⟨active, isCurrent, _, _, _, progress⟩ := owed
      have returned :=
        serial.returned_of_quiescent quiescent active isCurrent
      rw [returned] at progress
      rcases progress with absurd | absurd <;> cases absurd
  | announced frame flies content =>
      exact ⟨frame, flies.enqueued quiescent, content⟩
  | collected underWay => exact ⟨_, underWay.enqueued quiescent, rfl⟩

/--
In a run with serial writes to one room in which nothing that is sent for a
registered client overflows: once the writes returned and the channels are
drained, a client of the room that greeted the kernel was enqueued each live
fragment of its buckets with the current value and version.
-/
theorem connection_misses_nothing (faults : Faults) (roomId : RoomId)
    (kernel : SyncpondKernel Value) {final : Trace Value}
    (run : Follows (Trace.step faults) (SerialAndRoomy faults roomId)
      (.start kernel) final)
    (quiescent : Quiescent final.server) {connId : ConnId}
    {client : ClientInfo}
    (registered : final.server.hub.connections[connId]? = some client)
    (sameRoom : client.roomId = roomId)
    (greeted : final.server.stages[client.sender]? ≠
      some (.greeting connId))
    {bucketId : BucketId} (allowed : bucketId ∈ client.buckets)
    {key : String} {entry : FragmentEntry Value}
    (stored : storedEntry final.server.pool.shared.state roomId bucketId
      key = some entry)
    (live : SerdeJson.isNull entry.value = false) :
    ∃ frame ∈ final.enqueued client.sender,
      frame.content = updateEvent ⟨bucketId, key, some entry.value,
        entry.keyVersion⟩ := by
  obtain ⟨current, covering⟩ := run.invariant
    (fun trace => ∃ current, Covering faults roomId trace current)
    (fun _ _ _ ⟨_, covering⟩ meets stepped => covering.step meets stepped)
    ⟨none, .start faults roomId kernel⟩
  rcases covering.covered connId client registered sameRoom with
    ahead | caught
  · exact (ahead.not_quiescent quiescent greeted).elim
  · exact (caught bucketId allowed key entry stored live).enqueued
      covering.serial quiescent

/-! ## A write between registration and snapshot -/

/-- The write commits before the snapshot and is announced after it. -/
def writeWhileConnecting : List (ServerEvent Json) :=
  [.connect DroppedClients.firstRoom, .register 0,
    .command (.writeFragment 1 0 "key" "2".toUTF8), .advance 0,
    .advance 0, .greet 0 [0], .takeMessage, .lookUp,
    .collect Reconnect.inOrder, .target, .target] ++
    List.replicate 5 (.advance 0) ++
    [.takeNotification, .forward, .takeNotification, .forward]

/-- The client is served at rest, and its fragment has version 1. -/
def checkWritten (final : Trace Json) : Bool :=
  checkQuiescent final.server &&
    final.server.stages.all DroppedClients.inMainLoop &&
    final.server.hub.connections[(1 : ConnId)]?.any (fun client =>
      decide (client.roomId = 1) && client.buckets.contains 0) &&
    (storedEntry final.server.pool.shared.state 1 0 "key").any fun entry =>
      !SerdeJson.isNull entry.value && decide (entry.keyVersion = 1)

theorem connection_misses_nothing_whileConnecting :
    ∃ (final : Trace Json) (client : ClientInfo)
      (entry : FragmentEntry Json),
      final.server.hub.connections[(1 : ConnId)]? = some client ∧
      storedEntry final.server.pool.shared.state 1 0 "key" = some entry ∧
      entry.keyVersion = 1 ∧
      ∃ frame ∈ final.enqueued client.sender,
        frame.content = updateEvent ⟨0, "key", some entry.value,
          entry.keyVersion⟩ := by
  have ran : (writeWhileConnecting.foldlM (fun trace event =>
      if checkSerially 1 trace event && checkFindsRoom trace event then
        trace.step .none event
      else none) (.start SilentGaps.restarted)).map checkWritten =
      some true := by
    decide +kernel
  obtain ⟨final, ran, checked⟩ := Option.map_eq_some_iff.mp ran
  simp only [checkWritten, Bool.and_eq_true, Option.any_eq_true,
    List.all_eq_true, decide_eq_true_eq, Bool.not_eq_true'] at checked
  obtain ⟨⟨⟨rests, inLoop⟩, client, registered, sameRoom, allowed⟩, entry,
    stored, live, version⟩ := checked
  refine ⟨final, client, entry, registered, stored, version,
    connection_misses_nothing .none 1 SilentGaps.restarted
      (follows_of_checked (fun trace event checked => ?_) ran)
      (quiescent_of_check rests) registered sameRoom ?_ allowed stored live⟩
  · obtain ⟨serially, findsRoom⟩ := Bool.and_eq_true_iff.mp checked
    exact ⟨serially_of_check serially, findsRoom_of_check _ _ _ findsRoom⟩
  · intro isGreeting
    cases inLoop _ (List.mem_of_getElem? isGreeting)

end Syncpond.SyncCoverage
