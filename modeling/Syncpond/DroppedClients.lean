import Syncpond.Library.Runs
import Syncpond.Registration

/-!
# Clients that the hub drops

A connection task keeps a sender to its own queue until it ends, and gives a
clone of it to the hub.  When the hub drops the client, the clone goes, and the
sender of the task stays; so the queue is never seen closed by the task that
waits on it, and the connection stays open without being sent anything.

A client in its main loop is disconnected exactly when the hub did not drop it
in the first place.
-/

namespace Syncpond.DroppedClients

open Syncpond.Protocol
open Syncpond.Serde
open Syncpond.State (serverOnlyBucketId)
open Syncpond.Persistence
open Syncpond.Kernel
open Syncpond.Hub
open Syncpond.HubIndex
open Syncpond.HubDelivery
open Syncpond.Tasks
open Syncpond.Registration
open Syncpond.Library.Maps
open Syncpond.Library.Runs

variable {Value : Type}

/-! ## Senders -/

/-- The stages of the main loop of a connection. -/
def inMainLoop : Stage → Bool
  | .serving _ => true
  | .commanding _ _ => true
  | .sending => true
  | _ => false

/-- A connection that goes by an id is in its main loop. -/
def InMainLoop (server : Server Value) (position : Nat) (connId : ConnId) :
    Prop :=
  GoesBy server position connId ∧
    ∃ stage, server.stages[position]? = some stage ∧
      inMainLoop stage = true

/-- The sender that the task of a connection keeps until it ends. -/
def ownSenders (server : Server Value) (position : Nat) : Nat :=
  match server.stages[position]? with
  | none => 0
  | some .closed => 0
  | some _ => 1

/-- The senders to a queue in the map of the hub. -/
def hubSenders (hub : WsHub) (position : Nat) : Nat :=
  (hub.connections.toList.filter fun entry =>
    entry.2.sender = position).length

/-- The senders of the queue of a connection that are alive. -/
def liveSenders (server : Server Value) (position : Nat) : Nat :=
  ownSenders server position + hubSenders server.hub position

/-- A connection in its main loop that the hub dropped sees its queue closed. -/
def Disconnects (server : Server Value) : Prop :=
  ∀ position connId, InMainLoop server position connId →
    server.hub.connections[connId]? = none → liveSenders server position = 0

/-- The task of a connection keeps its sender throughout the main loop. -/
theorem ownSenders_eq_one {server : Server Value} {position : Nat}
    {connId : ConnId} (loops : InMainLoop server position connId) :
    ownSenders server position = 1 := by
  obtain ⟨_, stage, isStage, inLoop⟩ := loops
  rw [ownSenders, isStage]
  cases stage with
  | closed => cases inLoop
  | _ => rfl

/-- So no connection in its main loop sees its queue closed. -/
theorem disconnects_iff {server : Server Value} :
    Disconnects server ↔
      ∀ position connId, InMainLoop server position connId →
        server.hub.connections[connId]? ≠ none := by
  refine forall₃_congr fun position connId loops => ?_
  have alive : liveSenders server position ≠ 0 := by
    rw [liveSenders, ownSenders_eq_one loops]
    omega
  simp [alive]

/-! ## Runs without drops -/

/--
A connection registers under an id that no other one uses, and a client whose
queue does not take a frame is leaving anyway.
-/
def KeepsClients [SerdeJson Value] (server : Server Value) :
    ServerEvent Value → Prop
  | .register _ =>
      ∀ position, ¬GoesBy server position server.hub.nextConnId
  | .forward =>
      ∀ notification, server.forwarder = some notification →
        ∀ (connId : ConnId) (client : ClientInfo),
          server.hub.connections[connId]? = some client →
          Addresses notification server.hub connId →
          server.hub.Takes client.sender ∨
            server.stages[client.sender]? = some (.leaving connId)
  | _ => True

/-- Every id is used by one task, and registered unless the task is leaving. -/
structure Attended (server : Server Value) : Prop where
  roster : Roster server
  unique : ∀ position other connId, GoesBy server position connId →
    GoesBy server other connId → position = other
  registered : ∀ position connId, GoesBy server position connId →
    server.stages[position]? = some (.leaving connId) ∨
      ∃ client, server.hub.connections[connId]? = some client ∧
        client.sender = position

namespace Attended

theorem start (kernel : SyncpondKernel Value) :
    Attended (.start kernel) where
  roster := .start kernel
  unique := by simp [GoesBy, Server.start]
  registered := by simp [GoesBy, Server.start]

variable {server : Server Value} (attended : Attended server)

include attended

theorem disconnects : Disconnects server := by
  rw [disconnects_iff]
  rintro position connId ⟨goes, stage, isStage, inLoop⟩ absent
  rcases attended.registered position connId goes with
    isLeaving | ⟨client, present, _⟩
  · cases isStage.symm.trans isLeaving
    cases inLoop
  · cases absent.symm.trans present

variable [SerdeJson Value] {faults : Faults} {after : Server Value}
variable {event : ServerEvent Value}

/-- A client that the step does not take from its task stays registered. -/
theorem stays (keeps : KeepsClients server event)
    (stepped : server.step faults event = some after) {position : Nat}
    {connId : ConnId} (goes : GoesBy server position connId)
    (goesOn : GoesBy after position connId)
    (leaves : server.stages[position]? = some (.leaving connId) →
      after.stages[position]? = some (.leaving connId)) :
    after.stages[position]? = some (.leaving connId) ∨
      ∃ client, after.hub.connections[connId]? = some client ∧
        client.sender = position := by
  rcases attended.registered position connId goes with
    isLeaving | ⟨client, present, rfl⟩
  · exact Or.inl (leaves isLeaving)
  cases hubStep stepped with
  | keep connections _ _ =>
      exact Or.inr ⟨client, by rw [connections, present], rfl⟩
  | register other granted isEvent _ _ added _ _ =>
      subst isEvent
      have different : server.hub.nextConnId ≠ connId := by
        rintro rfl
        exact keeps client.sender goes
      refine Or.inr ⟨client, ?_, rfl⟩
      rw [WsHub.addClient_eq_ok added]
      exact (lookup_insert _ _ _ _).trans ((if_neg different).trans present)
  | remove other removed isLeaving stage hub _ =>
      have different : removed ≠ connId := by
        rintro rfl
        have same := attended.unique client.sender other removed goes
          (Or.inl ⟨_, isLeaving, rfl⟩)
        rw [same] at goesOn
        rcases goesOn with ⟨next, isNext, uses⟩ | ⟨isSending, _⟩
        · cases stage.symm.trans isNext
          cases uses
        · cases stage.symm.trans isSending
      refine Or.inr ⟨client, ?_, rfl⟩
      rw [hub, lookup_removeClient, if_neg different, present]
  | forward notification isEvent isTaken hub _ =>
      subst isEvent
      by_cases addressed : Addresses notification server.hub connId
      · rcases keeps notification isTaken connId client present addressed with
          takes | isLeaving
        · refine Or.inr ⟨client, ?_, rfl⟩
          rw [hub, lookup_forward_iff notification attended.roster.ownQueues]
          exact ⟨present, fun _ => takes⟩
        · exact Or.inl (leaves isLeaving)
      · refine Or.inr ⟨client, ?_, rfl⟩
        rw [hub, lookup_forward_iff notification attended.roster.ownQueues]
        exact ⟨present, fun isAddressed => absurd isAddressed addressed⟩

theorem step (keeps : KeepsClients server event)
    (stepped : server.step faults event = some after) : Attended after := by
  have before {position : Nat} {connId : ConnId}
      (goesOn : GoesBy after position connId) :=
    goesOn.before attended.roster.guarded (stageStep stepped)
  refine ⟨attended.roster.step stepped, ?_, ?_⟩
  · intro position other connId goes goesOther
    rcases before goes with ⟨older, _⟩ | ⟨isEvent, isNext, _⟩
    · rcases before goesOther with ⟨otherOlder, _⟩ | ⟨isEvent, isNext, _⟩
      · exact attended.unique position other connId older otherOlder
      · subst isEvent isNext
        exact absurd older (keeps position)
    · rcases before goesOther with ⟨otherOlder, _⟩ | ⟨isOther, _, _⟩
      · subst isEvent isNext
        exact absurd otherOlder (keeps other)
      · exact ServerEvent.register.inj (isEvent.symm.trans isOther)
  · intro position connId goes
    rcases before goes with ⟨older, leaves⟩ | ⟨_, _, registered⟩
    · exact attended.stays keeps stepped older goes leaves
    · exact Or.inr registered

end Attended

variable [SerdeJson Value]

/--
In a run of the server in which the hub drops no client but those that are
leaving, every connection in its main loop that the hub does not know sees its
queue closed.
-/
theorem dropped_clients_disconnect (faults : Faults)
    (kernel : SyncpondKernel Value) {server : Server Value}
    (run : Follows (Server.step faults) KeepsClients (.start kernel)
      server) :
    Disconnects server :=
  (run.invariant Attended
    (fun _ _ _ attended keeps stepped => attended.step keeps stepped)
    (.start kernel)).disconnects

/-! ## A client that does not keep up -/

/-- A kernel with pending announcements of some writes to one fragment. -/
def written (writes : Nat) : SyncpondKernel Json :=
  run (boot .none ∅) (.command (.newRoom "room") ::
    List.replicate writes
      (.command (.writeFragment 1 0 "key" "1".toUTF8)))

/-- What a token for room 1 without further buckets is granted. -/
def firstRoom : Grant :=
  ⟨1, allowedBuckets serverOnlyBucketId ⟨some 1, none⟩⟩

/-- A client connects, and is sent some announcements that it does not read. -/
def flood (announcements : Nat) : List (ServerEvent Json) :=
  [.connect firstRoom, .register 0, .greet 0 [0]] ++
    (List.replicate announcements [.takeNotification, .forward]).flatten

/-- A check that is enough for `KeepsClients`. -/
def checkKeepsClients (server : Server Value) : ServerEvent Value → Bool
  | .register _ =>
      server.lock.isNone && server.stages.all fun stage =>
        stageConnId stage ≠ some server.hub.nextConnId
  | .forward =>
      server.forwarder.all fun notification =>
        (server.hub.addressees notification.content).all fun connId =>
          server.hub.connections[connId]?.all fun client =>
            server.hub.queues[client.sender]?.any fun queue =>
              !queue.closed &&
                decide (queue.frames.items.length < maxWsPendingMessages)
  | _ => true

theorem keepsClients_of_check (server : Server Value)
    (event : ServerEvent Value)
    (checked : checkKeepsClients server event = true) :
    KeepsClients server event := by
  cases event with
  | register position =>
      simp only [checkKeepsClients, Bool.and_eq_true, Option.isNone_iff_eq_none,
        List.all_eq_true, decide_eq_true_eq] at checked
      obtain ⟨isFree, unused⟩ := checked
      rintro other (⟨stage, isStage, uses⟩ | ⟨_, _, _, held⟩)
      · exact unused stage (List.mem_of_getElem? isStage) uses
      · cases isFree.symm.trans held
  | forward =>
      intro notification isTaken connId client present addressed
      simp only [checkKeepsClients, isTaken, Option.all_some,
        List.all_eq_true] at checked
      have accepts := checked connId addressed
      rw [present, Option.all_some, Option.any_eq_true] at accepts
      obtain ⟨queue, isQueue, accepts⟩ := accepts
      refine Or.inl ⟨queue, isQueue, ?_⟩
      simpa [Queue.Accepts] using accepts
  | _ => trivial

/-- A client that was sent one announcement stays registered. -/
theorem dropped_clients_disconnect_oneUpdate :
    ∃ server : Server Json,
      server.hub.queues.map (fun queue => queue.frames.items.length) = [1] ∧
        server.hub.connections.size = 1 ∧ Disconnects server := by
  have ran : ((flood 1).foldlM (fun server event =>
      if checkKeepsClients server event then server.step .none event
      else none) (.start (written 1))).map (fun server =>
        (server.hub.queues.map (fun queue => queue.frames.items.length),
          server.hub.connections.size)) = some ([1], 1) := by
    decide +kernel
  obtain ⟨server, ran, seen⟩ := Option.map_eq_some_iff.mp ran
  obtain ⟨lengths, clients⟩ := Prod.mk.inj seen
  exact ⟨server, lengths, clients,
    dropped_clients_disconnect .none (written 1)
      (follows_of_checked keepsClients_of_check ran)⟩

/--
The 257th announcement finds the queue of the client full; the hub drops the
client, and its connection stays in the main loop with an open queue.
-/
theorem droppedClient_stays_open :
    ¬∀ kernel : SyncpondKernel Json, Kernel.Reachable kernel →
      ∀ server,
        Follows (Server.step .none) (fun _ _ => True) (.start kernel)
          server →
        Disconnects server := by
  intro disconnects
  have ran : ((flood 257).foldlM (Server.step .none)
      (.start (written 257))).map (fun server =>
        (server.hub.connections[(1 : ConnId)]?.isNone,
          server.stages.map fun stage =>
            (inMainLoop stage, stageConnId stage))) =
      some (true, [(true, some 1)]) := by
    decide +kernel
  obtain ⟨server, ran, seen⟩ := Option.map_eq_some_iff.mp ran
  obtain ⟨unknown, stages⟩ := Prod.mk.inj seen
  obtain ⟨stage, isStage, seenStage⟩ := List.map_eq_singleton_iff.mp stages
  obtain ⟨inLoop, uses⟩ := Prod.mk.inj seenStage
  have found : server.stages[0]? = some stage := by
    rw [isStage]
    rfl
  have loops : InMainLoop server 0 1 :=
    ⟨Or.inl ⟨stage, found, uses⟩, stage, found, inLoop⟩
  refine disconnects_iff.mp (disconnects (written 257) ⟨_, rfl⟩ server
    (follows_of_foldlM ran)) 0 1 loops ?_
  exact Option.isNone_iff_eq_none.mp unknown

end Syncpond.DroppedClients
