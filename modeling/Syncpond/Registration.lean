import Syncpond.HubDelivery
import Syncpond.Tasks

/-!
# Registered clients

Every client that the hub knows was registered by the task of one connection,
which goes by the id of the client until it removes it.  So a client keeps a
queue of its own, and has what its connection was granted.

`StageStep` and `HubStep` say once what a step does to the tasks of the
connections and to the clients of the hub.
-/

namespace Syncpond.Registration

open Syncpond.Protocol
open Syncpond.Serde
open Syncpond.Persistence
open Syncpond.Kernel
open Syncpond.Hub
open Syncpond.HubIndex
open Syncpond.HubDelivery
open Syncpond.Tasks
open Syncpond.Library.Maps

variable {Value : Type}

/-! ## Tasks and ids -/

/-- The connection id that a task uses in a stage. -/
def stageConnId : Stage → Option ConnId
  | .greeting connId => some connId
  | .serving connId => some connId
  | .commanding connId _ => some connId
  | .leaving connId => some connId
  | _ => none

/-- The task of a connection is registered under an id and will remove it. -/
def GoesBy (server : Server Value) (position : Nat) (connId : ConnId) :
    Prop :=
  (∃ stage, server.stages[position]? = some stage ∧
    stageConnId stage = some connId) ∨
  (server.stages[position]? = some .sending ∧ ∃ event capacity,
    server.lock = some (.sending position connId event capacity))

theorem GoesBy.unique {server : Server Value} {position : Nat}
    {connId other : ConnId} (goes : GoesBy server position connId)
    (goesOther : GoesBy server position other) : connId = other := by
  rcases goes with ⟨stage, isStage, uses⟩ | ⟨isSending, event, capacity, held⟩
  · rcases goesOther with ⟨otherStage, isOther, usesOther⟩ | ⟨isOther, _⟩
    · cases isStage.symm.trans isOther
      exact Option.some.inj (uses.symm.trans usesOther)
    · cases isStage.symm.trans isOther
      cases uses
  · rcases goesOther with ⟨otherStage, isOther, usesOther⟩ |
      ⟨_, otherEvent, otherCapacity, otherHeld⟩
    · cases isSending.symm.trans isOther
      cases usesOther
    · cases held.symm.trans otherHeld
      rfl

/-- A task that holds the hub lock is in the stage that it holds it in. -/
structure Guarded (server : Server Value) : Prop where
  refusing : ∀ position, server.lock = some (.refusing position) →
    server.stages[position]? = some .refusing
  sending : ∀ position connId event capacity,
    server.lock = some (.sending position connId event capacity) →
    server.stages[position]? = some .sending

/-! ### How tasks move on -/

@[simp]
theorem connections_closeQueue (hub : WsHub) (position : Nat) :
    (hub.closeQueue position).connections = hub.connections := by
  unfold WsHub.closeQueue
  split <;> rfl

@[simp]
theorem buckets_closeQueue (hub : WsHub) (position : Nat) :
    (hub.closeQueue position).buckets = hub.buckets := by
  unfold WsHub.closeQueue
  split <;> rfl

/-- A `try_send` may only change the messages. -/
theorem trySend_eq (server : Server Value) (message : DownstreamMessage) :
    server.trySend message =
      { server with messages := (server.trySend message).messages } := by
  unfold Server.trySend
  split <;> rfl

section TrySend

variable (server : Server Value) (message : DownstreamMessage)

@[simp]
theorem pool_trySend : (server.trySend message).pool = server.pool := by
  rw [trySend_eq]

@[simp]
theorem hub_trySend : (server.trySend message).hub = server.hub := by
  rw [trySend_eq]

@[simp]
theorem lock_trySend : (server.trySend message).lock = server.lock := by
  rw [trySend_eq]

@[simp]
theorem processor_trySend :
    (server.trySend message).processor = server.processor := by
  rw [trySend_eq]

@[simp]
theorem forwarder_trySend :
    (server.trySend message).forwarder = server.forwarder := by
  rw [trySend_eq]

@[simp]
theorem grants_trySend : (server.trySend message).grants = server.grants := by
  rw [trySend_eq]

@[simp]
theorem stages_trySend : (server.trySend message).stages = server.stages := by
  rw [trySend_eq]

end TrySend

/-- What a step does to the stages of the connections and to the hub lock. -/
inductive StageStep (server : Server Value) (event : ServerEvent Value)
    (after : Server Value) : Prop
  /-- All tasks stay where they are. -/
  | stay (stages : after.stages = server.stages)
      (refusing : ∀ position, after.lock = some (.refusing position) →
        server.lock = some (.refusing position))
      (sending : ∀ position connId event,
        (∃ capacity,
          after.lock = some (.sending position connId event capacity)) ↔
        ∃ capacity,
          server.lock = some (.sending position connId event capacity))
  | join (stages : after.stages = server.stages ++ [.registering])
      (lock : after.lock = server.lock)
  /--
  A task without the lock moves on.  It keeps its id unless it removes it, and
  gets one only when it registers.
  -/
  | move (position : Nat) (stage next : Stage)
      (isStage : server.stages[position]? = some stage)
      (stages : after.stages = server.stages.set position next)
      (lock : after.lock = server.lock)
      (notRefusing : stage ≠ .refusing) (notSending : stage ≠ .sending)
      (goesOn : next ≠ .registering)
      (keeps : ∀ connId, stageConnId stage = some connId →
        stageConnId next = some connId ∨
          after.hub.connections[connId]? = none)
      (uses : ∀ connId, stageConnId next = some connId →
        (stageConnId stage = some connId ∧ stage ≠ .leaving connId) ∨
        (event = .register position ∧ connId = server.hub.nextConnId ∧
          ∃ client, after.hub.connections[connId]? = some client ∧
            client.sender = position))
  /-- A task takes the lock to refuse its client. -/
  | refuse (position : Nat)
      (isStage : server.stages[position]? = some .registering)
      (stages : after.stages = server.stages.set position .refusing)
      (isFree : server.lock = none)
      (lock : after.lock = some (.refusing position))
  /-- A task takes the lock to hand over a client message. -/
  | hold (position : Nat) (connId : ConnId) (payload : ByteArray)
      (event : DownstreamMessage) (capacity : Capacity)
      (isStage : server.stages[position]? = some (.commanding connId payload))
      (stages : after.stages = server.stages.set position .sending)
      (isFree : server.lock = none)
      (lock :
        after.lock = some (.sending position connId event capacity))
  /-- A task that refused its client gives the lock back. -/
  | refused (position : Nat)
      (held : server.lock = some (.refusing position))
      (stages : after.stages = server.stages.set position .closed)
      (lock : after.lock = none)
  /-- A task that handed a client message over gives the lock back. -/
  | sent (position : Nat) (connId : ConnId) (event : DownstreamMessage)
      (capacity : Capacity)
      (held : server.lock = some (.sending position connId event capacity))
      (stages :
        after.stages = server.stages.set position (.serving connId))
      (lock : after.lock = none)

variable {event : ServerEvent Value}

theorem StageStep.same {server after : Server Value}
    (stages : after.stages = server.stages)
    (lock : after.lock = server.lock) : StageStep server event after :=
  .stay stages (fun _ held => lock ▸ held) (fun _ _ _ => by rw [lock])

theorem StageStep.deliver {server after : Server Value} {position : Nat}
    {connId : ConnId} {message : DownstreamMessage} {capacity : Capacity}
    (held : server.lock = some (.sending position connId message capacity))
    (delivered : server.deliver position connId message = some after) :
    StageStep server event after := by
  obtain ⟨messages, _, rfl⟩ := Server.deliver_eq_some delivered
  exact .sent position connId message capacity held rfl rfl

/-- A slot that is given to a waiting send leaves the lock with its holder. -/
theorem StageStep.giveSlot {server after : Server Value}
    (stages : after.stages = server.stages)
    (lock : after.lock = Server.giveSlot server.lock) :
    StageStep server event after := by
  refine .stay stages (fun holder held => ?_) (fun holder connId event => ?_)
  · rcases Server.giveSlot_eq_some (lock ▸ held) with
      before | ⟨_, _, _, _, other⟩
    · exact before
    · cases other
  · rw [lock]
    constructor
    · rintro ⟨capacity, held⟩
      rcases Server.giveSlot_eq_some held with
        before | ⟨_, _, _, before, other⟩
      · exact ⟨capacity, before⟩
      · cases other
        exact ⟨_, before⟩
    · rintro ⟨capacity, held⟩
      rw [held]
      cases capacity <;> exact ⟨_, rfl⟩

theorem stageStep [SerdeJson Value] {faults : Faults}
    {server after : Server Value}
    (stepped : server.step faults event = some after) :
    StageStep server event after := by
  cases event with
  | command command =>
      cases stepped
      exact .same rfl rfl
  | advance task =>
      obtain ⟨pool, _, rfl⟩ := Option.map_eq_some_iff.mp stepped
      exact .same rfl rfl
  | connect granted =>
      cases stepped
      exact .join rfl rfl
  | register position =>
      obtain ⟨isFree, isRegistering, granted, _, ⟨hub, added, rfl⟩ | rfl⟩ :=
        Server.register_eq_some stepped
      · cases WsHub.addClient_eq_ok added
        refine .move position _ _ isRegistering rfl rfl (by simp) (by simp)
          (by simp) ?_ ?_
        · rintro _ ⟨⟩
        · rintro _ ⟨⟩
          refine Or.inr ⟨rfl, rfl,
            ⟨granted.roomId, granted.allowedBuckets, position⟩, ?_, rfl⟩
          simp [Server.enter, WsHub.allocateConnectionId]
      · exact .refuse position isRegistering rfl isFree rfl
  | refuse =>
      obtain ⟨position, held, rfl⟩ := Server.refuse_eq_some stepped
      exact .refused position held rfl rfl
  | greet position requestedBuckets =>
      obtain ⟨connId, granted, isGreeting, _, _, rfl⟩ :=
        Server.greet_eq_some stepped
      refine .move position _ (.serving connId) isGreeting ?_ ?_ (by simp)
        (by simp) (by simp) (fun _ uses => Or.inl uses) ?_
      · simp [Server.enter]
      · simp [Server.enter]
      · exact fun _ uses => Or.inl ⟨uses, by simp⟩
  | drain position =>
      obtain ⟨frame, hub, _, rfl⟩ := Server.drain_eq_some stepped
      exact .same rfl rfl
  | receive position payload =>
      obtain ⟨connId, isServing, rfl⟩ := Server.receive_eq_some stepped
      exact .move position _ _ isServing rfl rfl (by simp) (by simp)
        (by simp) (fun _ uses => Or.inl uses) fun _ uses => Or.inl ⟨uses, by simp⟩
  | leave position =>
      obtain ⟨connId, isServing, rfl⟩ := Server.leave_eq_some stepped
      exact .move position _ _ isServing rfl rfl (by simp) (by simp)
        (by simp) (fun _ uses => Or.inl uses) fun _ uses => Or.inl ⟨uses, by simp⟩
  | processClientMessage position =>
      obtain ⟨isFree, connId, payload, isCommanding, ⟨roomId, rfl⟩ | rfl⟩ :=
        Server.processClientMessage_eq_some stepped
      · exact .hold position connId payload _ _ isCommanding rfl isFree rfl
      · exact .move position _ _ isCommanding rfl rfl (by simp) (by simp)
          (by simp) (fun _ uses => Or.inl uses) fun _ uses => Or.inl ⟨uses, by simp⟩
  | ask =>
      obtain ⟨position, connId, event, isAsking, ⟨_, delivered⟩ | ⟨_, rfl⟩⟩ :=
        Server.ask_eq_some stepped
      · exact .deliver isAsking delivered
      · refine .stay rfl (by simp) fun holder other message => ?_
        rw [isAsking]
        simp
  | send =>
      obtain ⟨position, connId, event, isGranted, delivered⟩ :=
        Server.send_eq_some stepped
      exact .deliver isGranted delivered
  | remove position =>
      obtain ⟨isFree, connId, isLeaving, rfl⟩ := Server.remove_eq_some stepped
      refine .move position _ _ isLeaving rfl rfl (by simp) (by simp)
        (by simp) ?_ ?_
      · rintro _ ⟨⟩
        refine Or.inr ?_
        simp [Server.enter, lookup_removeClient]
      · rintro _ ⟨⟩
  | depart position =>
      obtain ⟨connId, isDeparting, rfl⟩ := Server.depart_eq_some stepped
      refine .move position _ .closed isDeparting ?_ ?_ (by simp) (by simp)
        (by simp) ?_ ?_
      · simp [Server.enter]
      · simp [Server.enter]
      · rintro _ ⟨⟩
      · rintro _ ⟨⟩
  | takeMessage =>
      obtain ⟨_, message, rest, _, rfl⟩ := Server.takeMessage_eq_some stepped
      exact .giveSlot rfl rfl
  | lookUp =>
      obtain ⟨connId, requestedBuckets, _, ⟨client, _, rfl⟩ | ⟨_, rfl⟩⟩ :=
        Server.lookUp_eq_some stepped
      · exact .same rfl rfl
      · exact .same rfl rfl
  | collect iteration =>
      obtain ⟨connId, roomId, requestedBuckets, _, rfl⟩ :=
        Server.collect_eq_some stepped
      exact .same rfl rfl
  | target =>
      obtain ⟨connId, roomId, updates, _, ⟨_, _, _, _, _, rfl⟩ | ⟨_, rfl⟩⟩ :=
        Server.target_eq_some stepped
      · exact .same rfl rfl
      · exact .same rfl rfl
  | takeNotification =>
      obtain ⟨_, notification, rest, _, rfl⟩ :=
        Server.takeNotification_eq_some stepped
      exact .same rfl rfl
  | forward =>
      obtain ⟨notification, _, rfl⟩ := Server.forward_eq_some stepped
      exact .same rfl rfl

/-- A task that moves on holds the lock exactly in the stages for it. -/
theorem Guarded.stageStep {server after : Server Value}
    (guarded : Guarded server) (moved : StageStep server event after) :
    Guarded after := by
  have other {position holder : Nat} {stage held next : Stage}
      (isStage : server.stages[position]? = some stage)
      (isHeld : server.stages[holder]? = some held)
      (different : stage ≠ held) :
      (server.stages.set position next)[holder]? = some held := by
    rw [List.getElem?_set_ne, isHeld]
    rintro rfl
    exact different (Option.some.inj (isStage.symm.trans isHeld))
  cases moved with
  | stay stages refusing sending =>
      refine ⟨fun holder held => ?_, fun holder connId event capacity held => ?_⟩
      · rw [stages]
        exact guarded.refusing holder (refusing holder held)
      · obtain ⟨before, isHeld⟩ := (sending holder connId event).mp
          ⟨capacity, held⟩
        rw [stages]
        exact guarded.sending holder connId event before isHeld
  | join stages lock =>
      refine ⟨fun holder held => ?_, fun holder connId event capacity held => ?_⟩
      · have isHolder := guarded.refusing holder (lock ▸ held)
        rw [stages, List.getElem?_append_left, isHolder]
        exact (List.getElem?_eq_some_iff.mp isHolder).1
      · have isHolder := guarded.sending holder connId event capacity
          (lock ▸ held)
        rw [stages, List.getElem?_append_left, isHolder]
        exact (List.getElem?_eq_some_iff.mp isHolder).1
  | move position stage next isStage stages lock notRefusing notSending =>
      refine ⟨fun holder held => ?_, fun holder connId event capacity held => ?_⟩
      · rw [stages]
        exact other isStage (guarded.refusing holder (lock ▸ held))
          notRefusing
      · rw [stages]
        exact other isStage
          (guarded.sending holder connId event capacity (lock ▸ held))
          notSending
  | refuse position isStage stages isFree lock =>
      obtain ⟨bound, _⟩ := List.getElem?_eq_some_iff.mp isStage
      refine ⟨fun holder held => ?_, fun holder connId event capacity held => ?_⟩
      · cases lock.symm.trans held
        rw [stages, List.getElem?_set_self bound]
      · cases lock.symm.trans held
  | hold position connId payload event capacity isStage stages isFree lock =>
      obtain ⟨bound, _⟩ := List.getElem?_eq_some_iff.mp isStage
      refine ⟨fun holder held => ?_, fun holder other event capacity held => ?_⟩
      · cases lock.symm.trans held
      · cases lock.symm.trans held
        rw [stages, List.getElem?_set_self bound]
  | refused position held stages lock =>
      constructor
      · intro holder isHeld
        cases lock.symm.trans isHeld
      · intro holder connId event capacity isHeld
        cases lock.symm.trans isHeld
  | sent position connId event capacity held stages lock =>
      constructor
      · intro holder isHeld
        cases lock.symm.trans isHeld
      · intro holder other event capacity isHeld
        cases lock.symm.trans isHeld

/-- A task goes by its id until the id is removed. -/
theorem GoesBy.stageStep {server after : Server Value}
    (guarded : Guarded server) (moved : StageStep server event after)
    {position : Nat} {connId : ConnId}
    (goes : GoesBy server position connId) :
    GoesBy after position connId ∨
      after.hub.connections[connId]? = none := by
  have elsewhere {other : Nat} {next : Stage}
      (stages : after.stages = server.stages.set other next)
      (different : other ≠ position)
      (held : ∀ event capacity,
        server.lock = some (.sending position connId event capacity) →
        after.lock = some (.sending position connId event capacity)) :
      GoesBy after position connId := by
    unfold GoesBy
    rw [stages, List.getElem?_set_ne different]
    exact goes.imp id fun ⟨isSending, event, capacity, isHeld⟩ =>
      ⟨isSending, event, capacity, held event capacity isHeld⟩
  have entered {old next : Stage}
      (isStage : server.stages[position]? = some old)
      (stages : after.stages = server.stages.set position next) :
      after.stages[position]? = some next := by
    rw [stages, List.getElem?_set_self
      (List.getElem?_eq_some_iff.mp isStage).1]
  cases moved with
  | stay stages refusing sending =>
      refine Or.inl (goes.imp (fun uses => stages ▸ uses) ?_)
      rintro ⟨isSending, event, held⟩
      exact ⟨stages ▸ isSending, event,
        (sending position connId event).mpr held⟩
  | join stages lock =>
      refine Or.inl (goes.imp ?_ ?_)
      · rintro ⟨stage, isStage, uses⟩
        refine ⟨stage, ?_, uses⟩
        rw [stages, List.getElem?_append_left, isStage]
        exact (List.getElem?_eq_some_iff.mp isStage).1
      · rintro ⟨isSending, held⟩
        refine ⟨?_, lock ▸ held⟩
        rw [stages, List.getElem?_append_left, isSending]
        exact (List.getElem?_eq_some_iff.mp isSending).1
  | move other stage next isStage stages lock _ notSending _ keeps =>
      by_cases same : other = position
      · subst same
        rcases goes with ⟨old, isOld, uses⟩ | ⟨isSending, _⟩
        · cases isStage.symm.trans isOld
          exact (keeps connId uses).imp_left fun kept =>
            Or.inl ⟨next, entered isStage stages, kept⟩
        · exact absurd (Option.some.inj (isStage.symm.trans isSending))
            notSending
      · exact Or.inl (elsewhere stages same fun _ _ held => lock ▸ held)
  | refuse other isStage stages isFree lock =>
      by_cases same : other = position
      · subst same
        rcases goes with ⟨old, isOld, uses⟩ | ⟨isSending, _⟩
        · cases isStage.symm.trans isOld
          cases uses
        · cases isStage.symm.trans isSending
      · refine Or.inl (elsewhere stages same fun _ _ held => ?_)
        cases isFree.symm.trans held
  | hold other holderId payload event capacity isStage stages isFree lock =>
      by_cases same : other = position
      · subst same
        rcases goes with ⟨old, isOld, uses⟩ | ⟨isSending, _⟩
        · cases isStage.symm.trans isOld
          cases uses
          exact Or.inl
            (Or.inr ⟨entered isStage stages, event, capacity, lock⟩)
        · cases isStage.symm.trans isSending
      · refine Or.inl (elsewhere stages same fun _ _ held => ?_)
        cases isFree.symm.trans held
  | refused other held stages lock =>
      have isStage := guarded.refusing other held
      by_cases same : other = position
      · subst same
        rcases goes with ⟨old, isOld, uses⟩ | ⟨isSending, _⟩
        · cases isStage.symm.trans isOld
          cases uses
        · cases isStage.symm.trans isSending
      · refine Or.inl (elsewhere stages same fun _ _ isHeld => ?_)
        cases held.symm.trans isHeld
  | sent other holderId event capacity held stages lock =>
      have isStage := guarded.sending other holderId event capacity held
      by_cases same : other = position
      · subst same
        rcases goes with ⟨old, isOld, uses⟩ | ⟨_, _, _, isHeld⟩
        · cases isStage.symm.trans isOld
          cases uses
        · cases held.symm.trans isHeld
          exact Or.inl (Or.inl ⟨_, entered isStage stages, rfl⟩)
      · refine Or.inl (elsewhere stages same fun _ _ isHeld => ?_)
        cases held.symm.trans isHeld
        exact absurd rfl same

/-- A task goes by the same id as before, or registers under it now. -/
theorem GoesBy.before {server after : Server Value}
    (guarded : Guarded server) (moved : StageStep server event after)
    {position : Nat} {connId : ConnId}
    (goes : GoesBy after position connId) :
    (GoesBy server position connId ∧
      (server.stages[position]? = some (.leaving connId) →
        after.stages[position]? = some (.leaving connId))) ∨
    (event = .register position ∧ connId = server.hub.nextConnId ∧
      ∃ client, after.hub.connections[connId]? = some client ∧
        client.sender = position) := by
  have elsewhere {other : Nat} {next : Stage}
      (stages : after.stages = server.stages.set other next)
      (different : other ≠ position)
      (held : ∀ message capacity,
        after.lock = some (.sending position connId message capacity) →
        server.lock = some (.sending position connId message capacity)) :
      GoesBy server position connId ∧
        (server.stages[position]? = some (.leaving connId) →
          after.stages[position]? = some (.leaving connId)) := by
    have same : after.stages[position]? = server.stages[position]? := by
      rw [stages, List.getElem?_set_ne different]
    refine ⟨goes.imp ?_ ?_, fun isLeaving => same.trans isLeaving⟩
    · exact fun ⟨stage, isStage, uses⟩ => ⟨stage, same ▸ isStage, uses⟩
    · exact fun ⟨isSending, message, capacity, isHeld⟩ =>
        ⟨same ▸ isSending, message, capacity, held message capacity isHeld⟩
  have entered {old next : Stage}
      (isStage : server.stages[position]? = some old)
      (stages : after.stages = server.stages.set position next) :
      stageConnId next = some connId ∨ next = .sending ∧
        ∃ message capacity,
          after.lock = some (.sending position connId message capacity) := by
    have isNext : after.stages[position]? = some next := by
      rw [stages, List.getElem?_set_self
        (List.getElem?_eq_some_iff.mp isStage).1]
    rcases goes with ⟨stage, isAfter, uses⟩ | ⟨isSending, held⟩
    · cases isNext.symm.trans isAfter
      exact Or.inl uses
    · exact Or.inr
        ⟨Option.some.inj (isNext.symm.trans isSending), held⟩
  cases moved with
  | stay stages refusing sending =>
      refine Or.inl ⟨goes.imp (fun uses => stages ▸ uses) ?_,
        fun isLeaving => stages ▸ isLeaving⟩
      rintro ⟨isSending, message, held⟩
      exact ⟨stages ▸ isSending, message,
        (sending position connId message).mp held⟩
  | join stages lock =>
      rcases Nat.lt_or_ge position server.stages.length with inside | outside
      · have same : after.stages[position]? = server.stages[position]? := by
          rw [stages, List.getElem?_append_left inside]
        refine Or.inl ⟨goes.imp ?_ ?_, fun isLeaving => same.trans isLeaving⟩
        · exact fun ⟨stage, isStage, uses⟩ => ⟨stage, same ▸ isStage, uses⟩
        · exact fun ⟨isSending, held⟩ => ⟨same ▸ isSending, lock ▸ held⟩
      · have joined {stage : Stage}
            (isStage : after.stages[position]? = some stage) :
            stage = .registering := by
          rw [stages, List.getElem?_append_right outside] at isStage
          exact List.mem_singleton.mp (List.mem_of_getElem? isStage)
        rcases goes with ⟨stage, isStage, uses⟩ | ⟨isSending, _⟩
        · cases joined isStage
          cases uses
        · cases joined isSending
  | move other stage next isStage stages lock _ notSending _ _ uses =>
      by_cases same : other = position
      · subst same
        rcases entered isStage stages with isNext | ⟨_, _, _, held⟩
        · rcases uses connId isNext with ⟨before, notLeaving⟩ | registered
          · refine Or.inl ⟨Or.inl ⟨stage, isStage, before⟩, fun isLeaving => ?_⟩
            exact absurd (Option.some.inj (isStage.symm.trans isLeaving))
              notLeaving
          · exact Or.inr registered
        · have isSending := guarded.sending _ _ _ _ (lock ▸ held)
          exact absurd (Option.some.inj (isStage.symm.trans isSending))
            notSending
      · exact Or.inl (elsewhere stages same fun _ _ held => lock ▸ held)
  | refuse other isStage stages isFree lock =>
      by_cases same : other = position
      · subst same
        rcases entered isStage stages with isNext | ⟨isSending, _⟩
        · cases isNext
        · cases isSending
      · refine Or.inl (elsewhere stages same fun _ _ held => ?_)
        cases lock.symm.trans held
  | hold other holderId payload message capacity isStage stages isFree lock =>
      by_cases same : other = position
      · subst same
        rcases entered isStage stages with isNext | ⟨_, _, _, held⟩
        · cases isNext
        · cases lock.symm.trans held
          refine Or.inl ⟨Or.inl ⟨_, isStage, rfl⟩, fun isLeaving => ?_⟩
          cases isStage.symm.trans isLeaving
      · refine Or.inl (elsewhere stages same fun _ _ held => ?_)
        cases lock.symm.trans held
        exact absurd rfl same
  | refused other held stages lock =>
      have isStage := guarded.refusing other held
      by_cases same : other = position
      · subst same
        rcases entered isStage stages with isNext | ⟨isSending, _⟩
        · cases isNext
        · cases isSending
      · refine Or.inl (elsewhere stages same fun _ _ isHeld => ?_)
        cases lock.symm.trans isHeld
  | sent other holderId message capacity held stages lock =>
      have isStage := guarded.sending other holderId message capacity held
      by_cases same : other = position
      · subst same
        rcases entered isStage stages with isNext | ⟨isSending, _⟩
        · cases isNext
          refine Or.inl ⟨Or.inr ⟨isStage, message, capacity, held⟩, ?_⟩
          intro isLeaving
          cases isStage.symm.trans isLeaving
        · cases isSending
      · refine Or.inl (elsewhere stages same fun _ _ isHeld => ?_)
        cases lock.symm.trans isHeld

/-- The task of a connection has tried to register. -/
def Past (server : Server Value) (position : Nat) : Prop :=
  ∃ stage, server.stages[position]? = some stage ∧ stage ≠ .registering

theorem GoesBy.past {server : Server Value} {position : Nat}
    {connId : ConnId} (goes : GoesBy server position connId) :
    Past server position := by
  rcases goes with ⟨stage, isStage, uses⟩ | ⟨isSending, _⟩
  · refine ⟨stage, isStage, ?_⟩
    rintro rfl
    cases uses
  · exact ⟨.sending, isSending, by simp⟩

/-- A task does not register again. -/
theorem Past.stageStep {server after : Server Value} {position : Nat}
    (past : Past server position) (moved : StageStep server event after) :
    Past after position := by
  obtain ⟨stage, isStage, notRegistering⟩ := past
  have bound := (List.getElem?_eq_some_iff.mp isStage).1
  have entered {other : Nat} {next : Stage}
      (stages : after.stages = server.stages.set other next)
      (goesOn : next ≠ .registering) : Past after position := by
    by_cases same : other = position
    · subst same
      exact ⟨next, by rw [stages, List.getElem?_set_self bound], goesOn⟩
    · exact ⟨stage, by rw [stages, List.getElem?_set_ne same, isStage],
        notRegistering⟩
  cases moved with
  | stay stages _ _ => exact ⟨stage, stages ▸ isStage, notRegistering⟩
  | join stages _ =>
      refine ⟨stage, ?_, notRegistering⟩
      rw [stages, List.getElem?_append_left bound, isStage]
  | move _ _ _ _ stages _ _ _ goesOn _ _ => exact entered stages goesOn
  | refuse _ _ stages _ _ => exact entered stages (by simp)
  | hold _ _ _ _ _ _ stages _ _ => exact entered stages (by simp)
  | refused _ _ stages _ => exact entered stages (by simp)
  | sent _ _ _ _ _ stages _ => exact entered stages (by simp)

/-! ## How the hub changes -/

/-- What a step does to the clients of the hub. -/
inductive HubStep [SerdeJson Value] (server : Server Value)
    (event : ServerEvent Value) (after : Server Value) : Prop
  | keep (connections :
        after.hub.connections = server.hub.connections)
      (buckets : after.hub.buckets = server.hub.buckets)
      (grants : after.grants = server.grants ∨ ∃ granted,
        event = .connect granted ∧
          after.grants = server.grants ++ [granted])
  /-- A connection registers under the next id. -/
  | register (position : Nat) (granted : Grant)
      (isEvent : event = .register position)
      (isStage : server.stages[position]? = some .registering)
      (isGranted : server.grants[position]? = some granted)
      (added : server.hub.allocateConnectionId.2.addClient
        server.hub.nextConnId granted.roomId granted.allowedBuckets
        position = .ok after.hub)
      (stage : after.stages[position]? =
        some (.greeting server.hub.nextConnId))
      (grants : after.grants = server.grants)
  | remove (position : Nat) (connId : ConnId)
      (isLeaving : server.stages[position]? = some (.leaving connId))
      (stage : after.stages[position]? = some (.departing connId))
      (hub : after.hub = server.hub.removeClient connId)
      (grants : after.grants = server.grants)
  | forward (notification : Sourced (UpdateChannelMessage Value))
      (isEvent : event = .forward)
      (isTaken : server.forwarder = some notification)
      (hub : after.hub = server.hub.forward notification)
      (grants : after.grants = server.grants)

theorem HubStep.same [SerdeJson Value] {server after : Server Value}
    (hub : after.hub = server.hub)
    (grants : after.grants = server.grants) : HubStep server event after :=
  .keep (by rw [hub]) (by rw [hub]) (Or.inl grants)

/-- A new connection adds what it was granted. -/
theorem HubStep.grants_cases [SerdeJson Value] {server after : Server Value}
    (changed : HubStep server event after) :
    after.grants = server.grants ∨ ∃ granted, event = .connect granted ∧
      after.grants = server.grants ++ [granted] := by
  cases changed with
  | keep _ _ grants => exact grants
  | register _ _ _ _ _ _ _ grants => exact Or.inl grants
  | remove _ _ _ _ _ grants => exact Or.inl grants
  | forward _ _ _ _ grants => exact Or.inl grants

/-- What a connection was granted stays. -/
theorem HubStep.grants_grow [SerdeJson Value] {server after : Server Value}
    (changed : HubStep server event after) :
    server.grants <+: after.grants := by
  rcases changed.grants_cases with same | ⟨granted, _, added⟩
  · exact same.symm ▸ List.prefix_refl _
  · exact added.symm ▸ List.prefix_append _ _

theorem hubStep [SerdeJson Value] {faults : Faults}
    {server after : Server Value}
    (stepped : server.step faults event = some after) :
    HubStep server event after := by
  cases event with
  | command command =>
      cases stepped
      exact .same rfl rfl
  | advance task =>
      obtain ⟨pool, _, rfl⟩ := Option.map_eq_some_iff.mp stepped
      exact .same rfl rfl
  | connect granted =>
      cases stepped
      exact .keep rfl rfl (Or.inr ⟨granted, rfl, rfl⟩)
  | register position =>
      obtain ⟨_, isRegistering, granted, isGranted, ⟨hub, added, rfl⟩ | rfl⟩ :=
        Server.register_eq_some stepped
      · exact .register position granted rfl isRegistering isGranted added
          (List.getElem?_set_self
            (List.getElem?_eq_some_iff.mp isRegistering).1) rfl
      · exact .keep rfl rfl (Or.inl rfl)
  | refuse =>
      obtain ⟨position, _, rfl⟩ := Server.refuse_eq_some stepped
      exact .keep (connections_closeQueue _ _) (buckets_closeQueue _ _)
        (Or.inl rfl)
  | greet position requestedBuckets =>
      obtain ⟨connId, granted, _, _, _, rfl⟩ := Server.greet_eq_some stepped
      exact .same (hub_trySend server _) (grants_trySend server _)
  | drain position =>
      obtain ⟨frame, hub, received, rfl⟩ := Server.drain_eq_some stepped
      obtain ⟨queue, rest, _, _, rfl⟩ := WsHub.receive_eq_some received
      exact .keep rfl rfl (Or.inl rfl)
  | receive position payload =>
      obtain ⟨connId, _, rfl⟩ := Server.receive_eq_some stepped
      exact .same rfl rfl
  | leave position =>
      obtain ⟨connId, _, rfl⟩ := Server.leave_eq_some stepped
      exact .same rfl rfl
  | processClientMessage position =>
      obtain ⟨_, connId, payload, _, ⟨roomId, rfl⟩ | rfl⟩ :=
        Server.processClientMessage_eq_some stepped
      · exact .same rfl rfl
      · exact .same rfl rfl
  | ask =>
      obtain ⟨position, connId, event, _, ⟨_, delivered⟩ | ⟨_, rfl⟩⟩ :=
        Server.ask_eq_some stepped
      · obtain ⟨messages, _, rfl⟩ := Server.deliver_eq_some delivered
        exact .same rfl rfl
      · exact .same rfl rfl
  | send =>
      obtain ⟨position, connId, event, _, delivered⟩ :=
        Server.send_eq_some stepped
      obtain ⟨messages, _, rfl⟩ := Server.deliver_eq_some delivered
      exact .same rfl rfl
  | remove position =>
      obtain ⟨_, connId, isLeaving, rfl⟩ := Server.remove_eq_some stepped
      exact .remove position connId isLeaving
        (List.getElem?_set_self
          (List.getElem?_eq_some_iff.mp isLeaving).1) rfl rfl
  | depart position =>
      obtain ⟨connId, _, rfl⟩ := Server.depart_eq_some stepped
      refine .keep ((connections_closeQueue _ _).trans ?_)
        ((buckets_closeQueue _ _).trans ?_) ?_
      · rw [hub_trySend]
      · rw [hub_trySend]
      · exact Or.inl (grants_trySend server _)
  | takeMessage =>
      obtain ⟨_, message, rest, _, rfl⟩ := Server.takeMessage_eq_some stepped
      exact .same rfl rfl
  | lookUp =>
      obtain ⟨connId, requestedBuckets, _, ⟨client, _, rfl⟩ | ⟨_, rfl⟩⟩ :=
        Server.lookUp_eq_some stepped
      · exact .same rfl rfl
      · exact .same rfl rfl
  | collect iteration =>
      obtain ⟨connId, roomId, requestedBuckets, _, rfl⟩ :=
        Server.collect_eq_some stepped
      exact .same rfl rfl
  | target =>
      obtain ⟨connId, roomId, updates, _, ⟨_, _, _, _, _, rfl⟩ | ⟨_, rfl⟩⟩ :=
        Server.target_eq_some stepped
      · exact .same rfl rfl
      · exact .same rfl rfl
  | takeNotification =>
      obtain ⟨_, notification, rest, _, rfl⟩ :=
        Server.takeNotification_eq_some stepped
      exact .same rfl rfl
  | forward =>
      obtain ⟨notification, isTaken, rfl⟩ := Server.forward_eq_some stepped
      exact .forward notification rfl isTaken rfl rfl

/-- A client was registered before, or its task registers it now. -/
theorem HubStep.before [SerdeJson Value] {server after : Server Value}
    (changed : HubStep server event after) {connId : ConnId}
    {client : ClientInfo}
    (present : after.hub.connections[connId]? = some client) :
    server.hub.connections[connId]? = some client ∨
      ∃ position, event = .register position ∧
        connId = server.hub.nextConnId ∧
        server.stages[client.sender]? = some .registering ∧
        after.stages[client.sender]? = some (.greeting connId) := by
  cases changed with
  | keep connections _ _ => exact Or.inl (connections ▸ present)
  | register position granted isEvent isStage _ added stage _ =>
      rw [WsHub.addClient_eq_ok added] at present
      have found := (lookup_insert _ _ _ _).symm.trans present
      split at found
      · next same =>
        cases found
        exact Or.inr ⟨position, isEvent, same.symm, isStage, same ▸ stage⟩
      · exact Or.inl found
  | remove _ removed _ _ hub _ =>
      exact Or.inl ((WsHub.shrinks_removeClient server.hub removed).connections
        connId client (hub ▸ present))
  | forward notification _ _ hub _ =>
      exact Or.inl ((WsHub.shrinks_forward server.hub
        notification).connections connId client (hub ▸ present))

/-- A client whose task has tried to register was registered before. -/
theorem Past.before [SerdeJson Value] {server after : Server Value}
    {connId : ConnId} {client : ClientInfo}
    (past : Past server client.sender)
    (changed : HubStep server event after)
    (present : after.hub.connections[connId]? = some client) :
    server.hub.connections[connId]? = some client := by
  rcases changed.before present with
    before | ⟨_, _, _, isRegistering, _⟩
  · exact before
  · obtain ⟨stage, isStage, notRegistering⟩ := past
    exact absurd (Option.some.inj (isStage.symm.trans isRegistering))
      notRegistering

/-! ## The roster -/

/--
Every registered client is registered by the task of the connection whose queue
it feeds, with what that connection was granted, and is listed for its buckets.
-/
structure Roster (server : Server Value) : Prop where
  guarded : Guarded server
  enrolled : ∀ (connId : ConnId) (client : ClientInfo),
    server.hub.connections[connId]? = some client →
    GoesBy server client.sender connId
  granted : ∀ (connId : ConnId) (client : ClientInfo),
    server.hub.connections[connId]? = some client →
    server.grants[client.sender]? = some ⟨client.roomId, client.buckets⟩
  covered : Covered server.hub

namespace Roster

theorem start (kernel : SyncpondKernel Value) : Roster (.start kernel) where
  guarded := ⟨by simp [Server.start], by simp [Server.start]⟩
  enrolled := by simp [Server.start, WsHub.new]
  granted := by simp [Server.start, WsHub.new]
  covered := by
    rintro connId bucketId ⟨client, present, _⟩
    simp [Server.start, WsHub.new] at present

variable {server : Server Value} (roster : Roster server)

include roster

theorem ownQueues : OwnQueues server.hub := by
  intro connId other client otherClient present isOther same
  exact (roster.enrolled connId client present).unique
    (same ▸ roster.enrolled other otherClient isOther)

/-- A step keeps the roster. -/
theorem step [SerdeJson Value] {faults : Faults} {after : Server Value}
    {event : ServerEvent Value}
    (stepped : server.step faults event = some after) : Roster after := by
  have moved := stageStep stepped
  have changed := hubStep stepped
  have grants {position : Nat} {granted : Grant}
      (isGranted : server.grants[position]? = some granted) :
      after.grants[position]? = some granted := by
    obtain ⟨added, equal⟩ := changed.grants_grow
    rw [← equal, List.getElem?_append_left, isGranted]
    exact (List.getElem?_eq_some_iff.mp isGranted).1
  have older {connId : ConnId} {client : ClientInfo}
      (before : server.hub.connections[connId]? = some client)
      (present : after.hub.connections[connId]? = some client) :
      GoesBy after client.sender connId ∧
        after.grants[client.sender]? =
          some ⟨client.roomId, client.buckets⟩ := by
    constructor
    · rcases (roster.enrolled connId client before).stageStep roster.guarded
        moved with goes | gone
      · exact goes
      · cases gone.symm.trans present
    · exact grants (roster.granted connId client before)
  have guarded := roster.guarded.stageStep moved
  cases changed with
  | keep connections buckets _ =>
      have same {connId : ConnId} {client : ClientInfo}
          (present : after.hub.connections[connId]? = some client) :=
        older (connections ▸ present) present
      refine ⟨guarded, fun _ _ present => (same present).1,
        fun _ _ present => (same present).2, ?_⟩
      intro connId bucketId
      unfold Allowed Listed
      rw [connections, buckets]
      exact roster.covered connId bucketId
  | register position granted _ isStage isGranted added stage _ =>
      have connections :
          after.hub.connections =
            server.hub.connections.insert server.hub.nextConnId
              ⟨granted.roomId, granted.allowedBuckets, position⟩ := by
        rw [WsHub.addClient_eq_ok added]
        rfl
      have covered : Covered server.hub.allocateConnectionId.2 :=
        roster.covered
      have both {connId : ConnId} {client : ClientInfo}
          (present : after.hub.connections[connId]? = some client) :
          GoesBy after client.sender connId ∧
            after.grants[client.sender]? =
              some ⟨client.roomId, client.buckets⟩ := by
        have found := present
        rw [connections, lookup_insert] at found
        split at found
        · next same =>
          cases found
          exact ⟨Or.inl ⟨_, stage, congrArg some same⟩, grants isGranted⟩
        · exact older found present
      exact ⟨guarded, fun _ _ present => (both present).1,
        fun _ _ present => (both present).2, covered.addClient added⟩
  | remove position connId _ _ hub _ =>
      have before {other : ConnId} {client : ClientInfo}
          (present : after.hub.connections[other]? = some client) :=
        older ((WsHub.shrinks_removeClient server.hub connId).connections
          other client (hub ▸ present)) present
      exact ⟨guarded, fun _ _ present => (before present).1,
        fun _ _ present => (before present).2,
        hub ▸ roster.covered.removeClient connId⟩
  | forward notification _ isTaken hub _ =>
      have before {other : ConnId} {client : ClientInfo}
          (present : after.hub.connections[other]? = some client) :=
        older ((WsHub.shrinks_forward server.hub notification).connections
          other client (hub ▸ present)) present
      exact ⟨guarded, fun _ _ present => (before present).1,
        fun _ _ present => (before present).2,
        hub ▸ roster.covered.forward notification⟩

end Roster

end Syncpond.Registration
