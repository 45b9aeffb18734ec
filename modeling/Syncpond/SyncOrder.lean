import Syncpond.SyncCoverage

/-!
# The order of a client's frames

The snapshot of an initial sync is taken under the state lock and its fragments
are sent after the lock was given back, one by one.  A write that commits and
is announced in between is enqueued before the older fragment, so a client that
applies its frames in order ends with the older value.

`line` is everything that a connection was sent or may still be sent.  It is
in order as long as no write is announced while an older fragment of its key
is left to be sent to a registered client.
-/

namespace Syncpond.SyncOrder

open Syncpond.Protocol
open Syncpond.Serde
open Syncpond.State
open Syncpond.Persistence
open Syncpond.Kernel
open Syncpond.Hub
open Syncpond.HubIndex
open Syncpond.HubDelivery
open Syncpond.Tasks
open Syncpond.Registration
open Syncpond.Delivery
open Syncpond.Reads
open Syncpond.WriteProgress
open Syncpond.Transit
open Syncpond.InitialSyncs
open Syncpond.SerialWrites
open Syncpond.Library.Maps
open Syncpond.Library.Channels
open Syncpond.Library.Programs
open Syncpond.Library.Runs

variable {Value : Type}

/-! ## Order -/

/-- Frames of the same fragment are in the order of their versions. -/
def InOrder (earlier later : Frame) : Prop :=
  earlier.content.bucketId = later.content.bucketId →
  earlier.content.key = later.content.key →
  earlier.content.bucketCounter ≤ later.content.bucketCounter

/-- No frame that was enqueued to a connection is older than one before it. -/
def NeverOvertakes (trace : Trace Value) : Prop :=
  ∀ position, (trace.enqueued position).Pairwise InOrder

/-- The notifications that were not forwarded yet, oldest first. -/
def waiting (server : Server Value) :
    List (Sourced (UpdateChannelMessage Value)) :=
  server.forwarder.toList ++ server.notifications.items

/-- A notification has someone to go to. -/
def isAlive (hub : WsHub)
    (notification : Sourced (UpdateChannelMessage Value)) : Bool :=
  match notification.content with
  | .broadcast _ => true
  | .targeted connId _ => hub.connections[connId]?.isSome

variable [SerdeJson Value]

/-- What was enqueued to a connection, and what can still follow. -/
def line (trace : Trace Value) (position : Nat) : List Frame :=
  trace.enqueued position ++
    ((waiting trace.server).filter (isAlive trace.server.hub)).map frameOf

omit [SerdeJson Value] in
theorem filter_sublist_filter {Item : Type} {items : List Item}
    {front back : Item → Bool}
    (implies : ∀ item ∈ items, front item = true → back item = true) :
    (items.filter front).Sublist (items.filter back) := by
  induction items with
  | nil => exact List.Sublist.slnil
  | cons head rest ih =>
      have later := ih fun item member =>
        implies item (List.mem_cons_of_mem _ member)
      cases isFront : front head with
      | false =>
          rw [List.filter_cons_of_neg (by simp [isFront])]
          exact later.trans
            ((List.sublist_cons_self head rest).filter back)
      | true =>
          rw [List.filter_cons_of_pos isFront,
            List.filter_cons_of_pos (implies head List.mem_cons_self isFront)]
          exact later.cons_cons head

omit [SerdeJson Value] in
/-- Only a registration brings a notification back to life. -/
theorem isAlive_of_kept {before after : WsHub}
    {notification : Sourced (UpdateChannelMessage Value)}
    (kept : ∀ connId msg, notification.content = .targeted connId msg →
      after.connections[connId]?.isSome = true →
      before.connections[connId]?.isSome = true)
    (isAfter : isAlive after notification = true) :
    isAlive before notification = true := by
  unfold isAlive at isAfter ⊢
  cases content : notification.content with
  | broadcast update => rfl
  | targeted connId msg =>
      rw [content] at isAfter
      exact kept connId msg content isAfter

omit [SerdeJson Value] in
theorem isSome_of_shrinks {before after : WsHub}
    (shrinks : WsHub.Shrinks before after) {connId : ConnId}
    (isAfter : after.connections[connId]?.isSome = true) :
    before.connections[connId]?.isSome = true := by
  obtain ⟨client, present⟩ := Option.isSome_iff_exists.mp isAfter
  exact Option.isSome_iff_exists.mpr
    ⟨client, shrinks.connections connId client present⟩

section Line

variable {trace after : Trace Value} {position : Nat}

/-- A line loses frames, and gets those of new notifications. -/
theorem line_sublist
    {added : List (Sourced (UpdateChannelMessage Value))}
    (grows : waiting after.server = waiting trace.server ++ added)
    (alive : ∀ notification ∈ waiting trace.server,
      isAlive after.server.hub notification = true →
      isAlive trace.server.hub notification = true)
    (enqueued : after.enqueued position = trace.enqueued position) :
    (line after position).Sublist (line trace position ++
      (added.filter (isAlive after.server.hub)).map frameOf) := by
  rw [line, line, enqueued, grows, List.filter_append, List.map_append,
    List.append_assoc]
  refine (List.Sublist.refl _).append (.append ?_ (.refl _))
  exact (filter_sublist_filter alive).map frameOf

/-- A notification that is forwarded leaves the line, or becomes a frame. -/
theorem line_forward (roster : Roster trace.server)
    {notification : Sourced (UpdateChannelMessage Value)}
    (isTaken : trace.server.forwarder = some notification) (position : Nat) :
    (line
      { trace with
        server := { trace.server with
          hub := trace.server.hub.forward notification
          forwarder := none } } position).Sublist (line trace position) := by
  have shrinks := WsHub.shrinks_forward trace.server.hub notification
  have rest : (List.filter
      (isAlive (trace.server.hub.forward notification))
        trace.server.notifications.items).Sublist
      (trace.server.notifications.items.filter
        (isAlive trace.server.hub)) :=
    filter_sublist_filter fun other _ =>
      isAlive_of_kept fun _ _ _ => isSome_of_shrinks shrinks
  simp only [line, waiting, isTaken, Trace.enqueued, Option.toList_some,
    Option.toList_none, List.nil_append, List.singleton_append,
    List.append_assoc]
  refine (List.Sublist.refl _).append ?_
  cases alive : isAlive trace.server.hub notification with
  | true =>
      rw [List.filter_cons_of_pos alive, List.map_cons]
      rcases pending_forward notification roster.ownQueues position with
        same | added
      · rw [same]
        exact (List.Sublist.refl _).append
          ((rest.map frameOf).trans (List.sublist_cons_self _ _))
      · rw [added, List.append_assoc]
        exact (List.Sublist.refl _).append ((rest.map frameOf).cons_cons _)
  | false =>
      rw [List.filter_cons_of_neg (by simp [alive]),
        pending_forward_of_not_reaches notification ?_]
      · exact (List.Sublist.refl _).append (rest.map frameOf)
      · rintro connId addressed ⟨client, present, _⟩
        unfold isAlive at alive
        unfold Addresses at addressed
        cases content : notification.content with
        | broadcast update => simp [content] at alive
        | targeted target msg =>
            rw [content] at alive addressed
            cases List.mem_singleton.mp addressed
            simp [present] at alive

end Line

/-! ## Conditions -/

/-- The id that is given next is not the address of a fragment on its way. -/
structure FreshId (server : Server Value) : Prop where
  notifications : ∀ notification ∈ waiting server, ∀ connId msg,
    notification.content = .targeted connId msg →
    connId ≠ server.hub.nextConnId
  processor : ∀ connId roomId updates,
    server.processor = .target connId roomId updates →
    connId ≠ server.hub.nextConnId

/--
Serial writes to one room and clients of it, with ids and versions that do not
wrap; and no write is announced while an older fragment of its key is left to
be sent to a registered client.
-/
structure KeepsOrder (faults : Faults) (roomId : RoomId)
    (trace : Trace Value) (event : ServerEvent Value) : Prop where
  serially : Serially roomId trace event
  oneRoom : ∀ granted, event = .connect granted → granted.roomId = roomId
  freshId : ∀ position, event = .register position → FreshId trace.server
  newer : ∀ task write, event = .advance task →
    IsAt faults trace task write .committing →
    ∀ room, trace.server.pool.shared.state.rooms[roomId]? = some room →
    ∀ entry, storedEntry trace.server.pool.shared.state roomId
      write.bucketId write.key = some entry →
    entry.keyVersion < room.roomCounter + 1
  inTime : ∀ task write assigned roomCounter, event = .advance task →
    IsAt faults trace task write (.announcing assigned roomCounter) →
    ∀ connId target updates,
      trace.server.processor = .target connId target updates →
      trace.server.hub.connections[connId]?.isSome = true →
      ∀ update ∈ updates, update.bucketId = write.bucketId →
        update.key = write.key → roomCounter ≤ update.keyVersion

/-! ## Steps of a line -/

theorem isSome_before {server after : Server Value}
    {event : ServerEvent Value} (changed : HubStep server event after)
    {connId : ConnId}
    (isAfter : after.hub.connections[connId]?.isSome = true) :
    server.hub.connections[connId]?.isSome = true ∨
      (∃ position, event = .register position) ∧
        connId = server.hub.nextConnId := by
  cases changed with
  | keep connections _ _ => exact Or.inl (connections ▸ isAfter)
  | register position granted isEvent _ _ added _ _ =>
      rw [WsHub.addClient_eq_ok added] at isAfter
      by_cases same : server.hub.nextConnId = connId
      · exact Or.inr ⟨⟨position, isEvent⟩, same.symm⟩
      · have found := isAfter
        simp only [WsHub.allocateConnectionId, lookup_insert, same,
          if_false] at found
        exact Or.inl found
  | remove _ removed _ _ hub _ =>
      exact Or.inl (isSome_of_shrinks
        (WsHub.shrinks_removeClient server.hub removed) (hub ▸ isAfter))
  | forward notification _ _ hub _ =>
      exact Or.inl (isSome_of_shrinks
        (WsHub.shrinks_forward server.hub notification) (hub ▸ isAfter))

/-- What a step does to the lines. -/
inductive LineStep (faults : Faults) (roomId : RoomId) (trace : Trace Value)
    (current : Option Active) (event : ServerEvent Value)
    (after : Trace Value) : Prop
  | quiet (lines : ∀ position,
      (line after position).Sublist (line trace position))
  | announce (active : Active) (assigned : Option UInt64)
      (roomCounter : UInt64) (isCurrent : current = some active)
      (isEvent : event = .advance active.task)
      (progress : active.progress = .announcing assigned roomCounter)
      (processor : after.server.processor = trace.server.processor)
      (lines : ∀ position, (line after position).Sublist
        (line trace position ++
          [.of ⟨active.write.roomId, assigned,
            active.write.update Value roomCounter⟩]))
  | target (connId : ConnId) (room : RoomId) (update : SyncUpdate Value)
      (rest : List (SyncUpdate Value))
      (isTarget :
        trace.server.processor = .target connId room (update :: rest))
      (registered :
        trace.server.hub.connections[connId]?.isSome = true)
      (processor : after.server.processor = .target connId room rest)
      (lines : ∀ position, (line after position).Sublist
        (line trace position ++ [syncFrame room update]))

section Step

variable {faults : Faults} {roomId : RoomId} {trace after : Trace Value}
variable {current later : Option Active} {event : ServerEvent Value}

theorem lineStep (roster : Roster trace.server)
    (moved : SerialStep faults roomId trace current event after later)
    (passed : Passage faults trace event after)
    (changed : HubStep trace.server event after.server)
    (freshId : ∀ position, event = .register position →
      FreshId trace.server) :
    LineStep faults roomId trace current event after := by
  have alive : ∀ notification ∈ waiting trace.server,
      isAlive after.server.hub notification = true →
      isAlive trace.server.hub notification = true := by
    intro notification member
    refine isAlive_of_kept fun connId msg content isAfter => ?_
    rcases isSome_before changed isAfter with
      before | ⟨⟨position, isEvent⟩, isNew⟩
    · exact before
    · exact absurd isNew ((freshId position isEvent).notifications
        notification member connId msg content)
  have quiet (enqueued : ∀ position,
      after.enqueued position = trace.enqueued position)
      (same : waiting after.server = waiting trace.server) :
      LineStep faults roomId trace current event after := by
    refine .quiet fun position => ?_
    have grows : waiting after.server = waiting trace.server ++ [] := by
      rw [same, List.append_nil]
    simpa using line_sublist grows alive (enqueued position)
  cases moved with
  | start write _ _ => exact quiet (fun _ => rfl) rfl
  | advance active pool next isCurrent advances =>
      rcases advances.notifications with same | announced
      · exact quiet (fun _ => rfl) (by
          simp [waiting, Server.notifications, same])
      · obtain ⟨assigned, roomCounter, progress, shared⟩ := announced
        rcases Channel.items_sendOrDrop trace.server.notifications
            ⟨active.write.roomId, assigned,
              .broadcast (active.write.update Value roomCounter)⟩ with
          dropped | added
        · exact quiet (fun _ => rfl) (by
            rw [waiting, waiting, Server.notifications, shared]
            exact congrArg _ dropped)
        · refine .announce active assigned roomCounter isCurrent rfl progress
            rfl fun position => ?_
          have grows : waiting { trace with
                server := { trace.server with pool := pool } }.server =
              waiting trace.server ++ [⟨active.write.roomId, assigned,
                .broadcast (active.write.update Value roomCounter)⟩] := by
            rw [waiting, waiting, Server.notifications, shared]
            exact (congrArg _ added).trans (List.append_assoc _ _ _).symm
          exact line_sublist grows alive rfl
  | rest notAdvance state =>
  cases passed with
  | aside _ aside =>
      exact quiet aside.enqueued (by
        simp [waiting, Server.notifications, aside.forwarder, aside.pool])
  | command command => exact quiet (fun _ => rfl) rfl
  | advance task pool advanced => exact absurd rfl (notAdvance task)
  | greet position connId _ _ _ _ _ =>
      exact quiet (by simp [Trace.enqueued, Server.enter])
        (by simp [waiting, Server.notifications, Server.enter])
  | takeNotification notification rest isFree items =>
      exact quiet (fun _ => rfl) (by rw [waiting, waiting, isFree, items]; rfl)
  | forward notification isTaken =>
      exact .quiet (line_forward roster isTaken)
  | target connId room update rest sent isTarget items =>
      have grows : waiting { trace with
            server := { trace.server.withNotifications sent with
              processor := .target connId room rest } }.server =
          waiting trace.server ++
            [⟨room, none, .targeted connId update.dataUpdate⟩] := by
        change trace.server.forwarder.toList ++ sent.items = _
        rw [items, waiting, List.append_assoc]
      have lines (position : Nat) :=
        line_sublist grows alive (rfl : _ = trace.enqueued position)
      cases registered : trace.server.hub.connections[connId]?.isSome with
      | true =>
          refine .target connId room update rest isTarget registered rfl
            fun position => (lines position).trans ?_
          exact (List.Sublist.refl _).append
            (List.filter_sublist.map frameOf)
      | false =>
          have dead : ([⟨room, none, .targeted connId update.dataUpdate⟩] :
              List (Sourced (UpdateChannelMessage Value))).filter
                (isAlive trace.server.hub) = [] := by
            simp [isAlive, registered]
          refine .quiet fun position => (lines position).trans ?_
          change (line trace position ++ (List.filter
            (isAlive trace.server.hub) _).map frameOf).Sublist _
          rw [dead, List.map_nil, List.append_nil]
  | _ => exact quiet (fun _ => rfl) rfl

end Step

/-! ## The versions in memory -/

/-- The room stores the fragment with this version or a newer one. -/
def Known (app : AppState Value) (roomId : RoomId) (bucketId : BucketId)
    (key : String) (version : UInt64) : Prop :=
  ∃ entry, storedEntry app roomId bucketId key = some entry ∧
    version ≤ entry.keyVersion

/-- A write that committed is the last one that its room stored. -/
def Sound (kernel : SyncpondKernel Value) (roomId : RoomId)
    (active : Active) : Prop :=
  match active.progress with
  | .committing => kernel.state.isRoomLoaded roomId = true
  | .persisting _ =>
      ∃ entry, storedEntry kernel.state roomId active.write.bucketId
          active.write.key = some entry ∧
        kernel.readVersion roomId = entry.keyVersion
  | .announcing _ roomCounter =>
      ∃ entry, storedEntry kernel.state roomId active.write.bucketId
          active.write.key = some entry ∧
        roomCounter = entry.keyVersion
  | _ => True

/-- Writes to the room take effect, and the write in progress is sound. -/
structure Memory (kernel : SyncpondKernel Value) (roomId : RoomId)
    (current : Option Active) : Prop where
  writable : ∀ room, kernel.state.rooms[roomId]? = some room →
    room.ioLocked = false ∧ room.txBuffer = none
  sound : ∀ active ∈ current, Sound kernel roomId active

section Memory

variable {kernel after : SyncpondKernel Value} {roomId : RoomId}

omit [SerdeJson Value] in
/-- A commit to a loaded room stores the value under the next version. -/
theorem commitWrite_loaded {current : Option Active}
    (memory : Memory kernel roomId current)
    (loaded : kernel.state.isRoomLoaded roomId = true)
    {bucketId : BucketId} {key : String} {value : Value}
    {assigned : Option UInt64}
    (committed : kernel.commitWrite roomId bucketId key value =
      (assigned, after)) :
    ∃ room, kernel.state.rooms[roomId]? = some room ∧
      room.ioLocked = false ∧ room.txBuffer = none ∧
      after.state = { kernel.state with
        rooms := kernel.state.rooms.insert roomId
          (room.store bucketId key value) } := by
  obtain ⟨room, present, resident⟩ := isRoomLoaded_iff.mp loaded
  obtain ⟨unlocked, noTransaction⟩ := memory.writable room present
  refine ⟨room, present, unlocked, noTransaction, ?_⟩
  simp only [SyncpondKernel.commitWrite, AppState.setFragment,
    AppState.withRoom, present, RoomState.setFragment, unlocked, resident,
    noTransaction, Except.map, Bool.not_true, Bool.false_eq_true,
    if_false] at committed
  rw [← (Prod.mk.inj committed).2]

/-- The version that the write is given is newer than the one of its key. -/
def CommitsNewer (kernel : SyncpondKernel Value) (roomId : RoomId)
    (active : Active) : Prop :=
  active.progress = .committing →
  ∀ room, kernel.state.rooms[roomId]? = some room →
  ∀ entry, storedEntry kernel.state roomId active.write.bucketId
    active.write.key = some entry →
  entry.keyVersion < room.roomCounter + 1

/-- A section of the write in progress keeps the memory sound. -/
theorem Memory.advance {active : Active} {later : Progress}
    (memory : Memory kernel roomId (some active))
    (sameRoom : active.write.roomId = roomId)
    (advances : active.write.Advances kernel active.progress later after)
    (newer : CommitsNewer kernel roomId active) :
    Memory after roomId (some { active with progress := later }) ∧
      ∀ bucketId key version,
        Known kernel.state roomId bucketId key version →
        Known after.state roomId bucketId key version := by
  obtain ⟨task, write, progress⟩ := active
  dsimp only at sameRoom advances
  have sound := memory.sound _ rfl
  cases advances with
  | check loaded =>
      refine ⟨⟨memory.writable, ?_⟩, fun _ _ _ => id⟩
      rintro _ ⟨⟩
      exact sameRoom ▸ loaded
  | reject =>
      refine ⟨⟨memory.writable, ?_⟩, fun _ _ _ => id⟩
      rintro _ ⟨⟩
      trivial
  | commit assigned _ committed =>
      rw [sameRoom] at committed
      obtain ⟨room, present, unlocked, noTransaction, state⟩ :=
        commitWrite_loaded memory sound committed
      have isRoom : after.state.rooms[roomId]? =
          some (room.store write.bucketId write.key
            (write.parsed Value)) := by
        simp [state]
      have stored (bucketId : BucketId) (key : String) :
          storedEntry after.state roomId bucketId key =
            if write.bucketId = bucketId ∧ write.key = key then
              some ⟨write.parsed Value, room.roomCounter + 1⟩
            else storedEntry kernel.state roomId bucketId key := by
        simp [storedEntry, isRoom, present, RoomState.store,
          getNested_insertNested]
      refine ⟨⟨?_, ?_⟩, ?_⟩
      · intro other isOther
        cases isRoom.symm.trans isOther
        exact ⟨unlocked, noTransaction⟩
      · rintro _ ⟨⟩
        refine ⟨⟨write.parsed Value, room.roomCounter + 1⟩, by simp [stored], ?_⟩
        simp [SyncpondKernel.readVersion, AppState.roomVersion,
          AppState.readRoom, isRoom, RoomState.version, RoomState.store,
          unlocked]
      · rintro bucketId key version ⟨entry, isEntry, bound⟩
        rw [Known, stored]
        split
        · next same =>
          obtain ⟨rfl, rfl⟩ := same
          exact ⟨_, rfl, UInt64.le_of_lt (UInt64.lt_of_le_of_lt bound
            (newer rfl room present entry isEntry))⟩
        · exact ⟨entry, isEntry, bound⟩
  | persist assigned _ state =>
      obtain ⟨entry, stored, version⟩ := sound
      refine ⟨⟨state ▸ memory.writable, ?_⟩, fun _ _ _ => state ▸ id⟩
      rintro _ ⟨⟩
      refine ⟨entry, state ▸ stored, ?_⟩
      rw [SyncpondKernel.readVersion, state]
      exact version
  | readVersion assigned =>
      obtain ⟨entry, stored, version⟩ := sound
      refine ⟨⟨memory.writable, ?_⟩, fun _ _ _ => id⟩
      rintro _ ⟨⟩
      exact ⟨entry, stored, sameRoom ▸ version⟩
  | announce assigned roomCounter =>
      refine ⟨⟨memory.writable, ?_⟩, fun _ _ _ => id⟩
      rintro _ ⟨⟩
      trivial

/-- A step keeps the memory sound. -/
theorem Memory.step {faults : Faults} {trace later : Trace Value}
    {current next : Option Active} {event : ServerEvent Value}
    (memory : Memory trace.server.pool.shared roomId current)
    (moved : SerialStep faults roomId trace current event later next)
    (sameRoom : ∀ active ∈ current, active.write.roomId = roomId)
    (newer : ∀ active ∈ current, event = .advance active.task →
      CommitsNewer trace.server.pool.shared roomId active) :
    Memory later.server.pool.shared roomId next ∧
      ∀ bucketId key version,
        Known trace.server.pool.shared.state roomId bucketId key version →
        Known later.server.pool.shared.state roomId bucketId key
          version := by
  cases moved with
  | start write _ _ =>
      refine ⟨⟨memory.writable, ?_⟩, fun _ _ _ => id⟩
      rintro _ ⟨⟩
      trivial
  | advance active pool progress isCurrent advances =>
      subst isCurrent
      exact memory.advance (sameRoom active rfl) advances
        (newer active rfl rfl)
  | rest _ state =>
      refine ⟨⟨state ▸ memory.writable, fun active isCurrent => ?_⟩,
        fun _ _ _ => state ▸ id⟩
      have sound := memory.sound active isCurrent
      unfold Sound SyncpondKernel.readVersion at sound ⊢
      rw [state]
      exact sound

end Memory

/-! ## Lines in order -/

/-- What is left of an initial sync, with the fragments collected for it. -/
theorem target_before {faults : Faults} {trace after : Trace Value}
    {event : ServerEvent Value} (passed : Passage faults trace event after)
    {connId : ConnId} {room : RoomId} {updates : List (SyncUpdate Value)}
    (isTarget : after.server.processor = .target connId room updates) :
    (∃ front, trace.server.processor =
      .target connId room (front ++ updates)) ∨
    ∃ iteration requestedBuckets,
      trace.server.processor = .collect connId room requestedBuckets ∧
      updates = collectUpdates iteration trace.server.pool.shared.state room
        requestedBuckets := by
  cases passed with
  | aside _ aside => exact Or.inl ⟨[], aside.processor.symm.trans isTarget⟩
  | greet position greeted _ _ _ _ _ =>
      exact Or.inl ⟨[], by simpa [Server.enter] using isTarget⟩
  | takeMessage message rest isIdle items =>
      cases message <;> cases isTarget
  | lookUp _ _ _ _ _ => cases isTarget
  | lookUpFailed _ _ _ _ => cases isTarget
  | collect iteration _ _ requestedBuckets isCollect =>
      cases isTarget
      exact Or.inr ⟨iteration, requestedBuckets, isCollect, rfl⟩
  | target _ _ update rest _ isOurs _ =>
      cases isTarget
      exact Or.inl ⟨[update], isOurs⟩
  | targetEnded _ _ _ _ _ => cases isTarget
  | _ => exact Or.inl ⟨[], isTarget⟩

/-- The room of an initial sync is the one of its client. -/
theorem collect_before {faults : Faults} {trace after : Trace Value}
    {event : ServerEvent Value} (passed : Passage faults trace event after)
    {connId : ConnId} {room : RoomId} {requestedBuckets : List BucketId}
    (isCollect :
      after.server.processor = .collect connId room requestedBuckets) :
    trace.server.processor = .collect connId room requestedBuckets ∨
      ∃ client : ClientInfo,
        trace.server.hub.connections[connId]? = some client ∧
        client.roomId = room := by
  cases passed with
  | aside _ aside => exact Or.inl (aside.processor.symm.trans isCollect)
  | greet position greeted _ _ _ _ _ =>
      exact Or.inl (by simpa [Server.enter] using isCollect)
  | takeMessage message rest isIdle items =>
      cases message <;> cases isCollect
  | lookUp _ _ client _ present =>
      cases isCollect
      exact Or.inr ⟨client, present, rfl⟩
  | lookUpFailed _ _ _ _ => cases isCollect
  | collect _ _ _ _ _ => cases isCollect
  | target _ _ _ _ _ _ _ => cases isCollect
  | targetEnded _ _ _ _ _ => cases isCollect
  | _ => exact Or.inl isCollect

/--
The lines are in order, and neither the memory nor a fragment that is left to
be sent to a registered client is older than a frame in a line.
-/
structure Ordered (faults : Faults) (roomId : RoomId) (trace : Trace Value)
    (current : Option Active) : Prop where
  serial : Serial faults roomId trace current
  memory : Memory trace.server.pool.shared roomId current
  granted : ∀ granted ∈ trace.server.grants, granted.roomId = roomId
  collect : ∀ connId room requestedBuckets,
    trace.server.processor = .collect connId room requestedBuckets →
    room = roomId
  known : ∀ position, ∀ frame ∈ line trace position,
    Known trace.server.pool.shared.state roomId frame.content.bucketId
      frame.content.key frame.content.bucketCounter
  ordered : ∀ position, (line trace position).Pairwise InOrder
  unsentKnown : ∀ connId room updates,
    trace.server.processor = .target connId room updates →
    ∀ update ∈ updates,
      Known trace.server.pool.shared.state roomId update.bucketId update.key
        update.keyVersion ∧
      ∀ other ∈ updates, other.bucketId = update.bucketId →
        other.key = update.key → other.keyVersion = update.keyVersion
  unsentNewer : ∀ connId room updates,
    trace.server.processor = .target connId room updates →
    trace.server.hub.connections[connId]?.isSome = true →
    ∀ update ∈ updates, ∀ position, ∀ frame ∈ line trace position,
      frame.content.bucketId = update.bucketId →
      frame.content.key = update.key →
      frame.content.bucketCounter ≤ update.keyVersion

namespace Ordered

variable {faults : Faults} {roomId : RoomId} {trace after : Trace Value}
variable {current later : Option Active} {event : ServerEvent Value}

theorem start {kernel : SyncpondKernel Value} (faults : Faults)
    (writable : ∀ room, kernel.state.rooms[roomId]? = some room →
      room.ioLocked = false ∧ room.txBuffer = none)
    (drained : kernel.notifications.items = []) :
    Ordered faults roomId (.start kernel) none := by
  have empty (position : Nat) : line (.start kernel) position = [] := by
    simp [line, waiting, Trace.start, Server.start, Server.notifications,
      drained, Trace.enqueued, pending, WsHub.new]
  refine ⟨.start faults roomId kernel, ⟨writable, by simp⟩, ?_, ?_, ?_, ?_,
    ?_, ?_⟩
  · simp [Trace.start, Server.start]
  · simp [Trace.start, Server.start]
  · simp [empty]
  · simp [empty]
  · simp [Trace.start, Server.start]
  · simp [empty]

theorem neverOvertakes (ordered : Ordered faults roomId trace current) :
    NeverOvertakes trace :=
  fun position =>
    (ordered.ordered position).sublist (List.sublist_append_left _ _)

/-- A fragment that is collected now has the version in memory. -/
theorem collected_newer (ordered : Ordered faults roomId trace current)
    {iteration : Iteration Value} {requestedBuckets : List BucketId}
    {update : SyncUpdate Value}
    (member : update ∈ collectUpdates iteration
      trace.server.pool.shared.state roomId requestedBuckets)
    {position : Nat} {frame : Frame} (isFrame : frame ∈ line trace position)
    (sameBucket : frame.content.bucketId = update.bucketId)
    (sameKey : frame.content.key = update.key) :
    frame.content.bucketCounter ≤ update.keyVersion := by
  obtain ⟨entry, stored, bound⟩ := ordered.known position frame isFrame
  obtain ⟨_, room, present, found, _⟩ := mem_collectUpdates_iff.mp member
  rw [sameBucket, sameKey, storedEntry, present] at stored
  cases found.symm.trans stored
  exact bound

variable (ordered : Ordered faults roomId trace current)
variable (passed : Passage faults trace event after)

include ordered passed

theorem collect_step : ∀ connId room requestedBuckets,
    after.server.processor = .collect connId room requestedBuckets →
    room = roomId := by
  intro connId room requestedBuckets isCollect
  rcases collect_before passed isCollect with
    before | ⟨client, present, rfl⟩
  · exact ordered.collect connId room requestedBuckets before
  · exact ordered.granted _ (List.mem_of_getElem?
      (ordered.serial.coherent.roster.granted connId client present))

/-- The fragments that are left to be sent are known. -/
theorem unsentKnown_step
    (keeps : ∀ bucketId key version,
      Known trace.server.pool.shared.state roomId bucketId key version →
      Known after.server.pool.shared.state roomId bucketId key version) :
    ∀ connId room updates,
      after.server.processor = .target connId room updates →
      ∀ update ∈ updates,
        Known after.server.pool.shared.state roomId update.bucketId
          update.key update.keyVersion ∧
        ∀ other ∈ updates, other.bucketId = update.bucketId →
          other.key = update.key → other.keyVersion = update.keyVersion := by
  intro connId room updates isTarget update member
  rcases target_before passed isTarget with
    ⟨front, before⟩ | ⟨iteration, requestedBuckets, before, rfl⟩
  · obtain ⟨known, similar⟩ := ordered.unsentKnown connId room _ before
      update (List.mem_append_right _ member)
    exact ⟨keeps _ _ _ known, fun other isOther =>
      similar other (List.mem_append_right _ isOther)⟩
  · cases ordered.collect connId room requestedBuckets before
    obtain ⟨_, found, present, stored, _⟩ := mem_collectUpdates_iff.mp member
    refine ⟨keeps _ _ _ ⟨⟨update.value, update.keyVersion⟩, ?_,
      UInt64.le_refl _⟩, fun other isOther sameBucket sameKey => ?_⟩
    · simp [storedEntry, present, stored]
    · obtain ⟨_, otherFound, isPresent, isStored, _⟩ :=
        mem_collectUpdates_iff.mp isOther
      cases present.symm.trans isPresent
      rw [sameBucket, sameKey, stored] at isStored
      exact (FragmentEntry.mk.inj (Option.some.inj isStored)).2.symm

/-- They are not older than the frames that were in a line before. -/
theorem unsentNewer_before
    (freshId : ∀ position, event = .register position →
      FreshId trace.server)
    (changed : HubStep trace.server event after.server) :
    ∀ connId room updates,
      after.server.processor = .target connId room updates →
      after.server.hub.connections[connId]?.isSome = true →
      ∀ update ∈ updates, ∀ position, ∀ frame ∈ line trace position,
        frame.content.bucketId = update.bucketId →
        frame.content.key = update.key →
        frame.content.bucketCounter ≤ update.keyVersion := by
  intro connId room updates isTarget registered update member position frame
    isFrame
  rcases target_before passed isTarget with
    ⟨front, before⟩ | ⟨iteration, requestedBuckets, before, rfl⟩
  · rcases isSome_before changed registered with
      present | ⟨⟨other, isEvent⟩, isNew⟩
    · exact ordered.unsentNewer connId room _ before present update
        (List.mem_append_right _ member) position frame isFrame
    · exact absurd isNew
        ((freshId other isEvent).processor connId room _ before)
  · cases ordered.collect connId room requestedBuckets before
    exact ordered.collected_newer member isFrame

omit passed in
/-- What a step adds to the lines is new enough. -/
theorem of_lines (serial : Serial faults roomId after later)
    (memory : Memory after.server.pool.shared roomId later)
    (keeps : ∀ bucketId key version,
      Known trace.server.pool.shared.state roomId bucketId key version →
      Known after.server.pool.shared.state roomId bucketId key version)
    (passed : Passage faults trace event after)
    (changed : HubStep trace.server event after.server)
    (meets : KeepsOrder faults roomId trace event) {added : List Frame}
    (lines : ∀ position,
      (line after position).Sublist (line trace position ++ added))
    (sorted : added.Pairwise InOrder)
    (knownAdded : ∀ frame ∈ added,
      Known trace.server.pool.shared.state roomId frame.content.bucketId
        frame.content.key frame.content.bucketCounter)
    (newest : ∀ position, ∀ old ∈ line trace position, ∀ frame ∈ added,
      InOrder old frame)
    (unsentAdded : ∀ connId room updates,
      after.server.processor = .target connId room updates →
      after.server.hub.connections[connId]?.isSome = true →
      ∀ update ∈ updates, ∀ frame ∈ added,
        frame.content.bucketId = update.bucketId →
        frame.content.key = update.key →
        frame.content.bucketCounter ≤ update.keyVersion) :
    Ordered faults roomId after later where
  serial := serial
  memory := memory
  granted := by
    rcases changed.grants_cases with same | ⟨new, isEvent, all⟩
    · exact same ▸ ordered.granted
    · intro granted member
      rw [all, List.mem_append, List.mem_singleton] at member
      rcases member with before | rfl
      · exact ordered.granted granted before
      · exact meets.oneRoom granted isEvent
  collect := ordered.collect_step passed
  known position frame isFrame := by
    rcases List.mem_append.mp ((lines position).subset isFrame) with
      old | new
    · exact keeps _ _ _ (ordered.known position frame old)
    · exact keeps _ _ _ (knownAdded frame new)
  ordered position :=
    (List.pairwise_append.mpr ⟨ordered.ordered position, sorted,
      newest position⟩).sublist (lines position)
  unsentKnown := ordered.unsentKnown_step passed keeps
  unsentNewer connId room updates isTarget registered update member position
      frame isFrame := by
    rcases List.mem_append.mp ((lines position).subset isFrame) with
      old | new
    · exact ordered.unsentNewer_before passed meets.freshId changed connId
        room updates isTarget registered update member position frame old
    · exact unsentAdded connId room updates isTarget registered update member
        frame new

omit passed in
/-- A step that meets the condition keeps the lines in order. -/
theorem step (meets : KeepsOrder faults roomId trace event)
    (stepped : trace.step faults event = some after) :
    ∃ later, Ordered faults roomId after later := by
  have serial := ordered.serial
  have passed := serial.coherent.passage stepped
  have changed := hubStep_of_step stepped
  obtain ⟨later, moved, serialAfter⟩ := serial.step meets.serially stepped
  obtain ⟨memory, keeps⟩ := ordered.memory.step moved
    (fun active isCurrent => (serial.isAt active isCurrent).2)
    (fun active isCurrent isEvent committing => by
      have isAt := (serial.isAt active isCurrent).1
      rw [committing] at isAt
      exact meets.newer active.task active.write isEvent isAt)
  refine ⟨later, ?_⟩
  cases lineStep serial.coherent.roster moved passed changed
      meets.freshId with
  | quiet lines =>
      exact ordered.of_lines serialAfter memory keeps passed changed meets
        (by simpa using lines) .nil (by simp) (by simp) (by simp)
  | announce active assigned roomCounter isCurrent isEvent progress processor
      lines =>
      have isAt := (serial.isAt active isCurrent).1
      have sound := ordered.memory.sound active isCurrent
      rw [Sound, progress] at sound
      rw [progress] at isAt
      obtain ⟨entry, stored, rfl⟩ := sound
      refine ordered.of_lines serialAfter memory keeps passed changed meets
        lines (List.pairwise_singleton _ _) ?_ ?_ ?_
      · intro frame isNew
        cases List.mem_singleton.mp isNew
        exact ⟨entry, stored, UInt64.le_refl _⟩
      · intro position old isOld frame isNew sameBucket sameKey
        cases List.mem_singleton.mp isNew
        obtain ⟨found, isFound, bound⟩ := ordered.known position old isOld
        rw [sameBucket, sameKey] at isFound
        cases stored.symm.trans isFound
        exact bound
      · intro connId room updates isTarget registered update member frame
          isNew sameBucket sameKey
        cases List.mem_singleton.mp isNew
        rw [processor] at isTarget
        rcases isSome_before changed registered with
          present | ⟨⟨_, isRegister⟩, _⟩
        · exact meets.inTime active.task active.write _ _ isEvent isAt connId
            room updates isTarget present update member sameBucket.symm
            sameKey.symm
        · cases isEvent.symm.trans isRegister
  | target connId room update rest isTarget registered processor lines =>
      obtain ⟨known, similar⟩ := ordered.unsentKnown connId room _ isTarget
        update List.mem_cons_self
      refine ordered.of_lines serialAfter memory keeps passed changed meets
        lines (List.pairwise_singleton _ _) ?_ ?_ ?_
      · intro frame isNew
        cases List.mem_singleton.mp isNew
        exact known
      · intro position old isOld frame isNew
        cases List.mem_singleton.mp isNew
        exact ordered.unsentNewer connId room _ isTarget registered update
          List.mem_cons_self position old isOld
      · intro other otherRoom updates isAfter _ next member frame isNew
          sameBucket sameKey
        cases List.mem_singleton.mp isNew
        cases processor.symm.trans isAfter
        have same := similar next (List.mem_cons_of_mem _ member)
          sameBucket.symm sameKey.symm
        exact same ▸ UInt64.le_refl _

end Ordered

/-! ## Runs -/

/--
In a run of serial writes to a room and of its clients, in which no write is
announced while an older fragment of its key is left to be sent to a
registered client, no client is sent an older version after a newer one.
-/
theorem sync_never_overtakes (faults : Faults)
    {kernel : SyncpondKernel Value} (reachable : Kernel.Reachable kernel)
    (drained : kernel.notifications.items = []) (roomId : RoomId)
    {trace : Trace Value}
    (run : Follows (Trace.step faults) (KeepsOrder faults roomId)
      (.start kernel) trace) : NeverOvertakes trace := by
  have writable : ∀ room, kernel.state.rooms[roomId]? = some room →
      room.ioLocked = false ∧ room.txBuffer = none := by
    intro room present
    obtain ⟨store, refines, reachableStore⟩ :=
      KernelStore.exists_store_of_reachable reachable
    have consistent := (Consistency.consistent_of_reachable
      reachableStore).rooms roomId room (refines.state ▸ present)
    exact ⟨consistent.unlocked, consistent.noTransaction⟩
  obtain ⟨current, ordered⟩ := run.invariant
    (fun trace => ∃ current, Ordered faults roomId trace current)
    (fun _ _ _ ⟨_, ordered⟩ meets stepped => ordered.step meets stepped)
    ⟨none, .start faults writable drained⟩
  exact ordered.neverOvertakes

/-- Nothing is left to be sent of an initial sync. -/
def isSent : Processor Value → Bool
  | .target _ _ _ => false
  | _ => true

/-- A check that is enough for `KeepsOrder`. -/
def checkKeepsOrder (roomId : RoomId) (trace : Trace Value)
    (event : ServerEvent Value) : Bool :=
  checkSerially roomId trace event &&
    match event with
    | .connect granted => decide (granted.roomId = roomId)
    | .register _ =>
        isSent trace.server.processor &&
          (waiting trace.server).all fun notification =>
            match notification.content with
            | .broadcast _ => true
            | .targeted _ _ => false
    | .advance task =>
        isSent trace.server.processor &&
          match trace.commands[task]? with
          | some (.writeFragment _ bucketId key _) =>
              trace.server.pool.shared.state.rooms[roomId]?.all fun room =>
                (storedEntry trace.server.pool.shared.state roomId bucketId
                  key).all fun entry =>
                    decide (entry.keyVersion < room.roomCounter + 1)
          | _ => true
    | _ => true

theorem keepsOrder_of_check (faults : Faults) {roomId : RoomId}
    (trace : Trace Value) (event : ServerEvent Value)
    (checked : checkKeepsOrder roomId trace event = true) :
    KeepsOrder faults roomId trace event := by
  obtain ⟨serially, checked⟩ := Bool.and_eq_true_iff.mp checked
  have notTarget {connId : ConnId} {room : RoomId}
      {updates : List (SyncUpdate Value)}
      (sent : isSent trace.server.processor = true)
      (isTarget : trace.server.processor = .target connId room updates) :
      False := by
    rw [isTarget] at sent
    cases sent
  refine ⟨serially_of_check serially, ?_, ?_, ?_, ?_⟩
  · rintro granted rfl
    exact of_decide_eq_true checked
  · rintro position rfl
    obtain ⟨sent, broadcasts⟩ := Bool.and_eq_true_iff.mp checked
    refine ⟨fun notification member connId msg content => ?_,
      fun connId room updates isTarget => (notTarget sent isTarget).elim⟩
    have isBroadcast := List.all_eq_true.mp broadcasts notification member
    simp [content] at isBroadcast
  · rintro task write rfl ⟨isCommand, _⟩ room present entry stored
    have newer := (Bool.and_eq_true_iff.mp checked).2
    simp only [isCommand, WriteArgs.command, present, Option.all_some,
      stored] at newer
    exact of_decide_eq_true newer
  · rintro task write assigned roomCounter rfl _ connId room updates isTarget
    exact (notTarget (Bool.and_eq_true_iff.mp checked).1 isTarget).elim

/-- A snapshot that a write precedes, and then the announcement. -/
theorem sync_never_overtakes_whileConnecting :
    ∃ trace : Trace Json,
      (trace.enqueued 0).map (fun frame => frame.content.bucketCounter) =
        [1, 1] ∧
      NeverOvertakes trace := by
  have ran : (SyncCoverage.writeWhileConnecting.foldlM (fun trace event =>
      if checkKeepsOrder 1 trace event then trace.step .none event
      else none) (.start SilentGaps.restarted)).map (fun trace =>
        (trace.enqueued 0).map fun frame => frame.content.bucketCounter) =
      some [1, 1] := by
    decide +kernel
  obtain ⟨trace, ran, frames⟩ := Option.map_eq_some_iff.mp ran
  exact ⟨trace, frames, sync_never_overtakes .none ⟨_, rfl⟩
    (List.eq_nil_of_length_eq_zero (by decide +kernel)) 1
    (follows_of_checked (keepsOrder_of_check .none) ran)⟩

/-! ## A write between snapshot and send -/

/-- Serial writes to a room and clients of it, and nothing overflows. -/
def OneRoomStream (roomId : RoomId) (trace : Trace Json)
    (event : ServerEvent Json) : Prop :=
  SyncCoverage.SerialAndRoomy .none roomId trace event ∧
    ∀ granted, event = .connect granted → granted.roomId = roomId

/-- The snapshot is taken, then a write commits and is announced. -/
def writeAfterSnapshot : List (ServerEvent Json) :=
  [.connect DroppedClients.firstRoom, .register 0, .greet 0 [0],
    .takeMessage, .lookUp, .collect Reconnect.inOrder,
    .command (.writeFragment 1 0 "key" "2".toUTF8)] ++
    List.replicate 7 (.advance 0) ++
    [.target, .takeNotification, .forward, .takeNotification, .forward]

/-- A check that is enough for `OneRoomStream`. -/
def checkOneRoomStream (roomId : RoomId) (trace : Trace Json)
    (event : ServerEvent Json) : Bool :=
  checkSerially roomId trace event && checkFindsRoom trace event &&
    match event with
    | .connect granted => decide (granted.roomId = roomId)
    | _ => true

theorem oneRoomStream_of_check {roomId : RoomId} (trace : Trace Json)
    (event : ServerEvent Json)
    (checked : checkOneRoomStream roomId trace event = true) :
    OneRoomStream roomId trace event := by
  obtain ⟨checked, oneRoom⟩ := Bool.and_eq_true_iff.mp checked
  obtain ⟨serially, findsRoom⟩ := Bool.and_eq_true_iff.mp checked
  refine ⟨⟨serially_of_check serially, findsRoom_of_check _ _ _ findsRoom⟩,
    ?_⟩
  rintro granted rfl
  exact of_decide_eq_true oneRoom

/-- The older fragment is sent after the announcement of the newer one. -/
theorem snapshot_overtakes :
    ¬∀ kernel : SyncpondKernel Json, Kernel.Reachable kernel →
      kernel.notifications.items = [] →
      ∀ trace, Follows (Trace.step .none) (OneRoomStream 1) (.start kernel)
        trace → NeverOvertakes trace := by
  intro claimed
  have ran : (writeAfterSnapshot.foldlM (fun trace event =>
      if checkOneRoomStream 1 trace event then trace.step .none event
      else none) (.start SilentGaps.restarted)).map (fun trace =>
        (trace.enqueued 0).map fun frame =>
          (frame.content.bucketId, frame.content.key,
            frame.content.bucketCounter)) =
      some [(0, "key", 1), (0, "key", 0)] := by
    decide +kernel
  obtain ⟨trace, ran, frames⟩ := Option.map_eq_some_iff.mp ran
  have ordered := claimed SilentGaps.restarted ⟨_, rfl⟩
    (List.eq_nil_of_length_eq_zero (by decide +kernel)) trace
    (follows_of_checked oneRoomStream_of_check ran) 0
  obtain ⟨newer, rest, isNewer, new, frames⟩ := List.map_eq_cons_iff.mp frames
  obtain ⟨older, _, rfl, old, _⟩ := List.map_eq_cons_iff.mp frames
  simp only [Prod.mk.injEq] at new old
  rw [isNewer] at ordered
  have overtakes := List.rel_of_pairwise_cons ordered List.mem_cons_self
    (new.1.trans old.1.symm) (new.2.1.trans old.2.1.symm)
  rw [new.2.2, old.2.2] at overtakes
  revert overtakes
  decide

end Syncpond.SyncOrder
