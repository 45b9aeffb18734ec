import Syncpond.DeltaSnapshot
import Syncpond.Reconnect
import Syncpond.Registration

/-!
# The initial sync and the snapshot

The kernel traverses a room twice, with two filters: the initial sync looks up
the requested buckets one by one, and `room_snapshot` goes through all buckets
and skips those that a client may not see.  With the buckets of a handshake,
which hold bucket 0 and never the reserved one, both select the same entries.

A sync is followed from the collection of its fragments to its last send.
-/

namespace Syncpond.SyncSnapshot

open Syncpond.Protocol
open Syncpond.Serde
open Syncpond.State
open Syncpond.Kernel
open Syncpond.Tasks
open Syncpond.Registration
open Syncpond.Reads
open Syncpond.DeltaSnapshot
open Syncpond.Library.Maps
open Syncpond.Library.Channels
open Syncpond.Library.Runs

variable {Value : Type}

/-! ## Entries -/

/-- The bucket name and the key that a message is about. -/
def named (msg : DataUpdate Value) : String × String :=
  (RoomState.bucketName msg.bucketId, msg.key)

/-- The entry that a message transfers. -/
def messageEntry (msg : DataUpdate Value) :
    (String × String) × Option Value :=
  (named msg, msg.value)

/-- Nested maps list each pair of keys once. -/
theorem nodup_entries (view : RoomView Value) :
    ((entries view).map Prod.fst).Nodup := by
  rw [entries, List.map_flatMap, List.nodup_flatMap]
  constructor
  · rintro ⟨name, values⟩ _
    rw [List.map_map, List.Nodup, List.pairwise_map]
    refine (pairwise_keys_ne values).imp fun different same => different ?_
    exact congrArg Prod.snd same
  · refine (pairwise_keys_ne view.buckets).imp ?_
    intro one other different target inOne inOther
    simp only [List.map_map, List.mem_map, Function.comp_apply] at inOne inOther
    obtain ⟨_, _, rfl⟩ := inOne
    obtain ⟨_, _, same⟩ := inOther
    exact different (congrArg Prod.fst same).symm

/-! ## The collected fragments -/

section Collected

variable [SerdeJson Value]
variable {iteration : Iteration Value} {app : AppState Value}
variable {roomId : RoomId} {requestedBuckets : List BucketId}

variable (iteration app roomId) in
/-- Each requested bucket contributes each of its keys at most once. -/
theorem nodup_collectUpdates (distinct : requestedBuckets.Nodup) :
    ((collectUpdates iteration app roomId requestedBuckets).map
      fun update => named update.dataUpdate).Nodup := by
  unfold collectUpdates
  cases app.rooms[roomId]? with
  | none => exact List.nodup_nil
  | some room =>
  rw [List.map_flatMap, List.nodup_flatMap]
  constructor
  · intro bucketId _
    cases room.buckets[bucketId]? with
    | none => exact List.nodup_nil
    | some bucket =>
    have keys : ((iteration.entries bucket).map Prod.fst).Nodup := by
      refine ((iteration.complete bucket).map Prod.fst).nodup_iff.mpr ?_
      rw [List.Nodup, List.pairwise_map]
      exact pairwise_keys_ne bucket
    rw [List.Nodup, List.pairwise_map] at keys ⊢
    refine List.Pairwise.filterMap (syncEntry bucketId) ?_ keys
    intro one other different update selected later selectedLater same
    unfold syncEntry at selected selectedLater
    split at selected <;> cases selected
    split at selectedLater <;> cases selectedLater
    exact different (congrArg Prod.snd same)
  · refine distinct.imp ?_
    intro one other different target inOne inOther
    simp only [List.mem_map] at inOne inOther
    obtain ⟨update, member, rfl⟩ := inOne
    obtain ⟨later, memberLater, same⟩ := inOther
    have isOne : update.bucketId = one := by
      split at member
      · cases member
      · exact (mem_filterMap_syncEntry.mp member).1
    have isOther : later.bucketId = other := by
      split at memberLater
      · cases memberLater
      · exact (mem_filterMap_syncEntry.mp memberLater).1
    refine different ?_
    rw [← isOne, ← isOther]
    exact (bucketName_inj.mp (congrArg Prod.fst same)).symm

/-- What a handshake admits is what a snapshot shows. -/
theorem mem_allowedBuckets_iff {claims : Claims} {bucketId : BucketId} :
    bucketId ∈ allowedBuckets serverOnlyBucketId claims ↔
      RoomState.visible (allowedBuckets serverOnlyBucketId claims) bucketId =
        true := by
  unfold allowedBuckets RoomState.visible
  by_cases reserved : bucketId = serverOnlyBucketId
  · simp [reserved]
  · simp [Ne.symm reserved]
    grind

/-- The collected fragments are the entries of the snapshot. -/
theorem perm_entries_snapshot {claims : Claims} {room : RoomState Value}
    (present : app.rooms[roomId]? = some room)
    (perm : requestedBuckets.Perm
      (allowedBuckets serverOnlyBucketId claims).toList) :
    ((collectUpdates iteration app roomId requestedBuckets).map
        fun update => messageEntry update.dataUpdate).Perm
      ((entries (room.snapshot (allowedBuckets serverOnlyBucketId claims))).map
        fun entry => (entry.1, some entry.2)) := by
  have requested {bucketId : BucketId} :
      bucketId ∈ requestedBuckets ↔
        bucketId ∈ allowedBuckets serverOnlyBucketId claims := by
    rw [perm.mem_iff, Std.ExtTreeSet.mem_toList]
  have collected := nodup_collectUpdates iteration app roomId
    (perm.nodup_iff.mpr (nodup_toList _))
  refine (List.perm_ext_iff_of_nodup ?_ ?_).mpr ?_
  · refine List.Nodup.of_map Prod.fst ?_
    rwa [List.map_map]
  · refine List.Nodup.of_map Prod.fst ?_
    rw [List.map_map]
    exact nodup_entries _
  · intro entry
    constructor
    · intro member
      obtain ⟨update, isCollected, same⟩ := List.mem_map.mp member
      cases same
      obtain ⟨isRequested, other, found, stored, live⟩ :=
        mem_collectUpdates_iff.mp isCollected
      cases present.symm.trans found
      refine List.mem_map.mpr ⟨_, mem_entries.mpr ?_, rfl⟩
      have visible := mem_allowedBuckets_iff.mp (requested.mp isRequested)
      simp only [SyncUpdate.dataUpdate, content_snapshot, visible, if_true,
        stored, Option.bind_some, outcome, live, Bool.false_eq_true, if_false]
    · intro member
      obtain ⟨⟨⟨shownName, shownKey⟩, shown⟩, isEntry, same⟩ :=
        List.mem_map.mp member
      subst same
      have isContent := mem_entries.mp isEntry
      by_cases isNamed : ∃ bucketId, RoomState.bucketName bucketId = shownName
      · obtain ⟨bucketId, rfl⟩ := isNamed
        rw [content_snapshot] at isContent
        split at isContent
        · next visible =>
          obtain ⟨entry, stored, isShown⟩ :=
            Option.bind_eq_some_iff.mp isContent
          unfold outcome at isShown
          split at isShown
          · cases isShown
          · next live =>
            cases isShown
            refine List.mem_map.mpr
              ⟨⟨bucketId, shownKey, entry.value, entry.keyVersion⟩, ?_, rfl⟩
            refine mem_collectUpdates_iff.mpr
              ⟨requested.mpr (mem_allowedBuckets_iff.mpr visible), room,
                present, stored, Bool.eq_false_iff.mpr live⟩
        · cases isContent
      · rw [content_snapshot_of_forall_ne room _ shownKey
          fun bucketId equal => isNamed ⟨bucketId, equal⟩] at isContent
        cases isContent

end Collected

/-! ## The way of a sync -/

/-- A server with what its processor put into the notification channel so far. -/
structure Sync (Value : Type) where
  server : Server Value
  sent : List (Sourced (UpdateChannelMessage Value))

/-- What an event left at the end of the notification channel. -/
def appended (before after : Server Value) :
    List (Sourced (UpdateChannelMessage Value)) :=
  after.notifications.items.drop before.notifications.items.length

/-- What the processor sends: all that its event leaves in the channel. -/
def sends (before after : Server Value) :
    ServerEvent Value → List (Sourced (UpdateChannelMessage Value))
  | .target => appended before after
  | _ => []

/-- The processor has a message to send. -/
def HasNext (server : Server Value) : Prop :=
  ∃ connId roomId update rest,
    server.processor = .target connId roomId (update :: rest)

/-- The message that transfers a fragment of a room to a connection. -/
def targeted (connId : ConnId) (roomId : RoomId) (update : SyncUpdate Value) :
    Sourced (UpdateChannelMessage Value) :=
  ⟨roomId, none, .targeted connId update.dataUpdate⟩

namespace Sync

/-- The sync after an event, if the event can happen. -/
def step [SerdeJson Value] (faults : Persistence.Faults) (sync : Sync Value)
    (event : ServerEvent Value) : Option (Sync Value) :=
  (sync.server.step faults event).map fun after =>
    ⟨after, sync.sent ++ sends sync.server after event⟩

/-- No send fails, and the processor does not turn to the next message. -/
def Undisturbed (sync : Sync Value) (event : ServerEvent Value) : Prop :=
  event ≠ .takeMessage ∧
    (event = .target → HasNext sync.server →
      sync.server.notifications.items.length < notificationCapacity)

/-- The fragments were sent in order, up to those that are left. -/
inductive Sending (connId : ConnId) (roomId : RoomId)
    (updates : List (SyncUpdate Value)) (sync : Sync Value) : Prop
  | underWay (rest : List (SyncUpdate Value))
      (isTarget : sync.server.processor = .target connId roomId rest)
      (sent : sync.sent ++ rest.map (targeted connId roomId) =
        updates.map (targeted connId roomId))
  | finished (isIdle : sync.server.processor = .idle)
      (sent : sync.sent = updates.map (targeted connId roomId))

end Sync

/-- The events of the processor of downstream messages. -/
def concernsProcessor : ServerEvent Value → Bool
  | .takeMessage | .lookUp | .collect _ | .target => true
  | _ => false

/-- All other events leave the processor where it is. -/
theorem processor_step [SerdeJson Value] {faults : Persistence.Faults}
    {server after : Server Value} {event : ServerEvent Value}
    (stepped : server.step faults event = some after)
    (other : concernsProcessor event = false) :
    after.processor = server.processor := by
  cases event with
  | command => cases stepped; rfl
  | advance =>
      obtain ⟨pool, _, rfl⟩ := Option.map_eq_some_iff.mp stepped
      rfl
  | connect => cases stepped; rfl
  | register =>
      obtain ⟨_, _, _, _, ⟨_, _, rfl⟩ | rfl⟩ := Server.register_eq_some stepped
      all_goals rfl
  | refuse => obtain ⟨_, _, rfl⟩ := Server.refuse_eq_some stepped; rfl
  | greet =>
      obtain ⟨_, _, _, _, _, rfl⟩ := Server.greet_eq_some stepped
      exact processor_trySend _ _
  | drain => obtain ⟨_, _, _, rfl⟩ := Server.drain_eq_some stepped; rfl
  | receive => obtain ⟨_, _, rfl⟩ := Server.receive_eq_some stepped; rfl
  | leave => obtain ⟨_, _, rfl⟩ := Server.leave_eq_some stepped; rfl
  | processClientMessage =>
      obtain ⟨_, _, _, _, ⟨_, rfl⟩ | rfl⟩ :=
        Server.processClientMessage_eq_some stepped
      all_goals rfl
  | ask =>
      obtain ⟨_, _, _, _, ⟨_, delivered⟩ | ⟨_, rfl⟩⟩ :=
        Server.ask_eq_some stepped
      · obtain ⟨_, _, rfl⟩ := Server.deliver_eq_some delivered
        rfl
      · rfl
  | send =>
      obtain ⟨_, _, _, _, delivered⟩ := Server.send_eq_some stepped
      obtain ⟨_, _, rfl⟩ := Server.deliver_eq_some delivered
      rfl
  | remove => obtain ⟨_, _, _, rfl⟩ := Server.remove_eq_some stepped; rfl
  | depart =>
      obtain ⟨_, _, rfl⟩ := Server.depart_eq_some stepped
      exact processor_trySend _ _
  | takeMessage => cases other
  | lookUp => cases other
  | collect => cases other
  | target => cases other
  | takeNotification =>
      obtain ⟨_, _, _, _, rfl⟩ := Server.takeNotification_eq_some stepped
      rfl
  | forward => obtain ⟨_, _, rfl⟩ := Server.forward_eq_some stepped; rfl

section Sending

variable [SerdeJson Value] {faults : Persistence.Faults}
variable {sync after : Sync Value} {event : ServerEvent Value}
variable {connId : ConnId} {roomId : RoomId}
variable {updates : List (SyncUpdate Value)}

namespace Sync

/-- A send goes on with the next fragment, or ends after the last one. -/
theorem Sending.target (sending : Sending connId roomId updates sync)
    (undisturbed : Undisturbed sync .target)
    (stepped : sync.step faults .target = some after) :
    Sending connId roomId updates after := by
  obtain ⟨server, served, rfl⟩ := Option.map_eq_some_iff.mp stepped
  obtain ⟨_, _, rest, isTarget, moved⟩ := Server.target_eq_some served
  cases sending with
  | finished isIdle => cases isIdle.symm.trans isTarget
  | underWay _ isNow sent =>
  cases isTarget.symm.trans isNow
  rcases moved with ⟨update, later, channel, rfl, items, rfl⟩ | ⟨isFull, rfl⟩
  · have added : sends sync.server
        { sync.server.withNotifications channel with
          processor := .target connId roomId later } .target =
        [targeted connId roomId update] := by
      change channel.items.drop sync.server.notifications.items.length = _
      rw [items, List.drop_left]
      rfl
    refine .underWay later rfl ?_
    dsimp only
    rw [added, List.append_assoc]
    exact sent
  · have nothing : sends sync.server
        { sync.server with processor := .idle } .target = [] :=
      List.drop_length
    cases rest with
    | nil =>
        refine .finished rfl ?_
        dsimp only
        rw [nothing, List.append_nil]
        simpa using sent
    | cons update later =>
        have finds := undisturbed.2 rfl ⟨_, _, _, _, isTarget⟩
        exact absurd (isFull (List.cons_ne_nil _ _)) (Nat.not_le.mpr finds)

/-- While a sync is under way, only its sends and the next message move it. -/
theorem Sending.processor_eq (sending : Sending connId roomId updates sync)
    {server : Server Value} (served : sync.server.step faults event = some server)
    (notNext : event ≠ .takeMessage) (notTarget : event ≠ .target) :
    server.processor = sync.server.processor := by
  cases concerns : concernsProcessor event with
  | false => exact processor_step served concerns
  | true =>
      cases event with
      | takeMessage => exact absurd rfl notNext
      | target => exact absurd rfl notTarget
      | lookUp =>
          obtain ⟨_, _, isLookup, _⟩ := Server.lookUp_eq_some served
          cases sending with
          | underWay _ isNow => cases isNow.symm.trans isLookup
          | finished isIdle => cases isIdle.symm.trans isLookup
      | collect =>
          obtain ⟨_, _, _, isCollect, _⟩ := Server.collect_eq_some served
          cases sending with
          | underWay _ isNow => cases isNow.symm.trans isCollect
          | finished isIdle => cases isIdle.symm.trans isCollect
      | _ => cases concerns

/-- Every event of an undisturbed sync goes on with it. -/
theorem Sending.step (sending : Sending connId roomId updates sync)
    (undisturbed : Undisturbed sync event)
    (stepped : sync.step faults event = some after) :
    Sending connId roomId updates after := by
  by_cases isTarget : event = .target
  · subst isTarget
    exact sending.target undisturbed stepped
  · obtain ⟨server, served, rfl⟩ := Option.map_eq_some_iff.mp stepped
    have nothing : sends sync.server server event = [] := by
      cases event <;> first | rfl | exact absurd rfl isTarget
    have stays := sending.processor_eq served undisturbed.1 isTarget
    cases sending with
    | underWay rest isNow sent =>
        exact .underWay rest (stays.trans isNow)
          (by simpa [nothing] using sent)
    | finished isIdle sent =>
        exact .finished (stays.trans isIdle) (by simpa [nothing] using sent)

end Sync

/--
What the processor put into the notification channel when the sync is over,
all of it addressed to the client and about its room, are the entries of the
snapshot of the room for the buckets of the client, and no key is sent twice.
-/
theorem initialSync_eq_snapshot (faults : Persistence.Faults)
    {server collected : Server Value} {final : Sync Value}
    {iteration : Iteration Value} {connId : ConnId} {roomId : RoomId}
    {requestedBuckets : List BucketId} {claims : Claims}
    {room : RoomState Value}
    (isCollect :
      server.processor = .collect connId roomId requestedBuckets)
    (perm : requestedBuckets.Perm
      (allowedBuckets serverOnlyBucketId claims).toList)
    (present : server.pool.shared.state.rooms[roomId]? = some room)
    (stepped : server.step faults (.collect iteration) = some collected)
    (run : Follows (Sync.step faults) Sync.Undisturbed ⟨collected, []⟩ final)
    (isOver : final.server.processor = .idle) :
    (∀ message ∈ final.sent, message.origin = roomId ∧
      message.content = .targeted connId message.content.update) ∧
    (final.sent.map fun message => named message.content.update).Nodup ∧
    ∃ view,
      server.pool.shared.state.roomSnapshot roomId
        (allowedBuckets serverOnlyBucketId claims) = some view ∧
      (final.sent.map fun message =>
          messageEntry message.content.update).Perm
        ((entries view).map fun entry => (entry.1, some entry.2)) := by
  obtain ⟨_, _, _, isNow, rfl⟩ := Server.collect_eq_some stepped
  cases isCollect.symm.trans isNow
  have sending := run.invariant
    (Sync.Sending connId roomId (collectUpdates iteration
      server.pool.shared.state roomId requestedBuckets))
    (fun _ _ _ sending undisturbed stepped =>
      sending.step undisturbed stepped)
    (.underWay _ rfl rfl)
  have sent : final.sent =
      (collectUpdates iteration server.pool.shared.state roomId
        requestedBuckets).map (targeted connId roomId) := by
    cases sending with
    | underWay _ isTarget => cases isOver.symm.trans isTarget
    | finished _ sent => exact sent
  refine ⟨?_, ?_, room.snapshot (allowedBuckets serverOnlyBucketId claims),
    ?_, ?_⟩
  · intro message member
    rw [sent] at member
    obtain ⟨update, _, rfl⟩ := List.mem_map.mp member
    exact ⟨rfl, rfl⟩
  · rw [sent, List.map_map]
    exact nodup_collectUpdates iteration _ roomId
      (perm.nodup_iff.mpr (nodup_toList _))
  · rw [AppState.roomSnapshot, present, Option.map_some]
  · rw [sent, List.map_map]
    exact perm_entries_snapshot present perm

end Sending

/-! ## A sync of two buckets -/

/-- Room 1 with two fragments in granted buckets, a tombstone, and a fragment in another bucket. -/
def written : SyncpondKernel Json :=
  run (boot .none ∅)
    [.command (.newRoom "room"),
      .command (.writeFragment 1 0 "key" "1".toUTF8),
      .command (.writeFragment 1 7 "key" "true".toUTF8),
      .command (.writeFragment 1 7 "gone" "null".toUTF8),
      .command (.writeFragment 1 8 "key" "2".toUTF8)]

/-- The processor is about to collect the fragments of connection 1. -/
def collecting : Server Json :=
  { Server.start written with processor := .collect 1 1 [7, 0] }

/-- A send that finds room. -/
def checkSend (sync : Sync Json) : ServerEvent Json → Bool
  | .target =>
      decide (sync.server.notifications.items.length < notificationCapacity)
  | _ => false

theorem undisturbed_of_check {sync : Sync Json} {event : ServerEvent Json}
    (checked : checkSend sync event = true) : sync.Undisturbed event := by
  unfold checkSend at checked
  split at checked
  · exact ⟨by simp, fun _ _ => of_decide_eq_true checked⟩
  · cases checked

/-- Two fragments were sent, and the processor is idle. -/
def checkSent (final : Sync Json) : Bool :=
  decide (final.sent.length = 2) &&
    match final.server.processor with
    | .idle => true
    | _ => false

theorem initialSync_eq_snapshot_written :
    ∃ (sent : List (Sourced (UpdateChannelMessage Json)))
        (view : RoomView Json),
      sent.length = 2 ∧
      (∀ message ∈ sent, message.origin = 1 ∧
        message.content = .targeted 1 message.content.update) ∧
      written.state.roomSnapshot 1
        (allowedBuckets serverOnlyBucketId ⟨some 1, some [7]⟩) = some view ∧
      (sent.map fun message => messageEntry message.content.update).Perm
        ((entries view).map fun entry => (entry.1, some entry.2)) := by
  have ran : ((collecting.step .none (.collect Reconnect.inOrder)).bind
      fun collected =>
        [ServerEvent.target, .target, .target].foldlM
          (fun sync event =>
            if checkSend sync event then sync.step .none event else none)
          ⟨collected, []⟩).map checkSent = some true := by
    decide +kernel
  have present : (written.state.rooms[(1 : RoomId)]?).isSome = true := by
    decide +kernel
  obtain ⟨room, isRoom⟩ := Option.isSome_iff_exists.mp present
  obtain ⟨final, sends, checked⟩ := Option.map_eq_some_iff.mp ran
  obtain ⟨collected, isCollected, sent⟩ := Option.bind_eq_some_iff.mp sends
  obtain ⟨both, isIdle⟩ := Bool.and_eq_true_iff.mp checked
  have isOver : final.server.processor = .idle := by
    split at isIdle
    · assumption
    · cases isIdle
  have perm : [7, 0].Perm
      (allowedBuckets serverOnlyBucketId ⟨some 1, some [7]⟩).toList := by
    decide +kernel
  obtain ⟨addressed, _, view, isView, same⟩ :=
    initialSync_eq_snapshot .none rfl perm isRoom isCollected
      (follows_of_checked (fun _ _ => undisturbed_of_check) sent) isOver
  exact ⟨final.sent, view, of_decide_eq_true both, addressed, isView, same⟩

end Syncpond.SyncSnapshot
