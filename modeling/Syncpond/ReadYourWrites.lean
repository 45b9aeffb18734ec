import Syncpond.RaceSections
import Syncpond.UpstreamLinearization

/-!
# Clients read what they wrote

`respond_cases` says what a request handled alone can do to the rooms.  From
it follows what an acknowledged write promises: a read that arrives after the
acknowledgement returns the value that was written, unless a request that was
in progress in the meantime took it away.
-/

namespace Syncpond.ReadYourWrites

open Syncpond.Protocol
open Syncpond.Serde
open Syncpond.State
open Syncpond.Kernel
open Syncpond.Tokens
open Syncpond.Upstream
open Syncpond.ApiKey
open Syncpond.UpstreamReplies
open Syncpond.UpstreamLinearization
open Syncpond.RaceInvariant.Sound (unlocked_loadData noTransaction_loadData)
open Syncpond.RoomEffects (getNested_insertIfNew_empty getNested_erase_of_ne)
open Syncpond.Library.Linearization
open Syncpond.Library.Maps
open Syncpond.Library.Programs
open Syncpond.Library.Runs
open Syncpond.Library.Text

variable {Value : Type} [SerdeJson Value]

/-! ## What a request does to the rooms -/

/-- The change of a room that a request makes. -/
def Changes (request : Request) (roomId : RoomId)
    (room changed : RoomState Value) : Prop :=
  match request with
  | .newBucket other bucketId label =>
      other = roomId ∧
        changed = RoomEffect.newBucket bucketId (trim label) room
  | .deleteBucket other bucketId =>
      other = roomId ∧ changed = RoomEffect.deleteBucket bucketId room
  | .newMember other member =>
      other = roomId ∧ changed = RoomEffect.newMember (trim member) room
  | .deleteMember other member =>
      other = roomId ∧ changed = RoomEffect.deleteMember (trim member) room
  | .writeFragment other bucketId key data =>
      other = roomId ∧
        room.setFragment bucketId key (SerdeJson.parsePayload data) =
          .ok changed
  | .loadRoom other =>
      other = roomId ∧ ∃ data : RoomData Value,
        changed = room.loadData data.bucketDefs data.members data.fragments
  | .unloadRoom other => other = roomId ∧ changed = room.unload
  | _ => False

/-- What becomes of the rooms. -/
inductive RoomsAfter (request : Request) (before after : AppState Value) :
    Prop
  | same (rooms : after.rooms = before.rooms)
      (next : after.nextRoomId = before.nextRoomId)
  | created (name : String) (isRequest : request = .newRoom name)
      (rooms : after.rooms =
        before.rooms.insert before.nextRoomId (.fresh true))
      (next : after.nextRoomId = before.nextRoomId + 1)
  | deleted (roomId : RoomId) (isRequest : request = .deleteRoom roomId)
      (rooms : after.rooms = before.rooms.erase roomId)
      (next : after.nextRoomId = before.nextRoomId)
  | changed (roomId : RoomId) (room changed : RoomState Value)
      (found : before.rooms[roomId]? = some room)
      (changes : Changes request roomId room changed)
      (rooms : after.rooms = before.rooms.insert roomId changed)
      (next : after.nextRoomId = before.nextRoomId)

section Cases

variable {request : Request} {app after : AppState Value}

theorem roomsAfter_changeRoom {roomId : RoomId}
    {effect : RoomState Value → RoomState Value} {response : Response}
    (changes : ∀ room, Changes request roomId room (effect room)) :
    RoomsAfter request app (changeRoom app roomId effect response).2 := by
  unfold changeRoom
  cases found : app.rooms[roomId]? with
  | none => exact .same rfl rfl
  | some room =>
      dsimp only
      split
      · exact .changed roomId room _ found (changes room) rfl rfl
      · exact .same rfl rfl

/-- What becomes of the rooms when a room is changed or is not found. -/
theorem roomsAfter_withRoom {roomId : RoomId}
    {mutate : RoomState Value → Except StateError (RoomState Value)}
    (changes : ∀ room changed, mutate room = .ok changed →
      Changes request roomId room changed)
    (mutated : app.withRoom roomId mutate = .ok after) :
    RoomsAfter request app after := by
  unfold AppState.withRoom at mutated
  split at mutated
  · cases mutated
  · next room found =>
    cases result : mutate room with
    | error error =>
        rw [result] at mutated
        cases mutated
    | ok changed =>
        rw [result] at mutated
        cases mutated
        exact .changed roomId room changed found (changes room changed result)
          rfl rfl

omit [SerdeJson Value] in
/-- A label does not change the rooms. -/
theorem rooms_labelRoom (app : AppState Value) (roomId : RoomId)
    (name : String) :
    (labelRoom app roomId name).rooms = app.rooms ∧
      (labelRoom app roomId name).nextRoomId = app.nextRoomId := by
  unfold labelRoom
  split
  · exact ⟨rfl, rfl⟩
  · cases labelled : app.setRoomLabel roomId name with
    | error error => exact ⟨rfl, rfl⟩
    | ok after =>
        obtain ⟨labels, rfl⟩ := exists_setRoomLabel_eq labelled
        exact ⟨rfl, rfl⟩

/-- What a request that is handled alone does to the rooms. -/
theorem respond_cases (environment : Environment)
    (loaded : Except String (RoomData Value)) (app : AppState Value)
    (request : Request) :
    RoomsAfter request app (respond environment loaded app request).2 := by
  cases request with
  | newRoom name =>
      obtain ⟨rooms, next⟩ :=
        rooms_labelRoom app.createRoom.1 app.nextRoomId name
      exact .created name rfl rooms next
  | listRooms => exact .same rfl rfl
  | deleteRoom roomId =>
      simp only [respond, AppState.deleteRoom]
      split
      · exact .deleted roomId rfl rfl rfl
      · exact .same rfl rfl
  | issueJwt roomId sub buckets =>
      rcases createRoomToken_cases environment.jwt environment.buckets
        environment.now app roomId sub buckets with
        ⟨error, issued⟩ | ⟨token, issued⟩
      · simp only [respond, issued]
        exact .same rfl rfl
      · simp only [respond, issued]
        exact .same rfl rfl
  | newBucket roomId bucketId label =>
      exact roomsAfter_changeRoom fun _ => ⟨rfl, rfl⟩
  | deleteBucket roomId bucketId =>
      exact roomsAfter_changeRoom fun _ => ⟨rfl, rfl⟩
  | newMember roomId member => exact roomsAfter_changeRoom fun _ => ⟨rfl, rfl⟩
  | deleteMember roomId member =>
      exact roomsAfter_changeRoom fun _ => ⟨rfl, rfl⟩
  | listMembers roomId => exact .same rfl rfl
  | listBuckets roomId => exact .same rfl rfl
  | readFragment roomId bucketId key => exact .same rfl rfl
  | writeFragment roomId bucketId key data =>
      simp only [respond]
      split
      · cases written : app.setFragment roomId bucketId key
            (SerdeJson.parsePayload data) with
        | error error => exact .same rfl rfl
        | ok after =>
            exact roomsAfter_withRoom (fun _ _ stored => ⟨rfl, stored⟩) written
      · exact .same rfl rfl
  | loadRoom roomId =>
      cases loaded with
      | error text => exact .same rfl rfl
      | ok data =>
          simp only [respond]
          cases installed : app.loadRoomData roomId data.bucketDefs data.members
              data.fragments with
          | error error => exact .same rfl rfl
          | ok after =>
              refine roomsAfter_withRoom (fun room changed read => ?_) installed
              cases read
              exact ⟨rfl, data, rfl⟩
  | unloadRoom roomId =>
      simp only [respond]
      cases unloaded : app.unloadRoom roomId with
      | error error => exact .same rfl rfl
      | ok after =>
          refine roomsAfter_withRoom (fun room changed evicted => ?_) unloaded
          cases evicted
          exact ⟨rfl, rfl⟩

end Cases

/-! ## What requests keep -/

/-- Nothing holds a room up, and there are ids for more rooms. -/
structure Calm (rest : Nat) (app : AppState Value) : Prop where
  rooms : ∀ (roomId : RoomId) (room : RoomState Value),
    app.rooms[roomId]? = some room →
      room.ioLocked = false ∧ room.txBuffer = none
  below : ∀ (roomId : RoomId) (room : RoomState Value),
    app.rooms[roomId]? = some room → roomId < app.nextRoomId
  fits : app.nextRoomId.toNat + rest < UInt64.size

/-- A loaded room has the value in memory. -/
def Stores (roomId : RoomId) (bucketId : BucketId) (key : String)
    (value : Value) (app : AppState Value) : Prop :=
  ∃ room version, app.rooms[roomId]? = some room ∧ room.loaded = true ∧
    getNested room.buckets bucketId key = some ⟨value, version⟩

/-- The request takes no fragment away and writes no other value to it. -/
def Leaves (roomId : RoomId) (bucketId : BucketId) (key : String) :
    Request → Prop
  | .deleteRoom other => other ≠ roomId
  | .unloadRoom other => other ≠ roomId
  | .loadRoom other => other ≠ roomId
  | .deleteBucket other deleted => ¬(other = roomId ∧ deleted = bucketId)
  | .writeFragment other written name _ =>
      ¬(other = roomId ∧ written = bucketId ∧ name = key)
  | _ => True

section Keeps

variable {request : Request} {app after : AppState Value}
variable {roomId : RoomId} {room changed : RoomState Value}

omit [SerdeJson Value] in
/-- What a write stores in a room that nothing holds up. -/
theorem setFragment_eq_store {bucketId : BucketId} {key : String}
    {value : Value} (unlocked : room.ioLocked = false)
    (noTransaction : room.txBuffer = none)
    (stored : room.setFragment bucketId key value = .ok changed) :
    room.loaded = true ∧ changed = room.store bucketId key value := by
  unfold RoomState.setFragment at stored
  rw [unlocked, noTransaction] at stored
  cases isLoaded : room.loaded with
  | false =>
      rw [isLoaded] at stored
      cases stored
  | true =>
      rw [isLoaded] at stored
      cases stored
      exact ⟨rfl, rfl⟩

theorem calm_changes (changes : Changes request roomId room changed)
    (calm : room.ioLocked = false ∧ room.txBuffer = none) :
    changed.ioLocked = false ∧ changed.txBuffer = none := by
  unfold Changes at changes
  split at changes
  · obtain ⟨_, rfl⟩ := changes
    exact calm
  · obtain ⟨_, rfl⟩ := changes
    exact calm
  · obtain ⟨_, rfl⟩ := changes
    unfold RoomEffect.newMember
    split <;> exact calm
  · obtain ⟨_, rfl⟩ := changes
    exact calm
  · obtain ⟨_, rfl⟩ := setFragment_eq_store calm.1 calm.2 changes.2
    exact calm
  · obtain ⟨_, data, rfl⟩ := changes
    rw [unlocked_loadData, noTransaction_loadData]
    exact calm
  · obtain ⟨_, rfl⟩ := changes
    exact calm
  · exact changes.elim

theorem calm_step {rest : Nat} (calm : Calm (rest + 1) app)
    (rooms : RoomsAfter request app after) : Calm rest after := by
  have fits := calm.fits
  cases rooms with
  | same rooms next =>
      refine ⟨?_, ?_, ?_⟩
      · rw [rooms]
        exact calm.rooms
      · rw [rooms, next]
        exact calm.below
      · rw [next]
        omega
  | created name isRequest rooms next =>
      have one : app.nextRoomId.toNat + 1 < UInt64.size := by omega
      have succ := toNat_succ one
      have below := lt_succ one
      refine ⟨?_, ?_, ?_⟩
      · intro other room found
        rw [rooms, lookup_insert] at found
        split at found
        · cases found
          exact ⟨rfl, rfl⟩
        · exact calm.rooms other room found
      · intro other room found
        rw [rooms, lookup_insert] at found
        rw [next]
        split at found
        · next same => exact same ▸ below
        · exact UInt64.lt_trans (calm.below other room found) below
      · rw [next, succ]
        omega
  | deleted other isRequest rooms next =>
      refine ⟨?_, ?_, ?_⟩
      · intro kept room found
        rw [rooms, lookup_erase] at found
        split at found
        · cases found
        · exact calm.rooms kept room found
      · intro kept room found
        rw [rooms, lookup_erase] at found
        rw [next]
        split at found
        · cases found
        · exact calm.below kept room found
      · rw [next]
        omega
  | changed other room changed found changes rooms next =>
      refine ⟨?_, ?_, ?_⟩
      · intro kept old isOld
        rw [rooms, lookup_insert] at isOld
        split at isOld
        · cases isOld
          exact calm_changes changes (calm.rooms other room found)
        · exact calm.rooms kept old isOld
      · intro kept old isOld
        rw [rooms, lookup_insert] at isOld
        rw [next]
        split at isOld
        · next same => exact same ▸ calm.below other room found
        · exact calm.below kept old isOld
      · rw [next]
        omega

variable {bucketId : BucketId} {key : String} {value : Value}

/-- A change of the room leaves the fragment in memory. -/
theorem stored_changes (changes : Changes request roomId room changed)
    (leaves : Leaves roomId bucketId key request)
    (calm : room.ioLocked = false ∧ room.txBuffer = none)
    {version : UInt64} (isLoaded : room.loaded = true)
    (stored : getNested room.buckets bucketId key = some ⟨value, version⟩) :
    changed.loaded = true ∧
      getNested changed.buckets bucketId key = some ⟨value, version⟩ := by
  unfold Changes at changes
  split at changes
  · obtain ⟨_, rfl⟩ := changes
    refine ⟨isLoaded, ?_⟩
    rw [RoomEffect.newBucket, getNested_insertIfNew_empty]
    exact stored
  · next other deleted =>
    obtain ⟨isRoom, rfl⟩ := changes
    refine ⟨isLoaded, ?_⟩
    rw [RoomEffect.deleteBucket, getNested_erase_of_ne]
    · exact stored
    · exact fun same => leaves ⟨isRoom, same⟩
  · obtain ⟨_, rfl⟩ := changes
    unfold RoomEffect.newMember
    split <;> exact ⟨isLoaded, stored⟩
  · obtain ⟨_, rfl⟩ := changes
    exact ⟨isLoaded, stored⟩
  · next other written name data =>
    obtain ⟨isRoom, written⟩ := changes
    obtain ⟨_, rfl⟩ := setFragment_eq_store calm.1 calm.2 written
    refine ⟨isLoaded, ?_⟩
    rw [RoomState.store, getNested_insertNested, if_neg, stored]
    rintro ⟨rfl, rfl⟩
    exact leaves ⟨isRoom, rfl, rfl⟩
  · next other =>
    exact absurd changes.1 leaves
  · next other =>
    exact absurd changes.1 leaves
  · exact changes.elim

theorem stores_step {rest : Nat} (calm : Calm rest app)
    (rooms : RoomsAfter request app after)
    (leaves : Leaves roomId bucketId key request)
    (stores : Stores roomId bucketId key value app) :
    Stores roomId bucketId key value after := by
  obtain ⟨room, version, found, isLoaded, stored⟩ := stores
  cases rooms with
  | same rooms next => exact ⟨room, version, rooms ▸ found, isLoaded, stored⟩
  | created name isRequest rooms next =>
      have different : app.nextRoomId ≠ roomId :=
        (UInt64.ne_of_lt (calm.below roomId room found)).symm
      refine ⟨room, version, ?_, isLoaded, stored⟩
      rw [rooms, lookup_insert, if_neg different]
      exact found
  | deleted other isRequest rooms next =>
      subst isRequest
      refine ⟨room, version, ?_, isLoaded, stored⟩
      rw [rooms, lookup_erase, if_neg leaves]
      exact found
  | changed other before changed isBefore changes rooms next =>
      by_cases same : other = roomId
      · subst same
        cases isBefore.symm.trans found
        obtain ⟨isLoaded, stored⟩ := stored_changes changes leaves
          (calm.rooms other room found) isLoaded stored
        refine ⟨changed, version, ?_, isLoaded, stored⟩
        rw [rooms, lookup_insert, if_pos rfl]
      · refine ⟨room, version, ?_, isLoaded, stored⟩
        rw [rooms, lookup_insert, if_neg same]
        exact found

end Keeps

/-! ## Sessions -/

/-- The reply to a read of what was written. -/
def readBack (parsed : Value) : Reply :=
  if SerdeJson.isNull parsed then .ok (.readFragment .empty false)
  else
    match SerdeJson.value.toVec parsed with
    | .ok bytes => .ok (.readFragment bytes true)
    | .error _ => .ok (.readFragment .empty false)

/-- What is in memory is read. -/
theorem readResult_of_stores {rest : Nat} {app : AppState Value}
    {roomId : RoomId} {bucketId : BucketId} {key : String} {value : Value}
    (calm : Calm rest app) (stores : Stores roomId bucketId key value app) :
    readResult app roomId bucketId key = readBack value := by
  obtain ⟨room, version, found, isLoaded, stored⟩ := stores
  obtain ⟨bucket, isBucket, isFragment⟩ := Option.bind_eq_some_iff.mp stored
  have unlocked := (calm.rooms roomId room found).1
  have isRead : app.getFragment roomId bucketId key =
      if SerdeJson.isNull value then .error .fragmentTombstone
      else .ok (value, version) := by
    simp only [AppState.getFragment, AppState.readRoom, found,
      RoomState.getFragment, unlocked, isLoaded, isBucket, isFragment]
    simp
  unfold readResult readBack
  rw [isRead]
  cases SerdeJson.isNull value with
  | true => rfl
  | false => rfl

/-- What a write that is acknowledged leaves in memory. -/
theorem stores_of_written {rest : Nat} {environment : Environment}
    {loaded : Except String (RoomData Value)} {app after : AppState Value}
    {roomId : RoomId} {bucketId : BucketId} {key : String}
    {data : FragmentData} (calm : Calm rest app)
    (written : respond environment loaded app
      (.writeFragment roomId bucketId key data) = (.ok .writeFragment, after)) :
    Stores roomId bucketId key (SerdeJson.parsePayload data) after := by
  simp only [respond] at written
  split at written
  · next isLoaded =>
    obtain ⟨room, found, resident⟩ := isRoomLoaded_iff.mp isLoaded
    obtain ⟨unlocked, noTransaction⟩ := calm.rooms roomId room found
    have stored : app.setFragment roomId bucketId key
        (SerdeJson.parsePayload data) = .ok { app with
          rooms := app.rooms.insert roomId (room.store bucketId key
            (SerdeJson.parsePayload data)) } := by
      simp [AppState.setFragment, AppState.withRoom, found,
        RoomState.setFragment, unlocked, resident, noTransaction, Except.map]
    rw [stored] at written
    cases written
    refine ⟨room.store bucketId key (SerdeJson.parsePayload data),
      room.roomCounter + 1, ?_, resident, ?_⟩
    · exact (lookup_insert ..).trans (if_pos rfl)
    · exact (getNested_insertNested ..).trans (if_pos ⟨rfl, rfl⟩)
  · cases written

/-- What a request handled alone does to the rooms, as the session allows it. -/
theorem roomsAfter_of_allows {served : Served} {before after : AppState Value}
    {reply : Reply} (allowed : (api Value).allows served before reply after) :
    RoomsAfter served.request before after := by
  obtain ⟨loaded, handled⟩ := allowed
  have rooms := respond_cases served.environment loaded before served.request
  rw [handled] at rooms
  exact rooms

theorem calm_sequential {start memory : AppState Value}
    {log : List (Entry Served Reply)}
    (sequential : (api Value).Sequential start log memory) (rest : Nat)
    (calm : Calm (log.length + rest) start) : Calm rest memory := by
  induction sequential generalizing rest with
  | nil => simpa using calm
  | snoc front allowed ih =>
      rw [List.length_append, List.length_singleton, Nat.add_assoc,
        Nat.add_comm 1] at calm
      exact calm_step (ih (rest + 1) calm) (roomsAfter_of_allows allowed)

theorem stores_sequential {start memory : AppState Value}
    {log : List (Entry Served Reply)}
    (sequential : (api Value).Sequential start log memory) (rest : Nat)
    (calm : Calm (log.length + rest) start) {roomId : RoomId}
    {bucketId : BucketId} {key : String} {value : Value}
    (leaves : ∀ entry ∈ log, Leaves roomId bucketId key entry.call.request)
    (stores : Stores roomId bucketId key value start) :
    Stores roomId bucketId key value memory := by
  induction sequential generalizing rest with
  | nil => exact stores
  | @snoc log memory after entry front allowed ih =>
      rw [List.length_append, List.length_singleton, Nat.add_assoc,
        Nat.add_comm 1] at calm
      have stored := ih (rest + 1) calm fun other member =>
        leaves other (List.mem_append_left _ member)
      exact stores_step (calm_sequential front (rest + 1) calm)
        (roomsAfter_of_allows allowed)
        (leaves entry (List.mem_append_right _ List.mem_cons_self)) stored

omit [SerdeJson Value] in
theorem Calm.mono {fewer more : Nat} {app : AppState Value}
    (calm : Calm more app) (le : fewer ≤ more) : Calm fewer app :=
  ⟨calm.rooms, calm.below, Nat.lt_of_le_of_lt
    (Nat.add_le_add_left le _) calm.fits⟩

/-- No more requests took effect than arrived. -/
theorem length_log_le {session : Session Value} {start memory : AppState Value}
    {log : List (Entry Served Reply)}
    (linearizes : (api Value).Linearizes session start log memory) :
    log.length ≤ session.calls.length := by
  have inside : log.map Entry.task ⊆ List.range session.calls.length := by
    intro task member
    obtain ⟨entry, isEntry, rfl⟩ := List.mem_map.mp member
    exact List.mem_range.mpr
      (List.getElem?_eq_some_iff.mp (linearizes.arrived entry isEntry)).1
  simpa using (List.subperm_of_subset linearizes.once inside).length_le

/--
A write was acknowledged before a read of the same fragment arrived, and the
requests in between leave the fragment alone: those that had no reply when the
write arrived, and arrived before the read had one.
-/
structure ReadAfterWrite (session : Session Value) (write read : Nat)
    (roomId : RoomId) (bucketId : BucketId) (key : String)
    (data : FragmentData) : Prop where
  writer : ∃ served, session.calls[write]? = some served ∧
    served.request = .writeFragment roomId bucketId key data
  reader : ∃ served, session.calls[read]? = some served ∧
    served.request = .readFragment roomId bucketId key
  acknowledged : session.pool.tasks[write]? = some (.done (.ok .writeFragment))
  arrived : ∃ before, session.earlier[read]? = some before ∧ write ∈ before
  others : ∀ (other : Nat) (served : Served),
    session.calls[other]? = some served →
    (∀ before, session.earlier[write]? = some before → other ∉ before) →
    (∀ before, session.earlier[other]? = some before → read ∉ before) →
    other ≠ write → Leaves roomId bucketId key served.request

/-- A read that arrives after a write was acknowledged returns what it wrote. -/
theorem reads_what_was_written {server : GrpcServer}
    {kernel : SyncpondKernel Value} {session : Session Value}
    (follows : Follows (Session.step server) Spares (.start kernel) session)
    (calm : Calm session.calls.length kernel.state) {write read : Nat}
    {roomId : RoomId} {bucketId : BucketId} {key : String}
    {data : FragmentData}
    (ordered : ReadAfterWrite session write read roomId bucketId key data)
    {reply : Reply}
    (answered : session.pool.tasks[read]? = some (.done reply)) :
    reply = readBack (SerdeJson.parsePayload data : Value) := by
  obtain ⟨log, memory, linearizes⟩ :=
    Object.linearizable (lawful_api Value) (follows_api follows)
  obtain ⟨writer, isWriter, writes⟩ := ordered.writer
  obtain ⟨reader, isReader, reads⟩ := ordered.reader
  obtain ⟨before, arrived, returned⟩ := ordered.arrived
  obtain ⟨entry, isEntry, isRead, replied⟩ :=
    linearizes.results read reply answered
  obtain ⟨front, back, middle, one, two, rfl, isFirst, isSecond, between⟩ :=
    linearizes.between arrived returned
      (List.mem_map.mpr ⟨entry, isEntry, isRead⟩)
  have enough := length_log_le linearizes
  simp only [List.length_append, List.length_cons] at enough
  have inLog : one ∈ front ++ one :: (middle ++ two :: back) := by simp
  have alsoInLog : two ∈ front ++ one :: (middle ++ two :: back) := by simp
  -- The write took effect with its acknowledgement, and the read with its reply.
  have isWrite : one.call = writer ∧ one.result = .ok .writeFragment := by
    obtain ⟨entry, isEntry, sameTask, result⟩ :=
      linearizes.results write _ ordered.acknowledged
    cases linearizes.entry_unique isEntry inLog (sameTask.trans isFirst.symm)
    have found := linearizes.arrived _ inLog
    rw [sameTask, isWriter] at found
    exact ⟨(Option.some.inj found).symm, result⟩
  have isReply : two.call = reader ∧ two.result = reply := by
    cases linearizes.entry_unique isEntry alsoInLog (isRead.trans isSecond.symm)
    have found := linearizes.arrived _ alsoInLog
    rw [isRead, isReader] at found
    exact ⟨(Option.some.inj found).symm, replied⟩
  obtain ⟨beforeWrite, isFront, sequential⟩ := linearizes.sequential.split
  obtain ⟨afterWrite, ⟨loaded, written⟩, sequential⟩ := sequential.first
  obtain ⟨beforeRead, isMiddle, sequential⟩ := sequential.split
  obtain ⟨afterRead, ⟨_, read⟩, _⟩ := sequential.first
  rw [isWrite.1, isWrite.2, writes] at written
  rw [isReply.1, isReply.2, reads] at read
  have calmBefore : Calm (middle.length + 1) beforeWrite :=
    calm_sequential isFront (middle.length + 1) (calm.mono (by omega))
  have calmAfter : Calm middle.length afterWrite := by
    have rooms := respond_cases writer.environment loaded beforeWrite
      (.writeFragment roomId bucketId key data)
    rw [written] at rooms
    exact calm_step calmBefore rooms
  have stores := stores_sequential isMiddle 0 calmAfter (fun entry member => ?_)
    (stores_of_written calmBefore written)
  · have calmRead : Calm 0 beforeRead := calm_sequential isMiddle 0 calmAfter
    have isResult : readResult beforeRead roomId bucketId key = reply :=
      congrArg Prod.fst read
    rw [← isResult]
    exact readResult_of_stores calmRead stores
  · have inLog : entry ∈ front ++ one :: (middle ++ two :: back) := by
      simp [member]
    have notWrite : entry.task ≠ write := by
      intro same
      have isOne := linearizes.entry_unique inLog ‹one ∈ _›
        (same.trans isFirst.symm)
      have once := linearizes.once
      simp only [List.map_append, List.map_cons, List.nodup_append,
        List.nodup_cons, List.mem_append, List.mem_map] at once
      exact once.2.1.1 (Or.inl ⟨entry, member, by rw [isOne]⟩)
    exact ordered.others entry.task entry.call (linearizes.arrived entry inLog)
      (between entry member).1 (between entry member).2 notWrite

/-! ### A session -/

/-- A write beside another one, and a read when both were acknowledged. -/
def readBeside : List (SessionEvent Json) :=
  ask (.newRoom "room") :: List.replicate 3 (.advance 0) ++
  ask (.writeFragment 1 5 "key" "1".toUTF8) ::
  ask (.writeFragment 1 5 "other" "2".toUTF8) ::
  [.advance 1, .advance 2, .advance 2, .advance 1] ++
  List.replicate 5 (.advance 1) ++ List.replicate 5 (.advance 2) ++
  [ask (.readFragment 1 5 "key"), .advance 3]

def besideRequests : List Request :=
  [.newRoom "room", .writeFragment 1 5 "key" "1".toUTF8,
    .writeFragment 1 5 "other" "2".toUTF8, .readFragment 1 5 "key"]

theorem calm_boot : Calm 4 (boot .none ∅ : SyncpondKernel Json).state := by
  have rooms : (boot .none ∅ : SyncpondKernel Json).state.rooms = ∅ := rfl
  refine ⟨?_, ?_, by decide⟩
  · intro roomId room found
    rw [rooms] at found
    simp at found
  · intro roomId room found
    rw [rooms] at found
    simp at found

/-- The reply of a request, if it has one. -/
def replyOf (session : Session Value) (task : Nat) : Option Reply :=
  match session.pool.tasks[task]? with
  | some (.done reply) => some reply
  | _ => none

omit [SerdeJson Value] in
theorem of_replyOf {session : Session Value} {task : Nat} {reply : Reply}
    (replied : replyOf session task = some reply) :
    session.pool.tasks[task]? = some (.done reply) := by
  unfold replyOf at replied
  split at replied
  · next found =>
    cases replied
    exact found
  · cases replied

theorem reads_what_was_written_beside :
    ∃ session : Session Json,
      session.calls.map Served.request = besideRequests ∧
        ∀ reply, session.pool.tasks[3]? = some (.done reply) →
          reply = readBack (SerdeJson.parsePayload "1".toUTF8 : Json) := by
  have ran : (readBeside.foldlM (fun session event =>
      if checkSpares session event then
        Session.step ⟨some "secret"⟩ session event
      else none) (.start (boot .none ∅))).map (fun session =>
        (session.calls.map Served.request, session.earlier,
          replyOf session 1)) =
      some (besideRequests, [[], [0], [0], [0, 1, 2]],
        some (.ok .writeFragment)) := by
    decide +kernel
  obtain ⟨session, ran, observed⟩ := Option.map_eq_some_iff.mp ran
  obtain ⟨requests, observed⟩ := Prod.mk.inj observed
  obtain ⟨earlier, written⟩ := Prod.mk.inj observed
  have request (task : Nat) : besideRequests[task]? =
      session.calls[task]?.map Served.request := by
    rw [← requests, List.getElem?_map]
  have ordered : ReadAfterWrite session 1 3 1 5 "key" "1".toUTF8 := by
    refine ⟨?_, ?_, of_replyOf written, ⟨_, by rw [earlier]; rfl, by simp⟩, ?_⟩
    · exact Option.map_eq_some_iff.mp (request 1).symm
    · exact Option.map_eq_some_iff.mp (request 3).symm
    · intro other served isServed _ _ notWrite
      have isRequest := request other
      rw [isServed] at isRequest
      rcases other with _ | _ | _ | _ | other
      · rw [← Option.some.inj isRequest]
        trivial
      · exact absurd rfl notWrite
      · rw [← Option.some.inj isRequest]
        exact fun same => absurd same.2.2 (by decide)
      · rw [← Option.some.inj isRequest]
        trivial
      · cases isRequest
  refine ⟨session, requests, ?_⟩
  intro reply answered
  have long : session.calls.length = 4 := by
    rw [← List.length_map Served.request, requests]
    rfl
  exact reads_what_was_written
    (follows_of_checked spares_of_check ran) (long ▸ calm_boot) ordered answered

end Syncpond.ReadYourWrites
