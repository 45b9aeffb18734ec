import Syncpond.UpstreamReplies

/-!
# The upstream API is linearizable

`respond` says what a request does to the state and what it answers when
nothing else happens; only what `LoadRoom` finds in a database is left open.
The replies of a session, and the state, are those of the requests handled one
at a time by `respond`, in an order in which a request that was answered before
another one arrived comes first: storage may fail and the sections of the
requests may interleave in any way.

A write looks twice at the state.  If its room was loaded the first time, it
has to be loaded the second time as well, or else the write is acknowledged
without effect: this is what a write relies on.
-/

namespace Syncpond.UpstreamLinearization

open Syncpond.Protocol
open Syncpond.Serde
open Syncpond.State
open Syncpond.Persistence
open Syncpond.Kernel
open Syncpond.Sections
open Syncpond.Tokens
open Syncpond.Upstream
open Syncpond.ApiKey
open Syncpond.UpstreamReplies
open Syncpond.Acknowledgement (acknowledge acknowledge_success
  acknowledge_roomNotLoaded)
open Syncpond.Library.Linearization
open Syncpond.Library.Maps
open Syncpond.Library.Programs
open Syncpond.Library.Runs
open Syncpond.Library.Text

variable {Value : Type}

/-! ## Requests handled alone -/

/-- Label a room unless the name is blank. -/
def labelRoom (app : AppState Value) (roomId : RoomId) (name : String) :
    AppState Value :=
  if (trim name).isEmpty then app
  else (app.setRoomLabel roomId name).toOption.getD app

/-- Change a room if it is loaded; an unknown room is no error. -/
def changeRoom (app : AppState Value) (roomId : RoomId)
    (effect : RoomState Value → RoomState Value) (response : Response) :
    Reply × AppState Value :=
  match app.rooms[roomId]? with
  | none => (.ok response, app)
  | some room =>
      if room.loaded then
        (.ok response, { app with rooms := app.rooms.insert roomId (effect room) })
      else (.error roomNotLoadedStatus, app)

/-- The state after an operation that may fail. -/
def settle (app : AppState Value) (response : Response) (code : Code) :
    Except StateError (AppState Value) → Reply × AppState Value
  | .ok after => (.ok response, after)
  | .error error => (.error ⟨code, error.toString⟩, app)

variable [SerdeJson Value]

/-- The reply to a read. -/
def readResult (app : AppState Value) (roomId : RoomId) (bucketId : BucketId)
    (key : String) : Reply :=
  match app.getFragment roomId bucketId key with
  | .ok (value, _) =>
      match SerdeJson.value.toVec value with
      | .ok bytes => .ok (.readFragment bytes true)
      | .error _ => .ok (.readFragment .empty false)
  | .error error =>
      if error = .roomNotLoaded then .error roomNotLoadedStatus
      else .ok (.readFragment .empty false)

/--
What a request does to the state and answers, given what `LoadRoom` finds in
the database.
-/
def respond (environment : Environment)
    (loaded : Except String (RoomData Value)) (app : AppState Value) :
    Request → Reply × AppState Value
  | .newRoom name =>
      (.ok (.newRoom app.nextRoomId),
        labelRoom app.createRoom.1 app.nextRoomId name)
  | .listRooms =>
      (.ok (.listRooms (app.listRooms.map (roomLine environment.labels app))),
        app)
  | .deleteRoom roomId =>
      settle app .deleteRoom .notFound (app.deleteRoom roomId)
  | .issueJwt roomId sub buckets =>
      let (issued, after) := createRoomToken environment.jwt
        environment.buckets environment.now app roomId sub buckets
      (tokenReply (issued.mapError StateError.toString), after)
  | .newBucket roomId bucketId label =>
      changeRoom app roomId (RoomEffect.newBucket bucketId (trim label))
        .newBucket
  | .deleteBucket roomId bucketId =>
      changeRoom app roomId (RoomEffect.deleteBucket bucketId) .deleteBucket
  | .newMember roomId member =>
      changeRoom app roomId (RoomEffect.newMember (trim member)) .newMember
  | .deleteMember roomId member =>
      changeRoom app roomId (RoomEffect.deleteMember (trim member))
        .deleteMember
  | .listMembers roomId =>
      (.ok (.listMembers ((listMembers app roomId).toOption.getD [])), app)
  | .listBuckets roomId =>
      (.ok (.listBuckets (BucketLabels.listBuckets app roomId)), app)
  | .readFragment roomId bucketId key =>
      (readResult app roomId bucketId key, app)
  | .writeFragment roomId bucketId key data =>
      if app.isRoomLoaded roomId then
        (.ok .writeFragment, (app.setFragment roomId bucketId key
          (SerdeJson.parsePayload data)).toOption.getD app)
      else (.error roomNotLoadedStatus, app)
  | .loadRoom roomId =>
      match loaded with
      | .ok data => settle app .loadRoom .failedPrecondition
          (app.loadRoomData roomId data.bucketDefs data.members data.fragments)
      | .error text => (.error ⟨.failedPrecondition, text⟩, app)
  | .unloadRoom roomId =>
      settle app .unloadRoom .notFound (app.unloadRoom roomId)

/-- The requests as the calls of an object, whose memory is the state. -/
def api (Value : Type) [SerdeJson Value] :
    Object (SyncpondKernel Value) Served Reply (AppState Value) where
  program := Served.program
  view := SyncpondKernel.state
  allows served before reply after :=
    ∃ loaded, respond served.environment loaded before served.request =
      (reply, after)
  relies served before after :=
    match served.request with
    | .writeFragment roomId _ _ _ =>
        before.isRoomLoaded roomId = true → after.isRoomLoaded roomId = true
    | _ => True

/-! ## Sections of the requests -/

/-- A part of a request that leaves the lock and the state alone. -/
def Aside {Result : Type} (task : Task Value Result) : Prop :=
  task.Every fun access effect =>
    access = .free ∧ (api Value).Quiet effect

section Aside

variable {Result : Type} {faults : Faults} {roomId : RoomId}

theorem Aside.keepsLock {task : Task Value Result} (aside : Aside task) :
    task.Every fun access effect =>
      (access = .free ∨ access = .locked) ∧ (api Value).Quiet effect :=
  Program.Every.mono (fun _ _ quiet => ⟨Or.inl quiet.1, quiet.2⟩) aside

theorem aside_openRoomDb :
    Aside (Task.openRoomDb faults roomId :
      Task Value (Except String Unit)) :=
  Program.every_atomic ⟨rfl, fun _ => rfl⟩

theorem aside_onRoom {operation : Storage Result} (free : Free operation) :
    Aside (Task.onRoom roomId operation :
      Task Value (Option (Except String Result))) := by
  refine Program.Every.bind (Program.every_atomic ⟨rfl, fun _ => rfl⟩) ?_
  rintro (isClosed | isOpen)
  · trivial
  · refine Program.Every.bind (Program.Every.zoom ?_ free) fun _ => trivial
    rintro access effect rfl
    exact ⟨rfl, fun _ => rfl⟩

theorem aside_persist {operation : Storage Unit} (free : Free operation) :
    Aside (Task.persist faults roomId operation : Task Value Unit) :=
  Program.Every.bind aside_openRoomDb fun _ =>
    Program.Every.bind (aside_onRoom free) fun _ => trivial

end Aside

section Waiting

variable {environment : Environment} {request : Request}
variable {seen : AppState Value}

/-- A request of one section takes effect in it. -/
theorem waiting_atomic {Result : Type}
    {action : SyncpondKernel Value → Result × SyncpondKernel Value}
    {change : Result → Reply}
    (responds : ∀ kernel : SyncpondKernel Value, ∃ loaded,
      respond environment loaded kernel.state request =
        (change (action kernel).1, (action kernel).2.state)) :
    (api Value).Waiting ⟨environment, request⟩
      (change <$> Program.atomic .locked action) seen :=
  fun kernel _ => Or.inr ⟨_, responds kernel, rfl⟩

/-- Giving the lock back, a request takes the effect that it prepared. -/
theorem critical_release {before now : AppState Value}
    {response : CommandResponse} {change : CommandResponse → Reply}
    (handled : ∃ loaded, respond environment loaded before request =
      (change response, now)) :
    (api Value).Critical ⟨environment, request⟩ before now
      (change <$> (Task.release >>= fun _ => pure response)) := by
  intro kernel isNow
  have same : kernel.state = now := isNow
  obtain ⟨loaded, responds⟩ := handled
  exact ⟨_, ⟨loaded, responds.trans (by rw [← same]; rfl)⟩, rfl⟩

/-- A request that changes a room takes effect when it gives the lock back. -/
theorem waiting_mutateAndPersist {roomId : RoomId}
    {effect : RoomState Value → RoomState Value} {operation : Storage Unit}
    (free : Free operation) {success : CommandResponse}
    {response : Response} {change : CommandResponse → Reply}
    (responds : ∀ (loaded : Except String (RoomData Value))
      (app : AppState Value), respond environment loaded app request =
        changeRoom app roomId effect response)
    (succeeds : change success = .ok response)
    (refuses : change roomNotLoaded = .error roomNotLoadedStatus) :
    (api Value).Waiting ⟨environment, request⟩
      (change <$> mutateAndPersist environment.faults roomId effect operation
        success) seen := by
  intro kernel _
  have handled := responds (.ok .empty) kernel.state
  change (api Value).Critical _ kernel.state
    (kernel.mutateRoom roomId effect).2.state _
  dsimp only
  unfold SyncpondKernel.mutateRoom changeRoom at *
  cases found : kernel.state.rooms[roomId]? with
  | none =>
      rw [found] at handled
      dsimp only at handled
      rw [← succeeds] at handled
      exact critical_release ⟨_, handled⟩
  | some room =>
      rw [found] at handled
      dsimp only at handled ⊢
      cases isLoaded : room.loaded with
      | false =>
          rw [isLoaded, if_neg (by simp), ← refuses] at handled
          exact critical_release ⟨_, handled⟩
      | true =>
          rw [isLoaded, if_pos rfl, ← succeeds] at handled
          have released := critical_release ⟨_, handled⟩
          change (api Value).Critical _ _ _
            (change <$> (Task.persist environment.faults roomId operation >>=
              fun _ => Task.release >>= fun _ => pure success))
          rw [map_bind]
          exact Object.critical_bind (aside_persist free) fun _ => released

theorem waiting_mutate {request : Request} {command : Commands}
    {roomId : RoomId} {effect : RoomState Value → RoomState Value}
    {operation : Storage Unit} {success : CommandResponse} {failed : String}
    {response : Response} (free : Free operation)
    (handled : (handleCommand environment.faults command :
      Task Value CommandResponse) =
        mutateAndPersist environment.faults roomId effect operation success)
    (responds : ∀ (loaded : Except String (RoomData Value))
      (app : AppState Value), respond environment loaded app request =
        changeRoom app roomId effect response)
    (distinct : success ≠ roomNotLoaded) :
    (api Value).Waiting ⟨environment, request⟩
      (replyUnit response mapRoomError <$>
        KernelCommandHandler.mutate environment command success failed) seen := by
  unfold KernelCommandHandler.mutate
  rw [← comp_map, handled]
  apply waiting_mutateAndPersist free responds
  · rw [Function.comp_apply, acknowledge_success]
    rfl
  · rw [Function.comp_apply, acknowledge_roomNotLoaded distinct]
    rfl

omit [SerdeJson Value] in
theorem state_labelRoom (kernel : SyncpondKernel Value) (roomId : RoomId)
    (name : String) :
    (kernel.labelRoom roomId name).state =
      labelRoom kernel.state roomId name := by
  unfold SyncpondKernel.labelRoom labelRoom
  split
  · rfl
  · cases kernel.state.setRoomLabel roomId name <;> rfl

/-- A new room gets its label when the lock is given back. -/
theorem waiting_newRoom (environment : Environment) (name : String) :
    (api Value).Waiting ⟨environment, .newRoom name⟩
      (Served.program ⟨environment, .newRoom name⟩) seen := by
  intro kernel _ opened isOpened
  refine ⟨isOpened, fun labelled isLabelled => ⟨_, ⟨.ok .empty, ?_⟩, rfl⟩⟩
  have same : labelled.state = kernel.state.createRoom.1 := isLabelled
  change _ = (_, (labelled.labelRoom kernel.state.nextRoomId name).state)
  rw [state_labelRoom, same]
  rfl

omit [SerdeJson Value] in
theorem state_commitWrite (kernel : SyncpondKernel Value) (roomId : RoomId)
    (bucketId : BucketId) (key : String) (parsed : Value) :
    (kernel.commitWrite roomId bucketId key parsed).2.state =
      (kernel.state.setFragment roomId bucketId key parsed).toOption.getD
        kernel.state := by
  unfold SyncpondKernel.commitWrite
  cases kernel.state.setFragment roomId bucketId key parsed <;> rfl

/-- The reply to a read comes from the state. -/
theorem readResult_eq (app : AppState Value) (roomId : RoomId)
    (bucketId : BucketId) (key : String) :
    readResult app roomId bucketId key =
      readReply
        (match readFragment app roomId bucketId key with
          | .fragmentReadResponse data => .ok data
          | .loadRoomResponse (.error error) => .error error
          | _ => .ok none) := by
  unfold readResult readFragment
  cases app.getFragment roomId bucketId key with
  | ok fragment =>
      dsimp only
      cases SerdeJson.value.toVec fragment.1 <;> rfl
  | error error => cases error <;> rfl

/-- What is left of a write after its commit. -/
def announceWrite (faults : Faults) (roomId : RoomId) (bucketId : BucketId)
    (key : String) (parsed : Value) (assigned : Option UInt64) :
    Task Value CommandResponse := do
  Task.persist faults roomId
    (persistFragment faults (decimal bucketId) key (persistedValue parsed))
  let roomCounter ← Program.read .locked (SyncpondKernel.readVersion roomId)
  Program.modify .free
    (SyncpondKernel.broadcast roomId assigned
      (writeUpdate bucketId key parsed roomCounter))
  return .fragmentWriteResponse

/-- A write that is committed is going to be acknowledged. -/
theorem settled_announceWrite (faults : Faults) (roomId : RoomId)
    (bucketId : BucketId) (key : String) (parsed : Value)
    (assigned : Option UInt64) (change : CommandResponse → Reply) :
    (api Value).Settled (change .fragmentWriteResponse)
      (change <$> announceWrite faults roomId bucketId key parsed assigned) := by
  apply Object.settled_of_every
  · have persists : Aside (Task.persist faults roomId (persistFragment faults
        (decimal bucketId) key (persistedValue parsed)) : Task Value Unit) :=
      aside_persist (calls_persistFragment faults _ _ _).free
    refine Program.Every.bind (Program.Every.bind persists.keepsLock ?_)
      fun _ => trivial
    intro _
    apply Program.Every.bind
    · apply Program.every_atomic
      exact ⟨Or.inr rfl, fun _ => rfl⟩
    · intro roomCounter
      refine Program.Every.bind ?_ fun _ => trivial
      apply Program.every_atomic
      exact ⟨Or.inl rfl, fun _ => rfl⟩
  · have ends : (announceWrite faults roomId bucketId key parsed assigned).Ends
        (· = .fragmentWriteResponse) := by
      apply Program.Ends.bind
      exact fun _ _ _ => rfl
    exact Program.Ends.map ends fun _ same => congrArg change same

/-- A write takes effect in its second section, if the room is still loaded. -/
theorem waiting_writeFragment (environment : Environment) (roomId : RoomId)
    (bucketId : BucketId) (key : String) (data : FragmentData) :
    (api Value).Waiting
      ⟨environment, .writeFragment roomId bucketId key data⟩
      (Served.program ⟨environment, .writeFragment roomId bucketId key data⟩)
      seen := by
  intro kernel _
  dsimp only
  cases isLoaded : kernel.state.isRoomLoaded roomId with
  | false =>
      right
      refine ⟨.error roomNotLoadedStatus, ⟨.ok .empty, ?_⟩, rfl⟩
      exact if_neg (ne_true_of_eq_false isLoaded)
  | true =>
      left
      refine ⟨rfl, fun committed relied => Or.inr ?_⟩
      have stillLoaded : committed.state.isRoomLoaded roomId = true :=
        relied isLoaded
      refine ⟨.ok .writeFragment, ⟨.ok .empty, ?_⟩, ?_⟩
      · change _ = (_, (committed.commitWrite roomId bucketId key
          (SerdeJson.parsePayload data)).2.state)
        rw [state_commitWrite]
        exact if_pos stillLoaded
      · have settled := settled_announceWrite environment.faults roomId
          bucketId key (SerdeJson.parsePayload data : Value)
          (committed.commitWrite roomId bucketId key
            (SerdeJson.parsePayload data)).1
          (replyUnit .writeFragment mapRoomError ∘
            acknowledge .fragmentWriteResponse "write_fragment_failed")
        rw [comp_map] at settled
        exact settled

/-- The reply to `LoadRoom`. -/
def loadReply (response : CommandResponse) : Reply :=
  replyUnit .loadRoom (fun error => ⟨.failedPrecondition, error⟩)
    (match response with
      | .loadRoomResponse result => result
      | _ => .error "load_room_failed")

/-- What is left of loading a room after its database was read. -/
def afterRead (roomId : RoomId) :
    Option (Except String (RoomData Value)) → Task Value CommandResponse
  | some (.ok data) =>
      Program.atomic .locked (SyncpondKernel.installRoomData roomId data)
  | some (.error text) => return .loadRoomResponse (.error text)
  | none =>
      Program.atomic .locked (SyncpondKernel.installRoomData roomId .empty)

/-- Loading takes effect when the data is installed. -/
theorem waiting_loadRoom (environment : Environment) (roomId : RoomId) :
    (api Value).Waiting ⟨environment, .loadRoom roomId⟩
      (Served.program ⟨environment, .loadRoom roomId⟩) seen := by
  intro kernel
  refine ⟨rfl, ?_⟩
  dsimp only
  have failing (text : String) (memory : AppState Value) :
      (api Value).allows ⟨environment, .loadRoom roomId⟩ memory
        (.error ⟨.failedPrecondition, text⟩) memory :=
    ⟨.error text, rfl⟩
  have installing (data : RoomData Value) (kernel : SyncpondKernel Value) :
      ∃ loaded, respond environment loaded kernel.state (.loadRoom roomId) =
        (loadReply (kernel.installRoomData roomId data).1,
          (kernel.installRoomData roomId data).2.state) := by
    refine ⟨.ok data, ?_⟩
    unfold SyncpondKernel.installRoomData
    simp only [respond]
    cases kernel.state.loadRoomData roomId data.bucketDefs data.members
      data.fragments <;> rfl
  cases (kernel.persistence.openRoomDb environment.faults roomId).2 with
  | error text => exact Or.inr ⟨_, failing _, rfl⟩
  | ok _ =>
      have reads : Aside (Task.onRoom roomId (readRoomData environment.faults
          roomId) : Task Value (Option (Except String (RoomData Value)))) :=
        aside_onRoom (calls_readRoomData environment.faults roomId).free
      have unsettled (outcome : Option (Except String (RoomData Value))) :
          (api Value).Unsettled ⟨environment, .loadRoom roomId⟩
            (loadReply <$> afterRead roomId outcome) seen := by
        rcases outcome with _ | text | data
        · exact Or.inl (waiting_atomic (installing .empty))
        · exact Or.inr ⟨_, failing text, rfl⟩
        · exact Or.inl (waiting_atomic (installing data))
      have read := Object.unsettled_bind reads unsettled
      change (api Value).Unsettled _ (replyUnit _ _ <$> (_ <$>
        (Task.onRoom roomId (readRoomData environment.faults roomId) >>=
          afterRead roomId))) seen
      rw [← comp_map, map_bind]
      exact read

end Waiting

/-! ## Sessions -/

/-- What a request does and answers alone, it does and answers once. -/
theorem lawful_api (Value : Type) [SerdeJson Value] : (api Value).Lawful where
  refl served memory := by
    obtain ⟨environment, request⟩ := served
    cases request with
    | writeFragment roomId bucketId key data => exact id
    | _ => trivial
  trans served first second third before after := by
    obtain ⟨environment, request⟩ := served
    cases request with
    | writeFragment roomId bucketId key data =>
        exact fun isLoaded => after (before isLoaded)
    | _ => trivial
  waiting served seen := by
    obtain ⟨environment, request⟩ := served
    cases request with
    | newRoom name => exact waiting_newRoom environment name
    | listRooms => exact waiting_atomic fun kernel => ⟨.ok .empty, rfl⟩
    | deleteRoom roomId =>
        refine waiting_atomic fun kernel => ⟨.ok .empty, ?_⟩
        unfold SyncpondKernel.deleteRoom
        simp only [respond]
        cases kernel.state.deleteRoom roomId <;> rfl
    | issueJwt roomId sub buckets =>
        exact waiting_atomic fun kernel => ⟨.ok .empty, rfl⟩
    | newBucket roomId bucketId label =>
        exact waiting_mutate (calls_persistBucket Value environment.faults
          _ _ _ _).free rfl (fun _ _ => rfl) (by decide)
    | deleteBucket roomId bucketId =>
        exact waiting_mutate (calls_removeBucket Value environment.faults
          _ _).free rfl (fun _ _ => rfl) (by decide)
    | newMember roomId member =>
        exact waiting_mutate (calls_persistMember Value environment.faults
          _ _).free rfl (fun _ _ => rfl) (by decide)
    | deleteMember roomId member =>
        exact waiting_mutate (calls_removeMember Value environment.faults
          _ _).free rfl (fun _ _ => rfl) (by decide)
    | listMembers roomId =>
        refine waiting_atomic fun kernel => ⟨.ok .empty, ?_⟩
        simp only [respond]
        cases listMembers kernel.state roomId <;> rfl
    | listBuckets roomId => exact waiting_atomic fun kernel => ⟨.ok .empty, rfl⟩
    | readFragment roomId bucketId key =>
        refine fun kernel _ => Or.inr ⟨_, ⟨.ok .empty, ?_⟩, rfl⟩
        exact Prod.ext (readResult_eq kernel.state roomId bucketId key) rfl
    | writeFragment roomId bucketId key data =>
        exact waiting_writeFragment environment roomId bucketId key data
    | loadRoom roomId => exact waiting_loadRoom environment roomId
    | unloadRoom roomId =>
        refine fun kernel _ => Or.inr ⟨_, ⟨.ok .empty, ?_⟩, rfl⟩
        unfold api SyncpondKernel.unloadRoom
        simp only [respond]
        cases kernel.state.unloadRoom roomId <;> rfl

/--
While a write to a room is in progress, the room stays loaded; and only
requests change the state.
-/
def Spares (session : Session Value) : SessionEvent Value → Prop
  | .request _ _ => True
  | .advance task => ∀ after, session.pool.advance task = some after →
      ∀ (other : Nat) (served : Served) (roomId : RoomId)
        (bucketId : BucketId) (key : String) (data : FragmentData),
        other ≠ task → session.Begun Served.program other served →
        served.request = .writeFragment roomId bucketId key data →
        session.pool.shared.state.isRoomLoaded roomId = true →
        after.shared.state.isRoomLoaded roomId = true
  | .disturb kernel => kernel.state = session.pool.shared.state

/-- A session is a history of requests that put up with each other. -/
theorem follows_api {server : GrpcServer} {kernel : SyncpondKernel Value}
    {session : Session Value}
    (follows : Follows (Session.step server) Spares (.start kernel) session) :
    Follows (History.step (api Value).program) (api Value).Considerate
      (.start kernel) session := by
  induction follows with
  | start => exact .start
  | @next session after event run spares stepped ih =>
      have next (happened : HistoryEvent (SyncpondKernel Value) Served)
          (considerate : (api Value).Considerate session happened)
          (stepped : History.step (api Value).program session happened =
            some after) :
          Follows (History.step (api Value).program) (api Value).Considerate
            (.start kernel) after :=
        .next ih considerate stepped
      cases event with
      | request metadata served =>
          simp only [Session.step] at stepped
          split at stepped
          · cases stepped
            exact ih
          · exact next (.arrive served) trivial stepped
      | advance task =>
          refine next (.advance task) ?_ stepped
          intro advanced advances other served different begun
          unfold api
          dsimp only
          split
          · next roomId bucketId key data isWrite =>
            exact spares advanced advances other served roomId bucketId key
              data different begun isWrite
          · trivial
      | disturb kernel => exact next (.disturb kernel) spares stepped

/--
The replies of a session and its state are those of the requests handled one
at a time.
-/
theorem requests_linearizable {server : GrpcServer}
    {kernel : SyncpondKernel Value} {session : Session Value}
    (follows : Follows (Session.step server) Spares (.start kernel) session) :
    ∃ log app, (api Value).Linearizes session kernel.state log app :=
  Object.linearizable (lawful_api Value) (follows_api follows)

/-- A check that is enough for `Spares`. -/
def checkSpares (session : Session Value) : SessionEvent Value → Bool
  | .request _ _ => true
  | .advance task =>
      (session.pool.advance task).all fun after =>
        session.calls.all fun served =>
          match served.request with
          | .writeFragment roomId _ _ _ =>
              !session.pool.shared.state.isRoomLoaded roomId ||
                after.shared.state.isRoomLoaded roomId
          | _ => true
  | .disturb _ => false

theorem spares_of_check (session : Session Value) (event : SessionEvent Value)
    (checked : checkSpares session event = true) : Spares session event := by
  cases event with
  | request metadata served => trivial
  | disturb kernel => cases checked
  | advance task =>
      intro after advances other served roomId bucketId key data _ begun isWrite
        isLoaded
      simp only [checkSpares, advances, Option.all_some, List.all_eq_true]
        at checked
      have spares := checked served (List.mem_of_getElem? begun.1)
      simpa [isWrite, isLoaded] using spares

/-- Two writes to one fragment that take their sections in turn. -/
def writeTwice : List (SessionEvent Json) :=
  ask (.newRoom "room") :: List.replicate 3 (.advance 0) ++
  ask (.writeFragment 1 5 "key" "1".toUTF8) ::
  ask (.writeFragment 1 5 "key" "2".toUTF8) ::
  [.advance 1, .advance 2, .advance 2, .advance 1] ++
  List.replicate 5 (.advance 1) ++ List.replicate 5 (.advance 2)

theorem requests_linearizable_writeTwice :
    ∃ (session : Session Json) (log : List (Entry Served Reply))
      (app : AppState Json),
      (History.returned session).length = 3 ∧
        (api Json).Linearizes session (boot .none ∅).state log app := by
  have ran : (writeTwice.foldlM (fun session event =>
      if checkSpares session event then
        Session.step ⟨some "secret"⟩ session event
      else none) (.start (boot .none ∅))).map (fun session =>
        (History.returned session).length) = some 3 := by
    decide +kernel
  obtain ⟨session, ran, returned⟩ := Option.map_eq_some_iff.mp ran
  obtain ⟨log, app, linearizes⟩ :=
    requests_linearizable (follows_of_checked spares_of_check ran)
  exact ⟨session, log, app, returned, linearizes⟩

end Syncpond.UpstreamLinearization
