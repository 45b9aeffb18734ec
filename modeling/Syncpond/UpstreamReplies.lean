import Syncpond.ApiKey
import Syncpond.Library.Scheduling

/-!
# The replies of the upstream API

Every request is answered: however the scheduler orders the sections of the
requests in progress, it stops after finitely many of them, and then all of
them have a reply.  The reply is a response of the request's own kind or one
of the statuses that `Expected` lists, whatever storage does meanwhile; the
service's code for internal errors is never used, and neither is the one that
the interceptor has for requests without the key.
-/

namespace Syncpond.UpstreamReplies

open Syncpond.Protocol
open Syncpond.Serde
open Syncpond.State
open Syncpond.Persistence
open Syncpond.Kernel
open Syncpond.Sections
open Syncpond.Tokens
open Syncpond.Upstream
open Syncpond.ApiKey
open Syncpond.Acknowledgement (acknowledge acknowledge_success
  acknowledge_roomNotLoaded)
open Syncpond.Library.Linearization
open Syncpond.Library.Maps
open Syncpond.Library.Programs
open Syncpond.Library.Runs
open Syncpond.Library.Text

/-! ## Replies -/

/-- The status of a command on a room that is not loaded. -/
def roomNotLoadedStatus : Status := ⟨.failedPrecondition, "room_not_loaded"⟩

/-- The status of a command on an unknown room. -/
def roomNotFoundStatus : Status := ⟨.notFound, "room_not_found"⟩

/-- The statuses of a token that is not issued. -/
def tokenStatuses : List Status :=
  [⟨.failedPrecondition, "jwt_key_not_configured"⟩,
    ⟨.failedPrecondition, "jwt_key_too_short"⟩,
    ⟨.failedPrecondition, "jwt_issuer_audience_not_configured"⟩,
    roomNotFoundStatus,
    ⟨.invalidArgument, "invalid_member"⟩,
    ⟨.invalidArgument, "reserved_bucket_id"⟩]

/-- The replies that a client has to expect to a request. -/
def Expected : Request → Reply → Prop
  | .newRoom _, reply => ∃ roomId, reply = .ok (.newRoom roomId)
  | .listRooms, reply => ∃ rooms, reply = .ok (.listRooms rooms)
  | .deleteRoom _, reply =>
      reply = .ok .deleteRoom ∨ reply = .error roomNotFoundStatus
  | .issueJwt _ _ _, reply =>
      (∃ jwt, reply = .ok (.issueJwt jwt)) ∨
        ∃ status ∈ tokenStatuses, reply = .error status
  | .newBucket _ _ _, reply =>
      reply = .ok .newBucket ∨ reply = .error roomNotLoadedStatus
  | .deleteBucket _ _, reply =>
      reply = .ok .deleteBucket ∨ reply = .error roomNotLoadedStatus
  | .newMember _ _, reply =>
      reply = .ok .newMember ∨ reply = .error roomNotLoadedStatus
  | .deleteMember _ _, reply =>
      reply = .ok .deleteMember ∨ reply = .error roomNotLoadedStatus
  | .listMembers _, reply => ∃ members, reply = .ok (.listMembers members)
  | .listBuckets _, reply => ∃ buckets, reply = .ok (.listBuckets buckets)
  | .readFragment _ _ _, reply =>
      (∃ data, reply = .ok (.readFragment data true)) ∨
        reply = .ok (.readFragment .empty false) ∨
        reply = .error roomNotLoadedStatus
  | .writeFragment _ _ _ _, reply =>
      reply = .ok .writeFragment ∨ reply = .error roomNotLoadedStatus
  | .loadRoom _, reply =>
      reply = .ok .loadRoom ∨
        ∃ text, reply = .error ⟨.failedPrecondition, text⟩ ∧
          (text = "room_not_found" ∨ (∃ reason, text =
            "db_open_failed: " ++ reason) ∨
            ∃ reason, text = "fragment_load_failed: " ++ reason)
  | .unloadRoom _, reply =>
      reply = .ok .unloadRoom ∨ reply = .error roomNotFoundStatus

/-- The status of a request without the key. -/
def Unauthenticated (reply : Reply) : Prop :=
  ∃ status : Status, reply = .error status ∧ status.code = .unauthenticated

/-- No request that reaches the service is answered like one without the key. -/
theorem not_unauthenticated_of_expected {request : Request} {reply : Reply}
    (expected : Expected request reply) : ¬Unauthenticated reply := by
  rintro ⟨status, rfl, isCode⟩
  have known : status ∈ roomNotLoadedStatus :: tokenStatuses ∨
      status.code = .failedPrecondition := by
    cases request <;>
      simp only [Expected, reduceCtorEq, Except.error.injEq, exists_false,
        false_or] at expected <;>
      grind [tokenStatuses, roomNotFoundStatus, roomNotLoadedStatus]
  rcases known with known | known
  · have others : ∀ status ∈ roomNotLoadedStatus :: tokenStatuses,
        status.code ≠ .unauthenticated := by
      decide
    exact others status known isCode
  · rw [known] at isCode
    cases isCode

/-! ## Results of the commands -/

variable {Value : Type}

/-- A command that changes a room succeeds, or finds the room unloaded. -/
def Acknowledges (success response : CommandResponse) : Prop :=
  response = success ∨ response = roomNotLoaded

theorem ends_mutateAndPersist (faults : Faults) (roomId : RoomId)
    (effect : RoomState Value → RoomState Value) (operation : Storage Unit)
    (response : CommandResponse) :
    (mutateAndPersist faults roomId effect operation response).Ends
      (Acknowledges response) := by
  refine Program.Ends.bind ?_ _
  rintro (_ | _ | _)
  · exact fun _ => Or.inl rfl
  · exact fun _ => Or.inr rfl
  · refine Program.Ends.bind ?_ _
    exact fun _ _ => Or.inl rfl

variable [SerdeJson Value]

theorem ends_handleWriteFragment (faults : Faults) (roomId : RoomId)
    (bucketId : BucketId) (key : String) (data : FragmentData) :
    (handleWriteFragment faults roomId bucketId key data :
      Task Value CommandResponse).Ends
      (Acknowledges .fragmentWriteResponse) := by
  refine Program.Ends.bind (fun loaded => ?_) _
  split
  · exact Or.inr rfl
  · refine Program.Ends.bind (fun assigned => ?_) _
    refine Program.Ends.bind (fun _ => ?_) _
    refine Program.Ends.bind (fun roomCounter => ?_) _
    exact fun _ => Or.inl rfl

/-- What `ReadFragment` can answer. -/
def Reads (response : CommandResponse) : Prop :=
  (∃ data, response = .fragmentReadResponse data) ∨ response = roomNotLoaded

theorem reads_readFragment (app : AppState Value) (roomId : RoomId)
    (bucketId : BucketId) (key : String) :
    Reads (readFragment app roomId bucketId key) := by
  unfold readFragment
  split
  · split <;> exact Or.inl ⟨_, rfl⟩
  · split
    · exact Or.inr rfl
    · exact Or.inl ⟨_, rfl⟩

/-- What `LoadRoom` can answer. -/
def Loads (response : CommandResponse) : Prop :=
  response = .loadRoomResponse (.ok ()) ∨
    ∃ text, response = .loadRoomResponse (.error text) ∧
      (text = "room_not_found" ∨
        (∃ reason, text = "db_open_failed: " ++ reason) ∨
        ∃ reason, text = "fragment_load_failed: " ++ reason)

omit [SerdeJson Value] in
theorem error_withRoom {app : AppState Value} {roomId : RoomId}
    {change : RoomState Value → RoomState Value} {error : StateError}
    (failed : (app.withRoom roomId fun room => .ok (change room)) =
      .error error) : error = .roomNotFound := by
  unfold AppState.withRoom at failed
  split at failed
  · cases failed
    rfl
  · cases failed

omit [SerdeJson Value] in
theorem loads_installRoomData (roomId : RoomId) (data : RoomData Value)
    (kernel : SyncpondKernel Value) :
    Loads (kernel.installRoomData roomId data).1 := by
  unfold SyncpondKernel.installRoomData
  split
  · exact Or.inl rfl
  · next error failed =>
    rw [error_withRoom failed]
    exact Or.inr ⟨_, rfl, Or.inl rfl⟩

/-- What follows an operation decides, whether the operation fails or not. -/
theorem ends_attempt {α β : Type} {property : Except String β → Prop}
    (operation : Storage α) {rest : Except String α → Storage β}
    (ends : ∀ result, (rest result).run.Ends property) :
    (Storage.attempt operation >>= rest).run.Ends property := by
  rw [ExceptT.run_bind, Storage.attempt, ExceptT.run_lift, bind_map_left]
  exact Program.Ends.bind ends operation.run

/-- Reading a room fails only where its fragments cannot be read. -/
theorem ends_readRoomData (faults : Faults) (roomId : RoomId) :
    (readRoomData faults roomId : Storage (RoomData Value)).run.Ends
      fun result => ∀ text, result = .error text →
        ∃ reason, text = "fragment_load_failed: " ++ reason := by
  apply ends_attempt
  intro buckets
  apply ends_attempt
  intro members
  apply ends_attempt
  rintro (text | fragments)
  · rintro failure ⟨⟩
    exact ⟨text, rfl⟩
  · rintro failure ⟨⟩

theorem ends_handleLoadRoom (faults : Faults) (roomId : RoomId) :
    (handleLoadRoom faults roomId : Task Value CommandResponse).Ends Loads := by
  refine Program.Ends.bind ?_ _
  rintro (text | _)
  · exact Or.inr ⟨_, rfl, Or.inr (Or.inl ⟨text, rfl⟩)⟩
  · have read : (Task.onRoom roomId (readRoomData faults roomId) :
        Task Value (Option (Except String (RoomData Value)))).Ends
        fun outcome => ∀ text, outcome = some (.error text) →
          ∃ reason, text = "fragment_load_failed: " ++ reason := by
      refine Program.Ends.bind ?_ _
      rintro (_ | _)
      · rintro text ⟨⟩
      · refine Program.Ends.map (Program.Ends.zoom (ends_readRoomData faults
          roomId)) ?_
        rintro result fails text ⟨⟩
        exact fails text rfl
    refine Program.Ends.andThen read ?_
    rintro (_ | text | data) fails
    · exact fun kernel => loads_installRoomData roomId _ kernel
    · exact Or.inr ⟨text, rfl, Or.inr (Or.inr (fails text rfl))⟩
    · exact fun kernel => loads_installRoomData roomId data kernel

/-! ## Replies to requests -/

theorem acknowledge_of_acknowledges {success : CommandResponse}
    {failed : String} {response : CommandResponse}
    (distinct : success ≠ roomNotLoaded)
    (acknowledges : Acknowledges success response) :
    acknowledge success failed response = .ok () ∨
      acknowledge success failed response = .error "room_not_loaded" := by
  rcases acknowledges with rfl | rfl
  · exact Or.inl (acknowledge_success _ _)
  · exact Or.inr (acknowledge_roomNotLoaded distinct failed)

/-- The reply to a mutation. -/
theorem ends_mutate {environment : Environment} {command : Commands}
    {success : CommandResponse} {failed : String} {response : Response}
    (distinct : success ≠ roomNotLoaded)
    (ends : (handleCommand environment.faults command :
      Task Value CommandResponse).Ends (Acknowledges success)) :
    (replyUnit response mapRoomError <$>
      KernelCommandHandler.mutate environment command success failed :
        Task Value Reply).Ends fun reply =>
          reply = .ok response ∨ reply = .error roomNotLoadedStatus := by
  have acknowledged :
      (KernelCommandHandler.mutate environment command success failed :
        Task Value (Except String Unit)).Ends fun result =>
          result = .ok () ∨ result = .error "room_not_loaded" :=
    Program.Ends.map ends fun _ acknowledges =>
      acknowledge_of_acknowledges distinct acknowledges
  refine Program.Ends.map acknowledged ?_
  rintro result (rfl | rfl)
  · exact Or.inl rfl
  · exact Or.inr rfl

omit [SerdeJson Value] in
/-- Why a token is not issued. -/
theorem status_createRoomToken {jwt : JsonWebToken} {order : BucketOrder}
    {now : UInt64} {app : AppState Value} {roomId : RoomId} {sub : String}
    {buckets : List BucketId} {error : StateError}
    (failed : (createRoomToken jwt order now app roomId sub buckets).1 =
      .error error) : mapTokenError error.toString ∈ tokenStatuses := by
  have known : error = .jwtKeyNotConfigured ∨ error = .jwtKeyTooShort ∨
      error = .jwtIssuerAudienceNotConfigured ∨ error = .roomNotFound ∨
      error = .invalidMember ∨ error = .reservedBucketId := by
    unfold createRoomToken checkTokenRequest at failed
    grind
  rcases known with rfl | rfl | rfl | rfl | rfl | rfl <;> decide

omit [SerdeJson Value] in
/-- The reply to a request for a token. -/
theorem expected_issueJwt (environment : Environment) (app : AppState Value)
    (roomId : RoomId) (sub : String) (buckets : List BucketId) :
    Expected (.issueJwt roomId sub buckets)
      (tokenReply ((createRoomToken environment.jwt environment.buckets
        environment.now app roomId sub buckets).1.mapError
          StateError.toString)) := by
  cases issued : (createRoomToken environment.jwt environment.buckets
      environment.now app roomId sub buckets).1 with
  | ok token => exact Or.inl ⟨token, rfl⟩
  | error error =>
      exact Or.inr ⟨_, status_createRoomToken issued, rfl⟩

omit [SerdeJson Value] in
theorem expected_deleteRoom (kernel : SyncpondKernel Value)
    (roomId : RoomId) :
    Expected (.deleteRoom roomId)
      (replyUnit .deleteRoom (fun error => ⟨.notFound, error⟩)
        (kernel.deleteRoom roomId).1) := by
  unfold SyncpondKernel.deleteRoom AppState.deleteRoom
  cases kernel.state.rooms.contains roomId with
  | true => exact Or.inl rfl
  | false => exact Or.inr rfl

/-- What `UnloadRoom` can answer. -/
def Unloads (response : CommandResponse) : Prop :=
  response = .unloadRoomResponse (.ok ()) ∨
    response = .unloadRoomResponse (.error "room_not_found")

omit [SerdeJson Value] in
theorem ends_handleUnloadRoom (roomId : RoomId) :
    (handleUnloadRoom roomId : Task Value CommandResponse).Ends Unloads := by
  intro kernel
  change Unloads (kernel.unloadRoom roomId).1
  unfold SyncpondKernel.unloadRoom
  split
  · exact Or.inl rfl
  · next error failed =>
    rw [error_withRoom failed]
    exact Or.inr rfl

theorem ends_readFragment (environment : Environment) (roomId : RoomId)
    (bucketId : BucketId) (key : String) :
    (KernelCommandHandler.readFragment environment roomId bucketId key :
      Task Value (Except String (Option FragmentData))).Ends fun result =>
        result = .error "room_not_loaded" ∨ ∃ data, result = .ok data := by
  have reads : (handleReadFragment roomId bucketId key :
      Task Value CommandResponse).Ends Reads :=
    fun kernel => reads_readFragment kernel.state roomId bucketId key
  refine Program.Ends.map reads ?_
  rintro response (⟨data, rfl⟩ | rfl)
  · exact Or.inr ⟨data, rfl⟩
  · exact Or.inl rfl

theorem ends_loadRoom (environment : Environment) (roomId : RoomId) :
    (KernelCommandHandler.loadRoom environment roomId :
      Task Value (Except String Unit)).Ends fun result =>
        Loads (.loadRoomResponse result) := by
  refine Program.Ends.map (ends_handleLoadRoom environment.faults roomId) ?_
  rintro response (rfl | ⟨text, rfl, known⟩)
  · exact Or.inl rfl
  · exact Or.inr ⟨text, rfl, known⟩

theorem ends_unloadRoom (environment : Environment) (roomId : RoomId) :
    (KernelCommandHandler.unloadRoom environment roomId :
      Task Value (Except String Unit)).Ends fun result =>
        Unloads (.unloadRoomResponse result) := by
  refine Program.Ends.map (ends_handleUnloadRoom roomId) ?_
  rintro response (rfl | rfl)
  · exact Or.inl rfl
  · exact Or.inr rfl

/-- Every request has an expected reply. -/
theorem ends_program (served : Served) :
    (served.program : Task Value Reply).Ends (Expected served.request) := by
  obtain ⟨environment, request⟩ := served
  cases request with
  | newRoom name => exact fun _ _ _ => ⟨_, rfl⟩
  | listRooms => exact fun _ => ⟨_, rfl⟩
  | deleteRoom roomId => exact fun kernel => expected_deleteRoom kernel roomId
  | issueJwt roomId sub buckets =>
      exact fun kernel =>
        expected_issueJwt environment kernel.state roomId sub buckets
  | newBucket roomId bucketId label =>
      exact ends_mutate (by decide) (ends_mutateAndPersist _ _ _ _ _)
  | deleteBucket roomId bucketId =>
      exact ends_mutate (by decide) (ends_mutateAndPersist _ _ _ _ _)
  | newMember roomId member =>
      exact ends_mutate (by decide) (ends_mutateAndPersist _ _ _ _ _)
  | deleteMember roomId member =>
      exact ends_mutate (by decide) (ends_mutateAndPersist _ _ _ _ _)
  | listMembers roomId => exact fun _ => ⟨_, rfl⟩
  | listBuckets roomId => exact fun _ => ⟨_, rfl⟩
  | readFragment roomId bucketId key =>
      refine Program.Ends.map
        (ends_readFragment environment roomId bucketId key) ?_
      rintro result (rfl | ⟨_ | data, rfl⟩)
      · exact Or.inr (Or.inr rfl)
      · exact Or.inr (Or.inl rfl)
      · exact Or.inl ⟨data, rfl⟩
  | writeFragment roomId bucketId key data =>
      exact ends_mutate (by decide) (ends_handleWriteFragment _ _ _ _ _)
  | loadRoom roomId =>
      refine Program.Ends.map (ends_loadRoom environment roomId) ?_
      rintro result (isLoaded | ⟨text, failed, known⟩)
      · cases isLoaded
        exact Or.inl rfl
      · cases failed
        exact Or.inr ⟨text, rfl, known⟩
  | unloadRoom roomId =>
      refine Program.Ends.map (ends_unloadRoom environment roomId) ?_
      rintro result (unloaded | failed)
      · cases unloaded
        exact Or.inl rfl
      · cases failed
        exact Or.inr rfl

/-- Every request takes and gives the lock in turn. -/
theorem locks_program (served : Served) :
    (served.program : Task Value Reply).Locks false false := by
  obtain ⟨environment, request⟩ := served
  have command (command : Commands) :
      (handleCommand environment.faults command :
        Task Value CommandResponse).Locks false false :=
    (lawful_handleCommand environment.faults command).locks
  have mapped {Result Other : Type} {task : Task Value Result}
      (locks : task.Locks false false) (change : Result → Other) :
      (change <$> task).Locks false false :=
    locks.bind fun _ => rfl
  cases request with
  | newRoom name => exact mapped (mapped (command _) _) _
  | listRooms => exact mapped (Program.locks_atomic rfl rfl) _
  | deleteRoom roomId => exact mapped (Program.locks_atomic rfl rfl) _
  | issueJwt roomId sub buckets =>
      exact mapped (Program.locks_atomic rfl rfl) _
  | newBucket roomId bucketId label => exact mapped (mapped (command _) _) _
  | deleteBucket roomId bucketId => exact mapped (mapped (command _) _) _
  | newMember roomId member => exact mapped (mapped (command _) _) _
  | deleteMember roomId member => exact mapped (mapped (command _) _) _
  | listMembers roomId => exact mapped (Program.locks_atomic rfl rfl) _
  | listBuckets roomId => exact mapped (Program.locks_atomic rfl rfl) _
  | readFragment roomId bucketId key => exact mapped (mapped (command _) _) _
  | writeFragment roomId bucketId key data =>
      exact mapped (mapped (command _) _) _
  | loadRoom roomId => exact mapped (mapped (command _) _) _
  | unloadRoom roomId => exact mapped (mapped (command _) _) _

/-! ## Sessions -/

/-- What holds of the requests in progress. -/
structure Orderly (session : Session Value) : Prop where
  disciplined : session.pool.Disciplined
  promises : History.Promises (fun served => Expected served.request)
    session.calls session.pool.tasks

omit [SerdeJson Value] in
theorem orderly_start (kernel : SyncpondKernel Value) :
    Orderly (.start kernel) where
  disciplined := .start kernel
  promises := ⟨rfl, by simp [History.start]⟩

theorem orderly_step {server : GrpcServer} {session after : Session Value}
    {event : SessionEvent Value} (orderly : Orderly session)
    (stepped : session.step server event = some after) : Orderly after := by
  have kept (event : HistoryEvent (SyncpondKernel Value) Served)
      (stepped : History.step Served.program session event = some after) :
      Orderly after :=
    ⟨History.disciplined_step locks_program stepped orderly.disciplined,
      History.promises_step ends_program stepped orderly.promises⟩
  cases event with
  | request metadata served =>
      simp only [Session.step] at stepped
      split at stepped
      · cases stepped
        exact orderly
      · exact kept (.arrive served) stepped
  | advance task => exact kept (.advance task) stepped
  | disturb kernel => exact kept (.disturb kernel) stepped

theorem orderly_of_follows {server : GrpcServer}
    {kernel : SyncpondKernel Value} {session : Session Value}
    (follows : Follows (Session.step server) (fun _ _ => True) (.start kernel)
      session) : Orderly session :=
  follows.invariant Orderly
    (fun _ _ _ orderly _ stepped => orderly_step orderly stepped)
    (orderly_start kernel)

omit [SerdeJson Value] in
theorem Orderly.promises_schedules {session : Session Value}
    {after : Pool (SyncpondKernel Value) Reply} (orderly : Orderly session)
    (schedule : Relation.ReflTransGen (Function.swap Pool.Schedules)
      session.pool after) :
    History.Promises (fun served => Expected served.request) session.calls
      after.tasks := by
  induction schedule with
  | refl => exact orderly.promises
  | tail _ next ih =>
      obtain ⟨task, advances⟩ := next
      exact ih.advance advances

/--
In every session, no schedule of the requests in progress goes on for ever;
and when none of them can go on, every request has a reply to expect.
-/
theorem requests_are_answered {server : GrpcServer}
    {kernel : SyncpondKernel Value} {session : Session Value}
    (follows : Follows (Session.step server) (fun _ _ => True) (.start kernel)
      session) :
    (∀ schedule : ℕ → Pool (SyncpondKernel Value) Reply,
      schedule 0 = session.pool →
      ¬∀ turn, Pool.Schedules (schedule (turn + 1)) (schedule turn)) ∧
    ∀ after, Relation.ReflTransGen (Function.swap Pool.Schedules) session.pool
        after → (∀ next, ¬Pool.Schedules next after) →
      ∀ (task : Nat) (served : Served), session.calls[task]? = some served →
        ∃ reply, after.tasks[task]? = some (.done reply) ∧
          Expected served.request reply := by
  have orderly := orderly_of_follows follows
  refine ⟨fun schedule _ => Pool.not_schedules_forever schedule, ?_⟩
  intro after schedule stuck task served isServed
  have kept := orderly.promises_schedules schedule
  have finished :=
    (orderly.disciplined.schedules schedule).finished_of_stuck stuck
  have bound : task < after.tasks.length :=
    kept.length ▸ (List.getElem?_eq_some_iff.mp isServed).1
  have found := List.getElem?_eq_getElem bound
  obtain ⟨reply, isDone⟩ := finished _ (List.mem_of_getElem? found)
  rw [isDone] at found
  exact ⟨reply, found, kept.ends task served _ isServed found⟩

/-- What the requests of a session find outside of the kernel. -/
def plain : Environment := ⟨.none, standIn, .ascending, .ascending, 0⟩

/-- A request with the key. -/
def ask (request : Request) : SessionEvent Json :=
  .request [(keyHeader, asBytes "secret")] ⟨plain, request⟩

/-- Two writes to one fragment, each of which has had its first section. -/
def askedTwice : List (SessionEvent Json) :=
  ask (.newRoom "room") :: List.replicate 3 (.advance 0) ++
  [ask (.writeFragment 1 5 "key" "1".toUTF8),
    ask (.writeFragment 1 5 "key" "2".toUTF8), .advance 1, .advance 2]

/-- The rest of the two writes, in turn. -/
def inTurns : List Nat := (List.replicate 6 [2, 1]).flatten

/-- What the three requests are answered. -/
def replies : List Reply :=
  [.ok (.newRoom 1), .ok .writeFragment, .ok .writeFragment]

theorem requests_are_answered_inTurns :
    ∃ (session : Session Json) (after : Pool (SyncpondKernel Json) Reply),
      session.calls.length = 3 ∧
      session.pool.tasks.map Program.returned =
        [some (.ok (.newRoom 1)), none, none] ∧
      Relation.ReflTransGen (Function.swap Pool.Schedules) session.pool after ∧
      (∀ next, ¬Pool.Schedules next after) ∧
      after.tasks.map Program.returned = replies.map some ∧
      ∀ (task : Nat) (served : Served), session.calls[task]? = some served →
        ∃ reply, after.tasks[task]? = some (.done reply) ∧
          Expected served.request reply := by
  have ran : ((askedTwice.foldlM (Session.step ⟨some "secret"⟩)
      (.start (boot .none ∅))).bind fun session =>
        (inTurns.foldlM Pool.advance session.pool).map fun after =>
          decide (session.calls.length = 3 ∧
            session.pool.tasks.map Program.returned =
              [some (.ok (.newRoom 1)), none, none] ∧
            after.tasks.map Program.returned = replies.map some)) =
      some true := by
    decide +kernel
  obtain ⟨session, asked, ran⟩ := Option.bind_eq_some_iff.mp ran
  obtain ⟨after, turns, seen⟩ := Option.map_eq_some_iff.mp ran
  obtain ⟨three, begun, returned⟩ := of_decide_eq_true seen
  have schedule := Pool.schedules_of_foldlM turns
  have stuck := (Pool.finished_of_returned returned).stuck
  exact ⟨session, after, three, begun, schedule, stuck, returned,
    (requests_are_answered (follows_of_foldlM asked)).2 after schedule stuck⟩

/-! ## Requests without the key -/

/-- A request with the key, and one with another key first. -/
def askedWithout : List (SessionEvent Json) :=
  [ask (.newRoom "room"), .advance 0,
    .request [(keyHeader, [1]), (keyHeader, asBytes "secret")]
      ⟨plain, .deleteRoom 1⟩,
    .advance 0, .advance 0]

end Syncpond.UpstreamReplies
