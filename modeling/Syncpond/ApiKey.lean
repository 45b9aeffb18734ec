import Syncpond.Library.Linearization
import Syncpond.Upstream

/-!
# The key of the upstream API

The configuration of the server has one key, and startup refuses a blank one.
The interceptor lets a request in whose first key header is this key, and
answers every other request itself: such requests leave no trace in a session.

The interceptor reads the header as visible text, so a key with any other
byte in it lets no request in.
-/

namespace Syncpond.ApiKey

open Syncpond.Protocol
open Syncpond.Serde
open Syncpond.State
open Syncpond.Persistence
open Syncpond.Kernel
open Syncpond.Upstream
open Syncpond.Library.Maps
open Syncpond.Library.Linearization
open Syncpond.Library.Programs
open Syncpond.Library.Text

/-! ## The check -/

/-- The headers of a request: names and values, in the order they came. -/
abbrev Metadata := List (String × List UInt8)

/-- The first value of a header. -/
def Metadata.get (metadata : Metadata) (name : String) :
    Option (List UInt8) :=
  (metadata.find? fun header => header.1 == name).map Prod.snd

/-- The bytes that a header value may have to be read as text. -/
def isVisibleAscii (byte : UInt8) : Bool :=
  (32 ≤ byte && byte < 127) || byte == 9

/-- The text of a header value. -/
def toStr (value : List UInt8) : Option (List UInt8) :=
  if value.all isVisibleAscii then some value else none

/-- The comparison of two texts that looks at all their bytes. -/
def ctEq (left right : List UInt8) : Bool :=
  left.length == right.length &&
    (left.zip right).foldl (fun equal pair => equal && pair.1 == pair.2) true

/-- The bytes of a text. -/
def asBytes (text : String) : List UInt8 :=
  text.toUTF8.data.toList

/-- The header of the key. -/
def keyHeader : String := "x-syncpond-command-api-key"

/-- The service, with the key of its interceptor. -/
structure GrpcServer where
  apiKey : Option String

/-- The status of a request that is not let in. -/
def noApiKey : Status := ⟨.unauthenticated, "no api key provided"⟩

/-- Let a request in if it has the key. -/
def GrpcServer.interceptor (server : GrpcServer) (metadata : Metadata) :
    Except Status Unit :=
  match server.apiKey with
  | none => .error noApiKey
  | some configuredKey =>
      match metadata.get keyHeader with
      | none => .error noApiKey
      | some value =>
          match toStr value with
          | none => .error noApiKey
          | some text =>
              if ctEq text (asBytes configuredKey) then .ok ()
              else .error noApiKey

theorem foldl_and_eq_true {α : Type} (test : α → Bool) (list : List α)
    (start : Bool) :
    list.foldl (fun equal element => equal && test element) start = true ↔
      start = true ∧ ∀ element ∈ list, test element = true := by
  induction list generalizing start with
  | nil => simp
  | cons head rest ih =>
      rw [List.foldl_cons, ih, Bool.and_eq_true, and_assoc,
        List.forall_mem_cons]

/-- The comparison finds out whether the texts are the same. -/
theorem ctEq_eq_true_iff (left right : List UInt8) :
    ctEq left right = true ↔ left = right := by
  unfold ctEq
  rw [Bool.and_eq_true, beq_iff_eq, foldl_and_eq_true]
  constructor
  · rintro ⟨sameLength, _, same⟩
    apply List.ext_getElem sameLength
    intro index inLeft inRight
    have member : (left[index], right[index]) ∈ left.zip right :=
      List.mem_iff_getElem.mpr ⟨index, by simp [inLeft, inRight], by simp⟩
    exact beq_iff_eq.mp (same _ member)
  · rintro rfl
    refine ⟨rfl, rfl, ?_⟩
    intro pair member
    obtain ⟨index, bound, rfl⟩ := List.mem_iff_getElem.mp member
    simp

/-- The first key header of a request is the key, in visible bytes. -/
def Authorized (key : String) (metadata : Metadata) : Prop :=
  metadata.get keyHeader = some (asBytes key) ∧
    (asBytes key).all isVisibleAscii = true

instance (key : String) (metadata : Metadata) :
    Decidable (Authorized key metadata) :=
  inferInstanceAs (Decidable (_ ∧ _))

/-- The key lets a request in, and nothing else does. -/
theorem interceptor_eq (key : String) (metadata : Metadata) :
    (GrpcServer.mk (some key)).interceptor metadata =
      if Authorized key metadata then .ok () else .error noApiKey := by
  by_cases authorized : Authorized key metadata
  · obtain ⟨found, visible⟩ := authorized
    have equal := (ctEq_eq_true_iff _ (asBytes key)).mpr rfl
    rw [if_pos ⟨found, visible⟩]
    simp only [GrpcServer.interceptor, found, toStr, visible, if_true, equal]
  · rw [if_neg authorized]
    unfold Authorized at authorized
    unfold GrpcServer.interceptor
    dsimp only
    split
    · rfl
    next value found =>
    rw [found] at authorized
    unfold toStr
    by_cases visible : value.all isVisibleAscii = true
    · have different : ¬ctEq value (asBytes key) = true := by
        intro equal
        cases (ctEq_eq_true_iff _ _).mp equal
        exact authorized ⟨rfl, visible⟩
      rw [if_pos visible]
      exact if_neg different
    · rw [if_neg visible]

/-! ## Startup -/

/-- The settings of the server, as far as it checks or hands them on. -/
structure SyncpondConfig where
  commandApiKey : String
  wsAddr : Option String
  upstreamGrpcAddr : Option String
  jwtKey : Option String
  jwtIssuer : Option String
  jwtAudience : Option String
  jwtTtlSeconds : Option UInt64
  requireTls : Option Bool
  saveDir : Option String

variable {Value : Type}

/-- Set the settings for tokens. -/
def configureTokens (config : SyncpondConfig) (app : AppState Value) :
    AppState Value :=
  { app with
    jwtKey := config.jwtKey <|> app.jwtKey
    jwtIssuer := config.jwtIssuer <|> app.jwtIssuer
    jwtAudience := config.jwtAudience <|> app.jwtAudience
    jwtTtlSeconds := config.jwtTtlSeconds.getD app.jwtTtlSeconds }

/-- The checks of the settings before the server starts. -/
def checkConfig (isSocketAddr : String → Bool) (config : SyncpondConfig) :
    Except String Unit := do
  if (trim config.commandApiKey).isEmpty then
    throw "command_api_key must be configured and non-empty"
  if config.saveDir.all fun dir => (trim dir).isEmpty then
    throw "save_dir must be configured and non-empty"
  if config.requireTls.getD false then
    throw ("TLS transport required in config, but this binary does not " ++
      "terminate TLS; use reverse proxy for TLS termination")
  let wsAddr := config.wsAddr.getD "127.0.0.1:8080"
  if !isSocketAddr wsAddr then throw ("invalid ws_addr: " ++ wsAddr)
  let grpcAddr := config.upstreamGrpcAddr.getD "127.0.0.1:50051"
  if !isSocketAddr grpcAddr then
    throw ("invalid upstream_grpc_addr: " ++ grpcAddr)

/--
Startup: check the settings, open the databases of the data directory and
register their rooms.
-/
def start (isSocketAddr : String → Bool) (faults : Faults)
    (dirs : Map String Db) (config : SyncpondConfig) :
    Except String (SyncpondKernel Value × GrpcServer) := do
  checkConfig isSocketAddr config
  let manager :=
    ((PersistenceManager.new dirs).openExistingRoomDbs faults).1
  return (
    { state := registerExisting (configureTokens config .new)
        manager.listRoomIds
      persistence := manager
      notifications := .empty },
    ⟨some config.commandApiKey⟩)

theorem notBlank_of_checkConfig {isSocketAddr : String → Bool}
    {config : SyncpondConfig}
    (checked : checkConfig isSocketAddr config = .ok ()) :
    (trim config.commandApiKey).isEmpty = false := by
  cases blank : (trim config.commandApiKey).isEmpty with
  | false => rfl
  | true =>
      unfold checkConfig at checked
      rw [blank] at checked
      cases checked

theorem start_eq_ok_iff {isSocketAddr : String → Bool} {faults : Faults}
    {dirs : Map String Db} {config : SyncpondConfig}
    {started : SyncpondKernel Value × GrpcServer} :
    start isSocketAddr faults dirs config = .ok started ↔
      checkConfig isSocketAddr config = .ok () ∧
        started = (
          { state := registerExisting (configureTokens config .new)
              ((PersistenceManager.new dirs).openExistingRoomDbs
                faults).1.listRoomIds
            persistence :=
              ((PersistenceManager.new dirs).openExistingRoomDbs faults).1
            notifications := .empty },
          ⟨some config.commandApiKey⟩) := by
  unfold start
  cases checkConfig isSocketAddr config with
  | error text =>
      constructor
      · rintro ⟨⟩
      · rintro ⟨⟨⟩, _⟩
  | ok _ =>
      constructor
      · rintro ⟨⟩
        exact ⟨rfl, rfl⟩
      · rintro ⟨_, rfl⟩
        rfl

/-! ## Sessions -/

/-- A request with what it finds outside of the kernel. -/
structure Served where
  environment : Environment
  request : Request

/-- The requests that the server lets in, and what is left of them. -/
abbrev Session (Value : Type) := History (SyncpondKernel Value) Served Reply

/-- What happens in a session, one event at a time. -/
inductive SessionEvent (Value : Type) where
  | request (metadata : Metadata) (served : Served)
  | advance (task : Nat)
  /-- Another part of the server leaves this kernel. -/
  | disturb (kernel : SyncpondKernel Value)

variable [SerdeJson Value]

/-- The program of a request. -/
def Served.program (served : Served) : Task Value Reply :=
  call served.environment served.request

namespace Session

/-- The session after an event, if the event can happen. -/
def step (server : GrpcServer) (session : Session Value) :
    SessionEvent Value → Option (Session Value)
  | .request metadata served =>
      match server.interceptor metadata with
      | .error _ => some session
      | .ok () => History.step Served.program session (.arrive served)
  | .advance task => History.step Served.program session (.advance task)
  | .disturb kernel => History.step Served.program session (.disturb kernel)

end Session

/-- A request is let in only with the key. -/
def SessionEvent.Admitted (key : String) : SessionEvent Value → Prop
  | .request metadata _ => Authorized key metadata
  | .advance _ => True
  | .disturb _ => True

instance (key : String) (event : SessionEvent Value) :
    Decidable (event.Admitted key) :=
  match event with
  | .request metadata _ => inferInstanceAs (Decidable (Authorized key metadata))
  | .advance _ => .isTrue trivial
  | .disturb _ => .isTrue trivial

theorem step_of_not_admitted {key : String} {event : SessionEvent Value}
    (refused : ¬event.Admitted key) (session : Session Value) :
    Session.step ⟨some key⟩ session event = some session := by
  cases event with
  | request metadata served =>
      have notAuthorized : ¬Authorized key metadata := refused
      simp only [Session.step, interceptor_eq, if_neg notAuthorized]
  | advance task => exact absurd trivial refused
  | disturb kernel => exact absurd trivial refused

/-- A run of the server is the run of the requests with the key. -/
theorem foldlM_admitted {key : String} (session : Session Value)
    (events : List (SessionEvent Value)) :
    (events.filter fun event => event.Admitted key).foldlM
        (Session.step ⟨some key⟩) session =
      events.foldlM (Session.step ⟨some key⟩) session := by
  induction events generalizing session with
  | nil => rfl
  | cons event rest ih =>
      by_cases admitted : event.Admitted key
      · rw [List.filter_cons_of_pos (by simpa using admitted),
          List.foldlM_cons, List.foldlM_cons]
        exact bind_congr ih
      · rw [List.filter_cons_of_neg (by simpa using admitted),
          List.foldlM_cons, step_of_not_admitted admitted]
        exact ih session

/-- The request of an event, if it has the key. -/
def SessionEvent.admitted (key : String) : SessionEvent Value → Option Served
  | .request metadata served =>
      if Authorized key metadata then some served else none
  | .advance _ => none
  | .disturb _ => none

theorem calls_step {key : String} {event : SessionEvent Value}
    {session after : Session Value}
    (stepped : Session.step ⟨some key⟩ session event = some after) :
    after.calls = session.calls ++ (event.admitted key).toList := by
  cases event with
  | request metadata served =>
      by_cases authorized : Authorized key metadata
      · simp only [Session.step, interceptor_eq, if_pos authorized] at stepped
        cases stepped
        simp only [SessionEvent.admitted, if_pos authorized, Option.toList_some]
      · have refused :
            ¬(SessionEvent.request metadata served :
              SessionEvent Value).Admitted key := authorized
        rw [step_of_not_admitted refused] at stepped
        cases stepped
        simp [SessionEvent.admitted, authorized]
  | advance task =>
      obtain ⟨pool, _, rfl⟩ := Option.map_eq_some_iff.mp stepped
      exact (List.append_nil _).symm
  | disturb kernel =>
      cases stepped
      exact (List.append_nil _).symm

/-- The requests that reach the service are the ones with the key. -/
theorem calls_foldlM {key : String} {events : List (SessionEvent Value)}
    {session after : Session Value}
    (ran : events.foldlM (Session.step ⟨some key⟩) session = some after) :
    after.calls =
      session.calls ++ events.filterMap fun event => event.admitted key := by
  induction events generalizing session with
  | nil =>
      cases ran
      exact (List.append_nil _).symm
  | cons event rest ih =>
      rw [List.foldlM_cons] at ran
      obtain ⟨next, stepped, ranRest⟩ := Option.bind_eq_some_iff.mp ran
      rw [ih ranRest, calls_step stepped, List.append_assoc]
      cases isAdmitted : event.admitted key <;> simp [isAdmitted]

omit [SerdeJson Value] in
/-- Nobody has a key that headers cannot carry. -/
theorem filterMap_admitted_of_not_visible {key : String}
    (hidden : (asBytes key).all isVisibleAscii = false)
    (events : List (SessionEvent Value)) :
    events.filterMap (fun event => event.admitted key) = [] := by
  refine List.filterMap_eq_nil_iff.mpr ?_
  intro event _
  cases event with
  | request metadata served =>
      have refused : ¬Authorized key metadata := by
        rintro ⟨_, visible⟩
        rw [hidden] at visible
        cases visible
      exact if_neg refused
  | advance task => rfl
  | disturb kernel => rfl

/-- A configuration with a key. -/
def keyed : SyncpondConfig where
  commandApiKey := "secret"
  wsAddr := none
  upstreamGrpcAddr := none
  jwtKey := none
  jwtIssuer := none
  jwtAudience := none
  jwtTtlSeconds := none
  requireTls := none
  saveDir := some "data"

theorem checkConfig_keyed : checkConfig (fun _ => true) keyed = .ok () := by
  decide

theorem start_keyed : ∃ kernel : SyncpondKernel Json,
    start (fun _ => true) .none ∅ keyed = .ok (kernel, ⟨some "secret"⟩) :=
  ⟨_, start_eq_ok_iff.mpr ⟨checkConfig_keyed, rfl⟩⟩

end Syncpond.ApiKey
