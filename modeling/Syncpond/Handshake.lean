import Syncpond.Frames
import Syncpond.Tokens

/-!
# The handshake

The first frame of a connection is to carry a token.  The handshake answers
with `AuthError` and ends, or it answers with `AuthOk` and registers the
connection with the room and the buckets of the token.

`AuthOk` is sent before the hub is asked.  A hub that has no room in one of
the buckets refuses the connection after that, so that the client is told both.
-/

namespace Syncpond.Handshake

open Syncpond.Protocol
open Syncpond.Hub
open Syncpond.Tasks (allowedBuckets grant Grant)
open Syncpond.Frames
open Syncpond.Tokens
open Syncpond.State (serverOnlyBucketId)
open Syncpond.Library.Maps

/-- What a handshake reads besides the first frame and the hub. -/
structure Surroundings where
  jwt : JsonWebToken
  /-- The decoder of envelopes. -/
  decode : ByteArray → Except String WsEnvelope
  env : Env
  decodedAt : UInt64
  now : UInt64
  reservedBucketId : BucketId
  /-- How many frames the socket takes before it breaks. -/
  capacity : Nat

/-- What comes first from the socket: nothing, an error or a message. -/
abbrev FirstFrame := Option (Except String WsMessage)

/-- Where a handshake ends. -/
structure Outcome where
  sent : List Payload
  hub : WsHub
  /-- The id under which the connection enters its main loop. -/
  connId : Option ConnId

variable (around : Surroundings)

/-- The `Auth` payload of the first frame, or the error that is sent. -/
def readAuth : FirstFrame → Except (Option AuthError) Auth
  | some (.ok (.binary bytes)) =>
      match around.decode bytes with
      | .ok envelope =>
          match envelope.payload with
          | some (.auth message) => .ok message
          | _ => .error (some {
              reason := "missing_auth"
              detail := "expected Auth payload in first frame" })
      | .error _ => .error (some {
          reason := "invalid_auth_frame"
          detail := "failed to decode protobuf auth message" })
  | some (.ok _) => .error (some {
      reason := "invalid_auth_message"
      detail := "expected binary protobuf authentication frame" })
  | some (.error _) => .error none
  | none => .error none

/-- The claims of the token and what they grant, or the error that is sent. -/
def authorize (message : Auth) :
    Except (Option AuthError) (Tokens.Claims × Grant) :=
  match AuthConfig.fromEnv around.env with
  | .error _ => .error none
  | .ok config =>
      match config.validateJwt around.jwt around.decodedAt around.now
          message.jwt with
      | .error reason => .error (some {
          reason := "invalid_jwt"
          detail := reason })
      | .ok claims =>
          match grant around.reservedBucketId claims.toClaims with
          | some granted => .ok (claims, granted)
          | none => .error (some {
              reason := "invalid_jwt_missing_room_id"
              detail := "token missing room_id claim" })

/-- Register a connection that was told `AuthOk`. -/
def register (granted : Grant) (hub : WsHub) : Outcome :=
  let position := hub.queues.length
  let (connId, allocated) := hub.openQueue.allocateConnectionId
  match allocated.addClient connId granted.roomId granted.allowedBuckets
      position with
  | .ok registered =>
      { sent := [.authOk ⟨0⟩], hub := registered, connId := some connId }
  | .error reason =>
      { sent := [.authOk ⟨0⟩, .authError ⟨"client_add_failed", reason⟩].take
          around.capacity
        hub := allocated.closeQueue position
        connId := none }

/-- `handle_ws_connection` up to its main loop. -/
def handshake (first : FirstFrame) (hub : WsHub) : Outcome :=
  match readAuth around first >>= authorize around with
  | .error refusal =>
      { sent := (refusal.map Payload.authError).toList.take around.capacity
        hub := hub
        connId := none }
  | .ok (_, granted) =>
      if around.capacity = 0 then { sent := [], hub := hub, connId := none }
      else register around granted hub

/-! ## Verdicts -/

/-- The first frame presents a token that is valid, with its claims. -/
structure Presents (first : FirstFrame) (claims : Tokens.Claims) : Prop where
  frame : ∃ bytes envelope message config,
    first = some (.ok (.binary bytes)) ∧
    around.decode bytes = .ok envelope ∧
    envelope.payload = some (.auth message) ∧
    AuthConfig.fromEnv around.env = .ok config ∧
    config.validateJwt around.jwt around.decodedAt around.now message.jwt =
      .ok claims
  room : ∃ roomId, claims.roomId = some roomId ∧ 0 < roomId

/-- The connection is told `AuthOk` and registered as its token says. -/
structure Accepted (first : FirstFrame) (outcome : Outcome) : Prop where
  sent : outcome.sent = [.authOk ⟨0⟩]
  registered : ∃ connId client claims, outcome.connId = some connId ∧
    outcome.hub.connections[connId]? = some client ∧
    Presents around first claims ∧ claims.roomId = some client.roomId ∧
    ∀ bucketId, bucketId ∈ client.buckets ↔
      (bucketId = 0 ∨ bucketId ∈ claims.buckets.getD []) ∧
        bucketId ≠ around.reservedBucketId

/-- The connection is told at most one `AuthError` and leaves no trace. -/
structure Refused (hub : WsHub) (outcome : Outcome) : Prop where
  sent : outcome.sent = [] ∨ ∃ error, outcome.sent = [.authError error]
  connections : outcome.hub.connections = hub.connections
  buckets : outcome.hub.buckets = hub.buckets
  closes : outcome.connId = none

/-- One of the two, and not both. -/
def OneVerdict (first : FirstFrame) (hub : WsHub) : Prop :=
  (Accepted around first (handshake around first hub) ∨
      Refused hub (handshake around first hub)) ∧
    ¬(Accepted around first (handshake around first hub) ∧
      Refused hub (handshake around first hub))

/-- A hub has no room in a bucket of a token for the next connection. -/
def NoRoom (claims : Tokens.Claims) (hub : WsHub) : Prop :=
  ∃ bucketId ∈ allowedBuckets around.reservedBucketId claims.toClaims,
    hub.isFull hub.nextConnId bucketId = true

/-! ### What the token grants -/

section Granted

variable {around} {first : FirstFrame} {claims : Tokens.Claims}
variable {granted : Grant} {hub : WsHub}

theorem mem_allowedBuckets {reservedBucketId bucketId : BucketId}
    {claims : Tasks.Claims} :
    bucketId ∈ allowedBuckets reservedBucketId claims ↔
      (bucketId = 0 ∨ bucketId ∈ claims.buckets.getD []) ∧
        bucketId ≠ reservedBucketId := by
  simp only [allowedBuckets, Std.ExtTreeSet.mem_erase, mem_set_insert,
    Std.ExtTreeSet.mem_ofList, List.contains_iff_mem, ne_eq,
    Std.LawfulEqCmp.compare_eq_iff_eq]
  rw [and_comm, eq_comm (a := reservedBucketId), eq_comm (a := (0 : BucketId))]

theorem grant_eq_some {reservedBucketId : BucketId} {claims : Tasks.Claims}
    (isGranted : grant reservedBucketId claims = some granted) :
    claims.roomId = some granted.roomId ∧ 0 < granted.roomId ∧
      granted.allowedBuckets = allowedBuckets reservedBucketId claims := by
  unfold grant at isGranted
  split at isGranted
  · next roomId found =>
    split at isGranted
    · next positive =>
      cases isGranted
      exact ⟨found, positive, rfl⟩
    · cases isGranted
  · cases isGranted

theorem readAuth_eq_ok {message : Auth}
    (isRead : readAuth around first = .ok message) :
    ∃ bytes envelope, first = some (.ok (.binary bytes)) ∧
      around.decode bytes = .ok envelope ∧
      envelope.payload = some (.auth message) := by
  unfold readAuth at isRead
  split at isRead
  · next bytes =>
    split at isRead
    · next envelope decoded =>
      split at isRead
      · next found isAuth =>
        cases isRead
        exact ⟨bytes, envelope, rfl, decoded, isAuth⟩
      · cases isRead
    · cases isRead
  · cases isRead
  · cases isRead
  · cases isRead

theorem authorize_eq_ok {message : Auth}
    (authorized : authorize around message = .ok (claims, granted)) :
    ∃ config, AuthConfig.fromEnv around.env = .ok config ∧
      config.validateJwt around.jwt around.decodedAt around.now message.jwt =
        .ok claims ∧
      grant around.reservedBucketId claims.toClaims = some granted := by
  unfold authorize at authorized
  split at authorized
  · cases authorized
  next config isConfig =>
  split at authorized
  · cases authorized
  next valid isValid =>
  split at authorized
  · next found isGranted =>
    cases authorized
    exact ⟨config, isConfig, isValid, isGranted⟩
  · cases authorized

/-- What is authorized was presented. -/
theorem presents_of_authorized
    (authorized : (readAuth around first >>= authorize around) =
      .ok (claims, granted)) :
    Presents around first claims ∧
      grant around.reservedBucketId claims.toClaims = some granted := by
  cases isRead : readAuth around first with
  | error refusal =>
      rw [isRead] at authorized
      cases authorized
  | ok message =>
      rw [isRead] at authorized
      obtain ⟨bytes, envelope, isFirst, decoded, isAuth⟩ :=
        readAuth_eq_ok isRead
      obtain ⟨config, isConfig, valid, isGranted⟩ :=
        authorize_eq_ok authorized
      obtain ⟨hasRoom, positive, _⟩ := grant_eq_some isGranted
      exact ⟨⟨⟨bytes, envelope, message, config, isFirst, decoded, isAuth,
        isConfig, valid⟩, ⟨_, hasRoom, positive⟩⟩, isGranted⟩

/-- What is presented is authorized. -/
theorem authorized_of_presents (presents : Presents around first claims) :
    ∃ granted, (readAuth around first >>= authorize around) =
      .ok (claims, granted) := by
  obtain ⟨bytes, envelope, message, config, rfl, decoded, isAuth, isConfig,
    valid⟩ := presents.frame
  obtain ⟨roomId, hasRoom, positive⟩ := presents.room
  refine ⟨⟨roomId, allowedBuckets around.reservedBucketId claims.toClaims⟩,
    ?_⟩
  simp [readAuth, decoded, isAuth, authorize, isConfig, valid, grant,
    hasRoom, positive, bind, Except.bind]

end Granted

/-! ### Registration -/

section Registration

variable {granted : Grant} {hub : WsHub}

/-- The hub is asked with the next id, whatever queue is opened. -/
theorem addClient_next (granted : Grant) (hub : WsHub) :
    hub.openQueue.allocateConnectionId.2.addClient hub.nextConnId
        granted.roomId granted.allowedBuckets hub.queues.length =
      if ∃ bucketId ∈ granted.allowedBuckets.toList,
          hub.isFull hub.nextConnId bucketId = true then
        .error "bucket_client_limit_exceeded"
      else
        .ok { hub.openQueue.allocateConnectionId.2 with
          connections := hub.connections.insert hub.nextConnId
            ⟨granted.roomId, granted.allowedBuckets, hub.queues.length⟩
          buckets := granted.allowedBuckets.toList.foldl
            (WsHub.subscribe hub.nextConnId) hub.buckets } := by
  rw [WsHub.addClient]
  simp only [List.any_eq_true]
  rfl

/-- A hub with room in every bucket registers the connection. -/
theorem register_of_room
    (room : ¬∃ bucketId ∈ granted.allowedBuckets,
      hub.isFull hub.nextConnId bucketId = true) :
    (register around granted hub).sent = [.authOk ⟨0⟩] ∧
      (register around granted hub).connId = some hub.nextConnId ∧
      (register around granted hub).hub.connections[hub.nextConnId]? =
        some ⟨granted.roomId, granted.allowedBuckets, hub.queues.length⟩ := by
  simp only [← Std.ExtTreeSet.mem_toList] at room
  have added := (addClient_next granted hub).trans (if_neg room)
  have connId : hub.openQueue.allocateConnectionId.1 = hub.nextConnId := rfl
  simp only [register, connId, added, true_and]
  rw [lookup_insert, if_pos rfl]

/-- A hub without room in a bucket refuses it after `AuthOk`. -/
theorem register_of_full
    (full : ∃ bucketId ∈ granted.allowedBuckets,
      hub.isFull hub.nextConnId bucketId = true) :
    (register around granted hub).sent =
        [.authOk ⟨0⟩, .authError ⟨"client_add_failed",
          "bucket_client_limit_exceeded"⟩].take around.capacity ∧
      (register around granted hub).connId = none := by
  simp only [← Std.ExtTreeSet.mem_toList] at full
  have refused := (addClient_next granted hub).trans (if_pos full)
  have connId : hub.openQueue.allocateConnectionId.1 = hub.nextConnId := rfl
  simp only [register, connId, refused, and_self]

/-- The task of a connection registers it as the handshake does. -/
theorem register_connect {Value : Type} {server : Tasks.Server Value}
    (free : server.lock = none) (granted : Grant)
    (aligned : server.stages.length = server.hub.queues.length)
    (alignedGrants : server.grants.length = server.hub.queues.length)
    (registers : (register around granted server.hub).connId ≠ none) :
    ∃ after, (server.connect granted).register server.hub.queues.length =
        some after ∧
      after.hub = (register around granted server.hub).hub := by
  have stage : (server.stages ++ [Tasks.Stage.registering])[
      server.hub.queues.length]? = some .registering := by
    rw [← aligned, List.getElem?_concat_length]
  have grants : (server.grants ++ [granted])[server.hub.queues.length]? =
      some granted := by
    rw [← alignedGrants, List.getElem?_concat_length]
  have connId : server.hub.openQueue.allocateConnectionId.1 =
      server.hub.nextConnId := rfl
  cases added : server.hub.openQueue.allocateConnectionId.2.addClient
      server.hub.nextConnId granted.roomId granted.allowedBuckets
      server.hub.queues.length with
  | ok registered =>
      simp only [register, Tasks.Server.connect, Tasks.Server.register, free,
        stage, grants, connId, added]
      exact ⟨_, rfl, rfl⟩
  | error reason =>
      simp only [register, connId, added] at registers
      exact absurd rfl registers

end Registration

/-! ## One truthful verdict -/

section Verdict

variable {around} {first : FirstFrame} {claims : Tokens.Claims}
variable {hub : WsHub}

/-- Without a valid token the connection is refused. -/
theorem refused_of_not_presents
    (nothing : ¬∃ claims, Presents around first claims) (hub : WsHub) :
    Refused hub (handshake around first hub) := by
  unfold handshake
  split
  · next refusal _ =>
    refine ⟨?_, rfl, rfl, rfl⟩
    cases refusal with
    | none => exact Or.inl (by simp)
    | some error =>
        cases around.capacity with
        | zero => exact Or.inl rfl
        | succ more => exact Or.inr ⟨error, by simp⟩
  · next claims granted authorized =>
    exact absurd ⟨claims, (presents_of_authorized authorized).1⟩ nothing

/-- A socket that takes nothing refuses the connection. -/
theorem refused_of_broken (presents : Presents around first claims)
    (broken : around.capacity = 0) :
    Refused hub (handshake around first hub) := by
  obtain ⟨granted, authorized⟩ := authorized_of_presents presents
  simp only [handshake, authorized, broken, if_true]
  exact ⟨Or.inl rfl, rfl, rfl, rfl⟩

theorem handshake_of_presents (presents : Presents around first claims)
    (takes : around.capacity ≠ 0) (hub : WsHub) :
    ∃ granted, claims.roomId = some granted.roomId ∧
      granted.allowedBuckets =
        allowedBuckets around.reservedBucketId claims.toClaims ∧
      handshake around first hub = register around granted hub := by
  obtain ⟨granted, authorized⟩ := authorized_of_presents presents
  obtain ⟨_, isGranted⟩ := presents_of_authorized authorized
  obtain ⟨hasRoom, _, allowed⟩ := grant_eq_some isGranted
  refine ⟨granted, hasRoom, allowed, ?_⟩
  simp only [handshake, authorized, takes, if_false]

/-- A valid token is accepted by a hub with room. -/
theorem accepted_of_room (presents : Presents around first claims)
    (takes : around.capacity ≠ 0) (room : ¬NoRoom around claims hub) :
    Accepted around first (handshake around first hub) := by
  obtain ⟨granted, hasRoom, allowed, equal⟩ :=
    handshake_of_presents presents takes hub
  rw [NoRoom, ← allowed] at room
  obtain ⟨sent, entered, registered⟩ := register_of_room around room
  rw [equal]
  refine ⟨sent, _, _, claims, entered, registered, presents, hasRoom, ?_⟩
  intro bucketId
  rw [allowed]
  exact mem_allowedBuckets

/-- A hub without room makes the handshake say `AuthOk` and end. -/
theorem not_verdict_of_noRoom (presents : Presents around first claims)
    (takes : around.capacity ≠ 0) (noRoom : NoRoom around claims hub) :
    ¬OneVerdict around first hub := by
  obtain ⟨granted, _, allowed, equal⟩ :=
    handshake_of_presents presents takes hub
  rw [NoRoom, ← allowed] at noRoom
  obtain ⟨sent, ends⟩ := register_of_full around noRoom
  obtain ⟨more, capacity⟩ := Nat.exists_eq_succ_of_ne_zero takes
  rintro ⟨accepted | refused, _⟩
  · rw [equal] at accepted
    obtain ⟨connId, _, _, entered, _⟩ := accepted.registered
    cases ends.symm.trans entered
  · rw [equal] at refused
    rw [capacity] at sent
    rcases refused.sent with nothing | ⟨error, isError⟩
    · cases sent.symm.trans nothing
    · cases sent.symm.trans isError

theorem not_accepted_and_refused :
    ¬(Accepted around first (handshake around first hub) ∧
      Refused hub (handshake around first hub)) := by
  rintro ⟨accepted, refused⟩
  obtain ⟨connId, _, _, entered, _⟩ := accepted.registered
  cases refused.closes.symm.trans entered

end Verdict

/--
The handshake gives one truthful verdict, unless a valid token is presented on
a socket that takes `AuthOk` and the hub has no room in a bucket of the token.
-/
theorem handshake_truthful_iff (around : Surroundings) (first : FirstFrame)
    (hub : WsHub) :
    OneVerdict around first hub ↔
      ¬∃ claims, Presents around first claims ∧ around.capacity ≠ 0 ∧
        NoRoom around claims hub := by
  constructor
  · rintro verdict ⟨claims, presents, takes, noRoom⟩
    exact not_verdict_of_noRoom presents takes noRoom verdict
  · intro never
    refine ⟨?_, not_accepted_and_refused⟩
    by_cases presented : ∃ claims, Presents around first claims
    · obtain ⟨claims, presents⟩ := presented
      by_cases takes : around.capacity = 0
      · exact Or.inr (refused_of_broken presents takes)
      · exact Or.inl (accepted_of_room presents takes fun noRoom =>
          never ⟨claims, presents, takes, noRoom⟩)
    · exact Or.inr (refused_of_not_presents presented hub)

/-! ### A hub without room -/

def memberKey : String := "0123456789abcdef0123456789abcdef"

/-- The claims of a member of room 1. -/
def memberClaims : JwtClaims where
  sub := "member"
  roomId := 1
  buckets := [0]
  exp := 3600
  iss := some "issuer"
  aud := some "audience"

def memberToken : String := StandIn.encode memberClaims memberKey

def memberEnvelope : WsEnvelope := ⟨some (.auth ⟨memberToken, 0⟩)⟩

def memberFrame : FirstFrame :=
  some (.ok (.binary memberEnvelope.encodeToVec))

/-- A server that reads the envelope with the token. -/
def memberSurroundings : Surroundings where
  jwt := standIn
  decode bytes :=
    if bytes = memberEnvelope.encodeToVec then .ok memberEnvelope
    else .error "invalid wire type"
  env := ⟨some memberKey, some "issuer", some "audience"⟩
  decodedAt := 0
  now := 0
  reservedBucketId := serverOnlyBucketId
  capacity := 2

/-- A hub after some clients with bucket 0 completed their handshakes. -/
def crowdedHub (count : Nat) : WsHub :=
  (List.range count).foldl
    (fun hub _ =>
      (register memberSurroundings ⟨2, ({} : FinSet BucketId).insert 0⟩
        hub).hub)
    .new

theorem presents_member :
    Presents memberSurroundings memberFrame
      ⟨⟨some 1, some [0]⟩, "member", 3600⟩ where
  frame := by
    have decoded : memberSurroundings.decode memberEnvelope.encodeToVec =
        .ok memberEnvelope := by simp [memberSurroundings]
    have isConfig : AuthConfig.fromEnv memberSurroundings.env =
        .ok ⟨memberKey, "issuer", "audience"⟩ := by decide +kernel
    have signed : memberSurroundings.jwt.signed memberKey memberToken =
        some (.hs256, memberClaims.payload) :=
      signed_standIn memberClaims memberKey
    refine ⟨_, _, ⟨memberToken, 0⟩, _, rfl, decoded, rfl, isConfig, ?_⟩
    rw [validateJwt_eq_ok_iff]
    exact ⟨_, signed, ⟨3600, rfl, by decide⟩, rfl, by decide⟩
  room := ⟨1, rfl, by decide⟩

/-- The two hundred and first client is told `AuthOk` and then refused. -/
theorem crowdedHub_tells_both :
    let outcome := handshake memberSurroundings memberFrame (crowdedHub 200)
    outcome.sent =
        [.authOk ⟨0⟩, .authError ⟨"client_add_failed",
          "bucket_client_limit_exceeded"⟩] ∧
      outcome.connId = none ∧
      ¬OneVerdict memberSurroundings memberFrame (crowdedHub 200) := by
  intro outcome
  have takes : memberSurroundings.capacity ≠ 0 := by decide
  have noRoom : NoRoom memberSurroundings
      ⟨⟨some 1, some [0]⟩, "member", 3600⟩ (crowdedHub 200) :=
    ⟨0, by decide +kernel, by decide +kernel⟩
  obtain ⟨granted, _, allowed, equal⟩ :=
    handshake_of_presents presents_member takes (crowdedHub 200)
  have full := noRoom
  rw [NoRoom, ← allowed] at full
  obtain ⟨sent, ends⟩ := register_of_full memberSurroundings full
  refine ⟨?_, ?_, not_verdict_of_noRoom presents_member takes noRoom⟩
  · exact (congrArg Outcome.sent equal).trans sent
  · exact (congrArg Outcome.connId equal).trans ends

end Syncpond.Handshake
