import Syncpond.Handshake

/-!
# Issued tokens at the handshake

A token that the kernel issues is signed with the configured key and carries
the room, the member and the buckets of the request with bucket 0.  As long as
it is not expired the handshake takes it for exactly that, with one exception:
the handshake takes room 0 for a missing room, and the kernel does not.
-/

namespace Syncpond.IssuedTokens

open Syncpond.Protocol
open Syncpond.Serde
open Syncpond.State
open Syncpond.Kernel
open Syncpond.Hub
open Syncpond.Frames
open Syncpond.Tokens
open Syncpond.Handshake
open Syncpond.Tasks (allowedBuckets)
open Syncpond.Library.Maps
open Syncpond.Library.Text

variable {Value : Type}

/-- The request that a token was issued for, and when. -/
structure Issue where
  roomId : RoomId
  sub : String
  buckets : List BucketId
  issuedAt : UInt64

/-- The bucket was asked for, or is the public one. -/
def Issue.Asked (issue : Issue) (bucketId : BucketId) : Prop :=
  bucketId = 0 ∨ bucketId ∈ issue.buckets

/-- A handshake with a token, before it expires and not before its issue. -/
structure Redeems (jwt : JsonWebToken) (key token : String)
    (issue : Issue) (exp : UInt64) (around : Surroundings)
    (first : FirstFrame) : Prop where
  library : around.jwt = jwt
  config : ∃ config, AuthConfig.fromEnv around.env = .ok config ∧
    config.jwtKey = key
  frame : ∃ bytes lastSeenCounter, first = some (.ok (.binary bytes)) ∧
    around.decode bytes = .ok ⟨some (.auth ⟨token, lastSeenCounter⟩)⟩
  reserved : around.reservedBucketId = serverOnlyBucketId
  takes : around.capacity ≠ 0
  later : issue.issuedAt ≤ around.decodedAt ∧ issue.issuedAt ≤ around.now
  valid : around.decodedAt < exp ∧ around.now < exp

/-- The token is valid for the member and the room it was issued for. -/
def Validates (issue : Issue) (token : String) (around : Surroundings) :
    Prop :=
  ∃ config claims, AuthConfig.fromEnv around.env = .ok config ∧
    config.validateJwt around.jwt around.decodedAt around.now token =
      .ok claims ∧
    claims.sub = trim issue.sub ∧ claims.roomId = some issue.roomId

/-- The connection is registered with what was asked for. -/
def Registers (issue : Issue) (outcome : Outcome) : Prop :=
  outcome.sent = [.authOk ⟨0⟩] ∧
    ∃ connId client, outcome.connId = some connId ∧
      outcome.hub.connections[connId]? = some client ∧
      client.roomId = issue.roomId ∧
      (∀ bucketId, bucketId ∈ client.buckets ↔ issue.Asked bucketId) ∧
      serverOnlyBucketId ∉ client.buckets

/-- Every handshake with the token grants what was asked for. -/
def Honoured (jwt : JsonWebToken) (key token : String) (issue : Issue)
    (exp : UInt64) : Prop :=
  ∀ around first, Redeems jwt key token issue exp around first →
    Validates issue token around ∧
      ∀ hub : WsHub, (¬∃ bucketId, issue.Asked bucketId ∧
          hub.isFull hub.nextConnId bucketId = true) →
        Registers issue (handshake around first hub)

/-! ## What an issued token says -/

section Issued

variable {jwt : JsonWebToken} {order : BucketOrder} {app : AppState Value}
variable {issue : Issue} {token key : String}

/-- The claims that the kernel puts into a token. -/
abbrev issuedClaims (order : BucketOrder) (app : AppState Value)
    (issue : Issue) : JwtClaims :=
  tokenClaims order app issue.roomId issue.sub issue.buckets
    (issueTime app issue.issuedAt)

/-- A token was issued under a key. -/
def Issued (jwt : JsonWebToken) (order : BucketOrder) (app : AppState Value)
    (issue : Issue) (token : String) : Prop :=
  (createRoomToken jwt order issue.issuedAt app issue.roomId issue.sub
    issue.buckets).1 = .ok token

theorem signed_of_issued (issued : Issued jwt order app issue token) :
    ∃ key, app.jwtKey = some key ∧ 32 ≤ key.utf8ByteSize ∧
      serverOnlyBucketId ∉ issue.buckets ∧
      jwt.signed key token =
        some (.hs256, (issuedClaims order app issue).payload) := by
  obtain ⟨key, checked, encoded⟩ := createRoomToken_eq_ok_iff.mp issued
  obtain ⟨configured, isKey, _, notReserved⟩ :=
    checkTokenRequest_eq_ok checked
  obtain ⟨found, same, long⟩ := configured.key
  cases isKey.symm.trans same
  obtain ⟨signedToken, isEncoded, signed⟩ :=
    jwt.encode_ok (issuedClaims order app issue) key
  cases encoded.symm.trans isEncoded
  exact ⟨key, isKey, long, notReserved, signed⟩

/-- The buckets in a token are those that were asked for. -/
theorem mem_issuedBuckets {bucketId : BucketId} :
    bucketId ∈ (issuedClaims order app issue).buckets ↔
      issue.Asked bucketId := by
  simp only [tokenClaims, order.mem_list, mem_set_insert,
    Std.ExtTreeSet.mem_ofList, List.contains_iff_mem, Issue.Asked]
  rw [eq_comm]

end Issued

/-! ## Honouring it -/

section Honouring

variable {jwt : JsonWebToken} {issue : Issue} {token key : String}
variable {signedClaims : JwtClaims} {around : Surroundings}
variable {first : FirstFrame}

/-- What a signed token is validated to, before it expires. -/
theorem validateJwt_of_signed {config : AuthConfig} {decodedAt now : UInt64}
    (signed : jwt.signed config.jwtKey token =
      some (.hs256, signedClaims.payload))
    (decoding : decodedAt < signedClaims.exp)
    (current : now < signedClaims.exp) :
    config.validateJwt jwt decodedAt now token =
      .ok ⟨⟨some signedClaims.roomId, some signedClaims.buckets⟩,
        signedClaims.sub, signedClaims.exp⟩ := by
  rw [validateJwt_eq_ok_iff]
  rw [UInt64.lt_iff_toNat_lt] at decoding
  exact ⟨_, signed, ⟨_, rfl, by omega⟩, rfl, current⟩

/-- A handshake with a signed token presents nothing but its claims. -/
theorem presents_iff_of_redeems
    (signed : jwt.signed key token = some (.hs256, signedClaims.payload))
    (redeems : Redeems jwt key token issue signedClaims.exp around first)
    (claims : Tokens.Claims) :
    Presents around first claims ↔
      claims = ⟨⟨some signedClaims.roomId, some signedClaims.buckets⟩,
        signedClaims.sub, signedClaims.exp⟩ ∧ 0 < signedClaims.roomId := by
  obtain ⟨config, isConfig, sameKey⟩ := redeems.config
  obtain ⟨bytes, lastSeenCounter, isFirst, decoded⟩ := redeems.frame
  obtain ⟨decoding, current⟩ := redeems.valid
  subst sameKey
  have valid := validateJwt_of_signed signed decoding current
  rw [← redeems.library] at valid
  constructor
  · intro presents
    obtain ⟨otherBytes, envelope, message, other, isOther, otherDecoded,
      isAuth, otherConfig, otherValid⟩ := presents.frame
    cases isFirst.symm.trans isOther
    cases decoded.symm.trans otherDecoded
    cases isAuth
    cases isConfig.symm.trans otherConfig
    cases valid.symm.trans otherValid
    obtain ⟨roomId, same, positive⟩ := presents.room
    cases same
    exact ⟨rfl, positive⟩
  · rintro ⟨rfl, positive⟩
    exact ⟨⟨bytes, _, ⟨token, lastSeenCounter⟩, config, isFirst, decoded,
      rfl, isConfig, valid⟩, _, rfl, positive⟩

end Honouring

section Request

variable {jwt : JsonWebToken} {order : BucketOrder} {app : AppState Value}
variable {issue : Issue} {token key : String}

theorem validates_of_signed
    (signed : jwt.signed key token =
      some (.hs256, (issuedClaims order app issue).payload))
    {around : Surroundings} {first : FirstFrame}
    (redeems : Redeems jwt key token issue (issuedClaims order app issue).exp
      around first) :
    Validates issue token around := by
  obtain ⟨config, isConfig, rfl⟩ := redeems.config
  have valid := validateJwt_of_signed signed redeems.valid.1 redeems.valid.2
  rw [← redeems.library] at valid
  exact ⟨config, _, isConfig, valid, rfl, rfl⟩

/-- The handshake allows the buckets that were asked for. -/
theorem mem_allowedBuckets_issued
    (notReserved : serverOnlyBucketId ∉ issue.buckets) {bucketId : BucketId} :
    (bucketId = 0 ∨ bucketId ∈ (issuedClaims order app issue).buckets) ∧
        bucketId ≠ serverOnlyBucketId ↔
      issue.Asked bucketId := by
  rw [mem_issuedBuckets]
  constructor
  · rintro ⟨rfl | asked, _⟩
    · exact Or.inl rfl
    · exact asked
  · intro asked
    refine ⟨Or.inr asked, ?_⟩
    rintro rfl
    rcases asked with isZero | requested
    · exact absurd isZero (by decide)
    · exact notReserved requested

/-- A token of another room than room 0 is honoured. -/
theorem honoured_of_room
    (signed : jwt.signed key token =
      some (.hs256, (issuedClaims order app issue).payload))
    (notReserved : serverOnlyBucketId ∉ issue.buckets)
    (positive : 0 < issue.roomId) :
    Honoured jwt key token issue (issuedClaims order app issue).exp := by
  intro around first redeems
  refine ⟨validates_of_signed signed redeems, ?_⟩
  intro hub room
  have presents_iff := presents_iff_of_redeems signed redeems
  have hubHasRoom : ¬NoRoom around
      ⟨⟨some issue.roomId, some (issuedClaims order app issue).buckets⟩,
        trim issue.sub, (issuedClaims order app issue).exp⟩ hub := by
    rintro ⟨bucketId, allowed, full⟩
    rw [mem_allowedBuckets, redeems.reserved] at allowed
    exact room ⟨bucketId, (mem_allowedBuckets_issued notReserved).mp allowed,
      full⟩
  have accepted := accepted_of_room ((presents_iff _).mpr ⟨rfl, positive⟩)
    redeems.takes hubHasRoom
  obtain ⟨connId, client, claims, entered, registered, presents, sameRoom,
    allowed_iff⟩ := accepted.registered
  obtain ⟨rfl, _⟩ := (presents_iff claims).mp presents
  have asked_iff (bucketId : BucketId) :
      bucketId ∈ client.buckets ↔ issue.Asked bucketId := by
    rw [allowed_iff, redeems.reserved]
    exact mem_allowedBuckets_issued notReserved
  refine ⟨accepted.sent, connId, client, entered, registered,
    (Option.some.inj sameRoom).symm, asked_iff, ?_⟩
  rw [allowed_iff, redeems.reserved]
  exact fun allowed => allowed.2 rfl

/-- A server that reads every frame as one with the token. -/
def reader (jwt : JsonWebToken) (key token : String) (clock : UInt64) :
    Surroundings where
  jwt := jwt
  decode _ := .ok ⟨some (.auth ⟨token, 0⟩)⟩
  env := ⟨some key, some "issuer", some "audience"⟩
  decodedAt := clock
  now := clock
  reservedBucketId := serverOnlyBucketId
  capacity := 1

theorem redeems_reader (jwt : JsonWebToken) (token : String)
    (long : 32 ≤ key.utf8ByteSize) {exp : UInt64}
    (current : issue.issuedAt < exp) :
    Redeems jwt key token issue exp (reader jwt key token issue.issuedAt)
      (some (.ok (.binary .empty))) where
  library := rfl
  config := by
    have notEmpty : key.isEmpty = false := by
      rw [String.isEmpty, beq_eq_false_iff_ne]
      omega
    exact ⟨⟨key, "issuer", "audience"⟩, by
      simp [AuthConfig.fromEnv, reader, notEmpty], rfl⟩
  frame := ⟨_, _, rfl, rfl⟩
  reserved := rfl
  takes := by simp [reader]
  later := ⟨UInt64.le_refl _, UInt64.le_refl _⟩
  valid := ⟨current, current⟩

/-- A token of room 0 is refused while it is valid. -/
theorem not_honoured_of_roomZero
    (signed : jwt.signed key token =
      some (.hs256, (issuedClaims order app issue).payload))
    (long : 32 ≤ key.utf8ByteSize) (isZero : issue.roomId = 0)
    (current : issue.issuedAt < (issuedClaims order app issue).exp) :
    ¬Honoured jwt key token issue (issuedClaims order app issue).exp := by
  intro honoured
  have redeems := redeems_reader jwt token long current
  have nothing : ¬∃ claims, Presents (reader jwt key token issue.issuedAt)
      (some (.ok (.binary .empty))) claims := by
    rintro ⟨claims, presents⟩
    obtain ⟨_, positive⟩ :=
      (presents_iff_of_redeems signed redeems claims).mp presents
    have notZero : issue.roomId ≠ 0 := UInt64.pos_iff_ne_zero.mp positive
    exact notZero isZero
  have empty : ¬∃ bucketId, issue.Asked bucketId ∧
      WsHub.new.isFull WsHub.new.nextConnId bucketId = true := by
    rintro ⟨bucketId, _, full⟩
    simp [WsHub.isFull, WsHub.new] at full
  obtain ⟨_, connId, _, entered, _⟩ :=
    (honoured _ _ redeems).2 .new empty
  have refused := refused_of_not_presents nothing .new
  cases refused.closes.symm.trans entered

end Request

/--
An issued token grants at every later time below its expiry what was asked for,
if and only if it is for another room than room 0 or never valid.
-/
theorem issued_honoured_iff {jwt : JsonWebToken} {order : BucketOrder}
    {app : AppState Value} {issue : Issue} {token key : String}
    (issued : Issued jwt order app issue token)
    (isKey : app.jwtKey = some key) :
    Honoured jwt key token issue (issuedClaims order app issue).exp ↔
      issue.roomId ≠ 0 ∨
        (issuedClaims order app issue).exp ≤ issue.issuedAt := by
  obtain ⟨found, same, long, notReserved, signed⟩ := signed_of_issued issued
  cases isKey.symm.trans same
  constructor
  · intro honoured
    by_cases isZero : issue.roomId = 0
    · refine Or.inr (UInt64.not_lt.mp fun current => ?_)
      exact not_honoured_of_roomZero signed long isZero current honoured
    · exact Or.inl isZero
  · rintro (notZero | expired)
    · refine honoured_of_room signed notReserved ?_
      exact UInt64.pos_iff_ne_zero.mpr notZero
    · intro around first redeems
      exact absurd (UInt64.lt_of_le_of_lt redeems.later.1 redeems.valid.1)
        (UInt64.not_lt.mpr expired)

/-- The state of a kernel after some events, with tokens configured. -/
def configuredAfter (events : List Event) : AppState Json :=
  { (run (boot .none ∅) events).state with
    jwtKey := some memberKey
    jwtIssuer := some "issuer"
    jwtAudience := some "audience" }

/-- A member asks for a token, without naming buckets. -/
def memberIssue (roomId : RoomId) : Issue where
  roomId := roomId
  sub := " member "
  buckets := []
  issuedAt := 0

/-- A new room with a member. -/
def newRoomEvents : List Event :=
  [.command (.newRoom "room"), .command (.newMember 1 "member")]

theorem issued_honoured_iff_newRoom :
    let app := configuredAfter newRoomEvents
    let claims := issuedClaims .ascending app (memberIssue 1)
    Honoured standIn memberKey (StandIn.encode claims memberKey)
        (memberIssue 1) claims.exp ↔
      (memberIssue 1).roomId ≠ 0 ∨ claims.exp ≤ (memberIssue 1).issuedAt := by
  intro app claims
  have issued : Issued standIn .ascending app (memberIssue 1)
      (StandIn.encode claims memberKey) := by
    unfold Issued
    decide +kernel
  exact issued_honoured_iff issued rfl

/-- Room 0 gets a folder, is registered by a restart, and gets a member. -/
def roomZeroEvents : List Event :=
  [.command (.loadRoom 0), .restart, .command (.loadRoom 0),
    .command (.newMember 0 "member")]

/-- The kernel issues a token for room 0 that the handshake refuses. -/
theorem roomZero_refused :
    let app := configuredAfter roomZeroEvents
    let claims := issuedClaims .ascending app (memberIssue 0)
    let token := StandIn.encode claims memberKey
    Issued standIn .ascending app (memberIssue 0) token ∧
      claims.exp = 3600 ∧
      ¬Honoured standIn memberKey token (memberIssue 0) claims.exp := by
  intro app claims token
  have issued : Issued standIn .ascending app (memberIssue 0) token := by
    unfold Issued
    decide +kernel
  have expires : claims.exp = 3600 := by decide +kernel
  have signed : standIn.signed memberKey token =
      some (.hs256, claims.payload) := signed_standIn claims memberKey
  have long : 32 ≤ memberKey.utf8ByteSize := by decide
  have current : (memberIssue 0).issuedAt < claims.exp := by
    rw [expires]
    decide
  exact ⟨issued, expires, not_honoured_of_roomZero signed long rfl current⟩

end Syncpond.IssuedTokens
