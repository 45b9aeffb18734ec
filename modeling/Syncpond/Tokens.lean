import Syncpond.Tasks

/-!
# Tokens

The kernel issues tokens and the websocket side validates them, each through
the token library and each with a struct of claims of its own.
`JsonWebToken` is what both rely on of the library: a token that is encoded
under a key is signed with it, and decoding accepts a signed token exactly
when it passes the checks that a `Validation` asks for.

`standIn` is a library in which a token carries its key in the place of a
signature, so that whole exchanges can be computed.
-/

namespace Syncpond.Tokens

open Syncpond.Protocol
open Syncpond.Serde
open Syncpond.State
open Syncpond.Library.Maps
open Syncpond.Library.Text
open Syncpond.Library.JsonText (array quoted quoted_nonempty
  quoted_notClosing parseAll Boundary)

/-! ## The token library -/

/-- The algorithms that sign tokens. -/
inductive Algorithm where
  | hs256
  | hs384
  | hs512
  | es256
  | es384
  | rs256
  | rs384
  | rs512
  | ps256
  | ps384
  | ps512
  | edDsa
deriving DecidableEq

/-- The claims that are encoded. -/
structure JwtClaims where
  sub : String
  roomId : RoomId
  buckets : List BucketId
  exp : UInt64
  iss : Option String
  aud : Option String

/-- The claims that are decoded. -/
structure Claims extends Tasks.Claims where
  sub : String
  exp : UInt64

/-- What a signed token says. -/
structure TokenPayload where
  /-- The claims that the server reads, or why it cannot. -/
  claims : Except String Claims
  exp : Option UInt64
  iss : Option (List String)
  aud : Option (List String)

/-- The claims that are encoded, as they are read. -/
def JwtClaims.payload (claims : JwtClaims) : TokenPayload where
  claims := .ok {
    roomId := some claims.roomId
    buckets := some claims.buckets
    sub := claims.sub
    exp := claims.exp }
  exp := some claims.exp
  iss := claims.iss.map fun iss => [iss]
  aud := claims.aud.map fun aud => [aud]

/-- The checks that a decoding is asked for. -/
structure Validation where
  algorithms : List Algorithm
  requiredSpecClaims : List String
  validateExp : Bool
  /-- Seconds by which a token may be expired. -/
  leeway : Nat
  iss : Option (List String)
  aud : Option (List String)

namespace Validation

/-- The defaults of the library. -/
def new (algorithm : Algorithm) : Validation where
  algorithms := [algorithm]
  requiredSpecClaims := ["exp"]
  validateExp := true
  leeway := 60
  iss := none
  aud := none

/-- A registered claim is there. -/
def present (payload : TokenPayload) (name : String) : Bool :=
  match name with
  | "exp" => payload.exp.isSome
  | "iss" => payload.iss.isSome
  | "aud" => payload.aud.isSome
  | _ => true

/-- A claim that is there and is asked for has an accepted value. -/
def accepts (accepted claimed : Option (List String)) : Bool :=
  match accepted, claimed with
  | some accepted, some claimed => claimed.any accepted.contains
  | _, _ => true

/-- The checks on the claims, at a time. -/
def admits (validation : Validation) (now : UInt64) (payload : TokenPayload) :
    Bool :=
  validation.requiredSpecClaims.all (present payload) &&
    (!validation.validateExp ||
      payload.exp.any fun exp =>
        decide (now.toNat ≤ exp.toNat + validation.leeway)) &&
    accepts validation.iss payload.iss &&
    accepts validation.aud payload.aud

end Validation

/-- What the server relies on of the token library. -/
structure JsonWebToken where
  encode : JwtClaims → (key : String) → Except String String
  decode : (token key : String) → Validation → (now : UInt64) →
    Except String Claims
  /-- What a token says, and the algorithm, if the key signed it. -/
  signed : (key token : String) → Option (Algorithm × TokenPayload)
  encode_ok : ∀ claims key, ∃ token, encode claims key = .ok token ∧
    signed key token = some (.hs256, claims.payload)
  decode_eq_ok_iff : ∀ token key validation now claims,
    decode token key validation now = .ok claims ↔
      ∃ algorithm payload, signed key token = some (algorithm, payload) ∧
        algorithm ∈ validation.algorithms ∧
        validation.admits now payload = true ∧ payload.claims = .ok claims

/-! ### A stand-in -/

namespace StandIn

/-- An optional text, marked when it is there. -/
def optional : Option String → String
  | none => ""
  | some text => "=" ++ text

/-- Read an optional text. -/
def readOptional (text : String) : Option String :=
  match text.toList with
  | '=' :: rest => some (String.ofList rest)
  | _ => none

@[simp]
theorem readOptional_optional (text : Option String) :
    readOptional (optional text) = text := by
  cases text with
  | none => rfl
  | some text => simp [readOptional, optional]

/-- Read a number. -/
def readNumber (text : String) : Option UInt64 :=
  parseU64 text.toList

@[simp]
theorem readNumber_decimal (number : UInt64) :
    readNumber (decimal number) = some number := by
  simp [readNumber, decimal]

/-- The key and the claims as a list of texts. -/
def fields (claims : JwtClaims) (key : String) : List String :=
  key :: claims.sub :: decimal claims.roomId :: decimal claims.exp ::
    optional claims.iss :: optional claims.aud :: claims.buckets.map decimal

/-- Read the key and the claims from a list of texts. -/
def readFields : List String → Option (String × JwtClaims)
  | key :: sub :: roomId :: exp :: iss :: aud :: buckets => do
      let roomId ← readNumber roomId
      let exp ← readNumber exp
      let buckets ← buckets.mapM readNumber
      return (key, ⟨sub, roomId, buckets, exp, readOptional iss,
        readOptional aud⟩)
  | _ => none

theorem readFields_fields (claims : JwtClaims) (key : String) :
    readFields (fields claims key) = some (key, claims) := by
  have buckets : (claims.buckets.map decimal).mapM readNumber =
      some claims.buckets := by
    induction claims.buckets with
    | nil => rfl
    | cons head tail ih => simp [ih]
  simp [readFields, fields, buckets]

/-- The text of a list of texts. -/
def texts := array quoted quoted_nonempty quoted_notClosing

/-- The text of the claims, with the key in it. -/
def encode (claims : JwtClaims) (key : String) : String :=
  String.ofList (texts.render (fields claims key))

/-- What a token with this key carries. -/
def signed (key token : String) : Option (Algorithm × TokenPayload) :=
  match parseAll texts token with
  | .ok read =>
      match readFields read with
      | some (signer, claims) =>
          if signer = key then some (.hs256, claims.payload) else none
      | none => none
  | .error _ => none

theorem signed_encode (claims : JwtClaims) (key : String) :
    signed key (encode claims key) = some (.hs256, claims.payload) := by
  have read := texts.parse_render (fields claims key) [] (by simp [Boundary])
  rw [List.append_nil] at read
  simp [signed, encode, parseAll, read, readFields_fields]

/-- Check a token and read its claims. -/
def decode (token key : String) (validation : Validation) (now : UInt64) :
    Except String Claims :=
  match signed key token with
  | some (algorithm, payload) =>
      if validation.algorithms.contains algorithm &&
          validation.admits now payload then
        payload.claims
      else .error "ExpiredSignature"
  | none => .error "InvalidSignature"

theorem decode_eq_ok_iff (token key : String) (validation : Validation)
    (now : UInt64) (claims : Claims) :
    decode token key validation now = .ok claims ↔
      ∃ algorithm payload, signed key token = some (algorithm, payload) ∧
        algorithm ∈ validation.algorithms ∧
        validation.admits now payload = true ∧
        payload.claims = .ok claims := by
  unfold decode
  cases found : signed key token with
  | none => simp
  | some pair =>
      obtain ⟨algorithm, payload⟩ := pair
      simp only [Option.some.injEq, Prod.mk.injEq, ite_eq_iff]
      simp
      tauto

end StandIn

/-- A library in which the key is part of the token. -/
def standIn : JsonWebToken where
  encode claims key := .ok (StandIn.encode claims key)
  decode := StandIn.decode
  signed := StandIn.signed
  encode_ok claims key :=
    ⟨_, rfl, StandIn.signed_encode claims key⟩
  decode_eq_ok_iff := StandIn.decode_eq_ok_iff

/-- What is signed in a token of the stand-in. -/
theorem signed_standIn (claims : JwtClaims) (key : String) :
    standIn.signed key (StandIn.encode claims key) =
      some (.hs256, claims.payload) :=
  StandIn.signed_encode claims key

/-! ## Issuing a token -/

/-- The iteration order of bucket sets, which the source leaves open. -/
structure BucketOrder where
  list : FinSet BucketId → List BucketId
  mem_list : ∀ set bucketId, bucketId ∈ list set ↔ bucketId ∈ set

/-- Buckets in ascending order. -/
def BucketOrder.ascending : BucketOrder where
  list := Std.ExtTreeSet.toList
  mem_list _ _ := Std.ExtTreeSet.mem_toList

/-- `u64::saturating_add`. -/
def saturatingAdd (first second : UInt64) : UInt64 :=
  if first.toNat + second.toNat < UInt64.size then first + second
  else 0xFFFFFFFFFFFFFFFF

theorem toNat_saturatingAdd (first second : UInt64) :
    (saturatingAdd first second).toNat =
      min (first.toNat + second.toNat) (UInt64.size - 1) := by
  unfold saturatingAdd
  split
  · next fits =>
    rw [UInt64.toNat_add, Nat.mod_eq_of_lt fits]
    omega
  · next full =>
    have top : (0xFFFFFFFFFFFFFFFF : UInt64).toNat = UInt64.size - 1 := rfl
    omega

variable {Value : Type}

/-- The checks before a token is issued, which return the key. -/
def checkTokenRequest (app : AppState Value) (roomId : RoomId) (sub : String)
    (buckets : List BucketId) : Except StateError String :=
  match app.jwtKey with
  | none => .error .jwtKeyNotConfigured
  | some key =>
      if key.utf8ByteSize < 32 then .error .jwtKeyTooShort
      else
        match app.jwtIssuer, app.jwtAudience with
        | none, _ => .error .jwtIssuerAudienceNotConfigured
        | _, none => .error .jwtIssuerAudienceNotConfigured
        | some _, some _ =>
            match app.rooms[roomId]? with
            | none => .error .roomNotFound
            | some room =>
                let subTrimmed := trim sub
                if subTrimmed.isEmpty || !room.members.contains subTrimmed then
                  .error .invalidMember
                else if buckets.contains serverOnlyBucketId then
                  .error .reservedBucketId
                else .ok key

/-- The time that a token is issued at: each is later than the one before. -/
def issueTime (app : AppState Value) (now : UInt64) : UInt64 :=
  match app.lastJwtIssueSeconds with
  | some last => max now (saturatingAdd last 1)
  | none => now

/-- The claims of a token. -/
def tokenClaims (order : BucketOrder) (app : AppState Value)
    (roomId : RoomId) (sub : String) (buckets : List BucketId)
    (now : UInt64) : JwtClaims where
  sub := trim sub
  roomId := roomId
  buckets :=
    order.list ((Std.ExtTreeSet.ofList buckets compare).insert 0)
  exp := saturatingAdd now app.jwtTtlSeconds
  iss := app.jwtIssuer
  aud := app.jwtAudience

/-- Generate a token for a room with granted buckets. -/
def createRoomToken (jwt : JsonWebToken) (order : BucketOrder)
    (now : UInt64) (app : AppState Value) (roomId : RoomId) (sub : String)
    (buckets : List BucketId) :
    Except StateError String × AppState Value :=
  match checkTokenRequest app roomId sub buckets with
  | .error error => (.error error, app)
  | .ok key =>
      let now := issueTime app now
      let issued := { app with lastJwtIssueSeconds := some now }
      match jwt.encode (tokenClaims order app roomId sub buckets now) key with
      | .ok token => (.ok token, issued)
      | .error _ => (.error .jwtKeyNotConfigured, issued)

/-! ### What is checked -/

/-- The settings that issuing needs are there. -/
structure Configured (app : AppState Value) : Prop where
  key : ∃ key, app.jwtKey = some key ∧ 32 ≤ key.utf8ByteSize
  issuer : ∃ issuer, app.jwtIssuer = some issuer
  audience : ∃ audience, app.jwtAudience = some audience

/-- The text names a member of a registered room. -/
def IsMember (app : AppState Value) (roomId : RoomId) (sub : String) : Prop :=
  ∃ room, app.rooms[roomId]? = some room ∧
    (trim sub).isEmpty = false ∧ trim sub ∈ room.members

section Checks

variable {app : AppState Value} {roomId : RoomId} {sub : String}
variable {buckets : List BucketId} {key : String}

theorem checkTokenRequest_eq_ok
    (checked : checkTokenRequest app roomId sub buckets = .ok key) :
    Configured app ∧ app.jwtKey = some key ∧ IsMember app roomId sub ∧
      serverOnlyBucketId ∉ buckets := by
  unfold checkTokenRequest at checked
  split at checked
  · cases checked
  next found isKey =>
  split at checked
  · cases checked
  next long =>
  split at checked
  · cases checked
  · cases checked
  next issuer audience isIssuer isAudience =>
  split at checked
  · cases checked
  next room present =>
  simp only [Bool.or_eq_true, Bool.not_eq_true'] at checked
  split at checked
  · cases checked
  next isMember =>
  split at checked
  · cases checked
  next notReserved =>
  cases checked
  refine ⟨⟨⟨key, isKey, Nat.le_of_not_lt long⟩, ⟨issuer, isIssuer⟩,
    ⟨audience, isAudience⟩⟩, isKey, ⟨room, present, ?_, ?_⟩, ?_⟩
  · simpa using fun blank => isMember (Or.inl blank)
  · simpa using fun missing => isMember (Or.inr missing)
  · simpa using notReserved

theorem checkTokenRequest_of_member (configured : Configured app)
    (isKey : app.jwtKey = some key) (isMember : IsMember app roomId sub)
    (notReserved : serverOnlyBucketId ∉ buckets) :
    checkTokenRequest app roomId sub buckets = .ok key := by
  obtain ⟨found, same, long⟩ := configured.key
  obtain ⟨issuer, isIssuer⟩ := configured.issuer
  obtain ⟨audience, isAudience⟩ := configured.audience
  cases isKey.symm.trans same
  obtain ⟨room, present, notBlank, member⟩ := isMember
  have short : ¬key.utf8ByteSize < 32 := Nat.not_lt_of_le long
  simp [checkTokenRequest, isKey, short, isIssuer, isAudience, present,
    notBlank, member, notReserved]

theorem checkTokenRequest_eq_ok_iff :
    checkTokenRequest app roomId sub buckets = .ok key ↔
      Configured app ∧ app.jwtKey = some key ∧ IsMember app roomId sub ∧
        serverOnlyBucketId ∉ buckets := by
  constructor
  · exact checkTokenRequest_eq_ok
  · rintro ⟨configured, isKey, isMember, notReserved⟩
    exact checkTokenRequest_of_member configured isKey isMember notReserved

/-- A token is issued when the checks pass, with the claims of the request. -/
theorem createRoomToken_eq_ok_iff {jwt : JsonWebToken} {order : BucketOrder}
    {now : UInt64} {token : String} :
    (createRoomToken jwt order now app roomId sub buckets).1 = .ok token ↔
      ∃ key, checkTokenRequest app roomId sub buckets = .ok key ∧
        jwt.encode (tokenClaims order app roomId sub buckets
          (issueTime app now)) key = .ok token := by
  unfold createRoomToken
  cases checkTokenRequest app roomId sub buckets with
  | error error => simp
  | ok key =>
      cases encoded : jwt.encode (tokenClaims order app roomId sub buckets
          (issueTime app now)) key with
      | ok token => simp [encoded]
      | error text => simp [encoded]

/-- A call either fails its checks, or issues a token and moves the time. -/
theorem createRoomToken_cases (jwt : JsonWebToken) (order : BucketOrder)
    (now : UInt64) (app : AppState Value) (roomId : RoomId) (sub : String)
    (buckets : List BucketId) :
    (∃ error, createRoomToken jwt order now app roomId sub buckets =
      (.error error, app)) ∨
    ∃ token, createRoomToken jwt order now app roomId sub buckets =
      (.ok token,
        { app with lastJwtIssueSeconds := some (issueTime app now) }) := by
  unfold createRoomToken
  cases checkTokenRequest app roomId sub buckets with
  | error error => exact Or.inl ⟨error, rfl⟩
  | ok key =>
      obtain ⟨token, encoded, _⟩ := jwt.encode_ok
        (tokenClaims order app roomId sub buckets (issueTime app now)) key
      exact Or.inr ⟨token, by simp only [encoded]⟩

end Checks

/-! ## Validating a token -/

/-- The environment of the process, as far as tokens are concerned. -/
structure Env where
  jwtKey : Option String
  jwtIssuer : Option String
  jwtAudience : Option String

/-- The settings for tokens of the websocket side. -/
structure AuthConfig where
  jwtKey : String
  jwtIssuer : String
  jwtAudience : String
deriving DecidableEq

namespace AuthConfig

/-- Read the settings from the environment. -/
def fromEnv (env : Env) : Except String AuthConfig :=
  let jwtKey := env.jwtKey.getD ""
  let jwtIssuer := env.jwtIssuer.getD ""
  let jwtAudience := env.jwtAudience.getD ""
  if jwtKey.isEmpty then
    .error "JWT_KEY environment variable is required for authentication"
  else if jwtIssuer.isEmpty then
    .error "JWT_ISSUER environment variable is required for authentication"
  else if jwtAudience.isEmpty then
    .error "JWT_AUDIENCE environment variable is required for authentication"
  else .ok ⟨jwtKey, jwtIssuer, jwtAudience⟩

/-- The checks that the server asks the library for. -/
def validation : Validation :=
  { Validation.new .hs256 with
    algorithms := [.hs256]
    requiredSpecClaims := ["exp"]
    validateExp := true }

/--
Validate a token.  The library reads the clock while it decodes, and the
server reads it again afterwards.
-/
def validateJwt (jwt : JsonWebToken) (config : AuthConfig)
    (decodedAt now : UInt64) (token : String) : Except String Claims :=
  match jwt.decode token config.jwtKey validation decodedAt with
  | .error text => .error ("invalid_jwt:" ++ text)
  | .ok claims =>
      if claims.exp ≤ now then .error "expired_jwt" else .ok claims

end AuthConfig

/-- Only the expiry is asked for. -/
theorem admits_validation {now : UInt64} {payload : TokenPayload} :
    AuthConfig.validation.admits now payload = true ↔
      ∃ exp, payload.exp = some exp ∧ now.toNat ≤ exp.toNat + 60 := by
  have required : AuthConfig.validation.requiredSpecClaims = ["exp"] := rfl
  have checked : AuthConfig.validation.validateExp = true := rfl
  have anyIssuer : AuthConfig.validation.iss = none := rfl
  have anyAudience : AuthConfig.validation.aud = none := rfl
  have leeway : AuthConfig.validation.leeway = 60 := rfl
  cases found : payload.exp with
  | none => simp [Validation.admits, required, Validation.present, found]
  | some exp =>
      simp [Validation.admits, required, checked, anyIssuer, anyAudience,
        Validation.present, Validation.accepts, found, leeway]

/-- A token is accepted if the key signed it and it is not expired. -/
theorem validateJwt_eq_ok_iff {jwt : JsonWebToken} {config : AuthConfig}
    {decodedAt now : UInt64} {token : String} {claims : Claims} :
    config.validateJwt jwt decodedAt now token = .ok claims ↔
      ∃ payload, jwt.signed config.jwtKey token = some (.hs256, payload) ∧
        (∃ exp, payload.exp = some exp ∧
          decodedAt.toNat ≤ exp.toNat + 60) ∧
        payload.claims = .ok claims ∧ now < claims.exp := by
  have decoded := jwt.decode_eq_ok_iff token config.jwtKey
    AuthConfig.validation decodedAt
  constructor
  · intro validated
    unfold AuthConfig.validateJwt at validated
    split at validated
    · cases validated
    next read isRead =>
    split at validated
    · cases validated
    next notExpired =>
    cases validated
    obtain ⟨algorithm, payload, signed, allowed, admitted, isClaims⟩ :=
      (decoded claims).mp isRead
    cases List.mem_singleton.mp allowed
    exact ⟨payload, signed, admits_validation.mp admitted, isClaims,
      UInt64.not_le.mp notExpired⟩
  · rintro ⟨payload, signed, admitted, isClaims, notExpired⟩
    have isRead := (decoded claims).mpr ⟨.hs256, payload, signed,
      List.mem_singleton_self _, admits_validation.mpr admitted, isClaims⟩
    have current : ¬claims.exp ≤ now := UInt64.not_le.mpr notExpired
    simp [AuthConfig.validateJwt, isRead, current]

end Syncpond.Tokens
