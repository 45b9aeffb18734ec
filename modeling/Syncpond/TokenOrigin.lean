import Syncpond.Handshake

/-!
# Where an accepted token comes from

The server is configured with an issuer and an audience, puts them into the
tokens that it issues, and asks the library to check neither.  A token of
another service that has the same key is therefore accepted; the accepted
tokens are those of this server exactly as far as no other service signs with
the key.
-/

namespace Syncpond.TokenOrigin

open Syncpond.Protocol
open Syncpond.Hub
open Syncpond.Frames
open Syncpond.Tokens
open Syncpond.Handshake

/-- The issuer and the audience of the server are in a token. -/
structure ForServer (config : AuthConfig) (payload : TokenPayload) :
    Prop where
  issuer : payload.iss = some [config.jwtIssuer]
  audience : ∃ aud, payload.aud = some aud ∧ config.jwtAudience ∈ aud

/-- A token of this server that is not expired, with its claims. -/
def Genuine (jwt : JsonWebToken) (config : AuthConfig) (now : UInt64)
    (token : String) (claims : Tokens.Claims) : Prop :=
  ∃ payload, jwt.signed config.jwtKey token = some (.hs256, payload) ∧
    payload.claims = .ok claims ∧ now < claims.exp ∧
    ForServer config payload

/-- The handshake is one with a token, under a configuration. -/
structure HandsOver (jwt : JsonWebToken) (config : AuthConfig)
    (decodedAt now : UInt64) (token : String) (around : Surroundings)
    (first : FirstFrame) : Prop where
  library : around.jwt = jwt
  config : AuthConfig.fromEnv around.env = .ok config
  clock : around.decodedAt = decodedAt ∧ around.now = now
  frame : ∀ bytes envelope message, first = some (.ok (.binary bytes)) →
    around.decode bytes = .ok envelope →
    envelope.payload = some (.auth message) → message.jwt = token

/-- Only if it is genuine a token is accepted, or a client registered. -/
structure OnlyGenuine (jwt : JsonWebToken) (config : AuthConfig)
    (decodedAt now : UInt64) (token : String) : Prop where
  validated : ∀ claims,
    config.validateJwt jwt decodedAt now token = .ok claims →
    Genuine jwt config now token claims
  registered : ∀ around first hub,
    HandsOver jwt config decodedAt now token around first →
    (handshake around first hub).connId ≠ none →
    ∃ claims, Genuine jwt config now token claims

/-- The token is signed with the key, can be read, and is not expired. -/
structure Current (jwt : JsonWebToken) (config : AuthConfig)
    (decodedAt now : UInt64) (token : String) (payload : TokenPayload) :
    Prop where
  signed : jwt.signed config.jwtKey token = some (.hs256, payload)
  decoding : ∃ exp, payload.exp = some exp ∧
    decodedAt.toNat ≤ exp.toNat + 60
  claims : ∃ claims, payload.claims = .ok claims ∧ now < claims.exp

section Accepting

variable {jwt : JsonWebToken} {config : AuthConfig} {decodedAt now : UInt64}
variable {token : String}

/-- The tokens that are accepted are the current ones. -/
theorem exists_validated_iff :
    (∃ claims, config.validateJwt jwt decodedAt now token = .ok claims) ↔
      ∃ payload, Current jwt config decodedAt now token payload := by
  simp only [validateJwt_eq_ok_iff]
  constructor
  · rintro ⟨claims, payload, signed, decoding, isClaims, current⟩
    exact ⟨payload, signed, decoding, claims, isClaims, current⟩
  · rintro ⟨payload, signed, decoding, claims, isClaims, current⟩
    exact ⟨claims, payload, signed, decoding, isClaims, current⟩

/-- A registered client presented an accepted token. -/
theorem validated_of_registered {around : Surroundings} {first : FirstFrame}
    (handsOver : HandsOver jwt config decodedAt now token around first)
    {hub : WsHub} (registers : (handshake around first hub).connId ≠ none) :
    ∃ claims, config.validateJwt jwt decodedAt now token = .ok claims := by
  by_cases presented : ∃ claims, Presents around first claims
  · obtain ⟨claims, presents⟩ := presented
    obtain ⟨bytes, envelope, message, found, isFirst, decoded, isAuth,
      isConfig, valid⟩ := presents.frame
    obtain ⟨decodes, reads⟩ := handsOver.clock
    cases handsOver.config.symm.trans isConfig
    rw [handsOver.frame bytes envelope message isFirst decoded isAuth,
      handsOver.library, decodes, reads] at valid
    exact ⟨claims, valid⟩
  · exact absurd (refused_of_not_presents presented hub).closes registers

end Accepting

/--
Only this server's tokens authenticate, if and only if a token that is signed
with the key and not expired was issued by this server for its audience.
-/
theorem onlyGenuine_iff (jwt : JsonWebToken) (config : AuthConfig)
    (decodedAt now : UInt64) (token : String) :
    OnlyGenuine jwt config decodedAt now token ↔
      ∀ payload, Current jwt config decodedAt now token payload →
        ForServer config payload := by
  constructor
  · intro onlyGenuine payload current
    obtain ⟨claims, valid⟩ := exists_validated_iff.mpr ⟨payload, current⟩
    obtain ⟨same, signed, _, _, forServer⟩ :=
      onlyGenuine.validated claims valid
    cases current.signed.symm.trans signed
    exact forServer
  · intro forServer
    have genuine (claims : Tokens.Claims)
        (valid : config.validateJwt jwt decodedAt now token = .ok claims) :
        Genuine jwt config now token claims := by
      obtain ⟨payload, signed, decoding, isClaims, notExpired⟩ :=
        validateJwt_eq_ok_iff.mp valid
      exact ⟨payload, signed, isClaims, notExpired,
        forServer payload ⟨signed, decoding, claims, isClaims, notExpired⟩⟩
    refine ⟨genuine, ?_⟩
    intro around first hub handsOver registers
    obtain ⟨claims, valid⟩ := validated_of_registered handsOver registers
    exact ⟨claims, genuine claims valid⟩

/-- The claims of a member of room 1 at another service. -/
def foreignClaims : JwtClaims where
  sub := "member"
  roomId := 1
  buckets := [0]
  exp := 3600
  iss := some "other issuer"
  aud := some "other audience"

def foreignToken : String := StandIn.encode foreignClaims memberKey

/-- A token of a service with the same key is accepted. -/
theorem foreignToken_accepted :
    let config : AuthConfig := ⟨memberKey, "issuer", "audience"⟩
    AuthConfig.fromEnv ⟨some memberKey, some "issuer", some "audience"⟩ =
        .ok config ∧
      config.validateJwt standIn 0 0 foreignToken =
        .ok ⟨⟨some 1, some [0]⟩, "member", 3600⟩ ∧
      ¬OnlyGenuine standIn config 0 0 foreignToken := by
  intro config
  have signed : standIn.signed memberKey foreignToken =
      some (.hs256, foreignClaims.payload) :=
    signed_standIn foreignClaims memberKey
  have valid : config.validateJwt standIn 0 0 foreignToken =
      .ok ⟨⟨some 1, some [0]⟩, "member", 3600⟩ := by
    rw [validateJwt_eq_ok_iff]
    exact ⟨_, signed, ⟨3600, rfl, by decide⟩, rfl, by decide⟩
  refine ⟨by decide +kernel, valid, ?_⟩
  intro onlyGenuine
  obtain ⟨payload, same, _, _, forServer⟩ := onlyGenuine.validated _ valid
  cases signed.symm.trans same
  exact absurd forServer.issuer (by decide)

end Syncpond.TokenOrigin
