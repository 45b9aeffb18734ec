import Syncpond.IssuedTokens
import Syncpond.Library.Runs

/-!
# The times in issued tokens

A token is issued at the clock reading, or one second after the token before
it if that is later, and expires when the lifetime in force has passed since
its issue time.  Issue times therefore never repeat below `u64::MAX`, and can
run ahead of the clock: by one second for every token that was issued within
one.

Expiry times follow the issue times as long as the lifetime is not lowered.
-/

namespace Syncpond.TokenTimes

open Syncpond.Protocol
open Syncpond.Serde
open Syncpond.State
open Syncpond.Tokens
open Syncpond.Handshake (memberKey)
open Syncpond.IssuedTokens
open Syncpond.Library.Runs

deriving instance DecidableEq for JwtClaims

variable {Value : Type}

/-! ## Calls -/

/-- Set the lifetime of the tokens to come. -/
def setJwtTtl (app : AppState Value) (seconds : UInt64) : AppState Value :=
  { app with jwtTtlSeconds := seconds }

/-- The calls that issue tokens and set their lifetime. -/
inductive TokenCall where
  | createRoomToken (now : UInt64) (roomId : RoomId) (sub : String)
      (buckets : List BucketId)
  | setJwtTtl (seconds : UInt64)

/-- An issued token, and what decided its times. -/
structure IssuedToken where
  /-- What the call returned. -/
  text : String
  claims : JwtClaims
  /-- The clock reading of the call. -/
  reading : UInt64
  /-- The last issue time before it. -/
  previous : Option UInt64
  issuedAt : UInt64
  /-- The lifetime in force. -/
  ttl : UInt64

/-- An application state with the tokens that it issued, oldest first. -/
structure Issuance (Value : Type) where
  app : AppState Value
  issued : List IssuedToken
  /-- The last clock reading. -/
  reading : UInt64

namespace Issuance

/-- A state that has issued nothing. -/
def start (app : AppState Value) : Issuance Value := ⟨app, [], 0⟩

variable (jwt : JsonWebToken) (order : BucketOrder)

/-- The state after a call. -/
def step (state : Issuance Value) : TokenCall → Issuance Value
  | .createRoomToken now roomId sub buckets =>
      let (result, after) :=
        createRoomToken jwt order now state.app roomId sub buckets
      let issuedAt := issueTime state.app now
      { app := after
        reading := now
        issued :=
          match result with
          | .ok text =>
              state.issued ++
                [⟨text, tokenClaims order state.app roomId sub buckets issuedAt,
                  now, state.app.lastJwtIssueSeconds, issuedAt,
                  state.app.jwtTtlSeconds⟩]
          | .error _ => state.issued }
  | .setJwtTtl seconds => { state with app := setJwtTtl state.app seconds }

/-- The state after a list of calls. -/
def run (app : AppState Value) (calls : List TokenCall) : Issuance Value :=
  calls.foldl (step jwt order) (.start app)

end Issuance

/-- The clock does not go back. -/
def Forward (state : Issuance Value) : TokenCall → Prop
  | .createRoomToken now _ _ _ => state.reading ≤ now
  | .setJwtTtl _ => True

instance (state : Issuance Value) :
    ∀ call : TokenCall, Decidable (Forward state call)
  | .createRoomToken now _ _ _ =>
      inferInstanceAs (Decidable (state.reading ≤ now))
  | .setJwtTtl _ => inferInstanceAs (Decidable True)

/-! ## The times of one token -/

theorem toNat_max (first second : UInt64) :
    (max first second).toNat = max first.toNat second.toNat := by
  change (if first ≤ second then second else first).toNat = _
  split
  · next less => exact (max_eq_right (UInt64.le_iff_toNat_le.mp less)).symm
  · next more =>
    have less := UInt64.lt_iff_toNat_lt.mp (UInt64.not_le.mp more)
    exact (max_eq_left less.le).symm

/-- The first second that no token was issued at, `0` if there is no token. -/
def free (previous : Option UInt64) : Nat :=
  match previous with
  | some last => last.toNat + 1
  | none => 0

theorem toNat_issueTime (app : AppState Value) (now : UInt64) :
    (issueTime app now).toNat =
      max now.toNat (min (free app.lastJwtIssueSeconds) (UInt64.size - 1)) := by
  unfold issueTime free
  cases app.lastJwtIssueSeconds with
  | none => simp
  | some last => exact (toNat_max _ _).trans (by rw [toNat_saturatingAdd]; rfl)

/-- What the times of an issued token are. -/
structure Timed (token : IssuedToken) : Prop where
  exp : token.claims.exp = saturatingAdd token.issuedAt token.ttl
  issuedAt : token.issuedAt.toNat =
    max token.reading.toNat (min (free token.previous) (UInt64.size - 1))

namespace Timed

variable {token : IssuedToken} (timed : Timed token)

include timed

theorem toNat_exp : token.claims.exp.toNat =
    min (token.issuedAt.toNat + token.ttl.toNat) (UInt64.size - 1) := by
  rw [timed.exp, toNat_saturatingAdd]

/--
A token keeps within its lifetime exactly if it is issued in a second of its
own, or if its lifetime is without end.
-/
theorem exp_le_iff :
    token.claims.exp ≤ saturatingAdd token.reading token.ttl ↔
      free token.previous ≤ token.reading.toNat ∨
        UInt64.size ≤ token.reading.toNat + token.ttl.toNat + 1 := by
  have exp := timed.toNat_exp
  have issuedAt := timed.issuedAt
  rw [UInt64.le_iff_toNat_le, toNat_saturatingAdd, exp, issuedAt]
  have bounded := token.reading.toNat_lt
  have size : UInt64.size = 2 ^ 64 := rfl
  omega

end Timed

/-! ## Runs -/

/-- A later token is issued later, until the last second. -/
def IssuedAfter (earlier later : IssuedToken) : Prop :=
  min (earlier.issuedAt.toNat + 1) (UInt64.size - 1) ≤ later.issuedAt.toNat

/-- What holds of the tokens of every run. -/
structure Sound (state : Issuance Value) : Prop where
  timed : ∀ token ∈ state.issued, Timed token
  past : ∀ token ∈ state.issued,
    token.issuedAt.toNat < free state.app.lastJwtIssueSeconds
  ordered : state.issued.Pairwise IssuedAfter

/-- The text of a token carries its claims, encoded with the key. -/
def Carries (jwt : JsonWebToken) (jwtKey : Option String)
    (token : IssuedToken) : Prop :=
  ∃ key, jwtKey = some key ∧ jwt.encode token.claims key = .ok token.text

/-- The tokens of a run are encoded with the one key of the server. -/
structure Encoded (jwt : JsonWebToken) (jwtKey : Option String)
    (state : Issuance Value) : Prop where
  key : state.app.jwtKey = jwtKey
  carries : ∀ token ∈ state.issued, Carries jwt jwtKey token

/-- How far the issue times can have run ahead of a clock that goes forward. -/
structure Leads (first : Nat) (state : Issuance Value) : Prop where
  next : free state.app.lastJwtIssueSeconds ≤
    max state.reading.toNat first + state.issued.length
  issued : ∀ position token, state.issued[position]? = some token →
    token.issuedAt.toNat ≤ max token.reading.toNat first + position

section Steps

variable {jwt : JsonWebToken} {order : BucketOrder}

/-- A call for a token leaves the tokens alone, or adds one to them. -/
theorem step_createRoomToken_cases (state : Issuance Value) (now : UInt64)
    (roomId : RoomId) (sub : String) (buckets : List BucketId) :
    state.step jwt order (.createRoomToken now roomId sub buckets) =
        { state with reading := now } ∨
      ∃ token, Timed token ∧ Carries jwt state.app.jwtKey token ∧
        token.reading = now ∧
        token.previous = state.app.lastJwtIssueSeconds ∧
        state.step jwt order (.createRoomToken now roomId sub buckets) =
          { app := { state.app with
              lastJwtIssueSeconds := some token.issuedAt }
            reading := now
            issued := state.issued ++ [token] } := by
  rcases createRoomToken_cases jwt order now state.app roomId sub buckets with
    ⟨error, failed⟩ | ⟨text, succeeded⟩
  · exact Or.inl (by simp only [Issuance.step, failed])
  · obtain ⟨key, checked, encoded⟩ :=
      createRoomToken_eq_ok_iff.mp (congrArg Prod.fst succeeded)
    obtain ⟨_, isKey, _⟩ := checkTokenRequest_eq_ok checked
    refine Or.inr ⟨⟨text, tokenClaims order state.app roomId sub buckets
      (issueTime state.app now), now, state.app.lastJwtIssueSeconds,
      issueTime state.app now, state.app.jwtTtlSeconds⟩,
      ⟨rfl, toNat_issueTime state.app now⟩, ⟨key, isKey, encoded⟩, rfl, rfl,
      ?_⟩
    simp only [Issuance.step, succeeded]

theorem Encoded.step {jwtKey : Option String} {state : Issuance Value}
    (encoded : Encoded jwt jwtKey state) (call : TokenCall) :
    Encoded jwt jwtKey (state.step jwt order call) := by
  cases call with
  | setJwtTtl seconds => exact ⟨encoded.key, encoded.carries⟩
  | createRoomToken now roomId sub buckets =>
      rcases step_createRoomToken_cases state now roomId sub buckets with
        same | ⟨token, _, carries, _, _, added⟩
      · rw [same]
        exact ⟨encoded.key, encoded.carries⟩
      · rw [added]
        refine ⟨encoded.key, ?_⟩
        intro other member
        rcases List.mem_append.mp member with older | new
        · exact encoded.carries other older
        · rw [List.mem_singleton.mp new, ← encoded.key]
          exact carries

theorem Sound.step {state : Issuance Value} (sound : Sound state)
    (call : TokenCall) : Sound (state.step jwt order call) := by
  cases call with
  | setJwtTtl seconds => exact ⟨sound.timed, sound.past, sound.ordered⟩
  | createRoomToken now roomId sub buckets =>
      rcases step_createRoomToken_cases state now roomId sub buckets with
        same | ⟨token, timed, _, isReading, isPrevious, added⟩
      · rw [same]
        exact ⟨sound.timed, sound.past, sound.ordered⟩
      · rw [added]
        have issuedAt := timed.issuedAt
        rw [isPrevious] at issuedAt
        have top := token.issuedAt.toNat_lt
        have after : ∀ earlier ∈ state.issued, IssuedAfter earlier token := by
          intro earlier member
          have past := sound.past earlier member
          unfold IssuedAfter
          omega
        constructor
        · intro other member
          rcases List.mem_append.mp member with older | new
          · exact sound.timed other older
          · exact List.mem_singleton.mp new ▸ timed
        · intro other member
          dsimp only [free]
          rcases List.mem_append.mp member with older | new
          · have isAfter := after other older
            unfold IssuedAfter at isAfter
            have bounded := other.issuedAt.toNat_lt
            have size : UInt64.size = 2 ^ 64 := rfl
            omega
          · rw [List.mem_singleton.mp new]
            exact Nat.lt_succ_self _
        · refine List.pairwise_append.mpr
            ⟨sound.ordered, List.pairwise_singleton _ token, ?_⟩
          intro earlier member later isLast
          exact List.mem_singleton.mp isLast ▸ after earlier member

theorem Leads.step {first : Nat} {state : Issuance Value}
    (leads : Leads first state) {call : TokenCall}
    (forward : Forward state call) :
    Leads first (state.step jwt order call) := by
  cases call with
  | setJwtTtl seconds => exact ⟨leads.next, leads.issued⟩
  | createRoomToken now roomId sub buckets =>
      have later : state.reading.toNat ≤ now.toNat :=
        UInt64.le_iff_toNat_le.mp forward
      have next := leads.next
      rcases step_createRoomToken_cases state now roomId sub buckets with
        same | ⟨token, timed, _, isReading, isPrevious, added⟩
      · rw [same]
        exact ⟨by dsimp only; omega, leads.issued⟩
      · rw [added]
        have issuedAt := timed.issuedAt
        rw [isPrevious, isReading] at issuedAt
        have ahead : token.issuedAt.toNat ≤
            max now.toNat first + state.issued.length := by
          omega
        constructor
        · dsimp only [free]
          rw [List.length_append, List.length_singleton]
          omega
        · intro position other found
          rcases Nat.lt_or_ge position state.issued.length with
            inside | outside
          · rw [List.getElem?_append_left inside] at found
            exact leads.issued position other found
          · rw [List.getElem?_append_right outside] at found
            obtain ⟨bound, isOther⟩ := List.getElem?_eq_some_iff.mp found
            rw [List.length_singleton] at bound
            have isLast : position = state.issued.length := by omega
            simp only [List.getElem_singleton] at isOther
            rw [← isOther, isReading, isLast]
            exact ahead

end Steps

variable (jwt : JsonWebToken) (order : BucketOrder) (app : AppState Value)

theorem sound_run (calls : List TokenCall) :
    Sound (Issuance.run jwt order app calls) :=
  foldl_invariant Sound (fun _ call sound => sound.step call) calls
    ⟨by simp [Issuance.start], by simp [Issuance.start], .nil⟩

theorem encoded_run (calls : List TokenCall) :
    Encoded jwt app.jwtKey (Issuance.run jwt order app calls) :=
  foldl_invariant (Encoded jwt app.jwtKey)
    (fun _ call encoded => encoded.step call) calls
    ⟨rfl, by simp [Issuance.start]⟩

/-! ## Lifetimes -/

/--
What holds of a token's expiry: it is the issue time and the lifetime in force;
it is within the lifetime by the clock exactly if the token was issued in a
second of its own, or its lifetime is without end; and it is beyond it by the
lead of the issue times at most.
-/
structure Outlives (first position : Nat) (token : IssuedToken) : Prop
    extends Timed token where
  inTime : token.claims.exp ≤ saturatingAdd token.reading token.ttl ↔
    free token.previous ≤ token.reading.toNat ∨
      UInt64.size ≤ token.reading.toNat + token.ttl.toNat + 1
  exp_le : token.claims.exp.toNat ≤
    max token.reading.toNat first + position + token.ttl.toNat

/--
While the clock does not go back, no token outlives its lifetime by more than
the number of tokens issued before it, and the lead that the state starts with.
The claims are the ones that the returned text carries.
-/
theorem outlives_by_lead {calls : List TokenCall}
    (forward : Along (Issuance.step jwt order) Forward (.start app) calls)
    {position : Nat} {token : IssuedToken}
    (issued : (Issuance.run jwt order app calls).issued[position]? =
      some token) :
    Carries jwt app.jwtKey token ∧
      Outlives (free app.lastJwtIssueSeconds) position token := by
  have member := List.mem_of_getElem? issued
  have timed := (sound_run jwt order app calls).timed token member
  have leads : Leads (free app.lastJwtIssueSeconds)
      (Issuance.run jwt order app calls) :=
    forward.invariant (Leads (free app.lastJwtIssueSeconds))
      (fun _ _ isForward leads => leads.step isForward)
      ⟨by simp [Issuance.start], by simp [Issuance.start]⟩
  have ahead := leads.issued position token issued
  refine ⟨(encoded_run jwt order app calls).carries token member, timed,
    timed.exp_le_iff, ?_⟩
  rw [timed.toNat_exp]
  omega

/-- A member asks for two tokens within one second. -/
def twoAtOnce : List TokenCall :=
  [.createRoomToken 100 1 "member" [], .createRoomToken 100 1 "member" [7]]

/-- The tokens that a new room issues to its member. -/
def memberTokens (calls : List TokenCall) : List IssuedToken :=
  (Issuance.run standIn .ascending (configuredAfter newRoomEvents)
    calls).issued

theorem outlives_by_lead_twoAtOnce :
    ∃ token, (memberTokens twoAtOnce)[1]? = some token ∧
      Carries standIn (configuredAfter newRoomEvents).jwtKey token ∧
      Outlives 0 1 token := by
  have both : 1 < (memberTokens twoAtOnce).length := by decide +kernel
  have forward : Along (Issuance.step standIn .ascending) Forward
      (.start (configuredAfter newRoomEvents)) twoAtOnce := by
    decide +kernel
  have issued : (memberTokens twoAtOnce)[1]? =
      some ((memberTokens twoAtOnce).get ⟨1, both⟩) :=
    List.getElem?_eq_getElem both
  exact ⟨_, issued, outlives_by_lead standIn .ascending
    (configuredAfter newRoomEvents) forward issued⟩

/-- The second of them expires later than its lifetime allows. -/
theorem outlived_twoAtOnce :
    Along (Issuance.step standIn .ascending) Forward
        (.start (configuredAfter newRoomEvents)) twoAtOnce ∧
      ∃ token ∈ memberTokens twoAtOnce, token.reading = 100 ∧
        token.ttl = 3600 ∧ token.claims.exp = 3701 ∧
        ¬token.claims.exp ≤ saturatingAdd token.reading token.ttl := by
  refine ⟨by decide +kernel, ?_⟩
  have found : (memberTokens twoAtOnce).any (fun token =>
      token.reading = 100 && token.ttl = 3600 && token.claims.exp = 3701) =
        true := by
    decide +kernel
  obtain ⟨token, member, isToken⟩ := List.any_eq_true.mp found
  simp only [Bool.and_eq_true, decide_eq_true_eq] at isToken
  obtain ⟨⟨isReading, isTtl⟩, isExp⟩ := isToken
  refine ⟨token, member, isReading, isTtl, isExp, ?_⟩
  rw [isReading, isTtl, isExp]
  decide

/-! ## Successive tokens -/

/--
What two tokens of a run, one issued before the other, have to do with each
other.  Without end is an expiry at `u64::MAX`.
-/
structure Succeeds (earlier later : IssuedToken) : Prop where
  issuedAt : earlier.issuedAt.toNat + 1 < UInt64.size →
    earlier.issuedAt < later.issuedAt
  exp_lt_iff : earlier.claims.exp < later.claims.exp ↔
    earlier.claims.exp.toNat + 1 < UInt64.size ∧
      earlier.issuedAt.toNat + earlier.ttl.toNat <
        later.issuedAt.toNat + later.ttl.toNat
  exp_lt : earlier.ttl ≤ later.ttl →
    earlier.claims.exp.toNat + 1 < UInt64.size →
      earlier.claims.exp < later.claims.exp
  claims_ne : earlier.ttl ≤ later.ttl →
    earlier.claims.exp.toNat + 1 < UInt64.size →
      earlier.claims ≠ later.claims

theorem succeeds_of_issuedAfter {earlier later : IssuedToken}
    (timed : Timed earlier) (timedLater : Timed later)
    (isAfter : IssuedAfter earlier later) : Succeeds earlier later := by
  have exp := timed.toNat_exp
  have expLater := timedLater.toNat_exp
  unfold IssuedAfter at isAfter
  have exp_lt (kept : earlier.ttl ≤ later.ttl)
      (ends : earlier.claims.exp.toNat + 1 < UInt64.size) :
      earlier.claims.exp < later.claims.exp := by
    rw [UInt64.le_iff_toNat_le] at kept
    rw [UInt64.lt_iff_toNat_lt]
    omega
  refine ⟨fun room => ?_, ?_, exp_lt, fun kept ends same => ?_⟩
  · rw [UInt64.lt_iff_toNat_lt]
    omega
  · rw [UInt64.lt_iff_toNat_lt]
    omega
  · have less := exp_lt kept ends
    rw [same] at less
    exact UInt64.lt_irrefl _ less

/--
Whatever the clock and the lifetimes do, a token is issued after all earlier
ones, and expires after them as long as the lifetime is not lowered and there
are seconds left.  The claims are the ones that the returned texts carry.
-/
theorem issued_succeed (calls : List TokenCall) :
    (∀ token ∈ (Issuance.run jwt order app calls).issued,
      Carries jwt app.jwtKey token) ∧
    (Issuance.run jwt order app calls).issued.Pairwise Succeeds := by
  have sound := sound_run jwt order app calls
  refine ⟨(encoded_run jwt order app calls).carries,
    sound.ordered.imp_of_mem ?_⟩
  intro earlier later isEarlier isLater isAfter
  exact succeeds_of_issuedAfter (sound.timed earlier isEarlier)
    (sound.timed later isLater) isAfter

/-- The lifetime is lowered by one second between two equal requests. -/
def lowered : List TokenCall :=
  [.createRoomToken 100 1 "member" [7], .setJwtTtl 3599,
    .createRoomToken 100 1 "member" [7]]

/-- Both tokens have the same claims, expiry included. -/
theorem repeated_lowered :
    ¬(memberTokens lowered).Pairwise
        (fun earlier later => earlier.claims.exp < later.claims.exp) ∧
      ¬(memberTokens lowered).Pairwise
        (fun earlier later => earlier.claims ≠ later.claims) := by
  decide +kernel

end Syncpond.TokenTimes
