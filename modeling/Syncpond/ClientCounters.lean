import Mathlib.Order.Bounds.Basic
import Syncpond.ClientSockets

/-!
# The counter that the script client resumes from

The client presents a counter whenever a socket opens, so that the server can
leave out what the client has.  That counter should be the highest one that the
client has seen.

The code assigns the counter of every `room_update` and `update`, whatever it
was before, and leaves out the counter of `auth_ok`.  So the counter is the
highest one as long as updates come in order and `auth_ok` shows nothing new.
-/

namespace Syncpond.ClientCounters

open Syncpond.ClientMessages (SyncpondClient ReadyState)
open Syncpond.ClientSockets (Connection Options UserCall)
open Syncpond.Library.Runs
open Syncpond.Library.JsonScript

variable {Number : Type}

/-! ## Counters in messages -/

/-- The number that a property has as value. -/
def numeric : Option (JsValue Number) → Option Number
  | some (.number value) => some value
  | _ => none

/-- The types of the messages that show a counter. -/
def showsCounter (type : JsString) : Bool :=
  type = fromText "auth_ok" || type = fromText "room_update" ||
    type = fromText "update"

/-- The type of a message. -/
def messageType (message : JsValue Number) : Option JsString :=
  match message.get "type" with
  | some (.string type) => some type
  | _ => none

/-- The counter that a message shows. -/
def shown (message : JsValue Number) : Option Number :=
  if (messageType message).any showsCounter then
    numeric (message.get "room_counter")
  else none

/-- The counter that the data of a message shows. -/
def shownIn [ScriptNumber Number] (data : JsString) : Option Number :=
  (parse data).bind shown

/-- A counter is the highest one that was seen, and is there if one was. -/
def IsHighest [Preorder Number] (counter : Option (JsValue Number))
    (seen : List Number) : Prop :=
  match counter with
  | none => seen = []
  | some (.number highest) => IsGreatest {other | other ∈ seen} highest
  | some _ => False

/-! ## Sessions -/

/-- What happens to a client, with the data of its messages. -/
inductive Event where
  | user (call : UserCall)
  | opened (socket : Nat)
  | message (socket : Nat) (data : JsString)
  | error (socket : Nat)
  | closed (socket : Nat) (calls : List UserCall)
  | timer (constructed : Bool)

/-- What an event is to the connection. -/
def Event.onConnection : Event → ClientSockets.Event
  | .user call => .user call
  | .opened socket => .opened socket
  | .message socket _ => .message socket
  | .error socket => .error socket
  | .closed socket calls => .closed socket calls
  | .timer constructed => .timer constructed

/-- A client over all its connections, with what it has seen and sent. -/
structure Session (Number : Type) where
  connection : Connection
  client : SyncpondClient Number
  /-- The counters of the constructor and of the messages so far. -/
  seen : List Number
  /-- The messages sent on opening, each with the counters seen before. -/
  auths : List (JsValue Number × List Number)

namespace Session

/-- A new client. -/
def new (jwt : JsString) (lastSeenCounter : Option Number) :
    Session Number where
  connection := .new
  client := ⟨jwt, lastSeenCounter.map .number⟩
  seen := lastSeenCounter.toList
  auths := []

variable [ScriptNumber Number]

/-- `sendAuth` over the stored socket. -/
def authenticate (session : Session Number) : Session Number :=
  let ws := session.connection.ws.bind (session.connection.sockets[·]?)
  match session.client.sendAuth ws with
  | some _ =>
      { session with
        auths := session.auths ++
          [(session.client.authMessage, session.seen)] }
  | none => session

def receive (session : Session Number) (data : JsString) : Session Number :=
  { session with
    client := (session.client.handleMessage data).1
    seen := session.seen ++ (shownIn data).toList }

end Session

variable [ScriptNumber Number]

/-- The session after an event. -/
def step (options : Options) (session : Session Number) (event : Event) :
    Option (Session Number) :=
  (ClientSockets.step options session.connection event.onConnection).map
    fun connection =>
      let moved := { session with connection := connection }
      match event with
      | .opened _ => moved.authenticate
      | .message _ data => moved.receive data
      | _ => moved

/-- A message sent on opening carries the highest counter seen before. -/
def Resumes [Preorder Number] (auth : JsValue Number × List Number) : Prop :=
  IsHighest (auth.1.get "last_seen_counter") auth.2

/-! ## Conditions of a message -/

section Conditions

variable [Preorder Number]

/-- What `auth_ok` shows is nothing new. -/
def Covers (field : Option (JsValue Number)) (value : Option Number) : Prop :=
  ∀ counter ∈ value, ∃ highest ∈ numeric field, counter ≤ highest

/-- What an update shows is not below the counter, or both are missing. -/
def Raises (field value : Option (JsValue Number)) : Prop :=
  match numeric value with
  | some counter => ∀ highest ∈ numeric field, highest ≤ counter
  | none => value.isNone ∧ field.isNone

/-- The message shows counters in order. -/
def InOrder (client : SyncpondClient Number) (message : JsValue Number) :
    Prop :=
  ∀ type ∈ messageType message,
    if type = fromText "auth_ok" then
      Covers client.lastSeenCounter (numeric (message.get "room_counter"))
    else if type = fromText "room_update" ∨ type = fromText "update" then
      Raises client.lastSeenCounter (message.get "room_counter")
    else True

/-- What is read from the data of a message shows counters in order. -/
def DataInOrder (client : SyncpondClient Number) (data : JsString) : Prop :=
  ∀ message ∈ (parse data : Option (JsValue Number)), InOrder client message

/-- A message that is received shows counters in order. -/
def Ordered (session : Session Number) : Event → Prop
  | .message _ data => DataInOrder session.client data
  | _ => True

variable [DecidableLE Number]

instance (field : Option (JsValue Number)) (value : Option Number) :
    Decidable (Covers field value) :=
  inferInstanceAs (Decidable
    (∀ counter ∈ value, ∃ highest ∈ numeric field, counter ≤ highest))

instance (field value : Option (JsValue Number)) :
    Decidable (Raises field value) :=
  match isNumber : numeric value with
  | some counter => decidable_of_iff
      (∀ highest ∈ numeric field, highest ≤ counter) (by simp [Raises, isNumber])
  | none => decidable_of_iff
      (value.isNone ∧ field.isNone) (by simp [Raises, isNumber])

instance (client : SyncpondClient Number) (message : JsValue Number) :
    Decidable (InOrder client message) :=
  inferInstanceAs (Decidable (∀ type ∈ messageType message,
    if type = fromText "auth_ok" then
      Covers client.lastSeenCounter (numeric (message.get "room_counter"))
    else if type = fromText "room_update" ∨ type = fromText "update" then
      Raises client.lastSeenCounter (message.get "room_counter")
    else True))

instance (client : SyncpondClient Number) (data : JsString) :
    Decidable (DataInOrder client data) :=
  inferInstanceAs (Decidable (∀ message ∈
    (parse data : Option (JsValue Number)), InOrder client message))

instance (session : Session Number) :
    ∀ event : Event, Decidable (Ordered session event)
  | .message _ data =>
      inferInstanceAs (Decidable (DataInOrder session.client data))
  | .user _ => inferInstanceAs (Decidable True)
  | .opened _ => inferInstanceAs (Decidable True)
  | .error _ => inferInstanceAs (Decidable True)
  | .closed _ _ => inferInstanceAs (Decidable True)
  | .timer _ => inferInstanceAs (Decidable True)

end Conditions

/-! ## The highest counter -/

section Highest

variable [Preorder Number] {field : Option (JsValue Number)}
variable {seen : List Number}

omit [ScriptNumber Number]

theorem isHighest_iff :
    IsHighest field seen ↔ (field = none ∧ seen = []) ∨
      ∃ highest, field = some (.number highest) ∧
        IsGreatest {other | other ∈ seen} highest := by
  cases field with
  | none => simp [IsHighest]
  | some value => cases value <;> simp [IsHighest]

section Greatest

variable {highest : Number}
variable (greatest : IsGreatest {other | other ∈ seen} highest)

include greatest

/-- The greatest number stays so if a further one is not above it. -/
theorem isGreatest_append_iff (counter : Number) :
    IsGreatest {other | other ∈ seen ++ [counter]} highest ↔
      counter ≤ highest := by
  constructor
  · intro still
    exact still.2 (by simp)
  · intro below
    refine ⟨List.mem_append_left _ greatest.1, fun other member => ?_⟩
    rcases List.mem_append.mp member with before | now
    · exact greatest.2 before
    · exact List.mem_singleton.mp now ▸ below

/-- A further number is the greatest if it is not below the one before. -/
theorem isGreatest_append_self_iff (counter : Number) :
    IsGreatest {other | other ∈ seen ++ [counter]} counter ↔
      highest ≤ counter := by
  constructor
  · intro still
    exact still.2 (List.mem_append_left _ greatest.1)
  · intro above
    refine ⟨by simp, fun other member => ?_⟩
    rcases List.mem_append.mp member with before | now
    · exact (greatest.2 before).trans above
    · exact (List.mem_singleton.mp now).le

end Greatest

/-- The counter stays the highest one if what is seen is covered. -/
theorem isHighest_append_iff (highest : IsHighest field seen)
    (value : Option Number) :
    IsHighest field (seen ++ value.toList) ↔ Covers field value := by
  cases value with
  | none => simpa [Covers] using highest
  | some counter =>
      rcases isHighest_iff.mp highest with ⟨rfl, rfl⟩ | ⟨number, rfl, greatest⟩
      · simp [IsHighest, Covers, numeric]
      · have still := isGreatest_append_iff greatest counter
        simpa [IsHighest, Covers, numeric] using still

/-- A value that replaces the counter is the highest one if it raises it. -/
theorem isHighest_replace_iff (highest : IsHighest field seen)
    (value : Option (JsValue Number)) :
    IsHighest value (seen ++ (numeric value).toList) ↔
      Raises field value := by
  rcases isHighest_iff.mp highest with ⟨rfl, rfl⟩ | ⟨number, rfl, greatest⟩
  · cases value with
    | none => simp [IsHighest, Raises, numeric]
    | some new => cases new <;> simp [IsHighest, Raises, numeric]
  · have seenOne : seen ≠ [] := List.ne_nil_of_mem greatest.1
    cases value with
    | none => simp [IsHighest, Raises, numeric, seenOne]
    | some new =>
        cases new with
        | number counter =>
            have raised := isGreatest_append_self_iff greatest counter
            simpa [IsHighest, Raises, numeric] using raised
        | null | boolean | string | array | object =>
            simp [IsHighest, Raises, numeric]

omit [Preorder Number] in
/-- What a message of some type does to the counter. -/
theorem lastSeenCounter_dispatch (client : SyncpondClient Number)
    (message : JsValue Number) :
    (client.dispatch message).1.lastSeenCounter =
      if messageType message = some (fromText "room_update") ∨
          messageType message = some (fromText "update") then
        message.get "room_counter"
      else client.lastSeenCounter := by
  unfold SyncpondClient.dispatch messageType
  cases message.get "type" with
  | none => simp
  | some value =>
      cases value with
      | string type =>
          simp only [Option.some.injEq]
          by_cases update :
              type = fromText "room_update" ∨ type = fromText "update"
          · have notOk : type ≠ fromText "auth_ok" := by
              rcases update with rfl | rfl <;> decide +kernel
            have notError : type ≠ fromText "auth_error" := by
              rcases update with rfl | rfl <;> decide +kernel
            rw [if_neg notOk, if_neg notError, if_pos update]
            split
            · rfl
            · next notRoom => rw [if_pos (update.resolve_left notRoom)]
          · obtain ⟨notRoom, notUpdate⟩ := not_or.mp update
            rw [if_neg notRoom, if_neg notUpdate, if_neg update]
            split
            · rfl
            · split <;> rfl
      | null | boolean | number | array | object => simp

/-- A message keeps the counter the highest one if it is in order. -/
theorem isHighest_dispatch_iff {client : SyncpondClient Number}
    (highest : IsHighest client.lastSeenCounter seen)
    (message : JsValue Number) :
    IsHighest (client.dispatch message).1.lastSeenCounter
        (seen ++ (shown message).toList) ↔
      InOrder client message := by
  rw [lastSeenCounter_dispatch]
  unfold shown InOrder
  cases messageType message with
  | none => simpa using highest
  | some type =>
      simp only [Option.some.injEq, Option.mem_def, forall_eq',
        Option.any_some]
      by_cases authOk : type = fromText "auth_ok"
      · have notUpdate : ¬(type = fromText "room_update" ∨
            type = fromText "update") := by
          rw [authOk]
          decide +kernel
        have counted : showsCounter type = true := by
          simp [showsCounter, authOk]
        rw [if_neg notUpdate, if_pos counted, if_pos authOk]
        exact isHighest_append_iff highest _
      · rw [if_neg authOk]
        by_cases update :
            type = fromText "room_update" ∨ type = fromText "update"
        · have counted : showsCounter type = true := by
            rcases update with isType | isType <;>
              simp [showsCounter, isType]
          rw [if_pos update, if_pos counted, if_pos update]
          exact isHighest_replace_iff highest _
        · have uncounted : ¬showsCounter type = true := by
            simpa [showsCounter, authOk] using update
          rw [if_neg update, if_neg uncounted, if_neg update]
          simpa using highest

end Highest

section Receive

variable [Preorder Number]

/-- Whatever is received, the counter stays the highest if it is in order. -/
theorem isHighest_receive_iff {session : Session Number}
    (highest : IsHighest session.client.lastSeenCounter session.seen)
    (data : JsString) :
    IsHighest (session.receive data).client.lastSeenCounter
        (session.receive data).seen ↔
      DataInOrder session.client data := by
  simp only [Session.receive, SyncpondClient.handleMessage, shownIn,
    DataInOrder]
  cases (parse data : Option (JsValue Number)) with
  | none => simpa using highest
  | some message =>
      have dispatched := isHighest_dispatch_iff highest message
      simp only [Option.bind_some, Option.mem_def, Option.some.injEq,
        forall_eq']
      split
      · next falsy =>
        have untyped : message.get "type" = none := by
          cases message with
          | object => cases falsy
          | null | boolean | number | string | array => rfl
        simpa [SyncpondClient.dispatch, untyped] using dispatched
      · exact dispatched

end Receive

/-! ## Runs -/

omit [ScriptNumber Number] in
theorem get_authMessage (client : SyncpondClient Number) :
    client.authMessage.get "last_seen_counter" = client.lastSeenCounter := by
  have notType : (fromText "last_seen_counter" == fromText "type") = false := by
    decide +kernel
  have notJwt : (fromText "last_seen_counter" == fromText "jwt") = false := by
    decide +kernel
  cases present : client.lastSeenCounter with
  | none =>
      simp [SyncpondClient.authMessage, JsValue.get, present, List.lookup_cons,
        notType, notJwt]
  | some counter =>
      simp [SyncpondClient.authMessage, JsValue.get, present]

section Runs

variable [Preorder Number] {options : Options} {session : Session Number}

/-- The counter is the highest one, as it was whenever a socket opened. -/
structure Resuming (session : Session Number) : Prop where
  highest : IsHighest session.client.lastSeenCounter session.seen
  auths : ∀ auth ∈ session.auths, Resumes auth

theorem Resuming.authenticate (resuming : Resuming session) :
    Resuming session.authenticate := by
  unfold Session.authenticate
  simp only
  split
  · refine ⟨resuming.highest, fun auth member => ?_⟩
    rcases List.mem_append.mp member with before | now
    · exact resuming.auths auth before
    · cases List.mem_singleton.mp now
      rw [Resumes, get_authMessage]
      exact resuming.highest
  · exact resuming

theorem Resuming.step (resuming : Resuming session) {event : Event}
    (ordered : Ordered session event) {after : Session Number}
    (stepped : ClientCounters.step options session event = some after) :
    Resuming after := by
  obtain ⟨connection, _, rfl⟩ := Option.map_eq_some_iff.mp stepped
  have moved : Resuming { session with connection := connection } :=
    ⟨resuming.highest, resuming.auths⟩
  cases event with
  | opened socket => exact moved.authenticate
  | message socket data =>
      exact ⟨(isHighest_receive_iff moved.highest data).mpr ordered,
        moved.auths⟩
  | user | error | closed | timer => exact moved

/--
In every run of messages in order, each message sent on opening carries the
highest counter seen before; and a further message keeps that so exactly if it
is in order too.
-/
theorem resumes_from_highest {jwt : JsString}
    {lastSeenCounter : Option Number}
    (run : Follows (step options) Ordered (.new jwt lastSeenCounter) session) :
    (∀ auth ∈ session.auths, Resumes auth) ∧
      ∀ data, IsHighest (session.receive data).client.lastSeenCounter
          (session.receive data).seen ↔
        DataInOrder session.client data := by
  have started : Resuming (.new jwt lastSeenCounter : Session Number) := by
    refine ⟨?_, by simp [Session.new]⟩
    cases lastSeenCounter with
    | none => simp [IsHighest, Session.new]
    | some counter => simp [IsHighest, Session.new]
  have resuming := run.invariant Resuming
    (fun _ _ _ resuming ordered stepped => resuming.step ordered stepped)
    started
  exact ⟨resuming.auths, isHighest_receive_iff resuming.highest⟩

end Runs

/-! ## Counters that come in order, and others -/

instance : ScriptNumber Nat where
  ofLiteral codes := codes.foldl
    (fun number code => number * 10 + (code.toNat - (unit '0').toNat)) 0
  toJson number := fromText (Nat.repr number)
  isZero number := number == 0

/-- A message with a type and a counter. -/
def counterMessage (type counter : String) : JsString :=
  fromText ("\x7b\"type\":\"" ++ type ++ "\",\"room_counter\":" ++ counter ++
    "\x7d")

/-- A client that has seen counter 3 sees more, and its socket is closed. -/
def ordered : List Event :=
  [.user (.connect true), .opened 0,
    .message 0 (counterMessage "auth_ok" "3"),
    .message 0 (counterMessage "room_update" "5"),
    .message 0 (fromText "not JSON"),
    .message 0 (counterMessage "update" "5"),
    .closed 0 [], .timer true, .opened 1]

theorem resumes_from_highest_ordered :
    ∃ session : Session Nat,
      Follows (step ClientSockets.defaults) Ordered
        (.new (fromText "token") (some 3)) session ∧
      session.auths.length = 2 ∧ ∀ auth ∈ session.auths, Resumes auth := by
  have counted : (ordered.foldlM (fun session event =>
      if decide (Ordered session event) then
        step ClientSockets.defaults session event
      else none) (.new (fromText "token") (some 3) : Session Nat)).map
        (fun session => session.auths.length) = some 2 := by
    decide +kernel
  obtain ⟨session, ran, two⟩ := Option.map_eq_some_iff.mp counted
  have run := follows_of_checked (fun _ _ => of_decide_eq_true) ran
  exact ⟨session, run, two, (resumes_from_highest run).1⟩

/-- The snapshot of `auth_ok` is all that a client has seen. -/
def onlySnapshot : List Event :=
  [.user (.connect true), .opened 0,
    .message 0 (counterMessage "auth_ok" "7"),
    .closed 0 [], .timer true, .opened 1]

/-- An update comes after a later one. -/
def lateUpdate : List Event :=
  [.user (.connect true), .opened 0,
    .message 0 (counterMessage "room_update" "5"),
    .message 0 (counterMessage "update" "3"),
    .closed 0 [], .timer true, .opened 1]

/-- What the messages sent on opening in a run carry, and what was seen. -/
def resumedIn (events : List Event) : Option (List (Option Nat × List Nat)) :=
  (events.foldlM (step ClientSockets.defaults)
    (.new (fromText "token") none : Session Nat)).map fun session =>
      session.auths.map fun auth =>
        (numeric (auth.1.get "last_seen_counter"), auth.2)

/-- Neither run resumes from the highest counter. -/
theorem not_resumes :
    resumedIn onlySnapshot = some [(none, []), (none, [7])] ∧
      resumedIn lateUpdate = some [(none, []), (some 3, [5, 3])] ∧
      ¬∀ session : Session Nat,
        Follows (step ClientSockets.defaults) (fun _ _ => True)
          (.new (fromText "token") none) session →
            ∀ auth ∈ session.auths, Resumes auth := by
  have snapshot : resumedIn onlySnapshot = some [(none, []), (none, [7])] := by
    decide +kernel
  refine ⟨snapshot, by decide +kernel, fun claimed => ?_⟩
  obtain ⟨session, ran, carried⟩ := Option.map_eq_some_iff.mp snapshot
  have member : ((none, [7]) : Option Nat × List Nat) ∈
      session.auths.map fun auth =>
        (numeric (auth.1.get "last_seen_counter"), auth.2) := by
    rw [carried]
    simp
  obtain ⟨auth, sent, same⟩ := List.mem_map.mp member
  obtain ⟨noNumber, seen⟩ := Prod.mk.inj same
  have resumes := claimed session (follows_of_foldlM ran) auth sent
  rcases isHighest_iff.mp resumes with ⟨_, unseen⟩ | ⟨highest, present, _⟩
  · rw [seen] at unseen
    cases unseen
  · rw [present] at noNumber
    cases noNumber

end Syncpond.ClientCounters
