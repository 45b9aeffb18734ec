import Syncpond.ClientSockets

/-!
# The promises of `connect`

`connect` returns a promise with the socket that it creates.  The `open` event
resolves it, and an `error` event rejects it, but only if the client is neither
connecting nor connected at that moment.  A client whose first socket fails is
still connecting then, and the `close` event that follows settles nothing.

So the promise of a socket that closes without having opened is rejected if
and only if one of its `error` events found the client idle.
-/

namespace Syncpond.ClientPromises

open Syncpond.ClientMessages (ReadyState)
open Syncpond.ClientSockets
open Syncpond.Library.Runs

/-! ## Promises -/

/-- The state of the promise that `connect` returns. -/
inductive PromiseState where
  | pending
  | resolved
  | rejected
deriving DecidableEq

namespace PromiseState

/-- Only the first settlement counts. -/
def resolve : PromiseState → PromiseState
  | .pending => .resolved
  | settled => settled

def reject : PromiseState → PromiseState
  | .pending => .rejected
  | settled => settled

end PromiseState

/-- A client with the promises of its sockets, and what was delivered. -/
structure Session where
  connection : Connection
  /-- The promise of each socket. -/
  promises : List PromiseState
  /-- The sockets that have delivered their `open` event. -/
  opened : List Nat
  /-- The sockets with an `error` event that found the client idle. -/
  idleErrors : List Nat

/-- What happens to a client; listeners make calls within a handler. -/
inductive Event where
  | user (call : UserCall)
  | opened (socket : Nat) (calls : List UserCall)
  | message (socket : Nat)
  | error (socket : Nat) (calls : List UserCall)
  | closed (socket : Nat) (calls : List UserCall)
  | timer (constructed : Bool)

/-- The client is neither connecting nor connected. -/
def isIdle (client : Connection) : Bool :=
  !client.isConnected && !client.connecting

namespace Session

def new : Session := ⟨.new, [], [], []⟩

/-- `connect`: a promise that is not settled at once comes with a socket. -/
def connect (session : Session) (constructed : Bool) : Session :=
  { session with
    connection := session.connection.connect constructed
    promises :=
      if creates session.connection constructed then
        session.promises ++ [.pending]
      else session.promises }

def call (session : Session) : UserCall → Session
  | .connect constructed => session.connect constructed
  | .disconnect =>
      { session with connection := session.connection.disconnect }

/-- A socket enters a state. -/
def enter (session : Session) (socket : Nat) (state : ReadyState) : Session :=
  { session with connection := session.connection.enter socket state }

/-- The handler of an `open` event resolves after its listeners. -/
def handleOpen (session : Session) (socket : Nat) (calls : List UserCall) :
    Session :=
  let told := calls.foldl call
    { session with connection := session.connection.handleOpen }
  { told with promises := told.promises.modify socket PromiseState.resolve }

/-- The handler of an `error` event rejects if the client is idle. -/
def handleError (session : Session) (socket : Nat) (calls : List UserCall) :
    Session :=
  let told := calls.foldl call session
  if isIdle told.connection then
    { told with promises := told.promises.modify socket PromiseState.reject }
  else told

/-- The handler of a `close` event settles nothing. -/
def handleClose (options : Options) (session : Session)
    (calls : List UserCall) : Session :=
  let told := calls.foldl call session
  { told with connection := told.connection.handleClose options [] }

/-- The callback of a reconnect timer. -/
def handleTimer (session : Session) (constructed : Bool) : Session :=
  if session.connection.closedByUser then session
  else session.connect constructed

end Session

/-- The client is idle once the listeners of an event made their calls. -/
def idleAfter (session : Session) (calls : List UserCall) : Bool :=
  isIdle (calls.foldl Session.call session).connection

/--
The session after an event.  A socket that connects opens at most once and
closes once; after an error it does not open any more.  What was delivered is
noted here, whatever the handlers make of it.
-/
def step (options : Options) (session : Session) : Event → Option Session
  | .user call => some (session.call call)
  | .opened socket calls =>
      if session.connection.sockets[socket]? = some .connecting then
        some { (session.enter socket .opened).handleOpen socket calls with
          opened := socket :: session.opened }
      else none
  | .message socket =>
      if session.connection.sockets[socket]? = some .opened then some session
      else none
  | .error socket calls =>
      if session.connection.sockets[socket]?.getD .closed ≠ .closed then
        let entered := session.enter socket .closing
        some { entered.handleError socket calls with
          idleErrors :=
            if idleAfter entered calls then socket :: session.idleErrors
            else session.idleErrors }
      else none
  | .closed socket calls =>
      if session.connection.sockets[socket]?.getD .closed ≠ .closed then
        some ((session.enter socket .closed).handleClose options calls)
      else none
  | .timer constructed =>
      if 0 < session.connection.timers then
        some ({ session with
          connection :=
            { session.connection with
              timers := session.connection.timers - 1 } }.handleTimer
          constructed)
      else none

/--
A socket that has delivered its `open` or its `close` event has a settled
promise: resolved if it opened, and rejected otherwise.
-/
def Settles (session : Session) : Prop :=
  ∀ socket, socket ∈ session.opened ∨
      session.connection.sockets[socket]? = some .closed →
    session.promises[socket]? =
      some (if socket ∈ session.opened then .resolved else .rejected)

/--
A socket that has delivered its `close` event has opened before, or one of its
`error` events found the client idle.
-/
def OpensOrFailsIdle (session : Session) : Prop :=
  ∀ socket, session.connection.sockets[socket]? = some .closed →
    socket ∈ session.opened ∨ socket ∈ session.idleErrors

/-! ## What the promises say -/

/-- The promise that the delivered events of a socket make. -/
def promised (session : Session) (socket : Nat) : PromiseState :=
  if socket ∈ session.opened then .resolved
  else if socket ∈ session.idleErrors then .rejected
  else .pending

/-- A socket that has been created, and does not connect any more. -/
def Past (client : Connection) (socket : Nat) : Prop :=
  ∃ state, client.sockets[socket]? = some state ∧ state ≠ .connecting

/-- Every socket has the promise that its events make. -/
structure Tracked (session : Session) : Prop where
  promises : ∀ socket, session.promises[socket]? =
    session.connection.sockets[socket]?.map fun _ => promised session socket
  settled : ∀ socket, socket ∈ session.opened ∨
      socket ∈ session.idleErrors →
    Past session.connection socket

namespace Past

variable {client after : Connection} {socket : Nat}

/-- A socket that changes its state does not connect again. -/
theorem relabel (past : Past client socket)
    (change : ReadyState → ReadyState)
    (advances : ∀ state, state ≠ .connecting → change state ≠ .connecting)
    (sockets : after.sockets[socket]? = client.sockets[socket]?.map change) :
    Past after socket := by
  obtain ⟨state, isState, notConnecting⟩ := past
  refine ⟨change state, ?_, advances state notConnecting⟩
  rw [sockets, isState, Option.map_some]

theorem enter {before state : ReadyState}
    (present : client.sockets[socket]? = some before)
    (notConnecting : state ≠ .connecting) :
    Past (client.enter socket state) socket := by
  obtain ⟨bound, _⟩ := List.getElem?_eq_some_iff.mp present
  exact ⟨state, by simp [Connection.enter, bound], notConnecting⟩

theorem connect (past : Past client socket) (constructed : Bool) :
    Past (client.connect constructed) socket := by
  cases create : creates client constructed with
  | false =>
      rw [Past, (connect_of_not_creates create).1]
      exact past
  | true =>
      obtain ⟨state, isState, notConnecting⟩ := past
      obtain ⟨bound, _⟩ := List.getElem?_eq_some_iff.mp isState
      rw [connect_of_creates create]
      refine ⟨state, ?_, notConnecting⟩
      rw [List.getElem?_append_left bound, isState]

theorem disconnect (past : Past client socket) :
    Past client.disconnect socket := by
  refine past.relabel
    (if client.ws = some socket then closeSocket else id) ?_ ?_
  · intro state notConnecting
    split
    · cases state <;> simp [closeSocket]
    · exact notConnecting
  · rw [lookup_disconnect]
    split <;> simp

theorem calls {session : Session} (past : Past session.connection socket)
    (calls : List UserCall) :
    Past (calls.foldl Session.call session).connection socket := by
  refine foldl_invariant
    (fun state : Session => Past state.connection socket) ?_ calls past
  intro state call past
  cases call with
  | connect constructed => exact past.connect constructed
  | disconnect => exact past.disconnect

end Past

namespace Tracked

variable {session : Session} {socket : Nat}

theorem new : Tracked .new where
  promises socket := by simp [Session.new, Connection.new]
  settled socket delivered := by simp [Session.new] at delivered

/-- The events of a socket that is new or connects have promised nothing. -/
theorem undelivered (tracked : Tracked session)
    (connecting : ∀ state, session.connection.sockets[socket]? = some state →
      state = .connecting) :
    socket ∉ session.opened ∧ socket ∉ session.idleErrors := by
  rw [← not_or]
  intro delivered
  obtain ⟨state, isState, notConnecting⟩ := tracked.settled socket delivered
  exact notConnecting (connecting state isState)

/-- Sockets that only change their state, and do not connect again. -/
theorem relabel (tracked : Tracked session)
    (change : Nat → ReadyState → ReadyState)
    (advances : ∀ socket state, state ≠ .connecting →
      change socket state ≠ .connecting)
    {connection : Connection}
    (sockets : ∀ socket, connection.sockets[socket]? =
      session.connection.sockets[socket]?.map (change socket)) :
    Tracked { session with connection := connection } where
  promises socket := by
    change session.promises[socket]? =
      connection.sockets[socket]?.map fun _ => promised session socket
    rw [sockets, tracked.promises, Option.map_map]
    rfl
  settled socket delivered :=
    (tracked.settled socket delivered).relabel (change socket)
      (advances socket) (sockets socket)

theorem congr (tracked : Tracked session) {connection : Connection}
    (sockets : connection.sockets = session.connection.sockets) :
    Tracked { session with connection := connection } :=
  tracked.relabel (fun _ => id) (fun _ _ => id) (by simp [sockets])

theorem disconnect (tracked : Tracked session) :
    Tracked (session.call .disconnect) := by
  refine tracked.relabel
    (fun socket => if session.connection.ws = some socket then closeSocket
      else id) ?_ ?_
  · intro socket state notConnecting
    split
    · cases state <;> simp [closeSocket]
    · exact notConnecting
  · intro socket
    rw [lookup_disconnect]
    split <;> simp

theorem enter (tracked : Tracked session) (socket : Nat)
    {state : ReadyState} (notConnecting : state ≠ .connecting) :
    Tracked (session.enter socket state) := by
  refine tracked.relabel
    (fun other before => if socket = other then state else before) ?_ ?_
  · intro other before unchanged
    split
    · exact notConnecting
    · exact unchanged
  · intro other
    simp only [Connection.enter, List.getElem?_set]
    split
    · next same =>
      subst same
      cases present : session.connection.sockets[socket]? with
      | none => simpa using present
      | some before =>
          obtain ⟨bound, _⟩ := List.getElem?_eq_some_iff.mp present
          simp [bound]
    · simp

theorem length_promises (tracked : Tracked session) :
    session.promises.length = session.connection.sockets.length := by
  apply Nat.le_antisymm
  · rw [← List.getElem?_eq_none_iff, tracked.promises]
    simp
  · have none := tracked.promises session.promises.length
    rw [List.getElem?_eq_none (Nat.le_refl _)] at none
    simpa using none.symm

/-- A new socket comes with a promise that is pending. -/
theorem connect (tracked : Tracked session) (constructed : Bool) :
    Tracked (session.connect constructed) := by
  unfold Session.connect
  cases create : creates session.connection constructed with
  | false =>
      obtain ⟨sockets, _⟩ := connect_of_not_creates create
      simp only [Bool.false_eq_true, if_false]
      exact tracked.congr sockets
  | true =>
      have length := tracked.length_promises
      rw [if_pos rfl, connect_of_creates create]
      constructor
      · intro socket
        change (session.promises ++ [.pending])[socket]? =
          (session.connection.sockets ++ [.connecting])[socket]?.map
            fun _ => promised session socket
        rcases Nat.lt_or_ge socket session.promises.length with old | new
        · rw [List.getElem?_append_left old,
            List.getElem?_append_left (length ▸ old), tracked.promises]
        · rw [List.getElem?_append_right new,
            List.getElem?_append_right (length ▸ new), length]
          cases index : socket - session.connection.sockets.length with
          | zero =>
              have absent : session.connection.sockets[socket]? = none :=
                List.getElem?_eq_none (length ▸ new)
              obtain ⟨notOpened, notFailed⟩ :=
                tracked.undelivered fun state isState => by
                  rw [absent] at isState
                  cases isState
              simp [promised, notOpened, notFailed]
          | succ more => simp
      · intro socket delivered
        have past := (tracked.settled socket delivered).connect constructed
        rwa [connect_of_creates create] at past

theorem call (tracked : Tracked session) (call : UserCall) :
    Tracked (session.call call) := by
  cases call with
  | connect constructed => exact tracked.connect constructed
  | disconnect => exact tracked.disconnect

theorem calls (tracked : Tracked session) (calls : List UserCall) :
    Tracked (calls.foldl Session.call session) :=
  foldl_invariant Tracked (fun _ call tracked => tracked.call call) calls
    tracked

end Tracked

/-! ## Steps -/

/-- Calls deliver no event. -/
theorem delivered_calls (session : Session) (calls : List UserCall) :
    (calls.foldl Session.call session).opened = session.opened ∧
      (calls.foldl Session.call session).idleErrors = session.idleErrors := by
  refine foldl_invariant
    (fun state : Session => state.opened = session.opened ∧
      state.idleErrors = session.idleErrors) ?_ calls ⟨rfl, rfl⟩
  intro state call same
  cases call <;> exact same

namespace Tracked

variable {session : Session} {socket : Nat}

/-- A promise that is pending or resolved can be resolved. -/
theorem resolve (tracked : Tracked session)
    (past : Past session.connection socket)
    (notFailed : socket ∉ session.idleErrors) :
    Tracked { session with
      promises := session.promises.modify socket PromiseState.resolve
      opened := socket :: session.opened } where
  promises other := by
    change (session.promises.modify socket _)[other]? =
      session.connection.sockets[other]?.map _
    rw [List.getElem?_modify, tracked.promises]
    by_cases same : socket = other
    · subst same
      cases session.connection.sockets[socket]? with
      | none => rfl
      | some state =>
          by_cases opened : socket ∈ session.opened <;>
            simp [promised, opened, notFailed, PromiseState.resolve]
    · have different : other ≠ socket := fun equal => same equal.symm
      cases session.connection.sockets[other]? <;>
        simp [promised, same, different]
  settled other delivered := by
    rcases delivered with opened | failed
    · rcases List.mem_cons.mp opened with rfl | before
      · exact past
      · exact tracked.settled other (Or.inl before)
    · exact tracked.settled other (Or.inr failed)

/-- A promise that is rejected stays as it is if it was settled. -/
theorem reject (tracked : Tracked session)
    (past : Past session.connection socket) :
    Tracked { session with
      promises := session.promises.modify socket PromiseState.reject
      idleErrors := socket :: session.idleErrors } where
  promises other := by
    change (session.promises.modify socket _)[other]? =
      session.connection.sockets[other]?.map _
    rw [List.getElem?_modify, tracked.promises]
    by_cases same : socket = other
    · subst same
      cases session.connection.sockets[socket]? with
      | none => rfl
      | some state =>
          by_cases opened : socket ∈ session.opened <;>
            by_cases failed : socket ∈ session.idleErrors <;>
              simp [promised, opened, failed, PromiseState.reject]
    · have different : other ≠ socket := fun equal => same equal.symm
      cases session.connection.sockets[other]? <;>
        simp [promised, same, different]
  settled other delivered := by
    rcases delivered with opened | failed
    · exact tracked.settled other (Or.inl opened)
    · rcases List.mem_cons.mp failed with rfl | before
      · exact past
      · exact tracked.settled other (Or.inr before)

/-- An `open` event resolves the promise of its socket. -/
theorem handleOpen (tracked : Tracked session)
    (connecting : session.connection.sockets[socket]? = some .connecting)
    (calls : List UserCall) :
    Tracked { (session.enter socket .opened).handleOpen socket calls with
      opened := socket :: session.opened } := by
  have opens : ReadyState.opened ≠ .connecting := by simp
  have notFailed : socket ∉ session.idleErrors :=
    (tracked.undelivered (by simp [connecting])).2
  have entered : Tracked { session.enter socket .opened with
      connection := (session.enter socket .opened).connection.handleOpen } :=
    (tracked.enter socket opens).congr rfl
  have past : Past (session.enter socket .opened).connection.handleOpen
      socket := Past.enter connecting opens
  have pastCalls : Past (calls.foldl Session.call
      { session.enter socket .opened with
        connection := (session.enter socket .opened).connection.handleOpen
      }).connection socket := by
    apply Past.calls
    exact past
  have resolved := (entered.calls calls).resolve pastCalls
    (by rwa [(delivered_calls _ calls).2])
  rw [(delivered_calls _ calls).1] at resolved
  exact resolved

/-- An `error` event rejects the promise if it finds the client idle. -/
theorem handleError (tracked : Tracked session)
    (notClosed : session.connection.sockets[socket]?.getD .closed ≠ .closed)
    (calls : List UserCall) :
    Tracked { (session.enter socket .closing).handleError socket calls with
      idleErrors :=
        if idleAfter (session.enter socket .closing) calls then
          socket :: session.idleErrors
        else session.idleErrors } := by
  have closes : ReadyState.closing ≠ .connecting := by simp
  have told := (tracked.enter socket closes).calls calls
  have noted := (delivered_calls (session.enter socket .closing) calls).2
  cases idle : idleAfter (session.enter socket .closing) calls with
  | false =>
      have quiet : (session.enter socket .closing).handleError socket calls =
          calls.foldl Session.call (session.enter socket .closing) :=
        if_neg (Bool.eq_false_iff.mp idle)
      have same : session.idleErrors =
          ((session.enter socket .closing).handleError socket
            calls).idleErrors := by
        rw [quiet]
        exact noted.symm
      rw [if_neg (by simp), same, quiet]
      exact told
  | true =>
      cases present : session.connection.sockets[socket]? with
      | none => simp [present] at notClosed
      | some before =>
          have past : Past (session.enter socket .closing).connection socket :=
            Past.enter present closes
          have rejected := told.reject (past.calls calls)
          have rejects :
              (session.enter socket .closing).handleError socket calls =
                { calls.foldl Session.call (session.enter socket .closing) with
                  promises :=
                    (calls.foldl Session.call
                      (session.enter socket .closing)).promises.modify socket
                        PromiseState.reject } :=
            if_pos idle
          rw [noted] at rejected
          rw [if_pos rfl, rejects]
          exact rejected

/-- The events of a socket are tracked in every step. -/
theorem step (tracked : Tracked session) {options : Options} {event : Event}
    {after : Session}
    (stepped : ClientPromises.step options session event = some after) :
    Tracked after := by
  cases event with
  | user call =>
      cases stepped
      exact tracked.call call
  | opened socket calls =>
      obtain ⟨connecting, isAfter⟩ := Option.ite_none_right_eq_some.mp stepped
      cases isAfter
      exact tracked.handleOpen connecting calls
  | message socket =>
      obtain ⟨_, isAfter⟩ := Option.ite_none_right_eq_some.mp stepped
      cases isAfter
      exact tracked
  | error socket calls =>
      obtain ⟨notClosed, isAfter⟩ := Option.ite_none_right_eq_some.mp stepped
      cases isAfter
      exact tracked.handleError notClosed calls
  | closed socket calls =>
      obtain ⟨_, isAfter⟩ := Option.ite_none_right_eq_some.mp stepped
      cases isAfter
      have closes : ReadyState.closed ≠ .connecting := by simp
      have told := (tracked.enter socket closes).calls calls
      exact told.congr (sockets_handleClose [])
  | timer constructed =>
      obtain ⟨_, isAfter⟩ := Option.ite_none_right_eq_some.mp stepped
      cases isAfter
      have fired : Tracked { session with
          connection :=
            { session.connection with
              timers := session.connection.timers - 1 } } :=
        tracked.congr rfl
      unfold Session.handleTimer
      split
      · exact fired
      · exact fired.connect constructed

end Tracked

/--
In every run of events and calls, all promises are settled as they should be if
and only if every socket that closed had opened, or had an `error` event that
found the client idle.
-/
theorem settles_iff {options : Options} {session : Session}
    (run : Follows (step options) (fun _ _ => True) .new session) :
    Settles session ↔ OpensOrFailsIdle session := by
  have tracked := run.invariant Tracked
    (fun _ _ _ tracked _ stepped => tracked.step stepped) .new
  constructor
  · intro settles socket closed
    by_contra neither
    obtain ⟨notOpened, notFailed⟩ := not_or.mp neither
    have promise := settles socket (Or.inr closed)
    rw [tracked.promises, closed] at promise
    simp [promised, notOpened, notFailed] at promise
  · intro delivers socket delivered
    rw [tracked.promises]
    by_cases opened : socket ∈ session.opened
    · obtain ⟨state, isState, _⟩ := tracked.settled socket (Or.inl opened)
      simp [promised, opened, isState]
    · have closed := delivered.resolve_left opened
      have failed := (delivers socket closed).resolve_left opened
      simp [promised, opened, failed, closed]

/-- The user reconnects, and a late `close` event leaves the client idle. -/
def lateClose : List Event :=
  [.user (.connect true), .opened 0 [], .user .disconnect,
    .user (.connect true), .closed 0 [], .error 1 [], .closed 1 []]

theorem settles_lateClose :
    ∃ session, lateClose.foldlM (step defaults) .new = some session ∧
      session.promises.take 2 = [.resolved, .rejected] ∧ Settles session := by
  have run : Follows (step defaults) (fun _ _ => True) .new _ :=
    follows_of_foldlM (show
      lateClose.foldlM (step defaults) .new = some _ from rfl)
  refine ⟨_, rfl, rfl, (settles_iff run).mpr ?_⟩
  intro socket closed
  match socket with
  | 0 => exact Or.inl (by decide)
  | 1 => exact Or.inr (by decide)
  | more + 2 => cases closed

/-- The first socket of a client fails. -/
def refused : List Event :=
  [.user (.connect true), .error 0 [], .closed 0 []]

/-- Its promise stays pending. -/
theorem not_settles_refused :
    ∃ session, Follows (step defaults) (fun _ _ => True) .new session ∧
      refused.foldlM (step defaults) .new = some session ∧
      session.promises = [.pending] ∧ ¬Settles session := by
  refine ⟨_, follows_of_foldlM (show
    refused.foldlM (step defaults) .new = some _ from rfl), rfl, rfl, ?_⟩
  intro settles
  have rejected := settles 0 (Or.inr rfl)
  cases rejected

end Syncpond.ClientPromises
