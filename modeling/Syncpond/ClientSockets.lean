import Syncpond.ClientMessages
import Syncpond.Library.Runs

/-!
# Sockets of the script client

The client keeps one socket in a field, but its event handlers are bound to
the client and not to the socket they were added to.  A late `close` event of
an older socket therefore clears the field of a newer one and schedules a
reconnect beside it.

As long as every socket is created when the `close` events of all older ones
have been handled, there is one live socket at most, it is the stored one, and
no event of an older socket is left.
-/

namespace Syncpond.ClientSockets

open Syncpond.ClientMessages
open Syncpond.Library.Runs

deriving instance DecidableEq for ReadyState

/-! ## The client -/

/-- The options that decide whether the client connects again. -/
structure Options where
  autoReconnect : Bool
  /-- No number stands for `Infinity`. -/
  maxReconnectAttempts : Option Nat

/-- The attempts have reached the maximum. -/
def Options.exhausted (options : Options) (attempts : Nat) : Bool :=
  match options.maxReconnectAttempts with
  | some maximum => attempts ≥ maximum
  | none => false

/-- What the client keeps about its connection, and what it has created. -/
structure Connection where
  ws : Option Nat
  connecting : Bool
  closedByUser : Bool
  reconnectAttempts : Nat
  /-- The sockets that were created, the oldest one first. -/
  sockets : List ReadyState
  /-- How many reconnect timers are pending. -/
  timers : Nat
deriving DecidableEq

/-- A call of the user; a call of `connect` with what the constructor does. -/
inductive UserCall where
  | connect (constructed : Bool)
  | disconnect
deriving DecidableEq

/-- `WebSocket.close`: a live socket starts to close. -/
def closeSocket : ReadyState → ReadyState
  | .connecting => .closing
  | .opened => .closing
  | .closing => .closing
  | .closed => .closed

namespace Connection

/-- A new client. -/
def new : Connection where
  ws := none
  connecting := false
  closedByUser := false
  reconnectAttempts := 0
  sockets := []
  timers := 0

def isConnected (client : Connection) : Bool :=
  client.ws.bind (client.sockets[·]?) = some .opened

/-- `connect`: nothing happens while the client is connecting or connected. -/
def connect (constructed : Bool) (client : Connection) : Connection :=
  if client.connecting || client.isConnected then client
  else
    let started := { client with connecting := true, closedByUser := false }
    if constructed then
      { started with
        ws := some client.sockets.length
        sockets := client.sockets ++ [.connecting] }
    else { started with connecting := false }

def disconnect (client : Connection) : Connection :=
  match client.ws with
  | some socket =>
      { client with
        closedByUser := true
        sockets := client.sockets.modify socket closeSocket
        ws := none }
  | none => { client with closedByUser := true }

def call (client : Connection) : UserCall → Connection
  | .connect constructed => client.connect constructed
  | .disconnect => client.disconnect

/-- Schedule a reconnect unless all attempts are used. -/
def scheduleReconnect (options : Options) (client : Connection) :
    Connection :=
  if options.exhausted client.reconnectAttempts then client
  else
    { client with
      reconnectAttempts := client.reconnectAttempts + 1
      timers := client.timers + 1 }

/-- The handler of an `open` event, whichever socket it is from. -/
def handleOpen (client : Connection) : Connection :=
  { client with connecting := false, reconnectAttempts := 0 }

/--
The handler of a `close` event, whichever socket it is from: the listeners
come first, and may call the client.
-/
def handleClose (options : Options) (calls : List UserCall)
    (client : Connection) : Connection :=
  let told := calls.foldl call client
  let cleared := { told with ws := none, connecting := false }
  if !cleared.closedByUser && options.autoReconnect then
    cleared.scheduleReconnect options
  else cleared

/-- The callback of a reconnect timer. -/
def handleTimer (constructed : Bool) (client : Connection) : Connection :=
  if client.closedByUser then client else client.connect constructed

/-- A socket enters a state. -/
def enter (client : Connection) (socket : Nat) (state : ReadyState) :
    Connection :=
  { client with sockets := client.sockets.set socket state }

/-- A socket is open or about to be. -/
def Live (client : Connection) (socket : Nat) : Prop :=
  client.sockets[socket]? = some .connecting ∨
    client.sockets[socket]? = some .opened

end Connection

/-- What happens to a client. -/
inductive Event where
  | user (call : UserCall)
  | opened (socket : Nat)
  | message (socket : Nat)
  | error (socket : Nat)
  /-- The listeners make calls before the handler goes on. -/
  | closed (socket : Nat) (calls : List UserCall)
  | timer (constructed : Bool)

/-- The socket that an event is from. -/
def Event.socket : Event → Option Nat
  | .opened socket => some socket
  | .message socket => some socket
  | .error socket => some socket
  | .closed socket _ => some socket
  | _ => none

/-- The calls of the user that are part of an event. -/
def Event.calls : Event → List UserCall
  | .user call => [call]
  | .closed _ calls => calls
  | _ => []

/--
The client after an event.  A socket connects, opens at most once, and is
closed once; the last event of a socket that starts to close may come at any
time.
-/
def step (options : Options) (client : Connection) :
    Event → Option Connection
  | .user call => some (client.call call)
  | .opened socket =>
      if client.sockets[socket]? = some .connecting then
        some (client.enter socket .opened).handleOpen
      else none
  | .message socket =>
      if client.sockets[socket]? = some .opened then some client else none
  | .error socket =>
      if client.sockets[socket]?.getD .closed ≠ .closed then some client
      else none
  | .closed socket calls =>
      if client.sockets[socket]?.getD .closed ≠ .closed then
        some ((client.enter socket .closed).handleClose options calls)
      else none
  | .timer constructed =>
      if 0 < client.timers then
        some ({ client with timers := client.timers - 1 }.handleTimer
          constructed)
      else none

/-- What an event does, where it can happen. -/
inductive Happens (options : Options) (client : Connection) :
    Event → Connection → Prop
  | user (call : UserCall) :
      Happens options client (.user call) (client.call call)
  | opened {socket : Nat}
      (connecting : client.sockets[socket]? = some .connecting) :
      Happens options client (.opened socket)
        (client.enter socket .opened).handleOpen
  | message {socket : Nat} (isOpen : client.sockets[socket]? = some .opened) :
      Happens options client (.message socket) client
  | error {socket : Nat}
      (notClosed : client.sockets[socket]?.getD .closed ≠ .closed) :
      Happens options client (.error socket) client
  | closed {socket : Nat} (calls : List UserCall)
      (notClosed : client.sockets[socket]?.getD .closed ≠ .closed) :
      Happens options client (.closed socket calls)
        ((client.enter socket .closed).handleClose options calls)
  | timer (constructed : Bool) (pending : 0 < client.timers) :
      Happens options client (.timer constructed)
        ({ client with timers := client.timers - 1 }.handleTimer constructed)

theorem happens_of_step {options : Options} {client after : Connection}
    {event : Event} (stepped : step options client event = some after) :
    Happens options client event after := by
  cases event with
  | user call =>
      cases stepped
      exact .user call
  | opened socket =>
      obtain ⟨connecting, isAfter⟩ := Option.ite_none_right_eq_some.mp stepped
      cases isAfter
      exact .opened connecting
  | message socket =>
      obtain ⟨isOpen, isAfter⟩ := Option.ite_none_right_eq_some.mp stepped
      cases isAfter
      exact .message isOpen
  | error socket =>
      obtain ⟨notClosed, isAfter⟩ := Option.ite_none_right_eq_some.mp stepped
      cases isAfter
      exact .error notClosed
  | closed socket calls =>
      obtain ⟨notClosed, isAfter⟩ := Option.ite_none_right_eq_some.mp stepped
      cases isAfter
      exact .closed calls notClosed
  | timer constructed =>
      obtain ⟨pending, isAfter⟩ := Option.ite_none_right_eq_some.mp stepped
      cases isAfter
      exact .timer constructed pending

/-! ## One live socket -/

/-- The client has one live socket at most, which nothing older disturbs. -/
structure OneLive (options : Options) (client : Connection) : Prop where
  unique : ∀ socket other, client.Live socket → client.Live other →
    socket = other
  stored : ∀ socket, client.Live socket → client.ws = some socket
  older : ∀ event socket after, event.socket = some socket →
    event.calls = [] → socket + 1 < client.sockets.length →
    step options client event = some after →
      after.ws = client.ws ∧ after.connecting = client.connecting ∧
        after.reconnectAttempts = client.reconnectAttempts ∧
        after.timers = client.timers

/-- The `close` events of all sockets have come. -/
def Quiet (client : Connection) : Prop :=
  ∀ state ∈ client.sockets, state = .closed

/-- A call of `connect` constructs a socket. -/
def creates (client : Connection) (constructed : Bool) : Bool :=
  constructed && !(client.connecting || client.isConnected)

/-- The call creates no socket. -/
def CreatesNone (client : Connection) : UserCall → Prop
  | .connect constructed => creates client constructed = false
  | .disconnect => True

/-- A socket is created only when no `close` event is outstanding. -/
def Orderly (client : Connection) : Event → Prop
  | .user (.connect constructed) =>
      creates client constructed = true → Quiet client
  | .timer constructed =>
      client.closedByUser = false → creates client constructed = true →
        Quiet client
  | .closed socket calls =>
      Along Connection.call CreatesNone (client.enter socket .closed) calls
  | _ => True

instance (client : Connection) : Decidable (Quiet client) :=
  inferInstanceAs (Decidable (∀ state ∈ client.sockets, state = .closed))

instance (client : Connection) :
    ∀ call : UserCall, Decidable (CreatesNone client call)
  | .connect constructed =>
      inferInstanceAs (Decidable (creates client constructed = false))
  | .disconnect => inferInstanceAs (Decidable True)

instance (client : Connection) :
    ∀ event : Event, Decidable (Orderly client event)
  | .user (.connect constructed) =>
      inferInstanceAs (Decidable
        (creates client constructed = true → Quiet client))
  | .timer constructed =>
      inferInstanceAs (Decidable (client.closedByUser = false →
        creates client constructed = true → Quiet client))
  | .closed socket calls =>
      inferInstanceAs (Decidable (Along Connection.call CreatesNone
        (client.enter socket .closed) calls))
  | .user .disconnect => inferInstanceAs (Decidable True)
  | .opened _ => inferInstanceAs (Decidable True)
  | .message _ => inferInstanceAs (Decidable True)
  | .error _ => inferInstanceAs (Decidable True)

/-- All sockets but the last are closed, and a live one is stored. -/
structure Settled (client : Connection) : Prop where
  older : ∀ socket, socket + 1 < client.sockets.length →
    client.sockets[socket]? = some .closed
  stored : ∀ socket, client.Live socket → client.ws = some socket

section Connect

variable {client : Connection} {constructed : Bool}

theorem connect_of_creates (create : creates client constructed = true) :
    client.connect constructed =
      { client with
        ws := some client.sockets.length
        connecting := true
        closedByUser := false
        sockets := client.sockets ++ [.connecting] } := by
  obtain ⟨isConstructed, idle⟩ := Bool.and_eq_true_iff.mp create
  have proceeds : (client.connecting || client.isConnected) = false := by
    simpa using idle
  simp [Connection.connect, proceeds, isConstructed]

/-- A call that creates no socket leaves the sockets and the field alone. -/
theorem connect_of_not_creates (none : creates client constructed = false) :
    (client.connect constructed).sockets = client.sockets ∧
      (client.connect constructed).ws = client.ws := by
  unfold Connection.connect
  split
  · exact ⟨rfl, rfl⟩
  · next proceeds =>
    have notConstructed : constructed = false := by
      simpa [creates, proceeds] using none
    simp [notConstructed]

end Connect

section Disconnect

variable {client : Connection} {socket : Nat}

theorem lookup_disconnect :
    client.disconnect.sockets[socket]? =
      if client.ws = some socket then
        client.sockets[socket]?.map closeSocket
      else client.sockets[socket]? := by
  unfold Connection.disconnect
  cases stored : client.ws with
  | none => rfl
  | some other =>
      by_cases same : other = socket
      · simp [same]
      · simp [same]

theorem closed_disconnect (closed : client.sockets[socket]? = some .closed) :
    client.disconnect.sockets[socket]? = some .closed := by
  rw [lookup_disconnect, closed]
  split <;> rfl

theorem length_disconnect :
    client.disconnect.sockets.length = client.sockets.length := by
  unfold Connection.disconnect
  split <;> simp

/-- No socket that was stored is live after `disconnect`. -/
theorem live_of_disconnect (live : client.disconnect.Live socket) :
    client.Live socket ∧ client.ws ≠ some socket := by
  unfold Connection.Live at live
  rw [lookup_disconnect] at live
  split at live
  · cases state : client.sockets[socket]? with
    | none => simp [state] at live
    | some state_ => cases state_ <;> simp [state, closeSocket] at live
  · next notStored => exact ⟨live, notStored⟩

end Disconnect

namespace Settled

variable {client : Connection} {options : Options}

theorem congr (settled : Settled client) {after : Connection}
    (sockets : after.sockets = client.sockets) (ws : after.ws = client.ws) :
    Settled after where
  older := by rw [sockets]; exact settled.older
  stored := by
    unfold Connection.Live
    rw [sockets, ws]
    exact settled.stored

/-- A socket that is not closed is the last one. -/
theorem last (settled : Settled client) {socket : Nat} {state : ReadyState}
    (isState : client.sockets[socket]? = some state)
    (notClosed : state ≠ .closed) : socket + 1 = client.sockets.length := by
  obtain ⟨bound, _⟩ := List.getElem?_eq_some_iff.mp isState
  by_contra notLast
  have closed := settled.older socket (by omega)
  rw [isState] at closed
  exact notClosed (Option.some.inj closed)

theorem connect (settled : Settled client) {constructed : Bool}
    (orderly : creates client constructed = true → Quiet client) :
    Settled (client.connect constructed) := by
  cases create : creates client constructed with
  | false =>
      obtain ⟨sockets, ws⟩ := connect_of_not_creates create
      exact settled.congr sockets ws
  | true =>
      have quiet := orderly create
      rw [connect_of_creates create]
      constructor
      · intro socket bound
        have inside : socket < client.sockets.length := by
          simpa using bound
        rw [List.getElem?_append_left inside, List.getElem?_eq_getElem inside]
        exact congrArg some (quiet _ (List.getElem_mem inside))
      · rintro socket live
        by_contra notLast
        have inside : socket < client.sockets.length := by
          have bound : socket <
              (client.sockets ++ [ReadyState.connecting]).length := by
            rcases live with live | live
            · exact (List.getElem?_eq_some_iff.mp live).1
            · exact (List.getElem?_eq_some_iff.mp live).1
          have different : client.sockets.length ≠ socket := fun equal =>
            notLast (congrArg some equal)
          simp at bound
          omega
        unfold Connection.Live at live
        simp only [List.getElem?_append_left inside,
          List.getElem?_eq_getElem inside,
          quiet _ (List.getElem_mem inside)] at live
        rcases live with live | live <;> cases live

theorem disconnect (settled : Settled client) :
    Settled client.disconnect where
  older socket bound :=
    closed_disconnect (settled.older socket (length_disconnect ▸ bound))
  stored socket live := by
    obtain ⟨before, notStored⟩ := live_of_disconnect live
    exact absurd (settled.stored socket before) notStored

/-- A socket that was connecting is open. -/
theorem enter_opened (settled : Settled client) {socket : Nat}
    (connecting : client.sockets[socket]? = some .connecting) :
    Settled (client.enter socket .opened) := by
  constructor
  · intro other bound
    have isOther : socket ≠ other := by
      rintro rfl
      have last := settled.last connecting (by simp)
      simp only [Connection.enter, List.length_set] at bound
      omega
    simp only [Connection.enter, List.length_set] at bound ⊢
    rw [List.getElem?_set_ne isOther]
    exact settled.older other bound
  · intro other live
    by_cases same : socket = other
    · subst same
      exact settled.stored socket (Or.inl connecting)
    · unfold Connection.Live Connection.enter at live
      simp only [List.getElem?_set_ne same] at live
      exact settled.stored other live

end Settled

/-- All sockets but the last are closed, and that one is not live. -/
structure Still (client : Connection) : Prop where
  older : ∀ socket, socket + 1 < client.sockets.length →
    client.sockets[socket]? = some .closed
  silent : ∀ socket, ¬client.Live socket

namespace Still

variable {client : Connection}

theorem settled (still : Still client) {after : Connection}
    (sockets : after.sockets = client.sockets) : Settled after where
  older := by rw [sockets]; exact still.older
  stored socket live := by
    unfold Connection.Live at live
    rw [sockets] at live
    exact absurd live (still.silent socket)

/-- After the socket that was not closed is, no socket is live. -/
theorem enter_closed (settled : Settled client) {socket : Nat}
    (notClosed : client.sockets[socket]?.getD .closed ≠ .closed) :
    Still (client.enter socket .closed) := by
  cases isState : client.sockets[socket]? with
  | none => simp [isState] at notClosed
  | some state =>
      have last := settled.last isState (by simpa [isState] using notClosed)
      constructor
      · intro other bound
        simp only [Connection.enter, List.length_set] at bound ⊢
        rw [List.getElem?_set_ne (by omega)]
        exact settled.older other bound
      · intro other live
        unfold Connection.Live Connection.enter at live
        by_cases same : socket = other
        · subst same
          simp only [List.getElem?_set_self', isState] at live
          rcases live with live | live <;> cases live
        · simp only [List.getElem?_set_ne same] at live
          have lastOther : other + 1 = client.sockets.length := by
            rcases live with live | live
            · exact settled.last live (by simp)
            · exact settled.last live (by simp)
          omega

/-- Calls that create no socket leave no live one. -/
theorem call (still : Still client) {call : UserCall}
    (none : CreatesNone client call) : Still (client.call call) := by
  cases call with
  | connect constructed =>
      obtain ⟨sockets, _⟩ := connect_of_not_creates none
      constructor
      · simp only [Connection.call, sockets]
        exact still.older
      · unfold Connection.Live
        simp only [Connection.call, sockets]
        exact still.silent
  | disconnect =>
      constructor
      · intro socket bound
        exact closed_disconnect
          (still.older socket (length_disconnect ▸ bound))
      · intro socket live
        exact still.silent socket (live_of_disconnect live).1

end Still

/-! ## Steps -/

variable {options : Options} {client after : Connection}

theorem sockets_handleClose (calls : List UserCall) :
    (client.handleClose options calls).sockets =
      (calls.foldl Connection.call client).sockets := by
  simp only [Connection.handleClose]
  split
  · unfold Connection.scheduleReconnect
    split <;> rfl
  · rfl

/-- An orderly step keeps all sockets but the last closed. -/
theorem Settled.step (settled : Settled client) {event : Event}
    (orderly : Orderly client event)
    (stepped : step options client event = some after) : Settled after := by
  cases happens_of_step stepped with
  | user call =>
      cases call with
      | connect constructed => exact settled.connect orderly
      | disconnect => exact settled.disconnect
  | opened connecting =>
      exact (settled.enter_opened connecting).congr rfl rfl
  | message _ => exact settled
  | error _ => exact settled
  | closed calls notClosed =>
      have still : Still (calls.foldl Connection.call _) :=
        Along.invariant Still (fun _ _ none still => still.call none)
          orderly (.enter_closed settled notClosed)
      exact still.settled (sockets_handleClose calls)
  | timer constructed pending =>
      have fired : Settled { client with timers := client.timers - 1 } :=
        settled.congr rfl rfl
      unfold Connection.handleTimer
      split
      · exact fired
      · next notByUser =>
        exact fired.connect (orderly (by simpa using notByUser))

theorem settled_new : Settled .new where
  older := by simp [Connection.new]
  stored := by simp [Connection.Live, Connection.new]

/-- A settled client has one live socket, and older ones have no events. -/
theorem Settled.oneLive (settled : Settled client) :
    OneLive options client where
  unique socket other live otherLive := by
    have same := (settled.stored socket live).symm.trans
      (settled.stored other otherLive)
    exact Option.some.inj same
  stored := settled.stored
  older event socket after isSocket _ isOlder stepped := by
    have closed := settled.older socket isOlder
    cases happens_of_step stepped with
    | user call => cases isSocket
    | opened connecting =>
        cases isSocket
        rw [closed] at connecting
        cases connecting
    | message isOpen =>
        cases isSocket
        rw [closed] at isOpen
        cases isOpen
    | error notClosed =>
        cases isSocket
        rw [closed] at notClosed
        exact absurd rfl notClosed
    | closed calls notClosed =>
        cases isSocket
        rw [closed] at notClosed
        exact absurd rfl notClosed
    | timer constructed pending => cases isSocket

/--
In every run that creates a socket only when no `close` event is outstanding,
the client has one live socket at most, the one it stores, and no event of an
older socket changes anything.
-/
theorem oneLive_of_orderly
    (run : Follows (ClientSockets.step options) Orderly .new client) :
    OneLive options client :=
  (run.invariant Settled
    (fun _ _ _ settled orderly stepped => settled.step orderly stepped)
    settled_new).oneLive

/-! ## A late `close` event -/

/-- The default options. -/
def defaults : Options := ⟨true, some 10⟩

/-- The server closes the first socket, and the user closes the second one. -/
def reconnected : List Event :=
  [.user (.connect true), .opened 0, .closed 0 [], .timer true, .opened 1,
    .user .disconnect, .closed 1 [], .user (.connect true)]

theorem oneLive_reconnected :
    ∃ client, reconnected.foldlM (step defaults) .new = some client ∧
      OneLive defaults client := by
  refine ⟨_, rfl, oneLive_of_orderly ?_⟩
  exact follows_of_checked (fun _ _ => of_decide_eq_true)
    (show reconnected.foldlM (fun client event =>
      if decide (Orderly client event) then step defaults client event
      else none) .new = some _ from rfl)

/-- The user closes a socket and connects before its last event comes. -/
def lateClose : List Event :=
  [.user (.connect true), .opened 0, .user .disconnect,
    .user (.connect true), .closed 0 [], .timer true]

/-- Two sockets are connecting, and the older one is in no field. -/
theorem not_oneLive_lateClose :
    ∃ client, Follows (step defaults) (fun _ _ => True) .new client ∧
      ¬OneLive defaults client := by
  refine ⟨_, follows_of_foldlM (show
    lateClose.foldlM (step defaults) .new = some _ from rfl), ?_⟩
  intro oneLive
  have same := oneLive.unique 1 2 (Or.inl rfl) (Or.inl rfl)
  cases same

end Syncpond.ClientSockets
