import Syncpond.ClientSockets

/-!
# Reconnecting of the script client

Once a socket was open, the client keeps trying: while the last call of the
user was `connect` and attempts are left, a socket is live or a reconnect
timer is pending.  Two things end this.  A constructor that throws, in a timer
above all, leaves no socket whose `close` event would schedule the next
attempt.  And a `connect` during the teardown that follows `disconnect` returns
at once, because the client still counts as connecting, and is forgotten.

After `disconnect`, nothing but the user creates a socket, in every run.
-/

namespace Syncpond.ClientReconnect

open Syncpond.ClientMessages (ReadyState)
open Syncpond.ClientSockets
open Syncpond.Library.Runs

/-! ## What is seen of a client -/

/-- A client with the history of its run. -/
structure Watched where
  client : Connection
  /-- A socket has opened. -/
  opened : Bool
  lastCall : Option UserCall

/-- A client before its run. -/
def Watched.new : Watched := ⟨.new, false, none⟩

/-- The event opens a socket. -/
def opens : Event → Bool
  | .opened _ => true
  | _ => false

/-- The last call after some more calls. -/
def lastOf (previous : Option UserCall) (calls : List UserCall) :
    Option UserCall :=
  calls.foldl (fun _ call => some call) previous

/-- The client and its history after an event, if the event can happen. -/
def watch (options : Options) (state : Watched) (event : Event) :
    Option Watched :=
  (step options state.client event).map fun after =>
    ⟨after, state.opened || opens event, lastOf state.lastCall event.calls⟩

/-- Some socket is open or about to be. -/
def hasLive (client : Connection) : Bool :=
  client.sockets.any fun state => state = .connecting || state = .opened

theorem hasLive_iff {client : Connection} :
    hasLive client = true ↔ ∃ socket, client.Live socket := by
  simp only [hasLive, List.any_eq_true, Bool.or_eq_true, decide_eq_true_eq,
    List.mem_iff_getElem?, Connection.Live]
  constructor
  · rintro ⟨state, ⟨socket, isState⟩, rfl | rfl⟩
    · exact ⟨socket, Or.inl isState⟩
    · exact ⟨socket, Or.inr isState⟩
  · rintro ⟨socket, isState | isState⟩
    · exact ⟨_, ⟨socket, isState⟩, Or.inl rfl⟩
    · exact ⟨_, ⟨socket, isState⟩, Or.inr rfl⟩

/-- A client that was told to connect is trying. -/
def Tries (options : Options) (state : Watched) : Prop :=
  state.opened = true → state.lastCall ≠ some .disconnect →
    options.exhausted state.client.reconnectAttempts = false →
      (∃ socket, state.client.Live socket) ∨ 0 < state.client.timers

/-- A client that was told to stop creates no socket by itself. -/
def Stays (options : Options) (state : Watched) : Prop :=
  state.lastCall = some .disconnect → ∀ event after,
    event.calls = [] → step options state.client event = some after →
      after.sockets.length = state.client.sockets.length

/-! ## Conditions of a step -/

/-- The call is not a `connect` that a teardown swallows. -/
def Heard (client : Connection) : UserCall → Prop
  | .connect _ => ¬(client.connecting = true ∧ client.closedByUser = true)
  | .disconnect => True

/-- A call of `connect` ends in an error of the constructor. -/
def throws (client : Connection) (constructed : Bool) : Bool :=
  !constructed && !(client.connecting || client.isConnected)

/-- There is something to go on with. -/
def Covered (options : Options) (opened : Bool) (client : Connection) : Prop :=
  opened = true → options.exhausted client.reconnectAttempts = false →
    hasLive client = true ∨ 0 < client.timers

/--
No `connect` is swallowed, and the constructor throws only when there is
something else to go on with, or no socket was open yet.
-/
def Steady (options : Options) (state : Watched) : Event → Prop
  | .user (.connect constructed) =>
      Heard state.client (.connect constructed) ∧
        (throws state.client constructed = true →
          Covered options state.opened state.client)
  | .timer constructed =>
      state.client.closedByUser = false →
        throws state.client constructed = true →
          Covered options state.opened
            { state.client with timers := state.client.timers - 1 }
  | .closed socket calls =>
      Along Connection.call Heard (state.client.enter socket .closed) calls
  | _ => True

instance (client : Connection) :
    ∀ call : UserCall, Decidable (Heard client call)
  | .connect _ => inferInstanceAs (Decidable
      ¬(client.connecting = true ∧ client.closedByUser = true))
  | .disconnect => inferInstanceAs (Decidable True)

instance (options : Options) (opened : Bool) (client : Connection) :
    Decidable (Covered options opened client) :=
  inferInstanceAs (Decidable (opened = true →
    options.exhausted client.reconnectAttempts = false →
      hasLive client = true ∨ 0 < client.timers))

instance (options : Options) (state : Watched) :
    ∀ event : Event, Decidable (Steady options state event)
  | .user (.connect constructed) =>
      inferInstanceAs (Decidable (Heard state.client (.connect constructed) ∧
        (throws state.client constructed = true →
          Covered options state.opened state.client)))
  | .timer constructed =>
      inferInstanceAs (Decidable (state.client.closedByUser = false →
        throws state.client constructed = true →
          Covered options state.opened
            { state.client with timers := state.client.timers - 1 }))
  | .closed socket calls =>
      inferInstanceAs (Decidable (Along Connection.call Heard
        (state.client.enter socket .closed) calls))
  | .user .disconnect => inferInstanceAs (Decidable True)
  | .opened _ => inferInstanceAs (Decidable True)
  | .message _ => inferInstanceAs (Decidable True)
  | .error _ => inferInstanceAs (Decidable True)

/-! ## Calls -/

section Calls

variable {client : Connection} {constructed : Bool}

/-- `connect` returns at once, creates a socket, or throws. -/
theorem connect_cases (client : Connection) (constructed : Bool) :
    ((client.connecting = true ∨ client.isConnected = true) ∧
        client.connect constructed = client) ∨
      creates client constructed = true ∨
      (throws client constructed = true ∧
        client.connect constructed =
          { client with connecting := false, closedByUser := false }) := by
  by_cases busy : (client.connecting || client.isConnected) = true
  · refine Or.inl ⟨by simpa using busy, ?_⟩
    simp only [Connection.connect, busy, if_true]
  · cases constructed with
    | true => exact Or.inr (Or.inl (by simpa [creates] using busy))
    | false =>
        refine Or.inr (Or.inr ⟨by simpa [throws] using busy, ?_⟩)
        simp only [Connection.connect, busy, Bool.false_eq_true, if_false]

theorem exists_of_isConnected (connected : client.isConnected = true) :
    ∃ socket, client.ws = some socket ∧
      client.sockets[socket]? = some .opened :=
  Option.bind_eq_some_iff.mp (of_decide_eq_true connected)

/-- The flag says what the last call was. -/
structure Heeds (client : Connection) (last : Option UserCall) : Prop where
  closedByUser : client.closedByUser = true ↔ last = some .disconnect
  stored : client.ws ≠ none → client.closedByUser = false

theorem Heeds.call {last : Option UserCall} (heeds : Heeds client last)
    {call : UserCall} (heard : Heard client call) :
    Heeds (client.call call) (some call) := by
  cases call with
  | disconnect =>
      unfold Connection.call Connection.disconnect
      cases stored : client.ws with
      | none => exact ⟨by simp, by simp⟩
      | some socket => exact ⟨by simp, by simp⟩
  | connect constructed =>
      simp only [Connection.call]
      rcases connect_cases client constructed with
        ⟨busy, same⟩ | create | ⟨_, thrown⟩
      · -- a client that returns at once was not told to stop
        have notByUser : client.closedByUser = false := by
          rcases busy with connecting | connected
          · exact Bool.eq_false_iff.mpr fun byUser =>
              heard ⟨connecting, byUser⟩
          · obtain ⟨socket, stored, _⟩ := exists_of_isConnected connected
            exact heeds.stored (by simp [stored])
        rw [same]
        exact ⟨by simp [notByUser], fun _ => notByUser⟩
      · rw [connect_of_creates create]
        exact ⟨by simp, fun _ => rfl⟩
      · rw [thrown]
        exact ⟨by simp, fun _ => rfl⟩

theorem Heeds.foldl {last : Option UserCall} (heeds : Heeds client last)
    {calls : List UserCall}
    (along : Along Connection.call Heard client calls) :
    Heeds (calls.foldl Connection.call client) (lastOf last calls) := by
  induction calls generalizing client last with
  | nil => exact heeds
  | cons call rest ih => exact ih (heeds.call along.1) along.2

/-- A client that counts as connecting has a socket that is. -/
def Pending (client : Connection) : Prop :=
  client.connecting = true → client.closedByUser = false →
    ∃ socket : Nat, client.sockets[socket]? = some .connecting

theorem Pending.connect (pending : Pending client) (constructed : Bool) :
    Pending (client.connect constructed) := by
  rcases connect_cases client constructed with
    ⟨_, same⟩ | create | ⟨_, thrown⟩
  · rw [same]
    exact pending
  · rw [connect_of_creates create]
    exact fun _ _ => ⟨client.sockets.length, by simp⟩
  · rw [thrown]
    exact fun connecting => by cases connecting

/-- `connect` leaves something to go on with, unless the constructor throws. -/
theorem covered_connect {options : Options} {opened : Bool}
    (pending : Pending client)
    (notByUser : client.connecting = true → client.closedByUser = false)
    (thrown : throws client constructed = true →
      Covered options opened client) :
    Covered options opened (client.connect constructed) := by
  rcases connect_cases client constructed with
    ⟨busy, same⟩ | create | ⟨throw, result⟩
  · rw [same]
    intro _ _
    refine Or.inl (hasLive_iff.mpr ?_)
    rcases busy with connecting | connected
    · obtain ⟨socket, isConnecting⟩ :=
        pending connecting (notByUser connecting)
      exact ⟨socket, Or.inl isConnecting⟩
    · obtain ⟨socket, _, isOpen⟩ := exists_of_isConnected connected
      exact ⟨socket, Or.inr isOpen⟩
  · rw [connect_of_creates create]
    intro _ _
    exact Or.inl (by simp [hasLive])
  · rw [result]
    exact thrown throw

/-- A timer connects again without a call of the user. -/
theorem Heeds.again {last : Option UserCall} (heeds : Heeds client last)
    (notByUser : client.closedByUser = false) (constructed : Bool) :
    Heeds (client.connect constructed) last := by
  have notTold : last ≠ some .disconnect := fun told => by
    simp [heeds.closedByUser.mpr told] at notByUser
  have stillNot : (client.connect constructed).closedByUser = false := by
    rcases connect_cases client constructed with
      ⟨_, same⟩ | create | ⟨_, thrown⟩
    · rw [same, notByUser]
    · rw [connect_of_creates create]
    · rw [thrown]
  exact ⟨by simp [stillNot, notTold], fun _ => stillNot⟩

end Calls

/-! ## Steps -/

/-- What holds in every state of a steady run. -/
structure Supervised (options : Options) (state : Watched) : Prop where
  heeds : Heeds state.client state.lastCall
  pending : Pending state.client
  covered : state.client.closedByUser = false →
    Covered options state.opened state.client

namespace Supervised

variable {options : Options} {state after : Watched}

/-- After a `close` event the next attempt is scheduled. -/
theorem covered_handleClose (auto : options.autoReconnect = true)
    (calls : List UserCall) (client : Connection) (opened : Bool)
    (notByUser :
      (calls.foldl Connection.call client).closedByUser = false) :
    Covered options opened (client.handleClose options calls) := by
  simp only [Connection.handleClose, notByUser, auto, Bool.not_false,
    Bool.and_self, if_true]
  unfold Connection.scheduleReconnect
  split
  · next exhausted =>
    intro _ left
    rw [exhausted] at left
    cases left
  · exact fun _ _ => Or.inr (Nat.succ_pos _)

theorem handleClose_fields (options : Options) (calls : List UserCall)
    (client : Connection) :
    (client.handleClose options calls).closedByUser =
        (calls.foldl Connection.call client).closedByUser ∧
      (client.handleClose options calls).ws = none ∧
      (client.handleClose options calls).connecting = false := by
  simp only [Connection.handleClose]
  split
  · unfold Connection.scheduleReconnect
    split <;> exact ⟨rfl, rfl, rfl⟩
  · exact ⟨rfl, rfl, rfl⟩

section Handlers

variable (supervised : Supervised options state)

include supervised

theorem connect {constructed : Bool}
    (heard : Heard state.client (.connect constructed))
    (thrown : throws state.client constructed = true →
      Covered options state.opened state.client) :
    Supervised options ⟨state.client.connect constructed, state.opened,
      some (.connect constructed)⟩ where
  heeds := supervised.heeds.call heard
  pending := supervised.pending.connect constructed
  covered _ := by
    refine covered_connect supervised.pending (fun connecting => ?_) thrown
    exact Bool.eq_false_iff.mpr fun byUser => heard ⟨connecting, byUser⟩

theorem disconnect :
    Supervised options
      ⟨state.client.disconnect, state.opened, some .disconnect⟩ := by
  have heard : Heard state.client .disconnect := trivial
  have heeds : Heeds state.client.disconnect (some .disconnect) :=
    supervised.heeds.call heard
  have byUser : state.client.disconnect.closedByUser = true :=
    heeds.closedByUser.mpr rfl
  exact {
    heeds := heeds
    pending := fun _ notByUser =>
      absurd byUser (Bool.eq_false_iff.mp notByUser)
    covered := fun notByUser =>
      absurd byUser (Bool.eq_false_iff.mp notByUser) }

theorem handleOpen {socket : Nat}
    (connecting : state.client.sockets[socket]? = some .connecting) :
    Supervised options
      ⟨(state.client.enter socket .opened).handleOpen, true,
        state.lastCall⟩ where
  heeds := ⟨supervised.heeds.closedByUser, supervised.heeds.stored⟩
  pending isConnecting := by cases isConnecting
  covered _ _ _ := by
    obtain ⟨bound, _⟩ := List.getElem?_eq_some_iff.mp connecting
    have isOpen : (state.client.enter socket .opened).handleOpen.sockets[
        socket]? = some .opened := by
      simp [Connection.enter, Connection.handleOpen, bound]
    exact Or.inl (hasLive_iff.mpr ⟨socket, Or.inr isOpen⟩)

theorem handleClose (auto : options.autoReconnect = true) {socket : Nat}
    {calls : List UserCall}
    (heard : Along Connection.call Heard (state.client.enter socket .closed)
      calls) :
    Supervised options
      ⟨(state.client.enter socket .closed).handleClose options calls,
        state.opened, lastOf state.lastCall calls⟩ := by
  have entered : Heeds (state.client.enter socket .closed) state.lastCall :=
    ⟨supervised.heeds.closedByUser, supervised.heeds.stored⟩
  have told := entered.foldl heard
  obtain ⟨byUser, ws, connecting⟩ :=
    handleClose_fields options calls (state.client.enter socket .closed)
  exact {
    heeds := ⟨byUser ▸ told.closedByUser, fun stored => absurd ws stored⟩
    pending := fun isConnecting =>
      absurd isConnecting (Bool.eq_false_iff.mp connecting)
    covered := fun notByUser =>
      covered_handleClose auto calls _ _ (byUser ▸ notByUser) }

theorem handleTimer {constructed : Bool}
    (thrown : state.client.closedByUser = false →
      throws state.client constructed = true →
        Covered options state.opened
          { state.client with timers := state.client.timers - 1 }) :
    Supervised options
      ⟨{ state.client with timers := state.client.timers - 1 }.handleTimer
        constructed, state.opened, state.lastCall⟩ := by
  let fired : Connection :=
    { state.client with timers := state.client.timers - 1 }
  have heeds : Heeds fired state.lastCall :=
    ⟨supervised.heeds.closedByUser, supervised.heeds.stored⟩
  have pending : Pending fired := supervised.pending
  cases byUser : state.client.closedByUser with
  | true =>
      have same : fired.handleTimer constructed = fired := by
        simp only [Connection.handleTimer, fired, byUser, if_true]
      rw [same]
      exact ⟨heeds, pending, fun notByUser =>
        absurd byUser (Bool.eq_false_iff.mp notByUser)⟩
  | false =>
      have again : fired.handleTimer constructed =
          fired.connect constructed := by
        simp only [Connection.handleTimer, fired, byUser, Bool.false_eq_true,
          if_false]
      rw [again]
      exact ⟨heeds.again byUser constructed, pending.connect constructed,
        fun _ => covered_connect pending (fun _ => byUser) (thrown byUser)⟩

end Handlers

/-- A steady step keeps the client trying. -/
theorem step (auto : options.autoReconnect = true)
    (supervised : Supervised options state) {event : Event}
    (steady : Steady options state event)
    (stepped : watch options state event = some after) :
    Supervised options after := by
  obtain ⟨client, ran, rfl⟩ := Option.map_eq_some_iff.mp stepped
  cases happens_of_step ran with
  | user call =>
      simp only [opens, Bool.or_false]
      cases call with
      | connect constructed => exact supervised.connect steady.1 steady.2
      | disconnect => exact supervised.disconnect
  | opened connecting =>
      simp only [opens, Bool.or_true]
      exact supervised.handleOpen connecting
  | message _ =>
      simp only [opens, Bool.or_false]
      exact supervised
  | error _ =>
      simp only [opens, Bool.or_false]
      exact supervised
  | closed calls _ =>
      simp only [opens, Bool.or_false]
      exact supervised.handleClose auto steady
  | timer constructed _ =>
      simp only [opens, Bool.or_false]
      exact supervised.handleTimer steady

theorem new : Supervised options .new where
  heeds := ⟨by simp [Watched.new, Connection.new], fun _ => rfl⟩
  pending := fun connecting => by cases connecting
  covered := fun _ opened => by cases opened

theorem tries (supervised : Supervised options state) :
    Tries options state := by
  intro opened notTold left
  have notByUser : state.client.closedByUser = false :=
    Bool.eq_false_iff.mpr fun byUser =>
      notTold (supervised.heeds.closedByUser.mp byUser)
  exact (supervised.covered notByUser opened left).imp_left hasLive_iff.mp

end Supervised

/-! ## After `disconnect` -/

section Stopped

variable {options : Options} {state after : Watched}

/-- The flag is set as long as `disconnect` was the last call. -/
def Told (client : Connection) (last : Option UserCall) : Prop :=
  last = some .disconnect → client.closedByUser = true

theorem told_call (client : Connection) (call : UserCall) :
    Told (client.call call) (some call) := by
  intro isDisconnect
  cases isDisconnect
  unfold Connection.call Connection.disconnect
  cases client.ws <;> rfl

theorem told_foldl {client : Connection} {last : Option UserCall}
    (told : Told client last) (calls : List UserCall) :
    Told (calls.foldl Connection.call client) (lastOf last calls) := by
  induction calls generalizing client last with
  | nil => exact told
  | cons call rest ih => exact ih (told_call client call)

/-- Only the user takes the flag back. -/
theorem told_step (told : Told state.client state.lastCall) {event : Event}
    (stepped : watch options state event = some after) :
    Told after.client after.lastCall := by
  obtain ⟨client, ran, rfl⟩ := Option.map_eq_some_iff.mp stepped
  cases happens_of_step ran with
  | user call => exact told_call state.client call
  | opened _ => exact told
  | message _ => exact told
  | error _ => exact told
  | @closed socket calls _ =>
      have entered : Told (state.client.enter socket .closed)
          state.lastCall := told
      have byUser := (Supervised.handleClose_fields options calls
        (state.client.enter socket .closed)).1
      intro isDisconnect
      exact byUser.trans (told_foldl entered calls isDisconnect)
  | timer constructed _ =>
      intro isDisconnect
      have byUser := told isDisconnect
      simp [Connection.handleTimer, byUser]

/-- While the flag is set, nothing but a call creates a socket. -/
theorem stays_of_told (told : Told state.client state.lastCall) :
    Stays options state := by
  intro isDisconnect event client noCalls stepped
  have byUser := told isDisconnect
  cases happens_of_step stepped with
  | user call => cases noCalls
  | opened _ => exact List.length_set
  | message _ => rfl
  | error _ => rfl
  | closed calls _ =>
      cases noCalls
      rw [sockets_handleClose]
      exact List.length_set
  | timer constructed _ => simp [Connection.handleTimer, byUser]

end Stopped

/-! ## Runs -/

/--
With `autoReconnect`, a client keeps trying in every state of a run in which
no `connect` is swallowed and the constructor throws only beside something to
go on with.  In every run at all, a client that was told to stop stays so.
-/
theorem tries_and_stays (maximum : Option Nat) (state : Watched) :
    (Follows (watch ⟨true, maximum⟩) (Steady ⟨true, maximum⟩) .new state →
      Tries ⟨true, maximum⟩ state) ∧
    (Follows (watch ⟨true, maximum⟩) (fun _ _ => True) .new state →
      Stays ⟨true, maximum⟩ state) := by
  constructor
  · intro run
    exact (run.invariant (Supervised ⟨true, maximum⟩)
      (fun _ _ _ supervised steady stepped =>
        supervised.step rfl steady stepped) .new).tries
  · intro run
    refine stays_of_told (run.invariant
      (fun state => Told state.client state.lastCall)
      (fun _ _ _ told _ stepped => told_step told stepped) ?_)
    exact fun isDisconnect => by cases isDisconnect

theorem tries_reconnected :
    ∃ state, reconnected.foldlM (watch defaults) .new = some state ∧
      Tries defaults state ∧ Stays defaults state := by
  have steady := follows_of_checked
    (fun state event => of_decide_eq_true)
    (show reconnected.foldlM (fun state event =>
      if decide (Steady defaults state event) then
        watch defaults state event
      else none) .new = some _ from rfl)
  have run : Follows (watch defaults) (fun _ _ => True) .new _ :=
    follows_of_foldlM (show
      reconnected.foldlM (watch defaults) .new = some _ from rfl)
  exact ⟨_, rfl, (tries_and_stays (some 10) _).1 steady,
    (tries_and_stays (some 10) _).2 run⟩

/-! ## Giving up -/

/-- The constructor throws in the reconnect timer. -/
def thrownInTimer : List Event :=
  [.user (.connect true), .opened 0, .closed 0 [], .timer false]

/-- The user disconnects and connects again while a socket is connecting. -/
def swallowed : List Event :=
  [.user (.connect true), .opened 0, .closed 0 [], .timer true,
    .user .disconnect, .user (.connect true), .closed 1 []]

theorem not_tries {options : Options} {state : Watched}
    (opened : state.opened = true)
    (notTold : state.lastCall ≠ some .disconnect)
    (left : options.exhausted state.client.reconnectAttempts = false)
    (live : hasLive state.client = false)
    (timers : state.client.timers = 0) : ¬Tries options state := by
  intro tries
  rcases tries opened notTold left with some_ | pending
  · rw [hasLive_iff.mpr some_] at live
    cases live
  · omega

/-- In both runs the client has given up, with nine attempts left. -/
theorem gives_up :
    (∃ state, Follows (watch defaults) (fun _ _ => True) .new state ∧
      thrownInTimer.foldlM (watch defaults) .new = some state ∧
      ¬Tries defaults state) ∧
    ∃ state, Follows (watch defaults) (fun _ _ => True) .new state ∧
      swallowed.foldlM (watch defaults) .new = some state ∧
      ¬Tries defaults state := by
  constructor
  · exact ⟨_, follows_of_foldlM (show
      thrownInTimer.foldlM (watch defaults) .new = some _ from rfl), rfl,
      not_tries rfl (by decide) rfl rfl rfl⟩
  · exact ⟨_, follows_of_foldlM (show
      swallowed.foldlM (watch defaults) .new = some _ from rfl), rfl,
      not_tries rfl (by decide) rfl rfl rfl⟩

end Syncpond.ClientReconnect
