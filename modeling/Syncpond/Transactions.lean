import Syncpond.WriteTasks

/-!
# Transactions and writes

A transaction buffers what `set_fragment` and `del_fragment` are given, so that
`tx_abort` can drop it.  A `WriteFragment` reaches the buffer as well, and then
persists and announces its value as if it were committed.

While no write stores, persists or announces during a transaction, the
transaction is isolated from memory, from the database and from the
subscribers, and an abort leaves all three as the transaction found them.
-/

namespace Syncpond.Transactions

open Syncpond.Protocol
open Syncpond.Serde
open Syncpond.State
open Syncpond.Persistence
open Syncpond.Kernel
open Syncpond.StateRuns
open Syncpond.WriteTasks
open Syncpond.Library.Maps
open Syncpond.Library.Channels
open Syncpond.Library.Runs

variable {Value : Type}

/-! ## Sessions -/

/-- What a transaction should not change. -/
structure Base (Value : Type) where
  fragments : Buckets Value
  /-- The records in the database of the room. -/
  persisted : Db
  /-- All that was put into the notification channel. -/
  announced : List (Sourced (UpdateChannelMessage Value))

/-- Writes on a room, and what its transaction found when it began. -/
structure Session (Value : Type) where
  writers : Writers Value
  /-- The base of the open transaction. -/
  opened : Option (Base Value)
  /-- The base of the transaction that the last event aborted. -/
  aborted : Option (Base Value)

/-- What happens to a room and its transaction, one event at a time. -/
inductive SessionEvent (Value : Type) where
  /-- A `WriteFragment` starts or advances, or the forwarder receives. -/
  | writer (event : WriterEvent)
  /-- A fragment or transaction call on the room. -/
  | call (call : RoomCall Value)

namespace Session

/-- The transactions of a kernel are not tracked before they begin. -/
def start (kernel : SyncpondKernel Value) : Session Value :=
  ⟨.start kernel, none, none⟩

/-- What a transaction finds in a room. -/
def base (roomId : RoomId) (writers : Writers Value)
    (room : RoomState Value) : Base Value where
  fragments := room.buckets
  persisted := (writers.kernel.persistence.dirs[roomDir roomId]?).getD ∅
  announced := writers.delivered ++ writers.kernel.notifications.items

/-- The base of the open transaction after a call that succeeded. -/
def openedAfter (session : Session Value) (found : Base Value) :
    RoomCall Value → Option (Base Value)
  | .txBegin => some found
  | .txEnd => none
  | .txAbort => none
  | .setFragment _ _ _ => session.opened
  | .delFragment _ _ => session.opened

/-- The base of the transaction that a call aborted. -/
def abortedAfter (session : Session Value) :
    RoomCall Value → Option (Base Value)
  | .txAbort => session.opened
  | _ => none

/-- Replace the room in memory. -/
def setRoom (roomId : RoomId) (writers : Writers Value)
    (room : RoomState Value) : Writers Value :=
  { writers with
    kernel := { writers.kernel with
      state := { writers.kernel.state with
        rooms := writers.kernel.state.rooms.insert roomId room } } }

end Session

/-- Memory, database and announcements are as the transaction found them. -/
def Unchanged (roomId : RoomId) (writers : Writers Value)
    (base : Base Value) : Prop :=
  ∃ room, writers.kernel.state.rooms[roomId]? = some room ∧
    Session.base roomId writers room = base

/--
An open transaction changed nothing yet, and one that was just aborted leaves
nothing behind.
-/
structure Isolated (roomId : RoomId) (session : Session Value) : Prop where
  opened : ∀ base, session.opened = some base →
    Unchanged roomId session.writers base
  aborted : ∀ base, session.aborted = some base →
    Unchanged roomId session.writers base

/-- The section of the write stores, persists or announces its value. -/
def acts : WriteStage → Bool
  | .commit => true
  | .persist => true
  | .announce _ => true
  | _ => false

/-- No write stores, persists or announces while the transaction is open. -/
def Excludes (roomId : RoomId) (session : Session Value) :
    SessionEvent Value → Prop
  | .writer (.advance index) =>
      ∀ task, session.writers.tasks[index]? = some task →
        acts task.stage = true →
          ∀ room, session.writers.kernel.state.rooms[roomId]? = some room →
            room.txBuffer = none
  | _ => True

/-! ## What is tracked -/

/-- The transaction is open and isolated. -/
def Tracks (roomId : RoomId) (writers : Writers Value)
    (base : Base Value) : Prop :=
  ∃ room, writers.kernel.state.rooms[roomId]? = some room ∧
    room.txBuffer ≠ none ∧ Session.base roomId writers room = base

theorem Tracks.unchanged {roomId : RoomId} {writers : Writers Value}
    {base : Base Value} (tracks : Tracks roomId writers base) :
    Unchanged roomId writers base := by
  obtain ⟨room, found, _, isBase⟩ := tracks
  exact ⟨room, found, isBase⟩

/-- An open transaction is tracked, an aborted one left nothing. -/
structure Tracked (roomId : RoomId) (session : Session Value) : Prop where
  opened : ∀ base, session.opened = some base →
    Tracks roomId session.writers base
  aborted : ∀ base, session.aborted = some base →
    Unchanged roomId session.writers base

theorem Tracked.start {roomId : RoomId} (kernel : SyncpondKernel Value) :
    Tracked roomId (.start kernel) where
  opened := by simp [Session.start]
  aborted := by simp [Session.start]

/-- Only the room, its database and the announcements matter. -/
theorem Tracks.congr {roomId : RoomId} {writers after : Writers Value}
    {base : Base Value} (tracks : Tracks roomId writers base)
    (rooms : after.kernel.state.rooms[roomId]? =
      writers.kernel.state.rooms[roomId]?)
    (same : ∀ room, Session.base roomId after room =
      Session.base roomId writers room) :
    Tracks roomId after base := by
  obtain ⟨room, found, isOpen, isBase⟩ := tracks
  exact ⟨room, rooms.trans found, isOpen, (same room).trans isBase⟩

theorem Tracks.isOpen {roomId : RoomId} {writers : Writers Value}
    {base : Base Value} {room : RoomState Value}
    (tracks : Tracks roomId writers base)
    (found : writers.kernel.state.rooms[roomId]? = some room) :
    room.txBuffer ≠ none := by
  obtain ⟨other, present, isOpen, _⟩ := tracks
  cases found.symm.trans present
  exact isOpen

theorem Session.lookup_setRoom (roomId : RoomId) (writers : Writers Value)
    (room : RoomState Value) :
    (setRoom roomId writers room).kernel.state.rooms[roomId]? = some room := by
  rw [setRoom, lookup_insert, if_pos rfl]

/-- A call on the room that changes only the buffer of the transaction. -/
theorem Tracks.setRoom {roomId : RoomId} {writers : Writers Value}
    {base : Base Value} {room after : RoomState Value}
    (tracks : Tracks roomId writers base)
    (found : writers.kernel.state.rooms[roomId]? = some room)
    (isOpen : after.txBuffer ≠ none) (buckets : after.buckets = room.buckets) :
    Tracks roomId (Session.setRoom roomId writers after) base := by
  obtain ⟨other, present, _, rfl⟩ := tracks
  cases found.symm.trans present
  refine ⟨after, Session.lookup_setRoom roomId writers after, isOpen, ?_⟩
  simp only [Session.base, Session.setRoom, buckets]

theorem Session.openedAfter_of_stores {session : Session Value}
    {roomCall : RoomCall Value} (stores : roomCall.stores = true)
    {found : Base Value} :
    session.openedAfter found roomCall = session.opened := by
  cases roomCall <;> first | rfl | cases stores

theorem Session.abortedAfter_of_stores {session : Session Value}
    {roomCall : RoomCall Value} (stores : roomCall.stores = true) :
    session.abortedAfter roomCall = none := by
  cases roomCall <;> first | rfl | cases stores

/-- The forwarder moves a message, and takes none away. -/
theorem base_deliver {roomId : RoomId} {writers after : Writers Value}
    (delivered : writers.deliver = some after) :
    after.kernel.state = writers.kernel.state ∧
      ∀ room, Session.base roomId after room =
        Session.base roomId writers room := by
  obtain ⟨⟨message, rest⟩, received, rfl⟩ :=
    Option.map_eq_some_iff.mp delivered
  refine ⟨rfl, fun room => ?_⟩
  simp [Session.base, Channel.recv_eq_some_iff.mp received]

variable [SerdeJson Value]

/-! ## Events -/

namespace Session

/-- Execute a call; one that fails changes nothing. -/
def call (roomId : RoomId) (session : Session Value)
    (roomCall : RoomCall Value) : Session Value :=
  match session.writers.kernel.state.rooms[roomId]? with
  | none => { session with aborted := none }
  | some room =>
      match roomCall.run room with
      | .error _ => { session with aborted := none }
      | .ok after =>
          { writers := setRoom roomId session.writers after
            opened :=
              session.openedAfter (base roomId session.writers room) roomCall
            aborted := session.abortedAfter roomCall }

/-- The session after an event, if it can happen. -/
def step (roomId : RoomId) (session : Session Value) :
    SessionEvent Value → Option (Session Value)
  | .writer event =>
      (session.writers.step roomId event).map fun writers =>
        { session with writers := writers, aborted := none }
  | .call roomCall => some (session.call roomId roomCall)

end Session

omit [SerdeJson Value] in
/-- Opening a database adds no records. -/
theorem records_openRoomDb (manager : PersistenceManager) (roomId : RoomId)
    (name : String) :
    ((manager.openRoomDb .none roomId).1.dirs[name]?).getD ∅ =
      (manager.dirs[name]?).getD ∅ := by
  unfold PersistenceManager.openRoomDb
  split
  · rfl
  · simp only [Faults.none, lookup_insertIfNew]
    split
    · next created =>
      obtain ⟨rfl, absent⟩ := created
      rw [Std.ExtTreeMap.getElem?_eq_none absent]
      rfl
    · rfl

/-- The other sections of a write change no room, record or announcement. -/
theorem advance_of_not_acts {roomId : RoomId} {task : WriteTask}
    (waits : acts task.stage = false) (kernel : SyncpondKernel Value) :
    (task.advance roomId kernel).2.state = kernel.state ∧
      (task.advance roomId kernel).2.notifications = kernel.notifications ∧
      ∀ name : String,
        ((task.advance roomId kernel).2.persistence.dirs[name]?).getD ∅ =
          (kernel.persistence.dirs[name]?).getD ∅ := by
  cases stage : task.stage with
  | openDb =>
      simp only [WriteTask.advance, stage, true_and]
      exact records_openRoomDb kernel.persistence roomId
  | commit => simp [stage, acts] at waits
  | persist => simp [stage, acts] at waits
  | announce roomCounter => simp [stage, acts] at waits
  | _ => simp [WriteTask.advance, stage]

/-- A write that advances leaves an open transaction as it is. -/
theorem Tracks.advance {roomId : RoomId} {writers after : Writers Value}
    {base : Base Value} {index : Nat} (tracks : Tracks roomId writers base)
    (excludes : ∀ task, writers.tasks[index]? = some task →
      acts task.stage = true →
        ∀ room, writers.kernel.state.rooms[roomId]? = some room →
          room.txBuffer = none)
    (advanced : writers.advance roomId index = some after) :
    Tracks roomId after base := by
  obtain ⟨task, found, _, rfl⟩ := Writers.advance_eq_some advanced
  cases isActing : acts task.stage with
  | false =>
      obtain ⟨state, notifications, records⟩ :=
        advance_of_not_acts isActing writers.kernel
      refine tracks.congr (by rw [state]) fun room => ?_
      simp only [Session.base, notifications, records]
  | true =>
      obtain ⟨room, present, isOpen, _⟩ := tracks
      exact absurd (excludes task found isActing room present) isOpen

namespace Tracked

variable {roomId : RoomId} {session : Session Value}
variable (tracked : Tracked roomId session)

include tracked

omit [SerdeJson Value] in
theorem isolated : Isolated roomId session where
  opened base isOpened := (tracked.opened base isOpened).unchanged
  aborted := tracked.aborted

theorem writer {event : WriterEvent} {writers : Writers Value}
    (excludes : Excludes roomId session (.writer event))
    (stepped : session.writers.step roomId event = some writers) :
    Tracked roomId { session with writers := writers, aborted := none } where
  opened base isOpened := by
    have tracks := tracked.opened base isOpened
    cases event with
    | write bucketId key data =>
        cases stepped
        exact tracks.congr rfl fun _ => rfl
    | advance index => exact tracks.advance excludes stepped
    | deliver =>
        obtain ⟨state, same⟩ := base_deliver stepped
        exact tracks.congr (by rw [state]) same
  aborted base isAborted := by cases isAborted

omit [SerdeJson Value] in
theorem failed : Tracked roomId { session with aborted := none } where
  opened := tracked.opened
  aborted base isAborted := by cases isAborted

/-- A call opens, fills, commits or aborts a transaction, or stores. -/
theorem call (roomCall : RoomCall Value) :
    Tracked roomId (session.call roomId roomCall) := by
  unfold Session.call
  split
  · exact tracked.failed
  next room found =>
    split
    · exact tracked.failed
    next after result =>
      rcases call_cases result with
        ⟨stores, _, buffer, command, _, rfl⟩ | ⟨stores, _, closed, _⟩ |
        ⟨rfl, _, rfl⟩ | ⟨rfl, _⟩ | ⟨rfl, rfl⟩
      · rw [Session.openedAfter_of_stores stores,
          Session.abortedAfter_of_stores stores]
        refine ⟨fun base isOpened => ?_, fun _ isAborted => by cases isAborted⟩
        exact (tracked.opened base isOpened).setRoom found (by simp) rfl
      · rw [Session.openedAfter_of_stores stores,
          Session.abortedAfter_of_stores stores]
        refine ⟨fun base isOpened => ?_, fun _ isAborted => by cases isAborted⟩
        exact absurd closed ((tracked.opened base isOpened).isOpen found)
      · refine ⟨fun base isOpened => ?_, fun _ isAborted => by cases isAborted⟩
        cases isOpened
        exact ⟨_, Session.lookup_setRoom _ _ _, by simp, rfl⟩
      · constructor
        · intro base isOpened
          cases isOpened
        · intro base isAborted
          cases isAborted
      · constructor
        · intro base isOpened
          cases isOpened
        · intro base isAborted
          obtain ⟨other, present, _, isBase⟩ := tracked.opened base isAborted
          cases found.symm.trans present
          exact ⟨_, Session.lookup_setRoom _ _ _, isBase⟩

theorem step {event : SessionEvent Value} {after : Session Value}
    (excludes : Excludes roomId session event)
    (stepped : session.step roomId event = some after) :
    Tracked roomId after := by
  cases event with
  | writer event =>
      obtain ⟨writers, ran, rfl⟩ := Option.map_eq_some_iff.mp stepped
      exact tracked.writer excludes ran
  | call roomCall =>
      cases stepped
      exact tracked.call roomCall

end Tracked

/--
In every run in which the sections of writes exclude open transactions, every
open transaction is isolated, and an abort leaves nothing behind.
-/
theorem transactions_isolated {roomId : RoomId}
    {kernel : SyncpondKernel Value} {session : Session Value}
    (run : Follows (Session.step roomId) (Excludes roomId) (.start kernel)
      session) :
    Isolated roomId session :=
  (run.invariant (Tracked roomId)
    (fun _ _ _ tracked excludes stepped => tracked.step excludes stepped)
    (.start kernel)).isolated

/-! ## Example runs -/

/-- `Excludes`, as a check. -/
def excludesCheck (roomId : RoomId) (session : Session Value) :
    SessionEvent Value → Bool
  | .writer (.advance index) =>
      session.writers.tasks[index]?.all fun task =>
        !acts task.stage ||
          session.writers.kernel.state.rooms[roomId]?.all
            fun room => room.txBuffer.isNone
  | _ => true

omit [SerdeJson Value] in
theorem excludes_of_check (roomId : RoomId) (session : Session Value)
    (event : SessionEvent Value)
    (checked : excludesCheck roomId session event = true) :
    Excludes roomId session event := by
  cases event with
  | call roomCall => trivial
  | writer event =>
      cases event with
      | advance index =>
          intro task found isActing room present
          simpa [excludesCheck, found, isActing, present] using checked
      | _ => trivial

def oneRoom : SyncpondKernel Json :=
  run (boot .none ∅) [.command (.newRoom "room")]

/-- A write starts in a transaction, and goes on after its abort. -/
def waitingWrite : List (SessionEvent Json) :=
  [.call .txBegin, .call (.setFragment 5 "key" (.bool true)),
    .writer (.write 5 "key" "1".toUTF8), .writer (.advance 0),
    .call .txAbort] ++ List.replicate 6 (.writer (.advance 0))

theorem transactions_isolated_waitingWrite :
    ∃ session,
      Follows (Session.step 1) (Excludes 1) (.start oneRoom) session ∧
        session.writers.kernel.notifications.items.length = 1 ∧
        Isolated 1 session := by
  have ran : (waitingWrite.foldlM (fun session event =>
      if excludesCheck 1 session event then session.step 1 event else none)
        (.start oneRoom)).map
          (fun session => session.writers.kernel.notifications.items.length) =
      some 1 := by
    decide +kernel
  obtain ⟨session, ran, announced⟩ := Option.map_eq_some_iff.mp ran
  have follows := follows_of_checked (excludes_of_check 1) ran
  exact ⟨session, follows, announced, transactions_isolated follows⟩

/-- A write in a transaction that is aborted afterwards. -/
def abortedWrite : List (SessionEvent Json) :=
  [.call .txBegin, .writer (.write 5 "key" "1".toUTF8)] ++
    List.replicate 7 (.writer (.advance 0)) ++ [.call .txAbort]

/-- The aborted value was announced, and stays on disk. -/
theorem abortedWrite_announced :
    ¬ ∀ session,
      Follows (Session.step 1) (fun _ _ => True) (.start oneRoom) session →
        Isolated 1 session := by
  intro claimed
  have ran : (abortedWrite.foldlM (Session.step 1) (.start oneRoom)).map
      (fun session => (session.aborted.map (fun base => base.announced.length),
        session.writers.delivered.length +
          session.writers.kernel.notifications.items.length)) =
      some (some 0, 1) := by
    decide +kernel
  obtain ⟨session, ran, observed⟩ := Option.map_eq_some_iff.mp ran
  simp only [Prod.mk.injEq, Option.map_eq_some_iff] at observed
  obtain ⟨⟨base, isAborted, isEmpty⟩, announced⟩ := observed
  obtain ⟨room, _, rfl⟩ :=
    (claimed session (follows_of_foldlM ran)).aborted base isAborted
  rw [Session.base, List.length_append, announced] at isEmpty
  cases isEmpty

end Syncpond.Transactions
