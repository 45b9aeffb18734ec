import Syncpond.Kernel
import Syncpond.Library.Runs

/-!
# Runs of the application state

`AppCall` lists everything in the source that changes the rooms of an
`AppState`: its own methods, the in-memory effects of the kernel commands, and
the registration of stubs at startup.  A call that fails leaves the state
unchanged.  A run *fits* when no room counter wraps.

The version invariant: every fragment of a reachable state has a version that
is at most the counter of its room.
-/

namespace Syncpond.StateRuns

open Syncpond.Protocol
open Syncpond.Serde
open Syncpond.State
open Syncpond.Kernel
open Syncpond.Library.Maps
open Syncpond.Library.Runs

variable {Value : Type} [SerdeJson Value]

/-! ## Calls -/

/-- The fragment and transaction calls on one room. -/
inductive RoomCall (Value : Type) where
  | setFragment (bucketId : BucketId) (key : String) (value : Value)
  | delFragment (bucketId : BucketId) (key : String)
  | txBegin
  | txEnd
  | txAbort

namespace RoomCall

/-- The result of a call. -/
def run (room : RoomState Value) :
    RoomCall Value → Except StateError (RoomState Value)
  | .setFragment bucketId key value => room.setFragment bucketId key value
  | .delFragment bucketId key => room.delFragment bucketId key
  | .txBegin => room.txBegin
  | .txEnd => room.txEnd
  | .txAbort => room.txAbort

/-- The call sets or deletes a fragment. -/
def stores : RoomCall Value → Bool
  | .setFragment .. => true
  | .delFragment .. => true
  | _ => false

/-- How often a call may increment the room counter. -/
def writes (room : RoomState Value) : RoomCall Value → Nat
  | .setFragment .. => 1
  | .delFragment .. => 1
  | .txBegin => 0
  | .txEnd => (room.txBuffer.getD []).length
  | .txAbort => 0

end RoomCall

/-- Everything in the source that changes the rooms of the state. -/
inductive AppCall (Value : Type) where
  | createRoom
  | registerExisting (existing : List RoomId)
  | loadRoomData (roomId : RoomId)
      (bucketDefs : List (BucketId × Option String × UInt32))
      (members : FinSet String)
      (fragments : Map BucketId (Map String Value))
  | unloadRoom (roomId : RoomId)
  | deleteRoom (roomId : RoomId)
  | setRoomLabel (roomId : RoomId) (label : String)
  | setBucketLabel (roomId : RoomId) (bucketId : BucketId) (label : String)
  | setBucketFlags (roomId : RoomId) (bucketId : BucketId) (flags : UInt32)
  | setBucketFlagBit (roomId : RoomId) (bucketId : BucketId)
      (flagMask : UInt32) (enabled : Bool)
  | addMember (roomId : RoomId) (member : String)
  | removeMember (roomId : RoomId) (member : String)
  | onRoom (roomId : RoomId) (call : RoomCall Value)
  | newBucket (roomId : RoomId) (bucketId : BucketId) (label : String)
  | deleteBucket (roomId : RoomId) (bucketId : BucketId)
  | newMember (roomId : RoomId) (member : String)
  | deleteMember (roomId : RoomId) (member : String)
  /-- Any change of the JWT settings. -/
  | configureJwt (jwtKey : Option String) (jwtTtlSeconds : UInt64)
      (jwtIssuer jwtAudience : Option String)
      (lastJwtIssueSeconds : Option UInt64)

/-- The state after a call that may fail. -/
def orUnchanged (app : AppState Value)
    (result : Except StateError (AppState Value)) : AppState Value :=
  match result with
  | .ok changed => changed
  | .error _ => app

/-- A kernel effect, which an unloaded room refuses. -/
def applyEffect (app : AppState Value) (roomId : RoomId)
    (effect : RoomState Value → RoomState Value) : AppState Value :=
  orUnchanged app
    (app.withRoom roomId fun room =>
      if room.loaded then .ok (effect room) else .error .roomNotLoaded)

namespace AppCall

/-- The state after a call. -/
def run (app : AppState Value) : AppCall Value → AppState Value
  | .createRoom => app.createRoom.1
  | .registerExisting existing => Syncpond.Kernel.registerExisting app existing
  | .loadRoomData roomId bucketDefs members fragments =>
      orUnchanged app (app.loadRoomData roomId bucketDefs members fragments)
  | .unloadRoom roomId => orUnchanged app (app.unloadRoom roomId)
  | .deleteRoom roomId => orUnchanged app (app.deleteRoom roomId)
  | .setRoomLabel roomId label =>
      orUnchanged app (app.setRoomLabel roomId label)
  | .setBucketLabel roomId bucketId label =>
      orUnchanged app (app.setBucketLabel roomId bucketId label)
  | .setBucketFlags roomId bucketId flags =>
      orUnchanged app (app.setBucketFlags roomId bucketId flags)
  | .setBucketFlagBit roomId bucketId flagMask enabled =>
      orUnchanged app (app.setBucketFlagBit roomId bucketId flagMask enabled)
  | .addMember roomId member => orUnchanged app (app.addMember roomId member)
  | .removeMember roomId member =>
      orUnchanged app (app.removeMember roomId member)
  | .onRoom roomId call => orUnchanged app (app.withRoom roomId call.run)
  | .newBucket roomId bucketId label =>
      applyEffect app roomId (RoomEffect.newBucket bucketId label)
  | .deleteBucket roomId bucketId =>
      applyEffect app roomId (RoomEffect.deleteBucket bucketId)
  | .newMember roomId member =>
      applyEffect app roomId (RoomEffect.newMember member)
  | .deleteMember roomId member =>
      applyEffect app roomId (RoomEffect.deleteMember member)
  | .configureJwt jwtKey jwtTtlSeconds jwtIssuer jwtAudience
      lastJwtIssueSeconds =>
      { app with
        jwtKey := jwtKey
        jwtTtlSeconds := jwtTtlSeconds
        jwtIssuer := jwtIssuer
        jwtAudience := jwtAudience
        lastJwtIssueSeconds := lastJwtIssueSeconds }

/-- The call does not make the counter of its room wrap. -/
def Fits (app : AppState Value) : AppCall Value → Prop
  | .onRoom roomId call =>
      ∀ room, app.rooms[roomId]? = some room →
        room.roomCounter.toNat + call.writes room < UInt64.size
  | _ => True

end AppCall

/-- A state reached from the empty state without a counter wrapping. -/
def Reachable (app : AppState Value) : Prop :=
  ∃ calls : List (AppCall Value),
    Along AppCall.run AppCall.Fits .new calls ∧
      app = calls.foldl AppCall.run .new

/-! ## How calls change one room -/

omit [SerdeJson Value] in
/-- A change of a room that succeeds found the room. -/
theorem withRoom_ok
    {app changed : AppState Value} {roomId : RoomId}
    {mutate : RoomState Value → Except StateError (RoomState Value)}
    (result : app.withRoom roomId mutate = .ok changed) :
    ∃ room after, app.rooms[roomId]? = some room ∧
      mutate room = .ok after ∧
        changed = { app with rooms := app.rooms.insert roomId after } := by
  unfold AppState.withRoom at result
  cases present : app.rooms[roomId]? with
  | none => simp [present] at result
  | some room =>
      cases mutated : mutate room with
      | error error => simp [present, mutated, Except.map] at result
      | ok after =>
          refine ⟨room, after, rfl, mutated, ?_⟩
          simpa [present, mutated, Except.map] using result.symm

omit [SerdeJson Value] in
/-- A property of rooms that a mutation keeps is kept by the lifted mutation. -/
theorem forall_rooms_withRoom
    {property : RoomState Value → Prop} {app : AppState Value}
    (roomId : RoomId)
    (mutate : RoomState Value → Except StateError (RoomState Value))
    (preserved : ∀ room after, app.rooms[roomId]? = some room →
      property room → mutate room = .ok after → property after)
    (rooms : ∀ (id : RoomId) (room : RoomState Value),
      app.rooms[id]? = some room → property room) :
    ∀ (id : RoomId) (room : RoomState Value),
      (orUnchanged app (app.withRoom roomId mutate)).rooms[id]? = some room →
        property room := by
  intro id room found
  cases result : app.withRoom roomId mutate with
  | error error =>
      rw [result] at found
      exact rooms id room found
  | ok changed =>
      obtain ⟨before, after, present, mutated, rfl⟩ := withRoom_ok result
      rw [result] at found
      simp only [orUnchanged, lookup_insert] at found
      split at found
      · cases Option.some.inj found
        exact preserved before _ present (rooms roomId before present)
          mutated
      · exact rooms id room found

/-! ### What a call on a room does -/

/-- A call that succeeds does one of five things. -/
theorem call_cases {room after : RoomState Value} {call : RoomCall Value}
    (result : call.run room = .ok after) :
    (call.stores = true ∧ room.loaded = true ∧
        ∃ buffer command, room.txBuffer = some buffer ∧
          after = { room with txBuffer := some (buffer ++ [command]) }) ∨
      (call.stores = true ∧ room.loaded = true ∧ room.txBuffer = none ∧
        ∃ bucketId key value, after = room.store bucketId key value) ∨
      (call = .txBegin ∧ room.txBuffer = none ∧
        after = { room with txBuffer := some [] }) ∨
      (call = .txEnd ∧ room.ioLocked = false ∧
        ∃ buffer, room.txBuffer = some buffer ∧
          after = buffer.foldl RoomState.applyCommand
            { room with txBuffer := none }) ∨
      (call = .txAbort ∧ after = { room with txBuffer := none }) := by
  cases call with
  | setFragment bucketId key value =>
      simp only [RoomCall.run, RoomState.setFragment] at result
      split at result
      · cases result
      split at result
      · cases result
      · next resident =>
        have isLoaded : room.loaded = true := by simpa using resident
        split at result
        · next buffer opened =>
          cases result
          exact Or.inl ⟨rfl, isLoaded, buffer, _, opened, rfl⟩
        · next closed =>
          cases result
          exact Or.inr (Or.inl ⟨rfl, isLoaded, closed, _, _, _, rfl⟩)
  | delFragment bucketId key =>
      simp only [RoomCall.run, RoomState.delFragment] at result
      split at result
      · cases result
      split at result
      · cases result
      · next resident =>
        have isLoaded : room.loaded = true := by simpa using resident
        split at result
        · next buffer opened =>
          cases result
          exact Or.inl ⟨rfl, isLoaded, buffer, _, opened, rfl⟩
        · next closed =>
          split at result
          · cases result
            exact Or.inr (Or.inl ⟨rfl, isLoaded, closed, _, _, _, rfl⟩)
          · cases result
  | txBegin =>
      simp only [RoomCall.run, RoomState.txBegin] at result
      split at result
      · cases result
      split at result
      · cases result
      · next closed =>
        cases result
        exact Or.inr (Or.inr (Or.inl ⟨rfl, by simpa using closed, rfl⟩))
  | txEnd =>
      simp only [RoomCall.run, RoomState.txEnd] at result
      split at result
      · cases result
      · next unlocked =>
        split at result
        · cases result
        · next buffer opened =>
          cases result
          exact Or.inr (Or.inr (Or.inr (Or.inl
            ⟨rfl, by simpa using unlocked, buffer, opened, rfl⟩)))
  | txAbort =>
      simp only [RoomCall.run, RoomState.txAbort] at result
      split at result
      · cases result
      · cases result
        exact Or.inr (Or.inr (Or.inr (Or.inr ⟨rfl, rfl⟩)))

/-! ### What the calls on buckets and members change -/

section Changes

variable {room after : RoomState Value}

omit [SerdeJson Value] in
/-- Only a bucket that the room has is changed. -/
theorem onBucket_eq_ok {bucketId : BucketId}
    {change : RoomState Value → RoomState Value}
    (result : room.onBucket bucketId change = .ok after) :
    bucketId ∈ room.buckets ∧ after = change room := by
  unfold RoomState.onBucket at result
  split at result
  · cases result
  split at result
  · next present =>
    cases result
    exact ⟨Std.ExtTreeMap.mem_iff_contains.mpr present, rfl⟩
  · cases result

omit [SerdeJson Value] in
theorem addMember_eq_ok {member : String}
    (result : room.addMember member = .ok after) :
    room.loaded = true ∧
      after = { room with members := room.members.insert member } := by
  unfold RoomState.addMember at result
  split at result
  · cases result
  split at result
  · cases result
  · next isLoaded =>
    cases result
    exact ⟨by simpa using isLoaded, rfl⟩

omit [SerdeJson Value] in
theorem removeMember_eq_ok {member : String}
    (result : room.removeMember member = .ok after) :
    room.loaded = true ∧
      after = { room with members := room.members.erase member } := by
  unfold RoomState.removeMember at result
  split at result
  · cases result
  split at result
  · cases result
  · next isLoaded =>
    split at result
    · cases result
      exact ⟨by simpa using isLoaded, rfl⟩
    · cases result

end Changes

/-! ## The version invariant -/

/-- Every fragment has a version that is at most the room counter. -/
def VersionsBounded (room : RoomState Value) : Prop :=
  ∀ bucketId key entry,
    getNested room.buckets bucketId key = some entry →
      entry.keyVersion ≤ room.roomCounter

/--
What a room looks like after some calls, seen from an earlier version `base`
with content `old`: a fragment is either unchanged or newer than `base`.
-/
structure Advances (base : UInt64) (old : Buckets Value)
    (room : RoomState Value) : Prop where
  counter : base ≤ room.roomCounter
  bounded : VersionsBounded room
  changed : ∀ bucketId key,
    getNested room.buckets bucketId key = getNested old bucketId key ∨
      ∃ entry, getNested room.buckets bucketId key = some entry ∧
        base < entry.keyVersion

namespace Advances

variable {base : UInt64} {old : Buckets Value} {room after : RoomState Value}

omit [SerdeJson Value] in
theorem refl (bounded : VersionsBounded room) :
    Advances room.roomCounter room.buckets room where
  counter := UInt64.le_refl _
  bounded := bounded
  changed := fun _ _ => Or.inl rfl

omit [SerdeJson Value] in
/-- Only the counter and the buckets matter. -/
theorem congr (advances : Advances base old room)
    (counter : after.roomCounter = room.roomCounter)
    (buckets : after.buckets = room.buckets) :
    Advances base old after where
  counter := counter ▸ advances.counter
  bounded := by
    intro bucketId key entry found
    rw [buckets] at found
    rw [counter]
    exact advances.bounded bucketId key entry found
  changed := by
    rw [buckets]
    exact advances.changed

omit [SerdeJson Value] in
/-- A value that is stored carries the next version. -/
theorem store (advances : Advances base old room)
    (fits : room.roomCounter.toNat + 1 < UInt64.size)
    (bucketId : BucketId) (key : String) (value : Value) :
    Advances base old (room.store bucketId key value) where
  counter := UInt64.le_of_lt
    (UInt64.lt_of_le_of_lt advances.counter (lt_succ fits))
  bounded := by
    intro otherBucket otherKey entry found
    simp only [RoomState.store, getNested_insertNested] at found ⊢
    split at found
    · cases Option.some.inj found
      exact UInt64.le_refl _
    · exact UInt64.le_of_lt (UInt64.lt_of_le_of_lt
        (advances.bounded _ _ _ found) (lt_succ fits))
  changed := by
    intro otherBucket otherKey
    simp only [RoomState.store, getNested_insertNested]
    split
    · exact Or.inr ⟨_, rfl,
        UInt64.lt_of_le_of_lt advances.counter (lt_succ fits)⟩
    · exact advances.changed otherBucket otherKey

/-- A buffered command stores one fragment. -/
theorem applyCommand (advances : Advances base old room)
    (fits : room.roomCounter.toNat + 1 < UInt64.size)
    (command : RoomCommand Value) :
    Advances base old (room.applyCommand command) := by
  cases command with
  | set bucketId key value => exact advances.store fits bucketId key value
  | del bucketId key => exact advances.store fits bucketId key _

theorem roomCounter_applyCommand (room : RoomState Value)
    (command : RoomCommand Value) :
    (room.applyCommand command).roomCounter = room.roomCounter + 1 := by
  cases command <;> rfl

/-- Committing a buffer stores its commands in order. -/
theorem applyCommands (advances : Advances base old room)
    (buffer : List (RoomCommand Value))
    (fits : room.roomCounter.toNat + buffer.length < UInt64.size) :
    Advances base old (buffer.foldl RoomState.applyCommand room) := by
  induction buffer generalizing room with
  | nil => exact advances
  | cons command rest ih =>
      rw [List.length_cons] at fits
      have headFits : room.roomCounter.toNat + 1 < UInt64.size := by omega
      apply ih (advances.applyCommand headFits command)
      rw [roomCounter_applyCommand, toNat_succ headFits]
      omega

omit [SerdeJson Value] in
/-- A call that stores writes once. -/
theorem writes_of_stores {call : RoomCall Value}
    (stores : call.stores = true) : call.writes room = 1 := by
  cases call <;> first | rfl | cases stores

/-- A successful call on the room advances it. -/
theorem call (advances : Advances base old room) (call : RoomCall Value)
    (fits : room.roomCounter.toNat + call.writes room < UInt64.size)
    (result : call.run room = .ok after) :
    Advances base old after := by
  rcases call_cases result with ⟨_, _, _, _, _, rfl⟩ |
    ⟨stores, _, _, bucketId, key, value, rfl⟩ | ⟨_, _, rfl⟩ |
    ⟨rfl, _, buffer, opened, rfl⟩ | ⟨_, rfl⟩
  · exact advances.congr rfl rfl
  · rw [writes_of_stores stores] at fits
    exact advances.store fits bucketId key value
  · exact advances.congr rfl rfl
  · have closed : Advances base old { room with txBuffer := none } :=
      advances.congr rfl rfl
    apply closed.applyCommands buffer
    simpa [RoomCall.writes, opened] using fits
  · exact advances.congr rfl rfl

end Advances

omit [SerdeJson Value] in
theorem versionsBounded_of_buckets_empty {room : RoomState Value}
    (empty : room.buckets = ∅) : VersionsBounded room := by
  intro bucketId key entry found
  simp [empty] at found

omit [SerdeJson Value] in
/-- Loading installs every fragment under version zero. -/
theorem keyVersion_loadData {room : RoomState Value}
    {bucketDefs : List (BucketId × Option String × UInt32)}
    {members : FinSet String} {fragments : Map BucketId (Map String Value)}
    {bucketId : BucketId} {key : String} {entry : FragmentEntry Value}
    (found : getNested
      (room.loadData bucketDefs members fragments).buckets bucketId key =
        some entry) :
    entry.keyVersion = 0 := by
  have installed : ∀ (start : RoomState Value),
      (∀ bucketId key entry,
        getNested start.buckets bucketId key = some entry →
          entry.keyVersion = 0) →
      ∀ bucketId key entry,
        getNested (bucketDefs.foldl (RoomState.installBucket fragments)
          start).buckets bucketId key = some entry →
            entry.keyVersion = 0 := by
    intro start initial
    refine foldl_invariant
      (fun room : RoomState Value => ∀ bucketId key entry,
        getNested room.buckets bucketId key = some entry →
          entry.keyVersion = 0) ?_ bucketDefs initial
    rintro room ⟨id, label, flags⟩ holds bucketId key entry found
    simp only [RoomState.installBucket, getNested, lookup_insert] at found
    split at found
    · simp only [Option.bind_some, RoomState.loadedEntries,
        Std.ExtTreeMap.getElem?_map, Option.map_eq_some_iff] at found
      obtain ⟨_, _, rfl⟩ := found
      rfl
    · exact holds bucketId key entry found
  exact installed _ (by simp) bucketId key entry found

omit [SerdeJson Value] in
theorem getNested_newBucket {room : RoomState Value}
    {created bucketId : BucketId} {label key : String}
    {entry : FragmentEntry Value}
    (found : getNested (RoomEffect.newBucket created label room).buckets
      bucketId key = some entry) :
    getNested room.buckets bucketId key = some entry := by
  simp only [RoomEffect.newBucket, getNested, Std.ExtTreeMap.getElem?_insertIfNew] at found ⊢
  split at found
  · simp at found
  · exact found

omit [SerdeJson Value] in
theorem getNested_deleteBucket {room : RoomState Value}
    {deleted bucketId : BucketId} {key : String}
    {entry : FragmentEntry Value}
    (found : getNested (RoomEffect.deleteBucket deleted room).buckets
      bucketId key = some entry) :
    getNested room.buckets bucketId key = some entry := by
  simp only [RoomEffect.deleteBucket, getNested, lookup_erase] at found ⊢
  split at found
  · simp at found
  · exact found

omit [SerdeJson Value] in
/-- The rooms after some of them were registered. -/
theorem lookup_foldl_registerStub (app : AppState Value)
    (existing : List RoomId) (id : RoomId) :
    (existing.foldl registerStub app).rooms[id]? =
      if id ∈ existing then some (.fresh false) else app.rooms[id]? := by
  induction existing generalizing app with
  | nil => simp
  | cons roomId rest ih =>
      rw [List.foldl_cons, ih, registerStub, lookup_insert]
      by_cases later : id ∈ rest
      · simp [later]
      · by_cases now : roomId = id
        · simp [later, now]
        · have other : id ≠ roomId := fun equal => now equal.symm
          simp [later, now, other]

omit [SerdeJson Value] in
/-- Registering rooms replaces them by unloaded stubs. -/
theorem lookup_registerExisting (app : AppState Value)
    (existing : List RoomId) (id : RoomId) :
    (registerExisting app existing).rooms[id]? =
      if id ∈ existing then some (.fresh false) else app.rooms[id]? := by
  have rooms : (registerExisting app existing).rooms =
      (existing.foldl registerStub app).rooms := by
    unfold registerExisting
    grind
  rw [rooms, lookup_foldl_registerStub]

omit [SerdeJson Value] in
/-- A label of a room changes no room. -/
theorem rooms_setRoomLabel (app : AppState Value) (roomId : RoomId)
    (label : String) :
    (orUnchanged app (app.setRoomLabel roomId label)).rooms = app.rooms := by
  cases labelled : app.setRoomLabel roomId label with
  | ok after =>
      obtain ⟨labels, rfl⟩ := exists_setRoomLabel_eq labelled
      rfl
  | error error => rfl

/-! ### Applied operations -/

/-- How many operations a call applies to the fragments of its room. -/
def appliedTo (room : RoomState Value) (call : RoomCall Value) : Nat :=
  match call.run room with
  | .error _ => 0
  | .ok _ =>
      match call with
      | .setFragment .. | .delFragment .. =>
          if room.txBuffer.isSome then 0 else 1
      | .txEnd => (room.txBuffer.getD []).length
      | .txBegin | .txAbort => 0

/-- How many operations a call applies to the fragments of a room. -/
def applied (roomId : RoomId) (app : AppState Value) : AppCall Value → Nat
  | .onRoom target call =>
      if target = roomId then
        app.rooms[roomId]?.elim 0 fun room => appliedTo room call
      else 0
  | _ => 0

/-- Every operation that the call applies finds its counter below the limit. -/
def Below (app : AppState Value) : AppCall Value → Prop
  | .onRoom roomId call =>
      ∀ room, app.rooms[roomId]? = some room →
        room.roomCounter.toNat + appliedTo room call < UInt64.size
  | _ => True

/-- The call creates, registers or deletes the room. -/
def Replaces (roomId : RoomId) (app : AppState Value) :
    AppCall Value → Prop
  | .createRoom => app.nextRoomId = roomId
  | .registerExisting existing => roomId ∈ existing
  | .deleteRoom deleted => deleted = roomId
  | _ => False

/-! ### What a call does to one room -/

/--
Fragments of a room are dropped or replaced by loaded ones, and then a number
of operations is applied.
-/
def Changes (count : Nat) (room after : RoomState Value) : Prop :=
  ∃ (start : RoomState Value) (commands : List (RoomCommand Value)),
    start.roomCounter = room.roomCounter ∧
      (∀ bucketId key entry,
        getNested start.buckets bucketId key = some entry →
          getNested room.buckets bucketId key = some entry ∨
            entry.keyVersion = 0) ∧
      commands.length = count ∧
      after = commands.foldl RoomState.applyCommand start

section Changes

variable {room after : RoomState Value}

/-- A change that applies nothing and installs nothing. -/
theorem changes_of_subset (counter : after.roomCounter = room.roomCounter)
    (subset : ∀ {bucketId key entry},
      getNested after.buckets bucketId key = some entry →
        getNested room.buckets bucketId key = some entry) :
    Changes 0 room after :=
  ⟨after, [], counter, fun _ _ _ found => Or.inl (subset found), rfl, rfl⟩

theorem Changes.refl (room : RoomState Value) : Changes 0 room room :=
  changes_of_subset rfl id

omit [SerdeJson Value] in
theorem roomCounter_loadData (room : RoomState Value)
    (bucketDefs : List (BucketId × Option String × UInt32))
    (members : FinSet String)
    (fragments : Map BucketId (Map String Value)) :
    (room.loadData bucketDefs members fragments).roomCounter =
      room.roomCounter := by
  have installed (start : RoomState Value) :
      (bucketDefs.foldl (RoomState.installBucket fragments)
        start).roomCounter = start.roomCounter := by
    induction bucketDefs generalizing start with
    | nil => rfl
    | cons definition rest ih => exact ih _
  exact installed _

theorem changes_loadData (room : RoomState Value)
    (bucketDefs : List (BucketId × Option String × UInt32))
    (members : FinSet String)
    (fragments : Map BucketId (Map String Value)) :
    Changes 0 room (room.loadData bucketDefs members fragments) :=
  ⟨_, [], roomCounter_loadData room bucketDefs members fragments,
    fun _ _ _ found => Or.inr (keyVersion_loadData found), rfl, rfl⟩

/-- The room after a mutation that may fail. -/
def settle (room : RoomState Value)
    (result : Except StateError (RoomState Value)) : RoomState Value :=
  match result with
  | .ok after => after
  | .error _ => room

/-- A call on a room applies the operations that are counted for it. -/
theorem changes_call (room : RoomState Value) (call : RoomCall Value) :
    Changes (appliedTo room call) room (settle room (call.run room)) := by
  unfold appliedTo settle
  cases result : call.run room with
  | error error => exact Changes.refl room
  | ok after =>
      rcases call_cases result with
        ⟨stores, _, buffer, command, opened, rfl⟩ |
        ⟨stores, _, closed, bucketId, key, value, rfl⟩ | ⟨rfl, _, rfl⟩ |
        ⟨rfl, _, buffer, opened, rfl⟩ | ⟨rfl, rfl⟩
      · have buffered : Changes 0 room
            { room with txBuffer := some (buffer ++ [command]) } :=
          changes_of_subset rfl id
        cases call with
        | setFragment | delFragment => simpa [opened] using buffered
        | txBegin | txEnd | txAbort => cases stores
      · have written : Changes 1 room (room.store bucketId key value) :=
          ⟨room, [.set bucketId key value], rfl,
            fun _ _ _ found => Or.inl found, rfl, rfl⟩
        cases call with
        | setFragment | delFragment => simpa [closed] using written
        | txBegin | txEnd | txAbort => cases stores
      · exact changes_of_subset rfl id
      · simp only [opened, Option.getD_some]
        exact ⟨{ room with txBuffer := none }, buffer, rfl,
          fun _ _ _ found => Or.inl found, rfl, rfl⟩
      · exact changes_of_subset rfl id

end Changes

/-! ### What a call does to a room of the state -/

section Calls

variable {app : AppState Value} {roomId : RoomId} {count : Nat}

omit [SerdeJson Value] in
/-- What a call on one room does to any of them. -/
theorem lookup_withRoom (app : AppState Value) (target roomId : RoomId)
    (mutate : RoomState Value → Except StateError (RoomState Value)) :
    (orUnchanged app (app.withRoom target mutate)).rooms[roomId]? =
      if target = roomId then
        app.rooms[roomId]?.map fun room => settle room (mutate room)
      else app.rooms[roomId]? := by
  unfold AppState.withRoom
  by_cases same : target = roomId
  · subst same
    rw [if_pos rfl]
    cases present : app.rooms[target]? with
    | none => exact present
    | some room =>
        cases mutated : mutate room with
        | error error =>
            simp [orUnchanged, settle, Except.map, mutated, present]
        | ok after =>
            simp [orUnchanged, settle, Except.map, mutated]
  · rw [if_neg same]
    cases app.rooms[target]? with
    | none => rfl
    | some room =>
        cases mutated : mutate room with
        | error error => simp [orUnchanged, Except.map, mutated]
        | ok after =>
            simp [orUnchanged, Except.map, mutated, lookup_insert, same]

/-- A room before and after a call, if it is registered. -/
abbrev ChangesAt (count : Nat) (before after : Option (RoomState Value)) :
    Prop :=
  Option.Rel (Changes count) before after

theorem changesAt_refl (before : Option (RoomState Value)) :
    ChangesAt 0 before before := by
  cases before with
  | none => exact .none
  | some room => exact .some (Changes.refl room)

theorem changesAt_withRoom (app : AppState Value) (target : RoomId)
    {mutate : RoomState Value → Except StateError (RoomState Value)}
    (changes : ∀ room after, mutate room = .ok after →
      Changes 0 room after) :
    ChangesAt 0 app.rooms[roomId]?
      (orUnchanged app (app.withRoom target mutate)).rooms[roomId]? := by
  rw [lookup_withRoom]
  split
  · cases app.rooms[roomId]? with
    | none => exact .none
    | some room =>
        refine .some (show Changes 0 room (settle room (mutate room)) from ?_)
        cases mutated : mutate room with
        | error error => exact Changes.refl room
        | ok after => exact changes room after mutated
  · exact changesAt_refl _

theorem changesAt_applyEffect (app : AppState Value) (target : RoomId)
    {effect : RoomState Value → RoomState Value}
    (changes : ∀ room, Changes 0 room (effect room)) :
    ChangesAt 0 app.rooms[roomId]?
      (applyEffect app target effect).rooms[roomId]? := by
  refine changesAt_withRoom app target ?_
  intro room after result
  split at result
  · cases result
    exact changes room
  · cases result

theorem changesAt_onRoom (app : AppState Value) (target : RoomId)
    (call : RoomCall Value) :
    ChangesAt (applied roomId app (.onRoom target call)) app.rooms[roomId]?
      ((AppCall.onRoom target call).run app).rooms[roomId]? := by
  simp only [AppCall.run, lookup_withRoom, applied]
  split
  · cases app.rooms[roomId]? with
    | none => exact .none
    | some room => exact .some (changes_call room call)
  · exact changesAt_refl _

/-- A call changes a room that it does not create, register or delete. -/
theorem changesAt_run {call : AppCall Value}
    (kept : ¬Replaces roomId app call) :
    ChangesAt (applied roomId app call) app.rooms[roomId]?
      (call.run app).rooms[roomId]? := by
  cases call with
  | createRoom =>
      have other : app.nextRoomId ≠ roomId := kept
      simp only [AppCall.run, AppState.createRoom, lookup_insert, if_neg other]
      exact changesAt_refl _
  | registerExisting existing =>
      have other : roomId ∉ existing := kept
      rw [AppCall.run, lookup_registerExisting, if_neg other]
      exact changesAt_refl _
  | deleteRoom deleted =>
      have other : deleted ≠ roomId := kept
      simp only [AppCall.run, AppState.deleteRoom]
      split
      · simp only [orUnchanged, lookup_erase, if_neg other]
        exact changesAt_refl _
      · exact changesAt_refl _
  | setRoomLabel labelled label =>
      rw [AppCall.run, rooms_setRoomLabel]
      exact changesAt_refl _
  | loadRoomData target bucketDefs members fragments =>
      refine changesAt_withRoom app target ?_
      rintro room after ⟨⟩
      exact changes_loadData room bucketDefs members fragments
  | unloadRoom target =>
      refine changesAt_withRoom app target ?_
      rintro room after ⟨⟩
      exact changes_of_subset rfl (by simp [RoomState.unload])
  | setBucketLabel target bucketId label =>
      simp only [AppCall.run, AppState.setBucketLabel]
      split
      · refine changesAt_withRoom app target fun room after result => ?_
        obtain ⟨_, rfl⟩ := onBucket_eq_ok result
        exact changes_of_subset rfl id
      · exact changesAt_refl _
  | setBucketFlags target bucketId flags =>
      refine changesAt_withRoom app target fun room after result => ?_
      obtain ⟨_, rfl⟩ := onBucket_eq_ok result
      exact changes_of_subset rfl id
  | setBucketFlagBit target bucketId flagMask enabled =>
      refine changesAt_withRoom app target fun room after result => ?_
      obtain ⟨_, rfl⟩ := onBucket_eq_ok result
      exact changes_of_subset rfl id
  | addMember target member =>
      simp only [AppCall.run, AppState.addMember]
      split
      · refine changesAt_withRoom app target fun room after result => ?_
        obtain ⟨_, rfl⟩ := addMember_eq_ok result
        exact changes_of_subset rfl id
      · exact changesAt_refl _
  | removeMember target member =>
      refine changesAt_withRoom app target fun room after result => ?_
      obtain ⟨_, rfl⟩ := removeMember_eq_ok result
      exact changes_of_subset rfl id
  | onRoom target call => exact changesAt_onRoom app target call
  | newBucket target bucketId label =>
      refine changesAt_applyEffect app target fun room => ?_
      exact changes_of_subset rfl getNested_newBucket
  | deleteBucket target bucketId =>
      refine changesAt_applyEffect app target fun room => ?_
      exact changes_of_subset rfl getNested_deleteBucket
  | newMember target member =>
      refine changesAt_applyEffect app target fun room => ?_
      unfold RoomEffect.newMember
      split
      · exact Changes.refl room
      · exact changes_of_subset rfl id
  | deleteMember target member =>
      refine changesAt_applyEffect app target fun room => ?_
      exact changes_of_subset rfl id
  | configureJwt => exact changesAt_refl _

/-- A room that is not replaced is changed by what a call applies. -/
theorem exists_run {call : AppCall Value} {room : RoomState Value}
    (kept : ¬Replaces roomId app call)
    (found : app.rooms[roomId]? = some room) :
    ∃ after, (call.run app).rooms[roomId]? = some after ∧
      Changes (applied roomId app call) room after := by
  have changed := changesAt_run kept
  rw [found] at changed
  generalize (call.run app).rooms[roomId]? = lookup at changed ⊢
  cases changed with
  | some changes => exact ⟨_, rfl, changes⟩

/-- A room that was not replaced has been there before. -/
theorem exists_of_run {call : AppCall Value} {after : RoomState Value}
    (kept : ¬Replaces roomId app call)
    (found : (call.run app).rooms[roomId]? = some after) :
    ∃ room, app.rooms[roomId]? = some room ∧
      Changes (applied roomId app call) room after := by
  have changed := changesAt_run kept
  rw [found] at changed
  generalize app.rooms[roomId]? = lookup at changed ⊢
  cases changed with
  | some changes => exact ⟨_, rfl, changes⟩

/-- A room that a call creates or registers is empty. -/
theorem fresh_of_replaces {call : AppCall Value} {after : RoomState Value}
    (replaces : Replaces roomId app call)
    (found : (call.run app).rooms[roomId]? = some after) :
    ∃ loaded, after = .fresh loaded := by
  cases call with
  | createRoom =>
      have same : app.nextRoomId = roomId := replaces
      simp only [AppCall.run, AppState.createRoom, lookup_insert,
        if_pos same] at found
      cases found
      exact ⟨true, rfl⟩
  | registerExisting existing =>
      have member : roomId ∈ existing := replaces
      rw [AppCall.run, lookup_registerExisting, if_pos member] at found
      cases found
      exact ⟨false, rfl⟩
  | deleteRoom deleted =>
      cases replaces
      simp only [AppCall.run, AppState.deleteRoom] at found
      split at found
      · simp [orUnchanged] at found
      · next absent =>
        have present := Std.ExtTreeMap.mem_iff_isSome_getElem?.mpr
          (Option.isSome_of_eq_some found)
        exact absurd (Std.ExtTreeMap.mem_iff_contains.mp present) absent
  | loadRoomData | unloadRoom | setRoomLabel | setBucketLabel
  | setBucketFlags | setBucketFlagBit | addMember | removeMember | onRoom
  | newBucket | deleteBucket | newMember | deleteMember | configureJwt =>
      cases replaces

end Calls

/-! ### Every reachable state satisfies the version invariant -/

section Bounded

variable {room after : RoomState Value} {count : Nat}

omit [SerdeJson Value] in
theorem versionsBounded_of_reloaded (bounded : VersionsBounded room)
    (counter : after.roomCounter = room.roomCounter)
    (fragments : ∀ bucketId key entry,
      getNested after.buckets bucketId key = some entry →
        getNested room.buckets bucketId key = some entry ∨
          entry.keyVersion = 0) :
    VersionsBounded after := by
  intro bucketId key entry found
  rw [counter]
  rcases fragments bucketId key entry found with kept | loaded
  · exact bounded bucketId key entry kept
  · rw [loaded]
    exact UInt64.zero_le

/-- Versions stay below the counter, as long as it does not wrap. -/
theorem versionsBounded_changes (bounded : VersionsBounded room)
    (changes : Changes count room after)
    (fits : room.roomCounter.toNat + count < UInt64.size) :
    VersionsBounded after := by
  obtain ⟨start, commands, counter, fragments, rfl, rfl⟩ := changes
  have started := versionsBounded_of_reloaded bounded counter fragments
  rw [← counter] at fits
  exact ((Advances.refl started).applyCommands commands fits).bounded

/-- A call applies no more than it writes. -/
theorem appliedTo_le_writes (room : RoomState Value) (call : RoomCall Value) :
    appliedTo room call ≤ call.writes room := by
  unfold appliedTo
  split
  · exact Nat.zero_le _
  · cases call with
    | setFragment | delFragment =>
        simp only [RoomCall.writes]
        split <;> omega
    | txBegin | txEnd | txAbort => exact Nat.le_refl _

theorem below_of_fits {app : AppState Value} {call : AppCall Value}
    (fits : call.Fits app) : Below app call := by
  cases call with
  | onRoom roomId call =>
      intro room found
      have roomFits := fits room found
      have least := appliedTo_le_writes room call
      omega
  | _ => trivial

theorem fits_of_below {app : AppState Value} {call : AppCall Value}
    {roomId : RoomId} (below : Below app call)
    (found : app.rooms[roomId]? = some room) :
    room.roomCounter.toNat + applied roomId app call < UInt64.size := by
  have within := room.roomCounter.toNat_lt_size
  unfold applied
  split
  · next target call =>
    split
    · next same =>
      subst same
      rw [found]
      exact below room found
    · exact within
  · exact within

end Bounded

theorem versionsBounded_call {app : AppState Value} {call : AppCall Value}
    (fits : call.Fits app)
    (rooms : ∀ (id : RoomId) (room : RoomState Value),
      app.rooms[id]? = some room → VersionsBounded room) :
    ∀ (id : RoomId) (room : RoomState Value),
      (call.run app).rooms[id]? = some room → VersionsBounded room := by
  intro id after found
  by_cases replaces : Replaces id app call
  · obtain ⟨loaded, rfl⟩ := fresh_of_replaces replaces found
    exact versionsBounded_of_buckets_empty rfl
  · obtain ⟨room, before, changes⟩ := exists_of_run replaces found
    exact versionsBounded_changes (rooms id room before) changes
      (fits_of_below (below_of_fits fits) before)

/-- Every fragment of a reachable state has a version within its room. -/
theorem versionsBounded_of_reachable {app : AppState Value}
    (reachable : Reachable app) {roomId : RoomId} {room : RoomState Value}
    (found : app.rooms[roomId]? = some room) : VersionsBounded room := by
  obtain ⟨calls, fits, rfl⟩ := reachable
  refine fits.invariant
    (fun app : AppState Value =>
      ∀ (id : RoomId) (room : RoomState Value),
        app.rooms[id]? = some room → VersionsBounded room)
    (fun _ _ callFits rooms => versionsBounded_call callFits rooms)
    ?_ roomId room found
  intro id room absent
  simp [AppState.new] at absent

end Syncpond.StateRuns
