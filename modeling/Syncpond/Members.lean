import Syncpond.Consistency
import Syncpond.Tokens

/-!
# Members

A room that is loaded has in memory the members that are persisted, and these
are what the membership commands said: a text names a member exactly when the
last command about it, executed while the room was loaded, was a `NewMember`.
Reloads and restarts do not matter.  The memory, the disk and the check of the
token issuer trim a member in the same way.
-/

namespace Syncpond.Members

open Syncpond.Protocol
open Syncpond.Serde
open Syncpond.State
open Syncpond.Persistence
open Syncpond.Kernel
open Syncpond.Disks
open Syncpond.DiskOperations
open Syncpond.KernelStore
open Syncpond.Folders
open Syncpond.Consistency
open Syncpond.StateRuns
open Syncpond.Tokens
open Syncpond.Library.Maps
open Syncpond.Library.Runs
open Syncpond.Library.Text

variable {Value : Type}

/-! ## Membership commands -/

/-- A membership command that a loaded room executed, with its trimmed text. -/
structure Membership where
  roomId : RoomId
  member : String
  joined : Bool

/-- The membership command that an event executes. -/
def executed (app : AppState Value) : Event → Option Membership
  | .command (.newMember roomId member) =>
      if app.isRoomLoaded roomId then some ⟨roomId, trim member, true⟩
      else none
  | .command (.deleteMember roomId member) =>
      if app.isRoomLoaded roomId then some ⟨roomId, trim member, false⟩
      else none
  | _ => none

/-- What the last executed command about a member of a room said. -/
def lastMembership (memberships : List Membership) (roomId : RoomId)
    (member : String) : Option Bool :=
  ((memberships.filter fun membership =>
    membership.roomId = roomId && membership.member = member).getLast?).map
    Membership.joined

/-- A kernel with the membership commands that it executed. -/
structure Past (Value : Type) where
  kernel : SyncpondKernel Value
  memberships : List Membership

variable [SerdeJson Value]

namespace Past

/-- An empty data directory, and no command. -/
def start : Past Value := ⟨boot .none ∅, []⟩

def apply (past : Past Value) (event : Event) : Past Value where
  kernel := Kernel.apply .none past.kernel event
  memberships :=
    past.memberships ++ (executed past.kernel.state event).toList

end Past

/-- A command or a restart, below the last room id. -/
def Regular (past : Past Value) (event : Event) : Prop :=
  past.kernel.state.nextRoomId ≠ maxRoomId ∧
    match event with
    | .command command => namedRoom command ≠ some maxRoomId
    | .deleteRoom _ => False
    | .restart => True

instance (past : Past Value) (event : Event) :
    Decidable (Regular past event) :=
  match event with
  | .command _ => inferInstanceAs (Decidable (_ ∧ _))
  | .deleteRoom _ => inferInstanceAs (Decidable (_ ∧ False))
  | .restart => inferInstanceAs (Decidable (_ ∧ True))

/-- The member list that is read from the database of a room. -/
def persistedMembers (kernel : SyncpondKernel Value) (roomId : RoomId) :
    Except String (FinSet String) :=
  ((loadMembers .none Value roomId).exec (kernel.persistence.view roomId)).1

/-! ## What one command does to a set of members -/

/-- The members of a room after a membership command. -/
def Membership.change (membership : Membership) (roomId : RoomId)
    (members : FinSet String) : FinSet String :=
  if membership.roomId = roomId then
    if membership.joined then
      if membership.member.isEmpty then members
      else members.insert membership.member
    else members.erase membership.member
  else members

/-- The members of a room after an event that may execute a command. -/
def changed (membership : Option Membership) (roomId : RoomId)
    (members : FinSet String) : FinSet String :=
  match membership with
  | some membership => membership.change roomId members
  | none => members

/-- The members are those that joined last. -/
def Recorded (memberships : List Membership) (roomId : RoomId)
    (members : FinSet String) : Prop :=
  ∀ member, member ∈ members ↔ member.isEmpty = false ∧
    lastMembership memberships roomId member = some true

section Recording

variable {memberships : List Membership} {roomId : RoomId}

omit [SerdeJson Value]

theorem lastMembership_append (membership : Membership) (member : String) :
    lastMembership (memberships ++ [membership]) roomId member =
      if membership.roomId = roomId ∧ membership.member = member then
        some membership.joined
      else lastMembership memberships roomId member := by
  unfold lastMembership
  rw [List.filter_append]
  by_cases about : membership.roomId = roomId ∧ membership.member = member
  · simp [about]
  · have skipped : (membership.roomId = roomId &&
        membership.member = member) = false := by
      simpa using about
    simp [skipped, about]

theorem Recorded.append {members : FinSet String}
    (recorded : Recorded memberships roomId members)
    (membership : Membership) :
    Recorded (memberships ++ [membership]) roomId
      (membership.change roomId members) := by
  intro member
  rw [lastMembership_append, Membership.change]
  have before := recorded member
  by_cases sameRoom : membership.roomId = roomId
  · by_cases same : membership.member = member
    · subst same
      cases membership.joined with
      | true =>
          by_cases blank : membership.member.isEmpty = true
          · simpa [sameRoom, blank] using before
          · simp [sameRoom, blank]
      | false => simp [sameRoom]
    · cases membership.joined with
      | true =>
          by_cases blank : membership.member.isEmpty = true
          · simpa [sameRoom, same, blank] using before
          · simpa [sameRoom, same, blank, mem_set_insert] using before
      | false => simpa [sameRoom, same] using before
  · simpa [sameRoom] using before

/-- A command changes no other room. -/
theorem changed_of_ne {membership : Option Membership} {other : RoomId}
    (about : ∀ command ∈ membership, command.roomId = roomId)
    (different : other ≠ roomId) (members : FinSet String) :
    changed membership other members = members := by
  cases membership with
  | none => rfl
  | some membership =>
      have ne : membership.roomId ≠ other := by
        rw [about membership rfl]
        exact different.symm
      simp [changed, Membership.change, ne]

/-- An event keeps the record. -/
theorem Recorded.step {members : FinSet String}
    (recorded : Recorded memberships roomId members)
    (membership : Option Membership) :
    Recorded (memberships ++ membership.toList) roomId
      (changed membership roomId members) := by
  cases membership with
  | none => simpa [changed] using recorded
  | some membership => exact recorded.append membership

end Recording

/-! ## Stores that remember -/

omit [SerdeJson Value] in
theorem nextRoomId_newRoom (store : Store Value) (name : String) :
    (store.newRoom name).state.nextRoomId = store.state.nextRoomId + 1 := by
  obtain ⟨labels, created⟩ := exists_newRoom_eq store name
  rw [created]
  rfl

omit [SerdeJson Value] in
/-- `NewRoom` creates the database of its room. -/
theorem opened_newRoom (store : Store Value) (name : String) :
    (store.newRoom name).opened =
      store.opened.insert store.state.nextRoomId := by
  simp only [Store.newRoom, Store.openRoom, AppState.createRoom]

/-- Memory and disk agree with the commands that were executed. -/
structure Remembers (memberships : List Membership) (store : Store Value) :
    Prop where
  loaded : ∀ (roomId : RoomId) (room : RoomState Value),
    store.state.rooms[roomId]? = some room → room.loaded = true →
    room.members = (store.disks roomId).members
  recorded : ∀ roomId,
    Recorded memberships roomId (store.disks roomId).members
  unknown : ∀ roomId, roomId ∉ store.state.rooms →
    ∀ membership ∈ memberships, membership.roomId ≠ roomId
  below : ∀ roomId ∈ store.state.rooms, roomId < store.state.nextRoomId
  opened : ∀ roomId ∈ store.state.rooms, roomId ∈ store.opened
  bounded : maxRoomId ∉ store.opened

namespace Remembers

omit [SerdeJson Value] in
theorem initial : Remembers [] (.initial : Store Value) where
  loaded := by simp [Store.initial, registerExisting, AppState.new]
  recorded := by
    intro roomId member
    simp [Store.initial, Disk.empty, lastMembership]
  unknown := by simp
  below := by simp [Store.initial, registerExisting, AppState.new]
  opened := by simp [Store.initial, registerExisting, AppState.new]
  bounded := by simp [Store.initial]

variable {memberships : List Membership} {store : Store Value}
variable (remembers : Remembers memberships store)

include remembers

omit [SerdeJson Value] in
/-- A room that is not registered has no members. -/
theorem members_eq_empty {roomId : RoomId}
    (unknown : roomId ∉ store.state.rooms) :
    (store.disks roomId).members = ∅ := by
  ext member
  have never : lastMembership memberships roomId member = none := by
    have skipped : (memberships.filter fun membership =>
        membership.roomId = roomId && membership.member = member) = [] := by
      rw [List.filter_eq_nil_iff]
      intro membership present
      simp [remembers.unknown roomId unknown membership present]
    rw [lastMembership, skipped]
    rfl
  rw [remembers.recorded roomId member, never]
  simp

omit [SerdeJson Value] in
/-- Replacing a registered room, and the disk of that room. -/
theorem replace {roomId : RoomId} {room : RoomState Value}
    (present : store.state.rooms[roomId]? = some room)
    (after : RoomState Value) (change : Disk Value → Disk Value)
    (membership : Option Membership)
    (agrees : after.loaded = true →
      after.members = (change (store.disks roomId)).members)
    (members : (change (store.disks roomId)).members =
      changed membership roomId (store.disks roomId).members)
    (about : ∀ command ∈ membership, command.roomId = roomId) :
    Remembers (memberships ++ membership.toList)
      ({ store with
        state := { store.state with
          rooms := store.state.rooms.insert roomId after } }.persist
        roomId change) := by
  have known : roomId ∈ store.state.rooms := mem_rooms_of_lookup present
  have sameRooms {other : RoomId} :
      other ∈ store.state.rooms.insert roomId after ↔
        other ∈ store.state.rooms := by
    rw [mem_map_insert]
    exact ⟨fun member => member.elim (· ▸ known) id, Or.inr⟩
  constructor
  · intro other found isFound resident
    simp only [Store.persist, Store.openRoom, lookup_insert] at isFound ⊢
    split at isFound
    · next same =>
      subst same
      cases isFound
      rw [changeDisk_self]
      exact agrees resident
    · next different =>
      rw [changeDisk_of_ne _ (Ne.symm different)]
      exact remembers.loaded other found isFound resident
  · intro other
    have step := (remembers.recorded other).step membership
    by_cases same : other = roomId
    · subst same
      simpa [Store.persist, members] using step
    · rw [changed_of_ne about same] at step
      simpa [Store.persist, changeDisk_of_ne _ same] using step
  · intro other absent command executed
    have otherAbsent : other ∉ store.state.rooms := fun member =>
      absent (sameRooms.mpr member)
    rcases List.mem_append.mp executed with older | new
    · exact remembers.unknown other otherAbsent command older
    · rw [about command (by simpa using new)]
      rintro rfl
      exact otherAbsent known
  · intro other member
    exact remembers.below other (sameRooms.mp member)
  · intro other member
    exact mem_set_insert.mpr
      (Or.inr (remembers.opened other (sameRooms.mp member)))
  · intro isMax
    rcases mem_set_insert.mp isMax with same | older
    · exact remembers.bounded (same ▸ remembers.opened roomId known)
    · exact remembers.bounded older

omit [SerdeJson Value] in
/-- The shape shared by the four commands that change a loaded room. -/
theorem mutate (roomId : RoomId) {effect : RoomState Value → RoomState Value}
    {change : Disk Value → Disk Value} (membership : Option Membership)
    (agrees : ∀ room disk, room.members = disk.members →
      (effect room).members = (change disk).members)
    (members : ∀ disk, (change disk).members =
      changed membership roomId disk.members)
    (about : ∀ command ∈ membership, command.roomId = roomId) :
    Remembers (memberships ++
        (if store.state.isRoomLoaded roomId then membership else none).toList)
      (store.mutate roomId effect change) := by
  unfold Store.mutate AppState.isRoomLoaded
  cases present : store.state.rooms[roomId]? with
  | none => simpa using remembers
  | some room =>
      cases resident : room.loaded with
      | false => simpa [resident] using remembers
      | true =>
          have same := remembers.loaded roomId room present resident
          simp only [resident, Bool.not_true, Bool.false_eq_true, if_false,
            if_true]
          exact remembers.replace present _ change membership
            (fun _ => agrees room _ same) (members _) about

omit [SerdeJson Value] in
/-- A command that changes no members. -/
theorem mutateOther (roomId : RoomId)
    {effect : RoomState Value → RoomState Value}
    {change : Disk Value → Disk Value}
    (inMemory : ∀ room, (effect room).members = room.members)
    (onDisk : ∀ disk, (change disk).members = disk.members) :
    Remembers memberships (store.mutate roomId effect change) := by
  have mutated := remembers.mutate roomId none
    (fun room disk same => (inMemory room).trans (same.trans (onDisk disk).symm))
    onDisk (by simp)
  simpa using mutated

omit [SerdeJson Value] in
/-- A registered room is loaded, unloaded or written, and no member changes. -/
theorem replaceRoom {roomId : RoomId} {room after : RoomState Value}
    (present : store.state.rooms[roomId]? = some room)
    (agrees : after.loaded = true →
      after.members = (store.disks roomId).members) :
    Remembers memberships
      { store with
        state := { store.state with
          rooms := store.state.rooms.insert roomId after } } := by
  have member := remembers.opened roomId (mem_rooms_of_lookup present)
  have replaced := remembers.replace present after id none agrees rfl
    (by simp)
  rw [Store.persist, changeDisk_id, Store.openRoom,
    set_insert_eq_self member] at replaced
  simpa using replaced

omit [SerdeJson Value] in
/-- Opening the database of a room. -/
theorem openRoom {roomId : RoomId} (notMax : roomId ≠ maxRoomId) :
    Remembers memberships (store.openRoom roomId) where
  loaded := remembers.loaded
  recorded := remembers.recorded
  unknown := remembers.unknown
  below := remembers.below
  opened other member :=
    mem_set_insert.mpr (Or.inr (remembers.opened other member))
  bounded isMax := by
    rcases mem_set_insert.mp isMax with same | older
    · exact notMax same
    · exact remembers.bounded older

omit [SerdeJson Value] in
theorem loadRoom {roomId : RoomId} (notMax : roomId ≠ maxRoomId) :
    Remembers memberships (store.loadRoom roomId) := by
  have opened := remembers.openRoom notMax
  unfold Store.loadRoom
  cases present : store.state.rooms[roomId]? with
  | none => exact opened
  | some room => exact opened.replaceRoom present fun _ => rfl

omit [SerdeJson Value] in
/-- `NewRoom` takes an id that was not registered. -/
theorem newRoom (name : String) (notMax : store.state.nextRoomId ≠ maxRoomId) :
    Remembers memberships (store.newRoom name) := by
  have fits := fits_of_ne_max notMax
  have rooms := rooms_newRoom store name
  have next := nextRoomId_newRoom store name
  have isNew : store.state.nextRoomId ∉ store.state.rooms := fun member =>
    absurd (remembers.below _ member) (UInt64.lt_irrefl _)
  have opened := opened_newRoom store name
  constructor
  · intro roomId room present resident
    rw [rooms, lookup_insert] at present
    split at present
    · next same =>
      subst same
      cases present
      exact (remembers.members_eq_empty isNew).symm
    · exact remembers.loaded roomId room present resident
  · exact remembers.recorded
  · intro roomId absent
    rw [rooms, mem_map_insert] at absent
    exact remembers.unknown roomId fun member => absent (Or.inr member)
  · intro roomId member
    rw [rooms, mem_map_insert] at member
    rw [next]
    rcases member with rfl | older
    · exact lt_succ fits
    · exact UInt64.lt_trans (remembers.below roomId older) (lt_succ fits)
  · intro roomId member
    rw [rooms, mem_map_insert] at member
    rw [opened, mem_set_insert]
    rcases member with same | older
    · exact Or.inl same
    · exact Or.inr (remembers.opened roomId older)
  · rw [opened, mem_set_insert]
    rintro (isMax | older)
    · exact notMax isMax
    · exact remembers.bounded older

theorem writeFragment (consistent : Consistent store) (roomId : RoomId)
    (bucketId : BucketId) (key : String) (parsed : Value) :
    Remembers memberships (store.writeFragment roomId bucketId key parsed) := by
  unfold Store.writeFragment
  cases loaded : store.state.isRoomLoaded roomId with
  | false => simpa [loaded] using remembers
  | true =>
      obtain ⟨room, present, resident⟩ := isRoomLoaded_iff.mp loaded
      have before := consistent.rooms roomId room present
      have written := setFragment_eq_ok present before.unlocked resident
        before.noTransaction bucketId key parsed
      have same := remembers.loaded roomId room present resident
      simp only [written, Bool.not_true, Bool.false_eq_true, if_false]
      have replaced := remembers.replace present
        (room.store bucketId key parsed)
        (fun disk => { disk with
          fragments := putFragment disk.fragments bucketId key
            (persistedValue parsed) })
        none (fun _ => same) rfl (by simp)
      simpa using replaced

omit [SerdeJson Value] in
/-- A restart registers the rooms that have a database, unloaded. -/
theorem restart : Remembers memberships store.restart := by
  have rooms (roomId : RoomId) :
      roomId ∈ store.restart.state.rooms ↔ roomId ∈ store.opened := by
    rw [Std.ExtTreeMap.mem_iff_isSome_getElem?, Store.restart,
      lookup_registerExisting]
    split <;> simp_all [AppState.new]
  constructor
  · intro roomId room present resident
    simp only [Store.restart, lookup_registerExisting] at present
    split at present
    · cases present
      cases resident
    · simp [AppState.new] at present
  · exact remembers.recorded
  · intro roomId absent
    refine remembers.unknown roomId fun member => absent ?_
    exact (rooms roomId).mpr (remembers.opened roomId member)
  · intro roomId member
    refine lt_nextRoomId_registerExisting ?_ ?_
    · simpa using remembers.bounded
    · simpa using (rooms roomId).mp member
  · intro roomId member
    exact (rooms roomId).mp member
  · exact remembers.bounded

/-- Every command below the last room id is remembered. -/
theorem command (consistent : Consistent store) {command : Commands}
    (notLast : store.state.nextRoomId ≠ maxRoomId)
    (bounded : namedRoom command ≠ some maxRoomId) :
    Remembers
      (memberships ++ (executed store.state (.command command)).toList)
      (store.command command) := by
  have nothing {after : Store Value} (kept : Remembers memberships after)
      (none : executed store.state (.command command) = none) :
      Remembers
        (memberships ++ (executed store.state (.command command)).toList)
        after := by
    simpa [none] using kept
  cases command with
  | newRoom name => exact nothing (remembers.newRoom name notLast) rfl
  | newBucket roomId bucketId label =>
      exact nothing
        (remembers.mutateOther roomId (fun _ => rfl) fun _ => rfl) rfl
  | deleteBucket roomId bucketId =>
      exact nothing
        (remembers.mutateOther roomId (fun _ => rfl) fun _ => rfl) rfl
  | newMember roomId member =>
      refine remembers.mutate roomId (some ⟨roomId, trim member, true⟩)
        ?_ ?_ ?_
      · intro room disk same
        simp only [RoomEffect.newMember, trim_trim]
        split
        · exact same
        · exact congrArg (·.insert (trim member)) same
      · intro disk
        simp only [trim_trim, changed, Membership.change, if_true]
        split <;> rfl
      · simp
  | deleteMember roomId member =>
      refine remembers.mutate roomId (some ⟨roomId, trim member, false⟩)
        ?_ ?_ ?_
      · intro room disk same
        exact congrArg (·.erase (trim member)) same
      · intro disk
        simp [changed, Membership.change]
      · simp
  | writeFragment roomId bucketId key data =>
      exact nothing
        (remembers.writeFragment consistent roomId bucketId key _) rfl
  | readFragment => exact nothing remembers rfl
  | loadRoom roomId =>
      exact nothing
        (remembers.loadRoom fun isMax => bounded (congrArg some isMax)) rfl
  | unloadRoom roomId =>
      refine nothing ?_ rfl
      cases unloaded : store.state.unloadRoom roomId with
      | error error => simpa [Store.command, unloaded] using remembers
      | ok app =>
          obtain ⟨before, after, present, result, rfl⟩ := withRoom_ok unloaded
          cases result
          simp only [Store.command, unloaded]
          exact remembers.replaceRoom present fun resident => by cases resident

end Remembers

/-! ## Runs -/

/-- A kernel implements a store that remembers what it executed. -/
def Mirrored (past : Past Value) : Prop :=
  ∃ store : Store Value, Refines past.kernel store ∧ Consistent store ∧
    Remembers past.memberships store

theorem mirrored_start : Mirrored (Past.start : Past Value) :=
  ⟨_, refines_boot, consistent_initial, .initial⟩

/-- A regular event is mirrored. -/
theorem Mirrored.apply {past : Past Value} (mirrored : Mirrored past)
    {event : Event} (regular : Regular past event) :
    Mirrored (past.apply event) := by
  obtain ⟨store, refines, consistent, remembers⟩ := mirrored
  refine ⟨store.apply event, refines_apply refines event,
    consistent.apply event, ?_⟩
  simp only [Past.apply, Regular, refines.state] at regular ⊢
  cases event with
  | command command =>
      exact remembers.command consistent regular.1 regular.2
  | deleteRoom roomId => exact regular.2.elim
  | restart => simpa [executed, Store.apply] using remembers.restart

theorem mirrored_of_run {events : List Event}
    (regular : Along Past.apply Regular (.start : Past Value) events) :
    Mirrored (events.foldl Past.apply (.start : Past Value)) :=
  regular.invariant Mirrored
    (fun _ _ isRegular mirrored => mirrored.apply isRegular) mirrored_start

theorem persistedMembers_eq {kernel : SyncpondKernel Value}
    {store : Store Value} (refines : Refines kernel store)
    (roomId : RoomId) :
    persistedMembers kernel roomId = .ok (store.disks roomId).members := by
  obtain ⟨members, after, executed, same, _⟩ :=
    implements_loadMembers roomId _ _ (refines.holds roomId)
  rw [persistedMembers, executed, same]

omit [SerdeJson Value] in
/-- With settings, a token is issued to the members. -/
theorem exists_token_iff {app : AppState Value} (configured : Configured app)
    {jwt : JsonWebToken} {order : BucketOrder} {now : UInt64}
    {roomId : RoomId} {room : RoomState Value}
    (present : app.rooms[roomId]? = some room) {sub : String}
    {buckets : List BucketId} (notReserved : serverOnlyBucketId ∉ buckets) :
    (∃ token,
        (createRoomToken jwt order now app roomId sub buckets).1 =
          .ok token) ↔
      (trim sub).isEmpty = false ∧ trim sub ∈ room.members := by
  simp only [createRoomToken_eq_ok_iff, checkTokenRequest_eq_ok_iff]
  constructor
  · rintro ⟨_, _, ⟨_, _, ⟨found, same, isMember⟩, _⟩, _⟩
    cases present.symm.trans same
    exact isMember
  · intro isMember
    obtain ⟨key, isKey, _⟩ := configured.key
    obtain ⟨token, encoded, _⟩ := jwt.encode_ok
      (tokenClaims order app roomId sub buckets (issueTime app now)) key
    exact ⟨token, key, ⟨configured, isKey, ⟨room, present, isMember⟩,
      notReserved⟩, encoded⟩

/--
In every run of commands and restarts below the last room id, the members of a
loaded room are the persisted ones, and a token is issued for a text exactly
when it is not blank and the last command about it was a `NewMember`.
-/
theorem members_durable {events : List Event}
    (regular : Along Past.apply Regular (.start : Past Value) events)
    {roomId : RoomId} {room : RoomState Value} :
    let past := events.foldl Past.apply (.start : Past Value)
    past.kernel.state.rooms[roomId]? = some room → room.loaded = true →
    persistedMembers past.kernel roomId = .ok room.members ∧
      ∀ (jwt : JsonWebToken) (order : BucketOrder) (now : UInt64)
        (app : AppState Value) (member : String) (buckets : List BucketId),
        app.rooms = past.kernel.state.rooms → Configured app →
        serverOnlyBucketId ∉ buckets →
        ((∃ token,
            (createRoomToken jwt order now app roomId member buckets).1 =
              .ok token) ↔
          (trim member).isEmpty = false ∧
            lastMembership past.memberships roomId (trim member) =
              some true) := by
  intro past present resident
  obtain ⟨store, refines, _, remembers⟩ := mirrored_of_run regular
  rw [refines.state] at present
  have same := remembers.loaded roomId room present resident
  have recorded := remembers.recorded roomId
  rw [← same] at recorded
  refine ⟨by rw [same]; exact persistedMembers_eq refines roomId, ?_⟩
  intro jwt order now app member buckets rooms configured notReserved
  rw [refines.state] at rooms
  rw [exists_token_iff configured (rooms ▸ present) notReserved,
    recorded (trim member)]
  exact and_self_left

/-- Two members join, one is removed, and the room is loaded again twice. -/
def reloadedEvents : List Event :=
  [.command (.newRoom "room"), .command (.newMember 1 "member"),
    .command (.newMember 1 "other"), .command (.unloadRoom 1),
    .command (.loadRoom 1), .command (.deleteMember 1 " other "), .restart,
    .command (.loadRoom 1)]

theorem members_durable_reloaded :
    let past := reloadedEvents.foldl Past.apply (.start : Past Json)
    let room := (past.kernel.state.rooms[(1 : RoomId)]?).getD (.fresh false)
    let app := { past.kernel.state with
      jwtKey := some "0123456789abcdef0123456789abcdef"
      jwtIssuer := some "issuer"
      jwtAudience := some "audience" }
    persistedMembers past.kernel 1 = .ok room.members ∧
      ((∃ token, (createRoomToken standIn .ascending 0 app 1 " member "
          [7]).1 = .ok token) ↔
        (trim " member ").isEmpty = false ∧
          lastMembership past.memberships 1 (trim " member ") =
            some true) := by
  intro past room app
  have regular : Along Past.apply Regular (.start : Past Json)
      reloadedEvents := by decide +kernel
  have present : past.kernel.state.rooms[(1 : RoomId)]? = some room := by
    have known : (past.kernel.state.rooms[(1 : RoomId)]?).isSome := by
      decide +kernel
    obtain ⟨found, isFound⟩ := Option.isSome_iff_exists.mp known
    simp only [room, isFound, Option.getD_some]
  have resident : room.loaded = true := by decide +kernel
  obtain ⟨durable, issued⟩ := members_durable regular present resident
  refine ⟨durable, issued standIn .ascending 0 app " member " [7] rfl ?_ ?_⟩
  · exact ⟨⟨_, rfl, by decide⟩, ⟨_, rfl⟩, ⟨_, rfl⟩⟩
  · decide

end Syncpond.Members
