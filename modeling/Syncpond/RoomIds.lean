import Syncpond.Lifetimes

/-!
# The ids of rooms

`create_room` takes the next id, and startup restores the next id from the
folders that it opens.  `LoadRoom` creates a folder for any id, so the last id
can come into the data directory; the next startup then computes `0` as the
next id, and `create_room` replaces rooms.  A startup that does not open the
folders of the latest rooms gives their ids out again.

`Below` is the invariant: the registered rooms and those that were created have
ids below the next one, and the last id has no folder.
-/

namespace Syncpond.RoomIds

open Syncpond.Protocol
open Syncpond.Serde
open Syncpond.State
open Syncpond.Persistence
open Syncpond.Kernel
open Syncpond.Folders
open Syncpond.Lifetimes
open Syncpond.Library.Maps
open Syncpond.Library.Programs
open Syncpond.Library.Runs
open Syncpond.Library.Text

variable {Value : Type} [SerdeJson Value]

/-! ## Sections that create neither a room nor the last folder -/

/-- The section registers no room and does not create the last folder. -/
structure Tame (kernel after : SyncpondKernel Value) : Prop where
  rooms : ∀ other ∈ after.state.rooms, other ∈ kernel.state.rooms
  nextRoomId : after.state.nextRoomId = kernel.state.nextRoomId
  noLastFolder : roomDir maxRoomId ∉ kernel.persistence.dirs →
    roomDir maxRoomId ∉ after.persistence.dirs

omit [SerdeJson Value] in
theorem Tame.refl (kernel : SyncpondKernel Value) : Tame kernel kernel :=
  ⟨fun _ => id, rfl, id⟩

omit [SerdeJson Value] in
theorem tame_of_serves {roomId : RoomId} (notMax : roomId ≠ maxRoomId)
    {kernel after : SyncpondKernel Value}
    (serves : Serves roomId kernel after) : Tame kernel after where
  rooms := serves.rooms
  nextRoomId := serves.nextRoomId
  noLastFolder absent present := by
    rcases serves.created _ present with before | same
    · exact absent before
    · exact notMax (roomDir_inj.mp same).symm

/-- All sections are tame. -/
def Tamed {Result : Type} (task : Task Value Result) : Prop :=
  task.Every fun _ effect => ∀ kernel, Tame kernel (effect kernel)

omit [SerdeJson Value] in
theorem tamed_of_serving {Result : Type} {roomId : RoomId}
    (notMax : roomId ≠ maxRoomId) {task : Task Value Result}
    (serving : Serving roomId task) : Tamed task :=
  serving.mono fun _ _ serves kernel => tame_of_serves notMax (serves kernel)

section Unknown

variable {faults : Faults} {roomId : RoomId}
variable {kernel : SyncpondKernel Value}
variable (unknown : roomId ∉ kernel.state.rooms)

include unknown

omit [SerdeJson Value] in
theorem tamed_mutateAndPersist_unknown
    {effect : RoomState Value → RoomState Value}
    {operation : Storage Unit} {response : CommandResponse}
    {access : Access} {first : SyncpondKernel Value → SyncpondKernel Value}
    {next : SyncpondKernel Value → Task Value CommandResponse}
    (task : mutateAndPersist faults roomId effect operation response =
      .step access first next) :
    first kernel = kernel ∧ Tamed (next kernel) := by
  have absent : kernel.state.rooms[roomId]? = none :=
    Std.ExtTreeMap.getElem?_eq_none unknown
  have found : kernel.mutateRoom roomId effect = (.unknown, kernel) := by
    simp [SyncpondKernel.mutateRoom, absent]
  cases task
  refine ⟨congrArg Prod.snd found, ?_⟩
  simp only [Program.bind, found]
  exact Program.Every.bind (Program.every_atomic Tame.refl) fun _ => trivial

/-- The first section of a command refuses an unknown room. -/
theorem tamed_unknown {command : Commands}
    (named : namedRoom command = some roomId)
    (notLoad : command ≠ .loadRoom roomId) {access : Access}
    {effect : SyncpondKernel Value → SyncpondKernel Value}
    {next : SyncpondKernel Value → Task Value CommandResponse}
    (task : handleCommand faults command = .step access effect next) :
    effect kernel = kernel ∧ Tamed (next kernel) := by
  have absent : kernel.state.rooms[roomId]? = none :=
    Std.ExtTreeMap.getElem?_eq_none unknown
  cases command with
  | newRoom name => cases named
  | newBucket other bucketId label =>
      cases named
      exact tamed_mutateAndPersist_unknown unknown task
  | deleteBucket other bucketId =>
      cases named
      exact tamed_mutateAndPersist_unknown unknown task
  | newMember other member =>
      cases named
      exact tamed_mutateAndPersist_unknown unknown task
  | deleteMember other member =>
      cases named
      exact tamed_mutateAndPersist_unknown unknown task
  | writeFragment other bucketId key data =>
      cases named
      cases task
      refine ⟨rfl, ?_⟩
      simp only [Program.bind, AppState.isRoomLoaded, absent]
      trivial
  | readFragment other bucketId key =>
      cases task
      exact ⟨rfl, trivial⟩
  | loadRoom other =>
      cases named
      exact absurd rfl notLoad
  | unloadRoom other =>
      cases named
      cases task
      refine ⟨?_, trivial⟩
      simp [SyncpondKernel.unloadRoom, AppState.unloadRoom,
        AppState.withRoom, absent]

end Unknown

/-! ## Commands in progress -/

/-- A `LoadRoom` that could create the folder of the last id. -/
def LoadsLast (faults : Faults) (command : Commands) : Prop :=
  command = .loadRoom maxRoomId ∧ faults.createDir maxRoomId = none

/-- What is known of a command in progress. -/
inductive Known (created : List RoomId) (faults : Faults)
    (command : Commands) : Task Value CommandResponse → Prop
  | waiting (allowed : ¬LoadsLast faults command) :
      Known created faults command (handleCommand faults command)
  | running {program : Task Value CommandResponse} (tamed : Tamed program)
      (returns : ∀ name, command = .newRoom name → ∃ roomId ∈ created,
        program.Ends (· = .newRoomResponse roomId)) :
      Known created faults command program

theorem Known.mono {created more : List RoomId} {faults : Faults}
    {command : Commands} {program : Task Value CommandResponse}
    (known : Known created faults command program)
    (subset : ∀ roomId ∈ created, roomId ∈ more) :
    Known more faults command program := by
  cases known with
  | waiting allowed => exact .waiting allowed
  | running tamed returns =>
      refine .running tamed fun name isNew => ?_
      obtain ⟨roomId, member, ends⟩ := returns name isNew
      exact ⟨roomId, subset roomId member, ends⟩

/-- `NewRoom` returns an id that was given out. -/
theorem Known.returned {created : List RoomId} {faults : Faults}
    {command : Commands} {program : Task Value CommandResponse}
    (known : Known created faults command program) {roomId : RoomId}
    (member : roomId ∈
      returnedBy (some (faults, command)) (some program)) :
    roomId ∈ created := by
  unfold returnedBy at member
  split at member
  · next issued ended =>
    cases issued
    cases ended
    cases List.mem_singleton.mp member
    generalize ended : Program.done (CommandResponse.newRoomResponse roomId) =
      program at known
    cases known with
    | waiting allowed => cases ended
    | running tamed returns =>
        obtain ⟨given, isGiven, ends⟩ := returns _ rfl
        subst ended
        cases ends
        exact isGiven
  · cases member

/-- The invariant: ids in use are below the next id. -/
structure Below (life : Lifetime Value) : Prop where
  rooms : ∀ roomId ∈ life.kernel.state.rooms,
    roomId < life.kernel.state.nextRoomId
  created : ∀ roomId ∈ life.created, roomId < life.kernel.state.nextRoomId
  returned : ∀ roomId ∈ life.returned, roomId ∈ life.created
  noLastFolder : roomDir maxRoomId ∉ life.kernel.persistence.dirs
  aligned : life.pool.tasks.length = life.commands.length
  known : ∀ (task : Nat) (program : Task Value CommandResponse),
    life.pool.tasks[task]? = some program →
      ∃ faults command, life.commands[task]? = some (faults, command) ∧
        Known life.created faults command program

/-! ## Steps -/

omit [SerdeJson Value] in
theorem ne_max_of_lt {roomId next : RoomId} (below : roomId < next) :
    roomId ≠ maxRoomId := by
  rintro rfl
  have bound := next.toNat_lt
  have above := UInt64.lt_iff_toNat_lt.mp below
  simp only [maxRoomId] at above
  change 0xFFFFFFFFFFFFFFFF < next.toNat at above
  omega

/-- A `LoadRoom` of the last id that cannot create its folder. -/
theorem tamed_loadsLast {faults : Faults} {kernel : SyncpondKernel Value}
    (housed : Housed kernel.persistence)
    (noLastFolder : roomDir maxRoomId ∉ kernel.persistence.dirs)
    {text : String} (fails : faults.createDir maxRoomId = some text)
    {access : Access}
    {effect : SyncpondKernel Value → SyncpondKernel Value}
    {next : SyncpondKernel Value → Task Value CommandResponse}
    (task : handleCommand faults (.loadRoom maxRoomId) =
      .step access effect next) :
    Tame kernel (effect kernel) ∧ Tamed (next kernel) := by
  have closed : maxRoomId ∉ kernel.persistence.dbs :=
    fun opened => noLastFolder (housed.opened _ opened)
  obtain ⟨error, opening⟩ : ∃ error,
      kernel.persistence.openRoomDb faults maxRoomId =
        (kernel.persistence, .error error) := by
    simp [PersistenceManager.openRoomDb, closed, fails]
  cases task
  constructor
  · simp only [opening]
    exact .refl kernel
  · simp only [Program.bind, opening]
    trivial

omit [SerdeJson Value] in
theorem ends_afterCreate {faults : Faults} {name : String}
    {roomId : RoomId} :
    (afterCreate faults name roomId : Task Value CommandResponse).Ends
      (· = .newRoomResponse roomId) := by
  refine Program.Ends.bind (fun _ => ?_) _
  refine Program.Ends.bind (fun _ => ?_) _
  exact rfl

omit [SerdeJson Value] in
theorem tamed_afterCreate {faults : Faults} {name : String}
    {roomId : RoomId} (notMax : roomId ≠ maxRoomId) :
    Tamed (afterCreate faults name roomId : Task Value CommandResponse) := by
  refine Program.Every.bind (tamed_of_serving notMax .openRoomDb) fun _ => ?_
  refine Program.Every.bind (Program.every_atomic fun kernel => ?_)
    fun _ => trivial
  dsimp only
  exact tame_of_serves notMax (serves_labelRoom roomId name kernel)

section Advance

variable {life : Lifetime Value} (below : Below life)

include below

theorem unknown_max : maxRoomId ∉ life.kernel.state.rooms :=
  fun present => ne_max_of_lt (below.rooms _ present) rfl

/-- A command in progress creates the room of the next id, or is tame. -/
theorem Known.advance (housed : Housed life.kernel.persistence)
    {faults : Faults} {command : Commands} {access : Access}
    {effect : SyncpondKernel Value → SyncpondKernel Value}
    {next : SyncpondKernel Value → Task Value CommandResponse}
    (known : Known life.created faults command (.step access effect next))
    (fits : ∀ name, .step access effect next = handleNewRoom faults name →
      life.kernel.state.nextRoomId ≠ maxRoomId) :
    (Tame life.kernel (effect life.kernel) ∧
        Known life.created faults command (next life.kernel)) ∨
      (∃ name, .step access effect next = handleNewRoom faults name) ∧
        effect life.kernel = life.kernel.createRoom.2 ∧
        Known (life.created ++ [life.kernel.state.nextRoomId]) faults command
          (next life.kernel) := by
  generalize task : Program.step access effect next = program at known fits
  cases known with
  | running tamed returns =>
      subst task
      refine Or.inl ⟨tamed.1 _, .running (tamed.2 _) fun name isNew => ?_⟩
      obtain ⟨roomId, member, ends⟩ := returns name isNew
      exact ⟨roomId, member, ends _⟩
  | waiting allowed =>
      cases named : namedRoom command with
      | none =>
          cases command with
          | newRoom name =>
              have notMax := fits name rfl
              refine Or.inr ⟨⟨name, rfl⟩, ?_⟩
              cases task
              refine ⟨rfl, .running (tamed_afterCreate notMax) ?_⟩
              rintro other ⟨⟩
              refine ⟨_, List.mem_append_right _ List.mem_cons_self, ?_⟩
              exact ends_afterCreate
          | _ => cases named
      | some roomId =>
          have notNew : ∀ name, command ≠ .newRoom name := by
            rintro name rfl
            cases named
          have done {rest : Task Value CommandResponse} (tamed : Tamed rest) :
              Known life.created faults command rest :=
            .running tamed fun name isNew => absurd isNew (notNew name)
          left
          by_cases isMax : roomId = maxRoomId
          · subst isMax
            by_cases isLoad : command = .loadRoom maxRoomId
            · subst isLoad
              cases fails : faults.createDir maxRoomId with
              | none => exact absurd ⟨rfl, fails⟩ allowed
              | some text =>
                  have tamed := tamed_loadsLast housed below.noLastFolder
                    fails task.symm
                  exact ⟨tamed.1, done tamed.2⟩
            · have tamed := tamed_unknown (unknown_max below) named isLoad
                task.symm
              rw [tamed.1]
              exact ⟨.refl _, done tamed.2⟩
          · have tamed : Tamed (.step access effect next) := task ▸
              tamed_of_serving isMax (serving_handleCommand faults named)
            exact ⟨tamed.1 _, done (tamed.2 _)⟩

end Advance

/-- Startup opens the folder of this or of a later room. -/
def Remembers (faults : Faults) (dirs : Map String Db) (roomId : RoomId) :
    Prop :=
  faults.readDir = none ∧
    ∃ latest ≥ roomId, roomDir latest ∈ dirs ∧ Opens faults latest

/--
`LoadRoom` does not create the last folder, the last id is not given out, and
startup remembers the rooms that were created.
-/
def KeepsIds (life : Lifetime Value) : LifetimeEvent → Prop
  | .command faults command => ¬LoadsLast faults command
  | .advance task => Creating life task →
      life.kernel.state.nextRoomId ≠ maxRoomId
  | .restart faults => ∀ roomId ∈ life.createdRooms,
      Remembers faults life.kernel.persistence.dirs roomId
  | _ => True

/-! ## Runs -/

section Step

variable {life : Lifetime Value} (below : Below life)
variable (housed : Housed life.kernel.persistence)

include below

theorem below_command (faults : Faults) {command : Commands}
    (allowed : ¬LoadsLast faults command) :
    Below { life with
      pool := life.pool.spawn (handleCommand faults command)
      commands := life.commands ++ [(faults, command)] } where
  rooms := below.rooms
  created := below.created
  returned := below.returned
  noLastFolder := below.noLastFolder
  aligned := by simp [Pool.spawn, below.aligned]
  known task program found := by
    rcases Nat.lt_or_ge task life.pool.tasks.length with inside | outside
    · rw [Pool.spawn, List.getElem?_append_left inside] at found
      obtain ⟨faults, command, issued, known⟩ := below.known task _ found
      refine ⟨faults, command, ?_, known⟩
      rwa [List.getElem?_append_left (below.aligned ▸ inside)]
    · rw [Pool.spawn, List.getElem?_append_right outside] at found
      rw [List.getElem?_append_right (below.aligned ▸ outside)]
      have last : task = life.pool.tasks.length := by
        have bound := (List.getElem?_eq_some_iff.mp found).1
        rw [List.length_singleton] at bound
        omega
      rw [List.mem_singleton.mp (List.mem_of_getElem? found)]
      refine ⟨faults, command, ?_, .waiting allowed⟩
      simp [last, below.aligned]

omit below [SerdeJson Value] in
theorem givenOut_createRoom (kernel : SyncpondKernel Value)
    (notMax : kernel.state.nextRoomId ≠ maxRoomId) :
    givenOut kernel.state kernel.createRoom.2.state =
      [kernel.state.nextRoomId] := by
  refine if_neg fun same => ?_
  have above := lt_succ (fits_of_ne_max notMax)
  simp only [SyncpondKernel.createRoom, AppState.createRoom] at same
  rw [same] at above
  exact UInt64.lt_irrefl _ above

/-- A section that is tame, or creates a room, of a task that is known. -/
theorem below_advance (housed : Housed life.kernel.persistence) {task : Nat}
    {access : Access}
    {effect : SyncpondKernel Value → SyncpondKernel Value}
    {next : SyncpondKernel Value → Task Value CommandResponse}
    {holder : Option Nat}
    (isTask : life.pool.tasks[task]? = some (.step access effect next))
    (allowed : KeepsIds life (.advance task)) :
    Below (life.observe task
      ⟨effect life.kernel, life.pool.tasks.set task (next life.kernel),
        holder⟩) := by
  obtain ⟨faults, command, issued, known⟩ := below.known task _ isTask
  have fits : ∀ name,
      Program.step access effect next = handleNewRoom faults name →
        life.kernel.state.nextRoomId ≠ maxRoomId :=
    fun name isNew => allowed ⟨faults, name, isNew ▸ isTask⟩
  obtain ⟨rooms, created, noLastFolder, advanced⟩ :
      (∀ roomId ∈ (effect life.kernel).state.rooms,
          roomId < (effect life.kernel).state.nextRoomId) ∧
        (∀ roomId ∈ life.created ++
            givenOut life.kernel.state (effect life.kernel).state,
          roomId < (effect life.kernel).state.nextRoomId) ∧
        roomDir maxRoomId ∉ (effect life.kernel).persistence.dirs ∧
        Known (life.created ++
            givenOut life.kernel.state (effect life.kernel).state)
          faults command (next life.kernel) := by
    rcases known.advance below housed fits with
      ⟨tame, advanced⟩ | ⟨⟨name, isNew⟩, creates, advanced⟩
    · have none : givenOut life.kernel.state (effect life.kernel).state = [] :=
        if_pos tame.nextRoomId
      rw [none, List.append_nil, tame.nextRoomId]
      exact ⟨fun roomId member => below.rooms roomId (tame.rooms _ member),
        below.created, tame.noLastFolder below.noLastFolder, advanced⟩
    · have notMax := fits name isNew
      have above := lt_succ (fits_of_ne_max notMax)
      have grow {roomId : RoomId}
          (older : roomId < life.kernel.state.nextRoomId) :
          roomId < life.kernel.state.nextRoomId + 1 :=
        UInt64.lt_trans older above
      rw [creates, givenOut_createRoom life.kernel notMax]
      refine ⟨?_, ?_, below.noLastFolder, advanced⟩
      · intro roomId member
        rcases mem_map_insert.mp member with rfl | older
        · exact above
        · exact grow (below.rooms roomId older)
      · intro roomId member
        rcases List.mem_append.mp member with older | newest
        · exact grow (below.created roomId older)
        · rw [List.mem_singleton.mp newest]
          exact above
  obtain ⟨bound, _⟩ := List.getElem?_eq_some_iff.mp isTask
  have kept : ∀ roomId ∈ life.created, roomId ∈ life.created ++
      givenOut life.kernel.state (effect life.kernel).state :=
    fun _ member => List.mem_append_left _ member
  exact {
    rooms := rooms
    created := created
    returned := by
      intro roomId member
      rcases List.mem_append.mp member with older | newest
      · exact kept roomId (below.returned roomId older)
      · rw [issued, List.getElem?_set_self bound] at newest
        exact advanced.returned newest
    noLastFolder := noLastFolder
    aligned := (List.length_set ..).trans below.aligned
    known := by
      intro other program found
      change (life.pool.tasks.set task (next life.kernel))[other]? =
        some program at found
      by_cases same : task = other
      · subst same
        rw [List.getElem?_set_self bound] at found
        cases found
        exact ⟨faults, command, issued, advanced⟩
      · rw [List.getElem?_set_ne same] at found
        obtain ⟨faults, command, issued, known⟩ := below.known other _ found
        exact ⟨faults, command, issued, known.mono kept⟩ }

/-- Between sections, rooms can only be deleted. -/
theorem below_between {event : LifetimeEvent}
    {after : SyncpondKernel Value}
    (persistence : after.persistence = life.kernel.persistence)
    (state : after.state = life.kernel.state ∨
      ∃ roomId, event = .deleteRoom roomId ∧
        after.state = (life.kernel.deleteRoom roomId).2.state) :
    Below { life with pool := { life.pool with shared := after } } := by
  obtain ⟨rooms, nextRoomId⟩ :
      (∀ roomId ∈ after.state.rooms, roomId ∈ life.kernel.state.rooms) ∧
        after.state.nextRoomId = life.kernel.state.nextRoomId := by
    rcases state with same | ⟨deletedRoom, _, same⟩
    · rw [same]
      exact ⟨fun _ => id, rfl⟩
    · rw [same]
      unfold SyncpondKernel.deleteRoom AppState.deleteRoom
      by_cases known : life.kernel.state.rooms.contains deletedRoom
      · rw [if_pos known]
        exact ⟨fun _ member => (Std.ExtTreeMap.mem_erase.mp member).2, rfl⟩
      · rw [if_neg known]
        exact ⟨fun _ => id, rfl⟩
  exact {
    rooms := by
      change ∀ roomId ∈ after.state.rooms, roomId < after.state.nextRoomId
      rw [nextRoomId]
      exact fun roomId member => below.rooms roomId (rooms roomId member)
    created := by
      change ∀ roomId ∈ life.created, roomId < after.state.nextRoomId
      rw [nextRoomId]
      exact below.created
    returned := below.returned
    noLastFolder := by
      change roomDir maxRoomId ∉ after.persistence.dirs
      rw [persistence]
      exact below.noLastFolder
    aligned := below.aligned
    known := below.known }

theorem below_restart (housed : Housed life.kernel.persistence)
    {faults : Faults} (remembers : ∀ roomId ∈ life.createdRooms,
      Remembers faults life.kernel.persistence.dirs roomId) :
    Below (life.restart faults) := by
  have registered := fun roomId =>
    @mem_startupRooms _ housed.named faults roomId
  have noLast : maxRoomId ∉
      startupRooms faults life.kernel.persistence.dirs := by
    rw [registered]
    exact fun found => below.noLastFolder found.2.1
  exact {
    rooms := by
      intro roomId member
      exact lt_nextRoomId_registerExisting noLast
        ((mem_rooms_boot faults).mp member)
    created := by
      intro roomId member
      obtain ⟨found, latest, later, isFolder, opens⟩ :=
        remembers roomId member
      exact UInt64.lt_of_le_of_lt later
        (lt_nextRoomId_registerExisting noLast
          ((registered latest).mpr ⟨found, isFolder, opens⟩))
    returned := by
      intro roomId member
      change roomId ∈ life.returned at member
      exact List.mem_filter.mpr
        ⟨below.returned roomId member, by simp [member]⟩
    noLastFolder := by
      change roomDir maxRoomId ∉ (boot faults _).persistence.dirs
      rw [dirs_boot housed.named]
      exact below.noLastFolder
    aligned := rfl
    known := by
      intro task program found
      cases found }

end Step

/-- The invariant holds in every run that keeps the ids. -/
theorem below_of_run {life : Lifetime Value}
    (run : Follows Lifetime.step KeepsIds .start life) :
    Reached life ∧ Below life := by
  refine run.invariant (fun life => Reached life ∧ Below life) ?_ ?_
  · rintro life event after ⟨reached, below⟩ keeps stepped
    refine ⟨reached.next trivial stepped, ?_⟩
    have housed := housed_of_reached reached
    cases lifetimeStep stepped with
    | command faults command => exact below_command below faults keeps
    | advance task access effect next holder isTask =>
        exact below_advance below housed isTask keeps
    | between event after persistence state =>
        exact below_between below persistence state
    | restart faults => exact below_restart below housed keeps
  · refine ⟨.start, ?_⟩
    have noFolder : ∀ name ∈ (∅ : Map String Db),
        ∃ roomId, name = roomDir roomId := by
      intro name member
      simp at member
    have noRoom (roomId : RoomId) :
        roomId ∉ (boot .none ∅ : SyncpondKernel Value).state.rooms := by
      rw [mem_rooms_boot, mem_startupRooms noFolder]
      simp
    exact {
      rooms := fun roomId member => absurd member (noRoom roomId)
      created := fun _ member => by cases member
      returned := fun _ member => by cases member
      noLastFolder := by
        change roomDir maxRoomId ∉ (boot .none ∅ : SyncpondKernel Value).persistence.dirs
        rw [dirs_boot noFolder]
        simp
      aligned := rfl
      known := fun _ _ found => by cases found }

/-- What a step does with the ids of rooms. -/
structure FreshIds (life : Lifetime Value) (event : LifetimeEvent)
    (after : Lifetime Value) : Prop where
  /-- `create_room` does not overflow, and its id is that of no room. -/
  created : ∀ task, event = .advance task → Creating life task →
    life.kernel.state.nextRoomId.toNat + 1 < UInt64.size ∧
      life.kernel.state.nextRoomId ∉ life.kernel.state.rooms ∧
      life.kernel.state.nextRoomId ∉ life.created ∧
      after.created = life.created ++ [life.kernel.state.nextRoomId]
  /-- `NewRoom` returns an id that `create_room` gave out. -/
  returned : ∀ roomId ∈ after.returned, roomId ∈ after.created
  /-- The next id after the largest one that startup finds fits. -/
  startup : ∀ faults, event = .restart faults → ∀ maxId,
    (startupRooms faults life.kernel.persistence.dirs).max? = some maxId →
      maxId.toNat + 1 < UInt64.size

/--
In every run in which `LoadRoom` does not create the folder of the last id, the
last id is not given out, and every startup remembers the rooms that were
created, the ids of rooms are fresh.
-/
theorem room_ids_fresh {life after : Lifetime Value}
    (run : Follows Lifetime.step KeepsIds .start life)
    {event : LifetimeEvent} (keeps : KeepsIds life event)
    (stepped : life.step event = some after) : FreshIds life event after := by
  obtain ⟨reached, below⟩ := below_of_run run
  have housed := housed_of_reached reached
  refine ⟨?_, (below_of_run (run.next keeps stepped)).2.returned, ?_⟩
  · rintro task rfl creating
    have notMax := keeps creating
    have unused {roomId : RoomId}
        (older : roomId < life.kernel.state.nextRoomId) :
        roomId ≠ life.kernel.state.nextRoomId := by
      rintro rfl
      exact UInt64.lt_irrefl _ older
    refine ⟨fits_of_ne_max notMax, fun member => unused (below.rooms _ member) rfl,
      fun member => unused (below.created _ member) rfl, ?_⟩
    obtain ⟨faults, name, isNew⟩ := creating
    obtain ⟨pool, advanced, rfl⟩ := Option.map_eq_some_iff.mp stepped
    obtain ⟨access, effect, next, isTask, _, rfl⟩ :=
      Pool.advance_eq_some advanced
    cases isNew.symm.trans isTask
    exact congrArg _ (givenOut_createRoom life.kernel notMax)
  · rintro faults rfl maxId found
    have listed := (List.max?_eq_some_iff.mp found).1
    refine fits_of_ne_max ?_
    rintro rfl
    exact below.noLastFolder ((mem_startupRooms housed.named faults).mp listed).2.1

/-! ### A third room after a restart -/

/-- Check that a step keeps the ids of rooms. -/
def checkIds (life : Lifetime Value) : LifetimeEvent → Bool
  | .command _ (.loadRoom roomId) => decide (roomId ≠ maxRoomId)
  | .advance _ => decide (life.kernel.state.nextRoomId ≠ maxRoomId)
  | .restart faults =>
      faults.readDir.isNone && life.createdRooms.all fun roomId =>
        life.kernel.persistence.dirs.contains (roomDir roomId) &&
          (faults.createDir roomId).isNone && (faults.openDb roomId).isNone
  | _ => true

omit [SerdeJson Value] in
theorem keepsIds_of_check (life : Lifetime Value) (event : LifetimeEvent)
    (checked : checkIds life event = true) : KeepsIds life event := by
  cases event with
  | command faults command =>
      rintro ⟨rfl, _⟩
      have other : maxRoomId ≠ maxRoomId := of_decide_eq_true checked
      exact other rfl
  | advance task => exact fun _ => of_decide_eq_true checked
  | restart faults =>
      intro roomId member
      obtain ⟨lists, opens⟩ := Bool.and_eq_true_iff.mp checked
      have isOpened := List.all_eq_true.mp opens roomId member
      simp only [Bool.and_eq_true, Option.isNone_iff_eq_none] at isOpened
      obtain ⟨⟨present, creates⟩, opensDb⟩ := isOpened
      exact ⟨Option.isNone_iff_eq_none.mp lists, roomId, UInt64.le_refl _,
        present, creates, opensDb⟩
  | deleteRoom roomId => trivial
  | receive => trivial

/-- Two rooms are created, and the server restarts. -/
def restarted : List LifetimeEvent :=
  .command .none (.newRoom "first") :: List.replicate 3 (.advance 0) ++
    .command .none (.newRoom "second") :: List.replicate 3 (.advance 1) ++
    [.restart .none]

theorem room_ids_fresh_restarted :
    ∃ life after : Lifetime Json,
      Creating life 0 ∧ life.kernel.state.listRooms = [1, 2] ∧
        life.created = [1, 2] ∧ after.created = [1, 2, 3] ∧
        FreshIds life (.advance 0) after := by
  let third : LifetimeEvent := .command .none (.newRoom "third")
  have observed : (restarted.foldlM (fun (life : Lifetime Json) event =>
      if checkIds life event then life.step event else none) .start).map
        (fun life => ((life.pool.tasks.isEmpty, life.kernel.state.listRooms,
            life.created),
          checkIds life third,
          (life.step third).bind fun arrived =>
            (arrived.step (.advance 0)).map fun after =>
              (checkIds arrived (.advance 0), after.created))) =
        some ((true, [1, 2], [1, 2]), true, some (true, [1, 2, 3])) := by
    decide +kernel
  obtain ⟨before, ran, equal⟩ := Option.map_eq_some_iff.mp observed
  simp only [Prod.mk.injEq] at equal
  obtain ⟨⟨returned, rooms, created⟩, arrives, advances⟩ := equal
  obtain ⟨life, stepped, advances⟩ := Option.bind_eq_some_iff.mp advances
  obtain ⟨after, creates, keeps⟩ := Option.map_eq_some_iff.mp advances
  obtain ⟨keeps, grown⟩ := Prod.mk.inj keeps
  have run : Follows Lifetime.step KeepsIds .start life :=
    (follows_of_checked keepsIds_of_check ran).next
      (keepsIds_of_check before third arrives) stepped
  have fresh := room_ids_fresh run (keepsIds_of_check _ _ keeps) creates
  refine ⟨life, after, ⟨.none, "third", ?_⟩, ?_, ?_, grown, fresh⟩
  all_goals cases stepped
  · simp [Pool.spawn, List.isEmpty_iff.mp returned, handleCommand]
  · exact rooms
  · exact created

/-! ## The last id -/

/-- A room is created, and a client loads the room of the last id. -/
def loadLast : List LifetimeEvent :=
  .command .none (.newRoom "room") :: List.replicate 3 (.advance 0) ++
    .command .none (.loadRoom maxRoomId) :: List.replicate 10 (.advance 1)

/-- After a restart, two rooms are created. -/
def createTwo : List LifetimeEvent :=
  .restart .none ::
    .command .none (.newRoom "second") :: List.replicate 3 (.advance 0) ++
    .command .none (.newRoom "third") :: List.replicate 3 (.advance 1)

/-- Startup computes `0` as the next id, and `create_room` replaces room `1`. -/
theorem lastFolder_repeats_id :
    (loadLast.foldlM Lifetime.step (.start : Lifetime Json)).map (fun life =>
      (life.returned,
        startupRooms .none life.kernel.persistence.dirs)) =
        some ([1], [1, maxRoomId]) ∧
      ((loadLast ++ createTwo).foldlM Lifetime.step
        (.start : Lifetime Json)).map (fun life =>
          (life.returned, life.kernel.state.listRooms)) =
        some ([1, 0, 1], [0, 1, maxRoomId]) := by
  decide +kernel

end Syncpond.RoomIds
