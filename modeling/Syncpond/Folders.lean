import Syncpond.StateRuns

/-!
# The data directory

Each room has a folder of its own in the data directory, and startup registers
the rooms whose folders it finds and opens.  `Serves` says once what a section
of a command to a room does to the registered rooms, the folders and the open
databases, whatever failures the storage has.
-/

namespace Syncpond.Folders

open Syncpond.Protocol
open Syncpond.Serde
open Syncpond.State
open Syncpond.Persistence
open Syncpond.Kernel
open Syncpond.StateRuns
open Syncpond.Library.Maps
open Syncpond.Library.Programs
open Syncpond.Library.Text

variable {Value : Type}

/-- The room that a command names; `NewRoom` names none. -/
def namedRoom : Commands → Option RoomId
  | .newRoom _ => none
  | .newBucket roomId _ _ => some roomId
  | .deleteBucket roomId _ => some roomId
  | .newMember roomId _ => some roomId
  | .deleteMember roomId _ => some roomId
  | .writeFragment roomId _ _ _ => some roomId
  | .readFragment roomId _ _ => some roomId
  | .loadRoom roomId => some roomId
  | .unloadRoom roomId => some roomId

/-- The folder of a room can be created and its database can be opened. -/
def Opens (faults : Faults) (roomId : RoomId) : Prop :=
  faults.createDir roomId = none ∧ faults.openDb roomId = none

/-- Every folder is that of a room, and every open database has one. -/
structure Housed (manager : PersistenceManager) : Prop where
  named : ∀ name ∈ manager.dirs, ∃ roomId, name = roomDir roomId
  opened : ∀ roomId ∈ manager.dbs, roomDir roomId ∈ manager.dirs

/-! ## Opening the database of a room -/

/-- Opening a database creates at most its folder. -/
theorem mem_dirs_openRoomDb (faults : Faults) (manager : PersistenceManager)
    (roomId : RoomId) {name : String} :
    name ∈ (manager.openRoomDb faults roomId).1.dirs ↔
      name ∈ manager.dirs ∨
        (name = roomDir roomId ∧ roomId ∉ manager.dbs ∧
          faults.createDir roomId = none) := by
  unfold PersistenceManager.openRoomDb
  by_cases opened : roomId ∈ manager.dbs
  · rw [if_pos (show manager.dbs.contains roomId = true from opened)]
    simp [opened]
  · rw [if_neg (show ¬manager.dbs.contains roomId = true from opened)]
    cases created : faults.createDir roomId with
    | some text => simp
    | none =>
        cases faults.openDb roomId with
        | some text =>
            simp only [mem_map_insertIfNew, opened, not_false_eq_true,
              and_true]
            rw [eq_comm, or_comm]
        | none =>
            simp only [mem_map_insertIfNew, opened, not_false_eq_true,
              and_true]
            rw [eq_comm, or_comm]

/-- A database is open afterwards if it was, or if it could be opened. -/
theorem mem_dbs_openRoomDb (faults : Faults) (manager : PersistenceManager)
    (roomId : RoomId) {other : RoomId} :
    other ∈ (manager.openRoomDb faults roomId).1.dbs ↔
      other ∈ manager.dbs ∨ (other = roomId ∧ Opens faults roomId) := by
  unfold PersistenceManager.openRoomDb Opens
  by_cases opened : roomId ∈ manager.dbs
  · rw [if_pos (show manager.dbs.contains roomId = true from opened)]
    constructor
    · exact Or.inl
    · rintro (before | ⟨rfl, _⟩)
      · exact before
      · exact opened
  · rw [if_neg (show ¬manager.dbs.contains roomId = true from opened)]
    cases faults.createDir roomId with
    | some text => simp
    | none =>
        cases faults.openDb roomId with
        | some text => simp
        | none =>
            simp only [mem_set_insert, and_true]
            rw [eq_comm, or_comm]

/-- The folder of a room whose database is open afterwards exists. -/
theorem opened_openRoomDb {faults : Faults} {manager : PersistenceManager}
    {roomId : RoomId} (housed : ∀ other ∈ manager.dbs,
      roomDir other ∈ manager.dirs) {other : RoomId}
    (opened : other ∈ (manager.openRoomDb faults roomId).1.dbs) :
    roomDir other ∈ (manager.openRoomDb faults roomId).1.dirs := by
  rw [mem_dirs_openRoomDb]
  rcases (mem_dbs_openRoomDb faults manager roomId).mp opened with
    before | ⟨rfl, created, _⟩
  · exact Or.inl (housed other before)
  · by_cases before : other ∈ manager.dbs
    · exact Or.inl (housed other before)
    · exact Or.inr ⟨rfl, before, created⟩

/-! ## Startup -/

/-- Opening the folder of a room that has one. -/
theorem openExisting_roomDir (faults : Faults) {manager : PersistenceManager}
    {roomId : RoomId} (present : roomDir roomId ∈ manager.dirs) :
    ∃ dbs, manager.openExisting faults (roomDir roomId) =
        { manager with dbs := dbs } ∧
      ∀ other, other ∈ dbs ↔
        other ∈ manager.dbs ∨ (other = roomId ∧ Opens faults roomId) := by
  have unchanged :
      manager.dirs.insertIfNew (roomDir roomId) ∅ = manager.dirs := by
    apply Std.ExtTreeMap.ext_getElem?
    intro name
    rw [lookup_insertIfNew, if_neg]
    exact fun created => created.2 present
  refine ⟨(manager.openRoomDb faults roomId).1.dbs, ?_,
    fun other => mem_dbs_openRoomDb faults manager roomId⟩
  simp only [PersistenceManager.openExisting, parseRoomDir_roomDir,
    PersistenceManager.openRoomDb]
  split
  · rfl
  · split
    · rfl
    · split
      · rw [unchanged]
      · rw [unchanged]

/-- Opening the folders of rooms opens those of them that can be opened. -/
theorem foldl_openExisting (faults : Faults) (names : List String)
    {manager : PersistenceManager}
    (rooms : ∀ name ∈ names,
      name ∈ manager.dirs ∧ ∃ roomId, name = roomDir roomId) :
    ∃ dbs,
      names.foldl (PersistenceManager.openExisting faults) manager =
        { manager with dbs := dbs } ∧
      ∀ roomId, roomId ∈ dbs ↔
        roomId ∈ manager.dbs ∨
          (roomDir roomId ∈ names ∧ Opens faults roomId) := by
  induction names generalizing manager with
  | nil => exact ⟨manager.dbs, rfl, by simp⟩
  | cons name rest ih =>
      obtain ⟨present, roomId, rfl⟩ := rooms name List.mem_cons_self
      obtain ⟨first, opened, inFirst⟩ := openExisting_roomDir faults present
      obtain ⟨dbs, result, members⟩ := @ih { manager with dbs := first }
        fun other member => rooms other (List.mem_cons_of_mem _ member)
      refine ⟨dbs, by rw [List.foldl_cons, opened, result], ?_⟩
      intro other
      rw [members, inFirst, List.mem_cons, roomDir_inj]
      constructor
      · rintro ((before | ⟨rfl, opens⟩) | ⟨member, opens⟩)
        · exact Or.inl before
        · exact Or.inr ⟨Or.inl rfl, opens⟩
        · exact Or.inr ⟨Or.inr member, opens⟩
      · rintro (before | ⟨rfl | member, opens⟩)
        · exact Or.inl (Or.inl before)
        · exact Or.inl (Or.inr ⟨rfl, opens⟩)
        · exact Or.inr ⟨member, opens⟩

/-- The rooms that startup over a data directory registers. -/
def startupRooms (faults : Faults) (dirs : Map String Db) : List RoomId :=
  ((PersistenceManager.new dirs).openExistingRoomDbs faults).1.listRoomIds

section Startup

variable {dirs : Map String Db}
variable (named : ∀ name ∈ dirs, ∃ roomId, name = roomDir roomId)

include named

/-- Startup changes no folder, and opens those that can be opened. -/
theorem openExistingRoomDbs_new (faults : Faults) :
    ∃ dbs,
      ((PersistenceManager.new dirs).openExistingRoomDbs faults).1 =
        { PersistenceManager.new dirs with dbs := dbs } ∧
      ∀ roomId, roomId ∈ dbs ↔
        faults.readDir = none ∧ roomDir roomId ∈ dirs ∧
          Opens faults roomId := by
  unfold PersistenceManager.openExistingRoomDbs
  cases faults.readDir with
  | some text => exact ⟨∅, rfl, by simp⟩
  | none =>
      have rooms : ∀ name ∈ dirs.keys,
          name ∈ (PersistenceManager.new dirs).dirs ∧
            ∃ roomId, name = roomDir roomId := by
        intro name member
        have present : name ∈ dirs := by simpa using member
        exact ⟨present, named name present⟩
      obtain ⟨dbs, opened, members⟩ :=
        foldl_openExisting faults dirs.keys rooms
      refine ⟨dbs, opened, ?_⟩
      intro roomId
      rw [members]
      simp [PersistenceManager.new]

/-- A room is registered if its folder is found and can be opened. -/
theorem mem_startupRooms (faults : Faults) {roomId : RoomId} :
    roomId ∈ startupRooms faults dirs ↔
      faults.readDir = none ∧ roomDir roomId ∈ dirs ∧
        Opens faults roomId := by
  obtain ⟨dbs, opened, members⟩ := openExistingRoomDbs_new named faults
  rw [startupRooms, opened, ← members]
  simp [PersistenceManager.listRoomIds]

@[simp]
theorem dirs_boot (faults : Faults) :
    (boot faults dirs : SyncpondKernel Value).persistence.dirs = dirs := by
  obtain ⟨dbs, opened, _⟩ := openExistingRoomDbs_new named faults
  unfold boot
  rw [opened]
  rfl

theorem housed_boot (faults : Faults) :
    Housed (boot faults dirs : SyncpondKernel Value).persistence := by
  obtain ⟨dbs, opened, members⟩ := openExistingRoomDbs_new named faults
  unfold boot
  rw [opened]
  exact ⟨named, fun roomId member => ((members roomId).mp member).2.1⟩

end Startup

/-- The registered rooms are those whose folders startup opened. -/
theorem mem_rooms_boot (faults : Faults) {dirs : Map String Db}
    {roomId : RoomId} :
    roomId ∈ (boot faults dirs : SyncpondKernel Value).state.rooms ↔
      roomId ∈ startupRooms faults dirs := by
  rw [Std.ExtTreeMap.mem_iff_isSome_getElem?]
  simp only [boot, lookup_registerExisting, startupRooms]
  split <;> simp_all [AppState.new]

/-- The next id is above the registered ones, unless they end with the last. -/
theorem lt_nextRoomId_registerExisting {existing : List RoomId}
    (bounded : maxRoomId ∉ existing) {roomId : RoomId}
    (member : roomId ∈ existing) :
    roomId <
      (registerExisting (.new : AppState Value) existing).nextRoomId := by
  obtain ⟨maxId, found⟩ := Option.isSome_iff_exists.mp
    (List.isSome_max?_of_mem member)
  obtain ⟨inside, above⟩ := List.max?_eq_some_iff.mp found
  have atMost := UInt64.le_iff_toNat_le.mp (above roomId member)
  unfold registerExisting
  simp only [found]
  split
  · have fits := fits_of_ne_max fun isMax => bounded (isMax ▸ inside)
    rw [UInt64.lt_iff_toNat_lt, toNat_succ fits]
    exact Nat.lt_succ_of_le atMost
  · next larger =>
    exact UInt64.lt_of_le_of_lt (above roomId member)
      (UInt64.not_le.mp larger)

/-! ## Sections -/

/--
What a section of a command to a room does: it registers no room, and creates
and opens at most the folder of its room.
-/
structure Serves (roomId : RoomId) (kernel after : SyncpondKernel Value) :
    Prop where
  rooms : ∀ other ∈ after.state.rooms, other ∈ kernel.state.rooms
  nextRoomId : after.state.nextRoomId = kernel.state.nextRoomId
  kept : ∀ name ∈ kernel.persistence.dirs, name ∈ after.persistence.dirs
  created : ∀ name ∈ after.persistence.dirs,
    name ∈ kernel.persistence.dirs ∨ name = roomDir roomId
  opened : (∀ other ∈ kernel.persistence.dbs,
      roomDir other ∈ kernel.persistence.dirs) →
    ∀ other ∈ after.persistence.dbs, roomDir other ∈ after.persistence.dirs

theorem Serves.housed {roomId : RoomId} {kernel after : SyncpondKernel Value}
    (serves : Serves roomId kernel after)
    (housed : Housed kernel.persistence) : Housed after.persistence where
  named name member := by
    rcases serves.created name member with before | rfl
    · exact housed.named name before
    · exact ⟨roomId, rfl⟩
  opened := serves.opened housed.opened

theorem Serves.trans {roomId : RoomId} {kernel middle after : SyncpondKernel Value}
    (front : Serves roomId kernel middle) (back : Serves roomId middle after) :
    Serves roomId kernel after where
  rooms other member := front.rooms other (back.rooms other member)
  nextRoomId := back.nextRoomId.trans front.nextRoomId
  kept name member := back.kept name (front.kept name member)
  created name member := (back.created name member).elim (front.created name) Or.inr
  opened housed := back.opened (front.opened housed)

/-- All sections serve a room. -/
def Serving {Result : Type} (roomId : RoomId) (task : Task Value Result) :
    Prop :=
  task.Every fun _ effect => ∀ kernel, Serves roomId kernel (effect kernel)

variable {roomId : RoomId}

/-- A section that keeps the persistence. -/
theorem serves_of_state {kernel after : SyncpondKernel Value}
    (persistence : after.persistence = kernel.persistence)
    (rooms : ∀ other ∈ after.state.rooms, other ∈ kernel.state.rooms)
    (nextRoomId : after.state.nextRoomId = kernel.state.nextRoomId) :
    Serves roomId kernel after where
  rooms := rooms
  nextRoomId := nextRoomId
  kept := by rw [persistence]; exact fun _ member => member
  created := by rw [persistence]; exact fun _ => Or.inl
  opened := by rw [persistence]; exact id

theorem Serves.refl (kernel : SyncpondKernel Value) :
    Serves roomId kernel kernel :=
  serves_of_state rfl (fun _ member => member) rfl

namespace Serving

/-- Alone, a program whose sections serve a room serves it. -/
theorem run {Result : Type} {task : Task Value Result}
    (serving : Serving roomId task) (kernel : SyncpondKernel Value) :
    Serves roomId kernel (task.run kernel).2 := by
  induction task generalizing kernel with
  | done result => exact .refl kernel
  | step access effect next ih =>
      exact (serving.1 kernel).trans (ih kernel (serving.2 kernel) _)

theorem openRoomDb {faults : Faults} :
    Serving roomId
      (Task.openRoomDb faults roomId : Task Value (Except String Unit)) := by
  refine Program.every_atomic fun kernel => ?_
  exact {
    rooms := fun _ member => member
    nextRoomId := rfl
    kept := fun _ member => (mem_dirs_openRoomDb ..).mpr (Or.inl member)
    created := fun _ member =>
      ((mem_dirs_openRoomDb ..).mp member).imp id And.left
    opened := fun housed _ member => opened_openRoomDb housed member }

/-- Operations on the database of a room work in its folder. -/
theorem writeBack (kernel : SyncpondKernel Value) (room : RoomPersistence) :
    Serves roomId kernel
      { kernel with
        persistence := kernel.persistence.writeBack roomId room } where
  rooms := fun _ member => member
  nextRoomId := rfl
  kept := fun _ member => mem_map_insert.mpr (Or.inr member)
  created := fun _ member =>
    (mem_map_insert.mp member).symm.imp id Eq.symm
  opened := fun housed other member =>
    mem_map_insert.mpr (Or.inr (housed other member))

theorem onRoom {Result : Type} (operation : Storage Result) :
    Serving roomId (Task.onRoom roomId operation :
      Task Value (Option (Except String Result))) := by
  refine Program.Every.bind (Program.every_atomic Serves.refl) ?_
  rintro (isClosed | isOpen)
  · trivial
  · refine Program.Every.bind (Program.Every.zoom ?_
      (Program.every_of_forall (fun _ _ => trivial) operation.run)) ?_
    · exact fun _ _ _ kernel => writeBack kernel _
    · exact fun _ => trivial

theorem persist {faults : Faults} (operation : Storage Unit) :
    Serving roomId (Task.persist faults roomId operation : Task Value Unit) :=
  Program.Every.bind openRoomDb fun _ =>
    Program.Every.bind (onRoom operation) fun _ => trivial

theorem release : Serving roomId (Task.release : Task Value Unit) :=
  Program.every_atomic Serves.refl

end Serving

/-! ## Rooms that stay registered -/

section Rooms

variable {app after : AppState Value}

theorem mem_rooms_of_insert {changed : RoomId} {room : RoomState Value}
    (known : changed ∈ app.rooms)
    (rooms : after.rooms = app.rooms.insert changed room)
    (present : roomId ∈ after.rooms) : roomId ∈ app.rooms := by
  rw [rooms, mem_map_insert] at present
  rcases present with rfl | before
  · exact known
  · exact before

theorem mem_rooms_of_lookup {room : RoomState Value}
    (present : app.rooms[roomId]? = some room) : roomId ∈ app.rooms :=
  Std.ExtTreeMap.mem_iff_isSome_getElem?.mpr (by simp [present])

theorem mem_rooms_withRoom {changed : RoomId}
    {mutate : RoomState Value → Except StateError (RoomState Value)}
    (result : app.withRoom changed mutate = .ok after)
    (present : roomId ∈ after.rooms) : roomId ∈ app.rooms := by
  obtain ⟨room, changedRoom, known, _, rfl⟩ := withRoom_ok result
  exact mem_rooms_of_insert (mem_rooms_of_lookup known) rfl present

theorem nextRoomId_withRoom {changed : RoomId}
    {mutate : RoomState Value → Except StateError (RoomState Value)}
    (result : app.withRoom changed mutate = .ok after) :
    after.nextRoomId = app.nextRoomId := by
  obtain ⟨room, changedRoom, _, _, rfl⟩ := withRoom_ok result
  rfl

end Rooms

/-! ## Commands -/

/-- A section that replaces the state by the result of a mutation of a room. -/
theorem serves_withRoom {kernel : SyncpondKernel Value} {changed : RoomId}
    {after : AppState Value}
    {mutate : RoomState Value → Except StateError (RoomState Value)}
    (result : kernel.state.withRoom changed mutate = .ok after) :
    Serves roomId kernel { kernel with state := after } :=
  serves_of_state rfl (fun _ member => mem_rooms_withRoom result member)
    (nextRoomId_withRoom result)

theorem serves_mutateRoom (changed : RoomId)
    (effect : RoomState Value → RoomState Value)
    (kernel : SyncpondKernel Value) :
    Serves roomId kernel (kernel.mutateRoom changed effect).2 := by
  unfold SyncpondKernel.mutateRoom
  split
  · exact .refl kernel
  · next room present =>
    split
    · exact .refl kernel
    · exact serves_of_state rfl (fun _ member =>
        mem_rooms_of_insert (mem_rooms_of_lookup present) rfl member) rfl

theorem serves_labelRoom (labelled : RoomId) (name : String)
    (kernel : SyncpondKernel Value) :
    Serves roomId kernel (kernel.labelRoom labelled name) := by
  unfold SyncpondKernel.labelRoom
  split
  · exact .refl kernel
  · split
    · next app result =>
      obtain ⟨labels, rfl⟩ := exists_setRoomLabel_eq result
      exact serves_of_state rfl (fun _ member => member) rfl
    · exact .refl kernel

theorem serving_mutateAndPersist (faults : Faults)
    (effect : RoomState Value → RoomState Value)
    (operation : Storage Unit) (response : CommandResponse) :
    Serving roomId
      (mutateAndPersist faults roomId effect operation response) := by
  refine Program.Every.bind
    (Program.every_atomic (serves_mutateRoom roomId effect)) ?_
  rintro (_ | _ | _)
  · exact Program.Every.bind Serving.release fun _ => trivial
  · exact Program.Every.bind Serving.release fun _ => trivial
  · exact Program.Every.bind (Serving.persist operation) fun _ =>
      Program.Every.bind Serving.release fun _ => trivial

theorem serves_commitWrite (bucketId : BucketId) (key : String)
    (parsed : Value) (kernel : SyncpondKernel Value) :
    Serves roomId kernel
      (kernel.commitWrite roomId bucketId key parsed).2 := by
  unfold SyncpondKernel.commitWrite
  split
  · next app result => exact serves_withRoom result
  · exact .refl kernel

theorem serves_installRoomData (data : RoomData Value)
    (kernel : SyncpondKernel Value) :
    Serves roomId kernel (kernel.installRoomData roomId data).2 := by
  unfold SyncpondKernel.installRoomData
  split
  · next app result => exact serves_withRoom result
  · exact .refl kernel

theorem serves_unloadRoom (kernel : SyncpondKernel Value) :
    Serves roomId kernel (kernel.unloadRoom roomId).2 := by
  unfold SyncpondKernel.unloadRoom
  split
  · next app result => exact serves_withRoom result
  · exact .refl kernel

variable [SerdeJson Value]

/-- Every section of a command serves the room that the command names. -/
theorem serving_handleCommand (faults : Faults) {command : Commands}
    (named : namedRoom command = some roomId) :
    Serving roomId
      (handleCommand faults command : Task Value CommandResponse) := by
  cases command with
  | newRoom name => cases named
  | newBucket other bucketId label =>
      cases named
      exact serving_mutateAndPersist faults _ _ _
  | deleteBucket other bucketId =>
      cases named
      exact serving_mutateAndPersist faults _ _ _
  | newMember other member =>
      cases named
      exact serving_mutateAndPersist faults _ _ _
  | deleteMember other member =>
      cases named
      exact serving_mutateAndPersist faults _ _ _
  | writeFragment other bucketId key data =>
      cases named
      refine Program.Every.bind (Program.every_atomic Serves.refl) ?_
      intro loaded
      split
      · trivial
      · refine Program.Every.bind (Program.every_atomic
          (serves_commitWrite bucketId key _)) fun assigned => ?_
        refine Program.Every.bind (Serving.persist _) fun _ => ?_
        refine Program.Every.bind (Program.every_atomic Serves.refl)
          fun roomCounter => ?_
        refine Program.Every.bind (Program.every_atomic fun kernel => ?_)
          fun _ => trivial
        exact serves_of_state rfl (fun _ member => member) rfl
  | readFragment other bucketId key =>
      cases named
      exact Program.every_atomic Serves.refl
  | loadRoom other =>
      cases named
      refine Program.Every.bind Serving.openRoomDb ?_
      rintro (text | _)
      · trivial
      · refine Program.Every.bind (Serving.onRoom _) ?_
        rintro (_ | _ | data)
        · exact Program.every_atomic (serves_installRoomData .empty)
        · trivial
        · exact Program.every_atomic (serves_installRoomData data)
  | unloadRoom other =>
      cases named
      exact Program.every_atomic serves_unloadRoom

end Syncpond.Folders
