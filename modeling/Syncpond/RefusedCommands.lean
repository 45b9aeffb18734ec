import Syncpond.Lifetimes

/-!
# Commands to unknown rooms

A command to a room that is not registered is refused.  `LoadRoom` opens the
database of the room before it looks the room up, so it can leave a folder for
a room that was never created; the other commands look first and leave nothing.
-/

namespace Syncpond.RefusedCommands

open Syncpond.Protocol
open Syncpond.Serde
open Syncpond.State
open Syncpond.Persistence
open Syncpond.Kernel
open Syncpond.Folders
open Syncpond.Lifetimes
open Syncpond.Library.Maps
open Syncpond.Library.Programs
open Syncpond.Library.Runs
open Syncpond.Library.Text

variable {Value : Type} [SerdeJson Value] {roomId : RoomId}
variable {kernel : SyncpondKernel Value} (faults : Faults)

/-! ## What a refused command changes -/

section Unknown

variable (unknown : roomId ∉ kernel.state.rooms)

include unknown

/-- All commands but `LoadRoom` leave the kernel as it was. -/
theorem run_refused {command : Commands}
    (named : namedRoom command = some roomId)
    (notLoad : command ≠ .loadRoom roomId) :
    ((handleCommand faults command).run kernel).2 = kernel := by
  have absent : kernel.state.rooms[roomId]? = none :=
    Std.ExtTreeMap.getElem?_eq_none unknown
  have mutation (effect : RoomState Value → RoomState Value)
      (operation : Storage Unit) (response : CommandResponse) :
      ((mutateAndPersist faults roomId effect operation response).run
        kernel).2 = kernel := by
    simp [mutateAndPersist, SyncpondKernel.mutateRoom, absent, Task.release]
  cases command with
  | newRoom name => cases named
  | newBucket other bucketId label =>
      cases named
      exact mutation _ _ _
  | deleteBucket other bucketId =>
      cases named
      exact mutation _ _ _
  | newMember other member =>
      cases named
      exact mutation _ _ _
  | deleteMember other member =>
      cases named
      exact mutation _ _ _
  | writeFragment other bucketId key data =>
      cases named
      simp [handleCommand, handleWriteFragment, AppState.isRoomLoaded, absent]
  | readFragment other bucketId key => rfl
  | loadRoom other =>
      cases named
      exact absurd rfl notLoad
  | unloadRoom other =>
      cases named
      simp [handleCommand, handleUnloadRoom, SyncpondKernel.unloadRoom,
        AppState.unloadRoom, AppState.withRoom, absent]

/-- `LoadRoom` answers with an error. -/
theorem loadRoom_refused :
    ∃ text, ((handleLoadRoom faults roomId).run kernel).1 =
      .loadRoomResponse (.error text) := by
  have install (data : RoomData Value) {later : SyncpondKernel Value}
      (still : roomId ∉ later.state.rooms) :
      ∃ text, (later.installRoomData roomId data).1 =
        .loadRoomResponse (.error text) := by
    have absent : later.state.rooms[roomId]? = none :=
      Std.ExtTreeMap.getElem?_eq_none still
    simp [SyncpondKernel.installRoomData, AppState.loadRoomData,
      AppState.withRoom, absent]
  let operation : Storage (RoomData Value) := readRoomData faults roomId
  have opening := (Serving.openRoomDb : Serving roomId
    (Task.openRoomDb faults roomId : Task Value _)).run kernel
  have reading := (Serving.onRoom operation : Serving roomId
    (Task.onRoom roomId operation : Task Value _)).run
      ((Task.openRoomDb faults roomId).run kernel).2
  have still := fun present =>
    unknown (opening.rooms roomId (reading.rooms roomId present))
  unfold handleLoadRoom
  rw [Program.run_bind]
  split
  · exact ⟨_, rfl⟩
  · rw [Program.run_bind]
    split
    · exact install _ still
    · exact ⟨_, rfl⟩
    · exact install _ still

end Unknown

/-- `LoadRoom` creates the folder of its room if it can. -/
theorem mem_dirs_loadRoom (housed : Housed kernel.persistence)
    {name : String} :
    name ∈ ((handleLoadRoom faults roomId).run kernel).2.persistence.dirs ↔
      name ∈ kernel.persistence.dirs ∨
        (name = roomDir roomId ∧ faults.createDir roomId = none) := by
  have serving : Serving roomId
      (handleCommand faults (.loadRoom roomId) : Task Value _) :=
    serving_handleCommand faults rfl
  -- The first section opens the database; the others find the folder there.
  have rest := Serving.run (serving.2 kernel)
    ((Task.openRoomDb faults roomId).run kernel).2
  have opened := @mem_dirs_openRoomDb faults kernel.persistence roomId name
  constructor
  · intro present
    rcases rest.created name present with first | rfl
    · exact (opened.mp first).imp id fun created => ⟨created.1, created.2.2⟩
    · by_cases already : roomId ∈ kernel.persistence.dbs
      · exact Or.inl (housed.opened roomId already)
      · cases creatable : faults.createDir roomId with
        | none => exact Or.inr ⟨rfl, rfl⟩
        | some text =>
            refine Or.inl ?_
            simpa [handleLoadRoom, Task.openRoomDb,
              PersistenceManager.openRoomDb, already, creatable] using present
  · rintro (before | ⟨rfl, creatable⟩)
    · exact rest.kept name (opened.mpr (Or.inl before))
    · refine rest.kept _ (opened.mpr ?_)
      by_cases already : roomId ∈ kernel.persistence.dbs
      · exact Or.inl (housed.opened roomId already)
      · exact Or.inr ⟨rfl, already, creatable⟩

/-! ## The next startup -/

/--
The command makes the next startup register its room: `LoadRoom` creates a
folder that was not there, and startup finds and opens it.
-/
def LeavesRoom (faults startup : Faults) (dirs : Map String Db)
    (command : Commands) (roomId : RoomId) : Prop :=
  command = .loadRoom roomId ∧ roomDir roomId ∉ dirs ∧
    faults.createDir roomId = none ∧
      startup.readDir = none ∧ Opens startup roomId

/-- Startup registers the same rooms over two data directories. -/
def SameStartup (startup : Faults) (dirs after : Map String Db) : Prop :=
  ∀ roomId,
    roomId ∈ startupRooms startup after ↔ roomId ∈ startupRooms startup dirs

theorem sameStartup_loadRoom_iff (startup : Faults)
    (housed : Housed kernel.persistence) :
    SameStartup startup kernel.persistence.dirs
        ((handleLoadRoom faults roomId).run kernel).2.persistence.dirs ↔
      ¬LeavesRoom faults startup kernel.persistence.dirs (.loadRoom roomId)
        roomId := by
  have after : Housed
      ((handleLoadRoom faults roomId).run kernel).2.persistence :=
    ((serving_handleCommand faults rfl : Serving roomId
      (handleCommand faults (.loadRoom roomId) : Task Value _)).run
        kernel).housed housed
  have registered := fun other => @mem_startupRooms _ after.named startup other
  constructor
  · rintro same ⟨_, absent, creatable, found, opens⟩
    have listed := (registered roomId).mpr
      ⟨found, (mem_dirs_loadRoom faults housed).mpr
        (Or.inr ⟨rfl, creatable⟩), opens⟩
    rw [same roomId, mem_startupRooms housed.named] at listed
    exact absent listed.2.1
  · intro noRoom other
    rw [registered, mem_startupRooms housed.named,
      mem_dirs_loadRoom faults housed]
    constructor
    · rintro ⟨found, before | ⟨same, creatable⟩, opens⟩
      · exact ⟨found, before, opens⟩
      · cases roomDir_inj.mp same
        by_cases present : roomDir roomId ∈ kernel.persistence.dirs
        · exact ⟨found, present, opens⟩
        · exact absurd ⟨rfl, present, creatable, found, opens⟩ noRoom
    · rintro ⟨found, before, opens⟩
      exact ⟨found, Or.inl before, opens⟩

/--
A command to an unknown room leaves no trace for the next startup, and
`LoadRoom` answers with an error, exactly if the command is not a `LoadRoom`
that creates a folder which startup opens.
-/
theorem refused_leaves_no_trace_iff {life : Lifetime Value}
    (reached : Reached life) {command : Commands}
    (named : namedRoom command = some roomId)
    (unknown : roomId ∉ life.kernel.state.rooms) (startup : Faults) :
    (SameStartup startup life.kernel.persistence.dirs
        ((handleCommand faults command).run life.kernel).2.persistence.dirs ∧
      (command = .loadRoom roomId →
        ∃ text, ((handleCommand faults command).run life.kernel).1 =
          .loadRoomResponse (.error text))) ↔
      ¬LeavesRoom faults startup life.kernel.persistence.dirs command
        roomId := by
  by_cases isLoad : command = .loadRoom roomId
  · subst isLoad
    have leavesNone : SameStartup startup life.kernel.persistence.dirs
        ((handleLoadRoom faults roomId).run life.kernel).2.persistence.dirs ↔
      ¬LeavesRoom faults startup life.kernel.persistence.dirs
        (.loadRoom roomId) roomId :=
      sameStartup_loadRoom_iff faults startup (housed_of_reached reached)
    exact ⟨fun both => leavesNone.mp both.1, fun noRoom =>
      ⟨leavesNone.mpr noRoom, fun _ => loadRoom_refused faults unknown⟩⟩
  · rw [run_refused faults unknown named isLoad]
    exact ⟨fun _ leaves => isLoad leaves.1,
      fun _ => ⟨fun _ => Iff.rfl, fun load => absurd load isLoad⟩⟩

theorem refused_leaves_no_trace_newBucket :
    (SameStartup .none (boot .none ∅ : SyncpondKernel Json).persistence.dirs
        ((handleCommand .none (.newBucket 7 5 "bucket")).run
          (boot .none ∅ : SyncpondKernel Json)).2.persistence.dirs ∧
      (Commands.newBucket 7 5 "bucket" = .loadRoom 7 →
        ∃ text, ((handleCommand .none (.newBucket 7 5 "bucket")).run
          (boot .none ∅ : SyncpondKernel Json)).1 =
          .loadRoomResponse (.error text))) ↔
      ¬LeavesRoom .none .none (boot .none ∅ : SyncpondKernel Json).persistence.dirs
        (.newBucket 7 5 "bucket") 7 :=
  refused_leaves_no_trace_iff .none
    (.start : Reached (.start : Lifetime Json))
    rfl (by decide) .none

/-- `LoadRoom` is refused, and yet the next startup registers the room. -/
theorem refusedLoad_registers_room :
    7 ∉ (boot .none ∅ : SyncpondKernel Json).state.rooms ∧
      ((handleCommand .none (.loadRoom 7)).run
        (boot .none ∅ : SyncpondKernel Json)).1 =
        .loadRoomResponse (.error "room_not_found") ∧
      startupRooms .none (boot .none ∅ : SyncpondKernel Json).persistence.dirs =
        [] ∧
      startupRooms .none ((handleCommand .none (.loadRoom 7)).run
        (boot .none ∅ : SyncpondKernel Json)).2.persistence.dirs = [7] := by
  decide +kernel

end Syncpond.RefusedCommands
