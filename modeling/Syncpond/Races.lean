import Syncpond.RoomEffects

/-!
# Races of commands on one room

`Race` is a room with any number of commands in progress, and the history of
the effects that they had so far.  `LoadRoom` reads the disk in several
sections and then replaces what is in memory; it takes the lock for the last
one only.

`Isolated` says of a step that no load loses what it does: a write takes
effect outside the time from the scan of a load to its end, a change of the
buckets or members outside the time from the reading of this part to the end,
and the scan finds on disk what stands.
-/

namespace Syncpond.Races

open Syncpond.Protocol
open Syncpond.Serde
open Syncpond.State
open Syncpond.Persistence
open Syncpond.Kernel
open Syncpond.Disks
open Syncpond.DiskOperations
open Syncpond.RoomParts
open Syncpond.RoomRace
open Syncpond.RoomEffects
open Syncpond.Library.Maps
open Syncpond.Library.Programs

variable {Value : Type} [SerdeJson Value]

/-- A room with commands in progress. -/
structure Race (Value : Type) where
  kernel : SyncpondKernel Value
  tasks : List (RaceTask Value)
  /-- The command that keeps the write lock of the state. -/
  holder : Option Nat
  /-- The effects so far, each with its command, the latest one first. -/
  history : List (Nat × Effect Value)

inductive RaceEvent where
  /-- A command is received. -/
  | command (command : Commands)
  /-- A command executes its next section. -/
  | advance (index : Nat)

/-- The effect that the next section of a command has. -/
def takesEffect (roomId : RoomId) (kernel : SyncpondKernel Value) :
    RaceTask Value → Option (Effect Value)
  | .write task =>
      if task.stage = .commit then
        some (.write task.bucketId task.key task.parsed)
      else none
  | .change args .mutate =>
      if kernel.state.isRoomLoaded roomId then some (Change.promise args)
      else none
  | _ => none

namespace Race

/-- No command in progress. -/
def start (kernel : SyncpondKernel Value) : Race Value :=
  ⟨kernel, [], none, []⟩

/-- What the helper of the room works on. -/
def view (roomId : RoomId) (race : Race Value) : RoomPersistence :=
  race.kernel.persistence.view roomId

/-- The race after a section of a command, with its effect if it has one. -/
def execute (roomId : RoomId) (race : Race Value) (index : Nat)
    (task : RaceTask Value) : Race Value where
  kernel := (task.advance roomId race.kernel).2
  tasks := race.tasks.set index (task.advance roomId race.kernel).1
  holder := Pool.holderAfter race.holder index task.access
  history :=
    match takesEffect roomId race.kernel task with
    | some effect => (index, effect) :: race.history
    | none => race.history

/-- Let a command execute its next section, if the lock admits it. -/
def advance (roomId : RoomId) (race : Race Value) (index : Nat) :
    Option (Race Value) :=
  match race.tasks[index]? with
  | some task =>
      if task.active && Pool.admits race.holder index task.access then
        some (race.execute roomId index task)
      else none
  | none => none

/-- The race after an event, if it can happen. -/
def step (roomId : RoomId) (race : Race Value) :
    RaceEvent → Option (Race Value)
  | .command command =>
      (RaceTask.new roomId command).map fun task =>
        { race with tasks := race.tasks ++ [task] }
  | .advance index => race.advance roomId index

/-! ### The programs of the kernel -/

/-- The commands as programs on the kernel. -/
def pool (roomId : RoomId) (race : Race Value) :
    Pool (SyncpondKernel Value) CommandResponse where
  shared := race.kernel
  tasks := race.tasks.map fun task => task.program roomId
  holder := race.holder

/-- A command starts as its program. -/
theorem pool_command {roomId : RoomId} {race after : Race Value}
    {command : Commands}
    (stepped : race.step roomId (.command command) = some after) :
    after.pool roomId =
      (race.pool roomId).spawn (handleCommand .none command) := by
  obtain ⟨task, isNew, rfl⟩ := Option.map_eq_some_iff.mp stepped
  simp [pool, Pool.spawn, RaceTask.program_new isNew]

/-- The commands advance as their programs do. -/
theorem pool_advance (roomId : RoomId) (race : Race Value) (index : Nat) :
    (race.advance roomId index).map (pool roomId) =
      (race.pool roomId).advance index := by
  unfold advance Pool.advance
  simp only [pool, List.getElem?_map]
  cases found : race.tasks[index]? with
  | none => rfl
  | some task =>
      cases isActive : task.active with
      | true =>
          simp only [Option.map_some,
            RaceTask.program_eq_step roomId isActive]
          by_cases admitted : Pool.admits race.holder index task.access = true
          · simp [pool, execute, isActive, admitted, List.map_set]
          · simp [isActive, admitted]
      | false =>
          obtain ⟨response, isDone⟩ :=
            RaceTask.program_eq_done roomId isActive
          simp [isActive, isDone]

/-- What an advance does. -/
theorem advance_eq_some {roomId : RoomId} {race after : Race Value}
    {index : Nat} (advanced : race.advance roomId index = some after) :
    ∃ task, race.tasks[index]? = some task ∧ task.active = true ∧
      Pool.admits race.holder index task.access = true ∧
      after = race.execute roomId index task := by
  unfold advance at advanced
  split at advanced
  · next task found =>
    split at advanced
    · next allowed =>
      obtain ⟨isActive, admitted⟩ := Bool.and_eq_true_iff.mp allowed
      exact ⟨task, found, isActive, admitted, (Option.some.inj advanced).symm⟩
    · cases advanced
  · cases advanced

/-! ## Steps that no load loses -/

/-- No load loses what the next section of a command does. -/
def Isolates (roomId : RoomId) (race : Race Value) : RaceTask Value → Prop
  | .write task => task.stage = .commit →
      ∀ other ∈ race.tasks, other.hasScanned = false
  | .change args .mutate => race.kernel.state.isRoomLoaded roomId = true →
      ∀ other ∈ race.tasks, other.hasRead args.part = false
  | .load .lookup => ∀ other ∈ race.tasks, other.rest roomId .records = none
  | .load (.readMembers _) =>
      ∀ other ∈ race.tasks, other.rest roomId .members = none
  | .load (.scan _ _) => ∀ effect, Standing race.history effect →
      effect.OnDisk roomId (race.view roomId).db
  | _ => True

/-- The event is a step that no load loses. -/
def Isolated (roomId : RoomId) (race : Race Value) : RaceEvent → Prop
  | .command _ => True
  | .advance index => ∀ task, race.tasks[index]? = some task →
      race.Isolates roomId task

/-! ## What is to hold in the end -/

/-- The command returned its positive response, and promised the effect. -/
def Acknowledges : RaceTask Value → Effect Value → Prop
  | .write task, effect => task.stage = .finished ∧
      effect = .write task.bucketId task.key task.parsed
  | .change args (.finished response), effect =>
      response = args.response ∧ effect = Change.promise args
  | _, _ => False

/--
Once all commands returned and the room is loaded: the effect of every
acknowledged command shows in memory unless a later effect undid it, and the
cached bucket records of the room are those in the database.
-/
def NothingLost (roomId : RoomId) (race : Race Value) : Prop :=
  (∀ task ∈ race.tasks, task.active = false) →
    ∀ room, race.kernel.state.rooms[roomId]? = some room →
      room.loaded = true →
        (∀ (index : Nat) (task : RaceTask Value) (effect : Effect Value),
          race.tasks[index]? = some task → Acknowledges task effect →
            ∃ newer older, race.history = newer ++ (index, effect) :: older ∧
              ((∃ later ∈ newer, later.2.Undoes effect) ∨
                effect.Visible room)) ∧
        ∀ records, (race.view roomId).bucketCache.peek roomId = some records →
          HasRecords Value roomId (race.view roomId).db records

end Race

end Syncpond.Races
