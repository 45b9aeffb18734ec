import Syncpond.RaceSections

/-!
# Loading a room while it is changed

In every run of steps that no load loses, when all commands returned and the
room is loaded, every effect that stands shows in memory, and the cached bucket
records are those on disk.  A write that commits between the scan of a load and
its end is lost.
-/

namespace Syncpond.LoadRace

open Syncpond.Protocol
open Syncpond.Serde
open Syncpond.State
open Syncpond.Persistence
open Syncpond.Kernel
open Syncpond.KernelStore
open Syncpond.Consistency
open Syncpond.WriteTasks
open Syncpond.RoomRace
open Syncpond.RoomEffects
open Syncpond.Races
open Syncpond.RaceInvariant
open Syncpond.Library.JsonText
open Syncpond.Library.Maps
open Syncpond.Library.Runs

variable {Value : Type} [SerdeJson Value]

/-! ## Rooms that are not there -/

/-- The commands of a room do not create it. -/
theorem absent_advance {roomId : RoomId} {kernel : SyncpondKernel Value}
    (absent : kernel.state.rooms[roomId]? = none) (task : RaceTask Value) :
    (task.advance roomId kernel).2.state.rooms[roomId]? = none := by
  cases task with
  | write task =>
      obtain ⟨bucketId, key, data, stage, assigned⟩ := task
      cases stage with
      | commit =>
          simp [RaceTask.advance, WriteTask.advance,
            SyncpondKernel.commitWrite, AppState.setFragment,
            AppState.withRoom, absent]
      | _ => exact absent
  | change args stage =>
      cases stage with
      | mutate =>
          simp [RaceTask.advance, ChangeStage.advance,
            SyncpondKernel.mutateRoom, absent]
      | _ => exact absent
  | load stage =>
      cases stage with
      | install data =>
          simp [RaceTask.advance, LoadStage.advance,
            SyncpondKernel.installRoomData, AppState.loadRoomData,
            AppState.withRoom, absent]
      | _ => exact absent
  | unload response =>
      cases response with
      | none =>
          simp [RaceTask.advance, SyncpondKernel.unloadRoom,
            AppState.unloadRoom, AppState.withRoom, absent]
      | some response => exact absent

theorem absent_step {roomId : RoomId} {race after : Race Value}
    {event : RaceEvent}
    (absent : race.kernel.state.rooms[roomId]? = none)
    (stepped : race.step roomId event = some after) :
    after.kernel.state.rooms[roomId]? = none := by
  cases event with
  | command command =>
      obtain ⟨task, _, rfl⟩ := Option.map_eq_some_iff.mp stepped
      exact absent
  | advance index =>
      obtain ⟨task, _, _, _, rfl⟩ := Race.advance_eq_some stepped
      exact absent_advance absent task

/-! ## Runs -/

/-- A run of steps that no load loses keeps the race sound. -/
theorem sound_run {kernel : SyncpondKernel Value}
    (reachable : Kernel.Reachable kernel) {roomId : RoomId}
    {room : RoomState Value}
    (present : kernel.state.rooms[roomId]? = some room) {race : Race Value}
    (run : Follows (Race.step roomId) (Race.Isolated roomId) (.start kernel)
      race) :
    ∃ room goal, Sound roomId race room goal := by
  obtain ⟨store, refines, reachableStore⟩ :=
    exists_store_of_reachable reachable
  have started := sound_start refines (consistent_of_reachable reachableStore)
    (refines.state ▸ present)
  refine run.invariant
    (fun race => ∃ room goal, Sound roomId race room goal) ?_
    ⟨room, _, started⟩
  rintro race event after ⟨room, goal, sound⟩ isolated stepped
  cases event with
  | command command =>
      obtain ⟨task, isNew, rfl⟩ := Option.map_eq_some_iff.mp stepped
      exact ⟨room, goal, sound.command isNew⟩
  | advance index => exact sound.advance stepped isolated

/--
Once all commands of a room returned and the room is loaded: the effect of
every acknowledged command shows in memory unless a later effect undid it, and
the cached bucket records are those in the database.
-/
theorem load_loses_nothing {kernel : SyncpondKernel Value}
    (reachable : Kernel.Reachable kernel) {roomId : RoomId}
    {race : Race Value}
    (run : Follows (Race.step roomId) (Race.Isolated roomId) (.start kernel)
      race) :
    race.NothingLost roomId := by
  cases present : kernel.state.rooms[roomId]? with
  | some room =>
      obtain ⟨_, _, sound⟩ := sound_run reachable present run
      exact sound.nothingLost
  | none =>
      have absent := run.invariant
        (fun race => race.kernel.state.rooms[roomId]? = none)
        (fun _ _ _ absent _ stepped => absent_step absent stepped) present
      intro _ room found
      rw [absent] at found
      cases found

/-! ## A load and a write -/

/-- Check a step, with no effect before any scan. -/
def checkIsolated (roomId : RoomId) (race : Race Value) : RaceEvent → Bool
  | .command _ => true
  | .advance index =>
      match race.tasks[index]? with
      | some (.write task) =>
          task.stage != .commit || race.tasks.all fun other =>
            !other.hasScanned
      | some (.change args .mutate) =>
          race.tasks.all fun other => !other.hasRead args.part
      | some (.load .lookup) =>
          race.tasks.all fun other => (other.rest roomId .records).isNone
      | some (.load (.readMembers _)) =>
          race.tasks.all fun other => (other.rest roomId .members).isNone
      | some (.load (.scan _ _)) => race.history.isEmpty
      | _ => true

theorem isolated_of_check {roomId : RoomId} {race : Race Value}
    {event : RaceEvent} (checked : checkIsolated roomId race event = true) :
    race.Isolated roomId event := by
  cases event with
  | command command => trivial
  | advance index =>
      intro task found
      simp only [checkIsolated, found] at checked
      cases task with
      | write task =>
          intro stage
          simpa [stage] using checked
      | change args stage =>
          cases stage with
          | mutate => exact fun _ => by simpa using checked
          | _ => trivial
      | load stage =>
          cases stage with
          | lookup => simpa [Race.Isolates] using checked
          | readMembers buckets => simpa [Race.Isolates] using checked
          | scan buckets members =>
              intro effect stands
              rw [List.isEmpty_iff.mp checked] at stands
              exact stands.elim
          | _ => trivial
      | unload response => trivial

/-- A kernel with one loaded room and one recorded bucket. -/
def bucketRoom : SyncpondKernel Json :=
  run (boot .none ∅)
    [.command (.newRoom "room"), .command (.newBucket 1 5 "bucket")]

/-- A room is loaded while a write waits to commit. -/
def commitAfterLoad : List RaceEvent :=
  [.command (.loadRoom 1), .command (.writeFragment 1 5 "key" "1".toUTF8),
    .advance 1] ++
    List.replicate 9 (.advance 0) ++ List.replicate 6 (.advance 1)

theorem load_loses_nothing_commitAfterLoad :
    ∃ race : Race Json,
      Follows (Race.step 1) (Race.Isolated 1) (.start bucketRoom) race ∧
      (race.tasks.all fun task => !task.active) = true ∧
      readFragment race.kernel.state 1 5 "key" =
        .fragmentReadResponse (some "1".toUTF8) ∧
      race.NothingLost 1 := by
  have observed :
      (commitAfterLoad.foldlM (fun race event =>
          if checkIsolated 1 race event then Race.step 1 race event else none)
        (Race.start bucketRoom)).map (fun race =>
          (race.tasks.all (fun task => !task.active),
            readFragment race.kernel.state 1 5 "key")) =
        some (true, .fragmentReadResponse (some "1".toUTF8)) := by
    decide +kernel
  obtain ⟨race, ran, equal⟩ := Option.map_eq_some_iff.mp observed
  simp only [Prod.mk.injEq] at equal
  have run : Follows (Race.step 1) (Race.Isolated 1) (.start bucketRoom)
      race :=
    follows_of_checked (fun _ _ => isolated_of_check) ran
  exact ⟨race, run, equal.1, equal.2, load_loses_nothing ⟨_, rfl⟩ run⟩

/-- A write commits between the scan of a load and its end. -/
def commitAfterScan : List RaceEvent :=
  [.command (.loadRoom 1), .command (.writeFragment 1 5 "key" "1".toUTF8)] ++
    List.replicate 8 (.advance 0) ++ List.replicate 7 (.advance 1) ++
    [.advance 0]

/-- The write that was acknowledged does not show in memory. -/
theorem load_loses_committedWrite :
    ∃ race : Race Json,
      Follows (Race.step 1) (fun _ _ => True) (.start bucketRoom) race ∧
      ¬race.NothingLost 1 := by
  have observed :
      (commitAfterScan.foldlM (Race.step 1) (Race.start bucketRoom)).map
        (fun race =>
          (race.tasks.all (fun task => !task.active),
            race.tasks[1]?.bind fun task =>
              match task with
              | .write task =>
                  some (task.stage == .finished && task.bucketId == 5 &&
                    task.key == "key" && !SerdeJson.isNull (task.parsed : Json))
              | _ => none,
            race.history.length,
            race.kernel.state.rooms[(1 : RoomId)]?.map fun room =>
              (room.loaded, (getNested room.buckets 5 "key").isNone))) =
        some (true, some true, 1, some (true, true)) := by
    decide +kernel
  obtain ⟨race, ran, equal⟩ := Option.map_eq_some_iff.mp observed
  simp only [Prod.mk.injEq] at equal
  obtain ⟨returned, written, single, memory⟩ := equal
  refine ⟨race, follows_of_foldlM ran, fun nothingLost => ?_⟩
  obtain ⟨room, present, shown⟩ := Option.map_eq_some_iff.mp memory
  obtain ⟨task, isTask, isWrite⟩ := Option.bind_eq_some_iff.mp written
  simp only [Prod.mk.injEq, Option.isNone_iff_eq_none] at shown
  cases task with
  | write task =>
      simp only [Option.some.injEq, Bool.and_eq_true, beq_iff_eq,
        Bool.not_eq_true'] at isWrite
      obtain ⟨⟨⟨finished, bucketId⟩, key⟩, notNull⟩ := isWrite
      obtain ⟨newer, older, split, undone | visible⟩ :=
        (nothingLost (by simpa using returned) room present shown.1).1 1
          (.write task) _ isTask ⟨finished, rfl⟩
      · obtain ⟨later, isNewer, _⟩ := undone
        have empty : newer = [] := by
          rw [split, List.length_append, List.length_cons] at single
          exact List.length_eq_zero_iff.mp (by omega)
        rw [empty] at isNewer
        cases isNewer
      · rw [Effect.Visible, bucketId, key, shown.2] at visible
        exact absurd visible (by simp [notNull])
  | change args stage => cases isWrite
  | load stage => cases isWrite
  | unload response => cases isWrite

end Syncpond.LoadRace
