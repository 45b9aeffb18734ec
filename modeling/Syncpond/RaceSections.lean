import Syncpond.RaceInvariant

/-!
# The sections of the commands in a race

Each section of a write, of a change, of a load and of an unload keeps what
holds of a race, if no load loses what it does.
-/

namespace Syncpond.RaceInvariant

open Syncpond.Protocol
open Syncpond.Serde
open Syncpond.State
open Syncpond.Persistence
open Syncpond.Kernel
open Syncpond.KernelStore
open Syncpond.WriteTasks
open Syncpond.Disks
open Syncpond.DiskOperations
open Syncpond.RoomParts
open Syncpond.RoomRace
open Syncpond.RoomEffects
open Syncpond.Races
open Syncpond.Library.Lru
open Syncpond.Library.Maps
open Syncpond.Library.Programs
open Syncpond.Library.Text

variable {Value : Type} [SerdeJson Value]

/-- What the parts are to be once a change is persisted. -/
def goalAfter (goal : Goal) (args : Change) : Goal where
  records := Change.records goal.records args
  members := Change.members goal.members args

theorem records_goalAfter {goal : Goal} {args : Change}
    (changesMembers : args.part = .members) :
    (goalAfter goal args).records = goal.records := by
  cases args with
  | newMember member => rfl
  | deleteMember member => rfl
  | _ => cases changesMembers

theorem members_goalAfter {goal : Goal} {args : Change}
    (changesRecords : args.part = .records) :
    (goalAfter goal args).members = goal.members := by
  cases args with
  | newBucket bucketId label => rfl
  | deleteBucket bucketId => rfl
  | _ => cases changesRecords

namespace Sound

variable {roomId : RoomId} {race : Race Value} {room : RoomState Value}
variable {goal : Goal} {index : Nat}
variable {kernel : SyncpondKernel Value}

/-! ## Writes -/

omit [SerdeJson Value] in
/-- The database of the room is open already. -/
theorem afterOpen_eq {kernel : SyncpondKernel Value}
    (opened : kernel.persistence.dbs.contains roomId = true) :
    afterOpen roomId kernel = kernel := by
  unfold afterOpen PersistenceManager.openRoomDb
  rw [if_pos opened]

/-- What a section of a write does that does not commit. -/
structure QuietWrite (roomId : RoomId) (task next : WriteTask)
    (before after : SyncpondKernel Value) : Prop where
  state : after.state = before.state
  dbs : after.persistence.dbs = before.persistence.dbs
  changes : FragmentSection roomId Value (before.persistence.view roomId)
    (after.persistence.view roomId)
  committed : next.stage.uncommitted = false →
    task.stage.uncommitted = false
  bucketId : next.bucketId = task.bucketId
  key : next.key = task.key
  data : next.data = task.data

theorem quietWrite_advance (task : WriteTask) (kernel : SyncpondKernel Value)
    (opened : kernel.persistence.dbs.contains roomId = true)
    (isActive : task.active = true) (quiet : task.stage ≠ .commit) :
    QuietWrite roomId task (task.advance roomId kernel).1 kernel
      (task.advance roomId kernel).2 := by
  obtain ⟨bucketId, key, data, stage, assigned⟩ := task
  have nothing : FragmentSection roomId Value
      (kernel.persistence.view roomId) (kernel.persistence.view roomId) :=
    ⟨fun _ => .refl _, id⟩
  cases stage with
  | check =>
      refine ⟨rfl, rfl, nothing, ?_, rfl, rfl, rfl⟩
      simp only [WriteTask.advance]
      split <;> exact fun committed => by cases committed
  | commit => exact absurd rfl quiet
  | openDb =>
      have same := afterOpen_eq opened
      simp only [afterOpen] at same
      simp only [WriteTask.advance, same]
      exact ⟨rfl, rfl, nothing, fun _ => rfl, rfl, rfl, rfl⟩
  | find => exact ⟨rfl, rfl, nothing, fun _ => rfl, rfl, rfl, rfl⟩
  | persist =>
      refine ⟨rfl, rfl, ?_, fun _ => rfl, rfl, rfl, rfl⟩
      simp only [WriteTask.advance, PersistenceManager.view_writeBack_self]
      exact fragmentSection_persist roomId _ _ _ _
  | readVersion => exact ⟨rfl, rfl, nothing, fun _ => rfl, rfl, rfl, rfl⟩
  | announce roomCounter =>
      exact ⟨rfl, rfl, nothing, fun _ => rfl, rfl, rfl, rfl⟩
  | finished => cases isActive
  | rejected => cases isActive

/-- A write that does not commit. -/
theorem write_quiet (sound : Sound roomId race room goal) {task : WriteTask}
    (found : race.tasks[index]? = some (.write task))
    (isActive : task.active = true) (quiet : task.stage ≠ .commit)
    (admitted : Pool.admits race.holder index task.access = true) :
    Sound roomId (race.execute roomId index (.write task)) room goal := by
  have does := quietWrite_advance task race.kernel sound.opened isActive quiet
  refine sound.frame found admitted rfl ?_ does.state does.dbs
    does.changes.keeps (does.changes.tidy sound.tidy) (fun _ => rfl)
    (fun held => by cases held) trivial (fun _ reads => by cases reads) ?_
  · simp only [takesEffect, if_neg quiet]
  · rintro effect ⟨committed, rfl⟩
    refine ⟨does.committed committed, ?_⟩
    rw [does.bucketId, does.key, WriteTask.parsed, WriteTask.parsed, does.data]

/-- What the loads read so far stays when none of them scanned. -/
theorem loadSound_unscanned {history later : List (Nat × Effect Value)}
    {view : RoomPersistence} {task : RaceTask Value}
    (sound : LoadSound roomId goal history view task)
    (unscanned : task.hasScanned = false) :
    LoadSound roomId goal later view task := by
  cases task with
  | load stage =>
      cases stage with
      | install data => cases unscanned
      | _ => exact sound
  | _ => trivial

/-- A write that commits. -/
theorem write_commit (sound : Sound roomId race room goal) {task : WriteTask}
    (found : race.tasks[index]? = some (.write task))
    (stage : task.stage = .commit)
    (admitted : Pool.admits race.holder index task.access = true)
    (isolates : race.Isolates roomId (.write task)) :
    ∃ changed, Sound roomId (race.execute roomId index (.write task)) changed
      goal := by
  have unscanned := isolates stage
  have takes : takesEffect roomId race.kernel (.write task) =
      some (.write task.bucketId task.key task.parsed) := by
    simp only [takesEffect, if_pos stage]
  have commits {changed : RoomState Value} {kernel : SyncpondKernel Value}
      {assigned : Option UInt64}
      (committed : race.kernel.commitWrite roomId task.bucketId task.key
        task.parsed = (assigned, kernel))
      (present : kernel.state.rooms[roomId]? = some changed)
      (unlocked : changed.ioLocked = false)
      (noTransaction : changed.txBuffer = none)
      (persistence : kernel.persistence = race.kernel.persistence)
      (shows : changed.loaded = true →
        (Effect.write task.bucketId task.key task.parsed).Visible changed)
      (keeps : ∀ earlier : Effect Value,
        ¬(Effect.write task.bucketId task.key task.parsed).Undoes earlier →
        (room.loaded = true → earlier.Visible room) →
          changed.loaded = true → earlier.Visible changed) :
      Sound roomId (race.execute roomId index (.write task)) changed goal := by
    have advanced : RaceTask.advance roomId race.kernel (.write task) =
        (.write { task with stage := .openDb, assigned := assigned },
          kernel) := by
      simp only [RaceTask.advance, WriteTask.advance, stage, committed]
    refine sound.effective found admitted advanced takes present unlocked
      noTransaction persistence ?_ (fun held => by cases held) ?_ trivial
      (fun _ => rfl) (fun _ => Or.inl rfl) ⟨trivial, shows⟩ ?_ ?_
    · exact fun part => (sound.parts part).frame found rfl (.refl _)
    · exact fun other member =>
        loadSound_unscanned (sound.loads other member) (unscanned other member)
    · intro earlier notUndone stands
      obtain ⟨recorded, visible⟩ := sound.effects earlier stands
      exact ⟨recorded, keeps earlier notUndone visible⟩
    · rintro other ⟨_, rfl⟩
      rfl
  cases loaded : room.loaded with
  | true =>
      refine ⟨room.store task.bucketId task.key task.parsed, commits
        (commitWrite_eq sound.present sound.unlocked loaded
          sound.noTransaction task.bucketId task.key task.parsed) ?_
        sound.unlocked sound.noTransaction rfl ?_ ?_⟩
      · rw [lookup_insert, if_pos rfl]
      · exact fun _ => visible_write room task.bucketId task.key task.parsed
      · exact fun earlier notUndone visible _ =>
          (visible loaded).write notUndone
  | false =>
      have refused : race.kernel.commitWrite roomId task.bucketId task.key
          (task.parsed : Value) = (none, race.kernel) := by
        simp [SyncpondKernel.commitWrite, AppState.setFragment,
          AppState.withRoom, sound.present, RoomState.setFragment,
          sound.unlocked, loaded, Except.map]
      refine ⟨room, commits refused sound.present sound.unlocked
        sound.noTransaction rfl ?_ ?_⟩
      · rw [loaded]
        intro impossible
        cases impossible
      · exact fun earlier _ visible => visible

/-! ## Changes -/

/-- Only the command that keeps the lock has a change in progress. -/
theorem rest_of_not_holder (sound : Sound roomId race room goal) {other : Nat}
    {task : RaceTask Value} (isTask : race.tasks[other]? = some task)
    (notHolder : race.holder ≠ some other) (part : Part) :
    task.rest roomId part = none := by
  cases isLeft : task.rest roomId part with
  | none => rfl
  | some rest =>
      exact absurd (sound.locks other task isTask (holds_of_rest isLeft))
        notHolder

/-- A change with something left took effect, and has no effect any more. -/
theorem mutated_of_rest (kernel : SyncpondKernel Value) {args : Change}
    {stage : ChangeStage}
    {left : Program RoomPersistence (Except String Unit)}
    (isLeft : stage.rest Value roomId args = some left) :
    takesEffect roomId kernel (.change args stage) = none ∧
      Promises (.change args stage) (Change.promise args : Effect Value) := by
  cases stage with
  | mutate => cases isLeft
  | openDb => exact ⟨rfl, rfl, trivial⟩
  | find => exact ⟨rfl, rfl, trivial⟩
  | persist access effect next => exact ⟨rfl, rfl, trivial⟩
  | release response => cases isLeft
  | finished response => cases isLeft

/-- What is left of a change goes on. -/
theorem change_persisting (sound : Sound roomId race room goal)
    {args : Change} {stage : ChangeStage}
    {left rest : Program RoomPersistence (Except String Unit)}
    (found : race.tasks[index]? = some (.change args stage))
    (isLeft : stage.rest Value roomId args = some left)
    (free : stage.access = .free)
    (advances : stage.advance roomId args race.kernel =
      (.persisting args.response rest, kernel))
    (state : kernel.state = race.kernel.state)
    (dbs : kernel.persistence.dbs = race.kernel.persistence.dbs)
    (changes : args.part.Section roomId (race.view roomId)
      (kernel.persistence.view roomId))
    (coming : args.part.Coming roomId Value goal rest
      (kernel.persistence.view roomId)) :
    Sound roomId (race.execute roomId index (.change args stage)) room
      goal := by
  have isOld : (RaceTask.change args stage : RaceTask Value).rest roomId
      args.part = some left := by
    simp only [RaceTask.rest, if_true, isLeft]
  have isHolder : race.holder = some index :=
    sound.locks index _ found (holds_of_rest isOld)
  have others (part : Part) (other : Nat) (task : RaceTask Value)
      (different : other ≠ index) (isTask : race.tasks[other]? = some task) :
      task.rest roomId part = none := by
    refine sound.rest_of_not_holder isTask ?_ part
    rw [isHolder]
    exact fun same => different (Option.some.inj same).symm
  have advanced : RaceTask.advance roomId race.kernel (.change args stage) =
      (.change args (.persisting args.response rest), kernel) := by
    simp only [RaceTask.advance, advances]
  have access : (RaceTask.change args stage : RaceTask Value).access =
      .free := free
  obtain ⟨silent, promised⟩ := mutated_of_rest race.kernel isLeft
  refine sound.quiet found (by rw [access]; rfl) advanced silent state dbs
    (changes.tidy sound.tidy) ?_ ?_ trivial ?_ (fun _ reads => by cases reads)
    ?_ ?_
  · intro part
    by_cases same : args.part = part
    · subst same
      refine PartSound.drive found (others _) ?_ ?_
      · intro next isNext
        simp only [RaceTask.rest, if_true] at isNext
        cases rest with
        | done result => cases isNext
        | step access effect after =>
            cases isNext
            exact coming
      · intro noRest
        simp only [RaceTask.rest, if_true] at noRest
        cases rest with
        | done result => exact coming.done
        | step access effect after => cases noRest
    · refine (sound.parts part).frame found ?_
        (changes.keeps fun equal => same equal.symm)
      simp only [RaceTask.rest, if_neg same]
  · intro _
    rw [access]
    exact isHolder
  · rintro ⟨task, member, reads⟩
    have noRest := sound.exclusive task member .records reads _
      (List.mem_of_getElem? found)
    have different : Part.records ≠ args.part := by
      intro same
      rw [same, isOld] at noRest
      cases noRest
    exact (changes.keeps different).1
  · intro part before
    by_cases same : args.part = part
    · subst same
      rw [isOld] at before
      cases before
    · simp only [RaceTask.rest, if_neg same]
  · rintro effect ⟨rfl, _⟩
    exact promised

/-- A section of a change after it took effect in memory. -/
theorem change_quiet (sound : Sound roomId race room goal)
    {args : Change} {stage : ChangeStage}
    (found : race.tasks[index]? = some (.change args stage))
    (isActive : stage.active = true) (isLater : stage.holds = true)
    (admitted : Pool.admits race.holder index stage.access = true) :
    Sound roomId (race.execute roomId index (.change args stage)) room
      goal := by
  have isHolder : race.holder = some index :=
    sound.locks index _ found isLater
  have coming {left : Program RoomPersistence (Except String Unit)}
      (isLeft : stage.rest Value roomId args = some left) :=
    (sound.parts args.part).coming _ (List.mem_of_getElem? found) left
      (by simp only [RaceTask.rest, if_true, isLeft])
  cases stage with
  | mutate => cases isLater
  | openDb =>
      refine sound.frame found rfl
        (congrArg (Prod.mk _) (afterOpen_eq sound.opened)) rfl rfl rfl
        (fun _ => .refl _) sound.tidy (fun _ => rfl) (fun _ => isHolder)
        trivial (fun _ reads => by cases reads) (fun _ => id)
  | find =>
      have opened := sound.opened
      refine sound.change_persisting found rfl rfl
        (by simp only [ChangeStage.advance, opened, if_true]) rfl rfl ?_
        (coming rfl)
      exact .refl _ _
  | persist access effect next =>
      obtain ⟨isFree, changes, after⟩ := (coming rfl).step
      refine sound.change_persisting found rfl isFree rfl rfl rfl ?_ ?_
      · simp only [afterSection, PersistenceManager.view_writeBack_self]
        exact changes
      · simp only [afterSection, PersistenceManager.view_writeBack_self]
        exact after
  | release response =>
      refine sound.frame found admitted rfl rfl rfl rfl (fun _ => .refl _)
        sound.tidy (fun _ => rfl) (fun held => by cases held) trivial
        (fun _ reads => by cases reads) (fun _ => id)
  | finished response => cases isActive

/-- The operation of a change leads to what the change makes of its part. -/
theorem coming_operation {args : Change} {view : RoomPersistence}
    (tidy : Tidy roomId view Value)
    (hold : ∀ part : Part, part.Hold roomId Value goal view) :
    args.part.Coming roomId Value (goalAfter goal args)
      (args.operation Value roomId).run view := by
  have records : RecordsHold roomId view Value goal.records := hold .records
  have members : MembersHold roomId view Value goal.members := hold .members
  cases args with
  | newBucket bucketId label =>
      refine recordsComing (looks_persistBucket Value _ _ _)
        (changes_persistBucket Value _ _ _)
        (implements_persistBucket roomId _ _ _) tidy records members ?_
      intro disk isRecords
      simp only [goalAfter, Change.records, isRecords]
  | deleteBucket bucketId =>
      refine recordsComing (looks_removeBucket Value _)
        (changes_removeBucket Value _) (implements_removeBucket roomId _)
        tidy records members ?_
      intro disk isRecords
      simp only [goalAfter, Change.records, isRecords]
  | newMember member =>
      show Part.members.Coming roomId Value _
        (persistMember .none Value roomId (trim member)).run view
      refine membersComing (looks_persistMember Value _)
        (changes_persistMember Value _) (implements_persistMember roomId _)
        tidy records members ?_
      intro disk isMembers
      simp only [trim_trim, goalAfter, Change.members, ← isMembers]
      split <;> rfl
  | deleteMember member =>
      refine membersComing (looks_removeMember Value _)
        (changes_removeMember Value _) (implements_removeMember roomId _)
        tidy records members ?_
      intro disk isMembers
      simp only [goalAfter, Change.members, isMembers]

/-- A change keeps what the other part is to be. -/
theorem hold_changed {args : Change} {view : RoomPersistence} {part : Part}
    (other : args.part ≠ part) (hold : part.Hold roomId Value goal view) :
    part.Hold roomId Value (goalAfter goal args) view := by
  cases changed : args.part with
  | records =>
      cases part with
      | records => exact absurd changed other
      | members =>
          show MembersHold roomId view Value (goalAfter goal args).members
          rw [members_goalAfter changed]
          exact hold
  | members =>
      cases part with
      | records =>
          show RecordsHold roomId view Value (goalAfter goal args).records
          rw [records_goalAfter changed]
          exact hold
      | members => exact absurd changed other

/-- A change keeps what the loads read of the other part. -/
theorem loadSound_changed {args : Change} {view : RoomPersistence}
    {history later : List (Nat × Effect Value)} {task : RaceTask Value}
    (sound : LoadSound roomId goal history view task)
    (unread : task.hasRead args.part = false) :
    LoadSound roomId (goalAfter goal args) later view task := by
  cases task with
  | load stage =>
      cases stage with
      | readRecords access effect next =>
          cases part : args.part with
          | records =>
              rw [part] at unread
              cases unread
          | members =>
              rw [LoadSound, records_goalAfter part]
              exact sound
      | readMembers buckets =>
          cases part : args.part with
          | records =>
              rw [part] at unread
              cases unread
          | members =>
              rw [LoadSound, records_goalAfter part]
              exact sound
      | scan buckets members =>
          cases part : args.part <;> rw [part] at unread <;> cases unread
      | install data =>
          cases part : args.part <;> rw [part] at unread <;> cases unread
      | _ => trivial
  | _ => trivial

omit [SerdeJson Value] in
theorem unlocked_effect (args : Change) (room : RoomState Value) :
    (args.effect room).ioLocked = room.ioLocked := by
  cases args with
  | newMember member =>
      simp only [Change.effect, RoomEffect.newMember]
      split <;> rfl
  | _ => rfl

omit [SerdeJson Value] in
theorem noTransaction_effect (args : Change) (room : RoomState Value) :
    (args.effect room).txBuffer = room.txBuffer := by
  cases args with
  | newMember member =>
      simp only [Change.effect, RoomEffect.newMember]
      split <;> rfl
  | _ => rfl

/-- A change takes effect in memory, or is refused. -/
theorem change_mutate (sound : Sound roomId race room goal) {args : Change}
    (found : race.tasks[index]? = some (.change args .mutate))
    (admitted : Pool.admits race.holder index .acquire = true)
    (isolates : race.Isolates roomId (.change args .mutate)) :
    ∃ changed aim, Sound roomId
      (race.execute roomId index (.change args .mutate)) changed aim := by
  have noHolder : race.holder = none := by
    simpa [Pool.admits] using admitted
  have noRest (part : Part) (task : RaceTask Value) (member : task ∈ race.tasks) :
      task.rest roomId part = none := by
    obtain ⟨other, isTask⟩ := List.mem_iff_getElem?.mp member
    refine sound.rest_of_not_holder isTask ?_ part
    rw [noHolder]
    exact fun same => by cases same
  have hold (part : Part) : part.Hold roomId Value goal (race.view roomId) :=
    (sound.parts part).hold (noRest part)
  cases loaded : room.loaded with
  | true =>
      have isLoaded : race.kernel.state.isRoomLoaded roomId = true :=
        isRoomLoaded_iff.mpr ⟨room, sound.present, loaded⟩
      have unread := isolates isLoaded
      have advanced : RaceTask.advance roomId race.kernel
          (.change args .mutate) = (.change args .openDb,
            { race.kernel with state := { race.kernel.state with
              rooms := race.kernel.state.rooms.insert roomId
                (args.effect room) } }) := by
        simp only [RaceTask.advance, ChangeStage.advance,
          SyncpondKernel.mutateRoom, sound.present, loaded]
        rfl
      refine ⟨args.effect room, goalAfter goal args, sound.effective found
        admitted advanced (if_pos isLoaded) Std.ExtTreeMap.getElem?_insert_self ?_ ?_
        rfl ?_ ?_ ?_ trivial (fun _ => rfl) ?_ ?_ ?_ ?_⟩
      · exact (unlocked_effect args room).trans sound.unlocked
      · exact (noTransaction_effect args room).trans sound.noTransaction
      · intro part
        refine PartSound.drive found (fun _ task _ isTask =>
          noRest part task (List.mem_of_getElem? isTask)) ?_ ?_
        · intro rest isLeft
          simp only [RaceTask.rest] at isLeft
          split at isLeft
          · next same =>
            cases same
            cases isLeft
            exact coming_operation sound.tidy hold
          · cases isLeft
        · intro nothing
          simp only [RaceTask.rest] at nothing
          split at nothing
          · cases nothing
          · next other => exact hold_changed other (hold part)
      · intro _
        rw [noHolder]
        rfl
      · exact fun task member =>
          loadSound_changed (sound.loads task member) (unread task member)
      · intro part
        by_cases same : args.part = part
        · exact Or.inr (same ▸ unread)
        · exact Or.inl (if_neg same)
      · exact ⟨recorded_change _ _ args, fun _ => visible_change room args⟩
      · intro earlier notUndone stands
        obtain ⟨recorded, visible⟩ := sound.effects earlier stands
        exact ⟨recorded.change notUndone,
          fun _ => (visible loaded).change notUndone⟩
      · exact fun other promised => promised.1
  | false =>
      have notLoaded : ¬race.kernel.state.isRoomLoaded roomId = true := by
        rw [AppState.isRoomLoaded, sound.present]
        simp [loaded]
      have advanced : RaceTask.advance roomId race.kernel
          (.change args .mutate) =
            (.change args (.release roomNotLoaded), race.kernel) := by
        simp only [RaceTask.advance, ChangeStage.advance,
          SyncpondKernel.mutateRoom, sound.present, loaded]
        rfl
      refine ⟨room, goal, sound.frame found admitted advanced
        (if_neg notLoaded) rfl rfl (fun _ => .refl _) sound.tidy
        (fun _ => rfl) ?_ trivial (fun _ reads => by cases reads) ?_⟩
      · intro _
        rw [noHolder]
        rfl
      · rintro effect ⟨_, refused⟩
        cases args <;> cases refused

/-! ## Loads -/

omit [SerdeJson Value] in
theorem unlocked_loadData (room : RoomState Value) (data : RoomData Value) :
    (room.loadData data.bucketDefs data.members data.fragments).ioLocked =
      room.ioLocked := by
  rw [RoomState.loadData, foldl_installBucket]

omit [SerdeJson Value] in
theorem noTransaction_loadData (room : RoomState Value)
    (data : RoomData Value) :
    (room.loadData data.bucketDefs data.members data.fragments).txBuffer =
      room.txBuffer := by
  rw [RoomState.loadData, foldl_installBucket]

/-- What is left of the reading of the records goes on. -/
theorem loadSound_reading {history : List (Nat × Effect Value)}
    {view : RoomPersistence}
    {rest : Program RoomPersistence
      (Except String (Map BucketId BucketRecord))}
    (reading : RecordsReading roomId goal.records rest view) :
    LoadSound roomId goal history view
      (.load (LoadStage.reading rest) : RaceTask Value) := by
  cases rest with
  | done result => exact reading view (.refl view)
  | step access effect next => exact reading

omit [SerdeJson Value] in
theorem unread_reading (rest : Program RoomPersistence
    (Except String (Map BucketId BucketRecord))) :
    (LoadStage.reading rest : LoadStage Value).hasRead .members = false := by
  cases rest <;> rfl

/-- A section of a load that uses the records, which nobody changes. -/
theorem load_records (sound : Sound roomId race room goal)
    {stage : LoadStage Value}
    (found : race.tasks[index]? = some (.load stage))
    (admitted : Pool.admits race.holder index stage.access = true)
    (noRest : ∀ other ∈ race.tasks, other.rest roomId .records = none)
    {next : LoadStage Value} {effect : RoomPersistence → RoomPersistence}
    (advances : stage.advance roomId race.kernel =
      (next, afterSection roomId effect race.kernel))
    (caches : CacheSection roomId goal.records (race.view roomId)
      (effect (race.view roomId)))
    (load : LoadSound roomId goal race.history (effect (race.view roomId))
      (.load next))
    (unread : next.hasRead .members = false) :
    Sound roomId (race.execute roomId index (.load stage)) room goal := by
  obtain ⟨sameDb, cached⟩ := caches
  have advanced : RaceTask.advance roomId race.kernel (.load stage) =
      (.load next, afterSection roomId effect race.kernel) := by
    simp only [RaceTask.advance, advances]
  have isView : (afterSection roomId effect race.kernel).persistence.view
      roomId = effect (race.view roomId) :=
    PersistenceManager.view_writeBack_self _ _ _
  have agree (part : String → Prop) :
      AgreeOn part (race.view roomId).db (effect (race.view roomId)).db := by
    rw [sameDb]
    exact .refl _
  refine sound.quiet found admitted advanced rfl rfl rfl ?_ ?_
    (fun held => by cases held) ?_ ?_ ?_ (fun _ _ => rfl)
    (fun _ promised => promised.elim)
  · rw [isView]
    obtain ⟨fragments, readable⟩ := sound.tidy.fragments
    exact ⟨sameDb ▸ sound.tidy.onlyDbKeys, fragments, sameDb ▸ readable⟩
  · intro part
    rw [isView]
    cases part with
    | members => exact (sound.parts .members).frame found rfl (agree _)
    | records =>
        refine PartSound.drive found (fun _ task _ isTask =>
          noRest task (List.mem_of_getElem? isTask))
          (fun _ isLeft => by cases isLeft) fun _ => ?_
        have hold : RecordsHold roomId (race.view roomId) Value goal.records :=
          (sound.parts .records).hold noRest
        exact hold.congr (agree _) cached
  · rw [isView]
    exact load
  · rw [isView]
    exact fun _ => agree _
  · intro part reads
    cases part with
    | records => exact Or.inr noRest
    | members =>
        rw [RaceTask.hasRead, unread] at reads
        cases reads

omit [SerdeJson Value] in
/-- A section that changes nothing leaves the database of the room alone. -/
theorem view_afterSection_id :
    (afterSection roomId (fun view => view) race.kernel).persistence.view
      roomId = race.view roomId :=
  PersistenceManager.view_writeBack_self _ _ _

/-- The database is open already. -/
theorem load_openDb (sound : Sound roomId race room goal)
    (found : race.tasks[index]? = some (.load .openDb))
    (admitted : Pool.admits race.holder index .free = true) :
    Sound roomId (race.execute roomId index (.load .openDb)) room
      goal := by
  have opened := sound.opened
  have advanced : RaceTask.advance roomId race.kernel (.load .openDb) =
      (.load .find, race.kernel) := by
    have isOpen : race.kernel.persistence.openRoomDb .none roomId =
        (race.kernel.persistence, .ok ()) := by
      rw [PersistenceManager.openRoomDb, if_pos opened]
    simp only [RaceTask.advance, LoadStage.advance, afterOpen, isOpen]
  exact sound.frame found admitted advanced rfl rfl rfl (fun _ => .refl _)
    sound.tidy (fun _ => rfl) (fun held => by cases held) trivial
    (fun part reads => by cases part <;> cases reads)
    (fun _ promised => promised.elim)

/-- The open database is found. -/
theorem load_find (sound : Sound roomId race room goal)
    (found : race.tasks[index]? = some (.load .find))
    (admitted : Pool.admits race.holder index .free = true) :
    Sound roomId (race.execute roomId index (.load .find)) room
      goal := by
  have opened := sound.opened
  have advanced : RaceTask.advance roomId race.kernel (.load .find) =
      (.load .lookup, race.kernel) := by
    simp only [RaceTask.advance, LoadStage.advance, opened, if_true]
  exact sound.frame found admitted advanced rfl rfl rfl (fun _ => .refl _)
    sound.tidy (fun _ => rfl) (fun held => by cases held) trivial
    (fun part reads => by cases part <;> cases reads)
    (fun _ promised => promised.elim)

/-- The cache is asked for the records, which nobody changes. -/
theorem load_lookup (sound : Sound roomId race room goal)
    (found : race.tasks[index]? = some (.load .lookup))
    (admitted : Pool.admits race.holder index .free = true)
    (noRest : ∀ other ∈ race.tasks, other.rest roomId .records = none) :
    Sound roomId (race.execute roomId index (.load .lookup)) room
      goal := by
  have hold : RecordsHold roomId (race.view roomId) Value goal.records :=
    (sound.parts .records).hold noRest
  have caches : CacheSection roomId goal.records (race.view roomId)
      ((Storage.cacheGetBuckets roomId).exec (race.view roomId)).2 := by
    refine ⟨rfl, fun entry cached => Or.inr ?_⟩
    rwa [exec_cacheGetBuckets, Cache.peek_get] at cached
  have isPeek := Cache.get_snd (race.view roomId).bucketCache roomId
  cases looked : (race.view roomId).bucketCache.get roomId with
  | mk cache entry =>
  rw [looked] at isPeek
  cases entry with
  | some entry =>
      have advanced : LoadStage.advance roomId race.kernel .lookup =
          (.readMembers (.ok entry), afterSection roomId (fun view =>
            ((Storage.cacheGetBuckets roomId).exec view).2)
              race.kernel) := by
        rw [LoadStage.advance, ← Race.view, looked]
      exact sound.load_records found admitted noRest advanced caches
        (congrArg Except.ok (hold.cached entry isPeek.symm)) rfl
  | none =>
      have advanced : LoadStage.advance roomId race.kernel .lookup =
          (.reading (readBuckets Value roomId).run,
            afterSection roomId (fun view =>
              ((Storage.cacheGetBuckets roomId).exec view).2)
                race.kernel) := by
        rw [LoadStage.advance, ← Race.view, looked]
      have readable : Readable Value roomId goal.records
          ((Storage.cacheGetBuckets roomId).exec (race.view roomId)).2 :=
        ⟨sound.tidy.onlyDbKeys, hold.stored, hold.listed⟩
      exact sound.load_records found admitted noRest advanced caches
        (loadSound_reading (recordsReading readable))
        (unread_reading _)

/-- The members are read, which nobody changes. -/
theorem load_members (sound : Sound roomId race room goal)
    {buckets : Except String (Map BucketId BucketRecord)}
    (found : race.tasks[index]? = some (.load (.readMembers buckets)))
    (admitted : Pool.admits race.holder index .free = true)
    (noRest : ∀ other ∈ race.tasks, other.rest roomId .members = none) :
    Sound roomId (race.execute roomId index (.load (.readMembers buckets))) room
      goal := by
  have isLoad := sound.loads _ (List.mem_of_getElem? found)
  have hold : MembersHold roomId (race.view roomId) Value goal.members :=
    (sound.parts .members).hold noRest
  have read : ((loadMembers .none Value roomId).exec
      (race.kernel.persistence.view roomId)).1 = .ok goal.members :=
    congrArg Prod.fst (exec_loadMembers hold)
  refine sound.frame found admitted rfl rfl rfl rfl ?_ ?_ (fun _ => rfl)
    (fun held => by cases held) ⟨isLoad, read⟩ ?_
    (fun _ promised => promised.elim)
  · simp only [LoadStage.advance, view_afterSection_id]
    exact fun _ => .refl _
  · simp only [LoadStage.advance, view_afterSection_id]
    exact sound.tidy
  · intro part _
    cases part with
    | records => exact Or.inl rfl
    | members => exact Or.inr noRest

/-- The fragments are read, with every write that stands. -/
theorem load_scan (sound : Sound roomId race room goal)
    {buckets : Except String (Map BucketId BucketRecord)}
    {members : Except String (FinSet String)}
    (found : race.tasks[index]? = some (.load (.scan buckets members)))
    (admitted : Pool.admits race.holder index .free = true)
    (isolates : race.Isolates roomId (.load (.scan buckets members))) :
    Sound roomId (race.execute roomId index (.load (.scan buckets members))) room
      goal := by
  have member := List.mem_of_getElem? found
  have isLoad := sound.loads _ member
  have exclusive := sound.exclusive _ member
  obtain ⟨rfl, rfl⟩ := isLoad
  have records : RecordsHold roomId (race.view roomId) Value
      goal.records :=
    (sound.parts .records).hold (exclusive .records rfl)
  have held : MembersHold roomId (race.view roomId) Value goal.members :=
    (sound.parts .members).hold (exclusive .members rfl)
  obtain ⟨fragments, readable⟩ := sound.tidy.fragments
  obtain ⟨loaded, ran, scanned⟩ :=
    exec_loadAllFragments sound.tidy.onlyDbKeys readable
  have represents : Represents roomId (race.view roomId).db
      (⟨goal.records, fragments, goal.members⟩ : Disk Value) := {
    onlyDbKeys := sound.tidy.onlyDbKeys
    fragments := readable
    records := records.stored
    bucketList := records.listed
    members := held }
  have advanced : RaceTask.advance roomId race.kernel
      (.load (.scan (.ok goal.records) (.ok goal.members))) =
        (.load (.install ⟨bucketDefs goal.records, goal.members, loaded⟩),
          afterSection roomId (fun view => view) race.kernel) := by
    rw [RaceTask.advance, LoadStage.advance, ← Race.view, ran]
    rfl
  refine sound.frame found admitted advanced rfl rfl rfl ?_ ?_
    (fun _ => rfl) (fun held => by cases held) ?_ ?_
    (fun _ promised => promised.elim)
  · rw [view_afterSection_id]
    exact fun _ => .refl _
  · rw [view_afterSection_id]
    exact sound.tidy
  · intro effect room stands
    exact visible_load represents scanned (sound.effects effect stands).1
      (isolates effect stands) room
  · intro part _
    cases part <;> exact Or.inl rfl

/-- A section of a load before the room is installed. -/
theorem load_quiet (sound : Sound roomId race room goal)
    {stage : LoadStage Value}
    (found : race.tasks[index]? = some (.load stage))
    (isActive : stage.active = true)
    (admitted : Pool.admits race.holder index stage.access = true)
    (isolates : race.Isolates roomId (.load stage))
    (installs : ∀ data, stage ≠ .install data) :
    Sound roomId (race.execute roomId index (.load stage)) room goal := by
  cases stage with
  | openDb => exact sound.load_openDb found admitted
  | find => exact sound.load_find found admitted
  | lookup => exact sound.load_lookup found admitted isolates
  | readRecords access effect next =>
      have member := List.mem_of_getElem? found
      obtain ⟨caches, after⟩ :=
        sound.loads _ member (race.view roomId) (.refl _)
      exact sound.load_records found admitted
        (sound.exclusive _ member .records rfl) rfl caches
        (loadSound_reading after) (unread_reading _)
  | readMembers buckets => exact sound.load_members found admitted isolates
  | scan buckets members => exact sound.load_scan found admitted isolates
  | install data => exact absurd rfl (installs data)
  | finished response => cases isActive

/-- A load installs what it read. -/
theorem load_install (sound : Sound roomId race room goal)
    {data : RoomData Value}
    (found : race.tasks[index]? = some (.load (.install data)))
    (admitted : Pool.admits race.holder index .locked = true) :
    ∃ changed, Sound roomId
      (race.execute roomId index (.load (.install data))) changed goal := by
  have shows := sound.loads _ (List.mem_of_getElem? found)
  have advanced : RaceTask.advance roomId race.kernel
      (.load (.install data)) =
        (.load (.finished (.loadRoomResponse (.ok ()))),
          { race.kernel with state := { race.kernel.state with
            rooms := race.kernel.state.rooms.insert roomId (room.loadData
              data.bucketDefs data.members data.fragments) } }) := by
    simp only [RaceTask.advance, LoadStage.advance,
      SyncpondKernel.installRoomData, AppState.loadRoomData,
      AppState.withRoom, sound.present, Except.map]
  have idle : Idle roomId
      (.load (.finished (.loadRoomResponse (.ok ()))) : RaceTask Value) :=
    ⟨fun _ => rfl, rfl, fun part => by cases part <;> rfl,
      fun _ _ _ => trivial, fun _ promises => promises⟩
  refine ⟨_, sound.replaced found admitted advanced rfl (fun _ => rfl) idle
    rfl Std.ExtTreeMap.getElem?_insert_self ?_ ?_ ?_⟩
  · exact (unlocked_loadData room data).trans sound.unlocked
  · exact (noTransaction_loadData room data).trans sound.noTransaction
  · exact fun effect stands _ => shows effect room stands

/-- A room is unloaded. -/
theorem unload (sound : Sound roomId race room goal)
    (found : race.tasks[index]? = some (.unload none))
    (admitted : Pool.admits race.holder index .locked = true) :
    Sound roomId (race.execute roomId index (.unload none)) room.unload
      goal := by
  have advanced : RaceTask.advance roomId race.kernel (.unload none) =
      (.unload (some (.unloadRoomResponse (.ok ()))),
        { race.kernel with state := { race.kernel.state with
          rooms := race.kernel.state.rooms.insert roomId room.unload } }) := by
    simp only [RaceTask.advance, SyncpondKernel.unloadRoom,
      AppState.unloadRoom, AppState.withRoom, sound.present, Except.map]
  have idle : Idle roomId
      (.unload (some (.unloadRoomResponse (.ok ()))) : RaceTask Value) :=
    ⟨fun _ => rfl, rfl, fun _ => rfl, fun _ _ _ => trivial,
      fun _ promises => promises⟩
  refine sound.replaced found admitted advanced rfl (fun _ => rfl) idle rfl
    Std.ExtTreeMap.getElem?_insert_self sound.unlocked sound.noTransaction ?_
  exact fun _ _ loaded => by cases loaded

/-! ## Commands -/

/-- A command that goes on keeps the race sound if no load loses it. -/
theorem advance (sound : Sound roomId race room goal) {after : Race Value}
    (advanced : race.advance roomId index = some after)
    (isolated : ∀ task, race.tasks[index]? = some task →
      race.Isolates roomId task) :
    ∃ changed aim, Sound roomId after changed aim := by
  obtain ⟨task, found, isActive, admitted, rfl⟩ :=
    Race.advance_eq_some advanced
  have isolates := isolated task found
  cases task with
  | write task =>
      by_cases stage : task.stage = .commit
      · obtain ⟨changed, kept⟩ :=
          sound.write_commit found stage admitted isolates
        exact ⟨changed, goal, kept⟩
      · exact ⟨room, goal, sound.write_quiet found isActive stage admitted⟩
  | change args stage =>
      by_cases isLater : stage.holds = true
      · exact ⟨room, goal,
          sound.change_quiet found isActive isLater admitted⟩
      · cases stage with
        | mutate => exact sound.change_mutate found admitted isolates
        | finished response => cases isActive
        | _ => exact absurd rfl isLater
  | load stage =>
      by_cases installs : ∃ data, stage = .install data
      · obtain ⟨data, rfl⟩ := installs
        obtain ⟨changed, kept⟩ := sound.load_install found admitted
        exact ⟨changed, goal, kept⟩
      · exact ⟨room, goal, sound.load_quiet found isActive admitted isolates
          fun data same => installs ⟨data, same⟩⟩
  | unload response =>
      cases response with
      | none => exact ⟨room.unload, goal, sound.unload found admitted⟩
      | some response => cases isActive

end Sound

end Syncpond.RaceInvariant
