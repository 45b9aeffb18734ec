import Syncpond.Races

/-!
# What holds of a race

In a race whose steps were isolated, what is left of each change of the disk
leads to what the disk is to be, each load read what is to be so far, and every
effect that stands is recorded, and shows in memory if the room is loaded.

The invariant is kept by a section that says what it does to the room in
memory, to the parts of the database, and to the history.
-/

namespace Syncpond.RaceInvariant

open Syncpond.Protocol
open Syncpond.Serde
open Syncpond.State
open Syncpond.Persistence
open Syncpond.Kernel
open Syncpond.KernelStore
open Syncpond.Consistency
open Syncpond.WriteTasks
open Syncpond.Disks
open Syncpond.DiskOperations
open Syncpond.RoomParts
open Syncpond.RoomRace
open Syncpond.RoomEffects
open Syncpond.Races
open Syncpond.Library.Maps
open Syncpond.Library.Programs

variable {Value : Type} [SerdeJson Value]

/-! ## The invariant -/

/-- The effect of a command that took effect, in memory at least. -/
def Promises : RaceTask Value → Effect Value → Prop
  | .write task, effect => task.stage.uncommitted = false ∧
      effect = .write task.bucketId task.key task.parsed
  | .change args stage, effect => effect = Change.promise args ∧
      match stage with
      | .mutate => False
      | .release response => response = args.response
      | .finished response => response = args.response
      | _ => True
  | _, _ => False

/--
What is left of the changes of a part leads to what the part is to be; without
a change in progress, the part is that.
-/
structure PartSound (roomId : RoomId) (tasks : List (RaceTask Value))
    (goal : Goal) (view : RoomPersistence) (part : Part) : Prop where
  coming : ∀ task ∈ tasks, ∀ rest, task.rest roomId part = some rest →
    part.Coming roomId Value goal rest view
  hold : (∀ task ∈ tasks, task.rest roomId part = none) →
    part.Hold roomId Value goal view

/-- What a load read so far is what is to be. -/
def LoadSound (roomId : RoomId) (goal : Goal)
    (history : List (Nat × Effect Value)) (view : RoomPersistence) :
    RaceTask Value → Prop
  | .load (.readRecords access effect next) =>
      RecordsReading roomId goal.records (.step access effect next) view
  | .load (.readMembers buckets) => buckets = .ok goal.records
  | .load (.scan buckets members) =>
      buckets = .ok goal.records ∧ members = .ok goal.members
  | .load (.install data) => ∀ (effect : Effect Value) (room : RoomState Value),
      Standing history effect → effect.Visible
        (room.loadData data.bucketDefs data.members data.fragments)
  | _ => True

/-- What holds of a race whose steps so far were isolated. -/
structure Sound (roomId : RoomId) (race : Race Value) (room : RoomState Value)
    (goal : Goal) : Prop where
  present : race.kernel.state.rooms[roomId]? = some room
  unlocked : room.ioLocked = false
  noTransaction : room.txBuffer = none
  opened : race.kernel.persistence.dbs.contains roomId = true
  tidy : Tidy roomId (race.view roomId) Value
  parts : ∀ part, PartSound roomId race.tasks goal (race.view roomId) part
  locks : ∀ (index : Nat) (task : RaceTask Value),
    race.tasks[index]? = some task → task.holds = true →
      race.holder = some index
  loads : ∀ task ∈ race.tasks,
    LoadSound roomId goal race.history (race.view roomId) task
  /-- No part is changed while a load works with what it read of it. -/
  exclusive : ∀ task ∈ race.tasks, ∀ part, task.hasRead part = true →
    ∀ other ∈ race.tasks, other.rest roomId part = none
  effects : ∀ effect, Standing race.history effect →
    effect.Recorded goal.records goal.members ∧
      (room.loaded = true → effect.Visible room)
  logged : ∀ (index : Nat) (task : RaceTask Value) (effect : Effect Value),
    race.tasks[index]? = some task → Promises task effect →
      (index, effect) ∈ race.history

/-! ### Tasks one of which goes on -/

section Tasks

variable {roomId : RoomId} {tasks : List (RaceTask Value)} {index : Nat}
variable {old new task : RaceTask Value} {part : Part}

omit [SerdeJson Value] in
/-- A task is the one that goes on, or is still there. -/
theorem mem_set_of_mem (found : tasks[index]? = some old)
    (member : task ∈ tasks) : task = old ∨ task ∈ tasks.set index new := by
  obtain ⟨other, isTask⟩ := List.mem_iff_getElem?.mp member
  by_cases same : index = other
  · subst same
    rw [found] at isTask
    exact Or.inl (Option.some.inj isTask).symm
  · refine Or.inr (List.mem_of_getElem? (i := other) ?_)
    rw [List.getElem?_set_ne same]
    exact isTask

omit [SerdeJson Value] in
/-- A task at an index is the one that went on, or was there before. -/
theorem getElem?_set_cases {other : Nat}
    (found : (tasks.set index new)[other]? = some task) :
    (other = index ∧ task = new) ∨
      (other ≠ index ∧ tasks[other]? = some task) := by
  rw [List.getElem?_set] at found
  split at found
  · next same =>
    split at found
    · exact Or.inl ⟨same.symm, (Option.some.inj found).symm⟩
    · cases found
  · next different =>
    exact Or.inr ⟨fun same => different same.symm, found⟩

/-- A change that is not persisted keeps the lock. -/
theorem holds_of_rest {rest : Program RoomPersistence (Except String Unit)}
    (isLeft : task.rest roomId part = some rest) : task.holds = true := by
  cases task with
  | change args stage =>
      simp only [RaceTask.rest] at isLeft
      split at isLeft
      · cases stage with
        | openDb => rfl
        | find => rfl
        | persist access effect next => rfl
        | mutate => cases isLeft
        | release response => cases isLeft
        | finished response => cases isLeft
      · cases isLeft
  | write task => cases isLeft
  | load stage => cases isLeft
  | unload response => cases isLeft

namespace PartSound

variable {goal : Goal} {view after : RoomPersistence}

/-- A task goes on without a change of the part. -/
theorem frame (sound : PartSound roomId tasks goal view part)
    (found : tasks[index]? = some old)
    (sameRest : new.rest roomId part = old.rest roomId part)
    (kept : part.Same roomId view after) :
    PartSound roomId (tasks.set index new) goal after part where
  coming task member rest isLeft := by
    rcases List.mem_or_eq_of_mem_set member with before | rfl
    · exact (sound.coming task before rest isLeft).stable kept
    · rw [sameRest] at isLeft
      exact (sound.coming old (List.mem_of_getElem? found) rest isLeft).stable
        kept
  hold noRest := by
    refine (sound.hold fun task member => ?_).congr kept
    rcases @mem_set_of_mem _ _ _ old new task found member with rfl | still
    · rw [← sameRest]
      exact noRest new
        (List.mem_set (List.getElem?_eq_some_iff.mp found).1 new)
    · exact noRest task still

/-- The task that goes on is the one that changes the part, if there is one. -/
theorem drive (found : tasks[index]? = some old)
    (others : ∀ (other : Nat) (task : RaceTask Value), other ≠ index →
      tasks[other]? = some task → task.rest roomId part = none)
    (coming : ∀ rest, new.rest roomId part = some rest →
      part.Coming roomId Value goal rest after)
    (hold : new.rest roomId part = none → part.Hold roomId Value goal after) :
    PartSound roomId (tasks.set index new) goal after part where
  coming task member rest isLeft := by
    rcases mem_set_cases member with rfl | ⟨other, different, isTask⟩
    · exact coming rest isLeft
    · rw [others other task different isTask] at isLeft
      cases isLeft
  hold noRest := hold (noRest new
    (List.mem_set (List.getElem?_eq_some_iff.mp found).1 new))

end PartSound

end Tasks

/-! ### The ends of a run -/

/-- No command in progress on a room of a reachable kernel. -/
theorem sound_start {kernel : SyncpondKernel Value} {store : Store Value}
    (refines : Refines kernel store) (consistent : Consistent store)
    {roomId : RoomId} {room : RoomState Value}
    (present : store.state.rooms[roomId]? = some room) :
    Sound roomId (.start kernel) room
      ⟨(store.disks roomId).records, (store.disks roomId).members⟩ where
  present := refines.state ▸ present
  unlocked := (consistent.rooms roomId room present).unlocked
  noTransaction := (consistent.rooms roomId room present).noTransaction
  opened := by
    have opened := (consistent.rooms roomId room present).opened
    rw [← refines.dbs] at opened
    exact opened
  tidy := ⟨(refines.holds roomId).represents.onlyDbKeys, _,
    (refines.holds roomId).represents.fragments⟩
  parts part := by
    refine ⟨by simp [Race.start], fun _ => ?_⟩
    cases part with
    | records => exact recordsHold_of_holds (refines.holds roomId)
    | members => exact (refines.holds roomId).represents.members
  locks := by simp [Race.start]
  loads := by simp [Race.start]
  exclusive := by simp [Race.start]
  effects effect stands := stands.elim
  logged := by simp [Race.start]

namespace Sound

variable {roomId : RoomId} {race : Race Value} {room : RoomState Value}
variable {goal : Goal}

/-- A command that returned changes nothing any more. -/
theorem rest_of_returned {task : RaceTask Value}
    (returned : task.active = false) (part : Part) :
    task.rest roomId part = none := by
  cases task with
  | change args stage =>
      cases stage with
      | finished response => exact ite_self _
      | _ => cases returned
  | write task => rfl
  | load stage => rfl
  | unload response => rfl

theorem promises_of_acknowledges {task : RaceTask Value}
    {effect : Effect Value} (acknowledges : Race.Acknowledges task effect) :
    Promises task effect := by
  cases task with
  | write task =>
      obtain ⟨finished, rfl⟩ := acknowledges
      exact ⟨by rw [finished]; rfl, rfl⟩
  | change args stage =>
      cases stage with
      | finished response => exact ⟨acknowledges.2, acknowledges.1⟩
      | _ => cases acknowledges
  | load stage => cases acknowledges
  | unload response => cases acknowledges

/-- Nothing is lost when all commands returned. -/
theorem nothingLost (sound : Sound roomId race room goal) :
    race.NothingLost roomId := by
  intro returned found present loaded
  cases sound.present.symm.trans present
  constructor
  · intro index task effect isTask acknowledges
    have logged := sound.logged index task effect isTask
      (promises_of_acknowledges acknowledges)
    obtain ⟨newer, older, split, undone | stands⟩ := standing_or_undone logged
    · exact ⟨newer, older, split, Or.inl undone⟩
    · exact ⟨newer, older, split,
        Or.inr ((sound.effects effect stands).2 loaded)⟩
  · intro records cached
    have hold : RecordsHold roomId (race.view roomId) Value goal.records :=
      (sound.parts .records).hold fun task member =>
        rest_of_returned (returned task member) .records
    rw [hold.cached records cached]
    exact hold.stored

/-- A command that was just received has done nothing. -/
structure Idle (roomId : RoomId) (task : RaceTask Value) : Prop where
  rest : ∀ part, task.rest roomId part = none
  holds : task.holds = false
  hasRead : ∀ part, task.hasRead part = false
  load : ∀ goal history view, LoadSound roomId goal history view task
  promises : ∀ effect, ¬Promises task effect

theorem idle_new {command : Commands} {task : RaceTask Value}
    (isNew : RaceTask.new roomId command = some task) : Idle roomId task := by
  have write (bucketId : BucketId) (key : String) (data : FragmentData) :
      Idle roomId (.write (.new bucketId key data) : RaceTask Value) :=
    ⟨fun _ => rfl, rfl, fun _ => rfl, fun _ _ _ => trivial,
      fun _ promises => by cases promises.1⟩
  have change (args : Change) :
      Idle roomId (.change args .mutate : RaceTask Value) :=
    ⟨fun _ => ite_self _, rfl, fun _ => rfl, fun _ _ _ => trivial,
      fun _ promises => promises.2⟩
  have load : Idle roomId (.load .openDb : RaceTask Value) :=
    ⟨fun _ => rfl, rfl, fun part => by cases part <;> rfl,
      fun _ _ _ => trivial, fun _ promises => promises⟩
  have unload : Idle roomId (.unload none : RaceTask Value) :=
    ⟨fun _ => rfl, rfl, fun _ => rfl, fun _ _ _ => trivial,
      fun _ promises => promises⟩
  cases command with
  | newRoom name => cases isNew
  | readFragment target bucketId key => cases isNew
  | _ =>
      simp only [RaceTask.new, Option.ite_none_right_eq_some] at isNew
      obtain ⟨_, isNew⟩ := isNew
      cases isNew
      first
        | exact write _ _ _
        | exact change _
        | exact load
        | exact unload

/-- A command that starts has done nothing. -/
theorem command (sound : Sound roomId race room goal) {command : Commands}
    {task : RaceTask Value} (isNew : RaceTask.new roomId command = some task) :
    Sound roomId { race with tasks := race.tasks ++ [task] } room goal := by
  have idle := idle_new isNew
  have known {other : RaceTask Value} (member : other ∈ race.tasks ++ [task]) :
      other ∈ race.tasks ∨ other = task :=
    (List.mem_append.mp member).imp id List.mem_singleton.mp
  have indexed {index : Nat} {other : RaceTask Value}
      (found : (race.tasks ++ [task])[index]? = some other) :
      race.tasks[index]? = some other ∨ other = task := by
    rw [List.getElem?_append] at found
    split at found
    · exact Or.inl found
    · exact Or.inr (List.mem_singleton.mp (List.mem_of_getElem? found))
  constructor
  · exact sound.present
  · exact sound.unlocked
  · exact sound.noTransaction
  · exact sound.opened
  · exact sound.tidy
  · intro part
    constructor
    · intro other member rest isLeft
      rcases known member with before | rfl
      · exact (sound.parts part).coming other before rest isLeft
      · rw [idle.rest] at isLeft
        cases isLeft
    · intro noRest
      exact (sound.parts part).hold fun other member =>
        noRest other (List.mem_append_left _ member)
  · intro index other found held
    rcases indexed found with before | rfl
    · exact sound.locks index other before held
    · rw [idle.holds] at held
      cases held
  · intro other member
    rcases known member with before | rfl
    · exact sound.loads other before
    · exact idle.load _ _ _
  · intro other member part reads third thirdMember
    rcases known member with before | rfl
    · rcases known thirdMember with thirdBefore | rfl
      · exact sound.exclusive other before part reads third thirdBefore
      · exact idle.rest part
    · rw [idle.hasRead] at reads
      cases reads
  · exact sound.effects
  · intro index other effect found promises
    rcases indexed found with before | rfl
    · exact sound.logged index other effect before promises
    · exact absurd promises (idle.promises effect)

/-! ### Sections -/

section Sections

variable {index : Nat} {old new : RaceTask Value}
variable {kernel : SyncpondKernel Value}

/-- The lock is where the tasks that keep it are. -/
theorem locks_execute (sound : Sound roomId race room goal)
    (admitted : Pool.admits race.holder index old.access = true)
    (held : new.holds = true →
      Pool.holderAfter race.holder index old.access = some index)
    (other : Nat) (task : RaceTask Value)
    (isTask : (race.tasks.set index new)[other]? = some task)
    (holds : task.holds = true) :
    Pool.holderAfter race.holder index old.access = some other := by
  rcases getElem?_set_cases isTask with ⟨rfl, rfl⟩ | ⟨different, before⟩
  · exact held holds
  · have isHolder := sound.locks other task before holds
    rw [isHolder] at admitted ⊢
    cases access : old.access with
    | free => rfl
    | locked => rfl
    | acquire => simp [access, Pool.admits] at admitted
    | release =>
        have same : other = index := by
          simpa [access, Pool.admits] using admitted
        exact absurd same different

/-- What the loads read so far is still what is to be. -/
theorem loadSound_keep {history : List (Nat × Effect Value)}
    {view after : RoomPersistence} {task : RaceTask Value}
    (sound : LoadSound roomId goal history view task)
    (keeps : task.hasRead .records = true → KeepsRecords roomId view after) :
    LoadSound roomId goal history after task := by
  cases task with
  | load stage =>
      cases stage with
      | readRecords access effect next =>
          refine Program.Under.stable ?_ sound (keeps rfl)
          exact KeepsRecords.trans
      | _ => exact sound
  | _ => trivial

/-- A section without an effect of its own. -/
theorem unlogged (sound : Sound roomId race room goal)
    (found : race.tasks[index]? = some old)
    (admitted : Pool.admits race.holder index old.access = true)
    (advances : old.advance roomId race.kernel = (new, kernel))
    (silent : takesEffect roomId race.kernel old = none)
    {changed : RoomState Value}
    (present : kernel.state.rooms[roomId]? = some changed)
    (unlocked : changed.ioLocked = false)
    (noTransaction : changed.txBuffer = none)
    (visible : ∀ effect, Standing race.history effect →
      changed.loaded = true → effect.Visible changed)
    (dbs : kernel.persistence.dbs = race.kernel.persistence.dbs)
    (tidy : Tidy roomId (kernel.persistence.view roomId) Value)
    (parts : ∀ part, PartSound roomId (race.tasks.set index new) goal
      (kernel.persistence.view roomId) part)
    (held : new.holds = true →
      Pool.holderAfter race.holder index old.access = some index)
    (load : LoadSound roomId goal race.history
      (kernel.persistence.view roomId) new)
    (keeps : (∃ task ∈ race.tasks, task.hasRead .records = true) →
      AgreeOn (RecordKey roomId) (race.view roomId).db
        (kernel.persistence.view roomId).db)
    (reads : ∀ part, new.hasRead part = true → old.hasRead part = true ∨
      ∀ other ∈ race.tasks, other.rest roomId part = none)
    (rests : ∀ part, old.rest roomId part = none →
      new.rest roomId part = none)
    (promises : ∀ effect, Promises new effect → Promises old effect) :
    Sound roomId (race.execute roomId index old) changed goal := by
  have isOld := List.mem_of_getElem? found
  have noRest {part : Part}
      (before : ∀ other ∈ race.tasks, other.rest roomId part = none)
      (other : RaceTask Value) (member : other ∈ race.tasks.set index new) :
      other.rest roomId part = none := by
    rcases List.mem_or_eq_of_mem_set member with isOther | rfl
    · exact before other isOther
    · exact rests part (before old isOld)
  have executed : race.execute roomId index old =
      ⟨kernel, race.tasks.set index new,
        Pool.holderAfter race.holder index old.access, race.history⟩ := by
    simp only [Race.execute, advances, silent]
  rw [executed]
  constructor
  · exact present
  · exact unlocked
  · exact noTransaction
  · rw [dbs]
    exact sound.opened
  · exact tidy
  · exact parts
  · exact sound.locks_execute admitted held
  · intro task member
    rcases List.mem_or_eq_of_mem_set member with before | rfl
    · exact loadSound_keep (sound.loads task before) fun reads =>
        ⟨keeps ⟨task, before, reads⟩, fun _ => tidy.onlyDbKeys⟩
    · exact load
  · intro task member part isRead other isOther
    rcases List.mem_or_eq_of_mem_set member with before | rfl
    · exact noRest (sound.exclusive task before part isRead) other isOther
    · rcases reads part isRead with before | quiet
      · exact noRest (sound.exclusive old isOld part before) other isOther
      · exact noRest quiet other isOther
  · exact fun effect stands =>
      ⟨(sound.effects effect stands).1, visible effect stands⟩
  · intro other task effect isTask isPromised
    rcases getElem?_set_cases isTask with ⟨rfl, rfl⟩ | ⟨_, before⟩
    · exact sound.logged _ old effect found (promises effect isPromised)
    · exact sound.logged other task effect before isPromised

/-- A section without an effect on the room in memory. -/
theorem quiet (sound : Sound roomId race room goal)
    (found : race.tasks[index]? = some old)
    (admitted : Pool.admits race.holder index old.access = true)
    (advances : old.advance roomId race.kernel = (new, kernel))
    (silent : takesEffect roomId race.kernel old = none)
    (state : kernel.state = race.kernel.state)
    (dbs : kernel.persistence.dbs = race.kernel.persistence.dbs)
    (tidy : Tidy roomId (kernel.persistence.view roomId) Value)
    (parts : ∀ part, PartSound roomId (race.tasks.set index new) goal
      (kernel.persistence.view roomId) part)
    (held : new.holds = true →
      Pool.holderAfter race.holder index old.access = some index)
    (load : LoadSound roomId goal race.history
      (kernel.persistence.view roomId) new)
    (keeps : (∃ task ∈ race.tasks, task.hasRead .records = true) →
      AgreeOn (RecordKey roomId) (race.view roomId).db
        (kernel.persistence.view roomId).db)
    (reads : ∀ part, new.hasRead part = true → old.hasRead part = true ∨
      ∀ other ∈ race.tasks, other.rest roomId part = none)
    (rests : ∀ part, old.rest roomId part = none →
      new.rest roomId part = none)
    (promises : ∀ effect, Promises new effect → Promises old effect) :
    Sound roomId (race.execute roomId index old) room goal :=
  sound.unlogged found admitted advances silent
    (state ▸ sound.present) sound.unlocked sound.noTransaction
    (fun effect stands => (sound.effects effect stands).2) dbs tidy parts held
    load keeps reads rests promises

/-- A section that replaces the room in memory. -/
theorem replaced (sound : Sound roomId race room goal)
    (found : race.tasks[index]? = some old)
    (admitted : Pool.admits race.holder index old.access = true)
    (advances : old.advance roomId race.kernel = (new, kernel))
    (silent : takesEffect roomId race.kernel old = none)
    (noRest : ∀ part, old.rest roomId part = none) (idle : Idle roomId new)
    (persistence : kernel.persistence = race.kernel.persistence)
    {changed : RoomState Value}
    (present : kernel.state.rooms[roomId]? = some changed)
    (unlocked : changed.ioLocked = false)
    (noTransaction : changed.txBuffer = none)
    (visible : ∀ effect, Standing race.history effect →
      changed.loaded = true → effect.Visible changed) :
    Sound roomId (race.execute roomId index old) changed goal := by
  have sameView : kernel.persistence.view roomId = race.view roomId := by
    rw [persistence]
    rfl
  refine sound.unlogged found admitted advances silent present unlocked
    noTransaction visible (by rw [persistence]) ?_ ?_ ?_ (idle.load _ _ _) ?_
    ?_ (fun part _ => idle.rest part) ?_
  · rw [sameView]
    exact sound.tidy
  · intro part
    refine (sound.parts part).frame found ?_ ?_
    · rw [idle.rest, noRest]
    · rw [sameView]
      exact .refl _
  · intro held
    rw [idle.holds] at held
    cases held
  · intro _
    rw [sameView]
    exact .refl _
  · intro part reads
    rw [idle.hasRead] at reads
    cases reads
  · exact fun effect promised => absurd promised (idle.promises effect)

/-- A section that keeps both parts. -/
theorem frame (sound : Sound roomId race room goal)
    (found : race.tasks[index]? = some old)
    (admitted : Pool.admits race.holder index old.access = true)
    (advances : old.advance roomId race.kernel = (new, kernel))
    (silent : takesEffect roomId race.kernel old = none)
    (state : kernel.state = race.kernel.state)
    (dbs : kernel.persistence.dbs = race.kernel.persistence.dbs)
    (kept : ∀ part : Part, part.Same roomId (race.view roomId)
      (kernel.persistence.view roomId))
    (tidy : Tidy roomId (kernel.persistence.view roomId) Value)
    (sameRest : ∀ part, new.rest roomId part = old.rest roomId part)
    (held : new.holds = true →
      Pool.holderAfter race.holder index old.access = some index)
    (load : LoadSound roomId goal race.history
      (kernel.persistence.view roomId) new)
    (reads : ∀ part, new.hasRead part = true → old.hasRead part = true ∨
      ∀ other ∈ race.tasks, other.rest roomId part = none)
    (promises : ∀ effect, Promises new effect → Promises old effect) :
    Sound roomId (race.execute roomId index old) room goal :=
  sound.quiet found admitted advances silent state dbs tidy
    (fun part => (sound.parts part).frame found (sameRest part) (kept part))
    held load (fun _ => (kept .records).1) reads
    (fun part before => (sameRest part).trans before) promises
/-- A section that has an effect. -/
theorem effective (sound : Sound roomId race room goal)
    (found : race.tasks[index]? = some old)
    (admitted : Pool.admits race.holder index old.access = true)
    (advances : old.advance roomId race.kernel = (new, kernel))
    {effect : Effect Value}
    (takes : takesEffect roomId race.kernel old = some effect)
    {changed : RoomState Value} {aim : Goal}
    (present : kernel.state.rooms[roomId]? = some changed)
    (unlocked : changed.ioLocked = false)
    (noTransaction : changed.txBuffer = none)
    (persistence : kernel.persistence = race.kernel.persistence)
    (parts : ∀ part, PartSound roomId (race.tasks.set index new) aim
      (race.view roomId) part)
    (held : new.holds = true →
      Pool.holderAfter race.holder index old.access = some index)
    (load : ∀ task ∈ race.tasks, LoadSound roomId aim
      ((index, effect) :: race.history) (race.view roomId) task)
    (loadNew : LoadSound roomId aim
      ((index, effect) :: race.history) (race.view roomId) new)
    (reads : ∀ part, new.hasRead part = false)
    (rests : ∀ part, new.rest roomId part = none ∨
      ∀ other ∈ race.tasks, other.hasRead part = false)
    (shows : effect.Recorded aim.records aim.members ∧
      (changed.loaded = true → effect.Visible changed))
    (keeps : ∀ earlier, ¬effect.Undoes earlier → Standing race.history earlier →
      earlier.Recorded aim.records aim.members ∧
        (changed.loaded = true → earlier.Visible changed))
    (promises : ∀ other, Promises new other → other = effect) :
    Sound roomId (race.execute roomId index old) changed aim := by
  have executed : race.execute roomId index old =
      ⟨kernel, race.tasks.set index new,
        Pool.holderAfter race.holder index old.access,
        (index, effect) :: race.history⟩ := by
    simp only [Race.execute, advances, takes]
  have sameView : kernel.persistence.view roomId = race.view roomId := by
    rw [persistence]
    rfl
  rw [executed]
  constructor
  · exact present
  · exact unlocked
  · exact noTransaction
  · rw [persistence]
    exact sound.opened
  · rw [Race.view, sameView]
    exact sound.tidy
  · rw [Race.view, sameView]
    exact parts
  · exact sound.locks_execute admitted held
  · rw [Race.view, sameView]
    intro task member
    rcases List.mem_or_eq_of_mem_set member with before | rfl
    · exact load task before
    · exact loadNew
  · intro task member part isRead other isOther
    rcases List.mem_or_eq_of_mem_set member with before | rfl
    · rcases List.mem_or_eq_of_mem_set isOther with otherBefore | rfl
      · exact sound.exclusive task before part isRead other otherBefore
      · rcases rests part with noRest | noRead
        · exact noRest
        · rw [noRead task before] at isRead
          cases isRead
    · rw [reads] at isRead
      cases isRead
  · rintro earlier (rfl | ⟨notUndone, stands⟩)
    · exact shows
    · exact keeps earlier notUndone stands
  · intro other task earlier isTask isPromised
    rcases getElem?_set_cases isTask with ⟨rfl, rfl⟩ | ⟨_, before⟩
    · rw [promises earlier isPromised]
      exact List.mem_cons_self
    · exact List.mem_cons_of_mem _
        (sound.logged other task earlier before isPromised)

end Sections

end Sound

end Syncpond.RaceInvariant
