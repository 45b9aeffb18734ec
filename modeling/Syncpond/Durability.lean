import Syncpond.ShelteredWrites
import Syncpond.WrittenContent

/-!
# Acknowledged writes last

A write that was acknowledged is in the database of its room and stays there
until the fragment is written again, whatever other commands run next to it
and after it, whatever failures of the storage they meet, and wherever the
process crashes and starts again.  A later read of the fragment returns the
value of the write or nothing, and never an older value.
-/

namespace Syncpond.Durability

open Syncpond.Protocol
open Syncpond.Serde
open Syncpond.State
open Syncpond.Persistence
open Syncpond.Kernel
open Syncpond.DiskOperations (exec_iterator allItems_map_ok
  getNested_putFragment)
open Syncpond.Lifetimes
open Syncpond.SparedFragments
open Syncpond.StateRuns
open Syncpond.Library.Maps
open Syncpond.Library.Programs
open Syncpond.Library.Runs

variable {Value : Type} [SerdeJson Value]
variable (roomId : RoomId) (bucketId : BucketId) (key : String)

/-! ## Runs -/

/-- The command neither writes the fragment nor loads its room. -/
def Ordinary (command : Commands) : Prop :=
  ¬Writes roomId bucketId key command ∧ ¬Loads roomId command

/-- Every command in progress is ordinary. -/
def Quiet (life : Lifetime Value) : Prop :=
  ∀ (task : Nat) (faults : Faults) (command : Commands)
    (program : Task Value CommandResponse),
    life.commands[task]? = some (faults, command) →
    life.pool.tasks[task]? = some program →
      (∃ response, program = .done response) ∨
        Ordinary roomId bucketId key command

/-- The process goes on. -/
def GoesOn : LifetimeEvent → Prop
  | .restart _ => False
  | _ => True

/-- Only ordinary commands arrive, and the process does not crash. -/
def Beside : LifetimeEvent → Prop
  | .command _ command => Ordinary roomId bucketId key command
  | event => GoesOn event

/-- No command that writes the fragment arrives; the process can crash. -/
def Unwritten : LifetimeEvent → Prop
  | .command _ command => ¬Writes roomId bucketId key command
  | _ => True

/--
A write to the fragment was acknowledged, next to ordinary commands in any
interleaving, and without a failure of its own.
-/
structure Acknowledged (data : FragmentData) (life : Lifetime Value) :
    Prop where
  was : ∃ (before begun : Lifetime Value) (faults : Faults),
    Reached before ∧ Quiet roomId bucketId key before ∧
    Unhindered roomId bucketId key faults ∧
    before.step (.command faults (.writeFragment roomId bucketId key data)) =
      some begun ∧
    Follows Lifetime.step (fun _ => Beside roomId bucketId key) begun life ∧
    life.pool.tasks[before.pool.tasks.length]? =
      some (.done .fragmentWriteResponse)

/-- What an event does to the commands in progress and to the fragment. -/
inductive Happens (life : Lifetime Value) :
    LifetimeEvent → Lifetime Value → Prop
  | command (faults : Faults) (command : Commands) :
      Happens life (.command faults command)
        { life with
          pool := life.pool.spawn (handleCommand faults command)
          commands := life.commands ++ [(faults, command)] }
  | advance (task : Nat)
      (pool : Pool (SyncpondKernel Value) CommandResponse)
      (advanced : life.pool.advance task = some pool) :
      Happens life (.advance task) (life.observe task pool)
  | between (event : LifetimeEvent) (kernel : SyncpondKernel Value)
      (spares : Spares roomId bucketId key life.kernel kernel) :
      Happens life event
        { life with pool := { life.pool with shared := kernel } }
  | restart (faults : Faults) :
      Happens life (.restart faults) (life.restart faults)

section Steps

variable {roomId bucketId key} {life after : Lifetime Value}
variable {event : LifetimeEvent}

variable (roomId bucketId key) in
theorem happens (stepped : life.step event = some after) :
    Happens roomId bucketId key life event after := by
  cases event with
  | command faults command =>
      cases stepped
      exact .command faults command
  | advance task =>
      obtain ⟨pool, advanced, rfl⟩ := Option.map_eq_some_iff.mp stepped
      exact .advance task pool advanced
  | deleteRoom deleted =>
      simp only [Lifetime.step] at stepped
      split at stepped
      · cases stepped
        exact .between _ _ (spares_deleteRoom deleted life.kernel)
      · cases stepped
  | receive =>
      obtain ⟨⟨message, rest⟩, _, rfl⟩ := Option.map_eq_some_iff.mp stepped
      exact .between _ _ (spares_same rfl rfl)
  | restart faults =>
      cases stepped
      exact .restart faults

variable (roomId bucketId key) in
/-- The kernel is fit for a write, and the commands in progress keep it so. -/
structure Prepared (life : Lifetime Value) : Prop where
  aligned : life.commands.length = life.pool.tasks.length
  fit : Fit roomId bucketId key life.kernel
  tasks : ∀ (task : Nat) (program : Task Value CommandResponse),
    life.pool.tasks[task]? = some program →
      KeepsFit roomId bucketId key program ∧
      ∀ faults command, life.commands[task]? = some (faults, command) →
        Ordinary roomId bucketId key command →
          program.KeepsTo (Spares roomId bucketId key)

omit [SerdeJson Value] in
theorem fit_boot (faults : Faults) {dirs : Map String Db}
    (keys : OneKey bucketId key
      ((PersistenceManager.new dirs).view roomId).db) :
    Fit roomId bucketId key
      (boot faults dirs : SyncpondKernel Value) where
  keys := by
    rw [WrittenContent.view_boot]
    exact keys
  rooms room found := by
    simp only [boot, lookup_registerExisting] at found
    split at found
    · cases found
      exact plain_fresh false
    · simp [AppState.new] at found

theorem prepared_step (prepared : Prepared roomId bucketId key life)
    (stepped : life.step event = some after) :
    Prepared roomId bucketId key after := by
  obtain ⟨aligned, fit, tasks⟩ := prepared
  cases happens roomId bucketId key stepped with
  | command faults command =>
      refine ⟨by simp [Pool.spawn, aligned], fit, ?_⟩
      intro task program found
      rcases Pool.task_of_spawn found with before | ⟨rfl, rfl⟩
      · obtain ⟨inside, _⟩ := List.getElem?_eq_some_iff.mp before
        dsimp only
        rw [List.getElem?_append_left (aligned ▸ inside)]
        exact tasks task program before
      · refine ⟨keepsFit_handleCommand faults command, ?_⟩
        intro other own isCommand ordinary
        dsimp only at isCommand
        rw [← aligned, List.getElem?_concat_length] at isCommand
        cases isCommand
        exact keepsTo_handleCommand faults ordinary.1 ordinary.2
  | advance task pool advanced =>
      obtain ⟨access, effect, next, found, _, rfl⟩ :=
        Pool.advance_eq_some advanced
      obtain ⟨keepsFit, spares⟩ := tasks task _ found
      refine ⟨by simp [Lifetime.observe, aligned], keepsFit.1 _ fit, ?_⟩
      intro other program isProgram
      rcases Pool.task_of_set isProgram with ⟨_, before⟩ | ⟨rfl, rfl⟩
      · exact tasks other program before
      · exact ⟨keepsFit.2 _, fun faults command isCommand ordinary =>
          (spares faults command isCommand ordinary).2 _⟩
  | between event kernel spares => exact ⟨aligned, fit.spared spares, tasks⟩
  | restart faults =>
      refine ⟨rfl, fit_boot faults fit.keys, ?_⟩
      intro task program found
      simp [Lifetime.restart] at found

theorem prepared_of_reached (reached : Reached life) :
    Prepared roomId bucketId key life := by
  apply reached.invariant (Prepared roomId bucketId key)
  · exact fun _ _ _ prepared _ stepped => prepared_step prepared stepped
  · refine ⟨rfl, fit_boot .none ?_, ?_⟩
    · intro text inside
      simp [PersistenceManager.view, PersistenceManager.new] at inside
    · intro task program found
      simp [Lifetime.start] at found

/-- The pool shelters a write among ordinary commands. -/
theorem shelters_step {value : Value} {task : Nat}
    (shelters : life.pool.Shelters (Spares roomId bucketId key)
      (Lasting roomId bucketId key value) task)
    (beside : Beside roomId bucketId key event)
    (stepped : life.step event = some after) :
    after.pool.Shelters (Spares roomId bucketId key)
      (Lasting roomId bucketId key value) task := by
  cases happens roomId bucketId key stepped with
  | command faults command =>
      exact shelters.spawn (keepsTo_handleCommand faults beside.1 beside.2)
  | advance other pool advanced =>
      exact shelters.advance .refl .trans advanced
  | between event kernel spares => exact shelters.withShared .trans spares
  | restart faults => cases beside

/-- Once a write was acknowledged, it holds, and every command keeps it. -/
theorem maintains_of_acknowledged {data : FragmentData}
    (acknowledged : Acknowledged roomId bucketId key data life) :
    life.pool.Maintains
      (Holds roomId bucketId key (SerdeJson.parsePayload data))
      fun _ _ => True := by
  obtain ⟨before, begun, faults, reached, quiet, unhindered, begins, beside,
    returned⟩ := acknowledged.was
  have prepared : Prepared roomId bucketId key before :=
    prepared_of_reached reached
  have calm : ∀ program ∈ before.pool.tasks,
      program.KeepsTo (Spares roomId bucketId key) := by
    intro program member
    obtain ⟨task, isTask⟩ := List.getElem?_of_mem member
    obtain ⟨inside, _⟩ := List.getElem?_eq_some_iff.mp isTask
    obtain ⟨⟨own, command⟩, isCommand⟩ : ∃ entry,
        before.commands[task]? = some entry := by
      rw [← prepared.aligned] at inside
      exact ⟨_, List.getElem?_eq_getElem inside⟩
    rcases quiet task own command program isCommand isTask with
      ⟨response, rfl⟩ | ordinary
    · trivial
    · exact (prepared.tasks task program isTask).2 own command isCommand
        ordinary
  cases begins
  have shelters : life.pool.Shelters (Spares roomId bucketId key)
      (Lasting roomId bucketId key (SerdeJson.parsePayload data))
      before.pool.tasks.length := by
    apply beside.invariant fun life => life.pool.Shelters
      (Spares roomId bucketId key)
      (Lasting roomId bucketId key (SerdeJson.parsePayload data))
      before.pool.tasks.length
    · exact fun _ _ _ shelters beside stepped =>
        shelters_step shelters beside stepped
    · exact Pool.shelters_spawn calm
        (under_writeFragment unhindered prepared.fit data)
  constructor
  · exact shelters.returned .refl returned rfl
  · intro task program found
    by_cases own : task = before.pool.tasks.length
    · rw [own, returned] at found
      cases found
      exact Program.keeps_pure trivial
    · have spares := shelters.others task program own found
      exact (spares.mono fun _ _ spares kernel holds =>
        Holds.spared holds (spares kernel)).keeps

/-- A write lasts as long as its fragment is not written. -/
theorem maintains_step {value : Value} {post : Nat → CommandResponse → Prop}
    (maintains : life.pool.Maintains (Holds roomId bucketId key value) post)
    (unwritten : Unwritten roomId bucketId key event)
    (fresh : ∀ task response, life.pool.tasks.length ≤ task →
      post task response)
    (stepped : life.step event = some after) :
    after.pool.Maintains (Holds roomId bucketId key value) post := by
  cases happens roomId bucketId key stepped with
  | command faults command =>
      apply maintains.spawn _ fun _ _ => rfl
      exact (keeps_handleCommand faults unwritten).mono fun response _ =>
        fresh _ response (Nat.le_refl _)
  | advance task pool advanced => exact maintains.advance advanced
  | between event kernel spares =>
      exact maintains.withShared (maintains.shared.spared spares)
  | restart faults =>
      have holds := maintains.shared
      refine ⟨⟨?_, ?_⟩, ?_⟩
      · change Finds bucketId key ((boot faults _ :
          SyncpondKernel Value).persistence.view roomId).db _
        rw [WrittenContent.view_boot]
        exact holds.disk
      · intro room found entry isEntry
        simp only [Lifetime.restart, boot, lookup_registerExisting] at found
        split at found
        · cases found
          simp [RoomState.fresh] at isEntry
        · simp [AppState.new] at found
      · intro task program found
        simp [Lifetime.restart] at found

variable (roomId bucketId key) in
/-- The write lasts, and a task in progress is a read of its value. -/
structure Answers (value : Value) (read : Nat) (life : Lifetime Value) :
    Prop where
  inside : read < life.pool.tasks.length
  maintains : life.pool.Maintains (Holds roomId bucketId key value)
    fun task response => task = read →
      Reads roomId bucketId key value (.readFragment roomId bucketId key)
        response

theorem answers_asked {value : Value} {post : Nat → CommandResponse → Prop}
    (maintains : life.pool.Maintains (Holds roomId bucketId key value) post)
    {faults : Faults}
    (asks : life.step (.command faults (.readFragment roomId bucketId key)) =
      some after) :
    Answers roomId bucketId key value life.pool.tasks.length after := by
  cases asks
  refine ⟨by simp [Pool.spawn], ⟨maintains.shared, ?_⟩⟩
  intro task program found
  rcases Pool.task_of_spawn found with before | ⟨rfl, rfl⟩
  · obtain ⟨inside, _⟩ := List.getElem?_eq_some_iff.mp before
    exact (maintains.tasks task program before).mono fun _ _ isRead =>
      absurd isRead (Nat.ne_of_lt inside)
  · exact keeps_readFragment.mono fun response reads _ => reads

theorem answers_step {value : Value} {read : Nat}
    (answers : Answers roomId bucketId key value read life)
    (unwritten : Unwritten roomId bucketId key event) (goesOn : GoesOn event)
    (stepped : life.step event = some after) :
    Answers roomId bucketId key value read after where
  inside := by
    have inside := answers.inside
    cases happens roomId bucketId key stepped with
    | command faults command =>
        simp only [Pool.spawn, List.length_append]
        omega
    | advance task pool advanced =>
        obtain ⟨access, effect, next, _, _, rfl⟩ :=
          Pool.advance_eq_some advanced
        simpa [Lifetime.observe] using inside
    | between event kernel spares => exact inside
    | restart faults => cases goesOn
  maintains := by
    apply maintains_step answers.maintains unwritten _ stepped
    intro task response outside isRead
    have inside := answers.inside
    omega

end Steps

section Lasts

variable {roomId bucketId key}

/-- A scan that does not fail finds exactly the value. -/
theorem exec_loadAllFragments {room : RoomPersistence} {found : Option Value}
    (finds : Finds bucketId key room.db found) :
    ∃ fragments, (loadAllFragments .none).exec room = (.ok fragments, room) ∧
      getNested fragments bucketId key = found := by
  refine ⟨room.db.toList.foldl (gatherStep putFragment collectFragment) ∅,
    ?_, ?_⟩
  · simp only [loadAllFragments, Storage.exec_bind, exec_iterator,
      allItems_map_ok]
    rfl
  · have read := get_foldl_of_iff
      (fun (loaded : Map BucketId (Map String Value)) target =>
        getNested loaded target.1 target.2)
      (fun loaded target value other =>
        getNested_putFragment loaded target other value)
      collectFragment room.db.toList ∅ (bucketId, key) found
      (by
        intro value
        rw [← finds value]
        simp)
    rw [getNested_empty] at read
    exact read.trans (Option.elim_none_some id _)

/--
An acknowledged write lasts: as long as its fragment is not written again, a
scan of the database finds exactly its value, and a read that returns bytes
returns those of the value.
-/
theorem acknowledged_write_lasts {data : FragmentData}
    {acked after : Lifetime Value}
    (acknowledged : Acknowledged roomId bucketId key data acked)
    (unwritten : Follows Lifetime.step
      (fun _ => Unwritten roomId bucketId key) acked after) :
    (∃ fragments,
      (loadAllFragments .none).exec (after.kernel.persistence.view roomId) =
        (.ok fragments, after.kernel.persistence.view roomId) ∧
      getNested fragments bucketId key =
        persistedValue (SerdeJson.parsePayload data : Value)) ∧
    ∀ (faults : Faults) (asked answered : Lifetime Value)
      (bytes : FragmentData),
      after.step (.command faults (.readFragment roomId bucketId key)) =
        some asked →
      Follows Lifetime.step (fun _ event =>
        Unwritten roomId bucketId key event ∧ GoesOn event) asked answered →
      answered.pool.tasks[after.pool.tasks.length]? =
        some (.done (.fragmentReadResponse (some bytes))) →
      SerdeJson.isNull (SerdeJson.parsePayload data : Value) = false ∧
        SerdeJson.value.toVec (SerdeJson.parsePayload data : Value) =
          .ok bytes := by
  have maintains : after.pool.Maintains
      (Holds roomId bucketId key (SerdeJson.parsePayload data))
      fun _ _ => True := by
    apply unwritten.invariant fun life => life.pool.Maintains
      (Holds roomId bucketId key (SerdeJson.parsePayload data))
      fun _ _ => True
    · exact fun _ _ _ maintains spared stepped =>
        maintains_step maintains spared (fun _ _ _ => trivial) stepped
    · exact maintains_of_acknowledged acknowledged
  refine ⟨exec_loadAllFragments maintains.shared.disk, ?_⟩
  intro faults asked answered bytes asks answers returned
  have read : Answers roomId bucketId key (SerdeJson.parsePayload data)
      after.pool.tasks.length answered := by
    apply answers.invariant
      (Answers roomId bucketId key (SerdeJson.parsePayload data) _)
    · exact fun _ _ _ read event stepped =>
        answers_step read event.1 event.2 stepped
    · exact answers_asked maintains asks
  exact read.maintains.returned returned rfl rfl bytes rfl

end Lasts

/-! ### A crash after the write -/

/-- A fragment is written, and a member is about to be added. -/
def beforeWrite : List LifetimeEvent :=
  .command .none (.newRoom "room") :: List.replicate 3 (.advance 0) ++
  .command .none (.newBucket 1 5 "notes") :: List.replicate 8 (.advance 1) ++
  .command .none (.writeFragment 1 5 "key" "0".toUTF8) ::
    List.replicate 7 (.advance 2) ++
  [.command .none (.newMember 1 "reader")]

/-- The fragment is written again while the member is added. -/
def besideWrite : List LifetimeEvent :=
  [.advance 4, .advance 4, .advance 3, .advance 4, .advance 3, .advance 4,
    .advance 3, .advance 4, .advance 3, .advance 3, .advance 3, .advance 4,
    .advance 4]

/-- The process crashes during a command, and the room is loaded again. -/
def crashAfterWrite : List LifetimeEvent :=
  .command .none (.deleteMember 1 "reader") :: .advance 5 ::
  .restart .none ::
  .command .none (.loadRoom 1) :: List.replicate 9 (.advance 0)

/-- The response of a task that has ended. -/
def responseOf (life : Lifetime Value) (task : Nat) :
    Option CommandResponse :=
  match life.pool.tasks[task]? with
  | some (.done response) => some response
  | _ => none

omit [SerdeJson Value] in
theorem of_responseOf {life : Lifetime Value} {task : Nat}
    {response : CommandResponse}
    (ended : responseOf life task = some response) :
    life.pool.tasks[task]? = some (.done response) := by
  unfold responseOf at ended
  split at ended
  · next found =>
    cases ended
    exact found
  · cases ended

/-- Whether every command in progress is ordinary. -/
def checkQuiet (life : Lifetime Value) : Bool :=
  (List.range life.commands.length).all fun task =>
    (responseOf life task).isSome ||
      life.commands[task]?.all fun entry =>
        !decide (Writes roomId bucketId key entry.2) &&
          !decide (Loads roomId entry.2)

omit [SerdeJson Value] in
theorem quiet_of_check {life : Lifetime Value}
    (checked : checkQuiet roomId bucketId key life = true) :
    Quiet roomId bucketId key life := by
  intro task faults command program isCommand isTask
  obtain ⟨inside, _⟩ := List.getElem?_eq_some_iff.mp isCommand
  have one := List.all_eq_true.mp checked task (List.mem_range.mpr inside)
  rw [Bool.or_eq_true] at one
  rcases one with ended | ordinary
  · obtain ⟨response, ended⟩ := Option.isSome_iff_exists.mp ended
    rw [of_responseOf ended] at isTask
    exact Or.inl ⟨response, (Option.some.inj isTask).symm⟩
  · rw [isCommand] at ordinary
    simpa [Ordinary] using Or.inr ordinary

theorem acknowledged_write_lasts_crash :
    ∃ acked after answered : Lifetime Json,
      Acknowledged 1 5 "key" "1".toUTF8 acked ∧
      responseOf answered 1 =
        some (.fragmentReadResponse (some "1".toUTF8)) ∧
      (∃ fragments,
        (loadAllFragments .none).exec (after.kernel.persistence.view 1) =
          (.ok fragments, after.kernel.persistence.view 1) ∧
        getNested fragments 5 "key" =
          persistedValue (SerdeJson.parsePayload "1".toUTF8 : Json)) ∧
      SerdeJson.value.toVec (SerdeJson.parsePayload "1".toUTF8 : Json) =
        .ok "1".toUTF8 := by
  have ran : (do
      let before ← beforeWrite.foldlM Lifetime.step (.start : Lifetime Json)
      let begun ← before.step
        (.command .none (.writeFragment 1 5 "key" "1".toUTF8))
      let acked ← besideWrite.foldlM Lifetime.step begun
      let after ← crashAfterWrite.foldlM Lifetime.step acked
      let asked ← after.step (.command .none (.readFragment 1 5 "key"))
      let answered ← asked.step (.advance 1)
      return (checkQuiet 1 5 "key" before, before.pool.tasks.length,
        responseOf acked 4, after.pool.tasks.length,
        responseOf answered 1)) =
      some (true, 4, some .fragmentWriteResponse, 1,
        some (.fragmentReadResponse (some "1".toUTF8))) := by
    decide +kernel
  obtain ⟨before, toBefore, ran⟩ := Option.bind_eq_some_iff.mp ran
  obtain ⟨begun, begins, ran⟩ := Option.bind_eq_some_iff.mp ran
  obtain ⟨acked, toAcked, ran⟩ := Option.bind_eq_some_iff.mp ran
  obtain ⟨after, toAfter, ran⟩ := Option.bind_eq_some_iff.mp ran
  obtain ⟨asked, asks, ran⟩ := Option.bind_eq_some_iff.mp ran
  obtain ⟨answered, advances, ran⟩ := Option.bind_eq_some_iff.mp ran
  simp only [pure, Option.some.injEq, Prod.mk.injEq] at ran
  obtain ⟨isQuiet, count, written, position, read⟩ := ran
  have acknowledged : Acknowledged 1 5 "key" "1".toUTF8 acked := by
    refine ⟨before, begun, .none, follows_of_foldlM toBefore,
      quiet_of_check 1 5 "key" isQuiet, ⟨rfl, rfl, rfl, rfl⟩, begins,
      follows_of_forall ?_ toAcked, ?_⟩
    · simp [besideWrite, Beside, GoesOn]
    · rw [count]
      exact of_responseOf written
  have unwritten : Follows Lifetime.step (fun _ => Unwritten 1 5 "key")
      acked after :=
    follows_of_forall (by simp [crashAfterWrite, Unwritten, Writes]) toAfter
  obtain ⟨scanned, reads⟩ := acknowledged_write_lasts acknowledged unwritten
  have answers : Follows Lifetime.step (fun _ event =>
      Unwritten 1 5 "key" event ∧ GoesOn event) asked answered :=
    .next .start (show Unwritten 1 5 "key" (.advance 1) ∧ GoesOn (.advance 1)
      from ⟨trivial, trivial⟩) advances
  have returned := of_responseOf read
  rw [← position] at returned
  exact ⟨acked, after, answered, acknowledged, read, scanned,
    (reads .none asked answered _ asks answers returned).2⟩

end Syncpond.Durability
