import Syncpond.Lifetimes
import Syncpond.Provenance
import Syncpond.RoomLabels

/-!
# Nothing comes from nowhere

In every run of server processes over one data directory, with any commands in
progress at once, any storage failures and any crashes, everything that a
process holds, announces or answers to a read was written by a command that
was issued for the same room, bucket and key.
-/

namespace Syncpond.WrittenContent

open Syncpond.Protocol
open Syncpond.Serde
open Syncpond.State
open Syncpond.Persistence
open Syncpond.Kernel
open Syncpond.Lifetimes
open Syncpond.Provenance
open Syncpond.StateRuns
open Syncpond.RoomLabels (keeps_registerExisting)
open Syncpond.Library.Channels
open Syncpond.Library.Lru
open Syncpond.Library.Maps
open Syncpond.Library.Programs
open Syncpond.Library.Runs

variable {Value : Type} [SerdeJson Value]
variable {issued : Commands → Prop}

/-! ## Startup -/

omit [SerdeJson Value] in
/-- Startup changes no content of the data directory. -/
theorem view_boot (faults : Faults) (dirs : Map String Db) (roomId : RoomId) :
    (boot faults dirs : SyncpondKernel Value).persistence.view roomId =
      (PersistenceManager.new dirs).view roomId := by
  have opens (names : List String) : ∀ manager : PersistenceManager,
      (names.foldl (PersistenceManager.openExisting faults) manager).view
        roomId = manager.view roomId := by
    induction names with
    | nil => exact fun _ => rfl
    | cons name rest ih =>
        intro manager
        rw [List.foldl_cons, ih]
        unfold PersistenceManager.openExisting
        split
        · exact view_openRoomDb faults manager _ roomId
        · rfl
  change ((PersistenceManager.new dirs).openExistingRoomDbs faults).1.view
    roomId = _
  unfold PersistenceManager.openExistingRoomDbs
  split
  · rfl
  · exact opens _ _

/-- What startup finds is accounted for if the data directory is. -/
theorem accounted_boot (faults : Faults) {dirs : Map String Db}
    (entries : ∀ (roomId : RoomId) (key : String) (bytes : ByteArray),
      ((PersistenceManager.new dirs).view roomId).db[key]? = some bytes →
        InEntry Value issued roomId key bytes) :
    Accounted issued (boot faults dirs : SyncpondKernel Value) where
  rooms roomId room found := by
    simp only [boot, lookup_registerExisting] at found
    split at found
    · cases found
      exact inRoom_fresh false
    · simp [AppState.new] at found
  labels label roomId found := by
    have none : (boot faults dirs : SyncpondKernel Value).state.labels = ∅ :=
      (keeps_registerExisting .new _).labels
    rw [none] at found
    simp at found
  storage roomId := by
    rw [view_boot]
    exact ⟨entries roomId, Cache.agrees_empty _ _⟩
  notifications notification member := by
    simp [boot] at member

/-! ## Runs -/

/-- The commands of the run are issued. -/
def Issues (issued : Commands → Prop) : LifetimeEvent → Prop
  | .command _ command => issued command
  | _ => True

/-- What the invariant says of a process. -/
structure Sound (issued : Commands → Prop) (life : Lifetime Value) :
    Prop where
  aligned : life.commands.length = life.pool.tasks.length
  maintains : life.pool.Maintains (Accounted issued) fun task response =>
    ∀ faults command, life.commands[task]? = some (faults, command) →
      ReadsWritten Value issued command response
  sent : ∀ notification ∈ life.sent, InNotification issued notification

theorem sound_step {life after : Lifetime Value} {event : LifetimeEvent}
    (sound : Sound issued life) (issues : Issues issued event)
    (stepped : life.step event = some after) : Sound issued after := by
  have maintains := sound.maintains
  cases event with
  | command faults command =>
      cases stepped
      refine ⟨?_, ?_, sound.sent⟩
      · simp [Pool.spawn, sound.aligned]
      · apply maintains.spawn
        · refine (keeps_handleCommand faults issues).mono ?_
          intro response reads other own isCommand
          dsimp only at isCommand
          rw [← sound.aligned, List.getElem?_concat_length] at isCommand
          cases isCommand
          exact reads
        · intro task inside
          funext response
          dsimp only
          rw [List.getElem?_append_left (sound.aligned ▸ inside)]
  | advance task =>
      obtain ⟨pool, advanced, rfl⟩ := Option.map_eq_some_iff.mp stepped
      have advances := maintains.advance advanced
      obtain ⟨access, effect, next, _, _, rfl⟩ := Pool.advance_eq_some advanced
      refine ⟨?_, advances, ?_⟩
      · simp [Lifetime.observe, sound.aligned]
      · intro notification member
        rcases List.mem_append.mp member with before | new
        · exact sound.sent notification before
        · exact advances.shared.notifications notification
            (List.mem_of_mem_drop new)
  | deleteRoom roomId =>
      simp only [Lifetime.step] at stepped
      split at stepped
      · cases stepped
        exact ⟨sound.aligned,
          maintains.withShared (maintains.shared.deleteRoom roomId),
          sound.sent⟩
      · cases stepped
  | receive =>
      obtain ⟨⟨message, rest⟩, received, rfl⟩ :=
        Option.map_eq_some_iff.mp stepped
      refine ⟨sound.aligned, maintains.withShared ?_, sound.sent⟩
      have accounted := maintains.shared
      refine ⟨accounted.rooms, accounted.labels, accounted.storage, ?_⟩
      intro notification member
      apply accounted.notifications notification
      have items := Channel.recv_eq_some_iff.mp received
      change life.pool.shared.notifications.items = _ at items
      rw [items]
      exact List.mem_cons_of_mem _ member
  | restart faults =>
      cases stepped
      refine ⟨rfl, .start (accounted_boot faults ?_), sound.sent⟩
      exact fun roomId => (maintains.shared.storage roomId).entries

theorem sound_of_follows {life : Lifetime Value}
    (follows : Follows Lifetime.step (fun _ => Issues issued) .start life) :
    Sound issued life := by
  refine follows.invariant (Sound issued)
    (fun _ _ _ sound issues stepped => sound_step sound issues stepped)
    ⟨rfl, .start ?_, ?_⟩
  · apply accounted_boot
    intro roomId key bytes stored
    simp [PersistenceManager.view, PersistenceManager.new] at stored
  · intro notification member
    cases member

/-- A new process finds what was written, over the same data directory. -/
theorem accounted_reboot {life : Lifetime Value}
    (follows : Follows Lifetime.step (fun _ => Issues issued) .start life)
    (faults : Faults) :
    Accounted issued
      (boot faults life.kernel.persistence.dirs : SyncpondKernel Value) :=
  accounted_boot faults fun roomId =>
    ((sound_of_follows follows).maintains.shared.storage roomId).entries

/--
In every run of processes whose commands were issued, the content of the
kernel and every notification come from issued commands, and a read returns
bytes of a value that was written to the fragment.
-/
theorem nothing_from_nowhere {life : Lifetime Value}
    (follows : Follows Lifetime.step (fun _ => Issues issued) .start life) :
    Accounted issued life.kernel ∧
      (∀ notification ∈ life.sent, InNotification issued notification) ∧
      ∀ (task : Nat) (faults : Faults) (command : Commands)
        (response : CommandResponse),
        life.commands[task]? = some (faults, command) →
        life.pool.tasks[task]? = some (.done response) →
        ReadsWritten Value issued command response := by
  have sound := sound_of_follows follows
  refine ⟨sound.maintains.shared, sound.sent, ?_⟩
  intro task faults command response isCommand returned
  exact sound.maintains.returned returned faults command isCommand

/-! ### A crash during a write -/

/-- A write is persisted, the process crashes, and the next one reads it. -/
def crashDuringWrite : List LifetimeEvent :=
  .command .none (.newRoom "room") :: List.replicate 3 (.advance 0) ++
  .command .none (.newBucket 1 5 "notes") :: List.replicate 8 (.advance 1) ++
  .command .none (.writeFragment 1 5 "key" "1".toUTF8) ::
    List.replicate 5 (.advance 2) ++
  .restart .none ::
  .command .none (.loadRoom 1) :: List.replicate 9 (.advance 0) ++
  [.command .none (.readFragment 1 5 "key"), .advance 1]

def inCrashDuringWrite (command : Commands) : Prop :=
  ∃ faults, .command faults command ∈ crashDuringWrite

/-- What a task reads, and its response, if it is a read that has ended. -/
def answered (life : Lifetime Value) (task : Nat) :
    Option ((RoomId × BucketId × String) × CommandResponse) :=
  match life.commands[task]?, life.pool.tasks[task]? with
  | some (_, .readFragment roomId bucketId key), some (.done response) =>
      some ((roomId, bucketId, key), response)
  | _, _ => none

omit [SerdeJson Value] in
theorem of_answered {life : Lifetime Value} {task : Nat} {roomId : RoomId}
    {bucketId : BucketId} {key : String} {response : CommandResponse}
    (isAnswered : answered life task =
      some ((roomId, bucketId, key), response)) :
    ∃ faults,
      life.commands[task]? =
        some (faults, .readFragment roomId bucketId key) ∧
      life.pool.tasks[task]? = some (.done response) := by
  unfold answered at isAnswered
  split at isAnswered
  · next faults _ _ _ _ isCommand returned =>
    cases isAnswered
    exact ⟨faults, isCommand, returned⟩
  · cases isAnswered

theorem nothing_from_nowhere_crashDuringWrite :
    ∃ life : Lifetime Json,
      answered life 1 =
        some ((1, 5, "key"), .fragmentReadResponse (some "1".toUTF8)) ∧
      ∃ value : Json, Wrote inCrashDuringWrite 1 5 "key" value ∧
        SerdeJson.value.toVec value = .ok "1".toUTF8 := by
  have ran : (crashDuringWrite.foldlM Lifetime.step
      (.start : Lifetime Json)).map (fun life => answered life 1) =
      some (some ((1, 5, "key"),
        .fragmentReadResponse (some "1".toUTF8))) := by
    decide +kernel
  obtain ⟨life, ran, isAnswered⟩ := Option.map_eq_some_iff.mp ran
  have follows : Follows Lifetime.step (fun _ => Issues inCrashDuringWrite)
      .start life := by
    apply follows_of_forall _ ran
    intro event member
    cases event with
    | command faults command => exact ⟨faults, member⟩
    | _ => trivial
  obtain ⟨faults, isCommand, returned⟩ := of_answered isAnswered
  exact ⟨life, isAnswered, (nothing_from_nowhere follows).2.2 1 faults _ _
    isCommand returned 1 5 "key" _ rfl rfl⟩

end Syncpond.WrittenContent
