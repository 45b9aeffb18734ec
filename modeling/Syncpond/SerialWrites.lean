import Syncpond.InitialSyncs

/-!
# A serial stream of writes

Commands that only write to one room, each after the one before it returned.
At most one of them is in progress at a time, and `Active` is how far it is.
-/

namespace Syncpond.SerialWrites

open Syncpond.Protocol
open Syncpond.Serde
open Syncpond.Persistence
open Syncpond.Kernel
open Syncpond.Tasks
open Syncpond.Delivery
open Syncpond.WriteProgress
open Syncpond.Transit
open Syncpond.InitialSyncs
open Syncpond.Library.Programs

variable {Value : Type} [SerdeJson Value]

/-- A command is a write to the room, and follows commands that returned. -/
def Serially (roomId : RoomId) (trace : Trace Value) :
    ServerEvent Value → Prop
  | .command command =>
      (∃ write : WriteArgs, command = write.command ∧
        write.roomId = roomId) ∧
      ∀ program ∈ trace.server.pool.tasks,
        ∃ response, program = .done response
  | _ => True

/-- A check for `Serially`. -/
def checkSerially (roomId : RoomId) (trace : Trace Value) :
    ServerEvent Value → Bool
  | .command (.writeFragment room _ _ _) =>
      decide (room = roomId) && trace.server.pool.tasks.all isDone
  | .command _ => false
  | _ => true

omit [SerdeJson Value] in
theorem serially_of_check {roomId : RoomId} {trace : Trace Value}
    {event : ServerEvent Value}
    (checked : checkSerially roomId trace event = true) :
    Serially roomId trace event := by
  cases event with
  | command command =>
      cases command with
      | writeFragment room bucketId key data =>
          simp only [checkSerially, Bool.and_eq_true, decide_eq_true_eq,
            List.all_eq_true] at checked
          refine ⟨⟨⟨room, bucketId, key, data⟩, rfl, checked.1⟩, ?_⟩
          intro program member
          cases program with
          | done response => exact ⟨response, rfl⟩
          | step access effect next => cases checked.2 _ member
      | _ => cases checked
  | _ => trivial

/-- The write in progress, and how far it is. -/
structure Active where
  task : Nat
  write : WriteArgs
  progress : Progress

/-- At most one write is in progress. -/
structure Serial (faults : Faults) (roomId : RoomId) (trace : Trace Value)
    (current : Option Active) : Prop where
  coherent : Coherent faults trace
  isAt : ∀ active ∈ current,
    IsAt faults trace active.task active.write active.progress ∧
      active.write.roomId = roomId
  returned : ∀ (task : Nat) (program : Task Value CommandResponse),
    trace.server.pool.tasks[task]? = some program →
    (∃ response, program = .done response) ∨
      ∃ active ∈ current, active.task = task

/-- What a step does to the write in progress. -/
inductive SerialStep (faults : Faults) (roomId : RoomId)
    (trace : Trace Value) (current : Option Active) :
    ServerEvent Value → Trace Value → Option Active → Prop
  | start (write : WriteArgs) (sameRoom : write.roomId = roomId)
      (idle : ∀ active ∈ current, active.progress = .returned) :
      SerialStep faults roomId trace current (.command write.command)
        { trace with
          server := { trace.server with
            pool := trace.server.pool.spawn
              (handleCommand faults write.command) }
          commands := trace.commands ++ [write.command] }
        (some ⟨trace.server.pool.tasks.length, write, .checking⟩)
  | advance (active : Active)
      (pool : Pool (SyncpondKernel Value) CommandResponse) (later : Progress)
      (isCurrent : current = some active)
      (advances : active.write.Advances trace.server.pool.shared
        active.progress later pool.shared) :
      SerialStep faults roomId trace current (.advance active.task)
        { trace with server := { trace.server with pool := pool } }
        (some { active with progress := later })
  | rest {event : ServerEvent Value} {after : Trace Value}
      (notAdvance : ∀ task, event ≠ .advance task)
      (state : after.server.pool.shared.state =
        trace.server.pool.shared.state) :
      SerialStep faults roomId trace current event after current

namespace Serial

variable {faults : Faults} {roomId : RoomId} {trace after : Trace Value}
variable {event : ServerEvent Value} {current : Option Active}

theorem start (faults : Faults) (roomId : RoomId)
    (kernel : SyncpondKernel Value) :
    Serial faults roomId (.start kernel) none where
  coherent := .start faults kernel
  isAt := by simp
  returned := by simp [Trace.start, Server.start]

/-- A write starts, the write in progress goes on, or nothing happens to it. -/
theorem step (serial : Serial faults roomId trace current)
    (serially : Serially roomId trace event)
    (stepped : trace.step faults event = some after) :
    ∃ later, SerialStep faults roomId trace current event after later ∧
      Serial faults roomId after later := by
  have coherent := serial.coherent.step stepped
  have passed := serial.coherent.passage stepped
  cases commandStep passed with
  | start command =>
      obtain ⟨⟨write, rfl, sameRoom⟩, allReturned⟩ := serially
      have idle : ∀ active ∈ current, active.progress = .returned := by
        intro active isCurrent
        obtain ⟨⟨_, program, isProgram, remains⟩, _⟩ :=
          serial.isAt active isCurrent
        obtain ⟨response, rfl⟩ :=
          allReturned program (List.mem_of_getElem? isProgram)
        exact remains.returned
      refine ⟨_, .start write sameRoom idle, coherent, ?_, ?_⟩
      · rintro _ ⟨⟩
        refine ⟨⟨?_, _, ?_, rfl⟩, sameRoom⟩
        · simp [← serial.coherent.tracked.aligned]
        · simp [Pool.spawn]
      · intro task program isProgram
        rcases Nat.lt_or_ge task trace.server.pool.tasks.length with
          inside | outside
        · rw [Pool.spawn, List.getElem?_append_left inside] at isProgram
          exact Or.inl (allReturned program (List.mem_of_getElem? isProgram))
        · refine Or.inr ⟨_, rfl, ?_⟩
          have bound := (List.getElem?_eq_some_iff.mp isProgram).1
          simp only [Pool.spawn, List.length_append,
            List.length_singleton] at bound
          exact Nat.le_antisymm outside (Nat.le_of_lt_succ bound)
  | advance task pool advanced =>
      obtain ⟨access, effect, next, found, _, equal⟩ :=
        Pool.advance_eq_some advanced
      rcases serial.returned task _ found with
        ⟨response, isDone⟩ | ⟨active, isCurrent, rfl⟩
      · cases isDone
      · obtain ⟨isAt, sameRoom⟩ := serial.isAt active isCurrent
        obtain ⟨later, isNext, advances⟩ := isAt.advance advanced
        refine ⟨_, .advance active pool later isCurrent advances, coherent,
          ?_, ?_⟩
        · rintro _ ⟨⟩
          exact ⟨isNext, sameRoom⟩
        · intro task program isProgram
          by_cases same : active.task = task
          · exact Or.inr ⟨_, rfl, same⟩
          · rw [equal, List.getElem?_set_ne same] at isProgram
            refine (serial.returned task program isProgram).imp id ?_
            rintro ⟨other, isOther, sameTask⟩
            cases isCurrent.symm.trans isOther
            exact absurd sameTask same
  | rest notAdvance commands tasks state =>
      refine ⟨current, .rest notAdvance state, coherent, ?_, ?_⟩
      · intro active isCurrent
        obtain ⟨⟨isCommand, program, isProgram, remains⟩, sameRoom⟩ :=
          serial.isAt active isCurrent
        exact ⟨⟨commands ▸ isCommand, program, tasks ▸ isProgram, remains⟩,
          sameRoom⟩
      · rw [tasks]
        exact serial.returned

/-- At rest the last write returned. -/
theorem returned_of_quiescent (serial : Serial faults roomId trace current)
    (quiescent : Quiescent trace.server) :
    ∀ active ∈ current, active.progress = .returned :=
  fun active isCurrent =>
    (serial.isAt active isCurrent).1.returned quiescent

end Serial

end Syncpond.SerialWrites
