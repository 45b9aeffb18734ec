import Syncpond.Lifetimes
import Syncpond.StorageInvariants

/-!
# Invariants of all processes

What a property of the kernel has to survive, so that it holds in every process
that a run of processes leads to: the sections of commands, `delete_room`, what
happens to the notification channel, and startup over the data directory that
the process before left.

A property of the state alone survives whatever the storage does.
-/

namespace Syncpond.LifetimeInvariants

open Syncpond.Protocol
open Syncpond.Serde
open Syncpond.State
open Syncpond.Persistence
open Syncpond.Kernel
open Syncpond.Lifetimes
open Syncpond.StorageInvariants
open Syncpond.Library.Channels
open Syncpond.Library.Programs
open Syncpond.Library.Runs

variable {Value : Type}

/-! ## Properties of the state -/

section OnState

variable {onKernel : SyncpondKernel Value → Prop}

/-- Without an invariant, an operation of the storage has nothing to keep. -/
theorem preserves_nothing {Result : Type} (operation : Storage Result) :
    Preserves (fun _ => True) (fun _ => True) operation := by
  have every (program : Program RoomPersistence (Except String Result)) :
      program.Every fun _ _ => RoomPersistence → True → True := by
    induction program with
    | done outcome => trivial
    | step access effect next ih => exact ⟨fun _ => id, ih⟩
  have keeps : Program.Keeps (fun _ => True) (fun _ => True) operation.run :=
    Program.Every.keeps (every operation.run)
  exact ⟨keeps.mono fun _ _ _ _ => trivial⟩

variable (onState : ∀ (kernel after : SyncpondKernel Value),
  after.state = kernel.state → onKernel kernel → onKernel after)

include onState

theorem keeps_persist_onState (faults : Faults) (roomId : RoomId)
    (operation : Storage Unit) :
    KeepsAlways onKernel
      (Task.persist faults roomId operation : Task Value Unit) :=
  keeps_persist (preserves_nothing operation)
    (fun kernel => onState kernel _ rfl) (fun _ _ => trivial)
    fun kernel _ holds _ => onState kernel _ rfl holds

theorem keeps_loadRoom_onState [SerdeJson Value] (faults : Faults)
    (roomId : RoomId)
    (installed : ∀ kernel data, onKernel kernel →
      onKernel (kernel.installRoomData roomId data).2) :
    KeepsAlways onKernel (handleLoadRoom faults roomId : Task Value _) := by
  have reads : Program.Keeps onKernel
      (fun found => ∀ data : RoomData Value, found = some (.ok data) → True)
      (Task.onRoom roomId (readRoomData faults roomId) : Task Value _) :=
    keeps_onRoom (preserves_nothing _) (fun _ _ => trivial)
      fun kernel _ holds _ => onState kernel _ rfl holds
  refine keeps_loadRoom ?_ reads trivial ?_
  · exact fun kernel => onState kernel _ rfl
  · exact fun kernel data _ holds => installed kernel data holds

end OnState

/-! ## Runs of processes -/

variable [SerdeJson Value]

/-- Whatever happens to a process keeps a property of its kernel. -/
structure Lasting (onKernel : SyncpondKernel Value → Prop) : Prop where
  command : ∀ faults command, KeepsAlways onKernel
    (handleCommand faults command : Task Value CommandResponse)
  deleteRoom : ∀ kernel roomId, onKernel kernel →
    onKernel (kernel.deleteRoom roomId).2
  channel : ∀ kernel notifications, onKernel kernel →
    onKernel { kernel with notifications := notifications }
  restart : ∀ kernel faults, onKernel kernel →
    onKernel (boot faults kernel.persistence.dirs)
  start : onKernel (boot .none ∅)

/-- In every run of processes, the property holds. -/
theorem Lasting.of_reached {onKernel : SyncpondKernel Value → Prop}
    (lasting : Lasting onKernel) {life : Lifetime Value}
    (reached : Reached life) : onKernel life.kernel := by
  have maintains : life.pool.Maintains onKernel fun _ _ => True := by
    refine Follows.invariant (fun life : Lifetime Value =>
      life.pool.Maintains onKernel fun _ _ => True) ?_ reached
      (.start lasting.start)
    intro life event after maintains _ stepped
    cases event with
    | command faults command =>
        cases stepped
        exact maintains.spawn (lasting.command faults command) fun _ _ => rfl
    | advance task =>
        obtain ⟨pool, advanced, rfl⟩ := Option.map_eq_some_iff.mp stepped
        exact maintains.advance advanced
    | deleteRoom roomId =>
        simp only [Lifetime.step] at stepped
        split at stepped
        · cases stepped
          exact maintains.withShared
            (lasting.deleteRoom _ roomId maintains.shared)
        · cases stepped
    | receive =>
        obtain ⟨⟨message, rest⟩, _, rfl⟩ := Option.map_eq_some_iff.mp stepped
        exact maintains.withShared (lasting.channel _ rest maintains.shared)
    | restart faults =>
        cases stepped
        exact .start (lasting.restart _ faults maintains.shared)
  exact maintains.shared

end Syncpond.LifetimeInvariants
