import Syncpond.RoomParts
import Syncpond.WriteTasks

/-!
# Commands of one room in progress

Any number of commands on one room in progress at the same time: writes of
fragments, changes of the buckets and of the members, and the loading and
unloading of the room.  Each command is given by the section that it executes
next; a command that reads or changes the database in several sections keeps
what is left of this operation.

The commands are the programs of the kernel: a command advances exactly as its
program does in a pool, the lock included.
-/

namespace Syncpond.RoomRace

open Syncpond.Protocol
open Syncpond.Serde
open Syncpond.State
open Syncpond.Persistence
open Syncpond.Kernel
open Syncpond.WriteTasks
open Syncpond.DiskOperations
open Syncpond.RoomParts
open Syncpond.Library.Maps
open Syncpond.Library.Programs
open Syncpond.Library.Text

variable {Value : Type} [SerdeJson Value]

/-- Run an operation on the database of a room that is open. -/
def onDb {Result : Type} (roomId : RoomId)
    (operation : Program RoomPersistence Result) : Task Value Result :=
  operation.zoom
    (fun kernel : SyncpondKernel Value => kernel.persistence.view roomId)
    (fun kernel room =>
      { kernel with persistence := kernel.persistence.writeBack roomId room })

/-- The kernel after a section on the database of a room. -/
def afterSection (roomId : RoomId) (effect : RoomPersistence → RoomPersistence)
    (kernel : SyncpondKernel Value) : SyncpondKernel Value :=
  { kernel with
    persistence := kernel.persistence.writeBack roomId
      (effect (kernel.persistence.view roomId)) }

/-- The kernel after the database of a room was opened. -/
def afterOpen (roomId : RoomId) (kernel : SyncpondKernel Value) :
    SyncpondKernel Value :=
  { kernel with
    persistence := (kernel.persistence.openRoomDb .none roomId).1 }

/-! ## Changes of buckets and members -/

/-- The commands that change a room under the write lock of the state. -/
inductive Change where
  | newBucket (bucketId : BucketId) (label : String)
  | deleteBucket (bucketId : BucketId)
  | newMember (member : String)
  | deleteMember (member : String)

namespace Change

/-- What the command does to the room in memory. -/
def effect : Change → RoomState Value → RoomState Value
  | .newBucket bucketId label => RoomEffect.newBucket bucketId (trim label)
  | .deleteBucket bucketId => RoomEffect.deleteBucket bucketId
  | .newMember member => RoomEffect.newMember (trim member)
  | .deleteMember member => RoomEffect.deleteMember (trim member)

/-- What the command does to the database of the room. -/
def operation (Value : Type) [SerdeJson Value] (roomId : RoomId) :
    Change → Storage Unit
  | .newBucket bucketId label =>
      persistBucket .none Value roomId bucketId (labelOption (trim label)) 0
  | .deleteBucket bucketId => removeBucket .none Value roomId bucketId
  | .newMember member => persistMember .none Value roomId (trim member)
  | .deleteMember member => removeMember .none Value roomId (trim member)

/-- The part of the database that the command changes. -/
def part : Change → Part
  | .newBucket _ _ => .records
  | .deleteBucket _ => .records
  | .newMember _ => .members
  | .deleteMember _ => .members

def response : Change → CommandResponse
  | .newBucket _ _ => .newBucketResponse
  | .deleteBucket _ => .deleteBucketResponse
  | .newMember _ => .newMemberResponse
  | .deleteMember _ => .deleteMemberResponse

end Change

/-- The next section of a change in progress. -/
inductive ChangeStage where
  /-- Take the lock and change the room in memory. -/
  | mutate
  | openDb
  | find
  /-- A section of the operation on the database. -/
  | persist (access : Access) (effect : RoomPersistence → RoomPersistence)
      (next : RoomPersistence →
        Program RoomPersistence (Except String Unit))
  /-- Give the lock back. -/
  | release (response : CommandResponse)
  | finished (response : CommandResponse)

namespace ChangeStage

/-- Go on with what is left of the operation on the database. -/
def persisting (response : CommandResponse) :
    Program RoomPersistence (Except String Unit) → ChangeStage
  | .done _ => .release response
  | .step access effect next => .persist access effect next

/-- The change keeps the lock. -/
def holds : ChangeStage → Bool
  | .mutate => false
  | .finished _ => false
  | _ => true

/-- What is left of the operation on the database, once it is to be done. -/
def rest (Value : Type) [SerdeJson Value] (roomId : RoomId) (change : Change) :
    ChangeStage → Option (Program RoomPersistence (Except String Unit))
  | .openDb => some (change.operation Value roomId).run
  | .find => some (change.operation Value roomId).run
  | .persist access effect next => some (.step access effect next)
  | _ => none

/-- Execute the next section of a change. -/
def advance (roomId : RoomId) (change : Change)
    (kernel : SyncpondKernel Value) :
    ChangeStage → ChangeStage × SyncpondKernel Value
  | .mutate =>
      let (found, mutated) := kernel.mutateRoom roomId change.effect
      match found with
      | .unknown => (.release change.response, mutated)
      | .unloaded => (.release roomNotLoaded, mutated)
      | .changed => (.openDb, mutated)
  | .openDb => (.find, afterOpen roomId kernel)
  | .find =>
      (if kernel.persistence.dbs.contains roomId then
        persisting change.response (change.operation Value roomId).run
      else .release change.response, kernel)
  | .persist _ effect next =>
      (persisting change.response (next (kernel.persistence.view roomId)),
        afterSection roomId effect kernel)
  | .release response => (.finished response, kernel)
  | .finished response => (.finished response, kernel)

section Remaining

variable (roomId : RoomId) (change : Change)

/-- Run what is left of the operation and give the lock back. -/
def fromPersist (rest : Program RoomPersistence (Except String Unit)) :
    Task Value CommandResponse := do
  let _ ← onDb roomId rest
  Task.release
  return change.response

/-- The program that the change still has to execute. -/
def program : ChangeStage → Task Value CommandResponse
  | .mutate =>
      mutateAndPersist .none roomId change.effect
        (change.operation Value roomId) change.response
  | .openDb => do
      Task.persist .none roomId (change.operation Value roomId)
      Task.release
      return change.response
  | .find => do
      let _ ← Task.onRoom roomId (change.operation Value roomId)
      Task.release
      return change.response
  | .persist access effect next =>
      fromPersist roomId change (.step access effect next)
  | .release response => do
      Task.release
      return response
  | .finished response => return response

omit [SerdeJson Value] in
theorem fromPersist_eq [SerdeJson Value]
    (rest : Program RoomPersistence (Except String Unit)) :
    (fromPersist roomId change rest : Task Value CommandResponse) =
      program roomId change (persisting change.response rest) := by
  cases rest <;> rfl

end Remaining

/-- The change has sections left. -/
def active : ChangeStage → Bool
  | .finished _ => false
  | _ => true

/-- What the next section does with the lock. -/
def access : ChangeStage → Access
  | .mutate => .acquire
  | .persist access _ _ => access
  | .release _ => .release
  | _ => .free

/-- A change executes the next section of its program. -/
theorem program_eq_step (roomId : RoomId) (change : Change)
    {stage : ChangeStage} (isActive : stage.active = true) :
    (stage.program roomId change : Task Value CommandResponse) =
      .step stage.access (fun kernel => (stage.advance roomId change kernel).2)
        fun kernel =>
          (stage.advance roomId change kernel).1.program roomId change := by
  cases stage with
  | mutate =>
      refine congrArg₂ (Program.step .acquire) (funext fun kernel => ?_)
        (funext fun kernel => ?_)
      · unfold advance
        obtain ⟨found, mutated⟩ := kernel.mutateRoom roomId change.effect
        cases found <;> rfl
      · unfold advance
        dsimp only
        obtain ⟨found, mutated⟩ := kernel.mutateRoom roomId change.effect
        cases found <;> rfl
  | openDb =>
      simp only [program, Task.persist, bind_assoc]
      rfl
  | find =>
      simp only [program, Task.onRoom, bind_assoc]
      refine congrArg (Program.step .free fun kernel => kernel)
        (funext fun kernel => ?_)
      cases opened : kernel.persistence.dbs.contains roomId with
      | true =>
          simp only [advance, opened, if_true, map_eq_pure_bind]
          change (_ >>= _) >>= _ = _
          rw [bind_assoc]
          exact fromPersist_eq roomId change _
      | false =>
          simp only [advance, opened]
          rfl
  | persist access effect next =>
      refine congrArg (Program.step access _) (funext fun kernel => ?_)
      exact fromPersist_eq roomId change _
  | release response => rfl
  | finished response => cases isActive

end ChangeStage

/-! ## Loading the room -/

/-- The next section of a `LoadRoom` in progress. -/
inductive LoadStage (Value : Type) where
  | openDb
  | find
  /-- Look for the bucket records in the cache. -/
  | lookup
  /-- A section of the reading of the bucket records. -/
  | readRecords (access : Access) (effect : RoomPersistence → RoomPersistence)
      (next : RoomPersistence →
        Program RoomPersistence (Except String (Map BucketId BucketRecord)))
  /-- Read the members. -/
  | readMembers (buckets : Except String (Map BucketId BucketRecord))
  /-- Scan for the fragments. -/
  | scan (buckets : Except String (Map BucketId BucketRecord))
      (members : Except String (FinSet String))
  /-- Install what was read, under the lock. -/
  | install (data : RoomData Value)
  | finished (response : CommandResponse)

namespace LoadStage

/-- Go on with what is left of the reading of the bucket records. -/
def reading :
    Program RoomPersistence (Except String (Map BucketId BucketRecord)) →
      LoadStage Value
  | .done result => .readMembers result
  | .step access effect next => .readRecords access effect next

/-- What was read, with the result of the scan for the fragments. -/
def gathered (buckets : Except String (Map BucketId BucketRecord))
    (members : Except String (FinSet String)) :
    Except String (Map BucketId (Map String Value)) → LoadStage Value
  | .ok fragments => .install {
      bucketDefs := bucketDefs (buckets.toOption.getD ∅)
      members := members.toOption.getD ∅
      fragments := fragments }
  | .error text =>
      .finished (.loadRoomResponse (.error ("fragment_load_failed: " ++ text)))

/-- Execute the next section of a load. -/
def advance (roomId : RoomId) (kernel : SyncpondKernel Value) :
    LoadStage Value → LoadStage Value × SyncpondKernel Value
  | .openDb =>
      (match (kernel.persistence.openRoomDb .none roomId).2 with
      | .error text =>
          .finished (.loadRoomResponse (.error ("db_open_failed: " ++ text)))
      | .ok () => .find, afterOpen roomId kernel)
  | .find =>
      (if kernel.persistence.dbs.contains roomId then .lookup
      else .install .empty, kernel)
  | .lookup =>
      (match (kernel.persistence.view roomId).bucketCache.get roomId with
      | (_, some entry) => .readMembers (.ok entry)
      | (_, none) => reading (readBuckets Value roomId).run,
        afterSection roomId
          (fun room => ((Storage.cacheGetBuckets roomId).exec room).2) kernel)
  | .readRecords _ effect next =>
      (reading (next (kernel.persistence.view roomId)),
        afterSection roomId effect kernel)
  | .readMembers buckets =>
      (.scan buckets
        ((loadMembers .none Value roomId).exec
          (kernel.persistence.view roomId)).1,
        afterSection roomId (fun room => room) kernel)
  | .scan buckets members =>
      (gathered buckets members
        ((loadAllFragments .none).exec (kernel.persistence.view roomId)).1,
        afterSection roomId (fun room => room) kernel)
  | .install data =>
      (.finished (kernel.installRoomData roomId data).1,
        (kernel.installRoomData roomId data).2)
  | .finished response => (.finished response, kernel)

/-- The load works with what it read of a part. -/
def hasRead : Part → LoadStage Value → Bool
  | .records, .readRecords _ _ _ => true
  | .records, .readMembers _ => true
  | _, .scan _ _ => true
  | _, .install _ => true
  | _, _ => false

section Remaining

variable (roomId : RoomId)

/-- Install what was read, or return the error. -/
def fromData (read : Except String (RoomData Value)) :
    Task Value CommandResponse :=
  match read with
  | .ok data =>
      Program.atomic .locked (SyncpondKernel.installRoomData roomId data)
  | .error text => return .loadRoomResponse (.error text)

/-- Scan for the fragments and put together what was read. -/
def withFragments (buckets : Except String (Map BucketId BucketRecord))
    (members : Except String (FinSet String)) : Storage (RoomData Value) := do
  match ← Storage.attempt (loadAllFragments .none) with
  | .ok fragments =>
      return {
        bucketDefs := bucketDefs (buckets.toOption.getD ∅)
        members := members.toOption.getD ∅
        fragments := fragments }
  | .error text => throw ("fragment_load_failed: " ++ text)

/-- Read the members, and go on with the fragments. -/
def withMembers (buckets : Except String (Map BucketId BucketRecord)) :
    Storage (RoomData Value) := do
  let members ← Storage.attempt (loadMembers .none Value roomId)
  withFragments buckets members

/-- Run what is left of the reading of the bucket records, and go on. -/
def fromRecords
    (rest : Program RoomPersistence
      (Except String (Map BucketId BucketRecord))) :
    Task Value CommandResponse := do
  let read ← onDb roomId
    (rest.bind fun buckets => (withMembers roomId buckets).run)
  fromData roomId read

/-- The program that the load still has to execute. -/
def program : LoadStage Value → Task Value CommandResponse
  | .openDb => handleLoadRoom .none roomId
  | .find => do
      match ← Task.onRoom roomId (readRoomData .none roomId) with
      | some (.ok data) =>
          Program.atomic .locked (SyncpondKernel.installRoomData roomId data)
      | some (.error text) => return .loadRoomResponse (.error text)
      | none =>
          Program.atomic .locked (SyncpondKernel.installRoomData roomId .empty)
  | .lookup => fromRecords roomId (loadBuckets .none Value roomId).run
  | .readRecords access effect next =>
      fromRecords roomId (.step access effect next)
  | .readMembers buckets => fromRecords roomId (.done buckets)
  | .scan buckets members => do
      let read ← onDb roomId (withFragments buckets members).run
      fromData roomId read
  | .install data =>
      Program.atomic .locked (SyncpondKernel.installRoomData roomId data)
  | .finished response => return response

theorem fromRecords_eq
    (rest : Program RoomPersistence
      (Except String (Map BucketId BucketRecord))) :
    (fromRecords roomId rest : Task Value CommandResponse) =
      program roomId (reading rest) := by
  cases rest <;> rfl

end Remaining

/-- The load has sections left. -/
def active : LoadStage Value → Bool
  | .finished _ => false
  | _ => true

/-- What the next section does with the lock. -/
def access : LoadStage Value → Access
  | .readRecords access _ _ => access
  | .install _ => .locked
  | _ => .free

/-- Going on with what an operation returns, an error or not. -/
theorem run_attempt_bind {Result Other : Type} (operation : Storage Result)
    (rest : Except String Result → Storage Other) :
    (Storage.attempt operation >>= rest).run =
      operation.run.bind fun result => (rest result).run :=
  Program.bind_bind operation.run _ _

/-- Reading a room begins with the bucket records. -/
theorem run_readRoomData (roomId : RoomId) :
    (readRoomData .none roomId : Storage (RoomData Value)).run =
      (loadBuckets .none Value roomId).run.bind fun buckets =>
        (withMembers roomId buckets).run :=
  run_attempt_bind _ _

/-- An operation that ends after one call of the database or the cache. -/
theorem run_primitive_bind {Found Result : Type}
    {action : RoomPersistence → Except String Found × RoomPersistence}
    {rest : Found → Storage Result}
    (ends : ∀ found, ∃ result, (rest found).run = .done result) :
    (Storage.primitive action >>= rest).run =
      Program.step .free (fun room => (action room).2)
        fun room => .done ((Storage.primitive action >>= rest).exec room).1 := by
  refine congrArg (Program.step .free _) (funext fun room => ?_)
  rw [Storage.exec_bind, Storage.exec_primitive]
  change ExceptT.bindCont rest (action room).1 = _
  obtain ⟨found, after⟩ := action room
  cases found with
  | error text => rfl
  | ok found =>
      obtain ⟨result, isDone⟩ := ends found
      simp only [Storage.exec, isDone]
      exact isDone

/-- Reading the members is one call of the database. -/
theorem run_loadMembers (roomId : RoomId) :
    (loadMembers .none Value roomId).run =
      Program.step .free (fun room => room)
        fun room => .done ((loadMembers .none Value roomId).exec room).1 := by
  refine run_primitive_bind fun found => ?_
  cases found with
  | none => exact ⟨_, rfl⟩
  | some bytes =>
      dsimp only
      split
      · exact ⟨_, rfl⟩
      · exact ⟨_, rfl⟩

/-- The scan for the fragments is one call of the database. -/
theorem run_loadAllFragments :
    (loadAllFragments .none : Storage (Map BucketId (Map String Value))).run =
      Program.step .free (fun room => room)
        fun room => .done ((loadAllFragments .none).exec room).1 := by
  refine run_primitive_bind fun items => ?_
  cases allItems items with
  | ok entries => exact ⟨_, rfl⟩
  | error text => exact ⟨_, rfl⟩

/-- A load executes the next section of its program. -/
theorem program_eq_step (roomId : RoomId) {stage : LoadStage Value}
    (isActive : stage.active = true) :
    stage.program roomId =
      .step stage.access (fun kernel => (stage.advance roomId kernel).2)
        fun kernel => (stage.advance roomId kernel).1.program roomId := by
  cases stage with
  | openDb =>
      refine congrArg (Program.step .free (afterOpen roomId))
        (funext fun kernel => ?_)
      cases opened : (kernel.persistence.openRoomDb .none roomId).2 with
      | error text =>
          simp only [advance, opened, program]
          rfl
      | ok done =>
          simp only [advance, opened, program]
          rfl
  | find =>
      simp only [program, Task.onRoom, bind_assoc]
      refine congrArg (Program.step .free fun kernel => kernel)
        (funext fun kernel => ?_)
      cases opened : kernel.persistence.dbs.contains roomId with
      | true =>
          simp only [advance, opened, if_true, map_eq_pure_bind]
          change (_ >>= _) >>= _ = _
          rw [bind_assoc, run_readRoomData]
          refine congrArg (onDb roomId _ >>= ·) (funext fun read => ?_)
          cases read <;> rfl
      | false =>
          simp only [advance, opened]
          rfl
  | lookup =>
      rw [program, loadBuckets_eq]
      refine congrArg (Program.step .free _) (funext fun kernel => ?_)
      cases found : (kernel.persistence.view roomId).bucketCache.get roomId with
      | mk cache entry =>
          cases entry with
          | some entry =>
              simp only [advance, found]
              rfl
          | none =>
              simp only [advance, found, ← fromRecords_eq]
              rfl
  | readRecords access effect next =>
      refine congrArg (Program.step access _) (funext fun kernel => ?_)
      exact fromRecords_eq roomId _
  | readMembers buckets =>
      change (onDb roomId (withMembers roomId buckets).run >>= fromData roomId) =
        _
      rw [withMembers, run_attempt_bind, run_loadMembers]
      rfl
  | scan buckets members =>
      change (onDb roomId (withFragments buckets members).run >>=
        fromData roomId) = _
      rw [withFragments, run_attempt_bind, run_loadAllFragments]
      refine congrArg (Program.step .free _) (funext fun kernel => ?_)
      simp only [advance]
      cases ((loadAllFragments .none :
        Storage (Map BucketId (Map String Value))).exec
          (kernel.persistence.view roomId)).1 with
      | ok fragments => rfl
      | error text => rfl
  | install data => rfl
  | finished response => cases isActive

end LoadStage

/-! ## Commands of the room -/

/-- A command of the room in progress. -/
inductive RaceTask (Value : Type) where
  | write (task : WriteTask)
  | change (args : Change) (stage : ChangeStage)
  | load (stage : LoadStage Value)
  /-- Unload the room, with the response once it is unloaded. -/
  | unload (response : Option CommandResponse)

namespace RaceTask

/-- A command that was just received, if it is one of the room. -/
def new (roomId : RoomId) : Commands → Option (RaceTask Value)
  | .newRoom _ => none
  | .newBucket target bucketId label =>
      if target = roomId then some (.change (.newBucket bucketId label) .mutate)
      else none
  | .deleteBucket target bucketId =>
      if target = roomId then some (.change (.deleteBucket bucketId) .mutate)
      else none
  | .newMember target member =>
      if target = roomId then some (.change (.newMember member) .mutate)
      else none
  | .deleteMember target member =>
      if target = roomId then some (.change (.deleteMember member) .mutate)
      else none
  | .writeFragment target bucketId key data =>
      if target = roomId then some (.write (.new bucketId key data)) else none
  | .readFragment _ _ _ => none
  | .loadRoom target =>
      if target = roomId then some (.load .openDb) else none
  | .unloadRoom target =>
      if target = roomId then some (.unload none) else none

/-- Execute the next section. -/
def advance (roomId : RoomId) (kernel : SyncpondKernel Value) :
    RaceTask Value → RaceTask Value × SyncpondKernel Value
  | .write task =>
      (.write (task.advance roomId kernel).1, (task.advance roomId kernel).2)
  | .change args stage =>
      (.change args (stage.advance roomId args kernel).1,
        (stage.advance roomId args kernel).2)
  | .load stage =>
      (.load (stage.advance roomId kernel).1, (stage.advance roomId kernel).2)
  | .unload none =>
      (.unload (some (kernel.unloadRoom roomId).1),
        (kernel.unloadRoom roomId).2)
  | .unload (some response) => (.unload (some response), kernel)

/-- The program that the command still has to execute. -/
def program (roomId : RoomId) : RaceTask Value → Task Value CommandResponse
  | .write task => task.program roomId
  | .change args stage => stage.program roomId args
  | .load stage => stage.program roomId
  | .unload none => handleUnloadRoom roomId
  | .unload (some response) => return response

/-- The command has sections left. -/
def active : RaceTask Value → Bool
  | .write task => task.active
  | .change _ stage => stage.active
  | .load stage => stage.active
  | .unload response => response.isNone

/-- What the next section does with the lock. -/
def access : RaceTask Value → Access
  | .write task => task.access
  | .change _ stage => stage.access
  | .load stage => stage.access
  | .unload _ => .locked

/-- The command keeps the lock. -/
def holds : RaceTask Value → Bool
  | .change _ stage => stage.holds
  | _ => false

/-- What is left of the change of a part, once it took effect in memory. -/
def rest (roomId : RoomId) (part : Part) :
    RaceTask Value → Option (Program RoomPersistence (Except String Unit))
  | .change args stage =>
      if args.part = part then stage.rest Value roomId args else none
  | _ => none

/-- The command is a load that works with what it read of a part. -/
def hasRead (part : Part) : RaceTask Value → Bool
  | .load stage => stage.hasRead part
  | _ => false

/-- The command is a load that scanned for the fragments. -/
def hasScanned : RaceTask Value → Bool
  | .load (.install _) => true
  | _ => false

/-- A command starts as its program. -/
theorem program_new {roomId : RoomId} {command : Commands}
    {task : RaceTask Value} (isNew : new roomId command = some task) :
    task.program roomId = handleCommand .none command := by
  cases command with
  | newRoom name => cases isNew
  | readFragment target bucketId key => cases isNew
  | _ =>
      simp only [new, Option.ite_none_right_eq_some] at isNew
      obtain ⟨rfl, isNew⟩ := isNew
      cases isNew
      rfl

/-- A command executes the next section of its program. -/
theorem program_eq_step (roomId : RoomId) {task : RaceTask Value}
    (isActive : task.active = true) :
    task.program roomId =
      .step task.access (fun kernel => (task.advance roomId kernel).2)
        fun kernel => (task.advance roomId kernel).1.program roomId := by
  cases task with
  | write task => exact task.program_eq_step roomId isActive
  | change args stage =>
      exact ChangeStage.program_eq_step roomId args isActive
  | load stage => exact LoadStage.program_eq_step roomId isActive
  | unload response =>
      cases response with
      | none => rfl
      | some response => cases isActive

/-- A command without sections left has returned its response. -/
theorem program_eq_done (roomId : RoomId) {task : RaceTask Value}
    (returned : task.active = false) :
    ∃ response, task.program roomId = .done response := by
  cases task with
  | write task => exact WriteTask.program_eq_done roomId task returned
  | change args stage =>
      cases stage with
      | finished response => exact ⟨response, rfl⟩
      | _ => cases returned
  | load stage =>
      cases stage with
      | finished response => exact ⟨response, rfl⟩
      | _ => cases returned
  | unload response =>
      cases response with
      | none => cases returned
      | some response => exact ⟨response, rfl⟩

end RaceTask

end Syncpond.RoomRace
