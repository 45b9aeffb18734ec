import Syncpond.StorageRuns

/-!
# Labels and flags of buckets

`NewBucket` merges into memory: a blank label keeps the label that is there,
and flags are set only where there are none.  On disk it overwrites the
record.  The two say the same as long as nothing is there to be kept that the
new record leaves out; otherwise the bucket has one label in memory and, after
the room was unloaded and loaded, another one.
-/

namespace Syncpond.BucketLabels

open Syncpond.Protocol
open Syncpond.Serde
open Syncpond.State
open Syncpond.Persistence
open Syncpond.Kernel
open Syncpond.Disks
open Syncpond.DiskOperations
open Syncpond.KernelStore
open Syncpond.StorageRuns
open Syncpond.Library.Maps
open Syncpond.Library.Runs
open Syncpond.Library.Text

/-! ## Commands -/

/-- The commands that change the buckets of a room or reload it. -/
inductive BucketCommand where
  | newBucket (roomId : RoomId) (bucketId : BucketId) (label : String)
  | deleteBucket (roomId : RoomId) (bucketId : BucketId)
  | unloadRoom (roomId : RoomId)
  | loadRoom (roomId : RoomId)

def BucketCommand.command : BucketCommand → Commands
  | .newBucket roomId bucketId label => .newBucket roomId bucketId label
  | .deleteBucket roomId bucketId => .deleteBucket roomId bucketId
  | .unloadRoom roomId => .unloadRoom roomId
  | .loadRoom roomId => .loadRoom roomId

variable {Value : Type} [SerdeJson Value]

/-- The kernel after a command that is handled alone and without failures. -/
def handle (kernel : SyncpondKernel Value) (command : BucketCommand) :
    SyncpondKernel Value :=
  Kernel.apply .none kernel (.command command.command)

/-! ## Memory and records -/

/-- The record of a bucket that is stored in the database of a room. -/
def persistedRecord (kernel : SyncpondKernel Value) (roomId : RoomId)
    (bucketId : BucketId) : Option BucketRecord :=
  (listedRecord Value (kernel.persistence.view roomId).db bucketId).map
    Prod.snd

/-- The line of `list_buckets` for a bucket. -/
def bucketLine (room : RoomState Value) (bucketId : BucketId) : String :=
  decimal bucketId ++ ":" ++ room.bucketLabels[bucketId]?.getD ""

/-- The buckets of a room in ascending order, with their lines. -/
def bucketLines (app : AppState Value) (roomId : RoomId) :
    List (BucketId × String) :=
  match app.rooms[roomId]? with
  | some room =>
      room.buckets.keys.map fun bucketId => (bucketId, bucketLine room bucketId)
  | none => []

/-- `list_buckets`. -/
def listBuckets (app : AppState Value) (roomId : RoomId) : List String :=
  (bucketLines app roomId).map Prod.snd

/-- The lines of `list_buckets` for the buckets with a persisted record. -/
def listRecorded (kernel : SyncpondKernel Value) (roomId : RoomId) :
    List String :=
  ((bucketLines kernel.state roomId).filter fun line =>
    (persistedRecord kernel roomId line.1).isSome).map Prod.snd

/-- Every bucket with a record has its label and its flags in memory. -/
def RoomMatches (recordOf : BucketId → Option BucketRecord)
    (room : RoomState Value) : Prop :=
  ∀ bucketId record, recordOf bucketId = some record →
    bucketId ∈ room.buckets ∧
      room.bucketLabels[bucketId]? = record.label ∧
      room.bucketFlags[bucketId]? = some record.flags

/--
In every loaded room, memory and records agree, and unloading and loading the
room leaves the lines of the recorded buckets as they are.
-/
structure Matches (kernel : SyncpondKernel Value) : Prop where
  records : ∀ (roomId : RoomId) (room : RoomState Value),
    kernel.state.rooms[roomId]? = some room → room.loaded = true →
      RoomMatches (persistedRecord kernel roomId) room
  reload : ∀ (roomId : RoomId) (room : RoomState Value),
    kernel.state.rooms[roomId]? = some room → room.loaded = true →
      listRecorded (handle (handle kernel (.unloadRoom roomId))
        (.loadRoom roomId)) roomId = listRecorded kernel roomId

/-- What `NewBucket` keeps in memory is what its record says. -/
def KeepsNothing (state : AppState Value) : BucketCommand → Prop
  | .newBucket roomId bucketId label =>
      ∀ room, state.rooms[roomId]? = some room → room.loaded = true →
        ((trim label).isEmpty → room.bucketLabels[bucketId]? = none) ∧
          room.bucketFlags[bucketId]?.getD 0 = 0
  | _ => True

/-! ## Stores -/

/-- In every loaded room, memory and disk agree. -/
def StoreMatches (store : Store Value) : Prop :=
  ∀ (roomId : RoomId) (room : RoomState Value),
    store.state.rooms[roomId]? = some room → room.loaded = true →
      RoomMatches (fun bucketId => (store.disks roomId).records[bucketId]?)
        room

section Stores

variable {store : Store Value} {roomId : RoomId} {room : RoomState Value}

omit [SerdeJson Value] in
/-- What becomes of the agreement when a room and its disk change. -/
theorem storeMatches_update {after : Store Value}
    (matched : StoreMatches store)
    {records : Map BucketId BucketRecord}
    (rooms : after.state.rooms = store.state.rooms.insert roomId room)
    (disk : (after.disks roomId).records = records)
    (others : ∀ other, other ≠ roomId →
      (after.disks other).records = (store.disks other).records) :
    StoreMatches after ↔
      (room.loaded = true →
        RoomMatches (fun bucketId => records[bucketId]?) room) := by
  constructor
  · intro agree loaded
    have present : after.state.rooms[roomId]? = some room := by simp [rooms]
    have same := agree roomId room present loaded
    rwa [disk] at same
  · intro agrees other found present loaded
    rw [rooms, lookup_insert] at present
    split at present
    · next same =>
      subst same
      cases present
      rw [disk]
      exact agrees loaded
    · next different =>
      rw [others other (Ne.symm different)]
      exact matched other found present loaded

section Effects

variable {records : Map BucketId BucketRecord}
variable (matched : RoomMatches (fun bucketId => records[bucketId]?) room)

include matched

omit [SerdeJson Value] in
/-- `NewBucket` keeps the agreement exactly if it keeps nothing else. -/
theorem roomMatches_newBucket_iff (bucketId : BucketId)
    (labelTrimmed : String) :
    RoomMatches
        (fun id => (records.insert bucketId
          ⟨bucketId, labelOption labelTrimmed, 0⟩)[id]?)
        (RoomEffect.newBucket bucketId labelTrimmed room) ↔
      (labelTrimmed.isEmpty → room.bucketLabels[bucketId]? = none) ∧
        room.bucketFlags[bucketId]?.getD 0 = 0 := by
  constructor
  · intro agrees
    obtain ⟨_, label, flags⟩ := agrees bucketId
      ⟨bucketId, labelOption labelTrimmed, 0⟩ (by simp)
    constructor
    · intro blank
      simpa [RoomEffect.newBucket, labelOption, blank] using label
    · simp only [RoomEffect.newBucket, lookup_insertIfNew, true_and] at flags
      split at flags
      · next absent => rw [Std.ExtTreeMap.getElem?_eq_none absent]; rfl
      · rw [flags]; rfl
  · rintro ⟨label, flags⟩ other record found
    simp only [lookup_insert] at found
    split at found
    · next same =>
      subst same
      cases found
      refine ⟨mem_map_insertIfNew.mpr (Or.inl rfl), ?_, ?_⟩
      · by_cases blank : labelTrimmed.isEmpty
        · simpa [RoomEffect.newBucket, labelOption, blank] using label blank
        · simp [RoomEffect.newBucket, labelOption, blank]
      · simp only [RoomEffect.newBucket, lookup_insertIfNew, true_and]
        split
        · rfl
        · next present =>
          rw [not_not] at present
          obtain ⟨old, isOld⟩ := Option.isSome_iff_exists.mp
            (Std.ExtTreeMap.mem_iff_isSome_getElem?.mp present)
          rw [isOld] at flags ⊢
          exact congrArg some flags
    · next different =>
      obtain ⟨present, sameLabel, sameFlags⟩ := matched other record found
      refine ⟨mem_map_insertIfNew.mpr (Or.inr present), ?_, ?_⟩
      · by_cases blank : labelTrimmed.isEmpty
        · simpa [RoomEffect.newBucket, blank] using sameLabel
        · simpa [RoomEffect.newBucket, blank, lookup_insert, different]
            using sameLabel
      · simpa [RoomEffect.newBucket, lookup_insertIfNew, different]
          using sameFlags

omit [SerdeJson Value] in
/-- `DeleteBucket` forgets the bucket in both places. -/
theorem roomMatches_deleteBucket (bucketId : BucketId) :
    RoomMatches (fun id => (records.erase bucketId)[id]?)
      (RoomEffect.deleteBucket bucketId room) := by
  intro other record found
  simp only [lookup_erase] at found
  split at found
  · cases found
  · next different =>
    obtain ⟨present, label, flags⟩ := matched other record found
    have stays : other ∈ room.buckets.erase bucketId := by
      rw [Std.ExtTreeMap.mem_iff_isSome_getElem?, lookup_erase,
        if_neg different]
      exact Std.ExtTreeMap.mem_iff_isSome_getElem?.mp present
    refine ⟨stays, ?_, ?_⟩
    · simpa [RoomEffect.deleteBucket, lookup_erase, different] using label
    · simpa [RoomEffect.deleteBucket, lookup_erase, different] using flags

end Effects

omit [SerdeJson Value] in
/-- `LoadRoom` installs what the records say. -/
theorem roomMatches_loadFrom (disk : Disk Value) (room : RoomState Value) :
    RoomMatches (fun bucketId => disk.records[bucketId]?)
      (Store.loadFrom disk room) := by
  intro bucketId record found
  have present : bucketId ∈ disk.records := by
    simp [Std.ExtTreeMap.mem_iff_isSome_getElem?, found]
  exact ⟨by simpa [Store.loadFrom] using present,
    by simp [Store.loadFrom, found], by simp [Store.loadFrom, found]⟩

omit [SerdeJson Value] in
/-- What becomes of the agreement when a loaded room is changed. -/
theorem storeMatches_mutate (matched : StoreMatches store)
    (present : store.state.rooms[roomId]? = some room)
    (loaded : room.loaded = true)
    (effect : RoomState Value → RoomState Value)
    (change : Disk Value → Disk Value) :
    StoreMatches (store.mutate roomId effect change) ↔
      ((effect room).loaded = true → RoomMatches
        (fun bucketId =>
          (change (store.disks roomId)).records[bucketId]?) (effect room)) := by
  simp only [Store.mutate, present, loaded, Bool.not_true, Bool.false_eq_true,
    if_false]
  refine storeMatches_update matched rfl ?_ ?_
  · simp [Store.persist]
  · intro other different
    simp [Store.persist, changeDisk_of_ne _ different]

omit [SerdeJson Value] in
theorem mutate_of_not_loaded
    (effect : RoomState Value → RoomState Value)
    (change : Disk Value → Disk Value)
    (unloaded : ¬∃ room, store.state.rooms[roomId]? = some room ∧
      room.loaded = true) :
    store.mutate roomId effect change = store := by
  unfold Store.mutate
  cases present : store.state.rooms[roomId]? with
  | none => rfl
  | some room =>
      have notLoaded : room.loaded = false :=
        Bool.eq_false_iff.mpr fun loaded => unloaded ⟨room, present, loaded⟩
      simp [notLoaded]

/-- A command keeps the agreement exactly if it keeps nothing else. -/
theorem storeMatches_command_iff (matched : StoreMatches store)
    (command : BucketCommand) :
    StoreMatches (store.command command.command) ↔
      KeepsNothing store.state command := by
  cases command with
  | newBucket roomId bucketId label =>
      simp only [BucketCommand.command, Store.command, KeepsNothing]
      by_cases isLoaded : ∃ room, store.state.rooms[roomId]? = some room ∧
          room.loaded = true
      · obtain ⟨room, present, loaded⟩ := isLoaded
        have effectLoaded :
            (RoomEffect.newBucket bucketId (trim label) room).loaded = true :=
          loaded
        rw [storeMatches_mutate matched present loaded]
        simp only [effectLoaded, true_implies, present, Option.some.injEq,
          forall_eq', loaded]
        exact roomMatches_newBucket_iff (matched roomId room present loaded)
          bucketId (trim label)
      · rw [mutate_of_not_loaded _ _ isLoaded]
        refine iff_of_true matched fun room present loaded => ?_
        exact absurd ⟨room, present, loaded⟩ isLoaded
  | deleteBucket roomId bucketId =>
      simp only [BucketCommand.command, Store.command, KeepsNothing, iff_true]
      by_cases isLoaded : ∃ room, store.state.rooms[roomId]? = some room ∧
          room.loaded = true
      · obtain ⟨room, present, loaded⟩ := isLoaded
        rw [storeMatches_mutate matched present loaded]
        intro _
        exact roomMatches_deleteBucket (matched roomId room present loaded)
          bucketId
      · rw [mutate_of_not_loaded _ _ isLoaded]
        exact matched
  | unloadRoom roomId =>
      simp only [BucketCommand.command, Store.command, KeepsNothing, iff_true,
        AppState.unloadRoom, AppState.withRoom]
      cases present : store.state.rooms[roomId]? with
      | none => exact matched
      | some room =>
          let after : Store Value := { store with
            state := { store.state with
              rooms := store.state.rooms.insert roomId room.unload } }
          have rooms : after.state.rooms =
              store.state.rooms.insert roomId room.unload := rfl
          have unloaded : ¬room.unload.loaded = true := by simp [RoomState.unload]
          exact (storeMatches_update matched rooms rfl fun _ _ => rfl).mpr
            fun loaded => absurd loaded unloaded
  | loadRoom roomId =>
      simp only [BucketCommand.command, Store.command, KeepsNothing, iff_true,
        Store.loadRoom]
      cases present : store.state.rooms[roomId]? with
      | none => exact matched
      | some room =>
          let installed := Store.loadFrom (store.disks roomId) room
          let after : Store Value := { store.openRoom roomId with
            state := { store.state with
              rooms := store.state.rooms.insert roomId installed } }
          have rooms : after.state.rooms =
              store.state.rooms.insert roomId installed := rfl
          exact (storeMatches_update matched rooms rfl fun _ _ => rfl).mpr
            fun _ => roomMatches_loadFrom (store.disks roomId) room

/-- The store after a registered room was unloaded and loaded again. -/
theorem reload_eq
    (present : store.state.rooms[roomId]? = some room) :
    let reloaded := (store.command (.unloadRoom roomId)).command
      (.loadRoom roomId)
    reloaded.state.rooms[roomId]? =
        some (Store.loadFrom (store.disks roomId) room.unload) ∧
      reloaded.disks = store.disks := by
  simp [Store.command, AppState.unloadRoom, AppState.withRoom, present,
    Except.map, Store.loadRoom, Store.openRoom]

end Stores

/-! ## Kernels -/

section Kernels

variable {kernel : SyncpondKernel Value} {store : Store Value}
variable (refines : Refines kernel store)

include refines

/-- The stored record is that of the disk. -/
theorem persistedRecord_eq (roomId : RoomId) :
    persistedRecord kernel roomId =
      fun bucketId => (store.disks roomId).records[bucketId]? := by
  funext bucketId
  have has := (refines.holds roomId).represents.records
  cases found : (store.disks roomId).records[bucketId]? with
  | some record =>
      have listed : listedRecord Value (kernel.persistence.view roomId).db
          bucketId = some (bucketId, record) :=
        (listedRecord_eq_some_iff roomId has).mpr ⟨rfl, found⟩
      rw [persistedRecord, listed]
      rfl
  | none =>
      cases listed : listedRecord Value (kernel.persistence.view roomId).db
          bucketId with
      | none => rw [persistedRecord, listed]; rfl
      | some entry =>
          obtain ⟨same, present⟩ := (listedRecord_eq_some_iff roomId has).mp
            (show _ = some (entry.1, entry.2) from listed)
          rw [← same, found] at present
          cases present

/-- The lines of the recorded buckets are those of the records. -/
theorem listRecorded_eq {roomId : RoomId} {room : RoomState Value}
    (present : kernel.state.rooms[roomId]? = some room)
    (agree : RoomMatches (persistedRecord kernel roomId) room) :
    listRecorded kernel roomId =
      (store.disks roomId).records.keys.map fun bucketId =>
        decimal bucketId ++ ":" ++
          ((store.disks roomId).records[bucketId]?.bind
            BucketRecord.label).getD "" := by
  rw [persistedRecord_eq refines] at agree
  simp only [listRecorded, bucketLines, present, persistedRecord_eq refines,
    List.filter_map, List.map_map, Function.comp_def]
  have keys : room.buckets.keys.filter (fun bucketId =>
      (store.disks roomId).records[bucketId]?.isSome) =
        (store.disks roomId).records.keys := by
    refine filter_keys_eq fun bucketId => ?_
    rw [← Std.ExtTreeMap.mem_iff_isSome_getElem?, and_iff_right_iff_imp]
    intro recorded
    obtain ⟨record, found⟩ := Option.isSome_iff_exists.mp
      (Std.ExtTreeMap.mem_iff_isSome_getElem?.mp recorded)
    exact (agree bucketId record found).1
  rw [keys]
  refine List.map_congr_left fun bucketId member => ?_
  obtain ⟨record, found⟩ := Option.isSome_iff_exists.mp
    (Std.ExtTreeMap.mem_iff_isSome_getElem?.mp
      (Std.ExtTreeMap.mem_keys.mp member))
  rw [bucketLine, (agree bucketId record found).2.1, found]
  rfl

theorem refines_handle (command : BucketCommand) :
    Refines (handle kernel command) (store.command command.command) :=
  refines_command refines command.command

theorem recordsMatch_iff :
    (∀ (roomId : RoomId) (room : RoomState Value),
      kernel.state.rooms[roomId]? = some room → room.loaded = true →
        RoomMatches (persistedRecord kernel roomId) room) ↔
      StoreMatches store := by
  simp only [refines.state, persistedRecord_eq refines, StoreMatches]

/-- Memory that agrees with the records agrees after a reload as well. -/
theorem matches_iff : Matches kernel ↔ StoreMatches store := by
  rw [← recordsMatch_iff refines]
  constructor
  · exact Matches.records
  · intro agree
    refine ⟨agree, fun roomId room present loaded => ?_⟩
    have matched := (recordsMatch_iff refines).mp agree
    have unloaded := refines_handle refines (.unloadRoom roomId)
    have reloaded := refines_handle unloaded (.loadRoom roomId)
    have matchedUnloaded :=
      (storeMatches_command_iff matched (.unloadRoom roomId)).mpr trivial
    have matchedReloaded :=
      (storeMatches_command_iff matchedUnloaded (.loadRoom roomId)).mpr trivial
    obtain ⟨isRoom, disks⟩ := reload_eq (refines.state ▸ present)
    rw [listRecorded_eq refines present (agree roomId room present loaded),
      listRecorded_eq reloaded (reloaded.state ▸ isRoom)
        ((recordsMatch_iff reloaded).mpr matchedReloaded roomId _
          (reloaded.state ▸ isRoom) rfl)]
    simp only [BucketCommand.command, disks]

end Kernels

/-! ## Runs -/

/--
From any persisted content and any state in memory, labels and flags match the
records throughout a run exactly if they do at its start and no `NewBucket`
keeps a label or flags in memory that it leaves out of the record.
-/
theorem matches_throughout_iff (events : List (StorageEvent Value))
    (app : AppState Value) (notifications : Notifications Value)
    (commands : List BucketCommand) :
    Throughout handle Matches ⟨app, run events, notifications⟩ commands ↔
      Matches (⟨app, run events, notifications⟩ : SyncpondKernel Value) ∧
        Along handle (fun kernel => KeepsNothing kernel.state)
          ⟨app, run events, notifications⟩ commands := by
  obtain ⟨opened, refines⟩ := refines_run events app notifications
  by_cases initial :
      Matches (⟨app, run events, notifications⟩ : SyncpondKernel Value)
  · rw [and_iff_right initial]
    have allAllowed : Along handle (fun _ _ => True)
        (⟨app, run events, notifications⟩ : SyncpondKernel Value) commands :=
      along_iff_forall.mpr fun _ _ => trivial
    refine throughout_iff_along
      (fun kernel : SyncpondKernel Value => ∃ store, Refines kernel store)
      Matches ?_ ?_ allAllowed ⟨_, refines⟩ initial
    · rintro kernel command ⟨store, refines⟩
      exact ⟨_, refines_handle refines command⟩
    · rintro kernel command ⟨store, refines⟩ matched _
      rw [matches_iff (refines_handle refines command),
        storeMatches_command_iff ((matches_iff refines).mp matched),
        refines.state]
  · exact iff_of_false (fun throughout => initial throughout.start)
      fun both => initial both.1

/-! ## A blank label -/

/-- A kernel with one room, which is new. -/
def newRoom : SyncpondKernel Json :=
  ⟨(AppState.createRoom .new).1, run ([] : List (StorageEvent Json)), .empty⟩

/-- A bucket is created under a label, and created again without one. -/
def createdTwice : List BucketCommand :=
  [.newBucket 1 7 "news", .newBucket 1 7 ""]

/-- The label is there until the room is unloaded and loaded again. -/
theorem not_matches_createdTwice :
    ¬Throughout handle Matches newRoom createdTwice := by
  intro throughout
  let last := createdTwice.foldl handle newRoom
  have matched : Matches last :=
    throughout_iff_prefix.mp throughout createdTwice (List.prefix_refl _)
  obtain ⟨room, present, loaded⟩ := isRoomLoaded_iff.mp
    (show last.state.isRoomLoaded 1 = true by decide +kernel)
  have before : listRecorded last 1 = ["7:news"] := by decide +kernel
  have after : listRecorded (handle (handle last (.unloadRoom 1))
      (.loadRoom 1)) 1 = ["7:"] := by
    decide +kernel
  have same := matched.reload 1 room present loaded
  rw [before, after] at same
  revert same
  decide

end Syncpond.BucketLabels
