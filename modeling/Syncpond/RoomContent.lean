import Syncpond.Consistency
import Syncpond.Reads
import Syncpond.WriteProgress

/-!
# The content of a room

A loaded room shows what it has in memory, and an unloaded one will show what
its disk restores.  A write to a loaded room changes its content by one key.
Deleting a bucket takes all its keys away, and a room that is unloaded or
loaded changes from the content in memory to the one on disk; these are not the
same when a bucket has no record, or when fragments of a deleted bucket were
left behind.
-/

namespace Syncpond.RoomContent

open Syncpond.Protocol
open Syncpond.Serde
open Syncpond.State
open Syncpond.Persistence
open Syncpond.Kernel
open Syncpond.Disks
open Syncpond.KernelStore
open Syncpond.Consistency
open Syncpond.StateRuns
open Syncpond.Reads
open Syncpond.WriteProgress
open Syncpond.Library.Maps

variable {Value : Type} [SerdeJson Value]

/-! ## Content -/

/-- The fragment that loading a room brings back from its disk. -/
def restored (disk : Disk Value) (bucketId : BucketId) (key : String) :
    Option Value :=
  if bucketId ∈ disk.records then (disk.fragments bucketId)[key]? else none

/-- The fragment that a room shows, or will show once it is loaded. -/
def shown (store : Store Value) (roomId : RoomId) (bucketId : BucketId)
    (key : String) : Option Value :=
  if store.state.isRoomLoaded roomId then
    memoryFragment store.state roomId bucketId key
  else restored (store.disks roomId) bucketId key

variable (Value) in
/-- A command on the buckets and fragments of a room, or on its residence. -/
def IsLifecycle (roomId : RoomId) : Commands → Prop
  | .newBucket room _ _ => room = roomId
  | .deleteBucket room _ => room = roomId
  | .writeFragment room _ _ data =>
      room = roomId ∧
        SerdeJson.isNull (SerdeJson.parsePayload data : Value) = false
  | .loadRoom room => room = roomId
  | .unloadRoom room => room = roomId
  | _ => False

instance (roomId : RoomId) (command : Commands) :
    Decidable (IsLifecycle Value roomId command) :=
  match command with
  | .newBucket room _ _ => inferInstanceAs (Decidable (room = roomId))
  | .deleteBucket room _ => inferInstanceAs (Decidable (room = roomId))
  | .writeFragment _ _ _ _ => inferInstanceAs (Decidable (_ ∧ _))
  | .loadRoom room => inferInstanceAs (Decidable (room = roomId))
  | .unloadRoom room => inferInstanceAs (Decidable (room = roomId))
  | .newRoom _ => .isFalse id
  | .newMember _ _ => .isFalse id
  | .deleteMember _ _ => .isFalse id
  | .readFragment _ _ _ => .isFalse id

/-- A reload of the room would lose the fragment: its bucket has no record. -/
def IsLost (kernel : SyncpondKernel Value) (roomId : RoomId)
    (bucketId : BucketId) (key : String) : Prop :=
  memoryFragment kernel.state roomId bucketId key ≠ none ∧
    ¬HasRecord kernel roomId bucketId

/-- A reload would bring back a fragment that the room does not have. -/
def IsRevived (kernel : SyncpondKernel Value) (roomId : RoomId)
    (bucketId : BucketId) (key : String) : Prop :=
  memoryFragment kernel.state roomId bucketId key = none ∧
    HasRecord kernel roomId bucketId ∧ HasFragment kernel roomId bucketId key

/-- A reload of the room would change nothing in the bucket. -/
def SurvivesReload (kernel : SyncpondKernel Value) (roomId : RoomId)
    (bucketId : BucketId) : Prop :=
  ∀ key, ¬IsLost kernel roomId bucketId key ∧
    ¬IsRevived kernel roomId bucketId key

/--
A command takes no fragment away that somebody was told of, and brings none
back in a bucket whose content somebody was sent.
-/
def Spares (kernel : SyncpondKernel Value) (roomId : RoomId)
    (told : BucketId → String → Prop) (synced : BucketId → Prop) :
    Commands → Prop
  | .deleteBucket _ bucketId =>
      ∀ key, told bucketId key →
        memoryFragment kernel.state roomId bucketId key = none
  | .loadRoom _ =>
      ∀ bucketId key,
        (told bucketId key → ¬IsLost kernel roomId bucketId key) ∧
        (synced bucketId → ¬IsRevived kernel roomId bucketId key)
  | .unloadRoom _ =>
      ∀ bucketId key,
        (told bucketId key → ¬IsLost kernel roomId bucketId key) ∧
        (synced bucketId → ¬IsRevived kernel roomId bucketId key)
  | _ => True

/-! ## What commands change -/

section Changes

variable {store : Store Value} {roomId : RoomId} {room : RoomState Value}
variable {bucketId : BucketId} {key : String}

theorem shown_of_unloaded
    (unloaded : store.state.isRoomLoaded roomId = false) :
    shown store roomId bucketId key =
      restored (store.disks roomId) bucketId key := by
  rw [shown, unloaded]
  rfl

theorem shown_of_loaded (loaded : store.state.isRoomLoaded roomId = true) :
    shown store roomId bucketId key =
      memoryFragment store.state roomId bucketId key := by
  rw [shown, if_pos loaded]

theorem shown_of_room (present : store.state.rooms[roomId]? = some room)
    (loaded : room.loaded = true) :
    shown store roomId bucketId key =
      (getNested room.buckets bucketId key).bind fun entry =>
        persistedValue entry.value := by
  rw [shown_of_loaded (isRoomLoaded_iff.mpr ⟨room, present, loaded⟩),
    memoryFragment, present, Option.bind_some]

/-! ### Buckets -/

omit [SerdeJson Value] in
theorem mutate_of_unloaded
    (unloaded : store.state.isRoomLoaded roomId = false)
    (effect : RoomState Value → RoomState Value)
    (change : Disk Value → Disk Value) :
    store.mutate roomId effect change = store := by
  unfold Store.mutate
  unfold AppState.isRoomLoaded at unloaded
  cases present : store.state.rooms[roomId]? with
  | none => rfl
  | some room =>
      have evicted : room.loaded = false := by simpa [present] using unloaded
      simp [evicted]

/-- A loaded room shows what an effect makes of its buckets. -/
theorem shown_mutate (present : store.state.rooms[roomId]? = some room)
    (loaded : room.loaded = true)
    (effect : RoomState Value → RoomState Value)
    (change : Disk Value → Disk Value)
    (stays : (effect room).loaded = room.loaded) :
    shown (store.mutate roomId effect change) roomId bucketId key =
      (getNested (effect room).buckets bucketId key).bind fun entry =>
        persistedValue entry.value := by
  refine shown_of_room ?_ (stays.trans loaded)
  simp [Store.mutate, present, loaded, Store.persist, Store.openRoom]

omit [SerdeJson Value] in
theorem getNested_newBucket_eq (created bucketId : BucketId)
    (label key : String) :
    getNested (RoomEffect.newBucket created label room).buckets bucketId
        key = getNested room.buckets bucketId key := by
  simp only [RoomEffect.newBucket, getNested, lookup_insertIfNew]
  split
  · next isNew =>
    obtain ⟨rfl, absent⟩ := isNew
    rw [Std.ExtTreeMap.getElem?_eq_none absent]
    simp
  · rfl

/-- A new bucket is empty. -/
theorem shown_newBucket (created : BucketId) (label : String) :
    shown (store.command (.newBucket roomId created label)) roomId bucketId
        key = shown store roomId bucketId key := by
  rw [Store.command]
  cases loaded : store.state.isRoomLoaded roomId with
  | false => rw [mutate_of_unloaded loaded]
  | true =>
      obtain ⟨room, present, resident⟩ := isRoomLoaded_iff.mp loaded
      rw [shown_mutate present resident _ _ rfl, getNested_newBucket_eq,
        shown_of_room present resident]

/-- A deleted bucket shows nothing, and the others what they did. -/
theorem shown_deleteBucket
    (loaded : store.state.isRoomLoaded roomId = true)
    (deleted : BucketId) :
    shown (store.command (.deleteBucket roomId deleted)) roomId bucketId
        key =
      if deleted = bucketId then none
      else shown store roomId bucketId key := by
  rw [Store.command]
  obtain ⟨room, present, resident⟩ := isRoomLoaded_iff.mp loaded
  rw [shown_mutate present resident _ _ rfl, shown_of_room present resident]
  simp only [RoomEffect.deleteBucket, getNested, lookup_erase]
  split <;> rfl

/-! ### Fragments -/

/-- A write of a value that is not null sets its key. -/
theorem shown_writeFragment (consistent : Consistent store)
    (loaded : store.state.isRoomLoaded roomId = true)
    (written : BucketId) (writtenKey : String) {parsed : Value}
    (live : SerdeJson.isNull parsed = false) :
    shown (store.writeFragment roomId written writtenKey parsed) roomId
        bucketId key =
      if written = bucketId ∧ writtenKey = key then some parsed
      else shown store roomId bucketId key := by
  obtain ⟨room, present, resident⟩ := isRoomLoaded_iff.mp loaded
  have before := consistent.rooms roomId room present
  have stored := setFragment_eq_ok present before.unlocked resident
    before.noTransaction written writtenKey parsed
  have after : (store.writeFragment roomId written writtenKey
      parsed).state.rooms[roomId]? =
      some (room.store written writtenKey parsed) := by
    simp [Store.writeFragment, loaded, stored, Store.persist, Store.openRoom]
  rw [shown_of_room after resident, shown_of_room present resident,
    RoomState.store, getNested_insertNested]
  split
  · simp [persistedValue, live]
  · rfl

theorem writeFragment_of_unloaded
    (unloaded : store.state.isRoomLoaded roomId = false)
    (written : BucketId) (writtenKey : String) (parsed : Value) :
    store.writeFragment roomId written writtenKey parsed = store := by
  simp [Store.writeFragment, unloaded]

/-! ### Residence -/

/-- A room that is loaded shows what its disk restores. -/
theorem shown_loadRoom (noTombstones : NoTombstones (store.disks roomId)) :
    shown (store.command (.loadRoom roomId)) roomId bucketId key =
      restored (store.disks roomId) bucketId key := by
  cases present : store.state.rooms[roomId]? with
  | none =>
      have opened : store.command (.loadRoom roomId) =
          store.openRoom roomId := by
        simp [Store.command, Store.loadRoom, present]
      have unloaded : (store.openRoom roomId).state.isRoomLoaded roomId =
          false := by
        simp [Store.openRoom, AppState.isRoomLoaded, present]
      rw [opened, shown_of_unloaded unloaded]
      rfl
  | some room =>
      have installed :
          (store.command (.loadRoom roomId)).state.rooms[roomId]? =
            some (Store.loadFrom (store.disks roomId) room) := by
        simp [Store.command, Store.loadRoom, present]
      rw [shown_of_room installed rfl, getNested_loadFrom, restored]
      split
      · cases stored : ((store.disks roomId).fragments bucketId)[key]? with
        | none => rfl
        | some value =>
            have live := noTombstones bucketId key value stored
            simp [persistedValue, live]
      · rfl

/-- A room that is unloaded will show what its disk restores. -/
theorem shown_unloadRoom :
    shown (store.command (.unloadRoom roomId)) roomId bucketId key =
      restored (store.disks roomId) bucketId key := by
  rw [Store.command]
  cases unloaded : store.state.unloadRoom roomId with
  | ok app =>
      obtain ⟨before, after, _, result, rfl⟩ := withRoom_ok unloaded
      cases result
      refine shown_of_unloaded ?_
      simp [AppState.isRoomLoaded, RoomState.unload]
  | error error =>
      refine shown_of_unloaded ?_
      cases present : store.state.rooms[roomId]? with
      | none => simp [AppState.isRoomLoaded, present]
      | some room =>
          simp [AppState.unloadRoom, AppState.withRoom, present,
            Except.map] at unloaded

end Changes

/-! ## Commands that take away or bring back -/

section Spares

variable {kernel : SyncpondKernel Value} {store : Store Value}
variable {roomId : RoomId} {bucketId : BucketId}

/-- A fragment is restored as it is in memory, or lost, or revived. -/
theorem restored_cases (refines : Refines kernel store)
    (consistent : Consistent store) (bucketId : BucketId) (key : String) :
    restored (store.disks roomId) bucketId key =
        memoryFragment store.state roomId bucketId key ∨
      (IsLost kernel roomId bucketId key ∧
        restored (store.disks roomId) bucketId key = none) ∨
      (IsRevived kernel roomId bucketId key ∧
        memoryFragment store.state roomId bucketId key = none) := by
  unfold IsLost IsRevived
  rw [refines.state, hasRecord_iff refines, hasFragment_iff refines]
  unfold restored
  cases live : memoryFragment store.state roomId bucketId key with
  | some value =>
      obtain ⟨room, present, found⟩ := Option.bind_eq_some_iff.mp live
      obtain ⟨entry, stored, persisted⟩ := Option.bind_eq_some_iff.mp found
      by_cases recorded : bucketId ∈ (store.disks roomId).records
      · rw [if_pos recorded,
          (consistent.rooms roomId room present).mirrors bucketId key entry
            stored, persisted]
        exact Or.inl rfl
      · exact Or.inr (Or.inl ⟨⟨by simp, recorded⟩, if_neg recorded⟩)
  | none =>
      by_cases recorded : bucketId ∈ (store.disks roomId).records
      · by_cases stored : key ∈ (store.disks roomId).fragments bucketId
        · exact Or.inr (Or.inr ⟨⟨rfl, recorded, stored⟩, rfl⟩)
        · rw [if_pos recorded]
          exact Or.inl (Std.ExtTreeMap.getElem?_eq_none stored)
      · exact Or.inl (if_neg recorded)

/-- What survives a reload is restored as it is in memory. -/
theorem SurvivesReload.restored_eq (refines : Refines kernel store)
    (consistent : Consistent store)
    (survives : SurvivesReload kernel roomId bucketId) (key : String) :
    restored (store.disks roomId) bucketId key =
      memoryFragment store.state roomId bucketId key := by
  obtain ⟨notLost, notRevived⟩ := survives key
  rcases restored_cases refines consistent bucketId key with
    same | ⟨lost, _⟩ | ⟨revived, _⟩
  · exact same
  · exact absurd lost notLost
  · exact absurd revived notRevived

/--
A command that is not a write leaves a fragment as it is, takes one away that
nobody was told of, or brings one back in a bucket that nobody was sent.
-/
theorem shown_command (refines : Refines kernel store)
    (consistent : Consistent store) {command : Commands}
    (lifecycle : IsLifecycle Value roomId command)
    (other : isWrite command = false)
    {told : BucketId → String → Prop} {synced : BucketId → Prop}
    (spares : kernel.state.isRoomLoaded roomId = true →
      Spares kernel roomId told synced command)
    (bucketId : BucketId) (key : String) :
    shown (store.command command) roomId bucketId key =
        shown store roomId bucketId key ∨
      (shown (store.command command) roomId bucketId key = none ∧
        ¬told bucketId key) ∨
      (shown store roomId bucketId key = none ∧ ¬synced bucketId) := by
  rw [refines.state] at spares
  have reloaded (spared : store.state.isRoomLoaded roomId = true →
        (told bucketId key → ¬IsLost kernel roomId bucketId key) ∧
        (synced bucketId → ¬IsRevived kernel roomId bucketId key)) :
      restored (store.disks roomId) bucketId key =
          shown store roomId bucketId key ∨
        (restored (store.disks roomId) bucketId key = none ∧
          ¬told bucketId key) ∨
        (shown store roomId bucketId key = none ∧ ¬synced bucketId) := by
    cases loaded : store.state.isRoomLoaded roomId with
    | false => exact Or.inl (shown_of_unloaded loaded).symm
    | true =>
        obtain ⟨notLost, notRevived⟩ := spared loaded
        rw [shown_of_loaded loaded]
        rcases restored_cases refines consistent bucketId key with
          same | ⟨lost, isNone⟩ | ⟨revived, isNone⟩
        · exact Or.inl same
        · exact Or.inr (Or.inl ⟨isNone, fun isTold => notLost isTold lost⟩)
        · exact Or.inr (Or.inr
            ⟨isNone, fun isSynced => notRevived isSynced revived⟩)
  cases command with
  | newBucket room created label =>
      cases lifecycle
      exact Or.inl (shown_newBucket created label)
  | deleteBucket room deleted =>
      cases lifecycle
      cases loaded : store.state.isRoomLoaded roomId with
      | false =>
          rw [Store.command, mutate_of_unloaded loaded]
          exact Or.inl rfl
      | true =>
          rw [shown_deleteBucket loaded]
          split
          · next same =>
            subst same
            by_cases isTold : told deleted key
            · rw [shown_of_loaded loaded, ← refines.state]
              exact Or.inl (spares loaded key isTold).symm
            · exact Or.inr (Or.inl ⟨rfl, isTold⟩)
          · exact Or.inl rfl
  | loadRoom room =>
      cases lifecycle
      rw [shown_loadRoom (consistent.noTombstones roomId)]
      exact reloaded fun loaded => spares loaded bucketId key
  | unloadRoom room =>
      cases lifecycle
      rw [shown_unloadRoom]
      exact reloaded fun loaded => spares loaded bucketId key
  | writeFragment => cases other
  | _ => cases lifecycle

end Spares

end Syncpond.RoomContent
