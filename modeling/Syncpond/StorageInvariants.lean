import Syncpond.Kernel
import Syncpond.Library.Invariants

/-!
# Invariants of the storage

An operation of the storage is a program whose sections can fail, so what it
keeps and what it returns are stated together: `Preserves invariant post` says
that each of its sections keeps the invariant of the opened database and the
cache, and that what it returns without an error satisfies `post`.

The rules follow the constructors of the operations.  What is read of the
storage is described by a state that satisfies the invariant, since other
operations may have changed the storage by the time that the result is used.
-/

namespace Syncpond.StorageInvariants

open Syncpond.Protocol
open Syncpond.Serde
open Syncpond.State
open Syncpond.Persistence
open Syncpond.Kernel
open Syncpond.Library.JsonText (Codec)
open Syncpond.Library.Lru
open Syncpond.Library.Maps
open Syncpond.Library.Programs
open Syncpond.Library.Text

variable {α β : Type}

/-- The sections keep the invariant, and a result has the property. -/
structure Preserves (invariant : RoomPersistence → Prop) (post : α → Prop)
    (operation : Storage α) : Prop where
  keeps : Program.Keeps invariant
    (fun outcome => ∀ value, outcome = .ok value → post value) operation.run

variable {invariant : RoomPersistence → Prop} {post : α → Prop}

/-! ## Combinators -/

/-- A single call preserves the invariant. -/
theorem preserves_primitive
    {action : RoomPersistence → Except String α × RoomPersistence}
    (holds : ∀ room, invariant room → invariant (action room).2 ∧
      ∀ value, (action room).1 = .ok value → post value) :
    Preserves invariant post (Storage.primitive action) :=
  ⟨Program.keeps_atomic holds⟩

theorem preserves_pure {value : α} (holds : post value) :
    Preserves invariant post (pure value) := by
  constructor
  apply Program.keeps_pure
  intro other same
  cases same
  exact holds

theorem preserves_throw (text : String) :
    Preserves invariant post (throw text : Storage α) := by
  constructor
  apply Program.keeps_pure
  intro value impossible
  cases impossible

/-- Operations that preserve the invariant can follow each other. -/
theorem Preserves.bind {operation : Storage α} {rest : α → Storage β}
    {after : β → Prop} (front : Preserves invariant post operation)
    (back : ∀ value, post value → Preserves invariant after (rest value)) :
    Preserves invariant after (operation >>= rest) := by
  constructor
  rw [ExceptT.run_bind]
  apply Program.Keeps.bind front.keeps
  intro outcome holds
  cases outcome with
  | ok value => exact (back value (holds value rfl)).keeps
  | error text =>
      apply Program.keeps_pure
      intro value impossible
      cases impossible

theorem Preserves.mono {operation : Storage α} {weaker : α → Prop}
    (preserves : Preserves invariant post operation)
    (implies : ∀ value, post value → weaker value) :
    Preserves invariant weaker operation :=
  ⟨preserves.keeps.mono fun _ holds value isValue =>
    implies value (holds value isValue)⟩

/-- An error is looked at without another call. -/
theorem Preserves.attempt {operation : Storage α}
    (preserves : Preserves invariant post operation) :
    Preserves invariant
      (fun outcome => ∀ value, outcome = .ok value → post value)
      (Storage.attempt operation) := by
  constructor
  unfold Storage.attempt
  rw [ExceptT.run_lift]
  apply Program.Keeps.map preserves.keeps
  intro outcome holds attempted same
  cases same
  exact holds

/-- Operations are repeated over a list with a property of their result. -/
theorem preserves_foldlM {Item : Type} {property : α → Prop}
    {step : α → Item → Storage α}
    (steps : ∀ value item, property value →
      Preserves invariant property (step value item))
    (items : List Item) {value : α} (holds : property value) :
    Preserves invariant property (items.foldlM step value) := by
  induction items generalizing value with
  | nil => exact preserves_pure holds
  | cons item rest ih =>
      rw [List.foldlM_cons]
      exact (steps value item holds).bind fun _ held => ih held

/-! ## Calls of the database and the cache -/

section Calls

variable (faults : Faults)

/-- What a lookup returns was there at some moment. -/
theorem preserves_get (key : String) :
    Preserves invariant
      (fun found => ∃ room, invariant room ∧ room.db[key]? = found)
      (Storage.get faults key) := by
  apply preserves_primitive
  intro room holds
  cases faults.get key with
  | some text =>
      refine ⟨holds, ?_⟩
      intro value impossible
      cases impossible
  | none =>
      refine ⟨holds, ?_⟩
      intro value read
      cases read
      exact ⟨room, holds, rfl⟩

/-- What an iterator yields was there at some moment, in this order. -/
theorem preserves_traversal :
    Preserves invariant
      (fun items => ∃ room, invariant room ∧
        (items.filterMap Except.toOption).Sublist room.db.toList)
      (Storage.iterator faults) := by
  apply preserves_primitive
  intro room holds
  refine ⟨holds, ?_⟩
  intro items read
  cases read
  refine ⟨room, holds, ?_⟩
  generalize room.db.toList = entries
  induction entries with
  | nil => exact .slnil
  | cons entry rest ih =>
      rw [List.map_cons]
      cases faults.item entry.1 with
      | some text => exact ih.cons entry
      | none => exact ih.cons_cons entry

/-- What an iterator yields was there at some moment. -/
theorem preserves_iterator :
    Preserves invariant
      (fun items => ∃ room, invariant room ∧ ∀ entry,
        .ok entry ∈ items → room.db[entry.1]? = some entry.2)
      (Storage.iterator faults) := by
  apply (preserves_traversal faults).mono
  rintro items ⟨room, holds, isSublist⟩
  refine ⟨room, holds, ?_⟩
  intro entry member
  apply Std.ExtTreeMap.mem_toList_iff_getElem?_eq_some.mp
  exact isSublist.subset (List.mem_filterMap.mpr ⟨_, member, rfl⟩)

/-- What a scan collects under a fragment was there at some moment. -/
theorem preserves_scan {Value : Type} [SerdeJson Value] :
    Preserves invariant
      (fun fragments => ∃ room, invariant room ∧
        ∀ (bucketId : BucketId) (key : String) (value : Value),
          getNested fragments bucketId key = some value →
            ∃ entry : String × ByteArray, room.db[entry.1]? = some entry.2 ∧
              collectFragment entry = some ((bucketId, key), value))
      (loadAllFragments faults) := by
  unfold loadAllFragments
  apply (preserves_iterator faults).bind
  rintro items ⟨room, holds, present⟩
  have inDb (entries : List (String × ByteArray))
      (all : allItems items = .ok entries) :
      ∀ entry ∈ entries, room.db[entry.1]? = some entry.2 := by
    induction items generalizing entries with
    | nil =>
        cases all
        simp
    | cons item rest ih =>
        cases item with
        | error text => cases all
        | ok head =>
            cases tail : allItems rest with
            | error text =>
                rw [allItems, tail] at all
                cases all
            | ok others =>
                rw [allItems, tail] at all
                cases all
                intro entry member
                rcases List.mem_cons.mp member with rfl | later
                · exact present entry List.mem_cons_self
                · exact ih (fun other inRest =>
                    present other (List.mem_cons_of_mem _ inRest))
                    others tail entry later
  cases all : allItems items with
  | error text => exact preserves_throw text
  | ok entries =>
      apply preserves_pure
      refine ⟨room, holds, ?_⟩
      have stored := inDb entries all
      suffices collects : ∀ (fragments : Map BucketId (Map String Value))
          (bucketId : BucketId) (key : String) (value : Value),
          getNested (entries.foldl (gatherStep putFragment collectFragment)
            fragments) bucketId key = some value →
            getNested fragments bucketId key = some value ∨
              ∃ entry : String × ByteArray,
                room.db[entry.1]? = some entry.2 ∧
                  collectFragment entry = some ((bucketId, key), value) by
        intro bucketId key value found
        apply (collects ∅ bucketId key value found).resolve_left
        simp
      clear all
      induction entries with
      | nil => exact fun _ _ _ _ found => Or.inl found
      | cons entry rest ih =>
          intro fragments bucketId key value found
          rcases ih (fun other member =>
            stored other (List.mem_cons_of_mem _ member)) _ _ _ _ found with
            before | later
          · unfold gatherStep at before
            split at before
            · next target parsed isFragment =>
              rw [putFragment, getNested_insertNested] at before
              split at before
              · next same =>
                obtain ⟨rfl, rfl⟩ := same
                cases before
                exact Or.inr
                  ⟨entry, stored entry List.mem_cons_self, isFragment⟩
              · exact Or.inl before
            · exact Or.inl before
          · exact Or.inr later

theorem preserves_put {key : String} {bytes : ByteArray}
    (kept : ∀ room, invariant room →
      invariant { room with db := room.db.insert key bytes }) :
    Preserves invariant (fun _ => True) (Storage.put faults key bytes) := by
  apply preserves_primitive
  intro room holds
  cases faults.put key with
  | some text => exact ⟨holds, fun _ _ => trivial⟩
  | none => exact ⟨kept room holds, fun _ _ => trivial⟩

theorem preserves_delete {key : String}
    (kept : ∀ room, invariant room →
      invariant { room with db := room.db.erase key }) :
    Preserves invariant (fun _ => True) (Storage.delete faults key) := by
  apply preserves_primitive
  intro room holds
  cases faults.delete key with
  | some text => exact ⟨holds, fun _ _ => trivial⟩
  | none => exact ⟨kept room holds, fun _ _ => trivial⟩

/-- Serialised bytes are read back as the value. -/
theorem preserves_serialize (codec : Codec α) (value : α) :
    Preserves invariant (fun bytes => codec.fromSlice bytes = .ok value)
      (Storage.serialize codec value) := by
  obtain ⟨bytes, serialized, readBack⟩ := codec.roundTrip value
  unfold Storage.serialize
  rw [serialized]
  exact preserves_pure readBack

theorem preserves_cacheGetBuckets (roomId : RoomId)
    (kept : ∀ room, invariant room → invariant { room with
      bucketCache := (room.bucketCache.get roomId).1 }) :
    Preserves invariant
      (fun found => ∃ room, invariant room ∧
        room.bucketCache.peek roomId = found)
      (Storage.cacheGetBuckets roomId) := by
  apply preserves_primitive
  intro room holds
  refine ⟨kept room holds, ?_⟩
  intro found read
  cases read
  exact ⟨room, holds, (Cache.get_snd _ _).symm⟩

theorem preserves_cachePutBuckets {roomId : RoomId}
    {buckets : Map BucketId BucketRecord}
    (kept : ∀ room, invariant room → invariant { room with
      bucketCache := room.bucketCache.put roomId buckets }) :
    Preserves invariant (fun _ => True)
      (Storage.cachePutBuckets roomId buckets) := by
  apply preserves_primitive
  intro room holds
  exact ⟨kept room holds, fun _ _ => trivial⟩

end Calls

/-! ## Commands -/

section Tasks

variable {Value : Type} {onKernel : SyncpondKernel Value → Prop}

/-- What an operation preserves of the storage of a room, a command keeps. -/
theorem keeps_onRoom {roomId : RoomId} {operation : Storage α}
    (preserves : Preserves invariant post operation)
    (stored : ∀ kernel, onKernel kernel →
      invariant (kernel.persistence.view roomId))
    (around : ∀ kernel room, onKernel kernel → invariant room →
      onKernel { kernel with
        persistence := kernel.persistence.writeBack roomId room }) :
    Program.Keeps onKernel
      (fun found => ∀ value, found = some (.ok value) → post value)
      (Task.onRoom roomId operation : Task Value _) := by
  unfold Task.onRoom
  have looks : Program.Keeps onKernel (fun _ => True)
      (Program.read .free fun kernel : SyncpondKernel Value =>
        kernel.persistence.dbs.contains roomId) :=
    Program.keeps_read fun _ _ => trivial
  apply looks.bind
  intro isOpen _
  cases isOpen with
  | false =>
      apply Program.keeps_pure
      intro value impossible
      cases impossible
  | true =>
      refine Program.Keeps.map (preserves.keeps.zoom stored around) ?_
      intro outcome holds value same
      cases same
      exact holds value rfl

/-- Persisting keeps what its operation preserves. -/
theorem keeps_persist {faults : Faults} {roomId : RoomId}
    {operation : Storage Unit} {post : Unit → Prop}
    (preserves : Preserves invariant post operation)
    (opened : ∀ kernel, onKernel kernel → onKernel { kernel with
      persistence := (kernel.persistence.openRoomDb faults roomId).1 })
    (stored : ∀ kernel, onKernel kernel →
      invariant (kernel.persistence.view roomId))
    (around : ∀ kernel room, onKernel kernel → invariant room →
      onKernel { kernel with
        persistence := kernel.persistence.writeBack roomId room }) :
    Program.Keeps onKernel (fun _ => True)
      (Task.persist faults roomId operation : Task Value Unit) := by
  unfold Task.persist
  have opens : Program.Keeps onKernel (fun _ => True)
      (Task.openRoomDb faults roomId : Task Value _) :=
    Program.keeps_atomic fun kernel holds => ⟨opened kernel holds, trivial⟩
  apply opens.bind
  intro _ _
  apply (keeps_onRoom preserves stored around).bind
  intro _ _
  exact Program.keeps_pure trivial

/-! ### Handlers -/

/-- A task that keeps an invariant, whatever it returns. -/
abbrev KeepsAlways {Result : Type} (onKernel : SyncpondKernel Value → Prop)
    (task : Task Value Result) : Prop :=
  task.Keeps onKernel fun _ => True

theorem keeps_release :
    KeepsAlways onKernel (Task.release : Task Value Unit) :=
  Program.keeps_modify trivial fun _ holds => holds

/-- A new room is created, its database opened and its label set. -/
theorem keeps_newRoom {faults : Faults} {name : String}
    (created : ∀ kernel, onKernel kernel → onKernel kernel.createRoom.2)
    (opened : ∀ kernel roomId, onKernel kernel → onKernel { kernel with
      persistence := (kernel.persistence.openRoomDb faults roomId).1 })
    (labelled : ∀ kernel roomId, onKernel kernel →
      onKernel (kernel.labelRoom roomId name)) :
    KeepsAlways onKernel (handleNewRoom faults name : Task Value _) := by
  unfold handleNewRoom
  have creates : KeepsAlways onKernel
      (Program.atomic .acquire SyncpondKernel.createRoom) :=
    Program.keeps_atomic fun kernel holds => ⟨created kernel holds, trivial⟩
  apply creates.bind
  intro roomId _
  have opens : KeepsAlways onKernel
      (Task.openRoomDb faults roomId : Task Value _) :=
    Program.keeps_atomic fun kernel holds =>
      ⟨opened kernel roomId holds, trivial⟩
  apply opens.bind
  intro _ _
  have labels : KeepsAlways onKernel (Program.modify .release
      (SyncpondKernel.labelRoom roomId name)) :=
    Program.keeps_modify trivial fun kernel holds =>
      labelled kernel roomId holds
  apply labels.bind
  intro _ _
  exact Program.keeps_pure trivial

/-- A change keeps what it keeps in memory and in the database. -/
theorem keeps_mutateAndPersist {faults : Faults} {roomId : RoomId}
    {effect : RoomState Value → RoomState Value} {operation : Storage Unit}
    (mutated : ∀ kernel, onKernel kernel →
      onKernel (kernel.mutateRoom roomId effect).2)
    (persists : KeepsAlways onKernel
      (Task.persist faults roomId operation : Task Value Unit))
    (response : CommandResponse) :
    KeepsAlways onKernel
      (mutateAndPersist faults roomId effect operation response) := by
  unfold mutateAndPersist
  have mutates : KeepsAlways onKernel
      (Program.atomic .acquire (SyncpondKernel.mutateRoom roomId effect)) :=
    Program.keeps_atomic fun kernel holds => ⟨mutated kernel holds, trivial⟩
  apply mutates.bind
  intro found _
  cases found with
  | unknown => exact keeps_release.bind fun _ _ => Program.keeps_pure trivial
  | unloaded => exact keeps_release.bind fun _ _ => Program.keeps_pure trivial
  | changed =>
      apply persists.bind
      intro _ _
      exact keeps_release.bind fun _ _ => Program.keeps_pure trivial

variable [SerdeJson Value]

/-- A write keeps what its commit, its persistence and its broadcast keep. -/
theorem keeps_writeFragment {faults : Faults} {roomId : RoomId}
    {bucketId : BucketId} {key : String} {data : FragmentData}
    (committed : ∀ kernel, onKernel kernel →
      onKernel (kernel.commitWrite roomId bucketId key
        (SerdeJson.parsePayload data)).2)
    (persists : KeepsAlways onKernel (Task.persist faults roomId
      (persistFragment faults (decimal bucketId) key
        (persistedValue (SerdeJson.parsePayload data : Value))) :
          Task Value Unit))
    (announced : ∀ kernel assigned roomCounter, onKernel kernel →
      onKernel (kernel.broadcast roomId assigned (writeUpdate bucketId key
        (SerdeJson.parsePayload data) roomCounter))) :
    KeepsAlways onKernel
      (handleWriteFragment faults roomId bucketId key data :
        Task Value _) := by
  unfold handleWriteFragment
  have checks : KeepsAlways onKernel (Program.read .locked
      fun kernel : SyncpondKernel Value => kernel.state.isRoomLoaded roomId) :=
    Program.keeps_read fun _ _ => trivial
  apply checks.bind
  intro isLoaded _
  cases isLoaded with
  | false => exact Program.keeps_pure trivial
  | true =>
      have commits : KeepsAlways onKernel (Program.atomic .locked
          (SyncpondKernel.commitWrite roomId bucketId key
            (SerdeJson.parsePayload data : Value))) :=
        Program.keeps_atomic fun kernel holds =>
          ⟨committed kernel holds, trivial⟩
      apply commits.bind
      intro assigned _
      apply persists.bind
      intro _ _
      have counts : KeepsAlways onKernel (Program.read .locked
          (SyncpondKernel.readVersion roomId : SyncpondKernel Value → _)) :=
        Program.keeps_read fun _ _ => trivial
      apply counts.bind
      intro roomCounter _
      have announces : KeepsAlways onKernel (Program.modify .free
          (SyncpondKernel.broadcast roomId assigned (writeUpdate bucketId key
            (SerdeJson.parsePayload data : Value) roomCounter))) :=
        Program.keeps_modify trivial fun kernel holds =>
          announced kernel assigned roomCounter holds
      apply announces.bind
      intro _ _
      exact Program.keeps_pure trivial

/-- A load keeps what its reading preserves and its installation keeps. -/
theorem keeps_loadRoom {faults : Faults} {roomId : RoomId}
    {post : RoomData Value → Prop}
    (opened : ∀ kernel, onKernel kernel → onKernel { kernel with
      persistence := (kernel.persistence.openRoomDb faults roomId).1 })
    (reads : Program.Keeps onKernel
      (fun found => ∀ data, found = some (.ok data) → post data)
      (Task.onRoom roomId (readRoomData faults roomId) : Task Value _))
    (empty : post .empty)
    (installed : ∀ kernel data, post data → onKernel kernel →
      onKernel (kernel.installRoomData roomId data).2) :
    KeepsAlways onKernel (handleLoadRoom faults roomId : Task Value _) := by
  have installs (data : RoomData Value) (isRead : post data) :
      KeepsAlways onKernel (Program.atomic .locked
        (SyncpondKernel.installRoomData roomId data)) :=
    Program.keeps_atomic fun kernel holds =>
      ⟨installed kernel data isRead holds, trivial⟩
  unfold handleLoadRoom
  have opens : KeepsAlways onKernel
      (Task.openRoomDb faults roomId : Task Value _) :=
    Program.keeps_atomic fun kernel holds => ⟨opened kernel holds, trivial⟩
  apply opens.bind
  rintro (text | ⟨⟩) _
  · exact Program.keeps_pure trivial
  · apply reads.bind
    rintro (_ | _ | data) isRead
    · exact installs .empty empty
    · exact Program.keeps_pure trivial
    · exact installs data (isRead data rfl)

end Tasks

end Syncpond.StorageInvariants
