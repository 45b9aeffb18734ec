import Syncpond.Consistency
import Syncpond.Hub
import Syncpond.Library.Overlay
import Syncpond.Reads

/-!
# What a client builds from its frames

A client applies its frames in order: a deleted frame removes a key, another
one sets it.  What it should end with is the readable content of its room in
its buckets.  The initial sync sets the keys that are readable when it is
collected, and leaves all others alone.
-/

namespace Syncpond.Views

open Syncpond.Protocol
open Syncpond.Serde
open Syncpond.State
open Syncpond.Kernel
open Syncpond.Consistency
open Syncpond.Hub
open Syncpond.Reads
open Syncpond.Library.Maps
open Syncpond.Library.Overlays

variable {Value : Type} [SerdeJson Value]

/-! ## Views -/

/-- The keys that a client knows, with the bytes of their values. -/
abbrev View := BucketId × String → Option ByteArray

/-- What a frame does to its key. -/
def frameUpdate (frame : ProtoDataUpdate) :
    (BucketId × String) × Option ByteArray :=
  ((frame.bucketId, frame.key),
    if frame.deleted then none else some frame.value)

/-- The view after some frames. -/
def View.receive (view : View) (frames : List ProtoDataUpdate) : View :=
  overlay view (frames.map frameUpdate)

/-- The bytes that `ReadFragment` returns for a key. -/
def readable (app : AppState Value) (roomId : RoomId) (bucketId : BucketId)
    (key : String) : Option ByteArray :=
  match readFragment app roomId bucketId key with
  | .fragmentReadResponse data => data
  | _ => none

/-- The readable content of some buckets. -/
def content (app : AppState Value) (roomId : RoomId)
    (allowedBuckets : FinSet BucketId) : View :=
  fun target =>
    if target.1 ∈ allowedBuckets then
      readable app roomId target.1 target.2
    else none

/-- The frames of the initial sync of some buckets. -/
def syncFrames (iteration : Iteration Value) (app : AppState Value)
    (roomId : RoomId) (requestedBuckets : List BucketId) :
    List ProtoDataUpdate :=
  (collectUpdates iteration app roomId requestedBuckets).map
    fun update => updateEvent update.dataUpdate

/-! ## Encoded values -/

/-- The bytes of a value. -/
def encode (value : Value) : ByteArray :=
  (SerdeJson.value.toVec value).toOption.getD .empty

theorem toVec_eq_encode (value : Value) :
    SerdeJson.value.toVec value = .ok (encode value) := by
  obtain ⟨bytes, written, _⟩ :=
    (SerdeJson.value : Library.JsonText.Codec Value).roundTrip value
  rw [encode, written]
  rfl

theorem frameUpdate_updateEvent (bucketId : BucketId) (key : String)
    (value : Value) (bucketCounter : UInt64) :
    frameUpdate (updateEvent ⟨bucketId, key, some value, bucketCounter⟩) =
      ((bucketId, key), some (encode value)) := by
  simp [frameUpdate, updateEvent, encode]

/-! ## The initial sync -/

section Collected

variable {iteration : Iteration Value} {app : AppState Value}
variable {roomId : RoomId} {requestedBuckets : List BucketId}

/-- A collected update is a live fragment of a requested bucket. -/
theorem memoryFragment_of_mem {update : SyncUpdate Value}
    (member : update ∈
      collectUpdates iteration app roomId requestedBuckets) :
    update.bucketId ∈ requestedBuckets ∧
      memoryFragment app roomId update.bucketId update.key =
        some update.value := by
  obtain ⟨requested, room, present, stored, live⟩ :=
    mem_collectUpdates_iff.mp member
  refine ⟨requested, ?_⟩
  simp [memoryFragment, present, stored, persistedValue, live]

/-- Every live fragment of a requested bucket is collected. -/
theorem exists_mem_of_memoryFragment (iteration : Iteration Value)
    {bucketId : BucketId} {key : String}
    {value : Value} (requested : bucketId ∈ requestedBuckets)
    (live : memoryFragment app roomId bucketId key = some value) :
    ∃ version, (⟨bucketId, key, value, version⟩ : SyncUpdate Value) ∈
      collectUpdates iteration app roomId requestedBuckets := by
  obtain ⟨room, present, found⟩ := Option.bind_eq_some_iff.mp live
  obtain ⟨entry, stored, persisted⟩ := Option.bind_eq_some_iff.mp found
  obtain ⟨notNull, rfl⟩ := isNull_of_persistedValue persisted
  exact ⟨entry.keyVersion,
    mem_collectUpdates_iff.mpr ⟨requested, room, present, stored, notNull⟩⟩

variable (iteration app roomId requestedBuckets) in
theorem map_frameUpdate_syncFrames :
    (syncFrames iteration app roomId requestedBuckets).map frameUpdate =
      (collectUpdates iteration app roomId requestedBuckets).map
        fun update =>
          ((update.bucketId, update.key), some (encode update.value)) := by
  rw [syncFrames, List.map_map]
  refine List.map_congr_left fun update _ => ?_
  exact frameUpdate_updateEvent _ _ _ _

variable (iteration app roomId requestedBuckets) in
/-- The initial sync sets the live fragments, and nothing else. -/
theorem receive_syncFrames (view : View) (bucketId : BucketId)
    (key : String) :
    view.receive (syncFrames iteration app roomId requestedBuckets)
        (bucketId, key) =
      if bucketId ∈ requestedBuckets then
        ((memoryFragment app roomId bucketId key).map encode).or
          (view (bucketId, key))
      else view (bucketId, key) := by
  rw [View.receive, map_frameUpdate_syncFrames]
  have unchanged (absent : bucketId ∉ requestedBuckets ∨
      memoryFragment app roomId bucketId key = none) :
      overlay view ((collectUpdates iteration app roomId
        requestedBuckets).map fun update =>
          ((update.bucketId, update.key), some (encode update.value)))
        (bucketId, key) = view (bucketId, key) := by
    refine overlay_of_forall_ne fun update member same => ?_
    obtain ⟨collected, isCollected, rfl⟩ := List.mem_map.mp member
    cases same
    obtain ⟨requested, live⟩ := memoryFragment_of_mem isCollected
    rcases absent with notRequested | notLive
    · exact notRequested requested
    · rw [live] at notLive
      cases notLive
  split
  · next requested =>
    cases live : memoryFragment app roomId bucketId key with
    | none => exact unchanged (Or.inr live)
    | some value =>
        obtain ⟨version, isSent⟩ :=
          exists_mem_of_memoryFragment iteration requested live
        refine overlay_of_forall_eq
          ⟨_, List.mem_map.mpr ⟨_, isSent, rfl⟩, rfl⟩ ?_
        intro update member same
        obtain ⟨collected, isCollected, rfl⟩ := List.mem_map.mp member
        obtain ⟨sameBucket, sameKey⟩ := Prod.mk.inj same
        have collectedLive := (memoryFragment_of_mem isCollected).2
        rw [sameBucket, sameKey, live] at collectedLive
        rw [Option.some.inj collectedLive]
        rfl
  · next notRequested => exact unchanged (Or.inl notRequested)

end Collected

section Room

variable {app : AppState Value} {roomId : RoomId} {room : RoomState Value}
variable (present : app.rooms[roomId]? = some room)
variable (unlocked : room.ioLocked = false) (loaded : room.loaded = true)

include present unlocked loaded

/-- A loaded room shows its live fragments. -/
theorem readable_eq (bucketId : BucketId) (key : String) :
    readable app roomId bucketId key =
      (memoryFragment app roomId bucketId key).map encode := by
  unfold readable
  rw [readFragment_eq_answer present unlocked loaded]
  cases memoryFragment app roomId bucketId key with
  | none => rfl
  | some value => simp [answer, toVec_eq_encode]

end Room

end Syncpond.Views
