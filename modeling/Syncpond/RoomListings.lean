import Syncpond.LifetimeInvariants
import Syncpond.RoomLabels
import Syncpond.UpstreamLinearization

/-!
# The listing of rooms

`list_rooms` gives a client one text for each room, the id and the label with a
colon between them.  A label can contain colons itself, and labels are set and
dropped by sections of commands in progress.  `Listing` says that the texts can
be taken apart again, and that what they say of labels agrees with the registry.

It holds in every process that a run of processes leads to, because whatever
happens to a process keeps the registry well formed.
-/

namespace Syncpond.RoomListings

open Syncpond.Protocol
open Syncpond.Serde
open Syncpond.State
open Syncpond.Persistence
open Syncpond.Kernel
open Syncpond.LifetimeInvariants
open Syncpond.Lifetimes
open Syncpond.RoomLabels
open Syncpond.StateRuns
open Syncpond.StorageInvariants
open Syncpond.Upstream
open Syncpond.UpstreamReplies (plain)
open Syncpond.Library.Maps
open Syncpond.Library.Programs
open Syncpond.Library.Runs
open Syncpond.Library.Text

variable {Value : Type}

/-! ## The registry in every run -/

section Registry

variable {kernel : SyncpondKernel Value}

/-- The registry of a kernel is well formed. -/
def OnRegistry (kernel : SyncpondKernel Value) : Prop :=
  Registered kernel.state

theorem registered_of_keeps {app after : AppState Value}
    (registered : Registered app) (keeps : RoomLabels.Keeps app after) :
    Registered after := by
  intro label roomId found
  rw [keeps.labels] at found
  obtain ⟨trimmed, notBlank, notLong, member⟩ := registered label roomId found
  exact ⟨trimmed, notBlank, notLong, keeps.rooms roomId member⟩

namespace OnRegistry

theorem congr (kernel after : SyncpondKernel Value)
    (state : after.state = kernel.state) (onRegistry : OnRegistry kernel) :
    OnRegistry after := by
  unfold OnRegistry
  rw [state]
  exact onRegistry

theorem createRoom (onRegistry : OnRegistry kernel) :
    OnRegistry kernel.createRoom.2 :=
  registered_of_keeps onRegistry (keeps_createRoom kernel.state)

theorem mutateRoom (onRegistry : OnRegistry kernel) (roomId : RoomId)
    (effect : RoomState Value → RoomState Value) :
    OnRegistry (kernel.mutateRoom roomId effect).2 := by
  unfold SyncpondKernel.mutateRoom
  split
  · exact onRegistry
  · split
    · exact onRegistry
    · refine registered_of_keeps onRegistry ⟨?_, rfl⟩
      exact fun other member => mem_map_insert.mpr (Or.inr member)

/-- What succeeds on a room leaves the labels and the other rooms alone. -/
theorem withRoom (onRegistry : OnRegistry kernel) {roomId : RoomId}
    {mutate : RoomState Value → Except StateError (RoomState Value)}
    {app : AppState Value} (succeeds : kernel.state.withRoom roomId mutate =
      .ok app) : Registered app := by
  have keeps := keeps_withRoom kernel.state roomId mutate
  rw [succeeds] at keeps
  exact registered_of_keeps onRegistry keeps

theorem commitWrite (onRegistry : OnRegistry kernel) (roomId : RoomId)
    (bucketId : BucketId) (key : String) (parsed : Value) :
    OnRegistry (kernel.commitWrite roomId bucketId key parsed).2 := by
  unfold SyncpondKernel.commitWrite
  split
  · next app written => exact onRegistry.withRoom written
  · exact onRegistry

theorem unloadRoom (onRegistry : OnRegistry kernel) (roomId : RoomId) :
    OnRegistry (kernel.unloadRoom roomId).2 := by
  unfold SyncpondKernel.unloadRoom
  split
  · next app unloaded => exact onRegistry.withRoom unloaded
  · exact onRegistry

theorem installRoomData (onRegistry : OnRegistry kernel) (roomId : RoomId)
    (data : RoomData Value) :
    OnRegistry (kernel.installRoomData roomId data).2 := by
  unfold SyncpondKernel.installRoomData
  split
  · next app installed => exact onRegistry.withRoom installed
  · exact onRegistry

/-- Startup registers rooms without labels. -/
theorem boot (faults : Faults) (dirs : Map String Db) :
    OnRegistry (boot faults dirs : SyncpondKernel Value) := by
  have start : Registered (.new : AppState Value) := by
    intro label roomId found
    simp [AppState.new] at found
  exact registered_of_keeps start (keeps_registerExisting _ _)

variable [SerdeJson Value]

theorem labelRoom (onRegistry : OnRegistry kernel) (roomId : RoomId)
    (name : String) : OnRegistry (kernel.labelRoom roomId name) := by
  have registered := registered_step kernel
    (.onState (.setRoomLabel roomId name)) onRegistry
  unfold SyncpondKernel.labelRoom
  split
  · exact onRegistry
  · split
    · next app accepted =>
      show Registered app
      simpa [RoomLabels.step, AppCall.run, accepted, orUnchanged]
        using registered
    · exact onRegistry

theorem deleteRoom (onRegistry : OnRegistry kernel) (roomId : RoomId) :
    OnRegistry (kernel.deleteRoom roomId).2 := by
  have registered := registered_step kernel
    (.onState (.deleteRoom roomId)) onRegistry
  unfold SyncpondKernel.deleteRoom
  split
  · next app deleted =>
    show Registered app
    simpa [RoomLabels.step, AppCall.run, deleted, orUnchanged]
      using registered
  · exact onRegistry

end OnRegistry

variable [SerdeJson Value]

/-- Every section of a command keeps the registry well formed. -/
theorem keepsRegistry_handleCommand (faults : Faults) (command : Commands) :
    KeepsAlways OnRegistry
      (handleCommand faults command : Task Value CommandResponse) := by
  have changes (roomId : RoomId) (effect : RoomState Value → RoomState Value)
      (operation : Storage Unit) (response : CommandResponse) :
      KeepsAlways OnRegistry
        (mutateAndPersist faults roomId effect operation response) :=
    keeps_mutateAndPersist
      (fun _ onRegistry => onRegistry.mutateRoom roomId effect)
      (keeps_persist_onState OnRegistry.congr faults roomId operation) response
  cases command with
  | newRoom name =>
      apply keeps_newRoom
      · exact fun _ onRegistry => onRegistry.createRoom
      · exact fun _ _ onRegistry => OnRegistry.congr _ _ rfl onRegistry
      · exact fun _ roomId onRegistry => onRegistry.labelRoom roomId name
  | newBucket roomId bucketId label => exact changes roomId _ _ _
  | deleteBucket roomId bucketId => exact changes roomId _ _ _
  | newMember roomId member => exact changes roomId _ _ _
  | deleteMember roomId member => exact changes roomId _ _ _
  | writeFragment roomId bucketId key data =>
      apply keeps_writeFragment
      · exact fun _ onRegistry => onRegistry.commitWrite roomId bucketId key _
      · exact keeps_persist_onState OnRegistry.congr faults roomId _
      · exact fun _ _ _ onRegistry => OnRegistry.congr _ _ rfl onRegistry
  | readFragment roomId bucketId key =>
      exact Program.keeps_read fun _ _ => trivial
  | loadRoom roomId =>
      exact keeps_loadRoom_onState OnRegistry.congr faults roomId
        fun _ data onRegistry => onRegistry.installRoomData roomId data
  | unloadRoom roomId =>
      exact Program.keeps_atomic fun _ onRegistry =>
        ⟨onRegistry.unloadRoom roomId, trivial⟩

/-- Whatever happens to a process keeps the registry well formed. -/
theorem lasting_onRegistry :
    Lasting (OnRegistry : SyncpondKernel Value → Prop) where
  command := keepsRegistry_handleCommand
  deleteRoom _ roomId onRegistry := onRegistry.deleteRoom roomId
  channel _ _ onRegistry := OnRegistry.congr _ _ rfl onRegistry
  restart _ faults _ := OnRegistry.boot faults _
  start := OnRegistry.boot .none ∅

end Registry

/-! ## Texts and what they say -/

/-- A text of the listing, taken apart at its first colon. -/
def readLine (line : String) : Option (RoomId × String) := do
  let (id, label) ← splitColon line.toList
  let roomId ← parseU64 id
  some (roomId, String.ofList label)

/-- What a listing says about the rooms of a state. -/
structure Listing (app : AppState Value) (lines : List String)
    (entries : List (RoomId × String)) : Prop where
  read : lines.map readLine = entries.map some
  ascending : (entries.map Prod.fst).Pairwise (· < ·)
  rooms : ∀ roomId, roomId ∈ entries.map Prod.fst ↔ roomId ∈ app.rooms
  resolved : ∀ roomId label, (roomId, label) ∈ entries →
    label.isEmpty = false → app.getRoomIdByLabel label = .ok roomId
  labelled : ∀ roomId label, app.getRoomIdByLabel label = .ok roomId →
    ∃ listed, (roomId, listed) ∈ entries ∧ listed.isEmpty = false

theorem readLine_roomLine (order : LabelOrder) (app : AppState Value)
    (roomId : RoomId) :
    readLine (roomLine order app roomId) =
      some (roomId, (getRoomLabel order app roomId).getD "") := by
  have chars : (roomLine order app roomId).toList =
      decimalChars roomId ++
        ':' :: ((getRoomLabel order app roomId).getD "").toList := by
    simp [roomLine, decimal]
  rw [readLine, chars, splitColon_append _ (colon_not_mem_decimalChars roomId)]
  simp [parseU64_decimalChars]

/-- The label that is listed for a room is one of its labels. -/
theorem labels_of_getRoomLabel {order : LabelOrder} {app : AppState Value}
    {roomId : RoomId} {label : String}
    (found : getRoomLabel order app roomId = some label) :
    app.labels[label]? = some roomId := by
  obtain ⟨entry, isFound, rfl⟩ := Option.map_eq_some_iff.mp found
  have isRoom : entry.2 = roomId := by simpa using List.find?_some isFound
  have member : entry ∈ app.labels.toList :=
    (order.complete app.labels).mem_iff.mp (List.mem_of_find?_eq_some isFound)
  rw [← isRoom]
  exact Std.ExtTreeMap.mem_toList_iff_getElem?_eq_some.mp member

/-- A room is listed without a label only if it has none. -/
theorem labels_of_getRoomLabel_none {order : LabelOrder} {app : AppState Value}
    {roomId : RoomId} (none : getRoomLabel order app roomId = none)
    (label : String) : app.labels[label]? ≠ some roomId := by
  intro found
  have member : (label, roomId) ∈ order.list app.labels :=
    (order.complete app.labels).mem_iff.mpr
      (Std.ExtTreeMap.mem_toList_iff_getElem?_eq_some.mpr found)
  have absent := Option.map_eq_none_iff.mp none
  simpa using List.find?_eq_none.mp absent _ member

/-- The rooms of a state with the labels that are listed for them. -/
def listed (order : LabelOrder) (app : AppState Value) :
    List (RoomId × String) :=
  app.listRooms.map fun roomId =>
    (roomId, (getRoomLabel order app roomId).getD "")

theorem mem_listed {order : LabelOrder} {app : AppState Value}
    {roomId : RoomId} {label : String} :
    (roomId, label) ∈ listed order app ↔
      roomId ∈ app.rooms ∧ (getRoomLabel order app roomId).getD "" = label := by
  unfold listed AppState.listRooms
  rw [List.mem_map]
  constructor
  · rintro ⟨other, member, same⟩
    cases same
    exact ⟨Std.ExtTreeMap.mem_keys.mp member, rfl⟩
  · rintro ⟨member, rfl⟩
    exact ⟨roomId, Std.ExtTreeMap.mem_keys.mpr member, rfl⟩

theorem fst_listed (order : LabelOrder) (app : AppState Value) :
    (listed order app).map Prod.fst = app.rooms.keys := by
  simp [listed, AppState.listRooms, Function.comp_def]

/-- The lines are read as what they were made of. -/
theorem read_listed (order : LabelOrder) (app : AppState Value) :
    (app.listRooms.map (roomLine order app)).map readLine =
      (listed order app).map some := by
  rw [listed, List.map_map, List.map_map]
  exact List.map_congr_left fun roomId _ => readLine_roomLine order app roomId

theorem listing_of_registered {app : AppState Value}
    (registered : Registered app) (order : LabelOrder) :
    Listing app (app.listRooms.map (roomLine order app))
      (listed order app) where
  read := read_listed order app
  ascending := by
    rw [fst_listed]
    exact Std.ExtTreeMap.ordered_keys.imp fun lt =>
      Std.compare_eq_lt.mp lt
  rooms roomId := by
    rw [fst_listed, Std.ExtTreeMap.mem_keys]
  resolved roomId label member notBlank := by
    obtain ⟨_, isLabel⟩ := mem_listed.mp member
    cases found : getRoomLabel order app roomId with
    | none =>
        rw [found] at isLabel
        subst isLabel
        cases notBlank
    | some text =>
        rw [found] at isLabel
        cases isLabel
        have held := labels_of_getRoomLabel found
        have trimmed : trim text = text := (registered text roomId held).1
        exact getRoomIdByLabel_eq_ok.mpr (trimmed.symm ▸ held)
  labelled roomId label resolves := by
    have held := getRoomIdByLabel_eq_ok.mp resolves
    obtain ⟨_, _, _, present⟩ := registered _ roomId held
    cases found : getRoomLabel order app roomId with
    | none => exact absurd held (labels_of_getRoomLabel_none found _)
    | some text =>
        refine ⟨text, mem_listed.mpr ⟨present, by rw [found]; rfl⟩, ?_⟩
        exact (registered text roomId (labels_of_getRoomLabel found)).2.1

variable [SerdeJson Value]

/--
In every run of processes, whatever commands are in progress, the texts that
`list_rooms` returns can be taken apart at the first colon: they are about the
rooms of the server, in ascending order.  A label that is listed resolves to
its room, and every room that has a label is listed with one.
-/
theorem rooms_are_listed {life : Lifetime Value} (reached : Reached life)
    (environment : Environment) :
    ∃ entries, Listing life.kernel.state
      ((KernelCommandHandler.listRooms environment).run life.kernel).1
      entries :=
  ⟨_, listing_of_registered (lasting_onRegistry.of_reached reached)
    environment.labels⟩

/-! ### Labels with colons -/

/-- Rooms are created, one without a name, and one is deleted. -/
def colons : List LifetimeEvent :=
  .command .none (.newRoom " a:b: ") :: List.replicate 3 (.advance 0) ++
  .command .none (.newRoom "") :: List.replicate 3 (.advance 1) ++
  .command .none (.newRoom "c") :: List.replicate 3 (.advance 2) ++
  [.deleteRoom 3]

theorem rooms_are_listed_colons :
    ∃ (life : Lifetime Json) (entries : List (RoomId × String)),
      ((KernelCommandHandler.listRooms plain).run life.kernel).1 =
          ["1:a:b:", "2:"] ∧
        Listing life.kernel.state ["1:a:b:", "2:"] entries := by
  have ran : (colons.foldlM Lifetime.step
      (.start : Lifetime Json)).map (fun life =>
        ((KernelCommandHandler.listRooms plain).run life.kernel).1) =
      some ["1:a:b:", "2:"] := by
    decide +kernel
  obtain ⟨life, ran, lines⟩ := Option.map_eq_some_iff.mp ran
  obtain ⟨entries, listing⟩ :=
    rooms_are_listed (follows_of_foldlM ran) plain
  rw [lines] at listing
  exact ⟨life, entries, lines, listing⟩

end Syncpond.RoomListings
