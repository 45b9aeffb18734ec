import Syncpond.StateRuns

/-!
# The labels of rooms

`set_room_label` trims a label, refuses it if another room has it, and
`delete_room` drops the labels of the room it deletes.  `get_room_id_by_label`
trims what it looks up.  So the registry resolves a label to the room that it
was last set for, as long as that room has not been deleted.

`Outcome` says once what a call does to the registry; everything about runs
follows from it.
-/

namespace Syncpond.RoomLabels

open Syncpond.Protocol
open Syncpond.Serde
open Syncpond.State
open Syncpond.Persistence
open Syncpond.Kernel
open Syncpond.StateRuns
open Syncpond.Library.Maps
open Syncpond.Library.Programs
open Syncpond.Library.Runs
open Syncpond.Library.Text

variable {Value : Type} [SerdeJson Value]

/-! ## Calls -/

/-- A call on the state of the kernel, or the command `NewRoom`. -/
inductive RegistryCall (Value : Type) where
  | onState (call : AppCall Value)
  | newRoom (faults : Faults) (name : String)

/-- The kernel after a call. -/
def step (kernel : SyncpondKernel Value) :
    RegistryCall Value → SyncpondKernel Value
  | .onState call => { kernel with state := call.run kernel.state }
  | .newRoom faults name => ((handleNewRoom faults name).run kernel).2

/-- `set_room_label` accepts a label for a room. -/
def Accepts (app : AppState Value) (roomId : RoomId) (label : String) : Prop :=
  ∃ after, app.setRoomLabel roomId label = .ok after

/--
In this call, `set_room_label` succeeds for the room, with a label that is the
given one after trimming both.
-/
def Sets (label : String) (roomId : RoomId) (kernel : SyncpondKernel Value) :
    RegistryCall Value → Prop
  | .onState (.setRoomLabel labelled text) =>
      labelled = roomId ∧ trim text = trim label ∧
        Accepts kernel.state labelled text
  | .newRoom _ name =>
      kernel.state.createRoom.2 = roomId ∧ trim name = trim label ∧
        Accepts kernel.state.createRoom.1 kernel.state.createRoom.2 name
  | _ => False

/-- In this call, `delete_room` succeeds for the room. -/
def Deletes (roomId : RoomId) (kernel : SyncpondKernel Value) :
    RegistryCall Value → Prop
  | .onState (.deleteRoom deleted) =>
      deleted = roomId ∧ ∃ after, kernel.state.deleteRoom deleted = .ok after
  | _ => False

/-- Every label is trimmed, neither blank nor too long, and of a room. -/
def Registered (app : AppState Value) : Prop :=
  ∀ label roomId, app.labels[label]? = some roomId →
    trim label = label ∧ label.isEmpty = false ∧ label.utf8ByteSize ≤ 256 ∧
      roomId ∈ app.rooms

/-! ## What a call does -/

/-- The three things that a call can do to the registry. -/
inductive Outcome (kernel : SyncpondKernel Value)
    (call : RegistryCall Value) (after : AppState Value) : Prop
  | set {text : String} {roomId : RoomId}
      (valid : AppState.validText text = true)
      (present : roomId ∈ after.rooms)
      (rooms : ∀ other ∈ kernel.state.rooms, other ∈ after.rooms)
      (own : ∀ holder, kernel.state.labels[trim text]? = some holder →
        holder = roomId)
      (labels : ∀ label, after.labels[label]? =
        if label = trim text then some roomId else kernel.state.labels[label]?)
      (sets : ∀ label other, Sets label other kernel call ↔
        roomId = other ∧ trim text = trim label)
      (deletes : ∀ other, ¬Deletes other kernel call)
  | deleted (roomId : RoomId)
      (rooms : ∀ other ∈ kernel.state.rooms, other ≠ roomId →
        other ∈ after.rooms)
      (labels : ∀ (label : String) (other : RoomId),
        after.labels[label]? = some other ↔
          kernel.state.labels[label]? = some other ∧ other ≠ roomId)
      (sets : ∀ label other, ¬Sets label other kernel call)
      (deletes : ∀ other, Deletes other kernel call ↔ roomId = other)
  | kept
      (rooms : ∀ other ∈ kernel.state.rooms, other ∈ after.rooms)
      (labels : after.labels = kernel.state.labels)
      (sets : ∀ label other, ¬Sets label other kernel call)
      (deletes : ∀ other, ¬Deletes other kernel call)

/-- The registry after a label was accepted. -/
structure Labelled (app after : AppState Value) (roomId : RoomId)
    (text : String) : Prop where
  valid : AppState.validText text = true
  present : roomId ∈ app.rooms
  rooms : after.rooms = app.rooms
  own : ∀ holder, app.labels[trim text]? = some holder → holder = roomId
  labels : ∀ label, after.labels[label]? =
    if label = trim text then some roomId else app.labels[label]?

omit [SerdeJson Value] in
theorem labelled_of_setRoomLabel {app after : AppState Value}
    {roomId : RoomId} {text : String}
    (accepted : app.setRoomLabel roomId text = .ok after) :
    Labelled app after roomId text := by
  obtain ⟨valid, present, ⟨found, rfl⟩ | ⟨free, rfl⟩⟩ :=
    setRoomLabel_eq_ok accepted
  · refine ⟨valid, present, rfl, ?_, ?_⟩
    · intro holder held
      exact Option.some.inj (held.symm.trans found)
    · intro label
      split
      · next same => rw [same, found]
      · rfl
  · refine ⟨valid, present, rfl, ?_, ?_⟩
    · intro holder held
      rw [free] at held
      cases held
    · intro label
      simp only [lookup_insert, eq_comm]

/-- The labels are the same, and no room is lost. -/
structure Keeps (app after : AppState Value) : Prop where
  rooms : ∀ other ∈ app.rooms, other ∈ after.rooms
  labels : after.labels = app.labels

omit [SerdeJson Value] in
theorem Keeps.refl (app : AppState Value) : Keeps app app :=
  ⟨fun _ => id, rfl⟩

omit [SerdeJson Value] in
theorem keeps_withRoom (app : AppState Value) (roomId : RoomId)
    (mutate : RoomState Value → Except StateError (RoomState Value)) :
    Keeps app (orUnchanged app (app.withRoom roomId mutate)) := by
  cases result : app.withRoom roomId mutate with
  | error error => exact .refl app
  | ok changed =>
      obtain ⟨room, after, present, mutated, rfl⟩ := withRoom_ok result
      exact ⟨fun other member => mem_map_insert.mpr (Or.inr member), rfl⟩

omit [SerdeJson Value] in
theorem keeps_createRoom (app : AppState Value) :
    Keeps app app.createRoom.1 :=
  ⟨fun _ member => mem_map_insert.mpr (Or.inr member), rfl⟩

omit [SerdeJson Value] in
theorem keeps_registerExisting (app : AppState Value)
    (existing : List RoomId) :
    Keeps app (registerExisting app existing) := by
  constructor
  · intro other member
    rw [Std.ExtTreeMap.mem_iff_isSome_getElem?] at member ⊢
    rw [lookup_registerExisting]
    split
    · rfl
    · exact member
  · have one : ∀ (state : AppState Value) (roomId : RoomId),
        state.labels = app.labels →
          (registerStub state roomId).labels = app.labels :=
      fun _ _ same => same
    have labels : (existing.foldl registerStub app).labels = app.labels :=
      foldl_invariant (fun state : AppState Value =>
        state.labels = app.labels) one existing rfl
    unfold registerExisting
    grind

/-- Only `set_room_label` and `delete_room` touch the labels. -/
theorem keeps_run {app : AppState Value} {call : AppCall Value}
    (notLabel : ∀ roomId text, call ≠ .setRoomLabel roomId text)
    (notDelete : ∀ roomId, call ≠ .deleteRoom roomId) :
    Keeps app (call.run app) := by
  cases call with
  | createRoom => exact keeps_createRoom app
  | registerExisting existing => exact keeps_registerExisting app existing
  | deleteRoom roomId => exact absurd rfl (notDelete roomId)
  | setRoomLabel roomId text => exact absurd rfl (notLabel roomId text)
  | setBucketLabel roomId bucketId label =>
      simp only [AppCall.run, AppState.setBucketLabel]
      split
      · exact keeps_withRoom app roomId _
      · exact .refl app
  | addMember roomId member =>
      simp only [AppCall.run, AppState.addMember]
      split
      · exact keeps_withRoom app roomId _
      · exact .refl app
  | configureJwt => exact ⟨fun _ => id, rfl⟩
  | loadRoomData roomId | unloadRoom roomId | setBucketFlags roomId
  | setBucketFlagBit roomId | removeMember roomId | onRoom roomId
  | newBucket roomId | deleteBucket roomId | newMember roomId
  | deleteMember roomId => exact keeps_withRoom app roomId _

omit [SerdeJson Value] in
/-- The state after `NewRoom`: a label that is refused is left out. -/
theorem state_handleNewRoom (faults : Faults) (name : String)
    (kernel : SyncpondKernel Value) :
    ((handleNewRoom faults name).run kernel).2.state =
      orUnchanged kernel.state.createRoom.1
        (kernel.state.createRoom.1.setRoomLabel kernel.state.createRoom.2
          name) := by
  simp only [handleNewRoom, Program.run_bind, Program.run_atomic,
    Program.run_modify, Program.run_pure, Task.openRoomDb,
    SyncpondKernel.createRoom, SyncpondKernel.labelRoom]
  split
  · next blank => simp [AppState.setRoomLabel, blank, orUnchanged]
  · cases kernel.state.createRoom.1.setRoomLabel kernel.state.createRoom.2
      name <;> rfl

omit [SerdeJson Value] in
theorem outcome_setRoomLabel (kernel : SyncpondKernel Value)
    (roomId : RoomId) (text : String) :
    Outcome kernel (.onState (.setRoomLabel roomId text))
      (orUnchanged kernel.state (kernel.state.setRoomLabel roomId text)) := by
  cases result : kernel.state.setRoomLabel roomId text with
  | error error =>
      refine .kept (fun _ => id) rfl ?_ fun _ => id
      rintro label other ⟨_, _, after, accepted⟩
      rw [result] at accepted
      cases accepted
  | ok after =>
      have labelled := labelled_of_setRoomLabel result
      refine .set labelled.valid (labelled.rooms ▸ labelled.present)
        (labelled.rooms ▸ fun _ => id) labelled.own labelled.labels ?_
        fun _ => id
      intro label other
      exact ⟨fun sets => ⟨sets.1, sets.2.1⟩,
        fun same => ⟨same.1, same.2, after, result⟩⟩

omit [SerdeJson Value] in
theorem outcome_newRoom (kernel : SyncpondKernel Value) (faults : Faults)
    (name : String) :
    Outcome kernel (.newRoom faults name)
      (orUnchanged kernel.state.createRoom.1
        (kernel.state.createRoom.1.setRoomLabel kernel.state.createRoom.2
          name)) := by
  have created := keeps_createRoom kernel.state
  cases result : kernel.state.createRoom.1.setRoomLabel
      kernel.state.createRoom.2 name with
  | error error =>
      refine .kept created.rooms created.labels ?_ fun _ => id
      rintro label other ⟨_, _, after, accepted⟩
      rw [result] at accepted
      cases accepted
  | ok after =>
      have labelled := labelled_of_setRoomLabel result
      refine .set labelled.valid (labelled.rooms ▸ labelled.present)
        (labelled.rooms ▸ created.rooms) labelled.own labelled.labels ?_
        fun _ => id
      intro label other
      exact ⟨fun sets => ⟨sets.1, sets.2.1⟩,
        fun same => ⟨same.1, same.2, after, result⟩⟩

omit [SerdeJson Value] in
theorem outcome_deleteRoom (kernel : SyncpondKernel Value)
    (roomId : RoomId) :
    Outcome kernel (.onState (.deleteRoom roomId))
      (orUnchanged kernel.state (kernel.state.deleteRoom roomId)) := by
  by_cases present : kernel.state.rooms.contains roomId
  · have deleted : kernel.state.deleteRoom roomId = .ok
        { kernel.state with
          rooms := kernel.state.rooms.erase roomId
          labels := kernel.state.labels.filter fun _ labelled =>
            labelled ≠ roomId } := by
      simp [AppState.deleteRoom, present]
    rw [deleted]
    refine .deleted roomId ?_ ?_ (fun _ _ => id) ?_
    · intro other member different
      simp only [orUnchanged, Std.ExtTreeMap.mem_erase]
      exact ⟨by simpa using different.symm, member⟩
    · intro label other
      simp [orUnchanged, Std.ExtTreeMap.getElem?_filter]
    · intro other
      exact ⟨fun deletes => deletes.1, fun same => ⟨same, _, deleted⟩⟩
  · have refused : kernel.state.deleteRoom roomId = .error .roomNotFound := by
      simp [AppState.deleteRoom, present]
    rw [refused]
    refine .kept (fun _ => id) rfl (fun _ _ => id) ?_
    rintro other ⟨_, after, deleted⟩
    rw [refused] at deleted
    cases deleted

theorem outcome_of_keeps (kernel : SyncpondKernel Value)
    {call : AppCall Value}
    (notLabel : ∀ roomId text, call ≠ .setRoomLabel roomId text)
    (notDelete : ∀ roomId, call ≠ .deleteRoom roomId) :
    Outcome kernel (.onState call) (call.run kernel.state) := by
  have keeps : Keeps kernel.state (call.run kernel.state) :=
    keeps_run notLabel notDelete
  refine .kept keeps.rooms keeps.labels ?_ ?_
  · intro label other sets
    unfold Sets at sets
    split at sets
    · next same =>
      cases same
      exact notLabel _ _ rfl
    · next same => cases same
    · exact sets
  · intro other deletes
    unfold Deletes at deletes
    split at deletes
    · next same =>
      cases same
      exact notDelete _ rfl
    · exact deletes

/-- Every call has one of the three outcomes. -/
theorem outcome_step (kernel : SyncpondKernel Value)
    (call : RegistryCall Value) :
    Outcome kernel call (step kernel call).state := by
  cases call with
  | newRoom faults name =>
      rw [step, state_handleNewRoom]
      exact outcome_newRoom kernel faults name
  | onState call =>
      change Outcome kernel _ (call.run kernel.state)
      by_cases notLabel : ∀ roomId text, call ≠ .setRoomLabel roomId text
      · by_cases notDelete : ∀ roomId, call ≠ .deleteRoom roomId
        · exact outcome_of_keeps kernel notLabel notDelete
        · push Not at notDelete
          obtain ⟨roomId, rfl⟩ := notDelete
          exact outcome_deleteRoom kernel roomId
      · push Not at notLabel
        obtain ⟨roomId, text, rfl⟩ := notLabel
        exact outcome_setRoomLabel kernel roomId text

/-! ## Runs -/

omit [SerdeJson Value] in
theorem getRoomIdByLabel_eq_ok {app : AppState Value} {label : String}
    {roomId : RoomId} :
    app.getRoomIdByLabel label = .ok roomId ↔
      app.labels[trim label]? = some roomId := by
  unfold AppState.getRoomIdByLabel
  cases app.labels[trim label]? with
  | none => simp
  | some held => simp

omit [SerdeJson Value] in
theorem validText_iff {text : String} :
    AppState.validText text = true ↔
      (trim text).isEmpty = false ∧ (trim text).utf8ByteSize ≤ 256 := by
  simp [AppState.validText]

/-- A call keeps the registry well formed. -/
theorem registered_step (kernel : SyncpondKernel Value)
    (call : RegistryCall Value) (registered : Registered kernel.state) :
    Registered (step kernel call).state := by
  intro label roomId found
  cases outcome_step kernel call with
  | set valid present rooms own labels sets deletes =>
      rw [labels] at found
      split at found
      · next same =>
        cases found
        obtain ⟨notBlank, notLong⟩ := validText_iff.mp valid
        rw [same]
        exact ⟨trim_trim _, notBlank, notLong, present⟩
      · obtain ⟨trimmed, notBlank, notLong, member⟩ :=
          registered label roomId found
        exact ⟨trimmed, notBlank, notLong, rooms roomId member⟩
  | deleted deleted rooms labels sets deletes =>
      obtain ⟨before, different⟩ := (labels label roomId).mp found
      obtain ⟨trimmed, notBlank, notLong, member⟩ :=
        registered label roomId before
      exact ⟨trimmed, notBlank, notLong, rooms roomId member different⟩
  | kept rooms labels sets deletes =>
      rw [labels] at found
      obtain ⟨trimmed, notBlank, notLong, member⟩ :=
        registered label roomId found
      exact ⟨trimmed, notBlank, notLong, rooms roomId member⟩

/--
After a call a label resolves to a room if it was set for the room in that
call, or did before and the room was not deleted.
-/
theorem resolves_step (label : String) (roomId : RoomId)
    (kernel : SyncpondKernel Value) (call : RegistryCall Value) :
    (step kernel call).state.labels[trim label]? = some roomId ↔
      Sets label roomId kernel call ∨
        (kernel.state.labels[trim label]? = some roomId ∧
          ¬Deletes roomId kernel call) := by
  cases outcome_step kernel call with
  | @set text labelled valid present rooms own labels sets deletes =>
      rw [labels, sets]
      by_cases same : trim label = trim text
      · rw [if_pos same, same]
        constructor
        · intro equal
          exact Or.inl ⟨Option.some.inj equal, rfl⟩
        · rintro (⟨rfl, _⟩ | ⟨held, _⟩)
          · rfl
          · rw [own roomId held]
      · rw [if_neg same]
        constructor
        · intro held
          exact Or.inr ⟨held, deletes roomId⟩
        · rintro (⟨_, equal⟩ | ⟨held, _⟩)
          · exact absurd equal.symm same
          · exact held
  | deleted deleted rooms labels sets deletes =>
      rw [labels, deletes]
      constructor
      · rintro ⟨held, different⟩
        exact Or.inr ⟨held, fun same => different same.symm⟩
      · rintro (set | ⟨held, different⟩)
        · exact absurd set (sets label roomId)
        · exact ⟨held, fun same => different same.symm⟩
  | kept rooms labels sets deletes =>
      rw [labels]
      constructor
      · intro held
        exact Or.inr ⟨held, deletes roomId⟩
      · rintro (set | ⟨held, _⟩)
        · exact absurd set (sets label roomId)
        · exact held

/-- Only a label that is set or a room that is deleted changes the registry. -/
theorem changed_step {kernel : SyncpondKernel Value}
    {call : RegistryCall Value} {label : String}
    (changed : (step kernel call).state.labels[label]? ≠
      kernel.state.labels[label]?) :
    ∃ roomId, Sets label roomId kernel call ∨
      (kernel.state.labels[label]? = some roomId ∧
        Deletes roomId kernel call) := by
  cases outcome_step kernel call with
  | @set text roomId valid present rooms own labels sets deletes =>
      rw [labels] at changed
      split at changed
      · next same =>
        refine ⟨roomId, Or.inl ((sets label roomId).mpr ⟨rfl, ?_⟩)⟩
        rw [same, trim_trim]
      · exact absurd rfl changed
  | deleted deleted rooms labels sets deletes =>
      refine ⟨deleted, Or.inr ⟨?_, (deletes deleted).mpr rfl⟩⟩
      by_contra notHeld
      apply changed
      ext roomId
      rw [labels]
      constructor
      · exact And.left
      · rintro held
        exact ⟨held, fun same => notHeld (same ▸ held)⟩
  | kept rooms labels sets deletes =>
      rw [labels] at changed
      exact absurd rfl changed

/-- A label stays with its room until the room is deleted. -/
theorem held_step {kernel : SyncpondKernel Value}
    {call : RegistryCall Value} {label : String} {roomId : RoomId}
    (held : kernel.state.labels[label]? = some roomId)
    (notDeleted : ¬Deletes roomId kernel call) :
    (step kernel call).state.labels[label]? = some roomId := by
  cases outcome_step kernel call with
  | set valid present rooms own labels sets deletes =>
      rw [labels]
      split
      · next same => rw [own roomId (same ▸ held)]
      · exact held
  | deleted deleted rooms labels sets deletes =>
      refine (labels label roomId).mpr ⟨held, fun same => notDeleted ?_⟩
      exact (deletes roomId).mpr same.symm
  | kept rooms labels sets deletes => rw [labels, held]

/--
The registry after any calls: every entry is a trimmed label that is neither
blank nor too long, and of a registered room; a label resolves to a room
exactly if it was set for the room and the room was not deleted since; an entry
changes only by a label that is set or a room that is deleted; and a label
stays with its room as long as the room is not deleted.
-/
theorem labels_resolve (start : SyncpondKernel Value)
    (unlabelled : start.state.labels = ∅)
    (calls : List (RegistryCall Value)) :
    let kernel := calls.foldl step start
    Registered kernel.state ∧
      (∀ label roomId, kernel.state.getRoomIdByLabel label = .ok roomId ↔
        Since step (Sets label roomId) (Deletes roomId) start calls) ∧
      (∀ (call : RegistryCall Value) (label : String),
        (step kernel call).state.labels[label]? ≠
          kernel.state.labels[label]? →
            ∃ roomId, Sets label roomId kernel call ∨
              (kernel.state.labels[label]? = some roomId ∧
                Deletes roomId kernel call)) ∧
      ∀ (label : String) (roomId : RoomId) (more : List (RegistryCall Value)),
        kernel.state.labels[label]? = some roomId →
          Along step (fun kernel call => ¬Deletes roomId kernel call) kernel
            more →
          (more.foldl step kernel).state.labels[label]? = some roomId := by
  refine ⟨?_, ?_, fun _ _ => changed_step, ?_⟩
  · refine foldl_invariant
      (fun kernel : SyncpondKernel Value => Registered kernel.state)
      registered_step calls ?_
    intro label roomId found
    simp [unlabelled] at found
  · intro label roomId
    rw [getRoomIdByLabel_eq_ok]
    refine holds_iff_since
      (fun kernel : SyncpondKernel Value =>
        kernel.state.labels[trim label]? = some roomId)
      (resolves_step label roomId) ?_ calls
    simp [unlabelled]
  · intro label roomId more held notDeleted
    exact notDeleted.invariant
      (fun kernel => kernel.state.labels[label]? = some roomId)
      (fun _ _ kept held => held_step held kept) held

/-- A room has a label, another one is refused it until the first is gone. -/
def handedOn : List (RegistryCall Json) :=
  [.newRoom .none " lobby ",
    .newRoom .none "lobby",
    .onState (.setRoomLabel 2 "lobby\n"),
    .onState (.deleteRoom 1),
    .onState (.setRoomLabel 2 "lobby")]

theorem labels_resolve_handedOn :
    Since step (Sets "lobby" 1) (Deletes 1) (boot .none ∅)
        (handedOn.take 3) ∧
      Since step (Sets "lobby\t" 2) (Deletes 2) (boot .none ∅) handedOn ∧
      (((handedOn.drop 1).take 2).foldl step
        ((handedOn.take 1).foldl step (boot .none ∅))).state.labels["lobby"]? =
          some 1 := by
  have unlabelled : (boot .none ∅ : SyncpondKernel Json).state.labels = ∅ :=
    rfl
  have created := labels_resolve (boot .none ∅) unlabelled (handedOn.take 1)
  have held := labels_resolve (boot .none ∅) unlabelled (handedOn.take 3)
  have last := labels_resolve (boot .none ∅) unlabelled handedOn
  refine ⟨(held.2.1 "lobby" 1).mp (by decide +kernel),
    (last.2.1 "lobby\t" 2).mp (by decide +kernel), ?_⟩
  exact created.2.2.2 "lobby" 1 _ (by decide +kernel) ⟨id, id, trivial⟩

end Syncpond.RoomLabels
