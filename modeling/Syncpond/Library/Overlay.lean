import Mathlib.Data.List.Basic
import Mathlib.Logic.Function.Basic

/-!
# Views under updates

A view is a partial function from keys to values, and an update sets one key
or removes it.  `overlay` applies updates in order: the last update of a key
decides, and a key without updates keeps its value.
-/

namespace Syncpond.Library.Overlays

universe u v

variable {Key : Type u} {Value : Type v} [DecidableEq Key]

/-- Apply updates to a view, each of which sets or removes a key. -/
def overlay (view : Key → Option Value)
    (updates : List (Key × Option Value)) : Key → Option Value :=
  updates.foldl (fun view update => Function.update view update.1 update.2)
    view

variable {view : Key → Option Value} {updates : List (Key × Option Value)}
variable {key : Key}

theorem overlay_append {later : List (Key × Option Value)} :
    overlay view (updates ++ later) = overlay (overlay view updates) later :=
  List.foldl_append

/-- A key without updates keeps its value. -/
theorem overlay_of_forall_ne (absent : ∀ update ∈ updates, update.1 ≠ key) :
    overlay view updates key = view key := by
  induction updates generalizing view with
  | nil => rfl
  | cons update rest ih =>
      have other : key ≠ update.1 :=
        (absent update List.mem_cons_self).symm
      refine (ih fun later member =>
        absent later (List.mem_cons_of_mem _ member)).trans ?_
      exact Function.update_of_ne other _ _

/-- What a key was before does not matter once it is updated. -/
theorem overlay_congr_of_mem {other : Key → Option Value}
    (updated : ∃ update ∈ updates, update.1 = key) :
    overlay view updates key = overlay other updates key := by
  induction updates generalizing view other with
  | nil => simp at updated
  | cons first rest ih =>
      by_cases again : ∃ later ∈ rest, later.1 = key
      · exact ih again
      · have only : ∀ later ∈ rest, later.1 ≠ key :=
          fun later member same => again ⟨later, member, same⟩
        obtain ⟨update, member, same⟩ := updated
        rcases List.mem_cons.mp member with rfl | isLater
        · refine (overlay_of_forall_ne only).trans
            (Eq.trans ?_ (overlay_of_forall_ne only).symm)
          subst same
          simp
        · exact absurd same (only update isLater)

/-- Updates of a key that all agree decide its value. -/
theorem overlay_of_forall_eq {value : Option Value}
    (updated : ∃ update ∈ updates, update.1 = key)
    (agree : ∀ update ∈ updates, update.1 = key → update.2 = value) :
    overlay view updates key = value := by
  induction updates generalizing view with
  | nil => simp at updated
  | cons update rest ih =>
      have agreeRest : ∀ later ∈ rest, later.1 = key → later.2 = value :=
        fun later member => agree later (List.mem_cons_of_mem _ member)
      by_cases again : ∃ later ∈ rest, later.1 = key
      · exact ih again agreeRest
      · have only : ∀ later ∈ rest, later.1 ≠ key :=
          fun later member same => again ⟨later, member, same⟩
        obtain ⟨first, member, same⟩ := updated
        rcases List.mem_cons.mp member with rfl | isLater
        · refine (overlay_of_forall_ne only).trans ?_
          rw [← agree first List.mem_cons_self same, ← same]
          exact Function.update_self ..
        · exact absurd same (only first isLater)

end Syncpond.Library.Overlays
