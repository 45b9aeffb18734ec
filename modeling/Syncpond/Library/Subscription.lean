import Syncpond.Library.Overlay

/-!
# Subscribers of a map

A map changes while a subscriber follows it: the subscriber is sent every
change from some moment on, and the entries of a snapshot that was taken later.
`Informed` is what keeps its view right while updates are on their way: nothing
that it was sent is stale, and what it misses is still owed to it.
-/

namespace Syncpond.Library.Subscriptions

open Syncpond.Library.Overlays

universe u v

variable {Key : Type u} {Value : Type v} [DecidableEq Key]

/-- The view of one that knew nothing and received some updates. -/
def known (updates : List (Key × Option Value)) : Key → Option Value :=
  overlay (fun _ => none) updates

/-- What a view knows of a map is what the map holds. -/
def Agrees (view map : Key → Option Value) : Prop :=
  ∀ key, view key = none ∨ view key = map key

/--
A subscriber was sent some updates of a map, and is owed others.  Its snapshot
is either ahead, or it is complete together with the rest.
-/
structure Informed (map : Key → Option Value)
    (sent owed : List (Key × Option Value)) (ahead : Prop) : Prop where
  agrees : Agrees (known sent) map
  owes : ∀ update ∈ owed, map update.1 = update.2
  complete : ahead ∨ ∀ key, known sent key = map key ∨
    ∃ update ∈ owed, update.1 = key

variable {map : Key → Option Value} {sent owed : List (Key × Option Value)}
variable {ahead : Prop}

/-! ## Views that agree -/

/-- The last update decides its key. -/
theorem known_snoc (update : Key × Option Value) :
    known (sent ++ [update]) =
      Function.update (known sent) update.1 update.2 := by
  rw [known, overlay_append]
  rfl

theorem agrees_nil :
    Agrees (known ([] : List (Key × Option Value))) map :=
  fun _ => Or.inl rfl

/-- A view that is told of a change agrees with the changed map. -/
theorem Agrees.update {view : Key → Option Value} (agrees : Agrees view map)
    (key : Key) (value : Option Value) :
    Agrees (Function.update view key value)
      (Function.update map key value) := by
  intro other
  by_cases same : other = key
  · subst same
    exact Or.inr (by simp)
  · simpa [same] using agrees other

omit [DecidableEq Key] in
/-- Only what the view knows matters. -/
theorem Agrees.change {view other : Key → Option Value}
    (agrees : Agrees view map)
    (changed : ∀ key, other key = map key ∨ view key = none) :
    Agrees view other := by
  intro key
  rcases changed key with same | unknown
  · exact same ▸ agrees key
  · exact Or.inl unknown

/-- A key without updates is not known. -/
theorem known_of_forall_ne {key : Key}
    (absent : ∀ update ∈ sent, update.1 ≠ key) : known sent key = none :=
  overlay_of_forall_ne absent

/-- The first update does not matter to those that come after it. -/
theorem Agrees.tail {first : Key × Option Value}
    (agrees : Agrees (known (first :: sent)) map) :
    Agrees (known sent) map := by
  intro key
  by_cases again : ∃ update ∈ sent, update.1 = key
  · have same : known (first :: sent) key = known sent key :=
      overlay_congr_of_mem again
    exact same ▸ agrees key
  · refine Or.inl (overlay_of_forall_ne fun update member same => ?_)
    exact again ⟨update, member, same⟩

/-! ## What happens to a subscriber -/

namespace Informed

/-- A subscriber whose snapshot is ahead. -/
theorem joining (isAhead : ahead) (agrees : Agrees (known sent) map) :
    Informed map sent [] ahead where
  agrees := agrees
  owes := by simp
  complete := Or.inl isAhead

/-- A change that is sent, and that what is owed does not take back. -/
theorem update (informed : Informed map sent owed ahead) (key : Key)
    (value : Option Value)
    (current : ∀ update ∈ owed, update.1 = key → update.2 = value) :
    Informed (Function.update map key value) (sent ++ [(key, value)]) owed
      ahead where
  agrees := known_snoc (key, value) ▸ informed.agrees.update key value
  owes := by
    intro update member
    by_cases same : update.1 = key
    · rw [same, current update member same, Function.update_self]
    · rw [Function.update_of_ne same]
      exact informed.owes update member
  complete := by
    refine informed.complete.imp id fun complete other => ?_
    rw [known_snoc]
    by_cases same : other = key
    · subst same
      exact Or.inl (by simp)
    · simpa [same] using complete other

/--
A change that is not sent, of keys that the subscriber was not told of; as long
as its snapshot is ahead, it will learn what they hold.
-/
theorem change {other : Key → Option Value}
    (informed : Informed map sent owed ahead)
    (changed : ∀ key, other key = map key ∨
      known sent key = none ∧ (∀ update ∈ owed, update.1 ≠ key) ∧
        (ahead ∨ other key = none)) :
    Informed other sent owed ahead where
  agrees := informed.agrees.change fun key =>
    (changed key).imp_right And.left
  owes := by
    intro update member
    rcases changed update.1 with same | ⟨_, notOwed, _⟩
    · exact same.trans (informed.owes update member)
    · exact absurd rfl (notOwed update member)
  complete := by
    by_cases isAhead : ahead
    · exact Or.inl isAhead
    · have complete := informed.complete.resolve_left isAhead
      refine Or.inr fun key => ?_
      rcases changed key with same | ⟨unknown, _, isNone⟩
      · exact same ▸ complete key
      · exact Or.inl (unknown.trans (isNone.resolve_left isAhead).symm)

/-- The snapshot is taken, and is owed as a whole. -/
theorem snapshot {snapshot : List (Key × Option Value)}
    (informed : Informed map sent owed ahead)
    (current : ∀ update ∈ snapshot, map update.1 = update.2)
    (whole : ∀ key, map key = none ∨ ∃ update ∈ snapshot, update.1 = key)
    (later : Prop) : Informed map sent snapshot later where
  agrees := informed.agrees
  owes := current
  complete := by
    refine Or.inr fun key => (whole key).imp_left fun absent => ?_
    rcases informed.agrees key with unknown | same
    · rw [unknown, absent]
    · exact same

/-- The next update that is owed is sent. -/
theorem send {first : Key × Option Value} {rest : List (Key × Option Value)}
    (informed : Informed map sent (first :: rest) ahead) :
    Informed map (sent ++ [first]) rest ahead where
  agrees := by
    have current := informed.owes first List.mem_cons_self
    have updated := informed.agrees.update first.1 first.2
    rw [← current, Function.update_eq_self, current] at updated
    exact known_snoc first ▸ updated
  owes := fun update member =>
    informed.owes update (List.mem_cons_of_mem _ member)
  complete := by
    refine informed.complete.imp id fun complete key => ?_
    rw [known_snoc]
    by_cases same : key = first.1
    · subst same
      refine Or.inl ?_
      rw [Function.update_self, informed.owes first List.mem_cons_self]
    · rw [Function.update_of_ne same]
      refine (complete key).imp id ?_
      rintro ⟨update, member, rfl⟩
      rcases List.mem_cons.mp member with rfl | later
      · exact absurd rfl same
      · exact ⟨update, later, rfl⟩

/-- Whether the snapshot is ahead may be put in another way. -/
theorem imp {later : Prop} (informed : Informed map sent owed ahead)
    (implies : ahead → later) : Informed map sent owed later :=
  { informed with complete := informed.complete.imp_left implies }

/-- A subscriber that is owed nothing knows the map. -/
theorem settled (informed : Informed map sent [] ahead)
    (taken : ¬ahead) : known sent = map := by
  funext key
  rcases informed.complete with isAhead | complete
  · exact absurd isAhead taken
  · simpa using complete key

end Informed

end Syncpond.Library.Subscriptions
