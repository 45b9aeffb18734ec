import Mathlib.Data.Option.Basic
import Std.Data.ExtTreeMap
import Std.Data.ExtTreeSet

/-!
# Finite maps and nested finite maps

The extensional tree maps of the standard library serve as finite maps: they
compute, they are equal when their lookups agree, and their traversal is a
list.  This module fixes one spelling of the lookup laws (with `=` on keys
rather than `compare`), and adds the two operations that the standard library
does not have: the nested insertion `entry(outer).or_default().insert(..)`,
and the construction of a map by a traversal of another one.
-/

namespace Syncpond.Library.Maps

/-- Finite maps with a lawful key order. -/
abbrev Map (Key : Type u) (Value : Type v) [Ord Key] :=
  Std.ExtTreeMap Key Value compare

/-- Finite sets with a lawful key order. -/
abbrev FinSet (Key : Type u) [Ord Key] :=
  Std.ExtTreeSet Key compare

section Lookup

variable {Key : Type u} {Value : Type v}
variable [Ord Key] [Std.TransOrd Key] [Std.LawfulEqOrd Key]
variable [DecidableEq Key]

/-- What a map has after an entry was put. -/
theorem lookup_insert
    (map : Map Key Value) (key other : Key) (value : Value) :
    (map.insert key value)[other]? =
      if key = other then some value else map[other]? := by
  simp [Std.ExtTreeMap.getElem?_insert]

/-- What a map has after a key was erased. -/
theorem lookup_erase
    (map : Map Key Value) (key other : Key) :
    (map.erase key)[other]? =
      if key = other then none else map[other]? := by
  simp [Std.ExtTreeMap.getElem?_erase]

theorem insert_insert_same (map : Map Key Value) (key : Key)
    (older newer : Value) :
    (map.insert key older).insert key newer = map.insert key newer := by
  apply Std.ExtTreeMap.ext_getElem?
  intro other
  simp only [lookup_insert]
  split <;> rfl

theorem insert_getD_self {map : Map Key Value} {key : Key}
    (present : key ∈ map) (default : Value) :
    map.insert key (map[key]?.getD default) = map := by
  apply Std.ExtTreeMap.ext_getElem?
  intro other
  rw [lookup_insert]
  split
  · next same =>
    subst same
    obtain ⟨value, found⟩ := Option.isSome_iff_exists.mp
      (Std.ExtTreeMap.mem_iff_isSome_getElem?.mp present)
    rw [found, Option.getD_some]
  · rfl

/-- What a map has after an entry was put unless there was one. -/
theorem lookup_insertIfNew
    (map : Map Key Value) (key other : Key) (value : Value) :
    (map.insertIfNew key value)[other]? =
      if key = other ∧ key ∉ map then some value else map[other]? := by
  simp [Std.ExtTreeMap.getElem?_insertIfNew]

omit [DecidableEq Key] in
theorem mem_map_insert {map : Map Key Value} {key other : Key}
    {value : Value} :
    other ∈ map.insert key value ↔ key = other ∨ other ∈ map := by
  simp [Std.ExtTreeMap.mem_insert]

omit [DecidableEq Key] in
theorem mem_map_insertIfNew {map : Map Key Value} {key other : Key}
    {value : Value} :
    other ∈ map.insertIfNew key value ↔ key = other ∨ other ∈ map := by
  simp [Std.ExtTreeMap.mem_insertIfNew]

omit [DecidableEq Key] in
theorem mem_set_insert {set : FinSet Key} {member other : Key} :
    other ∈ set.insert member ↔ member = other ∨ other ∈ set := by
  simp [Std.ExtTreeSet.mem_insert]

omit [DecidableEq Key] in
theorem set_insert_eq_self {set : FinSet Key} {member : Key}
    (present : member ∈ set) : set.insert member = set := by
  ext other
  rw [mem_set_insert]
  constructor
  · rintro (rfl | older)
    · exact present
    · exact older
  · exact Or.inr

omit [DecidableEq Key] in
theorem nodup_toList (set : FinSet Key) : set.toList.Nodup :=
  Std.ExtTreeSet.distinct_toList.imp Std.ReflCmp.ne_of_cmp_ne_eq

omit [DecidableEq Key] in
/-- No key is listed twice. -/
theorem pairwise_keys_ne (map : Map Key Value) :
    map.toList.Pairwise fun one other => one.1 ≠ other.1 :=
  Std.ExtTreeMap.distinct_keys_toList.imp Std.ReflCmp.ne_of_cmp_ne_eq

omit [DecidableEq Key] in
/-- The keys of a map are listed in order, so that their set determines them. -/
theorem filter_keys_eq {Other : Type w} {left : Map Key Value}
    {right : Map Key Other} {keep : Key → Bool}
    (same : ∀ key, key ∈ left ∧ keep key = true ↔ key ∈ right) :
    left.keys.filter keep = right.keys := by
  have permuted : (left.keys.filter keep).Perm right.keys := by
    refine (List.perm_ext_iff_of_nodup
      (Std.ExtTreeMap.nodup_keys.filter keep) Std.ExtTreeMap.nodup_keys).mpr ?_
    intro key
    rw [List.mem_filter, Std.ExtTreeMap.mem_keys, Std.ExtTreeMap.mem_keys, same]
  refine permuted.eq_of_pairwise ?_ (Std.ExtTreeMap.ordered_keys.filter keep)
    Std.ExtTreeMap.ordered_keys
  intro key other _ _ less greater
  have swapped : compare key other = (compare other key).swap :=
    Std.OrientedCmp.eq_swap
  rw [swapped, greater] at less
  cases less

end Lookup

/-! ## Nested maps -/

section Nested

variable {Outer : Type u} {Inner : Type v} {Value : Type w}
variable [Ord Outer] [Std.TransOrd Outer] [Std.LawfulEqOrd Outer]
variable [Ord Inner] [Std.TransOrd Inner] [Std.LawfulEqOrd Inner]

/-- The value stored under a pair of keys. -/
def getNested (map : Map Outer (Map Inner Value))
    (outer : Outer) (inner : Inner) : Option Value :=
  map[outer]?.bind fun entries => entries[inner]?

/-- `map.entry(outer).or_default().insert(inner, value)`. -/
def insertNested (map : Map Outer (Map Inner Value))
    (outer : Outer) (inner : Inner) (value : Value) :
    Map Outer (Map Inner Value) :=
  map.insert outer ((map[outer]?.getD ∅).insert inner value)

omit [Std.LawfulEqOrd Outer] [Std.LawfulEqOrd Inner] in
@[simp]
theorem getNested_empty (outer : Outer) (inner : Inner) :
    getNested (∅ : Map Outer (Map Inner Value)) outer inner = none := by
  simp [getNested]

omit [Std.LawfulEqOrd Outer] [Std.LawfulEqOrd Inner] in
theorem lookup_getD_empty (map : Map Outer (Map Inner Value))
    (outer : Outer) (inner : Inner) :
    (map[outer]?.getD ∅)[inner]? = getNested map outer inner := by
  unfold getNested
  cases map[outer]? <;> simp

/-- What nested maps have after an entry was put. -/
theorem getNested_insertNested [DecidableEq Outer] [DecidableEq Inner]
    (map : Map Outer (Map Inner Value))
    (outer otherOuter : Outer) (inner otherInner : Inner)
    (value : Value) :
    getNested (insertNested map outer inner value) otherOuter otherInner =
      if outer = otherOuter ∧ inner = otherInner then some value
      else getNested map otherOuter otherInner := by
  simp only [getNested, insertNested, lookup_insert]
  by_cases sameOuter : outer = otherOuter
  · subst sameOuter
    cases present : map[outer]? with
    | none => simp [lookup_insert]
    | some entries => simp [lookup_insert]
  · simp [sameOuter]

omit [Std.LawfulEqOrd Inner] in
theorem lookup_insertNested [DecidableEq Outer]
    (map : Map Outer (Map Inner Value))
    (outer otherOuter : Outer) (inner : Inner) (value : Value) :
    (insertNested map outer inner value)[otherOuter]? =
      if outer = otherOuter then
        some ((map[outer]?.getD ∅).insert inner value)
      else map[otherOuter]? := by
  simp [insertNested, lookup_insert]

end Nested

/-! ## Maps built by a traversal -/

section Gather

variable {Source : Type u} {Target : Type v} {Value : Type w}
variable {Store : Type x} [DecidableEq Target]

/-- One step of a traversal that stores what `select` extracts. -/
def gatherStep
    (put : Store → Target → Value → Store)
    (select : Source → Option (Target × Value))
    (store : Store) (entry : Source) : Store :=
  match select entry with
  | some (target, value) => put store target value
  | none => store

section Laws

variable {Result : Type y}
variable (get : Store → Target → Option Result)
variable {put : Store → Target → Value → Store}
variable {outcome : Value → Option Result}
variable (get_put : ∀ store target value other,
  get (put store target value) other =
    if target = other then outcome value else get store other)
variable (select : Source → Option (Target × Value))

include get_put

/-- A traversal leaves alone the targets that it does not extract. -/
theorem get_foldl_of_absent
    (entries : List Source) (store : Store) (target : Target)
    (absent : ∀ entry ∈ entries, ∀ value,
      select entry ≠ some (target, value)) :
    get (entries.foldl (gatherStep put select) store) target =
      get store target := by
  induction entries generalizing store with
  | nil => rfl
  | cons head tail ih =>
      rw [List.foldl_cons,
        ih _ fun entry member => absent entry (List.mem_cons_of_mem _ member)]
      cases extracted : select head with
      | none => simp [gatherStep, extracted]
      | some pair =>
          have different : pair.1 ≠ target := by
            rintro rfl
            exact absent head List.mem_cons_self pair.2 extracted
          simp [gatherStep, extracted, get_put, different]

/--
A traversal stores the extracted value under its target, when every entry
that extracts to the target extracts that value.
-/
theorem get_foldl_of_exists
    (entries : List Source) (store : Store)
    (target : Target) {value : Value}
    (extracts : ∃ entry ∈ entries, select entry = some (target, value))
    (unique : ∀ entry ∈ entries, ∀ other,
      select entry = some (target, other) → other = value) :
    get (entries.foldl (gatherStep put select) store) target =
      outcome value := by
  induction entries generalizing store with
  | nil => simp at extracts
  | cons head tail ih =>
      have tailUnique : ∀ entry ∈ tail, ∀ other,
          select entry = some (target, other) → other = value :=
        fun entry inTail => unique entry (List.mem_cons_of_mem _ inTail)
      rw [List.foldl_cons]
      by_cases later : ∃ entry ∈ tail, select entry = some (target, value)
      · exact ih _ later tailUnique
      · have absent : ∀ entry ∈ tail, ∀ other,
            select entry ≠ some (target, other) := by
          intro entry inTail other selected
          have same := tailUnique entry inTail other selected
          exact later ⟨entry, inTail, same ▸ selected⟩
        have headExtracts : select head = some (target, value) := by
          obtain ⟨entry, member, selected⟩ := extracts
          rcases List.mem_cons.mp member with rfl | inTail
          · exact selected
          · exact absurd selected (absent entry inTail value)
        rw [get_foldl_of_absent get get_put select tail _ target absent]
        simp [gatherStep, headExtracts, get_put]

/-- What a traversal stores, when one value at most is extracted. -/
theorem get_foldl_of_iff
    (entries : List Source) (store : Store)
    (target : Target) (found : Option Value)
    (extracts : ∀ value,
      (∃ entry ∈ entries, select entry = some (target, value)) ↔
        found = some value) :
    get (entries.foldl (gatherStep put select) store) target =
      found.elim (get store target) outcome := by
  cases found with
  | some value =>
      refine get_foldl_of_exists get get_put select entries store target
        ((extracts value).mpr rfl) ?_
      intro entry member other selected
      exact (Option.some.inj
        ((extracts other).mp ⟨entry, member, selected⟩)).symm
  | none =>
      refine get_foldl_of_absent get get_put select entries store target ?_
      intro entry member value selected
      exact absurd ((extracts value).mp ⟨entry, member, selected⟩) (by simp)

end Laws

end Gather

end Syncpond.Library.Maps
