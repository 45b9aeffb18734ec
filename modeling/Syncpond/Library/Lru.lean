import Mathlib.Data.List.Basic

/-!
# A least-recently-used cache

The entries of the cache are listed from the most recently used one.  A lookup
moves the entry to the front, and an insertion into a full cache drops the
last entry.  Eviction is therefore part of the model: the laws below say that
a lookup can only find what was put last under the key.
-/

namespace Syncpond.Library.Lru

/-- A cache of bounded capacity, most recently used entry first. -/
structure Cache (Key : Type u) (Value : Type v) where
  capacity : Nat
  entries : List (Key × Value)

namespace Cache

variable {Key : Type u} {Value : Type v} [DecidableEq Key]

/-- The empty cache. -/
def empty (capacity : Nat) : Cache Key Value :=
  ⟨capacity, []⟩

/-- The value under a key, without marking it as used. -/
def peek (cache : Cache Key Value) (key : Key) : Option Value :=
  (cache.entries.find? fun entry => entry.1 = key).map Prod.snd

/-- The entries under other keys. -/
def others (cache : Cache Key Value) (key : Key) : List (Key × Value) :=
  cache.entries.filter fun entry => entry.1 ≠ key

/-- `LruCache::get`: a found entry becomes the most recently used one. -/
def get (cache : Cache Key Value) (key : Key) :
    Cache Key Value × Option Value :=
  match cache.peek key with
  | some value =>
      ({ cache with entries := (key, value) :: cache.others key }, some value)
  | none => (cache, none)

/-- `LruCache::put`: the least recently used entry leaves a full cache. -/
def put (cache : Cache Key Value) (key : Key) (value : Value) :
    Cache Key Value :=
  { cache with
    entries := ((key, value) :: cache.others key).take cache.capacity }

@[simp]
theorem peek_empty (capacity : Nat) (key : Key) :
    (empty capacity : Cache Key Value).peek key = none :=
  rfl

/-- Setting an entry aside keeps the others. -/
theorem find?_others_of_ne
    (cache : Cache Key Value) {key other : Key}
    (different : other ≠ key) :
    (cache.others key).find? (fun entry => entry.1 = other) =
      cache.entries.find? fun entry => entry.1 = other := by
  rw [others, List.find?_filter]
  congr 1
  funext entry
  by_cases equal : entry.1 = other
  · simp [equal, different]
  · simp [equal]

/-- A cache finds what it has. -/
@[simp]
theorem get_snd (cache : Cache Key Value) (key : Key) :
    (cache.get key).2 = cache.peek key := by
  unfold get
  cases found : cache.peek key <;> rfl

/-- Marking an entry as used changes no lookup. -/
@[simp]
theorem peek_get (cache : Cache Key Value) (key other : Key) :
    (cache.get key).1.peek other = cache.peek other := by
  unfold get
  cases found : cache.peek key with
  | none => rfl
  | some value =>
      by_cases same : other = key
      · subst same
        rw [found]
        simp [peek]
      · have skipped : key ≠ other := fun equal => same equal.symm
        simp [peek, skipped, find?_others_of_ne cache same]

@[simp]
theorem capacity_get (cache : Cache Key Value) (key : Key) :
    (cache.get key).1.capacity = cache.capacity := by
  unfold get
  cases cache.peek key <;> rfl

@[simp]
theorem capacity_put (cache : Cache Key Value) (key : Key) (value : Value) :
    (cache.put key value).capacity = cache.capacity :=
  rfl

/-- A cache that holds an entry at all holds the one that was put last. -/
theorem peek_put_self {cache : Cache Key Value}
    (positive : 0 < cache.capacity) (key : Key) (value : Value) :
    (cache.put key value).peek key = some value := by
  obtain ⟨capacity, isCapacity⟩ :=
    Nat.exists_eq_succ_of_ne_zero (Nat.ne_of_gt positive)
  simp [peek, put, isCapacity]

/-- A lookup after an insertion finds the inserted value or an older entry. -/
theorem peek_put
    {cache : Cache Key Value} {key other : Key} {value found : Value}
    (lookup : (cache.put key value).peek other = some found) :
    (other = key ∧ found = value) ∨
      (other ≠ key ∧ cache.peek other = some found) := by
  obtain ⟨entry, entryFound, rfl⟩ := Option.map_eq_some_iff.mp lookup
  have inFull :
      ((key, value) :: cache.others key).find?
        (fun entry => entry.1 = other) = some entry :=
    (List.take_prefix _ _).find?_eq_some entryFound
  by_cases same : other = key
  · subst same
    have first : (other, value) = entry := by simpa using inFull
    exact Or.inl ⟨rfl, congrArg Prod.snd first.symm⟩
  · have skipped : key ≠ other := fun equal => same equal.symm
    have older :
        cache.entries.find? (fun entry => entry.1 = other) = some entry := by
      simpa [skipped, find?_others_of_ne cache same] using inFull
    exact Or.inr ⟨same, by simp [peek, older]⟩

/-- The cache after the entry of a key was dropped, for whatever reason. -/
def evict (cache : Cache Key Value) (key : Key) : Cache Key Value :=
  { cache with entries := cache.others key }

/-- An evicted key is gone, and no other one. -/
theorem peek_evict (cache : Cache Key Value) (key other : Key) :
    (cache.evict key).peek other =
      if other = key then none else cache.peek other := by
  unfold peek evict
  split
  · next same =>
    subst same
    rw [Option.map_eq_none_iff, List.find?_eq_none]
    intro entry member
    simpa [others] using (List.mem_filter.mp member).2
  · next different => rw [find?_others_of_ne cache different]

/-- Every entry of the cache satisfies a relation between key and value. -/
def Agrees (relation : Key → Value → Prop) (cache : Cache Key Value) : Prop :=
  ∀ key value, cache.peek key = some value → relation key value

theorem agrees_empty (relation : Key → Value → Prop) (capacity : Nat) :
    Agrees relation (empty capacity) := by
  intro key value found
  simp at found

theorem Agrees.get {relation : Key → Value → Prop}
    {cache : Cache Key Value} (agrees : Agrees relation cache) (key : Key) :
    Agrees relation (cache.get key).1 := by
  intro other value found
  exact agrees other value (by simpa using found)

theorem Agrees.evict {relation : Key → Value → Prop}
    {cache : Cache Key Value} (agrees : Agrees relation cache) (key : Key) :
    Agrees relation (cache.evict key) := by
  intro other value found
  rw [peek_evict] at found
  split at found
  · cases found
  · exact agrees other value found

/--
Putting a related value keeps the agreement; the relation may change under
the key that is put, because the older entry of that key is gone.
-/
theorem Agrees.put {before after : Key → Value → Prop}
    {cache : Cache Key Value} (agrees : Agrees before cache)
    {key : Key} {value : Value}
    (fresh : after key value)
    (kept : ∀ other found, other ≠ key → before other found →
      after other found) :
    Agrees after (cache.put key value) := by
  intro other found lookup
  rcases peek_put lookup with ⟨rfl, rfl⟩ | ⟨different, older⟩
  · exact fresh
  · exact kept other found different (agrees other found older)

end Cache

end Syncpond.Library.Lru
