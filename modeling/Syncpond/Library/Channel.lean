import Mathlib.Data.List.Basic

/-!
# Bounded first-in first-out channels

The buffer of a bounded multi-producer channel: `trySend` appends unless the
buffer is full, and `recv` takes the oldest item.  The bound is a field, so
an over-full buffer cannot be built.
-/

namespace Syncpond.Library.Channels

/-- The buffer of a channel of the given capacity, oldest item first. -/
structure Channel (Item : Type u) (capacity : Nat) where
  items : List Item
  bounded : items.length ≤ capacity

namespace Channel

variable {Item : Type u} {capacity : Nat}

/-- The empty channel. -/
def empty : Channel Item capacity :=
  ⟨[], Nat.zero_le _⟩

/-- `Sender::try_send`: `none` when the buffer is full. -/
def trySend (channel : Channel Item capacity) (item : Item) :
    Option (Channel Item capacity) :=
  if room : channel.items.length < capacity then
    some ⟨channel.items ++ [item], by
      rw [List.length_append, List.length_singleton]
      exact room⟩
  else none

/-- `try_send` whose error is dropped by the caller. -/
def sendOrDrop (channel : Channel Item capacity) (item : Item) :
    Channel Item capacity :=
  (channel.trySend item).getD channel

/-- `Receiver::recv` on a channel that has an item. -/
def recv (channel : Channel Item capacity) :
    Option (Item × Channel Item capacity) :=
  match channel with
  | ⟨[], _⟩ => none
  | ⟨item :: rest, bounded⟩ =>
      some (item, ⟨rest, Nat.le_of_succ_le bounded⟩)

@[ext]
theorem ext {left right : Channel Item capacity}
    (equal : left.items = right.items) : left = right := by
  cases left
  cases right
  cases equal
  rfl

@[simp]
theorem items_empty : (empty : Channel Item capacity).items = [] :=
  rfl

/-- A channel takes an item, at its end, exactly if there is room. -/
theorem trySend_eq_some_iff
    {channel sent : Channel Item capacity} {item : Item} :
    channel.trySend item = some sent ↔
      channel.items.length < capacity ∧
        sent.items = channel.items ++ [item] := by
  unfold trySend
  split
  · next room =>
    constructor
    · intro equal
      cases Option.some.inj equal
      exact ⟨room, rfl⟩
    · rintro ⟨_, items⟩
      exact congrArg some (ext items.symm)
  · next full => simp [full]

/-- A channel refuses an item exactly if it is full. -/
theorem trySend_eq_none_iff
    {channel : Channel Item capacity} {item : Item} :
    channel.trySend item = none ↔ capacity ≤ channel.items.length := by
  unfold trySend
  split
  · next room => simp [Nat.not_le.mpr room]
  · next full => simpa using full

/-- Sending keeps every buffered item and adds at most the sent one. -/
theorem mem_sendOrDrop
    {channel : Channel Item capacity} {sent item : Item}
    (member : item ∈ (channel.sendOrDrop sent).items) :
    item ∈ channel.items ∨ item = sent := by
  unfold sendOrDrop at member
  cases result : channel.trySend sent with
  | none => simp_all
  | some after =>
      rw [result, Option.getD_some,
        (trySend_eq_some_iff.mp result).2] at member
      simpa using member

/-- An item is not dropped if there is room. -/
theorem items_sendOrDrop_of_lt
    {channel : Channel Item capacity} {item : Item}
    (room : channel.items.length < capacity) :
    (channel.sendOrDrop item).items = channel.items ++ [item] := by
  unfold sendOrDrop
  cases result : channel.trySend item with
  | none => exact absurd (trySend_eq_none_iff.mp result) (Nat.not_le.mpr room)
  | some after => exact (trySend_eq_some_iff.mp result).2

theorem items_sendOrDrop (channel : Channel Item capacity) (item : Item) :
    (channel.sendOrDrop item).items = channel.items ∨
      (channel.sendOrDrop item).items = channel.items ++ [item] := by
  rcases Nat.lt_or_ge channel.items.length capacity with room | full
  · exact Or.inr (items_sendOrDrop_of_lt room)
  · rw [sendOrDrop, trySend_eq_none_iff.mpr full]
    exact Or.inl rfl

/-- Only the sent item is added to the channel. -/
theorem eq_of_items_sendOrDrop
    {channel : Channel Item capacity} {sent item : Item}
    (items : (channel.sendOrDrop sent).items = channel.items ++ [item]) :
    item = sent := by
  rcases items_sendOrDrop channel sent with dropped | added
  · simp [items] at dropped
  · rw [items, List.append_cancel_left_eq] at added
    exact List.singleton_inj.mp added

/-- What was sent before stays in front. -/
theorem prefix_sendOrDrop (channel : Channel Item capacity) (item : Item) :
    channel.items <+: (channel.sendOrDrop item).items := by
  rcases items_sendOrDrop channel item with same | added
  · exact same.symm ▸ List.prefix_refl _
  · exact added.symm ▸ List.prefix_append _ _

theorem mem_sendOrDrop_of_mem
    {channel : Channel Item capacity} {sent item : Item}
    (member : item ∈ channel.items) :
    item ∈ (channel.sendOrDrop sent).items :=
  (prefix_sendOrDrop channel sent).mem member

theorem length_sendOrDrop_le {channel : Channel Item capacity}
    {item : Item} :
    (channel.sendOrDrop item).items.length ≤ channel.items.length + 1 := by
  unfold sendOrDrop
  cases result : channel.trySend item with
  | none => exact Nat.le_succ _
  | some after =>
      rw [Option.getD_some]
      refine Nat.le_of_eq ?_
      rw [(trySend_eq_some_iff.mp result).2, List.length_append,
        List.length_singleton]

/-- Items are received from the front. -/
theorem recv_eq_some_iff
    {channel rest : Channel Item capacity} {item : Item} :
    channel.recv = some (item, rest) ↔
      channel.items = item :: rest.items := by
  obtain ⟨items, bounded⟩ := channel
  obtain ⟨restItems, restBounded⟩ := rest
  cases items with
  | nil => simp [recv]
  | cons head tail => simp [recv]

theorem recv_eq_none_iff {channel : Channel Item capacity} :
    channel.recv = none ↔ channel.items = [] := by
  obtain ⟨items, bounded⟩ := channel
  cases items with
  | nil => simp [recv]
  | cons head tail => simp [recv]

end Channel

end Syncpond.Library.Channels
