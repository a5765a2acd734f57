import Mathlib.Data.List.Basic

/-!
# Bounded channels

A first-in first-out queue with a capacity.  A sender that finds the channel
full has to wait, so `send` is partial; the bound is part of the type.
-/

namespace WgLink.Library

universe u

/-- A queue of at most `capacity` items, the oldest first. -/
structure Channel (capacity : Nat) (α : Type u) where
  items : List α
  bounded : items.length ≤ capacity

namespace Channel

variable {capacity : Nat} {α : Type u}

def empty (capacity : Nat) (α : Type u) : Channel capacity α :=
  ⟨[], Nat.zero_le capacity⟩

/-- No sender can go on. -/
def Full (channel : Channel capacity α) : Prop :=
  channel.items.length = capacity

instance (channel : Channel capacity α) : Decidable channel.Full :=
  inferInstanceAs (Decidable (_ = _))

def send (channel : Channel capacity α) (item : α) :
    Option (Channel capacity α) :=
  if space : channel.items.length < capacity then
    some ⟨channel.items ++ [item], by
      rw [List.length_append]
      exact space⟩
  else
    none

def receive (channel : Channel capacity α) :
    Option (α × Channel capacity α) :=
  match channel with
  | ⟨[], _⟩ => none
  | ⟨item :: rest, bounded⟩ =>
      some (item, ⟨rest, Nat.le_of_succ_le bounded⟩)

theorem items_of_send
    {channel next : Channel capacity α} {item : α}
    (sent : channel.send item = some next) :
    next.items = channel.items ++ [item] := by
  unfold send at sent
  split at sent
  · cases sent
    rfl
  · cases sent

theorem items_of_receive
    {channel rest : Channel capacity α} {item : α}
    (received : channel.receive = some (item, rest)) :
    channel.items = item :: rest.items := by
  obtain ⟨items, bounded⟩ := channel
  cases items with
  | nil =>
      cases received
  | cons head tail =>
      cases received
      rfl

end Channel

end WgLink.Library
