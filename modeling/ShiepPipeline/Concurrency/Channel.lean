/-!
# Channels

The sending end of an unbounded channel whose receiver may be dropped at any time. The channel keeps
what was sent, and a count that stands for the receiver's future: how many more messages it takes
before it is dropped. A receiver that is dropped while a loop is sending is one whose count runs out
in that loop.

The receiving end, for a channel whose senders are dropped at some point: which answers waiting for
a message may get, given what has been sent and what has been taken out.
-/

structure Channel (α : Type) where
  sent : List α
  /-- How many more messages the receiver takes, or `none` if it is not going to be dropped. -/
  left : Option Nat
deriving DecidableEq, Repr

namespace Channel

variable {α : Type}

def fresh : Channel α := ⟨[], none⟩

/-- The receiver has not been dropped. -/
def Alive (c : Channel α) : Prop := c.left ≠ some 0

instance (c : Channel α) : Decidable c.Alive := inferInstanceAs (Decidable (c.left ≠ some 0))

/-- Whether the message was sent, and the channel after it. -/
def send (a : α) (c : Channel α) : Bool × Channel α :=
  match c.left with
  | none => (true, ⟨c.sent ++ [a], none⟩)
  | some 0 => (false, c)
  | some (n + 1) => (true, ⟨c.sent ++ [a], some n⟩)

/-- The receiver is going to be dropped after some more messages. -/
def drop (n : Nat) (c : Channel α) : Channel α := { c with left := some n }

theorem send_of_alive {c : Channel α} (h : c.Alive) (a : α) :
    c.send a = (true, ⟨c.sent ++ [a], c.left.map (· - 1)⟩) := by
  rw [send]
  split
  · next heq => rw [heq, Option.map_none]
  · next heq => exact absurd heq h
  · next n heq => rw [heq, Option.map_some, Nat.succ_sub_one]

theorem send_of_not_alive {c : Channel α} (h : ¬ c.Alive) (a : α) : c.send a = (false, c) := by
  rw [send, Decidable.not_not.mp h]

end Channel

/-- What waiting for a message, for a limited time or not, is answered. -/
inductive Recv (α : Type)
  | message (a : α)
  | timeout
  | disconnected
deriving DecidableEq

namespace Recv

variable {α : Type}

/-- The possible answers: messages come in the order they were sent, and the end of the channel is
seen after the last message, when no sender is left. -/
def Possible (sent taken : List α) (senders : Bool) : Recv α → Prop
  | .message a => taken ++ [a] <+: sent
  | .timeout => True
  | .disconnected => senders = false ∧ taken = sent

/-- Once everything has been taken out, no message is possible. -/
theorem not_possible_message (sent : List α) (senders : Bool) (a : α) :
    ¬ Possible sent sent senders (.message a) := by
  intro h
  have hlen := List.IsPrefix.length_le h
  rw [List.length_append, List.length_singleton] at hlen
  omega

end Recv
