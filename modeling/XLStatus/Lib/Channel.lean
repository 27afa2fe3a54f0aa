import Mathlib.Tactic

/-! Bounded channels with reserved slots. Everything that was ever placed in a channel
stays in `sent`; a permit holds a slot until it is used or dropped. -/

namespace XLStatus

structure Channel (M : Type) where
  capacity : ℕ
  sent : List M
  received : ℕ
  permits : ℕ
  closed : Bool

namespace Channel

variable {M : Type}

def new (capacity : ℕ) : Channel M := ⟨capacity, [], 0, 0, false⟩

def hasRoom (c : Channel M) : Bool := c.sent.length - c.received + c.permits < c.capacity

def reserve (c : Channel M) : Channel M := { c with permits := c.permits + 1 }

def release (c : Channel M) : Channel M := { c with permits := c.permits - 1 }

def sendPermit (c : Channel M) (m : M) : Channel M :=
  { c with sent := c.sent ++ [m], permits := c.permits - 1 }

def send (c : Channel M) (m : M) : Channel M := { c with sent := c.sent ++ [m] }

def recv (c : Channel M) : Channel M :=
  if c.received < c.sent.length then { c with received := c.received + 1 } else c

def close (c : Channel M) : Channel M := { c with closed := true }

@[simp] theorem sent_reserve (c : Channel M) : c.reserve.sent = c.sent := rfl

@[simp] theorem sent_release (c : Channel M) : c.release.sent = c.sent := rfl

@[simp] theorem sent_send (c : Channel M) (m : M) : (c.send m).sent = c.sent ++ [m] := rfl

@[simp] theorem sent_recv (c : Channel M) : c.recv.sent = c.sent := by
  unfold recv
  split <;> rfl

@[simp] theorem sent_close (c : Channel M) : c.close.sent = c.sent := rfl

end Channel

theorem sent_update {M K : Type} [DecidableEq K] {channels : K → Channel M} {k : K}
    {c : Channel M} (h : c.sent = (channels k).sent) (x : K) :
    (Function.update channels k c x).sent = (channels x).sent := by
  by_cases hx : x = k
  · subst hx
    rw [Function.update_self, h]
  · rw [Function.update_of_ne hx]

end XLStatus
