import Mathlib.Tactic

/-! A resource that is worth one use. It is taken by one party at a time; a party that has it
may use it up, give it back, or lose it, after which nobody has it. -/

namespace XLStatus

structure Lease (K : Type*) where
  Taken : Prop
  Holds : K → Prop
  spent : ℕ

namespace Lease

variable {K : Type*} {l l' : Lease K}

/-- What may happen to a lease: parties lose it, a party takes it while it is free, or a party
that has it gives it back or uses it. -/
inductive Step (l l' : Lease K) : Prop where
  | lose (htaken : l.Taken → l'.Taken) (hholds : ∀ a, l'.Holds a → l.Holds a)
      (hspent : l'.spent = l.spent)
  | take (k : K) (hfree : ¬ l.Taken) (htaken : l'.Taken)
      (hholds : ∀ a, l'.Holds a → a = k ∨ l.Holds a) (hspent : l'.spent = l.spent)
  | giveBack (k : K) (hk : l.Holds k) (hholds : ∀ a, l'.Holds a → a ≠ k ∧ l.Holds a)
      (hspent : l'.spent = l.spent)
  | spend (k : K) (hk : l.Holds k) (htaken : l.Taken → l'.Taken)
      (hholds : ∀ a, l'.Holds a → a ≠ k ∧ l.Holds a) (hspent : l'.spent = l.spent + 1)

/-- At most one party has the lease, it is not free while a party has it or after its use, and
nobody has it once it was used. -/
structure Single (l : Lease K) : Prop where
  unique : ∀ a b, l.Holds a → l.Holds b → a = b
  taken : ∀ a, l.Holds a → l.Taken
  unspent : ∀ a, l.Holds a → l.spent = 0
  kept : 0 < l.spent → l.Taken
  once : l.spent ≤ 1

theorem single_of_unused (hholds : ∀ a, ¬ l.Holds a) (hspent : l.spent = 0) : l.Single where
  unique a _ ha := absurd ha (hholds a)
  taken a ha := absurd ha (hholds a)
  unspent a ha := absurd ha (hholds a)
  kept h := by omega
  once := by omega

theorem Single.step (h : l.Single) (hstep : Step l l') : l'.Single := by
  cases hstep with
  | lose htaken hholds hspent =>
    exact ⟨fun a b ha hb => h.unique a b (hholds a ha) (hholds b hb),
      fun a ha => htaken (h.taken a (hholds a ha)),
      fun a ha => hspent.trans (h.unspent a (hholds a ha)),
      fun hpos => htaken (h.kept (hspent ▸ hpos)), hspent ▸ h.once⟩
  | take k hfree htaken hholds hspent =>
    -- Nobody has a lease that is free.
    have hnone : ∀ a, ¬ l.Holds a := fun a ha => hfree (h.taken a ha)
    have honly : ∀ a, l'.Holds a → a = k := fun a ha => (hholds a ha).resolve_right (hnone a)
    have hzero : l.spent = 0 := Nat.eq_zero_of_not_pos fun hpos => hfree (h.kept hpos)
    exact ⟨fun a b ha hb => (honly a ha).trans (honly b hb).symm, fun _ _ => htaken,
      fun _ _ => hspent.trans hzero, fun _ => htaken, hspent ▸ h.once⟩
  | giveBack k hk hholds hspent =>
    exact single_of_unused (fun a ha => (hholds a ha).1 (h.unique a k (hholds a ha).2 hk))
      (hspent.trans (h.unspent k hk))
  | spend k hk htaken hholds hspent =>
    have hnone : ∀ a, ¬ l'.Holds a :=
      fun a ha => (hholds a ha).1 (h.unique a k (hholds a ha).2 hk)
    have hone : l'.spent = 1 := by rw [hspent, h.unspent k hk]
    exact ⟨fun a _ ha => absurd ha (hnone a), fun a ha => absurd ha (hnone a),
      fun a ha => absurd ha (hnone a), fun _ => htaken (h.taken k hk), hone.le⟩

end Lease

end XLStatus
