import XLStatus.Lib.Transition

/-! Keys that are held by one party each. A party that claims a key replaces the one that held
it, and a party that lets go of a key it no longer holds changes nothing. A key may be barred,
after which nobody can claim it; its holder is evicted by a later step. -/

namespace XLStatus

open Function

structure Holders (K C : Type*) where
  holder : K → Option C
  barred : Finset K
  evicting : ℕ → Option K

namespace Holders

variable {K C : Type*} [DecidableEq K] [DecidableEq C] {h : Holders K C} {k : K} {c : C}

inductive Act (K C : Type*) where
  | idle
  | claim (k : K) (c : C)
  | release (k : K) (c : C)
  | bar (call : ℕ) (k : K)
  | evict (call : ℕ)

def step (h : Holders K C) : Act K C → Holders K C
  | .idle => h
  | .claim k c =>
    if k ∈ h.barred then h else { h with holder := Function.update h.holder k (some c) }
  | .release k c =>
    if h.holder k = some c then { h with holder := Function.update h.holder k none } else h
  | .bar call k =>
    match h.evicting call with
    | none =>
      { h with
        barred := insert k h.barred
        evicting := Function.update h.evicting call (some k) }
    | some _ => h
  | .evict call =>
    match h.evicting call with
    | none => h
    | some k =>
      { h with
        holder := Function.update h.holder k none
        evicting := Function.update h.evicting call none }

theorem step_claim (hk : k ∉ h.barred) :
    h.step (.claim k c) = { h with holder := Function.update h.holder k (some c) } := if_neg hk

theorem step_claim_of_barred (hk : k ∈ h.barred) : h.step (.claim k c) = h := if_pos hk

theorem step_release (hc : h.holder k = some c) :
    h.step (.release k c) = { h with holder := Function.update h.holder k none } := if_pos hc

theorem step_release_of_ne (hc : h.holder k ≠ some c) : h.step (.release k c) = h := if_neg hc

theorem step_bar {call : ℕ} (hcall : h.evicting call = none) :
    h.step (.bar call k) =
      { h with
        barred := insert k h.barred
        evicting := Function.update h.evicting call (some k) } := by
  simp only [step, hcall]

theorem step_bar_of_some {call : ℕ} {j : K} (hcall : h.evicting call = some j) :
    h.step (.bar call k) = h := by
  simp only [step, hcall]

theorem step_evict {call : ℕ} (hcall : h.evicting call = some k) :
    h.step (.evict call) =
      { h with
        holder := Function.update h.holder k none
        evicting := Function.update h.evicting call none } := by
  simp only [step, hcall]

theorem step_evict_of_none {call : ℕ} (hcall : h.evicting call = none) :
    h.step (.evict call) = h := by
  simp only [step, hcall]

def Barring (h : Holders K C) : Prop := ∀ call k, h.evicting call = some k → k ∈ h.barred

theorem barring_step (hb : h.Barring) (act : Act K C) : (h.step act).Barring := by
  cases act with
  | idle => exact hb
  | claim k =>
    by_cases hk : k ∈ h.barred
    · rwa [step_claim_of_barred hk]
    · rw [step_claim hk]
      exact hb
  | release k c =>
    by_cases hc : h.holder k = some c
    · rw [step_release hc]
      exact hb
    · rwa [step_release_of_ne hc]
  | bar call k =>
    cases hcall : h.evicting call with
    | some => rwa [step_bar_of_some hcall]
    | none =>
      rw [step_bar hcall]
      intro i j hj
      replace hj : Function.update h.evicting call (some k) i = some j := hj
      rcases eq_or_ne i call with rfl | hi
      · rw [update_self] at hj
        cases hj
        exact Finset.mem_insert_self _ _
      · rw [update_of_ne hi] at hj
        exact Finset.mem_insert_of_mem (hb i j hj)
  | evict call =>
    cases hcall : h.evicting call with
    | none => rwa [step_evict_of_none hcall]
    | some =>
      rw [step_evict hcall]
      intro i j hj
      replace hj : Function.update h.evicting call none i = some j := hj
      rcases eq_or_ne i call with rfl | hi
      · rw [update_self] at hj
        cases hj
      · rw [update_of_ne hi] at hj
        exact hb i j hj

theorem holder_step_release {j : K} (hne : (h.step (.release k c)).holder j ≠ h.holder j) :
    j = k ∧ h.holder k = some c := by
  by_cases hc : h.holder k = some c
  · rw [step_release hc] at hne
    refine ⟨by_contra fun hjk => hne ?_, hc⟩
    exact update_of_ne hjk _ _
  · rw [step_release_of_ne hc] at hne
    exact absurd rfl hne

structure Held (h : Holders K C) (k : K) (c : C) : Prop where
  holder : h.holder k = some c
  free : k ∉ h.barred
  barring : h.Barring

def Act.Ends (k : K) (c : C) : Act K C → Prop
  | .claim j d => j = k ∧ d ≠ c
  | .release j d => j = k ∧ d = c
  | .bar _ j => j = k
  | .idle | .evict _ => False

theorem held_claim (hb : h.Barring) (hk : k ∉ h.barred) : (h.step (.claim k c)).Held k c where
  holder := by
    rw [step_claim hk]
    exact update_self _ _ _
  free := by
    rw [step_claim hk]
    exact hk
  barring := barring_step hb _

theorem Held.step {act : Act K C} (hh : h.Held k c) (hact : ¬ act.Ends k c) :
    (h.step act).Held k c := by
  refine ⟨?_, ?_, barring_step hh.barring act⟩
  · cases act with
    | idle => exact hh.holder
    | claim j d =>
      by_cases hj : j ∈ h.barred
      · rw [step_claim_of_barred hj]
        exact hh.holder
      · rw [step_claim hj]
        rcases eq_or_ne j k with rfl | hjk
        · obtain rfl : d = c := by_contra fun hd => hact ⟨rfl, hd⟩
          exact update_self _ _ _
        · exact (update_of_ne hjk.symm _ _).trans hh.holder
    | release j =>
      refine by_contra fun hne => hact ?_
      obtain ⟨rfl, hd⟩ := holder_step_release (j := k) fun heq => hne (heq.trans hh.holder)
      exact ⟨rfl, Option.some.inj (hd.symm.trans hh.holder)⟩
    | bar call =>
      cases hcall : h.evicting call with
      | some => rw [step_bar_of_some hcall, hh.holder]
      | none =>
        rw [step_bar hcall]
        exact hh.holder
    | evict call =>
      cases hcall : h.evicting call with
      | none => rw [step_evict_of_none hcall, hh.holder]
      | some j =>
        -- The key that is evicted is barred, and this one is not.
        have hjk : j ≠ k := fun heq => hh.free (heq ▸ hh.barring call j hcall)
        rw [step_evict hcall]
        exact (update_of_ne hjk.symm _ _).trans hh.holder
  · cases act with
    | idle => exact hh.free
    | claim =>
      rw [Holders.step]
      split <;> exact hh.free
    | release =>
      rw [Holders.step]
      split <;> exact hh.free
    | bar call j =>
      have hjk : k ≠ j := fun heq => hact heq.symm
      rw [Holders.step]
      split
      · exact fun hmem => (Finset.mem_insert.mp hmem).elim hjk hh.free
      · exact hh.free
    | evict =>
      rw [Holders.step]
      split <;> exact hh.free

/-! A system whose steps are acts on the holders it shows. -/

section Simulation

open Transition

variable {S A : Type*} {next : S → A → S} {view : S → Holders K C} {act : S → A → Act K C}

theorem barring_run (hsim : ∀ s a, view (next s a) = (view s).step (act s a)) {s : S}
    (hs : (view s).Barring) (as : List A) : (view (run next s as)).Barring := by
  refine run_induct (P := fun s => (view s).Barring) (fun s a h => ?_) hs as
  rw [hsim]
  exact barring_step h _

theorem held_run (hsim : ∀ s a, view (next s a) = (view s).step (act s a)) {s : S}
    (hs : (view s).Held k c) {as : List A} (has : ∀ s, ∀ a ∈ as, ¬ (act s a).Ends k c) :
    (view (run next s as)).Held k c := by
  induction as generalizing s with
  | nil => exact hs
  | cons a as ih =>
    refine ih ?_ fun s b hb => has s b (List.mem_cons_of_mem a hb)
    rw [hsim]
    exact hs.step (has s a List.mem_cons_self)

theorem held_run_claim (hsim : ∀ s a, view (next s a) = (view s).step (act s a)) {s : S}
    (hs : (view s).Barring) {before after : List A} {a : A}
    (hclaim : act (run next s before) a = .claim k c)
    (hfree : k ∉ (view (run next s before)).barred)
    (hafter : ∀ s, ∀ b ∈ after, ¬ (act s b).Ends k c) :
    (view (run next s (before ++ a :: after))).Held k c := by
  rw [run_append, run_cons]
  refine held_run hsim ?_ hafter
  rw [hsim, hclaim]
  exact held_claim (barring_run hsim hs before) hfree

end Simulation

end Holders

end XLStatus
