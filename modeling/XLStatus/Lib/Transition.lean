import Mathlib.Tactic

/-! Runs of a labelled transition function. A schedule is a list of actions; an
action that is not enabled leaves the state as it is, so every list is a run. -/

namespace XLStatus.Transition

open List

variable {S A : Type*} {step : S → A → S}

def run (step : S → A → S) (s : S) (as : List A) : S := as.foldl step s

@[simp] theorem run_nil (s : S) : run step s [] = s := rfl

@[simp] theorem run_cons (s : S) (a : A) (as : List A) :
    run step s (a :: as) = run step (step s a) as := rfl

theorem run_append (s : S) (as bs : List A) :
    run step s (as ++ bs) = run step (run step s as) bs := foldl_append

theorem run_snoc (s : S) (as : List A) (a : A) :
    run step s (as ++ [a]) = step (run step s as) a := run_append s as [a]

variable {P : S → Prop} {s : S} {as : List A} {p : A → Prop} {guard' : S → A → Prop}

theorem run_induct (hstep : ∀ s a, P s → P (step s a)) (h : P s) (as : List A) :
    P (run step s as) := by
  induction as generalizing s with
  | nil => exact h
  | cons a as ih => exact ih (hstep s a h)

/-- Every action of the schedule meets the guard in the state it is taken from. -/
def Meets (step : S → A → S) (guard : S → A → Prop) : S → List A → Prop
  | _, [] => True
  | s, a :: as => guard s a ∧ Meets step guard (step s a) as

variable {guard : S → A → Prop}

instance Meets.decidable [∀ s a, Decidable (guard s a)] :
    ∀ (s : S) (as : List A), Decidable (Meets step guard s as)
  | _, [] => .isTrue trivial
  | s, a :: as =>
    have := Meets.decidable (step s a) as
    inferInstanceAs (Decidable (guard s a ∧ Meets step guard (step s a) as))

theorem meets_append {bs : List A} :
    Meets step guard s (as ++ bs) ↔
      Meets step guard s as ∧ Meets step guard (run step s as) bs := by
  induction as generalizing s with
  | nil => simp [Meets]
  | cons a as ih => simp [Meets, ih, and_assoc]

theorem Meets.and_forall (hm : Meets step guard s as) (hp : ∀ a ∈ as, p a) :
    Meets step (fun s a => guard s a ∧ p a) s as := by
  induction as generalizing s with
  | nil => trivial
  | cons a as ih =>
    exact ⟨⟨hm.1, hp a mem_cons_self⟩,
      ih hm.2 fun b hb => hp b (mem_cons_of_mem a hb)⟩

theorem meets_of_forall (hp : ∀ a ∈ as, p a) :
    Meets step (fun _ a => p a) s as := by
  induction as generalizing s with
  | nil => trivial
  | cons a as ih => exact ⟨hp a mem_cons_self, ih fun b hb => hp b (mem_cons_of_mem a hb)⟩

theorem meets_of_initial (h : ∀ bs, bs <+: as → P (run step s bs)) :
    Meets step (fun s a => P (step s a)) s as := by
  induction as generalizing s with
  | nil => trivial
  | cons a as ih =>
    refine ⟨h [a] (prefix_append [a] as), ih fun bs hbs => ?_⟩
    exact h (a :: bs) (cons_prefix_cons.mpr ⟨rfl, hbs⟩)

theorem Meets.and (h : Meets step guard s as) (h' : Meets step guard' s as) :
    Meets step (fun s a => guard s a ∧ guard' s a) s as := by
  induction as generalizing s with
  | nil => trivial
  | cons a as ih => exact ⟨⟨h.1, h'.1⟩, ih h.2 h'.2⟩

theorem meets_congr (hstep : ∀ s a, guard s a → P s → P (step s a))
    (hguard : ∀ s a, P s → (guard s a ↔ guard' s a)) (h : P s) (as : List A) :
    Meets step guard s as ↔ Meets step guard' s as := by
  induction as generalizing s with
  | nil => exact Iff.rfl
  | cons a as ih =>
    refine (and_congr_right fun hg => ih (hstep s a hg h)).trans ?_
    exact and_congr_left' (hguard s a h)

theorem run_induct_of_meets (hstep : ∀ s a, guard s a → P s → P (step s a)) (h : P s)
    (hm : Meets step guard s as) : P (run step s as) := by
  induction as generalizing s with
  | nil => exact h
  | cons a as ih => exact ih (hstep s a hm.1 h) hm.2

theorem run_rel {R : S → S → Prop} (hrefl : ∀ s, R s s)
    (htrans : ∀ s t u, R s t → R t u → R s u) (hstep : ∀ s a, R s (step s a)) (s : S)
    (as : List A) : R s (run step s as) := by
  induction as generalizing s with
  | nil => exact hrefl s
  | cons a as ih => exact htrans _ _ _ (hstep s a) (ih (step s a))

/-! Actions that each concern one key. -/

section View

variable {V K : Type*} (step) (view : S → V) (key : A → K) {k : K}

variable {as : List A}

theorem run_view_of_ne (hother : ∀ s a, key a ≠ k → view (step s a) = view s)
    (has : ∀ a ∈ as, key a ≠ k) (s : S) : view (run step s as) = view s := by
  induction as generalizing s with
  | nil => rfl
  | cons a as ih =>
    rw [run_cons, ih fun b hb => has b (mem_cons_of_mem a hb)]
    exact hother s a (has a mem_cons_self)

theorem run_view_of_mem (Inv : S → Prop) (hinv : ∀ s a, Inv s → Inv (step s a))
    (hother : ∀ s a, key a ≠ k → view (step s a) = view s) (hnodup : (as.map key).Nodup) {a : A}
    (ha : a ∈ as) (hk : key a = k) {s : S} (hs : Inv s) :
    ∃ s', Inv s' ∧ view s' = view s ∧ view (run step s as) = view (step s' a) := by
  obtain ⟨before, after, rfl⟩ := append_of_mem ha
  rw [map_append, map_cons, nodup_append] at hnodup
  obtain ⟨-, hafter, hdisjoint⟩ := hnodup
  have hb : ∀ b ∈ before, key b ≠ k := fun b hb hkey =>
    hdisjoint (key b) (mem_map_of_mem hb) (key a) mem_cons_self (hkey.trans hk.symm)
  have hc : ∀ c ∈ after, key c ≠ k := fun c hc hkey =>
    (nodup_cons.mp hafter).1 (hk.trans hkey.symm ▸ mem_map_of_mem hc)
  refine ⟨run step s before, run_induct hinv hs before, run_view_of_ne step view key hother hb s,
    ?_⟩
  rw [run_append, run_cons, run_view_of_ne step view key hother hc]

end View

end XLStatus.Transition
