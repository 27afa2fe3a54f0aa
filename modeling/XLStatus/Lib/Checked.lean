import Mathlib.Tactic

/-! Computations that check as they go: a failed check ends the computation with its
error, and a result comes with everything that was checked on the way. -/

namespace XLStatus.Checked

open List

variable {ε α β : Type}

def require (value : Option α) (error : ε) : Except ε α :=
  match value with
  | some a => .ok a
  | none => .error error

def ensure (condition : Bool) (error : ε) : Except ε Unit :=
  if condition then .ok () else .error error

variable {f : α → Except ε β} {x : Except ε α} {b : β} {a : α} {error : ε} {l : List α}
  {bs : List β}

theorem bind_eq_ok :
    x >>= f = .ok b ↔ ∃ a, x = .ok a ∧ f a = .ok b := by
  cases x with
  | error => simp [bind, Except.bind]
  | ok => simp [bind, Except.bind]

theorem bind_congr_of_ok {g : α → Except ε β} (h : ∀ a, x = .ok a → f a = g a) :
    x >>= f = x >>= g := by
  cases x with
  | error => rfl
  | ok a => exact h a rfl

theorem pure_eq_ok {b : α} : (pure a : Except ε α) = .ok b ↔ a = b :=
  ⟨Except.ok.inj, congrArg _⟩

theorem ensure_eq_ok {condition : Bool} {u : Unit} :
    ensure condition error = .ok u ↔ condition = true := by
  cases condition <;> simp [ensure]

theorem require_eq_ok {value : Option α} :
    require value error = .ok a ↔ value = some a := by
  cases value <;> simp [require]

theorem map_eq_ok {f : α → β} :
    f <$> x = .ok b ↔ ∃ a, x = .ok a ∧ f a = b := by
  cases x with
  | error => simp [Functor.map, Except.map]
  | ok => simp [Functor.map, Except.map]

theorem mapError_eq_ok {δ : Type} {f : ε → δ} :
    x.mapError f = .ok a ↔ x = .ok a := by
  cases x <;> simp [Except.mapError]

theorem forM_eq_ok {f : α → Except ε PUnit} {u : PUnit} :
    l.forM f = .ok u ↔ ∀ a ∈ l, f a = .ok () := by
  induction l with
  | nil => simp [pure, Except.pure]
  | cons a l ih =>
    rw [forM_eq_forM, forM_cons, bind_eq_ok, forall_mem_cons, ← ih]
    exact ⟨fun ⟨_, ha, hl⟩ => ⟨ha, hl⟩, fun ⟨ha, hl⟩ => ⟨(), ha, hl⟩⟩

theorem mapM_eq_ok :
    l.mapM f = .ok bs ↔ Forall₂ (fun a b => f a = .ok b) l bs := by
  induction l generalizing bs with
  | nil =>
    rw [mapM_nil, pure_eq_ok, forall₂_nil_left_iff]
    exact eq_comm
  | cons a l ih =>
    rw [mapM_cons, bind_eq_ok]
    constructor
    · rintro ⟨b, hb, h⟩
      obtain ⟨bs', hbs, hpure⟩ := bind_eq_ok.mp h
      obtain rfl := pure_eq_ok.mp hpure
      exact .cons hb (ih.mp hbs)
    · intro h
      cases h with
      | cons hb hbs => exact ⟨_, hb, bind_eq_ok.mpr ⟨_, ih.mpr hbs, pure_eq_ok.mpr rfl⟩⟩

theorem exists_of_mem_mapM (h : l.mapM f = .ok bs) (hb : b ∈ bs) : ∃ a ∈ l, f a = .ok b := by
  obtain ⟨i, hi, rfl⟩ := getElem_of_mem hb
  have h₂ := mapM_eq_ok.mp h
  have hlen : i < l.length := h₂.length_eq ▸ hi
  exact ⟨l[i], getElem_mem hlen, h₂.get hlen hi⟩

theorem exists_of_mapM_of_mem (h : l.mapM f = .ok bs) (ha : a ∈ l) : ∃ b, f a = .ok b := by
  obtain ⟨i, hi, rfl⟩ := getElem_of_mem ha
  have h₂ := mapM_eq_ok.mp h
  exact ⟨_, h₂.get hi (h₂.length_eq ▸ hi)⟩

theorem foldlM_rel {R : α → α → Prop} (hrefl : ∀ a, R a a) (htrans : ∀ a b c, R a b → R b c → R a c)
    {steps : List (α → Except ε α)} (hstep : ∀ step ∈ steps, ∀ a b, step a = .ok b → R a b) {b : α}
    (h : steps.foldlM (fun a step => step a) a = .ok b) : R a b := by
  induction steps generalizing a with
  | nil =>
    obtain rfl := pure_eq_ok.mp h
    exact hrefl a
  | cons step steps ih =>
    rw [foldlM_cons] at h
    obtain ⟨c, hc, hrest⟩ := bind_eq_ok.mp h
    refine htrans a c b (hstep step mem_cons_self a c hc) (ih ?_ hrest)
    exact fun s hs => hstep s (mem_cons_of_mem _ hs)

end XLStatus.Checked
