import Mathlib.Tactic

/-! Logs of events of two kinds, those that open an episode and those that close it, and
what adding an event at the end keeps. -/

namespace XLStatus.EventLog

open List

variable {E : Type*} {opens : E → Bool} {log : List E} {e : E}

theorem getElem?_snoc {i : ℕ} {x : E} :
    (log ++ [e])[i]? = some x ↔ log[i]? = some x ∨ (i = log.length ∧ x = e) := by
  rcases lt_trichotomy i log.length with hi | rfl | hi
  · rw [getElem?_append_left hi]
    simp [hi.ne]
  · rw [getElem?_concat_length]
    simp [eq_comm]
  · have hnone : (log ++ [e])[i]? = none := getElem?_eq_none (by simpa using hi)
    simp [hnone, getElem?_eq_none hi.le, hi.ne']

def isOpen (opens : E → Bool) (log : List E) : Bool := log.getLast?.any opens

@[simp] theorem isOpen_nil : isOpen opens [] = false := rfl

@[simp] theorem isOpen_snoc : isOpen opens (log ++ [e]) = opens e := by simp [isOpen]

def Alternates (opens : E → Bool) (log : List E) : Prop :=
  ∀ (i : ℕ) x, log[i]? = some x → (opens x = true ↔ i % 2 = 0)

theorem alternates_nil : Alternates opens [] := by simp [Alternates]

theorem Alternates.isOpen_iff (h : Alternates opens log) :
    isOpen opens log = true ↔ log.length % 2 = 1 := by
  induction log using reverseRecOn with
  | nil => simp
  | append_singleton log e =>
    have he := h log.length e getElem?_concat_length
    rw [isOpen_snoc, he, length_append, length_singleton]
    omega

theorem Alternates.snoc (h : Alternates opens log) (he : opens e = !isOpen opens log) :
    Alternates opens (log ++ [e]) := by
  intro i x hx
  obtain hx | ⟨rfl, rfl⟩ := getElem?_snoc.mp hx
  · exact h i x hx
  · have hopen := h.isOpen_iff
    rw [he, Bool.not_eq_true', ← Bool.not_eq_true, hopen]
    omega

def ClosesOpened (opens : E → Bool) (log : List E) : Prop :=
  ∀ (i : ℕ) x, log[i]? = some x → opens x = false →
    ∃ j < i, (∃ y, log[j]? = some y ∧ opens y = true) ∧
      ∀ (k : ℕ) y, j < k → k < i → log[k]? = some y → opens y = true

theorem closesOpened_nil : ClosesOpened opens [] := by simp [ClosesOpened]

theorem exists_of_isOpen (h : isOpen opens log = true) :
    ∃ j < log.length, (∃ y, log[j]? = some y ∧ opens y = true) ∧ log.length = j + 1 := by
  induction log using reverseRecOn with
  | nil => simp at h
  | append_singleton log e =>
    rw [isOpen_snoc] at h
    exact ⟨log.length, by simp, ⟨e, getElem?_concat_length, h⟩, by simp⟩

theorem ClosesOpened.snoc (h : ClosesOpened opens log)
    (he : opens e = false → isOpen opens log = true) : ClosesOpened opens (log ++ [e]) := by
  intro i x hx hclose
  obtain hx | ⟨rfl, rfl⟩ := getElem?_snoc.mp hx
  · obtain ⟨j, hji, ⟨y, hy, hopen⟩, hbetween⟩ := h i x hx hclose
    refine ⟨j, hji, ⟨y, getElem?_snoc.mpr (.inl hy), hopen⟩, fun k z hjk hki hz => ?_⟩
    have hi := (List.getElem?_eq_some_iff.mp hx).1
    obtain hz | ⟨rfl, -⟩ := getElem?_snoc.mp hz
    · exact hbetween k z hjk hki hz
    · omega
  · -- The event before the new one is the opening one.
    obtain ⟨j, hj, ⟨y, hy, hopen⟩, hlen⟩ := exists_of_isOpen (he hclose)
    exact ⟨j, hj, ⟨y, getElem?_snoc.mpr (.inl hy), hopen⟩, fun k z hjk hki => by omega⟩

def Spaced (opens : E → Bool) (time : E → ℕ) (gap : ℕ) (log : List E) : Prop :=
  ∀ (i j : ℕ) x y, i < j → log[i]? = some x → log[j]? = some y → opens x = true → opens y = true →
    (∀ (k : ℕ) z, i < k → k < j → log[k]? = some z → opens z = true) → time x + gap ≤ time y

variable {time : E → ℕ} {gap : ℕ}

theorem spaced_nil : Spaced opens time gap [] := by simp [Spaced]

theorem Spaced.snoc (h : Spaced opens time gap log)
    (he : opens e = true → isOpen opens log = true → ∀ x ∈ log, time x + gap ≤ time e) :
    Spaced opens time gap (log ++ [e]) := by
  intro i j x y hij hx hy hox hoy hbetween
  have hj : j < log.length + 1 := by simpa using (List.getElem?_eq_some_iff.mp hy).1
  replace hx : log[i]? = some x := by
    rwa [getElem?_append_left (by omega)] at hx
  obtain hy | ⟨rfl, rfl⟩ := getElem?_snoc.mp hy
  · exact h i j x y hij hx hy hox hoy fun k z hik hkj hz =>
      hbetween k z hik hkj (getElem?_snoc.mpr (.inl hz))
  · -- The last event of the log is `x` or lies between the two, so it opened an episode.
    have hopen : isOpen opens log = true := by
      obtain ⟨last, hlast⟩ : ∃ last, log[log.length - 1]? = some last :=
        ⟨_, getElem?_eq_getElem (by omega)⟩
      rw [isOpen, getLast?_eq_getElem?, hlast, Option.any_some]
      rcases eq_or_lt_of_le (Nat.le_sub_one_of_lt hij) with rfl | hi
      · rw [Option.some.inj (hlast.symm.trans hx)]
        exact hox
      · exact hbetween _ last hi (by omega) (getElem?_snoc.mpr (.inl hlast))
    exact he hoy hopen x (mem_of_getElem? hx)

end XLStatus.EventLog
