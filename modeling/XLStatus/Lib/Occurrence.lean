import Mathlib.Tactic

/-! A function that gives the next point of a set, asked at later and later points. -/

namespace XLStatus

variable {T : Type*} [LinearOrder T] {S : Set T} {next : T → Option T}

structure NextAfter (S : Set T) (next : T → Option T) : Prop where
  least : ∀ t u, next t = some u → IsLeast {v ∈ S | t < v} u
  last : ∀ t, next t = none → ∀ u ∈ S, u ≤ t

namespace NextAfter

theorem reached_iff (h : NextAfter S next) {s t : T} :
    (∃ u, next s = some u ∧ u ≤ t) ↔ ∃ u ∈ S, s < u ∧ u ≤ t := by
  constructor
  · rintro ⟨u, hu, hle⟩
    obtain ⟨⟨hS, hlt⟩, -⟩ := h.least s u hu
    exact ⟨u, hS, hlt, hle⟩
  · rintro ⟨v, hv, hlt, hle⟩
    cases hs : next s with
    | none => exact absurd (h.last s hs v hv) (not_le.mpr hlt)
    | some u => exact ⟨u, rfl, ((h.least s u hs).2 ⟨hv, hlt⟩).trans hle⟩

theorem eq_of_not_reached (h : NextAfter S next) {s t : T} (hst : s ≤ t)
    (hnot : ¬ ∃ u, next s = some u ∧ u ≤ t) : next t = next s := by
  cases hs : next s with
  | none =>
    cases ht : next t with
    | none => rfl
    | some v =>
      obtain ⟨⟨hS, hlt⟩, -⟩ := h.least t v ht
      exact absurd (h.last s hs v hS) (not_le.mpr (hst.trans_lt hlt))
  | some u =>
    obtain ⟨⟨hu, hsu⟩, hleast⟩ := h.least s u hs
    have htu : t < u := not_le.mp fun hle => hnot ⟨u, hs, hle⟩
    cases ht : next t with
    | none => exact absurd (h.last t ht u hu) (not_le.mpr htu)
    | some v =>
      obtain ⟨⟨hv, htv⟩, hleast'⟩ := h.least t v ht
      have hvu : v ≤ u := hleast' ⟨hu, htu⟩
      have huv : u ≤ v := hleast ⟨hv, hst.trans_lt htv⟩
      rw [le_antisymm hvu huv]

end NextAfter

end XLStatus
