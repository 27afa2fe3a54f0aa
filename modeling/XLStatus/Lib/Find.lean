import Mathlib.Tactic

/-! The first occurrence of a pattern in a list. -/

namespace XLStatus.Find

open List Option

variable {α : Type*} [DecidableEq α]

def find (pat : List α) : List α → Option (List α × List α)
  | [] => none
  | a :: l =>
    if pat <+: a :: l then some ([], (a :: l).drop pat.length)
    else (find pat l).map fun found => (a :: found.1, found.2)

variable {pat l before after : List α}

theorem eq_append_of_find (h : find pat l = some (before, after)) :
    l = before ++ pat ++ after := by
  induction l generalizing before with
  | nil => cases h
  | cons a l ih =>
    unfold find at h
    split_ifs at h with hpat
    · obtain ⟨rest, hrest⟩ := hpat
      obtain ⟨rfl, rfl⟩ := Prod.mk.inj (some.inj h)
      rw [← hrest, drop_left, nil_append]
    · obtain ⟨found, hfound, heq⟩ := map_eq_some_iff.mp h
      obtain ⟨rfl, rfl⟩ := Prod.mk.inj heq
      rw [ih hfound, cons_append, cons_append]

theorem length_lt_of_find (hpat : pat ≠ []) (h : find pat l = some (before, after)) :
    after.length < l.length := by
  have hlength := congrArg length (eq_append_of_find h)
  have := length_pos_iff.mpr hpat
  simp only [length_append] at hlength
  omega

def findFirst (p : List α → Bool) : List α → Option (List α × List α)
  | [] => none
  | a :: l =>
    if p (a :: l) then some ([], a :: l)
    else (findFirst p l).map fun found => (a :: found.1, found.2)

omit [DecidableEq α]

theorem findFirst_eq_none {p : List α → Bool} (h : findFirst p l = none) {t : List α}
    (ht : t <:+ l) (hne : t ≠ []) : p t = false := by
  induction l with
  | nil => exact absurd (suffix_nil.mp ht) hne
  | cons a l ih =>
    unfold findFirst at h
    split_ifs at h with hp
    rcases suffix_cons_iff.mp ht with rfl | ht
    · exact Bool.eq_false_iff.mpr hp
    · exact ih (map_eq_none_iff.mp h) ht

theorem findFirst_eq_some {p : List α → Bool} (h : findFirst p l = some (before, after)) :
    l = before ++ after ∧ p after = true ∧
      ∀ x y, before = x ++ y → y ≠ [] → p (y ++ after) = false := by
  induction l generalizing before with
  | nil => cases h
  | cons a l ih =>
    unfold findFirst at h
    split_ifs at h with hp
    · obtain ⟨rfl, rfl⟩ := Prod.mk.inj (some.inj h)
      refine ⟨rfl, hp, fun x y hxy hy => ?_⟩
      exact absurd (append_eq_nil_iff.mp hxy.symm).2 hy
    · obtain ⟨found, hfound, heq⟩ := map_eq_some_iff.mp h
      obtain ⟨rfl, rfl⟩ := Prod.mk.inj heq
      obtain ⟨rfl, hafter, hearlier⟩ := ih hfound
      refine ⟨rfl, hafter, fun x y hxy hy => ?_⟩
      cases x with
      | nil =>
        rw [nil_append] at hxy
        rw [← hxy]
        exact Bool.eq_false_iff.mpr hp
      | cons c x => exact hearlier x y (List.cons.inj hxy).2 hy

theorem mem_of_prefix_append {w a b : List α} (h : w <+: a ++ b) :
    w <+: a ∨ ∃ c rest, b = c :: rest ∧ c ∈ w.drop a.length := by
  rcases prefix_or_prefix_of_prefix h (prefix_append a b) with hw | ⟨w', rfl⟩
  · exact .inl hw
  · cases w' with
    | nil => exact .inl (by rw [append_nil])
    | cons c w' =>
      obtain ⟨rest, hrest⟩ := (prefix_append_right_inj a).mp h
      refine .inr ⟨c, w' ++ rest, hrest.symm, ?_⟩
      rw [drop_left]
      exact mem_cons_self

end XLStatus.Find
