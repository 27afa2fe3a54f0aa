import Mathlib.Order.Basic
import Mathlib.Tactic

/-! Maps with ordered keys. The entries are listed from the largest key down, so that the entries
from some key on, or the largest ones, are an initial part of the list. -/

structure SortedMap (K V : Type*) [LinearOrder K] where
  entries : List (K × V)
  sorted : entries.Pairwise fun a b => b.1 < a.1

namespace SortedMap

open List

variable {K V : Type*} [LinearOrder K]

def insertEntry (k : K) (v : V) : List (K × V) → List (K × V)
  | [] => [(k, v)]
  | e :: l =>
    if e.1 < k then (k, v) :: e :: l
    else if e.1 = k then (k, v) :: l
    else e :: insertEntry k v l

variable {l : List (K × V)} {e : K × V} {k : K} {v : V} {m : SortedMap K V}

theorem mem_insertEntry (h : e ∈ insertEntry k v l) : e = (k, v) ∨ e ∈ l := by
  induction l with
  | nil => exact .inl (mem_singleton.mp h)
  | cons a l ih =>
    unfold insertEntry at h
    split_ifs at h
    · exact mem_cons.mp h
    · exact (mem_cons.mp h).imp_right (mem_cons_of_mem a)
    · rcases mem_cons.mp h with rfl | h
      · exact .inr mem_cons_self
      · exact (ih h).imp_right (mem_cons_of_mem a)

theorem length_insertEntry_le (k : K) (v : V) (l : List (K × V)) :
    (insertEntry k v l).length ≤ l.length + 1 := by
  induction l with
  | nil => exact le_rfl
  | cons a l ih =>
    unfold insertEntry
    split_ifs
    · exact le_rfl
    · exact Nat.le_succ _
    · exact Nat.succ_le_succ ih

theorem insertEntry_of_forall_lt (h : ∀ e ∈ l, e.1 < k) :
    insertEntry k v l = (k, v) :: l := by
  cases l with
  | nil => rfl
  | cons a => exact if_pos (h a mem_cons_self)

theorem map_insertEntry {W : Type*} (f : V → W) (k : K) (v : V) (l : List (K × V)) :
    (insertEntry k v l).map (Prod.map id f) =
      insertEntry k (f v) (l.map (Prod.map id f)) := by
  induction l with
  | nil => rfl
  | cons a l ih =>
    simp only [insertEntry, map_cons, Prod.map_fst, id_eq]
    split_ifs
    · rfl
    · rfl
    · rw [map_cons, ih]

theorem pairwise_insertEntry (h : l.Pairwise fun a b => b.1 < a.1) :
    (insertEntry k v l).Pairwise fun a b => b.1 < a.1 := by
  induction l with
  | nil => exact pairwise_singleton _ _
  | cons a l ih =>
    obtain ⟨ha, hl⟩ := pairwise_cons.mp h
    unfold insertEntry
    split_ifs with hlt heq
    · refine pairwise_cons.mpr ⟨?_, h⟩
      intro e he
      rcases mem_cons.mp he with rfl | he
      · exact hlt
      · exact (ha e he).trans hlt
    · exact pairwise_cons.mpr ⟨fun e he => heq ▸ ha e he, hl⟩
    · refine pairwise_cons.mpr ⟨?_, ih hl⟩
      intro e he
      rcases mem_insertEntry he with rfl | he
      · exact lt_of_le_of_ne (not_lt.mp hlt) (Ne.symm heq)
      · exact ha e he

def empty : SortedMap K V := ⟨[], List.Pairwise.nil⟩

def len (m : SortedMap K V) : ℕ := m.entries.length

def isEmpty (m : SortedMap K V) : Bool := m.entries.isEmpty

def insert (m : SortedMap K V) (k : K) (v : V) : SortedMap K V :=
  ⟨insertEntry k v m.entries, pairwise_insertEntry m.sorted⟩

def splitOff (m : SortedMap K V) (c : K) : SortedMap K V :=
  ⟨m.entries.takeWhile fun e => decide (c ≤ e.1), m.sorted.sublist (takeWhile_sublist _)⟩

def popFirst (m : SortedMap K V) : SortedMap K V :=
  ⟨m.entries.dropLast, m.sorted.sublist (dropLast_sublist _)⟩

def last (m : SortedMap K V) : Option (K × V) := m.entries.head?

def range (m : SortedMap K V) (c : K) : List (K × V) := (m.splitOff c).entries.reverse

theorem ext_entries {n : SortedMap K V} (h : m.entries = n.entries) : m = n := by
  cases m
  cases n
  cases h
  rfl

theorem entries_popFirst_iterate (m : SortedMap K V) (n : ℕ) :
    (popFirst^[n] m).entries = m.entries.take (m.len - n) := by
  induction n with
  | zero => exact take_length.symm
  | succ n ih =>
    rw [Function.iterate_succ_apply']
    change (popFirst^[n] m).entries.dropLast = _
    rw [ih, dropLast_eq_take, take_take, length_take]
    congr 1
    change _ = m.entries.length - (n + 1)
    unfold len
    omega

def retained (c : K) (n : ℕ) (l : List (K × V)) : List (K × V) :=
  (l.takeWhile fun e => decide (c ≤ e.1)).take n

section

variable (c : K) (n : ℕ)

variable {e : K × V}

@[simp] theorem retained_zero (l : List (K × V)) : retained c 0 l = [] := take_zero

@[simp] theorem retained_nil : retained c n ([] : List (K × V)) = [] := take_nil

theorem retained_cons_of_le (h : c ≤ e.1) (l : List (K × V)) :
    retained c (n + 1) (e :: l) = e :: retained c n l := by
  unfold retained
  rw [takeWhile_cons, if_pos (decide_eq_true h), take_succ_cons]

theorem retained_cons_of_lt (h : e.1 < c) (l : List (K × V)) :
    retained c n (e :: l) = [] := by
  unfold retained
  rw [takeWhile_cons_of_neg (by simpa using h), take_nil]

theorem retained_retained {c' : K} {n' : ℕ} (hc : c' ≤ c) (hn : n ≤ n') (l : List (K × V)) :
    retained c n (retained c' n' l) = retained c n l := by
  induction l generalizing n n' with
  | nil => rw [retained_nil]
  | cons e l ih =>
    cases n with
    | zero => rw [retained_zero, retained_zero]
    | succ n =>
      obtain ⟨n', rfl⟩ : ∃ k, n' = k + 1 := ⟨n' - 1, by omega⟩
      rcases lt_or_ge e.1 c with he | he
      · rw [retained_cons_of_lt c _ he]
        rcases lt_or_ge e.1 c' with he' | he'
        · rw [retained_cons_of_lt c' _ he', retained_nil]
        · rw [retained_cons_of_le c' _ he', retained_cons_of_lt c _ he]
      · rw [retained_cons_of_le c' _ (hc.trans he), retained_cons_of_le c _ he,
          retained_cons_of_le c _ he, ih n (by omega)]

theorem retained_insertEntry_retained (k : K) (v : V) (l : List (K × V)) :
    retained c n (insertEntry k v (retained c n l)) = retained c n (insertEntry k v l) := by
  induction l generalizing n with
  | nil => rw [retained_nil]
  | cons e l ih =>
    cases n with
    | zero => rw [retained_zero, retained_zero]
    | succ n =>
      rcases lt_or_ge e.1 c with he | he
      · rw [retained_cons_of_lt c _ he]
        unfold insertEntry
        split_ifs with hlt heq
        · rcases lt_or_ge k c with hk | hk
          · rw [retained_cons_of_lt c _ hk, retained_cons_of_lt c _ hk]
          · rw [retained_cons_of_le c n hk, retained_cons_of_le c n hk, retained_cons_of_lt c _ he,
              retained_nil]
        · rw [retained_cons_of_lt c _ (heq ▸ he), retained_cons_of_lt c _ (heq ▸ he)]
        · have hk : k < c := lt_of_le_of_lt (not_lt.mp hlt) he
          rw [retained_cons_of_lt c _ hk, retained_cons_of_lt c _ he]
      · rw [retained_cons_of_le c n he]
        unfold insertEntry
        split_ifs with hlt heq
        · have hk : c ≤ k := he.trans hlt.le
          rw [retained_cons_of_le c n hk, retained_cons_of_le c n hk]
          congr 1
          cases n with
          | zero => rw [retained_zero, retained_zero]
          | succ n =>
            rw [retained_cons_of_le c n he, retained_cons_of_le c n he,
              retained_retained c n le_rfl (Nat.le_succ n)]
        · rw [retained_cons_of_le c n (heq ▸ he), retained_cons_of_le c n (heq ▸ he),
            retained_retained c n le_rfl le_rfl]
        · rw [retained_cons_of_le c n he, retained_cons_of_le c n he, ih n]

theorem takeWhile_eq_retained {l : List (K × V)} (h : l.length ≤ n) :
    (l.takeWhile fun e => decide (c ≤ e.1)) = retained c n l :=
  (take_of_length_le ((takeWhile_sublist _).length_le.trans h)).symm

end

theorem takeWhile_eq_filter (h : l.Pairwise fun a b => b.1 < a.1) (c : K) :
    (l.takeWhile fun e => decide (c ≤ e.1)) = l.filter fun e => decide (c ≤ e.1) := by
  induction l with
  | nil => rfl
  | cons e l ih =>
    obtain ⟨he, hl⟩ := pairwise_cons.mp h
    rcases lt_or_ge e.1 c with hc | hc
    · have hnone : ∀ a ∈ e :: l, ¬ decide (c ≤ a.1) = true := by
        intro a ha
        rcases mem_cons.mp ha with rfl | ha
        · simpa using hc
        · simpa using (he a ha).trans hc
      rw [takeWhile_cons, if_neg (hnone e mem_cons_self),
        filter_eq_nil_iff.mpr hnone]
    · rw [takeWhile_cons, if_pos (decide_eq_true hc), ih hl, filter_cons,
        if_pos (decide_eq_true hc)]

theorem range_eq_filter (m : SortedMap K V) (c : K) :
    m.range c = (m.entries.filter fun e => decide (c ≤ e.1)).reverse :=
  congrArg reverse (takeWhile_eq_filter m.sorted c)

theorem mem_range {c : K} :
    e ∈ m.range c ↔ e ∈ m.entries ∧ c ≤ e.1 := by
  rw [range_eq_filter, mem_reverse, mem_filter, decide_eq_true_iff]

theorem range_max (m : SortedMap K V) (c c' : K) :
    m.range (max c c') = (m.range c').filter fun e => decide (c ≤ e.1) := by
  rw [range_eq_filter, range_eq_filter, filter_reverse, filter_filter]
  simp only [max_le_iff, Bool.decide_and]

theorem sorted_range (m : SortedMap K V) (c : K) : (m.range c).Pairwise fun a b => a.1 < b.1 :=
  pairwise_reverse.mpr (m.splitOff c).sorted

theorem getLast?_range (m : SortedMap K V) (c : K) :
    (m.range c).getLast? = m.last.filter fun e => decide (c ≤ e.1) := by
  change (m.entries.takeWhile _).reverse.getLast? = m.entries.head?.filter _
  rw [getLast?_reverse]
  cases m.entries with
  | nil => rfl
  | cons =>
    rw [head?_cons, Option.filter_some, takeWhile_cons]
    split_ifs <;> rfl

end SortedMap
