import Mathlib.Data.List.AList
import Mathlib.Tactic

/-! Finite maps with unique keys: Mathlib's association lists, with the counting
and retaining operations a hash map adds to them, and rows found by their key. -/

abbrev HashMap (K V : Type*) := AList (fun _ : K => V)

namespace AList

open List

variable {K V : Type*}

def len (m : HashMap K V) : ℕ := m.entries.length

def retain (m : HashMap K V) (p : K → V → Bool) : HashMap K V :=
  ⟨m.entries.filter fun e => p e.1 e.2, m.nodupKeys.sublist filter_sublist⟩

def mapVal (m : HashMap K V) (f : K → V → V) : HashMap K V :=
  ⟨m.entries.map (.map id f), m.nodupKeys.map₂ f m.entries⟩

theorem len_retain_le (m : HashMap K V) (p : K → V → Bool) : (m.retain p).len ≤ m.len :=
  length_filter_le _ _

theorem keys_retain_sublist (m : HashMap K V) (p : K → V → Bool) :
    (m.retain p).keys.Sublist m.keys :=
  filter_sublist.map Sigma.fst

theorem len_eq_keys_length (m : HashMap K V) : m.len = m.keys.length := by
  simp [len, AList.keys, List.keys]

variable [DecidableEq K]

theorem lookup_retain (m : HashMap K V) (p : K → V → Bool) (k : K) :
    (m.retain p).lookup k = (m.lookup k).filter (p k) := by
  apply Option.ext
  intro v
  rw [← Option.mem_def, mem_lookup_iff, Option.filter_eq_some_iff]
  change (⟨k, v⟩ : Σ _ : K, V) ∈ m.entries.filter _ ↔ _
  rw [mem_filter, ← mem_lookup_iff, Option.mem_def]

theorem lookup_retain_eq_some {m : HashMap K V} {p : K → V → Bool} {k : K} {v : V} :
    (m.retain p).lookup k = some v ↔ m.lookup k = some v ∧ p k v = true := by
  rw [lookup_retain, Option.filter_eq_some_iff]

theorem lookup_mapVal (m : HashMap K V) (f : K → V → V) (k : K) :
    (m.mapVal f).lookup k = (m.lookup k).map (f k) :=
  dlookup_map₂ k

theorem lookup_insert_eq (m : HashMap K V) (k a : K) (v : V) :
    (m.insert k v).lookup a = if a = k then some v else m.lookup a := by
  by_cases h : a = k
  · subst h
    simp
  · rw [if_neg h, lookup_insert_ne h]

theorem isSome_lookup_insert (m : HashMap K V) (k a : K) (v : V) :
    ((m.insert k v).lookup a).isSome = true ↔ a = k ∨ (m.lookup a).isSome = true := by
  rw [lookup_insert_eq]
  split <;> simp_all

theorem lookup_erase_eq (m : HashMap K V) (k a : K) :
    (m.erase k).lookup a = if a = k then none else m.lookup a := by
  by_cases h : a = k
  · subst h
    simp
  · rw [if_neg h, lookup_erase_ne h]

theorem len_erase_le (m : HashMap K V) (k : K) : (m.erase k).len ≤ m.len := by
  rw [len_eq_keys_length, len_eq_keys_length, keys_erase]
  exact length_erase_le

theorem len_insert_of_mem {m : HashMap K V} {k : K} (v : V) (h : k ∈ m) :
    (m.insert k v).len = m.len := by
  have hk : k ∈ m.keys := mem_keys.mp h
  have hpos : 0 < m.keys.length := length_pos_of_mem hk
  rw [len_eq_keys_length, len_eq_keys_length, keys_insert, length_cons,
    length_erase_of_mem hk]
  omega

theorem length_filter_keys_insert_le (m : HashMap K V) (k : K) (v : V) (p : K → Bool) :
    ((m.insert k v).keys.filter p).length ≤
      (m.keys.filter p).length + if p k then 1 else 0 := by
  have hrest : ((m.keys.erase k).filter p).length ≤ (m.keys.filter p).length :=
    (erase_sublist.filter p).length_le
  rw [keys_insert, filter_cons]
  split
  · rw [length_cons]
    exact Nat.succ_le_succ hrest
  · exact hrest

theorem len_insert_le (m : HashMap K V) (k : K) (v : V) : (m.insert k v).len ≤ m.len + 1 := by
  rw [len_eq_keys_length, len_eq_keys_length, keys_insert, length_cons]
  exact Nat.succ_le_succ length_erase_le

theorem len_retain_insert_le (m : HashMap K V) (k : K) (v : V) (p : K → V → Bool) :
    ((m.insert k v).retain p).len ≤ (m.retain p).len + 1 := by
  have hrest : ((m.entries.kerase k).filter fun e => p e.1 e.2).length ≤ (m.retain p).len :=
    ((kerase_sublist k m.entries).filter _).length_le
  have hcons : ((m.insert k v).retain p).len ≤
      ((m.entries.kerase k).filter fun e => p e.1 e.2).length + 1 := by
    simp only [len, retain, entries_insert, filter_cons]
    split
    · exact le_rfl
    · exact Nat.le_succ _
  exact hcons.trans (Nat.succ_le_succ hrest)

end AList

theorem List.find?_eq_some_of_nodup_map {α K : Type*} [DecidableEq K] {key : α → K} {l : List α}
    (hnodup : (l.map key).Nodup) {a : α} (ha : a ∈ l) {k : K} (hk : key a = k) :
    l.find? (key · == k) = some a := by
  cases hfind : l.find? (key · == k) with
  | none => exact absurd hk (by simpa using find?_eq_none.mp hfind a ha)
  | some found =>
    have hfound : key found = k := by simpa using find?_some hfind
    rw [inj_on_of_nodup_map hnodup (mem_of_find?_eq_some hfind) ha
      (hfound.trans hk.symm)]
