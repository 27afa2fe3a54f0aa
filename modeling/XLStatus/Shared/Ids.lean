import XLStatus.Lib.Text

/-! Agent and user identifiers. A UUID is carried by its canonical text: the form the
identifiers are displayed in, compared in and used in as part of map keys. -/

namespace XLStatus.Shared

open List Text

/-- Thirty-six characters, hyphens in the four fixed places and lower-case
hexadecimal digits elsewhere. -/
def isCanonicalUuid (s : String) : Bool :=
  s.toList.length == 36 && (s.toList.zipIdx.all fun (c, i) =>
    if i ∈ [8, 13, 18, 23] then c == '-' else isLowerHexDigit c)

structure AgentId where
  text : String
  canonical : isCanonicalUuid text = true
  deriving DecidableEq

structure UserId where
  text : String
  canonical : isCanonicalUuid text = true
  deriving DecidableEq

inductive UserRole where
  | admin
  | member
  deriving DecidableEq, Repr

def UserRole.isAdmin : UserRole → Bool
  | .admin => true
  | .member => false

def uuidText (s : String) : String :=
  let hyphenated (l : List Char) : String :=
    String.ofList (l.map fun c => if 'A' ≤ c ∧ c ≤ 'F' then c.toLower else c)
  let l := s.toList
  if l.length = 32 then
    hyphenated (l.take 8 ++ ['-'] ++ (l.drop 8).take 4 ++ ['-'] ++ (l.drop 12).take 4 ++ ['-'] ++
      (l.drop 16).take 4 ++ ['-'] ++ l.drop 20)
  else if l.length = 38 ∧ l.head? = some '\x7b' ∧ l.getLast? = some '\x7d' then
    hyphenated (l.drop 1).dropLast
  else if l.length = 45 ∧ startsWith s "urn:uuid:" then hyphenated (l.drop 9)
  else hyphenated l

def parseUuid (s : String) : Option { text : String // isCanonicalUuid text = true } :=
  if h : isCanonicalUuid (uuidText s) = true then some ⟨uuidText s, h⟩ else none

theorem canonical_parsed (u : { text : String // isCanonicalUuid text = true }) :
    isCanonicalUuid u.1 = true :=
  u.2

/-! Identifiers the samples use. -/

theorem canonical_one : isCanonicalUuid "00000000-0000-4000-8000-000000000001" = true := by
  decide

theorem canonical_two : isCanonicalUuid "00000000-0000-4000-8000-000000000002" = true := by
  decide

theorem canonical_nil : isCanonicalUuid "00000000-0000-0000-0000-0000000000a1" = true := by
  decide

theorem canonical_v7 : isCanonicalUuid "0190a6f4-2b1c-7c3d-8e4f-5a6b7c8d9e0f" = true := by
  decide

theorem canonical_v7a : isCanonicalUuid "0190a6f4-2b1c-7c3d-8e4f-00000000000a" = true := by
  decide

theorem canonical_v7b : isCanonicalUuid "0190a6f4-2b1c-7c3d-8e4f-00000000000b" = true := by
  decide

theorem AgentId.ext_text {a b : AgentId} (h : a.text = b.text) : a = b := by
  cases a
  cases b
  cases h
  rfl

variable {s : String} {c : Char}

theorem exists_of_isCanonicalUuid (h : isCanonicalUuid s = true) :
    ∃ a l b, s.toList = a :: (l ++ [b]) ∧ l.length = 34 ∧ isLowerHexDigit a = true ∧
      isLowerHexDigit b = true := by
  unfold isCanonicalUuid at h
  rw [Bool.and_eq_true, beq_iff_eq] at h
  obtain ⟨hlen, hall⟩ := h
  have hdigit : ∀ i, (hi : i < s.toList.length) → i ∉ [8, 13, 18, 23] →
      isLowerHexDigit s.toList[i] = true := by
    intro i hi hmem
    have hi' := all_eq_true.mp hall (s.toList[i], i)
      (mk_mem_zipIdx_iff_getElem?.mpr (getElem?_eq_getElem hi))
    simp only [if_neg hmem] at hi'
    exact hi'
  cases hs : s.toList with
  | nil => simp [hs] at hlen
  | cons a t =>
    have hne : t ≠ [] := by
      rintro rfl
      simp [hs] at hlen
    have ht : t.length = 35 := by simpa [hs] using hlen
    refine ⟨a, t.dropLast, t.getLast hne, ?_, ?_, ?_, ?_⟩
    · rw [dropLast_append_getLast hne]
    · simp [ht]
    · have h0 := hdigit 0 (by omega) (by decide)
      simpa only [hs, getElem_cons_zero] using h0
    · have h35 := hdigit 35 (by omega) (by decide)
      simp only [hs, getElem_cons_succ] at h35
      rwa [getLast_eq_getElem, show t[t.length - 1] = t[34] by simp [ht]]

theorem AgentId.length_text (a : AgentId) : a.text.toList.length = 36 := by
  obtain ⟨c, l, d, htext, hlen, -, -⟩ := exists_of_isCanonicalUuid a.canonical
  simp [htext, hlen]

theorem AgentId.text_eq_cons (a : AgentId) :
    ∃ c cs, a.text.toList = c :: cs ∧ isLowerHexDigit c = true := by
  obtain ⟨c, l, d, htext, -, hc, -⟩ := exists_of_isCanonicalUuid a.canonical
  exact ⟨c, l ++ [d], htext, hc⟩

theorem isWhitespace_of_isLowerHexDigit (h : isLowerHexDigit c = true) :
    isWhitespace c = false := by
  simp only [isLowerHexDigit, Bool.or_eq_true, Bool.and_eq_true, decide_eq_true_eq,
    Char.le_def, UInt32.le_iff_toNat_le] at h
  simp only [isWhitespace, Bool.or_eq_false_iff, Bool.and_eq_false_iff,
    decide_eq_false_iff_not, beq_eq_false_iff_ne, UInt32.le_iff_toNat_le, ne_eq,
    ← UInt32.toNat_inj]
  simp only [UInt32.toNat_ofNat, Char.reduceVal] at h ⊢
  omega

theorem trim_of_isCanonicalUuid (h : isCanonicalUuid s = true) : trim s = s := by
  obtain ⟨a, l, b, hs, -, ha, hb⟩ := exists_of_isCanonicalUuid h
  exact trim_eq_self hs (isWhitespace_of_isLowerHexDigit ha)
    (isWhitespace_of_isLowerHexDigit hb)

theorem eq_hyphen_or_digit_of_mem (h : isCanonicalUuid s = true) (hc : c ∈ s.toList) :
    c = '-' ∨ isLowerHexDigit c = true := by
  unfold isCanonicalUuid at h
  rw [Bool.and_eq_true] at h
  obtain ⟨i, hi⟩ := getElem?_of_mem hc
  have hci := all_eq_true.mp h.2 (c, i) (mk_mem_zipIdx_iff_getElem?.mpr hi)
  by_cases hhyphen : i ∈ [8, 13, 18, 23]
  · simp only [if_pos hhyphen, beq_iff_eq] at hci
    exact .inl hci
  · simp only [if_neg hhyphen] at hci
    exact .inr hci

theorem uuidText_of_isCanonicalUuid (h : isCanonicalUuid s = true) :
    uuidText s = s := by
  have hlen : s.toList.length = 36 := by
    unfold isCanonicalUuid at h
    rw [Bool.and_eq_true, beq_iff_eq] at h
    exact h.1
  have hlower : ∀ c ∈ s.toList, (if 'A' ≤ c ∧ c ≤ 'F' then c.toLower else c) = c := by
    intro c hc
    refine if_neg fun hupper => ?_
    simp only [Char.le_def, UInt32.le_iff_toNat_le] at hupper
    rcases eq_hyphen_or_digit_of_mem h hc with rfl | hdigit
    · simp at hupper
    · simp only [isLowerHexDigit, Bool.or_eq_true, Bool.and_eq_true, decide_eq_true_eq,
        Char.le_def, UInt32.le_iff_toNat_le, Char.reduceVal, UInt32.toNat_ofNat] at hdigit hupper
      omega
  unfold uuidText
  simp only [hlen]
  rw [if_neg (by decide), if_neg (by simp), if_neg (by simp)]
  rw [map_congr_left hlower, map_id', String.ofList_toList]

theorem parseUuid_of_isCanonicalUuid (h : isCanonicalUuid s = true) :
    parseUuid s = some ⟨s, h⟩ := by
  have htext := uuidText_of_isCanonicalUuid h
  unfold parseUuid
  rw [dif_pos (by rw [htext]; exact h)]
  exact congrArg some (Subtype.ext htext)

theorem parseUuid_eq_self_of_trim {u : { text : String // isCanonicalUuid text = true }}
    (hparse : parseUuid s = some u) (htrim : isCanonicalUuid (trim s) = true) : u.1 = s := by
  obtain ⟨a, l, b, hs, hlen, ha, -⟩ := exists_of_isCanonicalUuid htrim
  obtain ⟨before, after, hparts, hblank, -⟩ := exists_append_trim s
  rw [hs] at hparts
  -- The text starts with a blank or with a digit, so it has no brace and no scheme in front.
  have hfirst : ∀ c cs, s.toList = c :: cs →
      isWhitespace c = true ∨ isLowerHexDigit c = true := by
    intro c cs hc
    rw [hparts] at hc
    cases before with
    | nil => exact .inr ((List.cons.inj hc).1 ▸ ha)
    | cons d => exact .inl ((List.cons.inj hc).1 ▸ hblank d mem_cons_self)
  have htotal : s.toList.length = before.length + 36 + after.length := by
    rw [hparts]
    simp only [length_append, length_cons, length_nil, hlen]
  unfold parseUuid at hparse
  split at hparse
  · rename_i hcanonical
    have hu : u.1 = uuidText s := congrArg Subtype.val (Option.some.inj hparse).symm
    have hshort : s.toList.length = 36 := by
      unfold uuidText at hcanonical
      simp only at hcanonical
      split at hcanonical
      · omega
      · split at hcanonical
        · rename_i _ hbrace
          obtain ⟨cs, hcs⟩ := head?_eq_some_iff.mp hbrace.2.1
          exact absurd (hfirst _ cs hcs) (by decide)
        · split at hcanonical
          · rename_i _ _ hurn
            obtain ⟨rest, hrest⟩ := startsWith_iff.mp hurn.2
            exact absurd (hfirst 'u' _ hrest.symm) (by decide)
          · obtain ⟨c, m, d, hm, hmlen, -, -⟩ := exists_of_isCanonicalUuid hcanonical
            have := congrArg length hm
            simpa [hmlen] using this
    have hempty : before = [] ∧ after = [] :=
      ⟨length_eq_zero_iff.mp (by omega), length_eq_zero_iff.mp (by omega)⟩
    have hself : trim s = s := by
      refine String.toList_inj.mp ?_
      rw [hs, hparts, hempty.1, hempty.2, nil_append, append_nil]
    rw [hself] at htrim
    rw [hu, uuidText_of_isCanonicalUuid htrim]
  · cases hparse

end XLStatus.Shared
