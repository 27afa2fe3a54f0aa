import XLStatus.Lib.Items
import XLStatus.Servers.MetadataDefs

/-! The normal form of tags. A tag is compared with those in front of it before it is cut, so
cutting can bring back a tag that is there already, and white space at the end. -/

namespace XLStatus.Servers

open List

open Text (trim isControl isWhitespace trim_eq_self_iff)

def truncated (tag : String) : String := String.ofList (tag.toList.take 24)

def keptTags (tags : List String) : List String :=
  tags.foldl (fun kept tag =>
    let cleaned := trim tag
    if kept.length ≥ 8 || cleaned = "" || cleaned.toList.any isControl ||
      (kept.map truncated).contains cleaned then kept
    else kept ++ [cleaned]) []

structure CanonicalTags (tags : List String) : Prop where
  length_le : tags.length ≤ 8
  nodup : tags.Nodup
  tag : ∀ tag ∈ tags, tag ≠ "" ∧ trim tag = tag ∧ tag.toList.length ≤ 24

def CutsClean (kept : List String) : Prop :=
  (kept.map truncated).Nodup ∧
    ∀ tag ∈ kept, ∀ c ∈ (truncated tag).toList.getLast?, isWhitespace c = false

theorem normalizeTags_eq (tags : List String) :
    normalizeTags tags = (keptTags tags).map truncated := by
  unfold normalizeTags keptTags
  rw [← foldl_hom (List.map truncated)]
  · rfl
  · intro kept tag
    simp only [length_map]
    split_ifs
    · rfl
    · rw [map_append]
      rfl

structure KeptTags (kept : List String) : Prop where
  length_le : kept.length ≤ 8
  tag : ∀ tag ∈ kept, tag ≠ "" ∧ trim tag = tag ∧ ∀ c ∈ tag.toList, isControl c = false

theorem keptTags_spec (tags : List String) : KeptTags (keptTags tags) := by
  refine foldlRecOn tags _ (motive := KeptTags)
    ⟨Nat.zero_le _, fun _ h => absurd h not_mem_nil⟩ ?_
  intro kept hkept tag _
  simp only
  split_ifs with hskip
  · exact hkept
  · simp only [Bool.or_eq_true, decide_eq_true_eq, not_or, any_eq_true, not_exists,
      not_and, Bool.not_eq_true] at hskip
    refine ⟨?_, fun other hother => ?_⟩
    · rw [length_append]
      exact Nat.succ_le_of_lt (not_le.mp hskip.1.1.1)
    · rcases mem_append.mp hother with hother | hother
      · exact hkept.tag other hother
      · rw [mem_singleton.mp hother]
        exact ⟨hskip.1.1.2, Text.trim_trim tag, hskip.1.2⟩

theorem truncated_ne_empty {tag : String} (h : tag ≠ "") : truncated tag ≠ "" := by
  intro hempty
  have htake : tag.toList.take 24 = [] := String.ofList_eq_empty_iff.mp hempty
  have hnil := (take_eq_nil_iff.mp htake).resolve_left (by decide)
  exact h (String.toList_eq_nil_iff.mp hnil)

theorem trim_truncated_iff {tag : String} (h : trim tag = tag) :
    trim (truncated tag) = truncated tag ↔
      ∀ c ∈ (truncated tag).toList.getLast?, isWhitespace c = false := by
  rw [trim_eq_self_iff, and_iff_right_iff_imp]
  intro _ c hc
  rw [truncated, String.toList_ofList, head?_take] at hc
  exact (trim_eq_self_iff.mp h).1 c (by simpa using hc)

theorem canonical_normalizeTags_iff (tags : List String) :
    CanonicalTags (normalizeTags tags) ↔ CutsClean (keptTags tags) := by
  obtain ⟨hlength, hkept⟩ := keptTags_spec tags
  rw [normalizeTags_eq]
  constructor
  · intro h
    refine ⟨h.nodup, fun tag htag => ?_⟩
    rw [← trim_truncated_iff (hkept tag htag).2.1]
    exact (h.tag _ (mem_map_of_mem htag)).2.1
  · rintro ⟨hnodup, hend⟩
    refine ⟨(length_map _).le.trans hlength, hnodup, forall_mem_map.mpr ?_⟩
    intro tag htag
    obtain ⟨hne, htrim, -⟩ := hkept tag htag
    refine ⟨truncated_ne_empty hne, (trim_truncated_iff htrim).mpr (hend tag htag), ?_⟩
    rw [truncated, String.toList_ofList]
    exact length_take_le _ _

def addTag (out : List String) (tag : String) : List String :=
  let cleaned := trim tag
  if out.length ≥ 8 || cleaned = "" || cleaned.toList.any isControl || out.contains cleaned then out
  else out ++ [truncated cleaned]

theorem addTag_of_canonical {out : List String} {tag : String} (h : CanonicalTags (out ++ [tag]))
    (hcontrol : ∀ c ∈ tag.toList, isControl c = false) : addTag out tag = out ++ [tag] := by
  obtain ⟨hne, htrim, hlen⟩ := h.tag tag mem_concat_self
  have hroom : ¬ out.length ≥ 8 := by
    have hlength := h.length_le
    rw [length_append, length_singleton] at hlength
    omega
  have hnew : tag ∉ out := fun hin =>
    (nodup_append.mp h.nodup).2.2 tag hin tag (mem_singleton_self tag) rfl
  have hcut : truncated tag = tag := by
    rw [truncated, take_of_length_le hlen, String.ofList_toList]
  have hplain : tag.toList.any isControl = false :=
    any_eq_false.mpr fun c hc => by simp [hcontrol c hc]
  simp [addTag, htrim, hroom, hne, hplain, hnew, hcut]

theorem normalizeTags_of_canonical {tags : List String} (h : CanonicalTags tags)
    (hcontrol : ∀ tag ∈ tags, ∀ c ∈ tag.toList, isControl c = false) :
    normalizeTags tags = tags := by
  change tags.foldl addTag [] = tags
  induction tags using reverseRecOn with
  | nil => rfl
  | append_singleton out tag ih =>
    have hout : CanonicalTags out := by
      refine ⟨?_, (nodup_append.mp h.nodup).1, fun t ht => h.tag t (mem_append_left _ ht)⟩
      exact (length_append ▸ Nat.le_add_right _ _ : out.length ≤ _).trans h.length_le
    rw [foldl_concat, ih hout fun t ht => hcontrol t (mem_append_left _ ht)]
    exact addTag_of_canonical h (hcontrol tag mem_concat_self)

end XLStatus.Servers
