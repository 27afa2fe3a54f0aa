import Mathlib.Data.String.Basic
import XLStatus.Agent.ConfigDefs
import XLStatus.Lib.SortedMap

/-! The hub that fans out what agents report. Payloads are sanitised when an event is built and
again when it is published. -/

namespace XLStatus.Realtime

open List

open Agent (Json)

def maxRealtimeJsonDepth : ℕ := 8
def maxRealtimeObjectKeys : ℕ := 128
def maxRealtimeKeyChars : ℕ := 128
def maxRealtimeArrayLen : ℕ := 256
def maxRealtimeStringChars : ℕ := 512

def printable (limit : ℕ) (s : String) : String :=
  String.ofList ((s.toList.filter fun c => !Text.isControl c).take limit)

def lowered (key : String) : List Char := (Text.trim key).toList.map Char.toLower

def sensitiveKeys : List String :=
  ["private_key", "public_key", "owner_user_id", "password", "password_hash", "secret",
    "csrf_token", "enrollment_token", "access_token", "refresh_token", "api_key", "bearer",
    "authorization", "cookie", "session_id", "totp_secret"]

def sensitiveEndings : List String := ["_secret", "_token", "_private_key"]

def isSensitiveRealtimeKey (key : String) : Bool :=
  sensitiveKeys.any (fun name => lowered key == name.toList) ||
    sensitiveEndings.any fun ending => ending.toList.isSuffixOf (lowered key)

def sanitizeFields (sanitize : Json → Json) :
    List (String × Json) → SortedMap String Json → SortedMap String Json
  | [], out => out
  | (rawKey, val) :: fields, out =>
    if out.len ≥ maxRealtimeObjectKeys then out
    else
      let key := printable maxRealtimeKeyChars rawKey
      if key = "" ∨ isSensitiveRealtimeKey key then sanitizeFields sanitize fields out
      else sanitizeFields sanitize fields (out.insert key (sanitize val))

def sanitizeWithin : ℕ → Json → Json
  | 0, _ => .null
  | room + 1, .object fields =>
    .object (sanitizeFields (sanitizeWithin room) fields .empty).entries.reverse
  | room + 1, .array items => .array ((items.take maxRealtimeArrayLen).map (sanitizeWithin room))
  | _ + 1, .string s => .string (printable maxRealtimeStringChars s)
  | _ + 1, other => other

def sanitizeRealtimePayload (value : Json) (depth : ℕ) : Json :=
  sanitizeWithin (maxRealtimeJsonDepth + 1 - depth) value

theorem sanitizeRealtimePayload_eq (value : Json) (depth : ℕ) :
    sanitizeRealtimePayload value depth =
      if depth > maxRealtimeJsonDepth then .null
      else match value with
        | .object fields => .object (sanitizeFields
            (fun val => sanitizeRealtimePayload val (depth + 1)) fields .empty).entries.reverse
        | .array items => .array ((items.take maxRealtimeArrayLen).map fun item =>
            sanitizeRealtimePayload item (depth + 1))
        | .string s => .string (printable maxRealtimeStringChars s)
        | other => other := by
  unfold sanitizeRealtimePayload
  split_ifs with hdepth
  · rw [Nat.sub_eq_zero_of_le hdepth]
    rfl
  · obtain ⟨room, hroom⟩ : ∃ room, maxRealtimeJsonDepth + 1 - depth = room + 1 :=
      Nat.exists_eq_add_one.mpr (Nat.sub_pos_of_lt (Nat.lt_succ_of_le (not_lt.mp hdepth)))
    have hnext : maxRealtimeJsonDepth + 1 - (depth + 1) = room := by omega
    rw [hroom, hnext]
    cases value <;> rfl

inductive At : ℕ → Json → Json → Prop
  | here (value : Json) : At 0 value value
  | item {d : ℕ} {items : List Json} {item inner : Json} (hitem : item ∈ items)
      (h : At d item inner) : At (d + 1) (.array items) inner
  | field {d : ℕ} {fields : List (String × Json)} {field : String × Json} {inner : Json}
      (hfield : field ∈ fields) (h : At d field.2 inner) : At (d + 1) (.object fields) inner

def NoControl (s : String) : Prop := ∀ c ∈ s.toList, Text.isControl c = false

structure KeptKey (key : String) : Prop where
  ne_empty : key ≠ ""
  not_sensitive : isSensitiveRealtimeKey key = false
  printable_eq : printable maxRealtimeKeyChars key = key

theorem noControl_printable (limit : ℕ) (s : String) : NoControl (printable limit s) := by
  intro c hc
  rw [printable, String.toList_ofList] at hc
  exact Bool.not_eq_true' _ ▸ (mem_filter.mp (mem_of_mem_take hc)).2

theorem length_printable_le (limit : ℕ) (s : String) :
    (printable limit s).toList.length ≤ limit := by
  rw [printable, String.toList_ofList]
  exact length_take_le _ _

theorem printable_printable (limit : ℕ) (s : String) :
    printable limit (printable limit s) = printable limit s := by
  have hall : (printable limit s).toList.filter (fun c => !Text.isControl c) =
      (printable limit s).toList := by
    refine filter_eq_self.mpr fun c hc => ?_
    rw [noControl_printable limit s c hc]
    rfl
  rw [printable, hall, take_of_length_le (length_printable_le limit s), String.ofList_toList]

section Fields

variable {sanitize : Json → Json} {fields : List (String × Json)} {out : SortedMap String Json}

theorem of_mem_sanitizeFields {e : String × Json}
    (h : e ∈ (sanitizeFields sanitize fields out).entries) :
    e ∈ out.entries ∨ KeptKey e.1 ∧ ∃ val, e.2 = sanitize val := by
  induction fields generalizing out with
  | nil => exact .inl h
  | cons field fields ih =>
    unfold sanitizeFields at h
    dsimp only at h
    split_ifs at h with hfull hdropped
    · exact .inl h
    · exact ih h
    · push Not at hdropped
      rcases ih h with hout | hkept
      · rcases SortedMap.mem_insertEntry hout with rfl | hout
        · exact .inr ⟨⟨hdropped.1, eq_false_of_ne_true hdropped.2, printable_printable _ _⟩, _, rfl⟩
        · exact .inl hout
      · exact .inr hkept

theorem len_sanitizeFields_le (h : out.len ≤ maxRealtimeObjectKeys) :
    (sanitizeFields sanitize fields out).len ≤ maxRealtimeObjectKeys := by
  induction fields generalizing out with
  | nil => exact h
  | cons field fields ih =>
    unfold sanitizeFields
    dsimp only
    split_ifs with hfull hdropped
    · exact h
    · exact ih h
    · refine ih ((SortedMap.length_insertEntry_le _ _ _).trans ?_)
      exact Nat.succ_le_of_lt (not_le.mp hfull)

theorem sanitizeFields_of_kept (hkept : ∀ e ∈ fields, KeptKey e.1 ∧ sanitize e.2 = e.2)
    (hsorted : fields.Pairwise fun a b => a.1 < b.1)
    (hout : ∀ e ∈ out.entries, ∀ field ∈ fields, e.1 < field.1)
    (hlen : fields.length + out.len ≤ maxRealtimeObjectKeys) :
    (sanitizeFields sanitize fields out).entries = fields.reverse ++ out.entries := by
  induction fields generalizing out with
  | nil => rfl
  | cons field fields ih =>
    obtain ⟨⟨hkey, hsanitize⟩, hrest⟩ := forall_mem_cons.mp hkept
    obtain ⟨hfirst, hsorted⟩ := pairwise_cons.mp hsorted
    have hroom : ¬ out.len ≥ maxRealtimeObjectKeys := by
      rw [length_cons] at hlen
      omega
    have hentries : (out.insert field.1 field.2).entries = field :: out.entries :=
      SortedMap.insertEntry_of_forall_lt fun e he => hout e he field mem_cons_self
    have hnot : ¬ (field.1 = "" ∨ isSensitiveRealtimeKey field.1 = true) := by
      rw [hkey.not_sensitive]
      exact fun h => h.elim hkey.ne_empty Bool.false_ne_true
    rw [sanitizeFields, if_neg hroom, hkey.printable_eq, if_neg hnot, hsanitize,
      ih hrest hsorted ?_ ?_, hentries, reverse_cons, append_assoc]
    · rfl
    · intro e he field' hfield'
      rw [hentries] at he
      rcases mem_cons.mp he with rfl | he
      · exact hfirst field' hfield'
      · exact hout e he field' (mem_cons_of_mem _ hfield')
    · rw [SortedMap.len, hentries]
      rw [SortedMap.len] at hlen
      simp only [length_cons] at hlen ⊢
      omega

theorem entries_sanitizeFields {raw : SortedMap String Json}
    (h : out.entries = raw.entries.map (Prod.map id sanitize)) :
    (sanitizeFields sanitize fields out).entries =
      (sanitizeFields id fields raw).entries.map (Prod.map id sanitize) := by
  induction fields generalizing out raw with
  | nil => exact h
  | cons field fields ih =>
    have hlen : out.len = raw.len := by rw [SortedMap.len, h, length_map, SortedMap.len]
    unfold sanitizeFields
    rw [hlen]
    dsimp only
    split_ifs
    · exact h
    · exact ih h
    · refine ih ?_
      change SortedMap.insertEntry _ _ out.entries = _
      rw [h]
      exact (SortedMap.map_insertEntry sanitize _ _ _).symm

end Fields

def Sanitized : Json → Prop
  | .object fields => fields.length ≤ maxRealtimeObjectKeys ∧ ∀ e ∈ fields, KeptKey e.1
  | .array items => items.length ≤ maxRealtimeArrayLen
  | .string s => s.toList.length ≤ maxRealtimeStringChars ∧ NoControl s
  | _ => True

theorem sanitized_of_at {room d : ℕ} {value inner : Json}
    (h : At d (sanitizeWithin room value) inner) :
    Sanitized inner ∧ (d < room ∨ d = room ∧ inner = .null) := by
  induction room generalizing value d with
  | zero =>
    cases h with
    | here => exact ⟨trivial, .inr ⟨rfl, rfl⟩⟩
  | succ room ih =>
    have hdeeper : ∀ {d value}, At d (sanitizeWithin room value) inner →
        Sanitized inner ∧ (d + 1 < room + 1 ∨ d + 1 = room + 1 ∧ inner = .null) := fun h =>
      (ih h).imp_right (Or.imp Nat.succ_lt_succ (And.imp_left (congrArg _)))
    cases value with
    | null | bool | number =>
      cases h with
      | here => exact ⟨trivial, .inl room.succ_pos⟩
    | string =>
      cases h with
      | here => exact ⟨⟨length_printable_le _ _, noControl_printable _ _⟩, .inl room.succ_pos⟩
    | array =>
      cases h with
      | here =>
        refine ⟨?_, .inl room.succ_pos⟩
        exact (length_map _).le.trans (length_take_le _ _)
      | item hitem h =>
        obtain ⟨item, -, rfl⟩ := mem_map.mp hitem
        exact hdeeper h
    | object =>
      cases h with
      | here =>
        refine ⟨⟨?_, fun e he => ?_⟩, .inl room.succ_pos⟩
        · exact (length_reverse).le.trans (len_sanitizeFields_le (Nat.zero_le _))
        · exact ((of_mem_sanitizeFields (mem_reverse.mp he)).resolve_left not_mem_nil).1
      | field hfield h =>
        obtain ⟨val, hval⟩ :=
          ((of_mem_sanitizeFields (mem_reverse.mp hfield)).resolve_left not_mem_nil).2
        rw [hval] at h
        exact hdeeper h

theorem sanitizeWithin_idem (room : ℕ) (value : Json) :
    sanitizeWithin room (sanitizeWithin room value) = sanitizeWithin room value := by
  induction room generalizing value with
  | zero => rfl
  | succ room ih =>
    cases value with
    | null | bool | number => rfl
    | string => exact congrArg Json.string (printable_printable _ _)
    | array =>
      refine congrArg Json.array ?_
      rw [take_of_length_le ((length_map _).le.trans (length_take_le _ _)),
        map_map]
      exact map_congr_left fun item _ => ih item
    | object fields =>
      refine congrArg (fun entries => Json.object (reverse entries)) ?_
      rw [sanitizeFields_of_kept, reverse_reverse, SortedMap.empty, append_nil]
      · intro e he
        obtain ⟨hkey, val, hval⟩ :=
          (of_mem_sanitizeFields (mem_reverse.mp he)).resolve_left not_mem_nil
        exact ⟨hkey, by rw [hval, ih]⟩
      · exact pairwise_reverse.mpr (sanitizeFields _ fields .empty).sorted
      · exact fun e he => absurd he not_mem_nil
      · exact (length_reverse).le.trans (len_sanitizeFields_le (Nat.zero_le _))

/-- Sanitising twice is sanitising once, and what it leaves is within the limits; only null stands
one level below the deepest one allowed. -/
theorem sanitizeRealtimePayload_idem_and_bounded (value : Json) :
    sanitizeRealtimePayload (sanitizeRealtimePayload value 0) 0 = sanitizeRealtimePayload value 0 ∧
      ∀ d inner, At d (sanitizeRealtimePayload value 0) inner →
        (d ≤ maxRealtimeJsonDepth ∨ d = maxRealtimeJsonDepth + 1 ∧ inner = .null) ∧
        match inner with
        | .object fields => fields.length ≤ maxRealtimeObjectKeys
        | .array items => items.length ≤ maxRealtimeArrayLen
        | .string s => s.toList.length ≤ maxRealtimeStringChars
        | _ => True := by
  refine ⟨sanitizeWithin_idem _ _, fun d inner h => ?_⟩
  obtain ⟨hinner, hdepth⟩ := sanitized_of_at h
  refine ⟨hdepth.imp_left Nat.le_of_lt_succ, ?_⟩
  cases inner with
  | object fields => exact hinner.1
  | array items => exact hinner
  | string s => exact hinner.1
  | null | bool | number => trivial

namespace Sample

def nested : ℕ → Json
  | 0 => .array []
  | n + 1 => .array [nested n]

end Sample

theorem null_below_depth_limit :
    At (maxRealtimeJsonDepth + 1) (sanitizeRealtimePayload (Sample.nested 9) 0) .null := by
  have hmem : ∀ value : Json, value ∈ [value] := fun value => mem_singleton_self value
  exact .item (hmem _) (.item (hmem _) (.item (hmem _) (.item (hmem _) (.item (hmem _)
    (.item (hmem _) (.item (hmem _) (.item (hmem _) (.item (hmem _) (.here _)))))))))

def secretWords : List String := ["token", "secret", "password", "private_key", "authorization"]

def secretEndings : List String := secretWords.flatMap fun word => ["_" ++ word, "-" ++ word]

def NamesSecret (key : String) : Prop :=
  (∃ word ∈ secretWords, lowered key = word.toList) ∨
    ∃ ending ∈ secretEndings, ending.toList <:+ lowered key

def Redacted (value : Json) : Prop :=
  ∀ d inner, At d value inner → match inner with
    | .object fields => ∀ e ∈ fields, ¬ NamesSecret e.1 ∧ NoControl e.1
    | .string s => NoControl s
    | _ => True

def missedEndings : List String :=
  ["-token", "-secret", "_password", "-password", "-private_key", "_authorization",
    "-authorization"]

def MissedKey (key : String) : Prop :=
  lowered key = "token".toList ∨ ∃ ending ∈ missedEndings, ending.toList <:+ lowered key

theorem namesSecret_iff {key : String} (h : isSensitiveRealtimeKey key = false) :
    NamesSecret key ↔ MissedKey key := by
  have hwords : ∀ word ∈ secretWords, word ∈ sensitiveKeys ∨ word = "token" := by decide
  have hendings : ∀ ending ∈ secretEndings, ending ∈ sensitiveEndings ∨ ending ∈ missedEndings := by
    decide
  have hmissed : ∀ ending ∈ missedEndings, ending ∈ secretEndings := by decide
  simp only [isSensitiveRealtimeKey, Bool.or_eq_false_iff, any_eq_false, beq_iff_eq,
    isSuffixOf_iff_suffix] at h
  constructor
  · rintro (⟨word, hword, heq⟩ | ⟨ending, hending, hsuffix⟩)
    · rcases hwords word hword with hsensitive | rfl
      · exact absurd heq (h.1 word hsensitive)
      · exact .inl heq
    · rcases hendings ending hending with hsensitive | hin
      · exact absurd hsuffix (h.2 ending hsensitive)
      · exact .inr ⟨ending, hin, hsuffix⟩
  · rintro (heq | ⟨ending, hending, hsuffix⟩)
    · exact .inl ⟨"token", by decide, heq⟩
    · exact .inr ⟨ending, hmissed ending hending, hsuffix⟩

def keptFields (fields : List (String × Json)) : List (String × Json) :=
  (sanitizeFields id fields .empty).entries

inductive Reaches : ℕ → Json → String → Prop
  | key {room : ℕ} {fields : List (String × Json)} {field : String × Json}
      (hfield : field ∈ keptFields fields) : Reaches (room + 1) (.object fields) field.1
  | field {room : ℕ} {fields : List (String × Json)} {field : String × Json} {key : String}
      (hfield : field ∈ keptFields fields) (h : Reaches room field.2 key) :
      Reaches (room + 1) (.object fields) key
  | item {room : ℕ} {items : List Json} {item : Json} {key : String}
      (hitem : item ∈ items.take maxRealtimeArrayLen) (h : Reaches room item key) :
      Reaches (room + 1) (.array items) key

theorem reaches_iff {room : ℕ} {value : Json} {key : String} :
    Reaches room value key ↔
      ∃ d fields val, At d (sanitizeWithin room value) (.object fields) ∧ (key, val) ∈ fields := by
  have hentries : ∀ (room : ℕ) (fields : List (String × Json)),
      (sanitizeFields (sanitizeWithin room) fields .empty).entries =
        (keptFields fields).map (Prod.map id (sanitizeWithin room)) := fun room fields =>
    entries_sanitizeFields rfl
  constructor
  · intro h
    induction h with
    | @key room fields field hfield =>
      refine ⟨0, _, sanitizeWithin room field.2, .here _, ?_⟩
      rw [hentries, mem_reverse]
      exact mem_map.mpr ⟨field, hfield, rfl⟩
    | @field room fields field key hfield h ih =>
      obtain ⟨d, inner, val, hat, hmem⟩ := ih
      have hfield' : Prod.map id (sanitizeWithin room) field ∈
          (sanitizeFields (sanitizeWithin room) fields .empty).entries.reverse := by
        rw [hentries, mem_reverse]
        exact mem_map_of_mem hfield
      exact ⟨d + 1, inner, val, .field hfield' hat, hmem⟩
    | item hitem h ih =>
      obtain ⟨d, inner, val, hat, hmem⟩ := ih
      exact ⟨d + 1, inner, val, .item (mem_map_of_mem hitem) hat, hmem⟩
  · rintro ⟨d, inner, val, hat, hmem⟩
    induction room generalizing value d with
    | zero => cases hat
    | succ room ih =>
      cases value with
      | null | bool | number | string => cases hat
      | array =>
        cases hat with
        | item hitem hat =>
          obtain ⟨item, hin, rfl⟩ := mem_map.mp hitem
          exact .item hin (ih _ hat)
      | object =>
        rw [sanitizeWithin, hentries] at hat
        cases hat with
        | here =>
          obtain ⟨field, hin, heq⟩ := mem_map.mp (mem_reverse.mp hmem)
          obtain rfl : field.1 = key := congrArg Prod.fst heq
          exact .key hin
        | field hfield hat =>
          obtain ⟨field, hin, rfl⟩ := mem_map.mp (mem_reverse.mp hfield)
          exact .field hin (ih _ hat)

/-- A payload comes out redacted exactly when none of the keys that are kept is one that the check
misses. -/
theorem redacted_iff (value : Json) :
    Redacted (sanitizeRealtimePayload value 0) ↔
      ∀ key, Reaches (maxRealtimeJsonDepth + 1) value key → ¬ MissedKey key := by
  constructor
  · intro h key hreach
    obtain ⟨d, fields, val, hat, hmem⟩ := reaches_iff.mp hreach
    have hkept := (sanitized_of_at hat).1.2 _ hmem
    rw [← namesSecret_iff hkept.not_sensitive]
    exact (h d _ hat _ hmem).1
  · intro h d inner hat
    have hinner := (sanitized_of_at hat).1
    cases inner with
    | object fields =>
      intro e he
      have hkept := hinner.2 e he
      refine ⟨?_, ?_⟩
      · rw [namesSecret_iff hkept.not_sensitive]
        exact h e.1 (reaches_iff.mpr ⟨d, fields, e.2, hat, he⟩)
      · rw [← hkept.printable_eq]
        exact noControl_printable _ _
    | string s => exact hinner.2
    | null | bool | number | array => trivial

theorem token_is_published :
    sanitizeRealtimePayload (.object [("token", .string "abc")]) 0 =
        .object [("token", .string "abc")] ∧
      ¬ Redacted (sanitizeRealtimePayload (.object [("token", .string "abc")]) 0) := by
  have hkept : sanitizeRealtimePayload (.object [("token", .string "abc")]) 0 =
      .object [("token", .string "abc")] := by
    rfl
  refine ⟨hkept, fun h => ?_⟩
  rw [hkept] at h
  exact (h 0 _ (.here _) _ (mem_singleton_self _)).1 (.inl ⟨"token", by decide, by decide⟩)

end XLStatus.Realtime
