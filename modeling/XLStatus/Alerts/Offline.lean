import XLStatus.Alerts.WindowDefs
import XLStatus.Db.Stamp

/-! The condition that a server is offline: the age of `last_seen_at`, read from either
database as text. -/

namespace XLStatus.Alerts

open Shared Auth
open Db (Stamp)

structure SeenRow (b : DatabaseBackend) where
  id : String
  lastSeenAt : Option (Stamp b)

structure SeenTable (b : DatabaseBackend) where
  rows : List (SeenRow b)
  primaryKey : (rows.map (·.id)).Nodup

/-- What the condition uses of libraries and of PostgreSQL: the parser of RFC 3339, which wants
hours and minutes in an offset, and the date and time of a `timestamptz` as text. -/
structure Clock where
  parseFromRfc3339 : String → Option DateTime
  dateTimeText : DateTime → String
  offset : ∀ text, parseFromRfc3339 (text ++ "+00") = none

def i64Max : ℤ := 2 ^ 63 - 1

section

variable (clock : Clock) {b : DatabaseBackend}

def Clock.timestamptzText (t : DateTime) : String := clock.dateTimeText t ++ "+00"

def lastSeenAgeSeconds (agents : SeenTable b) (agentId : String) (now : DateTime) :
    Except String ℤ :=
  match parseUuid (Text.trim agentId) with
  | none => .ok i64Max
  | some agentUuid =>
    match (agents.rows.find? (·.id == agentUuid.1)).bind (·.lastSeenAt) with
    | none => .ok i64Max
    | some ts => match clock.parseFromRfc3339 (ts.text clock.timestamptzText) with
      | none => .error "invalid timestamp"
      | some parsed => .ok (numSeconds (now - parsed))

def checkServerOffline (agents : SeenTable b) (agentId : String) (offlineSeconds : UInt64)
    (now : DateTime) : Bool :=
  let since := (lastSeenAgeSeconds clock agents agentId now).toOption.getD i64Max
  decide (asI64 offlineSeconds ≤ since)

end

section

variable {clock : Clock} {b : DatabaseBackend} {agents : SeenTable b} {row : SeenRow b}
  {stamp : Stamp b} {agentId : String} {now t : DateTime}

theorem parse_text (hinstant : stamp.instant clock.parseFromRfc3339 = some t) :
    clock.parseFromRfc3339 (stamp.text clock.timestamptzText) =
      if b = .sqlite then some t else none := by
  cases b with
  | sqlite => exact hinstant
  | postgres => exact clock.offset _

theorem lastSeenAgeSeconds_eq (hcanonical : isCanonicalUuid (Text.trim agentId) = true)
    (hrow : row ∈ agents.rows) (hid : row.id = Text.trim agentId)
    (hstamp : row.lastSeenAt = some stamp)
    (hinstant : stamp.instant clock.parseFromRfc3339 = some t) :
    lastSeenAgeSeconds clock agents agentId now =
      if b = .sqlite then .ok (numSeconds (now - t)) else .error "invalid timestamp" := by
  have hfind : agents.rows.find? (·.id == Text.trim agentId) = some row :=
    List.find?_eq_some_of_nodup_map agents.primaryKey hrow hid
  unfold lastSeenAgeSeconds
  rw [parseUuid_of_isCanonicalUuid hcanonical]
  simp only [hfind, Option.bind_some, hstamp, parse_text hinstant]
  by_cases hb : b = .sqlite
  · simp only [if_pos hb]
  · simp only [if_neg hb]

theorem asI64_le_numSeconds_iff {n : UInt64} (hn : n ≤ alertMaxOfflineSeconds) (hnow : t ≤ now) :
    asI64 n ≤ numSeconds (now - t) ↔ seconds n.toNat ≤ now - t := by
  have hbound : n.toNat ≤ 31536000 := UInt64.le_iff_toNat_le.mp hn
  have hcast : asI64 n = n.toNat := if_pos (by omega)
  have hage : 0 ≤ now - t := sub_nonneg.mpr hnow
  rw [hcast, numSeconds, Int.tdiv_eq_ediv_of_nonneg hage, seconds,
    Int.le_ediv_iff_mul_le (by decide)]

end

/-- A server is reported as offline exactly when it has not been seen for the time of the
condition, if the text of `last_seen_at` can be parsed; otherwise it always is. -/
theorem offline_iff_not_seen (clock : Clock) (b : DatabaseBackend) (agents : SeenTable b)
    (row : SeenRow b) (stamp : Stamp b) (agentId : String) (offlineSeconds : UInt64)
    (now t : DateTime)
    (hvalid : validRuntimeCondition (.serverOffline agentId offlineSeconds) = true)
    (hrow : row ∈ agents.rows) (hid : row.id = Text.trim agentId)
    (hstamp : row.lastSeenAt = some stamp)
    (hinstant : stamp.instant clock.parseFromRfc3339 = some t) (hnow : t ≤ now) :
    (checkServerOffline clock agents agentId offlineSeconds now = true ↔
        seconds offlineSeconds.toNat ≤ now - t) ↔
      b = .sqlite ∨ seconds offlineSeconds.toNat ≤ now - t := by
  simp only [validRuntimeCondition, Bool.and_eq_true, decide_eq_true_eq] at hvalid
  obtain ⟨hagent, -, hbound⟩ := hvalid
  have hcanonical : isCanonicalUuid (Text.trim agentId) = true := by
    by_contra hnot
    rw [requireCanonicalUuid, if_neg hnot] at hagent
    cases hagent
  rw [checkServerOffline, lastSeenAgeSeconds_eq hcanonical hrow hid hstamp hinstant,
    decide_eq_true_eq]
  cases b with
  | sqlite =>
    rw [if_pos rfl]
    exact iff_of_true (asI64_le_numSeconds_iff hbound hnow) (.inl rfl)
  | postgres =>
    -- The text is not parsed, and the age is the largest.
    have hmax : asI64 offlineSeconds ≤ i64Max := by
      have hlt : offlineSeconds.toNat ≤ 31536000 := UInt64.le_iff_toNat_le.mp hbound
      rw [asI64, if_pos (by omega), i64Max]
      omega
    rw [if_neg (by decide)]
    exact ⟨fun h => .inr (h.mp hmax), fun h => iff_of_true hmax (h.resolve_left (by decide))⟩

namespace OfflineSample

def clock : Clock where
  parseFromRfc3339 text :=
    if text = "2026-01-01T00:00:00+00:00" then some (seconds 1767225600) else none
  dateTimeText t := if t = seconds 1767225600 then "2026-01-01 00:00:00" else ""
  offset text := by
    refine if_neg fun heq => ?_
    have hsuffix : "+00".toList <:+ "2026-01-01T00:00:00+00:00".toList := by
      rw [← heq, String.toList_append]
      exact List.suffix_append _ _
    exact absurd hsuffix (by decide)

def agent : String := "00000000-0000-0000-0000-00000000000a"

def agents (b : DatabaseBackend) (stamp : Stamp b) : SeenTable b := ⟨[⟨agent, some stamp⟩], by simp⟩

end OfflineSample

open OfflineSample in
theorem offline_iff_not_seen_sqlite :
    (checkServerOffline clock (agents .sqlite "2026-01-01T00:00:00+00:00") agent 60
        (seconds 1767225660) = true ↔ seconds 60 ≤ seconds 1767225660 - seconds 1767225600) ∧
      (checkServerOffline clock (agents .sqlite "2026-01-01T00:00:00+00:00") agent 60
        (seconds 1767225601) = true ↔ seconds 60 ≤ seconds 1767225601 - seconds 1767225600) :=
  ⟨(offline_iff_not_seen clock .sqlite (agents .sqlite "2026-01-01T00:00:00+00:00")
      ⟨agent, some "2026-01-01T00:00:00+00:00"⟩ "2026-01-01T00:00:00+00:00" agent 60
      (seconds 1767225660) (seconds 1767225600) (by decide +kernel) List.mem_cons_self
      (by decide +kernel) rfl rfl (by decide)).mpr (.inl rfl),
    (offline_iff_not_seen clock .sqlite (agents .sqlite "2026-01-01T00:00:00+00:00")
      ⟨agent, some "2026-01-01T00:00:00+00:00"⟩ "2026-01-01T00:00:00+00:00" agent 60
      (seconds 1767225601) (seconds 1767225600) (by decide +kernel) List.mem_cons_self
      (by decide +kernel) rfl rfl (by decide)).mpr (.inl rfl)⟩

open OfflineSample in
theorem offline_although_seen :
    checkServerOffline clock (agents .postgres (seconds 1767225600)) agent 60
        (seconds 1767225601) = true ∧
      ¬ seconds 60 ≤ seconds 1767225601 - seconds 1767225600 := by
  constructor
  · decide +kernel
  · decide

end XLStatus.Alerts
