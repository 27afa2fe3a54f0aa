import XLStatus.Auth.TotpDefs

/-! A code is accepted at most once, and guessing is bounded. Both rest on one fact about
the clock: the reading under which a call records its event is not before the caller's. -/

namespace XLStatus.Auth

open Shared Transition List

section Codes

variable {hmac : HmacSha1} {secretBytes : List UInt8} {normalized : String}

variable {m : ℤ}

theorem mem_of_foldl_matchCandidate {l : List ℤ} {start : Option ℤ}
    (h : l.foldl (matchCandidate hmac secretBytes normalized) start = some m) :
    start = some m ∨ (m ∈ l ∧ 0 ≤ m) := by
  induction l generalizing start with
  | nil => exact .inl h
  | cons c l ih =>
    rcases ih h with hc | ⟨hmem, hm⟩
    · unfold matchCandidate at hc
      split at hc
      · exact .inl hc
      · rename_i hneg
        split at hc
        · cases hc
          exact .inr ⟨mem_cons_self, not_lt.mp hneg⟩
        · exact .inl hc
    · exact .inr ⟨mem_cons_of_mem c hmem, hm⟩

theorem verifyTotpCodeStep_bounds {secret code : String} {now : DateTime}
    (h : verifyTotpCodeStep hmac secret code now = some m) :
    0 ≤ m ∧ timestamp now / totpStepSeconds - 1 ≤ m ∧
      m ≤ timestamp now / totpStepSeconds + 1 := by
  unfold verifyTotpCodeStep at h
  simp only at h
  split at h
  · cases h
  · split at h
    · cases h
    · rcases mem_of_foldl_matchCandidate h with hnone | ⟨hmem, hm⟩
      · cases hnone
      · simp only [mem_cons, not_mem_nil, or_false, totpWindow] at hmem
        refine ⟨hm, ?_, ?_⟩ <;> omega

end Codes

variable {s t : ℤ}

theorem step_lt_of_horizon {m n : ℤ} (hst : s < t - minutes totpReplayHorizonMinutes)
    (hm : m ≤ timestamp s / totpStepSeconds + 1) (hn : timestamp t / totpStepSeconds - 1 ≤ n) :
    m < n := by
  simp only [minutes, seconds, totpReplayHorizonMinutes, timestamp, totpStepSeconds] at *
  omega

theorem DatabaseBackend.stored_mono (db : DatabaseBackend) (h : s ≤ t) :
    db.stored s ≤ db.stored t := by
  cases db with
  | sqlite => exact h
  | postgres =>
    show (s / 1000 * 1000 : ℤ) ≤ t / 1000 * 1000
    omega

theorem DatabaseBackend.stored_le (db : DatabaseBackend) (t : ℤ) : db.stored t ≤ t := by
  cases db with
  | sqlite => exact le_refl t
  | postgres =>
    show (t / 1000 * 1000 : ℤ) ≤ t
    omega

theorem DatabaseBackend.stored_sub_window (db : DatabaseBackend) (t : ℤ) :
    db.stored (t - minutes loginFailureWindowMinutes) =
      db.stored t - minutes loginFailureWindowMinutes := by
  cases db with
  | sqlite => rfl
  | postgres =>
    show ((t - 15 * 60 * 1000000000) / 1000 * 1000 : ℤ) = t / 1000 * 1000 - 15 * 60 * 1000000000
    omega

theorem recordedUsername_userId (u : UserId) : recordedUsername (some u.text) = some u.text := by
  have hlen : u.text.toList.length = 36 := by
    have h := u.canonical
    unfold isCanonicalUuid at h
    rw [Bool.and_eq_true, beq_iff_eq] at h
    exact h.1
  have htake : String.ofList ((Text.trim u.text).toList.take 255) = u.text := by
    rw [trim_of_isCanonicalUuid u.canonical, take_of_length_le (by omega),
      String.ofList_toList]
  have hne : u.text.isEmpty = false := by
    rw [Bool.eq_false_iff, ne_eq, String.isEmpty_iff]
    intro hempty
    simp [hempty] at hlen
  simp [recordedUsername, htake, hne]

section Calls

variable {db : DatabaseBackend} {hmac : HmacSha1} {sha256 : Sha256} {events : WafEvents}
  {call : TotpCall}

def TotpCall.event (db : DatabaseBackend) (call : TotpCall) (outcome reason : String) :
    WafEvent :=
  ⟨"totp", some call.userId.text, outcome, some reason, db.stored call.recordedAt⟩

/-- Everything a call can do: it leaves the table as it is, or records a blocked, a failed or
a used code. It is accepted in the last case only, and only if the insert is confirmed. -/
inductive TotpEffect (db : DatabaseBackend) (hmac : HmacSha1) (sha256 : Sha256)
    (events : WafEvents) (call : TotpCall) : Bool → WafEvents → Prop
  | unchanged : TotpEffect db hmac sha256 events call false events
  | blocked (reason : String) :
      TotpEffect db hmac sha256 events call false
        (events ++ [call.event db "totp_blocked" reason])
  | failed (reason : String)
      (hcount : countRecentUserTotpFailures db events call.userId.text
        (call.now - minutes loginFailureWindowMinutes) < loginFailureThreshold) :
      TotpEffect db hmac sha256 events call false
        (events ++ [call.event db "totp_failed" reason])
  | used {m : ℤ} (ok : Bool)
      (hcount : countRecentUserTotpFailures db events call.userId.text
        (call.now - minutes loginFailureWindowMinutes) < loginFailureThreshold)
      (hstep : verifyTotpCodeStep hmac call.secret call.code call.now = some m)
      (hfresh : isTotpStepReplayed db events call.userId.text (totpStepPrefix sha256 call.secret)
        m (call.now - minutes totpReplayHorizonMinutes) = false) :
      TotpEffect db hmac sha256 events call ok
        (events ++ [call.event db "totp_used" (totpStepPrefix sha256 call.secret ++ toString m)])

theorem totpEffect (db : DatabaseBackend) (hmac : HmacSha1) (sha256 : Sha256)
    (events : WafEvents) (call : TotpCall) :
    TotpEffect db hmac sha256 events call (isAccepted db hmac sha256 events call)
      (totpStep db hmac sha256 events call) := by
  unfold isAccepted totpStep verifyAndConsumeUserTotp recordWafEvent
  simp only [recordedUsername_userId]
  split
  · exact .unchanged
  · split
    · cases call.io.insert with
      | failed => exact .unchanged
      | done | lost error => exact .blocked _
    · rename_i hcount
      have hcount := not_le.mp hcount
      split
      · cases call.io.insert with
        | failed => exact .unchanged
        | done | lost error => exact .failed _ hcount
      · rename_i m hstep
        split
        · exact .unchanged
        · split
          · cases call.io.insert with
            | failed => exact .unchanged
            | done | lost error => exact .failed _ hcount
          · rename_i hfresh
            have hfresh := Bool.eq_false_iff.mpr hfresh
            cases call.io.insert with
            | failed => exact .unchanged
            | done => exact .used true hcount hstep hfresh
            | lost => exact .used false hcount hstep hfresh

def UsedAt (db : DatabaseBackend) (sha256 : Sha256) (call : TotpCall) (m : ℤ)
    (events : WafEvents) : Prop :=
  call.event db "totp_used" (totpStepPrefix sha256 call.secret ++ toString m) ∈ events

theorem mem_totpStep {e : WafEvent} (h : e ∈ events) : e ∈ totpStep db hmac sha256 events call := by
  have heff := totpEffect db hmac sha256 events call
  generalize isAccepted db hmac sha256 events call = ok at heff
  generalize totpStep db hmac sha256 events call = events' at heff ⊢
  cases heff with
  | unchanged => exact h
  | blocked | failed | used => exact mem_append_left _ h

variable {m : ℤ} {a b : TotpCall}

theorem usedStep_event (h : verifyTotpCodeStep hmac call.secret call.code call.now = some m)
    (pre : String) :
    usedStep pre (call.event db "totp_used" (pre ++ toString m)) = some m := by
  obtain ⟨hnonneg, -, hle⟩ := verifyTotpCodeStep_bounds h
  obtain ⟨n, rfl⟩ := Int.eq_ofNat_of_zero_le hnonneg
  have hlt : n < 2 ^ 63 := by
    have hnow := call.timestamp_now
    simp only [totpStepSeconds] at hle
    omega
  have hparse : Text.parseInt64 (toString (n : ℤ)) = some (n : ℤ) := Text.parseInt64_toString hlt
  simp only [usedStep, TotpCall.event, Option.bind_some, Text.stripPrefix_append]
  exact hparse

theorem step_lt_of_usedAt (hclock : a.now ≤ a.recordedAt) (huser : a.userId = b.userId)
    (hsecret : a.secret = b.secret) {n : ℤ}
    (hm : verifyTotpCodeStep hmac a.secret a.code a.now = some m)
    (hn : verifyTotpCodeStep hmac b.secret b.code b.now = some n)
    (hused : UsedAt db sha256 a m events) (hfresh : isTotpStepReplayed db events b.userId.text
      (totpStepPrefix sha256 b.secret) n (b.now - minutes totpReplayHorizonMinutes) = false) :
    m < n := by
  by_cases hseen : db.stored (b.now - minutes totpReplayHorizonMinutes) ≤ db.stored a.recordedAt
  · by_contra hge
    have hreplayed : isTotpStepReplayed db events b.userId.text (totpStepPrefix sha256 b.secret) n
        (b.now - minutes totpReplayHorizonMinutes) = true := by
      rw [← huser, ← hsecret]
      refine any_eq_true.mpr ⟨_, mem_filter.mpr ⟨hused, ?_⟩, ?_⟩
      · simpa [TotpCall.event] using hseen
      · rw [usedStep_event hm]
        simpa using not_lt.mp hge
    rw [hreplayed] at hfresh
    cases hfresh
  · have hold : a.recordedAt < b.now - minutes totpReplayHorizonMinutes := by
      by_contra hle
      exact hseen (db.stored_mono (not_lt.mp hle))
    exact step_lt_of_horizon (lt_of_le_of_lt hclock hold) (verifyTotpCodeStep_bounds hm).2.2
      (verifyTotpCodeStep_bounds hn).2.1

def StepLt (hmac : HmacSha1) (a b : TotpCall) : Prop :=
  ∃ m n, verifyTotpCodeStep hmac a.secret a.code a.now = some m ∧
    verifyTotpCodeStep hmac b.secret b.code b.now = some n ∧ m < n

theorem of_isAccepted (hok : isAccepted db hmac sha256 events call = true) :
    ∃ m, verifyTotpCodeStep hmac call.secret call.code call.now = some m ∧
      isTotpStepReplayed db events call.userId.text (totpStepPrefix sha256 call.secret) m
        (call.now - minutes totpReplayHorizonMinutes) = false ∧
      UsedAt db sha256 call m (totpStep db hmac sha256 events call) ∧
      countRecentUserTotpFailures db events call.userId.text
        (call.now - minutes loginFailureWindowMinutes) < loginFailureThreshold := by
  have heff := totpEffect db hmac sha256 events call
  rw [hok] at heff
  generalize totpStep db hmac sha256 events call = events' at heff ⊢
  cases heff with
  | used _ hcount hstep hfresh =>
    exact ⟨_, hstep, hfresh, mem_append_right _ (mem_singleton_self _), hcount⟩

theorem stepLt_of_mem_accepted (hclock : a.now ≤ a.recordedAt)
    (hm : verifyTotpCodeStep hmac a.secret a.code a.now = some m) {calls : List TotpCall}
    (hused : UsedAt db sha256 a m events) (hb : b ∈ accepted db hmac sha256 events calls)
    (huser : a.userId = b.userId) (hsecret : a.secret = b.secret) : StepLt hmac a b := by
  induction calls generalizing events with
  | nil => cases hb
  | cons c calls ih =>
    have hkept : UsedAt db sha256 a m (totpStep db hmac sha256 events c) := mem_totpStep hused
    unfold accepted at hb
    split at hb
    · rename_i hok
      rcases mem_cons.mp hb with rfl | hrest
      · obtain ⟨n, hn, hfresh, -⟩ := of_isAccepted hok
        exact ⟨m, n, hm, hn, step_lt_of_usedAt hclock huser hsecret hm hn hused hfresh⟩
      · exact ih hkept hrest
    · exact ih hkept hb

end Calls

/-- For every user and secret, the steps of the accepted codes increase strictly along every
run of calls. -/
theorem accepted_steps_increase (db : DatabaseBackend) (hmac : HmacSha1) (sha256 : Sha256)
    (events : WafEvents) (calls : List TotpCall)
    (hclock : ∀ call ∈ calls, call.now ≤ call.recordedAt) (userId : UserId) (secret : String) :
    ((accepted db hmac sha256 events calls).filter
      fun call => call.userId = userId ∧ call.secret = secret).Pairwise (StepLt hmac) := by
  induction calls generalizing events with
  | nil => exact .nil
  | cons c calls ih =>
    have hrest := ih (totpStep db hmac sha256 events c)
      fun call hcall => hclock call (mem_cons_of_mem c hcall)
    unfold accepted
    split
    · rename_i hok
      rw [filter_cons]
      split
      · rename_i hc
        obtain ⟨huser, hsecret⟩ := of_decide_eq_true hc
        obtain ⟨m, hm, -, hused, -⟩ := of_isAccepted hok
        refine hrest.cons fun b hb => ?_
        obtain ⟨hmem, hb⟩ := mem_filter.mp hb
        obtain ⟨huser', hsecret'⟩ := of_decide_eq_true hb
        exact stepLt_of_mem_accepted (hclock c mem_cons_self) hm hused hmem
          (huser.trans huser'.symm) (hsecret.trans hsecret'.symm)
      · exact hrest
    · exact hrest

namespace Sample

def userId : UserId := ⟨"0190a6f4-2b1c-7c3d-8e4f-5a6b7c8d9e0f", canonical_v7⟩

def secret : String := "GEZDGNBVGY3TQOJQGEZDGNBVGY3TQOJQ"

def digests : List (List UInt8) :=
  [[204, 147, 207, 24, 80, 141, 148, 147, 76, 100, 182, 93, 139, 167, 102, 127, 183, 205, 228, 176],
    [117, 164, 138, 25, 212, 203, 225, 0, 100, 78, 138, 193, 57, 126, 234, 116, 122, 45, 51, 171],
    [11, 172, 183, 250, 8, 47, 239, 48, 120, 34, 17, 147, 139, 193, 197, 231, 4, 22, 255, 68],
    [102, 194, 130, 39, 208, 58, 45, 85, 41, 38, 47, 240, 22, 161, 230, 239, 118, 85, 126, 206]]

def hmac : HmacSha1 := fun _ message i =>
  (digests.getD (message.getLastD 0).toNat []).getD i 0

def sha256 : Sha256 := fun _ i =>
  [84, 156, 147, 144, 83, 158, 252, 250, 1, 210, 116, 78, 130, 231, 218, 52, 64, 154, 99, 221, 15,
    234, 243, 16, 247, 166, 225, 37, 81, 254, 118, 104].getD i 0

def call (code : String) (second : ℤ) (h : timestamp (seconds second) < 2 ^ 63) : TotpCall :=
  ⟨userId, secret, code, seconds second, seconds (second + 1), ⟨none, none, .done⟩, h⟩

def replay : List TotpCall :=
  [call "287082" 59 (by decide), call "287082" 59 (by decide), call "359152" 60 (by decide),
    call "287082" 61 (by decide)]

def guessing : List TotpCall :=
  replicate 4 (call "000000" 59 (by decide)) ++
    [call "287082" 59 (by decide), call "000000" 59 (by decide), call "359152" 60 (by decide)]

end Sample

theorem accepted_steps_increase_replay :
    (accepted .sqlite Sample.hmac Sample.sha256 [] Sample.replay).map (·.code) =
        ["287082", "359152"] ∧
      ((accepted .sqlite Sample.hmac Sample.sha256 [] Sample.replay).filter fun call =>
        call.userId = Sample.userId ∧ call.secret = Sample.secret).Pairwise
          (StepLt Sample.hmac) := by
  refine ⟨by decide +kernel, ?_⟩
  exact accepted_steps_increase .sqlite Sample.hmac Sample.sha256 [] Sample.replay
    (by decide) Sample.userId Sample.secret

def isFailureIn (userId : UserId) (t : DateTime) (e : WafEvent) : Bool :=
  e.username == some userId.text && e.outcome == "totp_failed" && t ≤ e.createdAt &&
    e.createdAt ≤ t + minutes loginFailureWindowMinutes

def failuresIn (userId : UserId) (t : DateTime) (events : WafEvents) : ℕ :=
  events.countP (isFailureIn userId t)

section Guessing

variable {db : DatabaseBackend} {hmac : HmacSha1} {sha256 : Sha256} {events : WafEvents}
  {call : TotpCall} {userId : UserId}

theorem failuresIn_le_count (db : DatabaseBackend) {t since : ℤ} (h : db.stored since ≤ t) :
    failuresIn userId t events ≤ countRecentUserTotpFailures db events userId.text since := by
  refine countP_mono_left fun e _ he => ?_
  simp only [isFailureIn, isRecentFailure, Bool.and_eq_true, decide_eq_true_eq] at he ⊢
  exact ⟨he.1.1, h.trans he.1.2⟩

theorem failuresIn_totpStep (hclock : call.now ≤ call.recordedAt)
    (h : ∀ t, failuresIn userId t events ≤ loginFailureThreshold) (t : DateTime) :
    failuresIn userId t (totpStep db hmac sha256 events call) ≤ loginFailureThreshold := by
  have heff := totpEffect db hmac sha256 events call
  generalize isAccepted db hmac sha256 events call = ok at heff
  generalize totpStep db hmac sha256 events call = events' at heff ⊢
  have hskip : ∀ e : WafEvent, isFailureIn userId t e = false →
      failuresIn userId t (events ++ [e]) ≤ loginFailureThreshold := by
    intro e he
    have hsame : failuresIn userId t (events ++ [e]) = failuresIn userId t events := by
      simp [failuresIn, countP_append, he]
    exact hsame.trans_le (h t)
  cases heff with
  | unchanged => exact h t
  | blocked | used => exact hskip _ (by simp [isFailureIn, TotpCall.event])
  | failed reason =>
    cases he : isFailureIn userId t (call.event db "totp_failed" reason) with
    | false => exact hskip _ he
    | true =>
      simp only [isFailureIn, TotpCall.event, Bool.and_eq_true, beq_iff_eq,
        Option.some.injEq] at he
      obtain ⟨⟨⟨huser, -⟩, -⟩, hend⟩ := he
      have hstart : db.stored (call.now - minutes loginFailureWindowMinutes) ≤ t := by
        have hnow := db.stored_mono hclock
        rw [db.stored_sub_window]
        exact sub_le_iff_le_add.mpr (hnow.trans (of_decide_eq_true hend))
      have hlt : failuresIn userId t events < loginFailureThreshold := by
        refine lt_of_le_of_lt (failuresIn_le_count db hstart) ?_
        rwa [← huser]
      rw [failuresIn, countP_append, ← failuresIn]
      exact (Nat.add_le_add_left countP_le_length _).trans hlt

theorem failuresIn_run {calls : List TotpCall}
    (hclock : ∀ call ∈ calls, call.now ≤ call.recordedAt) (t : DateTime) :
    failuresIn userId t (run (totpStep db hmac sha256) [] calls) ≤ loginFailureThreshold := by
  induction calls using reverseRecOn generalizing t with
  | nil => exact Nat.zero_le _
  | append_singleton calls call ih =>
    rw [run_snoc]
    refine failuresIn_totpStep (hclock call (by simp)) (fun t => ?_) t
    exact ih (fun c hc => hclock c (mem_append_left _ hc)) t

end Guessing

/-- Along every run, no fifteen minutes hold more failure records of a user than the
threshold, and no call is accepted while the fifteen minutes before it hold that many. -/
theorem totp_guessing_bounded (db : DatabaseBackend) (hmac : HmacSha1) (sha256 : Sha256)
    (calls : List TotpCall) (hclock : ∀ call ∈ calls, call.now ≤ call.recordedAt)
    (userId : UserId) :
    (∀ t, failuresIn userId t (run (totpStep db hmac sha256) [] calls) ≤
      loginFailureThreshold) ∧
    ∀ before call after, calls = before ++ call :: after → call.userId = userId →
      isAccepted db hmac sha256 (run (totpStep db hmac sha256) [] before) call = true →
      ∀ t, call.now ≤ t →
        failuresIn userId (t - minutes loginFailureWindowMinutes)
          (run (totpStep db hmac sha256) [] before) < loginFailureThreshold := by
  refine ⟨failuresIn_run hclock, fun before call after _ huser hok t ht => ?_⟩
  obtain ⟨-, -, -, -, hcount⟩ := of_isAccepted hok
  rw [huser] at hcount
  refine lt_of_le_of_lt (failuresIn_le_count db ?_) hcount
  exact (db.stored_le _).trans (sub_le_sub_right ht _)

theorem totp_guessing_bounded_sample :
    (accepted .postgres Sample.hmac Sample.sha256 [] Sample.guessing).map (·.code) = ["287082"] ∧
      ∀ t, failuresIn Sample.userId t
        (run (totpStep .postgres Sample.hmac Sample.sha256) [] Sample.guessing) ≤
          loginFailureThreshold := by
  refine ⟨by decide +kernel, ?_⟩
  exact (totp_guessing_bounded .postgres Sample.hmac Sample.sha256 Sample.guessing (by decide)
    Sample.userId).1

end XLStatus.Auth
