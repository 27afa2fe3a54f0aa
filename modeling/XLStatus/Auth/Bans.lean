import XLStatus.Auth.LoginDefs
import XLStatus.Auth.Totp

/-! Automatic bans of an address. Each kind of attempt checks for a ban, records its failure, counts
the failures and stores the ban in calls of its own, and the ban that is stored replaces the one
before it. -/

namespace XLStatus.Auth.Bans

open Transition Option
open Login (countRecentAuthFailures loginBanMinutes)

inductive Path where
  | login
  | oauth
  | pat
  | malformedPat
  | agent
  deriving DecidableEq

def Path.outcome : Path → String
  | .login => "login_failed"
  | .oauth => "oauth_failed"
  | .pat | .malformedPat => "pat_failed"
  | .agent => "agent_auth_failed"

def Path.checks (path : Path) : Bool := path ≠ .malformedPat

def Path.ignoresErrors (path : Path) : Bool := path = .pat ∨ path = .agent

inductive Phase where
  | activeWafBan
  | recordFailure
  | countFailures
  | upsertWafBan (bannedUntil : DateTime)

/-- `clear` says that the check has found no ban and none was stored since. -/
structure Attempt where
  path : Path
  phase : Phase
  clear : Bool

/-- `ban` is `banned_until` in the row of the address. -/
structure State where
  clock : DateTime
  events : WafEvents
  ban : Option DateTime
  attempts : ℕ → Option Attempt

def normalizeWafMinutes (value : Option ℤ) : ℤ := max 1 (min (value.getD loginBanMinutes) 43200)

/-- A call of an attempt that is not done ends in an error; an attempt that does not fail is
dropped. -/
inductive Event where
  | pass (time : ℕ)
  | start (i : ℕ) (path : Path)
  | call (i : ℕ) (reference reason : Option String) (done : Bool)
  | drop (i : ℕ)
  | createWafBans (readAt : DateTime) (minutes : Option ℤ)

section Step

variable (db : DatabaseBackend) (ip : String)

def State.upsertWafBan (s : State) (bannedUntil : DateTime) : State :=
  { s with
    ban := some (db.stored bannedUntil)
    attempts := fun i => (s.attempts i).map ({ · with clear := false }) }

def State.set (s : State) (i : ℕ) (attempt : Option Attempt) : State :=
  { s with attempts := Function.update s.attempts i attempt }

def State.callOf (s : State) (i : ℕ) (a : Attempt) (reference reason : Option String) : State :=
  match a.phase with
  | .activeWafBan =>
    if s.ban.any (db.stored s.clock < ·) then s.set i none
    else s.set i (some { a with phase := .recordFailure, clear := true })
  | .recordFailure =>
    { s with
      events := (recordWafEvent db s.events ip reference a.path.outcome reason s.clock .done).2 }.set
        i (some { a with phase := .countFailures })
  | .countFailures =>
    let since := s.clock - minutes loginFailureWindowMinutes
    if countRecentAuthFailures db s.events ip since ≥ loginFailureThreshold then
      s.set i (some { a with phase := .upsertWafBan (s.clock + minutes loginBanMinutes) })
    else s.set i none
  | .upsertWafBan bannedUntil => (s.set i none).upsertWafBan db bannedUntil

def State.step (s : State) : Event → State
  | .pass time => { s with clock := s.clock + time }
  | .start i path => match s.attempts i with
    | none => s.set i (some ⟨path, if path.checks then .activeWafBan else .recordFailure, false⟩)
    | some _ => s
  | .call i reference reason done => match s.attempts i with
    | none => s
    | some a =>
      if done then s.callOf db ip i a reference reason
      else match a.phase with
        | .activeWafBan => s.set i (if a.path.ignoresErrors then
            some { a with phase := .recordFailure } else none)
        | _ => s.set i none
  | .drop i => s.set i none
  | .createWafBans readAt value =>
    s.upsertWafBan db (readAt + minutes (normalizeWafMinutes value))

def KeepsBan (s : State) : Event → Prop
  | .call i reference reason true => ∀ a bannedUntil, s.attempts i = some a →
    a.phase = .upsertWafBan bannedUntil → ∀ ban ∈ s.ban, ∃ ban' ∈
      (s.step db ip (.call i reference reason true)).ban, ban ≤ ban'
  | _ => True

/-- The attempt has found no ban and none was stored since, or the ban that is stored does not end
after the one the attempt stores. -/
def ClearOrShorter (s : State) : Event → Prop
  | .call i _ _ true => ∀ a bannedUntil, s.attempts i = some a →
    a.phase = .upsertWafBan bannedUntil →
      a.clear = true ∨ ∀ ban ∈ s.ban, ban ≤ db.stored bannedUntil
  | _ => True

end Step

def State.start (clock : DateTime) (events : WafEvents) (ban : Option DateTime) : State :=
  ⟨clock, events, ban, fun _ => none⟩

def Attempt.Clear (db : DatabaseBackend) (a : Attempt) (s : State) : Prop :=
  a.clear = true → ∀ ban ∈ s.ban, ban ≤ db.stored s.clock ∧
    ∀ bannedUntil, a.phase = .upsertWafBan bannedUntil → ban ≤ db.stored bannedUntil

def AllClear (db : DatabaseBackend) (s : State) : Prop :=
  ∀ i a, s.attempts i = some a → a.Clear db s

theorem allClear_set {db : DatabaseBackend} {s s' : State} (h : AllClear db s)
    (hban : s'.ban = s.ban) (hclock : s'.clock = s.clock) {i : ℕ} {attempt : Option Attempt}
    (hattempts : s'.attempts = Function.update s.attempts i attempt)
    (hnew : ∀ a ∈ attempt, a.Clear db s) : AllClear db s' := by
  intro j a hj
  have hclear : a.Clear db s := by
    by_cases hij : j = i
    · subst hij
      rw [hattempts, Function.update_self] at hj
      exact hnew a hj
    · rw [hattempts, Function.update_of_ne hij] at hj
      exact h j a hj
  unfold Attempt.Clear at hclear ⊢
  rwa [hban, hclock]

theorem allClear_upsertWafBan (db : DatabaseBackend) (s : State) (bannedUntil : DateTime) :
    AllClear db (s.upsertWafBan db bannedUntil) := by
  intro i a hi hclear
  obtain ⟨a', -, rfl⟩ := map_eq_some_iff.mp hi
  cases hclear

theorem allClear_step (db : DatabaseBackend) (ip : String) (s : State) (e : Event)
    (h : AllClear db s) : AllClear db (s.step db ip e) := by
  have hnone : ∀ i, AllClear db (s.set i none) := fun i =>
    allClear_set h rfl rfl rfl fun a ha => absurd ha (not_mem_none a)
  have hnot : ∀ {a : Attempt}, a.clear = false → a.Clear db s := fun h h' =>
    absurd (h.symm.trans h') Bool.false_ne_true
  cases e with
  | pass =>
    intro i a hi hclear ban hban
    obtain ⟨hle, hphase⟩ := h i a hi hclear ban hban
    exact ⟨hle.trans (db.stored_mono (by simp [State.step])), hphase⟩
  | start =>
    simp only [State.step]
    split
    · refine allClear_set h rfl rfl rfl fun a ha => ?_
      cases ha
      exact hnot rfl
    · exact h
  | drop i => exact hnone i
  | createWafBans => exact allClear_upsertWafBan db s _
  | call i reference reason done =>
    simp only [State.step]
    cases hi : s.attempts i with
    | none => exact h
    | some a =>
      have hold := h i a hi
      dsimp only
      by_cases hdone : done = true
      · rw [if_pos hdone]
        unfold State.callOf
        split
        · split_ifs with hbanned
          · exact hnone i
          · refine allClear_set h rfl rfl rfl fun a' ha' => ?_
            cases ha'
            intro _ ban hban
            refine ⟨not_lt.mp fun hlt => hbanned ?_, nofun⟩
            rw [mem_def.mp hban]
            exact decide_eq_true hlt
        · refine allClear_set h rfl rfl rfl fun a' ha' => ?_
          cases ha'
          exact fun hclear ban hban => ⟨(hold hclear ban hban).1, nofun⟩
        · dsimp only
          split_ifs
          · refine allClear_set h rfl rfl rfl fun a' ha' => ?_
            cases ha'
            intro hclear ban hban
            have hle := (hold hclear ban hban).1
            refine ⟨hle, fun bannedUntil hphase => ?_⟩
            cases hphase
            exact hle.trans (db.stored_mono (Int.le_add_of_nonneg_right (by decide)))
          · exact hnone i
        · exact allClear_upsertWafBan db _ _
      · rw [if_neg hdone]
        split
        · refine allClear_set h rfl rfl rfl fun a' ha' => ?_
          split_ifs at ha'
          · cases ha'
            exact fun hclear ban hban => ⟨(hold hclear ban hban).1, nofun⟩
          · cases ha'
        · exact hnone i

def malformedAttempt (i : ℕ) : List Event :=
  .start i .malformedPat :: List.replicate 3 (.call i none (some "malformed token") true)

end XLStatus.Auth.Bans
