import XLStatus.Auth.LoginDefs
import XLStatus.Auth.Users

/-! When a password reset ends the logins under the old password: the reset deletes the
user's sessions once, so a login that read the user before has to have inserted its session
by then. -/

namespace XLStatus.Auth.Login

open Shared Transition List Option Function

/-- The password was verified against the user as before a replacement: `token_version`
counts the replacements of a user's password. -/
def isOld (old verified : User) : Bool :=
  verified.row.id == old.row.id && verified.row.tokenVersion ≤ old.row.tokenVersion

def System.hasRevoked (st : System) (call : ℕ) : Bool :=
  match st.admin.calls call with
  | none => false
  | some c => match c.phase with
    | .revokeAfterPassword => st.sessionsDeleted call
    | .reload => true
    | .done (.ok _) => true
    | _ => false

def inTime (st : System) : Event → Bool
  | .login i _ => match st.logins i with
    | some login => match login.phase with
      | .createSession user =>
        st.replaced.entries.all fun e => !(st.hasRevoked e.1 && isOld e.2 user)
      | _ => true
    | none => true
  | _ => true

/-! ## What a login does to the sessions -/

section Sessions

variable {db : DatabaseBackend} {hmac : HmacSha1} {sha256 : Sha256} {argon2 : Argon2}
  {sessionTtlHours : ℤ} {users : Users.Table} {credentials : UserId → Credentials}

theorem mem_createSession {rows rows' : List SessionRow} {verified : User}
    {ip userAgent : Option String} {expiresAt now : DateTime} {tokenHash id : String}
    (h : createSession db users rows verified ip userAgent expiresAt tokenHash id now = .ok rows')
    {row : SessionRow} (hrow : row ∈ rows') :
    row ∈ rows ∨ row.verified = verified ∧ row.session.userId = verified.row.id := by
  simp only [createSession, Checked.bind_eq_ok] at h
  obtain ⟨-, -, -, -, -, -, -, -, h⟩ := h
  obtain rfl := Checked.pure_eq_ok.mp h
  rcases mem_append.mp hrow with hkept | hnew
  · exact .inl (mem_filter.mp (mem_filter.mp hkept).1).1
  · obtain rfl := mem_singleton.mp hnew
    exact .inr ⟨rfl, rfl⟩

theorem mem_made {login : Call} {t : Tables} {io : Io} {row : SessionRow}
    (h : row ∈
      (login.made db hmac sha256 argon2 sessionTtlHours users credentials t io).1.sessions) :
    row ∈ t.sessions ∨ ∃ user, login.phase = .createSession user ∧ row.verified = user ∧
      row.session.userId = user.row.id := by
  unfold Call.made at h
  split at h
  case h_9 user hphase =>
    split at h
    · exact .inl h
    · rename_i hcreated
      exact (mem_createSession hcreated h).imp_right fun hnew => ⟨user, hphase, hnew⟩
  all_goals left
  case h_1 => split at h <;> exact h
  case h_3 =>
    split at h
    · exact h
    · split at h <;> exact h
  case h_5 =>
    dsimp only at h
    split at h <;> exact h
  case h_7 =>
    split at h
    · exact h
    · split at h <;> exact h
  all_goals exact h

theorem fst_answered (login : Call) (t : Tables) (io : Io) :
    (login.answered db hmac sha256 argon2 sessionTtlHours users credentials t io).1 = t ∨
      (login.answered db hmac sha256 argon2 sessionTtlHours users credentials t io).1 =
        (login.made db hmac sha256 argon2 sessionTtlHours users credentials t io).1 := by
  unfold Call.answered
  generalize login.made db hmac sha256 argon2 sessionTtlHours users credentials t io = made
  dsimp only
  split
  · exact .inr rfl
  · exact .inr rfl
  · split
    · exact .inr rfl
    · exact .inl rfl
    · exact .inr rfl

theorem mem_answered {login : Call} {t : Tables} {io : Io} {row : SessionRow}
    (h : row ∈
      (login.answered db hmac sha256 argon2 sessionTtlHours users credentials t io).1.sessions) :
    row ∈ t.sessions ∨ ∃ user, login.phase = .createSession user ∧ row.verified = user ∧
      row.session.userId = user.row.id := by
  rcases fst_answered login t io with hsame | hmade
  · exact .inl (hsame ▸ h)
  · exact mem_made (hmade ▸ h)

end Sessions

/-! ## What an administrator's request does -/

def Late : Users.Phase → Prop
  | .revokeAfterPassword | .reload | .done _ => True
  | _ => False

theorem target_answered (users : Users.Table) (c : Users.Call) :
    (Users.answered users c).2.target = c.target := by
  have hafter : ∀ c : Users.Call, c.afterRole.target = c.target := by
    intro c
    unfold Users.Call.afterRole
    split
    · rfl
    · split <;> rfl
  have hfound : ∀ existing, (c.found existing).target = c.target := by
    intro existing
    unfold Users.Call.found
    split
    · exact hafter c
    · split
      · rfl
      · split
        · split <;> rfl
        · rfl
    · split <;> rfl
  unfold Users.answered
  split
  case h_1 =>
    split
    · rfl
    · exact hfound _
  case h_3 =>
    dsimp only
    split
    · rfl
    · split
      · rfl
      · exact hafter c
  case h_4 => exact hafter c
  case h_5 =>
    dsimp only
    split <;> rfl
  all_goals first | rfl | split <;> rfl

theorem late_answered (users : Users.Table) {c : Users.Call} (h : Late c.phase) :
    Late (Users.answered users c).2.phase := by
  unfold Users.answered
  split
  case h_6 => trivial
  case h_7 => split <;> trivial
  case h_11 => exact h
  all_goals
    rename_i hphase
    rw [hphase] at h
    exact h.elim

def Revoking : Users.Phase → Prop
  | .revokeAfterRole | .revokeAfterPassword | .revokeForDelete _ _ => True
  | _ => False

theorem calls_step {st : Users.System} {call : ℕ} {c : Users.Call} (hc : st.calls call = some c)
    (reply : Users.Reply) :
    ∃ c', (st.step (.step call reply)).calls = Function.update st.calls call (some c') ∧
      c'.target = c.target ∧ (Late c.phase → Late c'.phase) ∧
      (c' = (Users.answered st.users c).2 ∨ ∃ e, c'.phase = .done (.error e)) := by
  simp only [Users.System.step, hc]
  cases reply with
  | done =>
    exact ⟨_, rfl, target_answered st.users c, late_answered st.users, .inl rfl⟩
  | failed => exact ⟨_, rfl, rfl, fun _ => trivial, .inr ⟨_, rfl⟩⟩
  | lost => exact ⟨_, rfl, rfl, fun _ => trivial, .inr ⟨_, rfl⟩⟩

/-! ## The invariant -/

structure Inv (st : System) : Prop where
  owner : ∀ row ∈ st.tables.sessions, row.session.userId = row.verified.row.id
  revoking : ∀ call, st.sessionsDeleted call = true →
    ∃ c, st.admin.calls call = some c ∧ Revoking c.phase
  late : ∀ call old, st.replaced.lookup call = some old →
    ∃ c, st.admin.calls call = some c ∧ c.target = old.row.id ∧ Late c.phase
  ended : ∀ call old, st.replaced.lookup call = some old → st.hasRevoked call = true →
    ∀ row ∈ st.tables.sessions, isOld old row.verified = false

structure Frame (call : ℕ) (st st' : System) : Prop where
  sessions : ∀ row ∈ st'.tables.sessions, row ∈ st.tables.sessions
  calls : ∀ i, i ≠ call → st'.admin.calls i = st.admin.calls i
  deleted : ∀ i, i ≠ call → st'.sessionsDeleted i = st.sessionsDeleted i
  replaced : ∀ i, i ≠ call → st'.replaced.lookup i = st.replaced.lookup i

theorem inv_of_frame (call : ℕ) {st st' : System} (h : Inv st) (hframe : Frame call st st')
    (hrevoking : st'.sessionsDeleted call = true →
      ∃ c, st'.admin.calls call = some c ∧ Revoking c.phase)
    (hlate : ∀ old, st'.replaced.lookup call = some old →
      ∃ c, st'.admin.calls call = some c ∧ c.target = old.row.id ∧ Late c.phase)
    (hended : ∀ old, st'.replaced.lookup call = some old → st'.hasRevoked call = true →
      (st.replaced.lookup call = some old ∧ st.hasRevoked call = true) ∨
        ∀ row ∈ st'.tables.sessions, row.session.userId ≠ old.row.id) : Inv st' := by
  have howner : ∀ row ∈ st'.tables.sessions, row.session.userId = row.verified.row.id :=
    fun row hrow => h.owner row (hframe.sessions row hrow)
  refine ⟨howner, fun i hi => ?_, fun i old hold => ?_, fun i old hold hrev row hrow => ?_⟩
  · by_cases hne : i = call
    · subst hne
      exact hrevoking hi
    · rw [hframe.calls i hne]
      exact h.revoking i (hframe.deleted i hne ▸ hi)
  · by_cases hne : i = call
    · subst hne
      exact hlate old hold
    · rw [hframe.calls i hne]
      exact h.late i old (hframe.replaced i hne ▸ hold)
  · have hold_ended : st.replaced.lookup i = some old → st.hasRevoked i = true →
        isOld old row.verified = false :=
      fun hold hrev => h.ended i old hold hrev row (hframe.sessions row hrow)
    by_cases hne : i = call
    · subst hne
      rcases hended old hold hrev with ⟨hold, hrev⟩ | hnone
      · exact hold_ended hold hrev
      · have hid : row.verified.row.id ≠ old.row.id := howner row hrow ▸ hnone row hrow
        simp [isOld, hid]
    · refine hold_ended (hframe.replaced i hne ▸ hold) ?_
      unfold System.hasRevoked at hrev ⊢
      rwa [hframe.calls i hne, hframe.deleted i hne] at hrev

section Admin

variable {st : System} {call : ℕ} {c : Users.Call}

theorem Inv.not_deleted (h : Inv st) (hc : st.admin.calls call = some c)
    (hphase : ¬ Revoking c.phase) : st.sessionsDeleted call = false := by
  rw [← Bool.not_eq_true]
  intro hdeleted
  obtain ⟨c₁, hc₁, hrevoking⟩ := h.revoking call hdeleted
  cases hc₁.symm.trans hc
  exact hphase hrevoking

theorem Inv.of_lookup (h : Inv st) (hc : st.admin.calls call = some c) {old : User}
    (hold : st.replaced.lookup call = some old) : c.target = old.row.id ∧ Late c.phase := by
  obtain ⟨c₁, hc₁, htarget, hlate⟩ := h.late call old hold
  cases hc₁.symm.trans hc
  exact ⟨htarget, hlate⟩

theorem inv_next (h : Inv st) (hc : st.admin.calls call = some c) (reply : Users.Reply)
    (hdeleted : st.sessionsDeleted call = false)
    (hphase : c.phase = .revokeAfterPassword → ∃ e, reply = .failed e) :
    Inv { st with admin := st.admin.step (.step call reply) } := by
  obtain ⟨c', hcalls, htarget, hlate, hform⟩ := calls_step hc reply
  have hcall : (st.admin.step (.step call reply)).calls call = some c' := by
    rw [hcalls, update_self]
  refine inv_of_frame call h ⟨fun row hrow => hrow, fun i hi => ?_, fun i _ => rfl, fun i _ => rfl⟩
    (fun hdel => absurd hdel (by simp only [hdeleted, Bool.false_eq_true, not_false_eq_true]))
    (fun old hold => ?_) fun old hold hrev => ?_
  · change (st.admin.step (.step call reply)).calls i = _
    rw [hcalls, update_of_ne hi]
  · obtain ⟨hid, hl⟩ := h.of_lookup hc hold
    exact ⟨c', hcall, htarget.trans hid, hlate hl⟩
  · refine .inl ⟨hold, ?_⟩
    obtain ⟨-, hl⟩ := h.of_lookup hc hold
    have hnot : ∀ e, c'.phase ≠ .done (.error e) := by
      intro e he
      simp [System.hasRevoked, hcall, he] at hrev
    unfold System.hasRevoked
    rw [hc]
    cases hp : c.phase with
    | revokeAfterPassword =>
      obtain ⟨e, rfl⟩ := hphase hp
      have hfailed : c' = c.fail (.database e) := by
        have := congrFun hcalls call
        simp only [Users.System.step, hc, update_self, some.injEq] at this
        exact this.symm
      exact absurd (by rw [hfailed]; rfl) (hnot (.database e))
    | reload => simp only [hp]
    | done result =>
      rcases hform with hsame | ⟨e, he⟩
      · cases result with
        | ok => simp only [hp]
        | error e =>
          have hdone : c' = c := by rw [hsame, Users.answered, hp]
          exact absurd (hdone ▸ hp) (hnot e)
      · exact absurd he (hnot e)
    | _ =>
      rw [hp] at hl
      exact hl.elim

theorem inv_delete (h : Inv st) (hc : st.admin.calls call = some c) {st' : System}
    (hsessions : st'.tables.sessions = deleteForUser st.tables.sessions c.target)
    (hreplaced : st'.replaced = st.replaced)
    (hdeleted : ∀ i, i ≠ call → st'.sessionsDeleted i = st.sessionsDeleted i) {c' : Users.Call}
    (hcalls : st'.admin.calls = Function.update st.admin.calls call (some c'))
    (htarget : c'.target = c.target) (hlate : Late c.phase → Late c'.phase)
    (hrevoking : st'.sessionsDeleted call = true → Revoking c'.phase) : Inv st' := by
  have hcall : st'.admin.calls call = some c' := by rw [hcalls, update_self]
  refine inv_of_frame call h ⟨fun row hrow => ?_, fun i hi => ?_, hdeleted, fun i _ => ?_⟩
    (fun hdel => ⟨c', hcall, hrevoking hdel⟩) (fun old hold => ?_) fun old hold _ => ?_
  · rw [hsessions] at hrow
    exact (mem_filter.mp hrow).1
  · rw [hcalls, update_of_ne hi]
  · rw [hreplaced]
  · rw [hreplaced] at hold
    obtain ⟨hid, hl⟩ := h.of_lookup hc hold
    exact ⟨c', hcall, htarget.trans hid, hlate hl⟩
  · rw [hreplaced] at hold
    refine .inr fun row hrow => ?_
    rw [hsessions] at hrow
    rw [← (h.of_lookup hc hold).1]
    exact of_decide_eq_true (mem_filter.mp hrow).2

theorem findById_id {users : Users.Table} {credentials : UserId → Credentials} {id : UserId}
    {user : User} (h : findById users credentials id = some user) : user.row.id = id := by
  obtain ⟨row, hrow, rfl⟩ := map_eq_some_iff.mp h
  simpa using find?_some hrow

theorem inv_reset (h : Inv st) (hc : st.admin.calls call = some c)
    (hphase : c.phase = .resetPassword) (reply : Users.Reply) {user : User}
    (huser : user.row.id = c.target) {st' : System}
    (htables : st'.tables = st.tables) (hreplaced : st'.replaced = st.replaced.insert call user)
    (hdeleted : st'.sessionsDeleted = st.sessionsDeleted)
    (hadmin : st'.admin = st.admin.step (.step call reply)) : Inv st' := by
  obtain ⟨c', hcalls, htarget, -, hform⟩ := calls_step hc reply
  have hcall : st'.admin.calls call = some c' := by
    rw [hadmin, hcalls, update_self]
  have hnot : st'.sessionsDeleted call = false := by
    rw [hdeleted]
    exact h.not_deleted hc (by simp [hphase, Revoking])
  -- The request goes on to delete the sessions, or it has failed.
  have hnext : c'.phase = .revokeAfterPassword ∨ ∃ e, c'.phase = .done (.error e) := by
    rcases hform with rfl | he
    · simp only [Users.answered, hphase]
      split
      · exact .inr ⟨_, rfl⟩
      · exact .inl rfl
    · exact .inr he
  refine inv_of_frame call h ⟨fun row hrow => htables ▸ hrow, fun i hi => ?_,
    fun i _ => by rw [hdeleted], fun i hi => ?_⟩ (fun hdel => absurd hdel (by simp [hnot]))
    (fun old hold => ?_) fun old hold hrev => ?_
  · rw [hadmin, hcalls, update_of_ne hi]
  · rw [hreplaced, AList.lookup_insert_ne hi]
  · rw [hreplaced, AList.lookup_insert] at hold
    cases hold
    refine ⟨c', hcall, htarget.trans huser.symm, ?_⟩
    rcases hnext with hp | ⟨e, hp⟩
    · rw [hp]
      trivial
    · rw [hp]
      trivial
  · unfold System.hasRevoked at hrev
    rw [hcall] at hrev
    rcases hnext with hp | ⟨e, hp⟩
    · simp [hp, hnot] at hrev
    · simp [hp] at hrev

theorem inv_revoke (h : Inv st) (hc : st.admin.calls call = some c) (hrevoking : Revoking c.phase)
    (reply : Users.Reply) :
    Inv (if st.sessionsDeleted call then
      { st with
        admin := st.admin.step (.step call reply)
        sessionsDeleted := Function.update st.sessionsDeleted call false }
    else match reply with
      | .done =>
        { st.deleteSessions c.target with
          sessionsDeleted := Function.update st.sessionsDeleted call true }
      | .failed _ => { st with admin := st.admin.step (.step call reply) }
      | .lost _ =>
        { st with admin := st.admin.step (.step call reply) }.deleteSessions c.target) := by
  obtain ⟨c', hcalls, htarget, hlate, -⟩ := calls_step hc reply
  have hcall : (st.admin.step (.step call reply)).calls call = some c' := by
    rw [hcalls, update_self]
  split_ifs with hdeleted
  · refine inv_of_frame call h ⟨fun row hrow => hrow, fun i hi => ?_,
      fun i hi => update_of_ne hi _ _, fun i _ => rfl⟩ (fun hdel => ?_)
      (fun old hold => ?_) fun old hold _ => ?_
    · change (st.admin.step (.step call reply)).calls i = _
      rw [hcalls, update_of_ne hi]
    · simp at hdel
    · obtain ⟨hid, hl⟩ := h.of_lookup hc hold
      exact ⟨c', hcall, htarget.trans hid, hlate hl⟩
    · refine .inl ⟨hold, ?_⟩
      obtain ⟨-, hl⟩ := h.of_lookup hc hold
      have hphase : c.phase = .revokeAfterPassword := by
        cases hp : c.phase <;> simp_all [Revoking, Late]
      simp only [System.hasRevoked, hc, hphase, hdeleted]
  · have hnot : st.sessionsDeleted call = false := by simpa using hdeleted
    cases reply with
    | done =>
      have hsame : st.admin.calls = Function.update st.admin.calls call (some c) :=
        (update_eq_self_iff.mpr hc.symm).symm
      exact inv_delete h hc rfl rfl (fun i hi => update_of_ne hi _ _) hsame rfl id
        fun _ => hrevoking
    | failed e => exact inv_next h hc (.failed e) hnot fun _ => ⟨e, rfl⟩
    | lost =>
      refine inv_delete h hc rfl rfl (fun i _ => rfl) hcalls htarget hlate fun hdel => ?_
      exact absurd hdel (by simp [System.deleteSessions, hnot])

theorem inv_adminStep (argon2 : Argon2) (salt : String) (h : Inv st) (e : Users.Event) :
    Inv (st.adminStep argon2 salt e) := by
  cases e with
  | request call actor isPat totp id command =>
    cases hc : st.admin.calls call with
    | some =>
      have hsame : st.admin.step (.request call actor isPat totp id command) = st.admin := by
        simp only [Users.System.step, hc]
      simpa only [System.adminStep, hsame] using h
    | none =>
      have hlookup : ∀ old, st.replaced.lookup call ≠ some old := by
        intro old hold
        obtain ⟨c, hc', -⟩ := h.late call old hold
        cases hc'.symm.trans hc
      have hdeleted : st.sessionsDeleted call ≠ true := by
        intro hdel
        obtain ⟨c, hc', -⟩ := h.revoking call hdel
        cases hc'.symm.trans hc
      refine inv_of_frame call h ⟨fun row hrow => hrow, fun i hi => ?_, fun i _ => rfl,
        fun i _ => rfl⟩ (fun hdel => absurd hdel hdeleted)
        (fun old hold => absurd hold (hlookup old)) fun old hold => absurd hold (hlookup old)
      simp only [System.adminStep, Users.System.step, hc]
      split
      · exact update_of_ne hi _ _
      · rfl
  | drop call =>
    have hnone : ∀ old, (st.replaced.erase call).lookup call ≠ some old := by simp
    refine inv_of_frame call h ⟨fun row hrow => hrow, fun i hi => update_of_ne hi _ _,
      fun i hi => update_of_ne hi _ _, fun i hi => AList.lookup_erase_ne hi⟩
      (fun hdel => ?_) (fun old hold => absurd hold (hnone old))
      fun old hold => absurd hold (hnone old)
    simp [System.adminStep] at hdel
  | step call reply =>
    cases hc : st.admin.calls call with
    | none => simpa only [System.adminStep, hc] using h
    | some c =>
      have hkeep : ∀ reply, ¬ Revoking c.phase →
          Inv { st with admin := st.admin.step (.step call reply) } := by
        intro reply hrev
        refine inv_next h hc reply (h.not_deleted hc hrev) fun hp => ?_
        simp [hp, Revoking] at hrev
      simp only [System.adminStep, hc]
      split
      case h_1 hphase =>
        have hrev : ¬ Revoking c.phase := by simp [hphase, Revoking]
        split
        · exact hkeep _ hrev
        · split
          · exact hkeep _ hrev
          · exact hkeep _ hrev
          · rename_i huser
            exact inv_reset h hc hphase _ (findById_id huser) rfl rfl rfl rfl
      case h_2 hphase => exact inv_revoke h hc (by simp [hphase, Revoking]) reply
      case h_3 hphase => exact inv_revoke h hc (by simp [hphase, Revoking]) reply
      case h_4 hphase => exact inv_revoke h hc (by simp [hphase, Revoking]) reply
      case h_5 hphase =>
        have hrev : ¬ Revoking c.phase := by simp [hphase, Revoking]
        obtain ⟨c', hcalls, htarget, hlate, -⟩ := calls_step hc reply
        split
        · exact hkeep _ hrev
        · refine inv_delete h hc rfl rfl (fun i _ => rfl) hcalls htarget hlate fun hdel => ?_
          exact absurd hdel (by simp [System.deleteSessions, h.not_deleted hc hrev])
      case h_6 =>
        refine hkeep reply ?_
        cases hp : c.phase <;> simp_all [Revoking]

end Admin

theorem inv_init (users : Users.Table) (credentials : UserId → Credentials) {tables : Tables}
    (h : ∀ row ∈ tables.sessions, row.session.userId = row.verified.row.id) :
    Inv (.init users credentials tables) :=
  have hnone : ∀ call old, (System.init users credentials tables).replaced.lookup call ≠ some old :=
    fun _ _ hold => by simp [System.init] at hold
  ⟨h, fun _ hdel => absurd hdel Bool.false_ne_true,
    fun call old hold => absurd hold (hnone call old),
    fun call old hold => absurd hold (hnone call old)⟩

section Runs

variable (db : DatabaseBackend) (hmac : HmacSha1) (sha256 : Sha256) (argon2 : Argon2)
  (sessionTtlHours : ℤ)

theorem inv_step {st : System} (h : Inv st) {e : Event} (htime : inTime st e = true) :
    Inv (st.step db hmac sha256 argon2 sessionTtlHours e) := by
  -- The logins are no part of the invariant.
  have hlogins : ∀ logins, Inv { st with logins } := fun logins =>
    ⟨h.owner, h.revoking, h.late, h.ended⟩
  cases e with
  | startLogin =>
    simp only [System.step]
    split
    · exact hlogins _
    · exact h
  | dropLogin => exact hlogins _
  | admin e salt => exact inv_adminStep argon2 salt h e
  | login i io =>
    simp only [System.step]
    cases hlogin : st.logins i with
    | none => exact h
    | some login =>
      have hrow : ∀ row ∈ (login.answered db hmac sha256 argon2 sessionTtlHours st.admin.users
          st.credentials st.tables io).1.sessions, row ∈ st.tables.sessions ∨
            ∃ user, login.phase = .createSession user ∧ row.verified = user ∧
              row.session.userId = user.row.id := fun row hrow => mem_answered hrow
      refine ⟨fun row hmem => ?_, h.revoking, h.late, fun call old hold hrev row hmem => ?_⟩
      · rcases hrow row hmem with hmem | ⟨user, -, rfl, huser⟩
        · exact h.owner row hmem
        · exact huser
      · rcases hrow row hmem with hmem | ⟨user, hphase, rfl, -⟩
        · exact h.ended call old hold hrev row hmem
        · simp only [inTime, hlogin, hphase, List.all_eq_true] at htime
          have hentry := htime ⟨call, old⟩ (AList.mem_lookup_iff.mp hold)
          have hrevoked : st.hasRevoked call = true := hrev
          simpa [hrevoked] using hentry

/-- After an update has replaced a password and returned, no valid session of the user is
left that was created by a login under the replaced password. -/
def OldLoginsEnded (dec : Middleware.Decoders) (st : System) : Prop :=
  ∀ call c user, st.admin.calls call = some c → c.phase = .done (.ok user) →
    ∀ old, st.replaced.lookup call = some old →
      ∀ row ∈ st.tables.sessions, ∀ now,
        Middleware.findSessionByTokenHash dec (.postgres (st.tables.sessions.map (·.session)))
            row.session.tokenHash now = some row.session →
          isOld old row.verified = false

/-- In every run in which each login inserts its session before the sessions are deleted by a
request that has replaced the password in between, a replaced password ends every login
under it, in every state reached. -/
theorem old_logins_ended (dec : Middleware.Decoders) (users : Users.Table)
    (credentials : UserId → Credentials) (tables : Tables)
    (howner : ∀ row ∈ tables.sessions, row.session.userId = row.verified.row.id)
    (es : List Event)
    (htime : Meets (System.step db hmac sha256 argon2 sessionTtlHours) (fun st e => inTime st e)
      (.init users credentials tables) es) :
    OldLoginsEnded dec
      (run (System.step db hmac sha256 argon2 sessionTtlHours) (.init users credentials tables)
        es) := by
  have hstep : ∀ st e, inTime st e = true → Inv st →
      Inv (st.step db hmac sha256 argon2 sessionTtlHours e) :=
    fun st e he h => inv_step db hmac sha256 argon2 sessionTtlHours h he
  have hinv := run_induct_of_meets hstep (inv_init users credentials howner) htime
  intro call c user hc hphase old hold row hrow now _
  refine hinv.ended call old hold ?_ row hrow
  simp only [System.hasRevoked, hc, hphase]

end Runs

namespace Sample

open Users.Sample (alice bob)

def users : Users.Table := ⟨[⟨alice, .admin, 0⟩, ⟨bob, .member, 0⟩], by decide⟩

def argon2 : Argon2 where
  hash salt password := .ok ("$argon2id$" ++ salt ++ "$" ++ password)
  verify stored password := .ok (("$" ++ password).toList.isSuffixOf stored.toList)

def credentials (id : UserId) : Credentials :=
  if id = bob then ⟨"bob", "$argon2id$salt$old-password", none, false⟩
  else ⟨"alice", "$argon2id$salt$admin-password", none, false⟩

def sha256 : Sha256 := fun message i => UInt8.ofNat (message.length + i)

def hmac : HmacSha1 := fun _ _ _ => 0

def dec : Middleware.Decoders := ⟨fun _ => none, fun _ => none, fun _ => ""⟩

def io (now : ℤ) (h : timestamp (seconds now) < 2 ^ 63) : Io :=
  { reply := .done
    totp := ⟨none, none, .done⟩
    now := seconds now
    later := seconds now
    sessionId := "0190a6f4-2b1c-7c3d-8e4f-0000000000c0"
    sessionToken := "token"
    timestamp_now := h }

def login (i : ℕ) (now : ℤ) (h : timestamp (seconds now) < 2 ^ 63 := by decide) : Event :=
  .login i (io now h)

def reset : List Event :=
  .admin (.request 0 alice false (.ok ()) bob.text (.update none (some "new-password"))) "" ::
    replicate 5 (.admin (.step 0 .done) "salt2")

def step : System → Event → System := System.step .sqlite hmac sha256 argon2 24

def start : System := .init users credentials ⟨[], [], []⟩

def loginOf (password : String) : Event :=
  .startLogin 0 ⟨"bob", password, none, "203.0.113.7", none⟩

def overtaken : List Event :=
  [loginOf "old-password", login 0 0, login 0 0, login 0 0] ++ reset ++ [login 0 1]

def inTurn : List Event :=
  [loginOf "old-password", login 0 0, login 0 0, login 0 0, login 0 0] ++ reset ++
    [.dropLogin 0, loginOf "new-password", login 0 1, login 0 1, login 0 1, login 0 1]

def bobBefore : User := ⟨⟨bob, .member, 0⟩, "bob", "$argon2id$salt$old-password"⟩

def lateRow : SessionRow :=
  { session :=
      { id := "0190a6f4-2b1c-7c3d-8e4f-0000000000c0"
        userId := bob
        tokenHash := hashToken sha256 "token"
        ip := some "203.0.113.7"
        userAgent := none
        expiresAt := seconds 86401
        createdAt := seconds 1 }
    verified := bobBefore }

deriving instance DecidableEq for Middleware.Session
deriving instance DecidableEq for SessionRow

end Sample

theorem session_survives_reset :
    ¬ OldLoginsEnded Sample.dec (run Sample.step Sample.start Sample.overtaken) := by
  intro h
  have hsessions : (run Sample.step Sample.start Sample.overtaken).tables.sessions =
      [Sample.lateRow] := by decide +kernel
  have hreturned : ∃ c user, (run Sample.step Sample.start Sample.overtaken).admin.calls 0 =
      some c ∧ c.phase = .done (.ok user) := ⟨_, _, rfl, rfl⟩
  have hreplaced : (run Sample.step Sample.start Sample.overtaken).replaced.lookup 0 =
      some Sample.bobBefore := by decide +kernel
  obtain ⟨c, user, hc, hphase⟩ := hreturned
  have hrow := h 0 c user hc hphase Sample.bobBefore hreplaced Sample.lateRow
  rw [hsessions] at hrow
  have hold := hrow mem_cons_self (seconds 2) (by decide +kernel)
  revert hold
  decide +kernel

theorem old_logins_ended_inTurn :
    (run Sample.step Sample.start Sample.inTurn).tables.sessions.length = 1 ∧
      OldLoginsEnded Sample.dec (run Sample.step Sample.start Sample.inTurn) := by
  refine ⟨by decide +kernel, ?_⟩
  exact old_logins_ended .sqlite Sample.hmac Sample.sha256 Sample.argon2 24 Sample.dec Sample.users
    Sample.credentials ⟨[], [], []⟩ (forall_mem_nil _) Sample.inTurn (by decide +kernel)

end XLStatus.Auth.Login
