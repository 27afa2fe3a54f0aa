import XLStatus.Alerts.WindowDefs
import XLStatus.Auth.RbacDefs

/-! The pending terminal sessions: each is a ticket with which its creator, and nobody else,
opens the terminal socket, once and for a limited time. -/

namespace XLStatus.Terminal.Tickets

open Shared Auth Transition List AList
open Alerts (numSeconds)

def terminalSessionTtlSeconds : ℤ := 300
def maxPendingTerminalSessions : ℕ := 256

/-- Session identifiers are version 7 UUIDs that are only compared: the `n`-th one given out
is `n`. -/
abbrev SessionId := ℕ

structure TerminalSession where
  id : SessionId
  agentId : AgentId
  createdByUserId : UserId
  createdAuthKind : AuthKind
  createdSessionId : Option String
  createdPatId : Option String
  cols : UInt16
  rows : UInt16
  createdAt : DateTime
  deriving DecidableEq

abbrev Sessions := HashMap SessionId TerminalSession

def newTerminalSession (id : SessionId) (auth : AuthSession) (agentId : AgentId)
    (cols rows : UInt16) (createdAt : DateTime) : TerminalSession where
  id := id
  agentId := agentId
  createdByUserId := auth.userId
  createdAuthKind := auth.authKind
  createdSessionId := if auth.authKind = .session then some auth.sessionId else none
  createdPatId :=
    if auth.authKind = .personalAccessToken then some (auth.patId.getD auth.sessionId) else none
  cols := cols
  rows := rows
  createdAt := createdAt

def terminalSessionCreatedByAuth (session : TerminalSession) (auth : AuthSession) : Bool :=
  session.createdByUserId == auth.userId &&
    (match session.createdAuthKind, auth.authKind with
      | .session, .session | .personalAccessToken, .personalAccessToken => true
      | _, _ => false) &&
    match auth.authKind with
    | .session => session.createdSessionId == some auth.sessionId
    | .personalAccessToken => session.createdPatId == some (auth.patId.getD auth.sessionId)

def isLive (now : DateTime) (session : TerminalSession) : Bool :=
  numSeconds (now - session.createdAt) ≤ terminalSessionTtlSeconds

def pruneExpiredTerminalSessions (sessions : Sessions) (now : DateTime) : Sessions :=
  sessions.retain fun _ session => isLive now session

def create (sessions : Sessions) (session : TerminalSession) (now : DateTime) :
    Except AppError TerminalSession × Sessions :=
  let sessions := pruneExpiredTerminalSessions sessions now
  if sessions.len ≥ maxPendingTerminalSessions then
    (.error (.forbidden "too many pending terminal sessions"), sessions)
  else (.ok session, sessions.insert session.id session)

def takeForAuth (sessions : Sessions) (sessionId : SessionId) (auth : AuthSession)
    (now : DateTime) : Except AppError (Option TerminalSession) × Sessions :=
  let sessions := pruneExpiredTerminalSessions sessions now
  match sessions.lookup sessionId with
  | none => (.ok none, sessions)
  | some session =>
    if terminalSessionCreatedByAuth session auth then
      (.ok (some session), sessions.erase sessionId)
    else
      (.error (.forbidden "terminal session was created by another credential"), sessions)

/-! ## Runs

The calls of `create` that wait for the lock, and what the calls have returned. -/

structure Creation where
  auth : AuthSession
  session : TerminalSession
  deriving DecidableEq

structure Take where
  session : TerminalSession
  auth : AuthSession
  time : DateTime
  deriving DecidableEq

structure Registry where
  sessions : Sessions
  creating : HashMap SessionId Creation
  issued : ℕ
  created : List Creation
  taken : List Take

def Registry.init : Registry :=
  { sessions := ∅, creating := ∅, issued := 0, created := [], taken := [] }

inductive Event where
  | create (auth : AuthSession) (agentId : AgentId) (cols rows : UInt16) (createdAt : DateTime)
  | insert (id : SessionId) (now : DateTime)
  | take (id : SessionId) (auth : AuthSession) (now : DateTime)
  | remove (id : SessionId)

namespace Registry

variable (r : Registry)

def begin (auth : AuthSession) (agentId : AgentId) (cols rows : UInt16) (createdAt : DateTime) :
    Registry :=
  { r with
    issued := r.issued + 1
    creating := r.creating.insert r.issued
      ⟨auth, newTerminalSession r.issued auth agentId cols rows createdAt⟩ }

def insert (id : SessionId) (now : DateTime) : Registry :=
  match r.creating.lookup id with
  | none => r
  | some c => match create r.sessions c.session now with
    | (.ok _, sessions) =>
      { r with sessions, creating := r.creating.erase id, created := c :: r.created }
    | (.error _, sessions) => { r with sessions, creating := r.creating.erase id }

def take (id : SessionId) (auth : AuthSession) (now : DateTime) : Registry :=
  match takeForAuth r.sessions id auth now with
  | (.ok (some session), sessions) =>
    { r with sessions, taken := ⟨session, auth, now⟩ :: r.taken }
  | (_, sessions) => { r with sessions }

def step (r : Registry) : Event → Registry
  | .create auth agentId cols rows createdAt => r.begin auth agentId cols rows createdAt
  | .insert id now => r.insert id now
  | .take id auth now => r.take id auth now
  | .remove id => { r with sessions := r.sessions.erase id }

end Registry

def credential (auth : AuthSession) : UserId × AuthKind × String :=
  (auth.userId, auth.authKind, match auth.authKind with
    | .session => auth.sessionId
    | .personalAccessToken => auth.patId.getD auth.sessionId)

def Creation.Owned (c : Creation) : Prop :=
  ∀ auth, terminalSessionCreatedByAuth c.session auth = true ↔ credential auth = credential c.auth

theorem owned_newTerminalSession (id : SessionId) (auth : AuthSession) (agentId : AgentId)
    (cols rows : UInt16) (createdAt : DateTime) :
    Creation.Owned ⟨auth, newTerminalSession id auth agentId cols rows createdAt⟩ := by
  intro auth'
  unfold terminalSessionCreatedByAuth newTerminalSession credential
  have hswap (s t : String) (u v : UserId) : (u = v ∧ s = t) ↔ (v = u ∧ t = s) := by
    rw [eq_comm, and_congr_right_iff]
    exact fun _ => eq_comm
  cases auth.authKind <;> cases auth'.authKind <;>
    simp only [Bool.and_eq_true, beq_iff_eq, Option.some.injEq, Prod.mk.injEq, reduceCtorEq, if_true,
      if_false, and_true, true_and, and_false, false_and, Bool.false_eq_true]
  · exact hswap _ _ _ _
  · exact hswap _ _ _ _

def Untaken (r : Registry) (id : SessionId) : Prop := ∀ t ∈ r.taken, t.session.id ≠ id

structure Inv (r : Registry) : Prop where
  creating : ∀ id c, r.creating.lookup id = some c → c.session.id = id ∧ id < r.issued ∧
    c.Owned ∧ r.sessions.lookup id = none ∧ Untaken r id
  pending : ∀ id session, r.sessions.lookup id = some session → session.id = id ∧
    id < r.issued ∧ Untaken r id ∧ ∃ c ∈ r.created, c.session = session
  owned : ∀ c ∈ r.created, c.Owned
  issued : ∀ t ∈ r.taken, t.session.id < r.issued
  once : (r.taken.map (·.session.id)).Nodup
  taken : ∀ t ∈ r.taken, ∃ c ∈ r.created, c.session = t.session ∧
    credential t.auth = credential c.auth ∧ isLive t.time c.session = true
  bounded : r.sessions.len ≤ maxPendingTerminalSessions

section Inv

variable {r : Registry}

theorem inv_init : Inv .init where
  creating _ _ h := by cases h
  pending _ _ h := by cases h
  owned := forall_mem_nil _
  issued := forall_mem_nil _
  once := nodup_nil
  taken := forall_mem_nil _
  bounded := Nat.zero_le _

variable {sessions : Sessions} {id : SessionId} {auth : AuthSession} {error : AppError}

theorem Inv.shrink (h : Inv r) (hsub : ∀ id session, sessions.lookup id = some session →
      r.sessions.lookup id = some session) (hlen : sessions.len ≤ r.sessions.len) :
    Inv { r with sessions } where
  creating id c hc := by
    obtain ⟨hid, hissued, howned, hnone, huntaken⟩ := h.creating id c hc
    refine ⟨hid, hissued, howned, ?_, huntaken⟩
    rw [Option.eq_none_iff_forall_ne_some]
    intro session hsession
    rw [hsub id session hsession] at hnone
    cases hnone
  pending id session hs := h.pending id session (hsub id session hs)
  owned := h.owned
  issued := h.issued
  once := h.once
  taken := h.taken
  bounded := hlen.trans h.bounded

theorem lookup_prune {now : DateTime} {session : TerminalSession} :
    (pruneExpiredTerminalSessions sessions now).lookup id = some session ↔
      sessions.lookup id = some session ∧ isLive now session = true :=
  lookup_retain_eq_some

theorem Inv.prune (h : Inv r) (now : DateTime) :
    Inv { r with sessions := pruneExpiredTerminalSessions r.sessions now } :=
  h.shrink (fun _ _ hs => (lookup_prune.mp hs).1) (len_retain_le _ _)

theorem Inv.erase (h : Inv r) (id : SessionId) :
    Inv { r with sessions := r.sessions.erase id } := by
  refine h.shrink (fun id' session hs => ?_) (len_erase_le _ _)
  rw [lookup_erase_eq] at hs
  split at hs
  · cases hs
  · exact hs

theorem inv_begin (h : Inv r) (auth : AuthSession) (agentId : AgentId) (cols rows : UInt16)
    (createdAt : DateTime) : Inv (r.begin auth agentId cols rows createdAt) where
  creating id c hc := by
    change (r.creating.insert _ _).lookup id = some c at hc
    rw [lookup_insert_eq] at hc
    split at hc
    · rename_i hid
      cases hc
      refine ⟨hid.symm, hid ▸ Nat.lt_succ_self _, owned_newTerminalSession _ _ _ _ _ _, ?_, ?_⟩
      · rw [Option.eq_none_iff_forall_ne_some]
        intro session hsession
        exact absurd (h.pending id session hsession).2.1 (hid ▸ Nat.lt_irrefl _)
      · exact fun t ht => hid ▸ Nat.ne_of_lt (h.issued t ht)
    · obtain ⟨hid, hissued, hrest⟩ := h.creating id c hc
      exact ⟨hid, Nat.lt_succ_of_lt hissued, hrest⟩
  pending id session hs := by
    obtain ⟨hid, hissued, hrest⟩ := h.pending id session hs
    exact ⟨hid, Nat.lt_succ_of_lt hissued, hrest⟩
  owned := h.owned
  issued t ht := Nat.lt_succ_of_lt (h.issued t ht)
  once := h.once
  taken := h.taken
  bounded := h.bounded

theorem Inv.endCreate (h : Inv r) (id : SessionId) :
    Inv { r with creating := r.creating.erase id } where
  creating id' c hc := by
    refine h.creating id' c ?_
    rw [lookup_erase_eq] at hc
    split at hc
    · cases hc
    · exact hc
  pending := h.pending
  owned := h.owned
  issued := h.issued
  once := h.once
  taken := h.taken
  bounded := h.bounded

theorem inv_insert (h : Inv r) (id : SessionId) (now : DateTime) : Inv (r.insert id now) := by
  unfold Registry.insert
  split
  · exact h
  · rename_i c hc
    obtain ⟨hid, hissued, howned, hnone, huntaken⟩ := h.creating id c hc
    have hpruned := (h.prune now).endCreate id
    unfold create
    dsimp only
    by_cases hfull : (pruneExpiredTerminalSessions r.sessions now).len ≥ maxPendingTerminalSessions
    · rw [if_pos hfull]
      exact hpruned
    · rw [if_neg hfull, hid]
      refine ⟨fun id' c' hc' => ?_, fun id' session hs => ?_, ?_, hpruned.issued, hpruned.once,
        fun t ht => ?_, ?_⟩
      · obtain ⟨hid', hissued', howned', hnone', huntaken'⟩ := hpruned.creating id' c' hc'
        have hne : id' ≠ id := by
          rintro rfl
          rw [lookup_erase] at hc'
          cases hc'
        exact ⟨hid', hissued', howned', (lookup_insert_ne hne).trans hnone', huntaken'⟩
      · rw [lookup_insert_eq] at hs
        split at hs
        · rename_i heq
          cases hs
          exact ⟨hid.trans heq.symm, heq ▸ hissued, heq ▸ huntaken, c, mem_cons_self, rfl⟩
        · obtain ⟨hid', hissued', huntaken', c', hc', hsession⟩ := hpruned.pending id' session hs
          exact ⟨hid', hissued', huntaken', c', mem_cons_of_mem c hc', hsession⟩
      · exact forall_mem_cons.mpr ⟨howned, h.owned⟩
      · obtain ⟨c', hc', hrest⟩ := h.taken t ht
        exact ⟨c', mem_cons_of_mem c hc', hrest⟩
      · exact (len_insert_le _ _ _).trans (Nat.lt_of_not_le hfull)

theorem takeForAuth_of_lookup {now : DateTime} {session : TerminalSession}
    (hsession : sessions.lookup id = some session) (hlive : isLive now session = true)
    (hauth : terminalSessionCreatedByAuth session auth = true) :
    takeForAuth sessions id auth now =
      (.ok (some session), (pruneExpiredTerminalSessions sessions now).erase id) := by
  have hlookup := lookup_prune.mpr ⟨hsession, hlive⟩
  unfold takeForAuth
  simp only [hlookup, hauth, if_true]

theorem takeForAuth_error {now : DateTime}
    (h : (takeForAuth sessions id auth now).1 = .error error) :
    ∃ session, sessions.lookup id = some session ∧ isLive now session = true ∧
      takeForAuth sessions id auth now =
        (.error error, pruneExpiredTerminalSessions sessions now) := by
  unfold takeForAuth at h ⊢
  dsimp only at h ⊢
  cases hlookup : (pruneExpiredTerminalSessions sessions now).lookup id with
  | none =>
    rw [hlookup] at h
    cases h
  | some session =>
    obtain ⟨hsession, hlive⟩ := lookup_prune.mp hlookup
    rw [hlookup] at h
    dsimp only at h ⊢
    by_cases hauth : terminalSessionCreatedByAuth session auth = true
    · rw [if_pos hauth] at h
      cases h
    · rw [if_neg hauth] at h ⊢
      cases h
      exact ⟨session, hsession, hlive, rfl⟩

theorem take_cases (r : Registry) (id : SessionId) (auth : AuthSession) (now : DateTime) :
    (∃ session, r.sessions.lookup id = some session ∧ isLive now session = true ∧
      terminalSessionCreatedByAuth session auth = true ∧ r.take id auth now = { r with
        sessions := (pruneExpiredTerminalSessions r.sessions now).erase id
        taken := ⟨session, auth, now⟩ :: r.taken }) ∨
    r.take id auth now = { r with sessions := pruneExpiredTerminalSessions r.sessions now } := by
  unfold Registry.take takeForAuth
  dsimp only
  cases hlookup : (pruneExpiredTerminalSessions r.sessions now).lookup id with
  | none => exact .inr rfl
  | some session =>
    obtain ⟨hsession, hlive⟩ := lookup_prune.mp hlookup
    dsimp only
    by_cases hauth : terminalSessionCreatedByAuth session auth = true
    · rw [if_pos hauth]
      exact .inl ⟨session, hsession, hlive, hauth, rfl⟩
    · rw [if_neg hauth]
      exact .inr rfl

theorem inv_take (h : Inv r) (id : SessionId) (auth : AuthSession) (now : DateTime) :
    Inv (r.take id auth now) := by
  obtain ⟨session, hsession, hlive, hauth, heq⟩ | heq := take_cases r id auth now
  · obtain ⟨hid, hissued, huntaken, c, hc, rfl⟩ := h.pending id session hsession
    have hremoved := (h.prune now).erase id
    rw [heq]
    refine ⟨fun id' c' hc' => ?_, fun id' session hs => ?_, h.owned,
      forall_mem_cons.mpr ⟨hid ▸ hissued, h.issued⟩, ?_,
      forall_mem_cons.mpr ⟨⟨c, hc, rfl, (h.owned c hc auth).mp hauth, hlive⟩, h.taken⟩,
      hremoved.bounded⟩
    · obtain ⟨hid', hissued', howned', hnone', huntaken'⟩ := hremoved.creating id' c' hc'
      refine ⟨hid', hissued', howned', hnone', forall_mem_cons.mpr ⟨?_, huntaken'⟩⟩
      intro hsame
      obtain rfl : id = id' := hid.symm.trans hsame
      rw [(h.creating id c' hc').2.2.2.1] at hsession
      cases hsession
    · obtain ⟨hid', hissued', huntaken', hcreated⟩ := hremoved.pending id' session hs
      refine ⟨hid', hissued', forall_mem_cons.mpr ⟨?_, huntaken'⟩, hcreated⟩
      intro hsame
      obtain rfl : id = id' := hid.symm.trans hsame
      rw [lookup_erase] at hs
      cases hs
    · refine nodup_cons.mpr ⟨?_, h.once⟩
      intro hmem
      obtain ⟨t, ht, htid⟩ := mem_map.mp hmem
      exact huntaken t ht (htid.trans hid)
  · rw [heq]
    exact h.prune now

theorem inv_step (h : Inv r) (e : Event) : Inv (r.step e) := by
  cases e with
  | create auth agentId cols rows createdAt => exact inv_begin h auth agentId cols rows createdAt
  | insert id now => exact inv_insert h id now
  | take id auth now => exact inv_take h id auth now
  | remove id => exact h.erase id

theorem inv_run (es : List Event) : Inv (run Registry.step .init es) :=
  run_induct (P := Inv) (fun _ e h => inv_step h e) inv_init es

theorem refused_take_kept (h : Inv r) {now : DateTime}
    (hrefused : (takeForAuth r.sessions id auth now).1 = .error error) :
    ∃ c ∈ r.created, c.session.id = id ∧ ∀ auth' now', credential auth' = credential c.auth →
      isLive now' c.session = true →
        ((r.take id auth now).take id auth' now').taken = ⟨c.session, auth', now'⟩ :: r.taken := by
  obtain ⟨session, hsession, hlive, hresult⟩ := takeForAuth_error hrefused
  obtain ⟨hid, -, -, c, hc, rfl⟩ := h.pending id session hsession
  refine ⟨c, hc, hid, fun auth' now' hcredential hlive' => ?_⟩
  have hfirst : r.take id auth now =
      { r with sessions := pruneExpiredTerminalSessions r.sessions now } := by
    unfold Registry.take
    rw [hresult]
  have hsecond := takeForAuth_of_lookup (lookup_prune.mpr ⟨hsession, hlive⟩) hlive'
    ((h.owned c hc auth').mpr hcredential)
  rw [hfirst]
  unfold Registry.take
  rw [hsecond]

end Inv

/-- Every session is returned at most once, to the user, kind and identity of credential that
created it and while it is live; a take that is refused leaves it to its creator; and there are
never too many of them. -/
theorem tickets_single_use (es : List Event) :
    ((run Registry.step .init es).taken.map (·.session.id)).Nodup ∧
    (∀ t ∈ (run Registry.step .init es).taken, ∃ c ∈ (run Registry.step .init es).created,
      c.session = t.session ∧ credential t.auth = credential c.auth ∧
        numSeconds (t.time - c.session.createdAt) ≤ terminalSessionTtlSeconds) ∧
    (∀ id auth now error,
      (takeForAuth (run Registry.step .init es).sessions id auth now).1 = .error error →
        ∃ c ∈ (run Registry.step .init es).created, c.session.id = id ∧
          ∀ auth' now', credential auth' = credential c.auth →
            numSeconds (now' - c.session.createdAt) ≤ terminalSessionTtlSeconds →
              (run Registry.step .init (es ++ [.take id auth now, .take id auth' now'])).taken =
                ⟨c.session, auth', now'⟩ :: (run Registry.step .init es).taken) ∧
    (run Registry.step .init es).sessions.len ≤ maxPendingTerminalSessions := by
  have hinv := inv_run es
  refine ⟨hinv.once, fun t ht => ?_, fun id auth now error hrefused => ?_, hinv.bounded⟩
  · obtain ⟨c, hc, hsession, hcredential, hlive⟩ := hinv.taken t ht
    exact ⟨c, hc, hsession, hcredential, of_decide_eq_true hlive⟩
  · obtain ⟨c, hc, hid, hkept⟩ := refused_take_kept hinv hrefused
    refine ⟨c, hc, hid, fun auth' now' hcredential hlive => ?_⟩
    rw [run_append]
    exact hkept auth' now' hcredential (decide_eq_true hlive)

namespace Sample

def alice : AuthSession where
  sessionId := "session-1"
  userId := ⟨"00000000-0000-0000-0000-0000000000b1", by decide⟩
  username := "alice"
  role := .admin
  csrfToken := "csrf"
  authKind := .session
  scopes := []
  serverIds := none
  patId := none

def otherLogin : AuthSession := { alice with sessionId := "session-2" }

def agentId : AgentId := ⟨"00000000-0000-0000-0000-0000000000a1", canonical_nil⟩

def session : TerminalSession := newTerminalSession 0 alice agentId 80 24 0

end Sample

theorem tickets_single_use_refused :
    (run Registry.step .init [.create Sample.alice Sample.agentId 80 24 0, .insert 0 5,
      .take 0 Sample.otherLogin 7, .take 0 Sample.alice (seconds 300 + 999999999)]).taken =
        [⟨Sample.session, Sample.alice, seconds 300 + 999999999⟩] := by
  obtain ⟨-, -, hkept, -⟩ :=
    tickets_single_use [.create Sample.alice Sample.agentId 80 24 0, .insert 0 5]
  obtain ⟨c, hc, -, htake⟩ := hkept 0 Sample.otherLogin 7
    (.forbidden "terminal session was created by another credential") (by decide +kernel)
  obtain rfl : c = ⟨Sample.alice, Sample.session⟩ := mem_singleton.mp hc
  exact htake Sample.alice (seconds 300 + 999999999) rfl (by decide +kernel)

end XLStatus.Terminal.Tickets
