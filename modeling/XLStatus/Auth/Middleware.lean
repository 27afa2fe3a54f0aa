import XLStatus.Auth.MiddlewareDefs

/-! What a request that reaches its handler has shown. -/

namespace XLStatus.Auth.Middleware

open Shared Checked List Option

/-- The header is an attempt to use a personal access token: it is repeated, too long or no
text, or it is a bearer token with the prefix of these tokens. -/
def TokenAttempt (authorization : List HeaderValue) : Prop :=
  1 < authorization.length ∨ ∃ bytes, authorization = [bytes] ∧
    (authorizationHeaderMaxBytes < bytes.length ∨ HeaderValue.toStr bytes = none ∨
      ∃ text rest, HeaderValue.toStr bytes = some text ∧
        (Text.trim text = "Bearer " ++ rest ∨ Text.trim text = "bearer " ++ rest) ∧
        Text.startsWith (Text.trim rest) patPrefix = true)

theorem startsWith_patPrefix_ne_empty {token : String}
    (h : Text.startsWith token patPrefix = true) : token.isEmpty = false := by
  rw [Bool.eq_false_iff]
  intro hempty
  rw [String.isEmpty_iff.mp hempty] at h
  exact absurd h (by decide)

theorem patBearerTokenFromHeaders_of_attempt {authorization : List HeaderValue}
    (h : TokenAttempt authorization) : patBearerTokenFromHeaders authorization ≠ .ok none := by
  rcases h with hlen | ⟨bytes, rfl, hlong | hnone | ⟨text, rest, htext, hbearer, hstarts⟩⟩
  · obtain ⟨a, b, l, rfl⟩ : ∃ a b l, authorization = a :: b :: l := by
      match authorization, hlen with
      | a :: b :: l, _ => exact ⟨a, b, l, rfl⟩
    simp [patBearerTokenFromHeaders]
  · simp [patBearerTokenFromHeaders, hlong]
  · unfold patBearerTokenFromHeaders
    simp only [hnone]
    split <;> simp
  · have hstrip : (Text.stripPrefix (Text.trim text) "Bearer ").or
        (Text.stripPrefix (Text.trim text) "bearer ") = some rest := by
      rcases hbearer with hb | hb
      · rw [Text.stripPrefix_eq_some.mpr hb, some_or]
      · have hnot : Text.stripPrefix (Text.trim text) "Bearer " = none := by
          rw [eq_none_iff_forall_not_mem]
          intro other hother
          have hboth := (Text.stripPrefix_eq_some.mp hother).symm.trans hb
          have hchars := congrArg String.toList hboth
          simp at hchars
        rw [hnot, none_or, Text.stripPrefix_eq_some.mpr hb]
    unfold patBearerTokenFromHeaders
    simp only [htext, hstrip, startsWith_patPrefix_ne_empty hstarts, hstarts, Bool.not_true,
      Bool.false_eq_true, if_false]
    split
    · simp
    · split
      · simp
      · split <;> simp

variable {dec : Decoders}

inductive StoredPat (dec : Decoders) : PatTable → PersonalAccessToken → Prop
  | sqlite {rows : List (PatRow String String String)} {row : PatRow String String String}
      {pat : PersonalAccessToken} (hrow : row ∈ rows) (hdecode : rowToPatSqlite dec row = .ok pat) :
      StoredPat dec (.sqlite rows) pat
  | postgres {rows : List (PatRow UserId XLStatus.Agent.Json DateTime)}
      {row : PatRow UserId XLStatus.Agent.Json DateTime} {pat : PersonalAccessToken}
      (hrow : row ∈ rows) (hdecode : rowToPatPostgres row = .ok pat) :
      StoredPat dec (.postgres rows) pat

variable {α : Type} {pat : PersonalAccessToken} {tokenHash : String}

theorem toOption_eq_some {ε : Type} {x : Except ε α} {a : α} :
    x.toOption = some a ↔ x = .ok a := by
  cases x <;> simp [Except.toOption]

theorem rowToPatSqlite_ok {row : PatRow String String String}
    (h : rowToPatSqlite dec row = .ok pat) :
    pat.tokenHash = row.tokenHash ∧ (row.revokedAt = none → pat.revokedAt = none) := by
  simp only [rowToPatSqlite, bind_eq_ok, pure_eq_ok] at h
  obtain ⟨userId, -, scopes, -, serverIds, -, -, -, expiresAt, -, lastUsedAt, -, createdAt, -,
    revokedAt, hrevoked, rfl⟩ := h
  refine ⟨rfl, fun hnone => ?_⟩
  rw [hnone] at hrevoked
  exact (Except.ok.inj hrevoked).symm

theorem rowToPatPostgres_ok {row : PatRow UserId XLStatus.Agent.Json DateTime}
    (h : rowToPatPostgres row = .ok pat) :
    pat.tokenHash = row.tokenHash ∧ pat.revokedAt = row.revokedAt := by
  simp only [rowToPatPostgres, bind_eq_ok, pure_eq_ok] at h
  obtain ⟨scopes, -, serverIds, -, -, -, rfl⟩ := h
  exact ⟨rfl, rfl⟩

theorem findPatByTokenHash_some {pats : PatTable}
    (h : findPatByTokenHash dec pats tokenHash = some pat) :
    StoredPat dec pats pat ∧ pat.tokenHash = tokenHash ∧ pat.revokedAt = none := by
  unfold findPatByTokenHash at h
  split at h
  all_goals
    rename_i rows
    obtain ⟨row, hfind, hdecode⟩ := bind_eq_some_iff.mp h
    have hmatch := find?_some hfind
    rw [Bool.and_eq_true, beq_iff_eq, isNone_iff_eq_none] at hmatch
    rw [toOption_eq_some] at hdecode
  · obtain ⟨hhash, hrevoked⟩ := rowToPatSqlite_ok hdecode
    exact ⟨.sqlite (mem_of_find?_eq_some hfind) hdecode, hhash.trans hmatch.1,
      hrevoked hmatch.2⟩
  · obtain ⟨hhash, hrevoked⟩ := rowToPatPostgres_ok hdecode
    exact ⟨.postgres (mem_of_find?_eq_some hfind) hdecode, hhash.trans hmatch.1,
      hrevoked.trans hmatch.2⟩

inductive StoredSession (dec : Decoders) : SessionTable → Session → Prop
  | sqlite {rows : List SqliteSessionRow} {row : SqliteSessionRow} {session : Session}
      (hrow : row ∈ rows) (hdecode : rowToSessionSqlite dec row = .ok session) :
      StoredSession dec (.sqlite rows) session
  | postgres {rows : List Session} {session : Session} (hrow : session ∈ rows) :
      StoredSession dec (.postgres rows) session

theorem rowToSessionSqlite_ok {row : SqliteSessionRow} {session : Session}
    (h : rowToSessionSqlite dec row = .ok session) : session.tokenHash = row.tokenHash := by
  simp only [rowToSessionSqlite, bind_eq_ok, pure_eq_ok] at h
  obtain ⟨-, -, userId, -, expiresAt, -, createdAt, -, rfl⟩ := h
  rfl

theorem findSessionByTokenHash_some {sessions : SessionTable} {now : DateTime} {session : Session}
    (h : findSessionByTokenHash dec sessions tokenHash now = some session) :
    StoredSession dec sessions session ∧ session.tokenHash = tokenHash ∧
      now < session.expiresAt := by
  unfold findSessionByTokenHash at h
  split at h
  · cases h
  · split at h
    · obtain ⟨hsome, hlive⟩ := filter_eq_some_iff.mp h
      obtain ⟨row, hfind, hdecode⟩ := bind_eq_some_iff.mp hsome
      have hmatch := find?_some hfind
      rw [Bool.and_eq_true, beq_iff_eq] at hmatch
      rw [toOption_eq_some] at hdecode
      exact ⟨.sqlite (mem_of_find?_eq_some hfind) hdecode,
        (rowToSessionSqlite_ok hdecode).trans hmatch.1, of_decide_eq_true hlive⟩
    · obtain ⟨hfind, hlive⟩ := filter_eq_some_iff.mp h
      have hmatch := find?_some hfind
      rw [Bool.and_eq_true, beq_iff_eq] at hmatch
      exact ⟨.postgres (mem_of_find?_eq_some hfind), hmatch.1, of_decide_eq_true hlive⟩

theorem lookup_eq_ok {error : Option String} {found : Option α} {a : α}
    (h : lookup error found = .ok (some a)) : found = some a := by
  unfold lookup at h
  split at h
  · cases h
  · exact Except.ok.inj h

theorem findUserById_some {db : Database} {id : UserId} {user : User}
    (h : db.findUserById id = .ok (some user)) : user ∈ db.users ∧ user.id = id := by
  have hfind := lookup_eq_ok h
  exact ⟨mem_of_find?_eq_some hfind, by simpa using find?_some hfind⟩

theorem of_csrfTokenMatches {header : Option String} {expected : String}
    (h : csrfTokenMatches header expected = true) :
    ∃ provided, header = some provided ∧ Text.trim provided = expected := by
  unfold csrfTokenMatches at h
  split at h
  · cases h
  · rename_i trimmed hheader
    split at h
    · cases h
    · obtain ⟨provided, rfl, rfl⟩ := map_eq_some_iff.mp hheader
      exact ⟨provided, rfl, Text.bytes_inj.mp (constantTimeEq_iff.mp h)⟩

section Handling

variable {env : Env} {request : Request}

/-- The session comes from a stored, unrevoked token that has an expiry and has not reached
it, whose user exists and which passes the checks of its scopes and its allowlist. -/
def FromToken (env : Env) (request : Request) (session : AuthSession) : Prop :=
  ∃ token pat user, patBearerTokenFromHeaders request.authorization = .ok (some token) ∧
    StoredPat env.dec env.db.pats pat ∧ pat.tokenHash = hashToken env.sha256 token ∧
    pat.revokedAt = none ∧ (∃ expiresAt, pat.expiresAt = some expiresAt ∧ env.now < expiresAt) ∧
    (user ∈ env.db.users ∧ user.id = pat.userId) ∧
    Rbac.validatePatRuntime pat.scopes user.role.isAdmin pat.serverIds = .ok () ∧
    validateServerAllowlistOwnership env.db user.id user.role.isAdmin pat.serverIds = .ok () ∧
    session = patSession pat user

/-- The session comes from the request's cookie: a stored session of its token's hash that
has not expired, of a user that exists. -/
def FromCookie (env : Env) (request : Request) (session : AuthSession) : Prop :=
  ∃ token stored user, request.cookie = some token ∧
    StoredSession env.dec env.db.sessions stored ∧
    stored.tokenHash = hashToken env.sha256 token ∧ env.now < stored.expiresAt ∧
    (user ∈ env.db.users ∧ user.id = stored.userId) ∧
    session = cookieSession (deriveCsrfToken env.hmac stored.tokenHash) stored user

def ShowsCsrfToken (request : Request) (session : AuthSession) : Prop :=
  ∃ provided, request.csrfHeader.bind HeaderValue.toStr = some provided ∧
    Text.trim provided = session.csrfToken

variable {effects : List Effect} {attached : Option (AuthSession × User)}

theorem authenticatePat_some {pat : PersonalAccessToken} {session : AuthSession} {user : User}
    (h : authenticatePat env pat = (some (session, user), effects)) :
    (∃ expiresAt, pat.expiresAt = some expiresAt ∧ env.now < expiresAt) ∧
      (user ∈ env.db.users ∧ user.id = pat.userId) ∧
      Rbac.validatePatRuntime pat.scopes user.role.isAdmin pat.serverIds = .ok () ∧
      validateServerAllowlistOwnership env.db user.id user.role.isAdmin pat.serverIds = .ok () ∧
      session = patSession pat user := by
  unfold authenticatePat at h
  simp only at h
  split at h
  · cases h
  · rename_i hexpired
    split at h
    · cases h
    · cases h
    · rename_i found huser
      split at h
      · cases h
      · rename_i hruntime
        split at h
        · cases h
        · rename_i howned
          obtain ⟨⟨rfl, rfl⟩, -⟩ := by simpa only [Prod.mk.injEq, some.injEq] using h
          refine ⟨?_, findUserById_some huser, hruntime, howned, rfl⟩
          cases hexpires : pat.expiresAt with
          | none => simp [hexpires] at hexpired
          | some expiresAt =>
            refine ⟨expiresAt, rfl, ?_⟩
            simpa [hexpires] using hexpired

theorem fromToken_of_authenticateToken {token : String} {session : AuthSession} {user : User}
    (htoken : patBearerTokenFromHeaders request.authorization = .ok (some token))
    (h : authenticateToken env request token = (.ok (some (session, user)), effects)) :
    FromToken env request session := by
  unfold authenticateToken at h
  split at h
  · cases h
  · split at h
    · cases h
    · cases h
    · rename_i pat hpat
      obtain ⟨hstored, hhash, hrevoked⟩ := findPatByTokenHash_some (lookup_eq_ok hpat)
      have hauth : authenticatePat env pat = (some (session, user), effects) := by
        obtain ⟨hattached, heffects⟩ := Prod.mk.inj h
        exact Prod.ext (Except.ok.inj hattached) heffects
      obtain ⟨hexpires, huser, hruntime, howned, hsession⟩ := authenticatePat_some hauth
      exact ⟨token, pat, user, htoken, hstored, hhash, hrevoked, hexpires, huser, hruntime, howned,
        hsession⟩

theorem toOption_join_eq_some {ε α : Type} {x : Except ε (Option α)} {a : α}
    (h : x.toOption.join = some a) : x = .ok (some a) := by
  cases x with
  | error => cases h
  | ok => exact congrArg Except.ok h

theorem fromCookie_of_authenticateCookie {session : AuthSession} {user : User}
    (h : authenticateCookie env request = some (session, user)) :
    FromCookie env request session := by
  unfold authenticateCookie at h
  simp only [bind_eq_bind, bind_eq_some_iff, Option.pure_def,
    some.injEq, Prod.mk.injEq] at h
  obtain ⟨token, hcookie, -, -, stored, hstored, found, huser, hsession, -⟩ := h
  obtain ⟨hrow, hhash, hlive⟩ :=
    findSessionByTokenHash_some (lookup_eq_ok (toOption_join_eq_some hstored))
  refine ⟨token, stored, found, hcookie, hrow, hhash, hlive,
    findUserById_some (toOption_join_eq_some huser), ?_⟩
  rw [hhash]
  exact hsession.symm

theorem checkCsrf_next {attached' : Option (AuthSession × User)}
    (h : checkCsrf request attached = .next attached') :
    attached' = attached ∧ (changesState request.method = true →
      ∃ session user, attached = some (session, user) ∧
        (session.authKind = .session → ShowsCsrfToken request session)) := by
  unfold checkCsrf at h
  split at h
  · rename_i hmethod
    split at h
    · rename_i session user
      split at h
      · cases h
      · rename_i hcsrf
        obtain rfl := Outcome.next.inj h
        refine ⟨rfl, fun _ => ⟨session, user, rfl, fun hkind => ?_⟩⟩
        have hmatches : csrfTokenMatches (request.csrfHeader.bind HeaderValue.toStr)
            session.csrfToken = true := by
          simpa [sessionRequestRequiresCsrf, hmethod, hkind] using hcsrf
        exact of_csrfTokenMatches hmatches
    · cases h
  · rename_i hmethod
    exact ⟨(Outcome.next.inj h).symm, fun hm => absurd hm hmethod⟩

theorem sessionMiddleware_next (h : sessionMiddleware env request = (.next attached, effects)) :
    checkCsrf request attached = .next attached ∧ ∀ session user,
      attached = some (session, user) → FromToken env request session ∨
        FromCookie env request session ∧
          patBearerTokenFromHeaders request.authorization = .ok none := by
  unfold sessionMiddleware at h
  split at h
  · obtain ⟨hcheck, -⟩ := Prod.mk.inj h
    obtain ⟨rfl, -⟩ := checkCsrf_next hcheck
    exact ⟨hcheck, fun session user hsome => nomatch hsome⟩
  · rename_i token htoken
    split at h
    · cases h
    · rename_i found effects' hauth
      obtain ⟨hcheck, -⟩ := Prod.mk.inj h
      obtain ⟨rfl, -⟩ := checkCsrf_next hcheck
      refine ⟨hcheck, fun session user hsome => .inl ?_⟩
      rw [hsome] at hauth
      exact fromToken_of_authenticateToken htoken hauth
  · rename_i hnone
    obtain ⟨hcheck, -⟩ := Prod.mk.inj h
    obtain ⟨rfl, -⟩ := checkCsrf_next hcheck
    exact ⟨hcheck, fun session user hsome =>
      .inr ⟨fromCookie_of_authenticateCookie hsome, hnone⟩⟩

end Handling

/-- A request of a method that changes state reaches its handler only with a session that
comes from a valid token, or from its cookie with the CSRF token of that session; a request
that attempts to use a token is never authenticated by its cookie. -/
theorem state_change_authenticated (env : Env) (request : Request)
    (attached : Option (AuthSession × User)) (effects : List Effect)
    (h : sessionMiddleware env request = (.next attached, effects)) :
    (changesState request.method = true → ∃ session user, attached = some (session, user) ∧
      (FromToken env request session ∨
        FromCookie env request session ∧ ShowsCsrfToken request session)) ∧
    (TokenAttempt request.authorization → ∀ session user, attached = some (session, user) →
      FromToken env request session) := by
  obtain ⟨hcheck, hsource⟩ := sessionMiddleware_next h
  constructor
  · intro hmethod
    obtain ⟨session, user, hattached, hcsrf⟩ := (checkCsrf_next hcheck).2 hmethod
    refine ⟨session, user, hattached, (hsource session user hattached).imp id ?_⟩
    rintro ⟨hcookie, -⟩
    refine ⟨hcookie, hcsrf ?_⟩
    obtain ⟨token, stored, found, -, -, -, -, -, rfl⟩ := hcookie
    rfl
  · intro hattempt session user hattached
    refine (hsource session user hattached).resolve_right ?_
    rintro ⟨-, hnone⟩
    exact patBearerTokenFromHeaders_of_attempt hattempt hnone

namespace Sample

def cookie : String := String.ofList (replicate 64 'a')

def sha256 : Sha256 := fun _ i =>
  [255, 224, 84, 254, 122, 224, 203, 109, 198, 92, 58, 249, 182, 29, 82, 9, 244, 57, 133, 29,
    180, 61, 11, 165, 153, 115, 55, 223, 21, 70, 104, 235].getD i 0

def hmac : HmacSha256 := fun _ _ i =>
  [189, 13, 148, 120, 246, 191, 89, 123, 232, 53, 119, 59, 111, 149, 17, 19, 91, 30, 138, 193,
    65, 158, 7, 34, 245, 35, 37, 254, 102, 234, 145, 55].getD i 0

def user : User :=
  ⟨⟨"0190a6f4-2b1c-7c3d-8e4f-5a6b7c8d9e0f", canonical_v7⟩, "operator", .admin⟩

def env : Env where
  sha256 := sha256
  hmac := hmac
  dec := ⟨fun _ => none, fun _ => none, fun _ => ""⟩
  db :=
    { pats := .postgres []
      sessions := .postgres [⟨"0190a6f4-2b1c-7c3d-8e4f-000000000001", user.id,
        hashToken sha256 cookie, none, none, seconds 1700003600, seconds 1700000000⟩]
      users := [user]
      agents := []
      wafBans := []
      patError := none
      sessionError := none
      userError := none
      agentError := fun _ => none
      banError := none }
  now := seconds 1700000000

def request : Request where
  method := "POST"
  authorization := []
  cookie := some cookie
  csrfHeader := some (Text.bytes (deriveCsrfToken hmac (hashToken sha256 cookie)))
  clientIp := "192.0.2.1"

end Sample

theorem state_change_authenticated_cookie :
    ∃ attached, sessionMiddleware Sample.env Sample.request = (.next attached, []) ∧
      ∃ session user, attached = some (session, user) ∧
        (FromToken Sample.env Sample.request session ∨
          FromCookie Sample.env Sample.request session ∧
            ShowsCsrfToken Sample.request session) := by
  have h : sessionMiddleware Sample.env Sample.request =
      (.next (authenticateCookie Sample.env Sample.request), []) := by
    decide +kernel
  exact ⟨_, h, (state_change_authenticated _ _ _ _ h).1 (by decide)⟩

end XLStatus.Auth.Middleware
