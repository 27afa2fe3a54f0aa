import XLStatus.Auth.MiddlewareDefs
import XLStatus.Auth.TotpDefs
import XLStatus.Auth.UsersDefs
import XLStatus.Lib.Utf8

/-! Logging in with a password, beside the administration of users: every request is cut at
its repository calls, and a login's calls may fall between those of a password reset. -/

namespace XLStatus.Auth.Login

open Shared Checked
open Middleware (Session WafBan validateTokenHash)
open Users (Reply)

def authMaxUsernameBytes : ℕ := 128
def authTotpCodeBytes : ℕ := 6
def userPasswordMaxBytes : ℕ := 1024
def loginBanMinutes : ℤ := 30
def maxActiveSessionsPerUser : ℕ := 32
def maxSessionIpBytes : ℕ := 128
def maxSessionUserAgentBytes : ℕ := 512

/-- The columns of `users` that a login reads beside those of `Users.UserRow`. The TOTP
secret is decrypted. -/
structure Credentials where
  username : String
  passwordHash : String
  totpSecret : Option String
  totpEnabled : Bool

structure User where
  row : Users.UserRow
  username : String
  passwordHash : String
  deriving DecidableEq

/-- The Argon2 implementation: the hash of a password under a salt, and whether a password
fits a stored hash, which may not parse. -/
structure Argon2 where
  hash : String → String → Except String String
  verify : String → String → Except String Bool

def findById (users : Users.Table) (credentials : UserId → Credentials) (id : UserId) :
    Option User :=
  (users.findById id).map fun row => ⟨row, (credentials id).username, (credentials id).passwordHash⟩

def findByUsername (users : Users.Table) (credentials : UserId → Credentials) (username : String) :
    Option User :=
  (users.rows.find? fun row => (credentials row.id).username == username).map fun row =>
    ⟨row, username, (credentials row.id).passwordHash⟩

def totpConfig (users : Users.Table) (credentials : UserId → Credentials) (id : UserId) :
    Option String × Bool :=
  match users.findById id with
  | none => (none, false)
  | some _ => ((credentials id).totpSecret, (credentials id).totpEnabled)

def validateUserPassword (password : String) : Except String Unit := do
  ensure (!password.isEmpty) "password must not be empty"
  ensure (Text.len password ≤ userPasswordMaxBytes)
    ("password must be at most " ++ toString userPasswordMaxBytes ++ " bytes")
  ensure (!password.toList.contains '\x00') "password must not contain NUL bytes"

def hashPassword (argon2 : Argon2) (salt password : String) : Except String String := do
  validateUserPassword password
  (argon2.hash salt password).mapError ("Failed to hash password: " ++ ·)

def verifyPassword (argon2 : Argon2) (user : User) (password : String) : Except String Bool :=
  if (validateUserPassword password).isOk then
    (argon2.verify user.passwordHash password).mapError ("Failed to parse password hash: " ++ ·)
  else .ok false

/-- A row of `sessions`. The user whose password the login had verified is no column: it
tells by which login the row was inserted. -/
structure SessionRow where
  session : Session
  verified : User

def sanitizeOptionalMetadata (value : Option String) (maxBytes : ℕ) : Option String :=
  value.bind fun raw =>
    let trimmed := Text.trim (String.ofList (raw.toList.filter fun ch => !Text.isControl ch))
    let cut := Utf8.truncate trimmed maxBytes
    if cut.isEmpty then none else some cut

def newestFirst (db : DatabaseBackend) (rows : List SessionRow) : List SessionRow :=
  match db with
  | .sqlite => rows.reverse.mergeSort fun a b => b.session.createdAt ≤ a.session.createdAt
  | .postgres => rows.mergeSort fun a b => b.session.createdAt < a.session.createdAt ||
      (b.session.createdAt == a.session.createdAt && b.session.id ≤ a.session.id)

def createSession (db : DatabaseBackend) (users : Users.Table) (rows : List SessionRow)
    (verified : User) (ip userAgent : Option String) (expiresAt : DateTime)
    (tokenHash id : String) (now : DateTime) : Except String (List SessionRow) := do
  ensure (validateTokenHash tokenHash) "invalid session token hash"
  ensure (now < expiresAt) "session expiration must be in the future"
  let userId := verified.row.id
  let live := rows.filter fun row => db.stored now < row.session.expiresAt
  let newest := (newestFirst db (live.filter (·.session.userId = userId))).take
    (maxActiveSessionsPerUser - 1)
  let kept := live.filter fun row =>
    row.session.userId ≠ userId || (newest.map (·.session.id)).contains row.session.id
  ensure (users.findById userId).isSome "FOREIGN KEY constraint failed"
  ensure (kept.all fun row => row.session.id ≠ id && row.session.tokenHash ≠ tokenHash)
    "UNIQUE constraint failed"
  let session : Session :=
    { id, userId, tokenHash
      ip := sanitizeOptionalMetadata ip maxSessionIpBytes
      userAgent := sanitizeOptionalMetadata userAgent maxSessionUserAgentBytes
      expiresAt := db.stored expiresAt
      createdAt := db.stored now }
  return kept ++ [⟨session, verified⟩]

def deleteForUser (rows : List SessionRow) (userId : UserId) : List SessionRow :=
  rows.filter (·.session.userId ≠ userId)

structure Request where
  username : String
  password : String
  totpCode : Option String
  clientIp : String
  userAgent : Option String

inductive LoginResponse where
  | mfaRequired
  | loggedIn (user : User) (sessionToken : String)

inductive Phase where
  | activeWafBan
  | recordBlocked
  | findByUsername
  | recordFailure (reason : String) (error : AppError)
  | countFailures (error : AppError)
  | upsertWafBan (error : AppError)
  | totpConfig (user : User)
  | verifyTotp (user : User) (secret code : String)
  | createSession (user : User)
  | recordSuccess (user : User) (sessionToken : String)
  | done (result : Except AppError LoginResponse)

structure Call where
  username : String
  password : String
  totpCode : Option String
  clientIp : String
  userAgent : Option String
  phase : Phase

def normalizeUsername (value : String) : Except AppError String :=
  Users.normalizeRequiredAuthText value authMaxUsernameBytes "username"

def normalizePassword (value : String) : Except AppError String := do
  ensure (Text.len value ≤ Users.authMaxPasswordBytes)
    (.badRequest ("password must be at most " ++ toString Users.authMaxPasswordBytes ++ " bytes"))
  ensure (!(Text.trim value).isEmpty) (.badRequest "password is required")
  return value

def normalizeTotpCode (value : String) : Except AppError String := do
  let value := Text.trim value
  ensure (Text.len value = authTotpCodeBytes && value.toList.all Char.isDigit)
    (.badRequest "TOTP code must be 6 digits")
  return value

def start (req : Request) : Except AppError Call := do
  let username ← normalizeUsername req.username
  let password ← normalizePassword req.password
  let totpCode ← req.totpCode.mapM normalizeTotpCode
  return ⟨username, password, totpCode, req.clientIp, req.userAgent, .activeWafBan⟩

structure Tables where
  sessions : List SessionRow
  events : WafEvents
  bans : List WafBan

/-- How a repository call ends and what it is given on the way: two readings of the clock,
and the identifier and the token of a new session. -/
structure Io where
  reply : Reply
  totp : TotpIo
  now : DateTime
  later : DateTime
  sessionId : String
  sessionToken : String
  timestamp_now : timestamp now < 2 ^ 63

section Calls

variable (db : DatabaseBackend) (hmac : HmacSha1) (sha256 : Sha256) (argon2 : Argon2)
  (sessionTtlHours : ℤ)

def Tables.record (t : Tables) (login : Call) (outcome : String) (reason : Option String)
    (now : DateTime) : Tables :=
  { t with
    events :=
      (recordWafEvent db t.events login.clientIp (some login.username) outcome reason now .done).2 }

def countRecentAuthFailures (events : WafEvents) (ip : String) (since : DateTime) : ℕ :=
  events.countP fun e => e.ip == ip &&
    ["login_failed", "oauth_failed", "pat_failed", "agent_auth_failed"].contains e.outcome &&
    db.stored since ≤ e.createdAt

def upsertWafBan (bans : List WafBan) (ip : String) (bannedUntil : DateTime) : List WafBan :=
  bans.filter (·.ip ≠ ip) ++ [⟨ip, db.stored bannedUntil⟩]

def totpError : TotpVerificationError → AppError
  | .rateLimited => .tooManyRequests "Too many failed TOTP attempts"
  | .invalidCode => .unauthorized "Invalid TOTP code"
  | .database e => .database e

def Call.made (login : Call) (users : Users.Table) (credentials : UserId → Credentials)
    (t : Tables) (io : Io) : Tables × Phase :=
  match login.phase with
  | .activeWafBan =>
    if t.bans.any fun ban => ban.ip == login.clientIp && db.stored io.now < ban.bannedUntil then
      (t, .recordBlocked)
    else (t, .findByUsername)
  | .recordBlocked =>
    (t.record db login "login_blocked" (some "active WAF ban") io.now,
      .done (.error (.forbidden "IP temporarily blocked by WAF")))
  | .findByUsername => match findByUsername users credentials login.username with
    | none => (t, .recordFailure "unknown user" (.unauthorized "Invalid credentials"))
    | some user => match verifyPassword argon2 user login.password with
      | .error e => (t, .done (.error (.database e)))
      | .ok false => (t, .recordFailure "invalid password" (.unauthorized "Invalid credentials"))
      | .ok true => (t, .totpConfig user)
  | .recordFailure reason error =>
    (t.record db login "login_failed" (some reason) io.now, .countFailures error)
  | .countFailures error =>
    let since := io.now - minutes loginFailureWindowMinutes
    if countRecentAuthFailures db t.events login.clientIp since ≥ loginFailureThreshold then
      (t, .upsertWafBan error)
    else (t, .done (.error error))
  | .upsertWafBan error =>
    ({ t with bans := upsertWafBan db t.bans login.clientIp (io.now + minutes loginBanMinutes) },
      .done (.error error))
  | .totpConfig user => match totpConfig users credentials user.row.id with
    | (_, false) => (t, .createSession user)
    | (secret, true) => match login.totpCode, secret with
      | none, _ => (t, .done (.ok .mfaRequired))
      | some _, none => (t, .done (.error (.unauthorized "Invalid credentials")))
      | some code, some secret => (t, .verifyTotp user secret code)
  | .verifyTotp user secret code =>
    let call : TotpCall := ⟨user.row.id, secret, code, io.now, io.later, io.totp, io.timestamp_now⟩
    let (result, events) := verifyAndConsumeUserTotp db hmac sha256 t.events call
    ({ t with events }, match result with
      | .ok () => .createSession user
      | .error e => .recordFailure "invalid totp" (totpError e))
  | .createSession user =>
    match createSession db users t.sessions user (some login.clientIp) login.userAgent
      (io.now + minutes (60 * sessionTtlHours)) (hashToken sha256 io.sessionToken) io.sessionId
      io.later with
    | .error e => (t, .done (.error (.database e)))
    | .ok sessions => ({ t with sessions }, .recordSuccess user io.sessionToken)
  | .recordSuccess user token =>
    (t.record db login "login_success" none io.now, .done (.ok (.loggedIn user token)))
  | .done result => (t, .done result)

def Call.answered (login : Call) (users : Users.Table) (credentials : UserId → Credentials)
    (t : Tables) (io : Io) : Tables × Phase :=
  let made := login.made db hmac sha256 argon2 sessionTtlHours users credentials t io
  match login.phase with
  | .done _ | .verifyTotp _ _ _ => made
  | _ => match io.reply with
    | .done => made
    | .failed e => (t, .done (.error (.database e)))
    | .lost e => (made.1, .done (.error (.database e)))

end Calls

structure System where
  admin : Users.System
  credentials : UserId → Credentials
  /-- By request, the user whose password it has replaced, as before the replacement. -/
  replaced : HashMap ℕ User
  /-- Whether a request that revokes credentials has deleted the sessions and is about to
  revoke the access tokens. -/
  sessionsDeleted : ℕ → Bool
  tables : Tables
  logins : ℕ → Option Call

def System.init (users : Users.Table) (credentials : UserId → Credentials) (tables : Tables) :
    System :=
  { admin := .init users
    credentials
    replaced := ∅
    sessionsDeleted := fun _ => false
    tables
    logins := fun _ => none }

inductive Event where
  | startLogin (login : ℕ) (req : Request)
  | login (login : ℕ) (io : Io)
  | dropLogin (login : ℕ)
  | admin (e : Users.Event) (salt : String)

namespace System

def deleteSessions (st : System) (userId : UserId) : System :=
  { st with tables := { st.tables with sessions := deleteForUser st.tables.sessions userId } }

def setPassword (st : System) (userId : UserId) (passwordHash : String) : System :=
  { st with
    credentials :=
      Function.update st.credentials userId { st.credentials userId with passwordHash } }

def adminStep (argon2 : Argon2) (salt : String) (st : System) (e : Users.Event) : System :=
  let next := { st with admin := st.admin.step e }
  match e with
  | .request _ _ _ _ _ _ => next
  | .drop call =>
    { next with
      replaced := st.replaced.erase call
      sessionsDeleted := Function.update st.sessionsDeleted call false }
  | .step call reply => match st.admin.calls call with
    | none => st
    | some c => match c.phase with
      | .resetPassword =>
        match hashPassword argon2 salt ((Users.Call.password c.command).getD "") with
        | .error error => { st with admin := st.admin.step (.step call (.failed error)) }
        | .ok passwordHash => match reply, findById st.admin.users st.credentials c.target with
          | .failed _, _ => next
          | _, none => next
          | _, some user =>
            { next.setPassword c.target passwordHash with
              replaced := st.replaced.insert call user }
      | .revokeAfterRole | .revokeAfterPassword | .revokeForDelete _ _ =>
        if st.sessionsDeleted call then
          { next with sessionsDeleted := Function.update st.sessionsDeleted call false }
        else match reply with
          | .done =>
            { st.deleteSessions c.target with
              sessionsDeleted := Function.update st.sessionsDeleted call true }
          | .failed _ => next
          | .lost _ => next.deleteSessions c.target
      -- The sessions of a deleted user go with its row.
      | .delete _ _ => match reply with
        | .failed _ => next
        | _ => next.deleteSessions c.target
      | _ => next

def step (db : DatabaseBackend) (hmac : HmacSha1) (sha256 : Sha256) (argon2 : Argon2)
    (sessionTtlHours : ℤ) (st : System) : Event → System
  | .startLogin i req => match st.logins i, start req with
    | none, .ok login => { st with logins := Function.update st.logins i (some login) }
    | _, _ => st
  | .login i io => match st.logins i with
    | none => st
    | some login =>
      let (tables, phase) := login.answered db hmac sha256 argon2 sessionTtlHours st.admin.users
        st.credentials st.tables io
      { st with tables, logins := Function.update st.logins i (some { login with phase }) }
  | .dropLogin i => { st with logins := Function.update st.logins i none }
  | .admin e salt => st.adminStep argon2 salt e

end System

end XLStatus.Auth.Login
