import XLStatus.Agent.ConfigDefs
import XLStatus.Auth.ChallengeDefs
import XLStatus.Auth.RbacDefs
import XLStatus.Auth.Token

/-! The authentication of a request: by a personal access token in its header, or by its
session cookie, with a CSRF token for the methods that change state. -/

namespace XLStatus.Auth.Middleware

open Shared Checked
open XLStatus.Agent (Json)

def sessionTokenBytes : ℕ := 64
def patPrefix : String := "xlp_"
def patTokenHexBytes : ℕ := 64
def patTokenBytes : ℕ := Text.len patPrefix + patTokenHexBytes
def patAuthorizationHeaderMaxBytes : ℕ := Text.len "Bearer " + patTokenBytes
def authorizationHeaderMaxBytes : ℕ := 4096
def patRuntimeScopesJsonMaxBytes : ℕ := 16 * 1024
def patRuntimeServerIdsJsonMaxBytes : ℕ := 8 * 1024
def maxSessionTokenHashBytes : ℕ := 128

abbrev HeaderValue := List UInt8

def HeaderValue.toStr (value : HeaderValue) : Option String :=
  if value.all fun b => (32 ≤ b && b < 127) || b == 9 then
    some (String.ofList (value.map fun b => Char.ofNat b.toNat))
  else none

/-- What the middleware reads of a request: the values of its `Authorization` headers, the
session cookie of its jar, the first CSRF header, and the address it is attributed to. -/
structure Request where
  method : String
  authorization : List HeaderValue
  cookie : Option String
  csrfHeader : Option HeaderValue
  clientIp : String

def isHexText (s : String) : Bool := s.toList.all Text.isAsciiHexDigit

def patTokenIsValid (token : String) : Bool :=
  Text.len token == patTokenBytes && Text.startsWith token patPrefix &&
    (token.toList.drop patPrefix.toList.length).all Text.isAsciiHexDigit

def patBearerTokenFromHeaders (authorization : List HeaderValue) : Except String (Option String) :=
  match authorization with
  | [] => .ok none
  | _ :: _ :: _ => .error "malformed bearer token"
  | [bytes] =>
    if bytes.length > authorizationHeaderMaxBytes then .error "bearer token too long"
    else match HeaderValue.toStr bytes with
      | none => .error "malformed bearer token"
      | some text =>
        let value := Text.trim text
        match (Text.stripPrefix value "Bearer ").or (Text.stripPrefix value "bearer ") with
        | none => .ok none
        | some rest =>
          let token := Text.trim rest
          if token.isEmpty then .ok none
          else if !Text.startsWith token patPrefix then .ok none
          else if Text.len value > patAuthorizationHeaderMaxBytes ∨
              Text.len token > patTokenBytes then .error "bearer token too long"
          else if patTokenIsValid token then .ok (some token)
          else .error "malformed PAT bearer token"

def sessionCookieTokenIsValid (token : String) : Bool :=
  Text.len token == sessionTokenBytes && isHexText token

def changesState (method : String) : Bool := ["POST", "PUT", "PATCH", "DELETE"].contains method

def sessionRequestRequiresCsrf (method : String) (session : AuthSession) : Bool :=
  changesState method && session.authKind == .session

def csrfTokenMatches (csrfHeader : Option String) (expectedCsrfToken : String) : Bool :=
  match csrfHeader.map Text.trim with
  | none => false
  | some provided =>
    if Text.len expectedCsrfToken ≠ sessionTokenBytes ∨ Text.len provided ≠ sessionTokenBytes ∨
        !isHexText provided then false
    else constantTimeEq (Text.bytes provided) (Text.bytes expectedCsrfToken)

abbrev HmacSha256 := List UInt8 → List UInt8 → Fin 32 → UInt8

def deriveCsrfToken (hmac : HmacSha256) (tokenHash : String) : String :=
  hexEncode (List.ofFn (hmac (Text.bytes tokenHash) (Text.bytes "xlstatus-csrf-token-v1")))

structure Decoders where
  jsonStringArray : String → Option (List String)
  rfc3339 : String → Option DateTime
  toRfc3339 : DateTime → String

structure PersonalAccessToken where
  id : String
  userId : UserId
  name : String
  tokenHash : String
  scopes : List String
  serverIds : Option (List String)
  expiresAt : Option DateTime
  lastUsedAt : Option DateTime
  lastUsedIp : Option String
  createdAt : DateTime
  revokedAt : Option DateTime

structure PatRow (User Strings Time : Type) where
  id : String
  userId : User
  name : String
  tokenHash : String
  scopes : Strings
  serverIds : Option Strings
  expiresAt : Option Time
  lastUsedAt : Option Time
  lastUsedIp : Option String
  createdAt : Time
  revokedAt : Option Time

inductive PatTable where
  | sqlite (rows : List (PatRow String String String))
  | postgres (rows : List (PatRow UserId Json DateTime))

section Decoding

variable (dec : Decoders)

def parseUserId (value error : String) : Except String UserId := do
  let parsed ← require (parseUuid value) error
  return ⟨parsed.1, canonical_parsed parsed⟩

def parseStringArrayJson (value field : String) (maxBytes : ℕ) : Except String (List String) := do
  ensure (Text.len value ≤ maxBytes)
    ("PAT " ++ field ++ " JSON exceeds " ++ toString maxBytes ++ " bytes")
  require (dec.jsonStringArray value) ("invalid PAT " ++ field ++ " JSON")

def parseOptionalStringArrayJson (value : Option String) (field : String) (maxBytes : ℕ) :
    Except String (Option (List String)) :=
  match value with
  | some value => some <$> parseStringArrayJson dec value field maxBytes
  | none => .ok none

def parseRequiredRfc3339 (value field : String) : Except String DateTime :=
  require (dec.rfc3339 value) ("invalid PAT " ++ field ++ " timestamp")

def parseOptionalRfc3339 (value : Option String) (field : String) :
    Except String (Option DateTime) :=
  match value with
  | some value => some <$> parseRequiredRfc3339 dec value field
  | none => .ok none

def parseStrings (field : String) (maxBytes maxItemBytes : ℕ) :
    ℕ → List Json → Except String (List String)
  | _, [] => .ok []
  | total, value :: values => do
    let s ← require value.asStr ("invalid PAT " ++ field ++ " JSON")
    ensure (Text.len s ≤ maxItemBytes)
      ("PAT " ++ field ++ " JSON item exceeds " ++ toString maxItemBytes ++ " bytes")
    let total := total + Text.len s + 3
    ensure (total ≤ maxBytes)
      ("PAT " ++ field ++ " JSON exceeds " ++ toString maxBytes ++ " bytes")
    return s :: (← parseStrings field maxBytes maxItemBytes total values)

def parseStringArrayValue (value : Json) (field : String) (maxBytes maxItems maxItemBytes : ℕ) :
    Except String (List String) := do
  let values ← require value.asArray ("invalid PAT " ++ field ++ " JSON")
  ensure (values.length ≤ maxItems)
    ("PAT " ++ field ++ " JSON contains more than " ++ toString maxItems ++ " items")
  parseStrings field maxBytes maxItemBytes 2 values

def withContext {α : Type} (context : String) : Except String α → Except String α
  | .ok a => .ok a
  | .error _ => .error context

def rowToPatSqlite (row : PatRow String String String) : Except String PersonalAccessToken := do
  let userId ← parseUserId row.userId "invalid PAT user_id UUID"
  let scopes ← withContext ("invalid PAT scopes JSON for " ++ row.id)
    (parseStringArrayJson dec row.scopes "scopes" patRuntimeScopesJsonMaxBytes)
  let serverIds ← parseOptionalStringArrayJson dec row.serverIds "server_ids"
    patRuntimeServerIdsJsonMaxBytes
  (Rbac.validatePatPolicyResourceLimits scopes serverIds).mapError fun msg =>
    "invalid PAT runtime policy for " ++ row.id ++ ": " ++ msg
  return { row with
    userId, scopes, serverIds
    expiresAt := ← parseOptionalRfc3339 dec row.expiresAt "expires_at"
    lastUsedAt := ← parseOptionalRfc3339 dec row.lastUsedAt "last_used_at"
    createdAt := ← parseRequiredRfc3339 dec row.createdAt "created_at"
    revokedAt := ← parseOptionalRfc3339 dec row.revokedAt "revoked_at" }

def rowToPatPostgres (row : PatRow UserId Json DateTime) : Except String PersonalAccessToken := do
  let scopes ← withContext ("invalid PAT scopes JSON for " ++ row.id)
    (parseStringArrayValue row.scopes "scopes" patRuntimeScopesJsonMaxBytes
      Rbac.patRuntimeMaxScopes Rbac.patRuntimeMaxScopeBytes)
  let serverIds ← row.serverIds.mapM fun value =>
    parseStringArrayValue value "server_ids" patRuntimeServerIdsJsonMaxBytes
      Rbac.patRuntimeMaxServerIds Rbac.patRuntimeMaxServerIdBytes
  (Rbac.validatePatPolicyResourceLimits scopes serverIds).mapError fun msg =>
    "invalid PAT runtime policy for " ++ row.id ++ ": " ++ msg
  return { row with scopes, serverIds }

def findPatByTokenHash (pats : PatTable) (tokenHash : String) : Option PersonalAccessToken :=
  match pats with
  | .sqlite rows =>
    (rows.find? fun row => row.tokenHash == tokenHash && row.revokedAt.isNone).bind fun row =>
      (rowToPatSqlite dec row).toOption
  | .postgres rows =>
    (rows.find? fun row => row.tokenHash == tokenHash && row.revokedAt.isNone).bind fun row =>
      (rowToPatPostgres row).toOption

end Decoding

structure Session where
  id : String
  userId : UserId
  tokenHash : String
  ip : Option String
  userAgent : Option String
  expiresAt : DateTime
  createdAt : DateTime

structure SqliteSessionRow where
  id : String
  userId : String
  tokenHash : String
  ip : Option String
  userAgent : Option String
  expiresAt : String
  createdAt : String

inductive SessionTable where
  | sqlite (rows : List SqliteSessionRow)
  | postgres (rows : List Session)

structure User where
  id : UserId
  username : String
  role : UserRole
  deriving DecidableEq

structure OwnedAgent where
  id : AgentId
  ownerUserId : UserId
  revokedAt : Option DateTime

structure WafBan where
  ip : String
  bannedUntil : DateTime

/-- The tables, with the lookups that fail. Users and agents are the rows that decode; the
others count as missing. -/
structure Database where
  pats : PatTable
  sessions : SessionTable
  users : List User
  agents : List OwnedAgent
  wafBans : List WafBan
  patError : Option String
  sessionError : Option String
  userError : Option String
  agentError : AgentId → Option String
  banError : Option String

def lookup {α : Type} (error : Option String) (found : Option α) : Except String (Option α) :=
  match error with
  | some e => .error e
  | none => .ok found

def Database.findUserById (db : Database) (id : UserId) : Except String (Option User) :=
  lookup db.userError (db.users.find? (·.id == id))

def Database.findAgentById (db : Database) (id : AgentId) : Except String (Option OwnedAgent) :=
  lookup (db.agentError id) (db.agents.find? (·.id == id))

def Database.activeWafBan (db : Database) (ip : String) (now : DateTime) :
    Except String (Option WafBan) :=
  lookup db.banError (db.wafBans.find? fun ban => ban.ip == ip && now < ban.bannedUntil)

def validateTokenHash (tokenHash : String) : Bool :=
  !tokenHash.isEmpty && Text.len tokenHash ≤ maxSessionTokenHashBytes &&
    (Text.bytes tokenHash).all fun b => 0x20 < b && b < 0x7f

def rowToSessionSqlite (dec : Decoders) (row : SqliteSessionRow) : Except String Session := do
  let _ ← require (parseUuid row.id) "invalid session id UUID"
  let userId ← parseUserId row.userId "invalid session user_id UUID"
  return { row with
    userId
    expiresAt := ← require (dec.rfc3339 row.expiresAt) "invalid session expires_at timestamp"
    createdAt := ← require (dec.rfc3339 row.createdAt) "invalid session created_at timestamp" }

def findSessionByTokenHash (dec : Decoders) (sessions : SessionTable) (tokenHash : String)
    (now : DateTime) : Option Session :=
  if !validateTokenHash tokenHash then none
  else match sessions with
    | .sqlite rows =>
      -- The query compares the texts of the instants; the decoded row is checked again.
      ((rows.find? fun row => row.tokenHash == tokenHash &&
        decide (dec.toRfc3339 now < row.expiresAt)).bind fun row =>
          (rowToSessionSqlite dec row).toOption).filter fun session => now < session.expiresAt
    | .postgres rows =>
      (rows.find? fun row => row.tokenHash == tokenHash && now < row.expiresAt).filter
        fun session => now < session.expiresAt

inductive Effect where
  | patFailure (tokenRef : Option String) (reason : String)
  | patBlocked
  | markUsed (patId : String)
  deriving DecidableEq

inductive Outcome where
  | respond (status : ℕ)
  | next (attached : Option (AuthSession × User))
  deriving DecidableEq

def validateServerAllowlistOwnership (db : Database) (userId : UserId) (isAdmin : Bool)
    (ids : Option (List String)) : Except AppError Unit :=
  match ids with
  | none => .ok ()
  | some ids => ids.forM fun id => do
    let parsed ← require (parseUuid id)
      (AppError.badRequest ("invalid server id in allowlist: " ++ id))
    let found ← (db.findAgentById ⟨parsed.1, canonical_parsed parsed⟩).mapError AppError.database
    let agent ← require found
      (AppError.badRequest ("server id in allowlist does not exist: " ++ id))
    ensure agent.revokedAt.isNone
      (AppError.badRequest ("server id in allowlist has been revoked: " ++ id))
    ensure (isAdmin || agent.ownerUserId == userId)
      (AppError.forbidden "non-admin PAT server allowlist can only contain owned servers")

structure Env where
  sha256 : Sha256
  hmac : HmacSha256
  dec : Decoders
  db : Database
  now : DateTime

section Handling

variable (env : Env) (request : Request)

def patSession (pat : PersonalAccessToken) (user : User) : AuthSession where
  sessionId := pat.id
  userId := user.id
  username := user.username
  role := user.role
  csrfToken := ""
  authKind := .personalAccessToken
  scopes := pat.scopes
  serverIds := pat.serverIds
  patId := some pat.id

def cookieSession (csrfToken : String) (session : Session) (user : User) : AuthSession where
  sessionId := session.id
  userId := user.id
  username := user.username
  role := user.role
  csrfToken := csrfToken
  authKind := .session
  scopes := []
  serverIds := none
  patId := none

def authenticatePat (pat : PersonalAccessToken) : Option (AuthSession × User) × List Effect :=
  let failed (reason : String) := (none, [Effect.patFailure (some pat.id) reason])
  if (pat.expiresAt.map fun expiresAt => decide (expiresAt ≤ env.now)).getD true then
    failed "expired token"
  else match env.db.findUserById pat.userId with
    | .error _ => (none, [])
    | .ok none => failed "token user not found"
    | .ok (some user) =>
      match Rbac.validatePatRuntime pat.scopes user.role.isAdmin pat.serverIds with
      | .error reason => failed ("invalid token policy: " ++ reason)
      | .ok () =>
        match validateServerAllowlistOwnership env.db user.id user.role.isAdmin pat.serverIds with
        | .error _ => failed "invalid token server allowlist"
        | .ok () => (some (patSession pat user, user), [.markUsed pat.id])

def authenticateToken (token : String) :
    Except ℕ (Option (AuthSession × User)) × List Effect :=
  match env.db.activeWafBan request.clientIp env.now with
  | .ok (some _) => (.error 403, [.patBlocked])
  | _ => match lookup env.db.patError
        (findPatByTokenHash env.dec env.db.pats (hashToken env.sha256 token)) with
    | .error _ => (.ok none, [])
    | .ok none => (.ok none, [.patFailure none "invalid token"])
    | .ok (some pat) =>
      let (attached, effects) := authenticatePat env pat
      (.ok attached, effects)

def authenticateCookie : Option (AuthSession × User) := do
  let token ← request.cookie
  guard (sessionCookieTokenIsValid token)
  let tokenHash := hashToken env.sha256 token
  let session ← (lookup env.db.sessionError
    (findSessionByTokenHash env.dec env.db.sessions tokenHash env.now)).toOption.join
  let user ← (env.db.findUserById session.userId).toOption.join
  return (cookieSession (deriveCsrfToken env.hmac tokenHash) session user, user)

def checkCsrf (attached : Option (AuthSession × User)) : Outcome :=
  if changesState request.method then
    match attached with
    | some (session, _) =>
      if sessionRequestRequiresCsrf request.method session &&
          !csrfTokenMatches (request.csrfHeader.bind HeaderValue.toStr) session.csrfToken then
        .respond 403
      else .next attached
    | none => .respond 401
  else .next attached

def sessionMiddleware : Outcome × List Effect :=
  match patBearerTokenFromHeaders request.authorization with
  | .error reason => (checkCsrf request none, [.patFailure none reason])
  | .ok (some token) => match authenticateToken env request token with
    | (.error status, effects) => (.respond status, effects)
    | (.ok attached, effects) => (checkCsrf request attached, effects)
  | .ok none => (checkCsrf request (authenticateCookie env request), [])

end Handling

end XLStatus.Auth.Middleware
