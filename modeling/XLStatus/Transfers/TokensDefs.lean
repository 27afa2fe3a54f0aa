import XLStatus.Auth.MiddlewareDefs
import XLStatus.Auth.TotpDefs
import XLStatus.Transfers.Base64

/-! Temporary transfer links: the table of tokens, and the download and upload requests that
use them, one statement or message at a time. -/

namespace XLStatus.Transfers

open Shared Checked Auth
open Auth.Middleware (Session User OwnedAgent PersonalAccessToken patSession cookieSession)

def tempTransferMaxBytes : ℕ := 100 * 1024 * 1024
def tempTransferMaxPathBytes : ℕ := 4096
def tempTransferMaxFilenameBytes : ℕ := 255
def tempTransferSmallResultMaxBytes : ℕ := 4096

inductive StatusCode where
  | forbidden
  | payloadTooLarge
  | tooManyRequests
  | internalServerError
  | badGateway
  | gatewayTimeout
  deriving DecidableEq, Repr

abbrev ApiError := StatusCode × String

def invalidUrl : ApiError := (.forbidden, "invalid or expired temporary URL")
def alreadyUsed : ApiError := (.forbidden, "invalid or already used temporary URL")
def invalidIssuer : ApiError := (.forbidden, "temporary URL issuer is invalid")
def internalError : ApiError := (.internalServerError, "temporary transfer validation failed")

/-! ## The table -/

inductive TransferOp where
  | download
  | upload
  deriving DecidableEq, Repr

inductive UsedStatus where
  | receiving
  | started
  | success
  | failed
  deriving DecidableEq, Repr

structure TemporaryTransferToken where
  tokenHash : String
  serverId : AgentId
  path : String
  op : TransferOp
  issuedByUserId : UserId
  authKind : AuthKind
  sessionId : Option String
  apiTokenId : Option String
  scope : String
  expiresAt : DateTime
  usedAt : Option DateTime
  usedIp : Option String
  usedStatus : Option UsedStatus
  usedError : Option String
  agentTaskId : Option String
  revokedAt : Option DateTime
  deriving DecidableEq

abbrev Tokens := HashMap String TemporaryTransferToken

/-- The database and the hash in use. SQLite compares instants by `julianday`, whose result
rounds them but keeps their order. -/
structure Env where
  backend : DatabaseBackend
  julianday : DateTime → ℚ
  julianday_mono : Monotone julianday
  sha256 : Sha256

def Env.isAfter (env : Env) (t now : DateTime) : Bool :=
  match env.backend with
  | .sqlite => env.julianday now < env.julianday t
  | .postgres => env.backend.stored now < env.backend.stored t

namespace Tokens

def findByTokenHash (tokens : Tokens) (tokenHash : String) :
    Option (String × TemporaryTransferToken) :=
  if (Text.trim tokenHash).isEmpty then none
  else (tokens.entries.find? fun e => e.2.tokenHash == tokenHash).map fun e => (e.1, e.2)

def updateWhere (tokens : Tokens) (id : String) (applies : TemporaryTransferToken → Bool)
    (set : TemporaryTransferToken → TemporaryTransferToken) : Tokens × Bool :=
  match tokens.lookup id with
  | none => (tokens, false)
  | some row => if applies row then (tokens.insert id (set row), true) else (tokens, false)

section Statements

variable (env : Env) (now : DateTime) (tokens : Tokens) (id : String)

def revoke : Tokens × Bool :=
  tokens.updateWhere id (fun row => row.revokedAt.isNone)
    fun row => { row with revokedAt := some (env.backend.stored now) }

def markUsedOnce (usedIp : Option String) : Tokens × Bool :=
  tokens.updateWhere id
    (fun row => row.usedAt.isNone && row.revokedAt.isNone && env.isAfter row.expiresAt now)
    fun row => { row with
      usedAt := some (env.backend.stored now), usedIp, usedStatus := some .started }

def reserveUploadOnce (usedIp : Option String) (reservationId : String) : Tokens × Bool :=
  tokens.updateWhere id
    (fun row => row.op == .upload && row.usedAt.isNone && row.revokedAt.isNone &&
      env.isAfter row.expiresAt now)
    fun row => { row with
      usedAt := some (env.backend.stored now), usedIp, usedStatus := some .receiving
      agentTaskId := some reservationId }

def commitUploadReservation (reservationId : String) : Tokens × Bool :=
  tokens.updateWhere id
    (fun row => row.usedStatus == some .receiving && row.agentTaskId == some reservationId &&
      row.revokedAt.isNone && env.isAfter row.expiresAt now)
    fun row => { row with usedStatus := some .started, agentTaskId := none }

def releaseUploadReservation (reservationId : String) : Tokens × Bool :=
  tokens.updateWhere id
    (fun row => row.usedStatus == some .receiving && row.agentTaskId == some reservationId)
    fun row => { row with usedAt := none, usedIp := none, usedStatus := none, agentTaskId := none }

def truncateTransferError (error : String) : String := String.ofList (error.toList.take 2000)

def recordUseResult (status : UsedStatus) (agentTaskId error : Option String) : Tokens × Bool :=
  tokens.updateWhere id (fun _ => true)
    fun row => { row with
      usedStatus := some status, agentTaskId := agentTaskId.or row.agentTaskId
      usedError := error.map truncateTransferError }

end Statements

end Tokens

/-! ## Validation -/

def validTemporaryTokenShape (token : String) : Bool :=
  ((Text.stripPrefix token "xlt_").map fun body =>
    Text.len body == 64 && body.toList.all Text.isAsciiHexDigit).getD false

def validTransferRecordPath (path : String) : Bool :=
  let trimmed := Text.trim path
  trimmed == path && Text.startsWith trimmed "/" && !trimmed.isEmpty &&
    Text.len trimmed ≤ tempTransferMaxPathBytes && !trimmed.toList.contains '\x00' &&
    !trimmed.toList.any Text.isControl && !(Text.split trimmed '/').any (· == "..") &&
    (Text.split trimmed '/').any fun segment => !segment.isEmpty && segment != "."

def expectedScope : TransferOp → String
  | .download => "transfer:read"
  | .upload => "transfer:write"

def validateTransferRecordState (record : TemporaryTransferToken) (op : TransferOp)
    (now : DateTime) : Except ApiError Unit :=
  ensure (record.op == op && record.scope == expectedScope op &&
    !(op == .upload && record.authKind != .session) && decide (now < record.expiresAt) &&
    record.usedAt.isNone && record.revokedAt.isNone && validTransferRecordPath record.path)
    invalidUrl

structure IssuerRows where
  user : Except String (Option User)
  session : Except String (Option Session)
  pat : Except String (Option PersonalAccessToken)
  agent : Except String (Option OwnedAgent)

def serverVisible (auth : AuthSession) (agentId : AgentId) : Bool :=
  match auth.serverIds with
  | none => true
  | some allow => allow.any (· == agentId.text)

def agentVisible (auth : AuthSession) (agent : OwnedAgent) : Bool :=
  serverVisible auth agent.id && (auth.role.isAdmin || agent.ownerUserId == auth.userId)

def foundRow {α : Type} (answer : Except String (Option α)) (missing : ApiError) :
    Except ApiError α := do
  require (← answer.mapError fun _ => internalError) missing

def validateTransferIssuer (record : TemporaryTransferToken) (rows : IssuerRows)
    (now : DateTime) : Except ApiError Unit := do
  let user ← foundRow rows.user invalidIssuer
  let auth ← match record.authKind with
    | .session => do
      let _ ← require record.sessionId invalidIssuer
      let session ← foundRow rows.session invalidIssuer
      ensure (session.userId == record.issuedByUserId && decide (now < session.expiresAt))
        invalidIssuer
      pure (cookieSession "" session user)
    | .personalAccessToken => do
      let _ ← require record.apiTokenId invalidIssuer
      let pat ← foundRow rows.pat invalidIssuer
      ensure (pat.userId == record.issuedByUserId && pat.revokedAt.isNone &&
        (pat.expiresAt.map fun ts => decide (now < ts)).getD false &&
        (Rbac.validatePatRuntime pat.scopes user.role.isAdmin pat.serverIds).toBool) invalidIssuer
      pure (patSession pat user)
  ensure (Rbac.hasScope auth record.scope)
    (.forbidden, "temporary URL issuer no longer has permission")
  let agent ← foundRow rows.agent (.forbidden, "temporary URL server is invalid")
  ensure agent.revokedAt.isNone (.forbidden, "temporary URL server is revoked")
  ensure (agentVisible auth agent) (.forbidden, "temporary URL issuer no longer has server access")

/-! ## Tasks and their results -/

inductive FileTask where
  | read (path : String) (offset length : UInt64)
  | write (path : String) (data : List UInt8) (mode : UInt32) (createDirs : Bool)
  deriving DecidableEq

inductive TaskOutcome where
  | unspecified
  | success
  | failure
  | timeout
  deriving DecidableEq, Repr

structure TaskResult where
  status : TaskOutcome
  exitCode : Int32
  stdout : String
  stderr : String
  error : String
  deriving DecidableEq

def ensureTaskResultTextWithin (result : TaskResult) (stdoutMax stderrMax errorMax : ℕ)
    (context : String) : Except String Unit := do
  ensure (Text.len result.stdout ≤ stdoutMax)
    (context ++ " stdout exceeds " ++ toString stdoutMax ++ " bytes")
  ensure (Text.len result.stderr ≤ stderrMax)
    (context ++ " stderr exceeds " ++ toString stderrMax ++ " bytes")
  ensure (Text.len result.error ≤ errorMax)
    (context ++ " error exceeds " ++ toString errorMax ++ " bytes")

def ensureTemporaryTransferResultText (result : TaskResult) (stdoutMax : ℕ) (context : String) :
    Except ApiError Unit :=
  (ensureTaskResultTextWithin result stdoutMax tempTransferSmallResultMaxBytes
    tempTransferSmallResultMaxBytes context).mapError fun message => (.badGateway, message)

def ensureTaskSuccess (result : TaskResult) : Except ApiError Unit :=
  if result.status = .success ∧ result.exitCode = 0 then .ok ()
  else
    let detail :=
      if !(Text.trim result.stderr).isEmpty then Text.trim result.stderr
      else if !(Text.trim result.error).isEmpty then Text.trim result.error
      else "agent command failed with exit code " ++ toString result.exitCode
    .error (.badGateway, detail)

def sanitizeFilename (filename : String) : String :=
  let sanitized := filename.toList.map fun c =>
    if c ∈ "\"'\\/\x00;".toList ∨ Text.isControl c ∨ ¬ c.val < 128 then '_' else c
  -- Only ASCII characters are left, so the bound in bytes is one in characters.
  let trimmed := Text.trim (String.ofList (sanitized.take tempTransferMaxFilenameBytes))
  if trimmed.isEmpty ∨ trimmed = "." ∨ trimmed = ".." then "download.bin" else trimmed

def headerValueFromStr (s : String) : Except String String := do
  ensure (s.toList.all fun c => (32 ≤ c.val && c.val != 127) || c == '\t')
    "failed to parse header value"
  return s

def temporaryDownloadHeaders (dataLen : ℕ) (filename : String) :
    Except String (List (String × String)) := do
  let contentLength ← headerValueFromStr (toString dataLen)
  let contentDisposition ← headerValueFromStr
    ("attachment; filename=\"" ++ sanitizeFilename filename ++ "\"")
  return [("content-type", "application/octet-stream"), ("x-content-type-options", "nosniff"),
    ("content-length", contentLength), ("content-disposition", contentDisposition),
    ("cache-control", "no-store"), ("pragma", "no-cache"), ("expires", "0")]

inductive Response where
  | file (headers : List (String × String)) (data : List UInt8)
  | written (serverId : AgentId) (path : String) (bytesWritten : ℕ)
  deriving DecidableEq

def downloadResponse (path : String) (result : TaskResult) : Except ApiError Response := do
  ensureTemporaryTransferResultText result (base64EncodedLen tempTransferMaxBytes)
    "temporary download agent result"
  ensureTaskSuccess result
  let data ← (base64Decode (Text.trim result.stdout)).mapError fun e =>
    (StatusCode.badGateway, "agent returned invalid base64 file data: " ++ e)
  ensure (data.length ≤ tempTransferMaxBytes)
    (.payloadTooLarge, "file is larger than " ++ toString tempTransferMaxBytes ++ " bytes")
  let filename := ((Text.split path '/').reverse.find? fun part => !part.isEmpty).getD
    "download.bin"
  let headers ← (temporaryDownloadHeaders data.length filename).mapError fun e =>
    (StatusCode.internalServerError, e)
  return .file headers data

def uploadResponse (serverId : AgentId) (path : String) (body : List UInt8)
    (result : TaskResult) : Except ApiError Response := do
  ensureTemporaryTransferResultText result tempTransferSmallResultMaxBytes
    "temporary upload agent result"
  ensureTaskSuccess result
  let written ← require (Text.parseUsize (Text.trim result.stdout))
    (.badGateway, "agent returned invalid byte count")
  ensure (written == body.length)
    (.badGateway, "agent wrote " ++ toString written ++ " bytes, expected " ++
      toString body.length)
  return .written serverId path written

def readLimitedBody (received : Except String (List UInt8)) (maxBytes : ℕ) :
    Except ApiError (List UInt8) := do
  let unreadable (e : String) : ApiError := (.payloadTooLarge, "upload is larger than " ++
    toString maxBytes ++ " bytes or could not be read: " ++ e)
  let body ← received.mapError unreadable
  ensure (body.length ≤ maxBytes + 1) (unreadable "length limit exceeded")
  ensure (body.length ≤ maxBytes)
    (.payloadTooLarge, "upload is larger than " ++ toString maxBytes ++ " bytes")
  return body

def readLimitedUploadBody (received : Except String (List UInt8)) :
    Except ApiError (List UInt8) :=
  readLimitedBody received tempTransferMaxBytes

/-! ## Requests -/

structure ValidatedTemporaryTransfer where
  tokenId : String
  serverId : AgentId
  path : String
  deriving DecidableEq

/-- What a request is about to do, with what it has read so far. -/
inductive Phase where
  | find
  | issuer (tokenId : String) (record : TemporaryTransferToken)
  | consume (transfer : ValidatedTemporaryTransfer)
  | reserve (transfer : ValidatedTemporaryTransfer) (reservationId : String)
  | receive (transfer : ValidatedTemporaryTransfer) (reservationId : String)
  | commit (transfer : ValidatedTemporaryTransfer) (reservationId : String) (body : List UInt8)
  | release (transfer : ValidatedTemporaryTransfer) (reservationId : String) (error : ApiError)
  | dispatch (transfer : ValidatedTemporaryTransfer) (task : FileTask)
  | await (transfer : ValidatedTemporaryTransfer) (task : FileTask) (runId : String)
  | record (transfer : ValidatedTemporaryTransfer) (agentTaskId : Option String)
      (answer : Except ApiError Response)
  | done (answer : Except ApiError Response)
  | dropped
  deriving DecidableEq

structure Call where
  op : TransferOp
  token : String
  clientIp : String
  phase : Phase
  deriving DecidableEq

inductive Reply where
  | done
  | failed
  | lost
  deriving DecidableEq

inductive TaskReply where
  | answered (result : TaskResult)
  | disconnected
  | timedOut

inductive Input where
  | statement (reply : Reply)
  | issuer (rows : IssuerRows) (limited : Except ApiError Unit) (reservationId : String)
  | body (received : Except String (List UInt8))
  | agent (online : Bool) (runId : String) (sent : Except String Unit)
  | result (reply : TaskReply)

namespace Call

variable (call : Call)

def goTo (phase : Phase) : Call := { call with phase }

def fail (error : ApiError) : Call := call.goTo (.done (.error error))

def found (now : DateTime) : Option (String × TemporaryTransferToken) → Call
  | none => call.fail invalidUrl
  | some (id, record) => match validateTransferRecordState record call.op now with
    | .error e => call.fail e
    | .ok () => call.goTo (.issuer id record)

def validated (transfer : ValidatedTemporaryTransfer) (reservationId : String) : Call :=
  match call.op with
  | .download => call.goTo (.consume transfer)
  | .upload => call.goTo (.reserve transfer reservationId)

def readTask (transfer : ValidatedTemporaryTransfer) : FileTask :=
  .read transfer.path 0 (UInt64.ofNat tempTransferMaxBytes)

def writeTask (transfer : ValidatedTemporaryTransfer) (body : List UInt8) : FileTask :=
  .write transfer.path body 0 true

def statement (env : Env) (now : DateTime) (tokens : Tokens) : Option (Tokens × Call × Call) :=
  let untold := call.fail internalError
  match call.phase with
  | .find =>
    some (tokens, call.found now (tokens.findByTokenHash (hashToken env.sha256 call.token)), untold)
  | .consume transfer =>
    let marked := tokens.markUsedOnce env now transfer.tokenId (some call.clientIp)
    some (marked.1, if marked.2 then call.goTo (.dispatch transfer (readTask transfer))
      else call.fail alreadyUsed, untold)
  | .reserve transfer reservationId =>
    let reserved :=
      tokens.reserveUploadOnce env now transfer.tokenId (some call.clientIp) reservationId
    some (reserved.1, if reserved.2 then call.goTo (.receive transfer reservationId)
      else call.fail alreadyUsed, untold)
  | .commit transfer reservationId body =>
    let committed := tokens.commitUploadReservation env now transfer.tokenId reservationId
    some (committed.1, if committed.2 then call.goTo (.dispatch transfer (writeTask transfer body))
      else call.goTo (.release transfer reservationId
        (.forbidden, "temporary URL expired or was revoked during upload")), untold)
  | .release transfer reservationId error =>
    -- A release that fails is logged only.
    some ((tokens.releaseUploadReservation transfer.tokenId reservationId).1, call.fail error,
      call.fail error)
  | .record transfer agentTaskId answer =>
    let recorded := match answer with
      | .ok _ => tokens.recordUseResult transfer.tokenId .success agentTaskId none
      | .error e => tokens.recordUseResult transfer.tokenId .failed agentTaskId (some e.2)
    some (recorded.1, call.goTo (.done answer), call.goTo (.done answer))
  | _ => none

def respond (transfer : ValidatedTemporaryTransfer) (task : FileTask) :
    TaskReply → Except ApiError Response
  | .disconnected => .error (.badGateway, "agent disconnected before reply")
  | .timedOut => .error (.gatewayTimeout, "temporary transfer timed out")
  | .answered result => match task with
    | .read _ _ _ => downloadResponse transfer.path result
    | .write _ body _ _ => uploadResponse transfer.serverId transfer.path body result

end Call

/-! ## The system -/

structure Dispatch where
  call : ℕ
  tokenId : String
  agentId : AgentId
  task : FileTask
  deriving DecidableEq

structure System where
  clock : DateTime
  tokens : Tokens
  calls : ℕ → Option Call
  dispatched : List Dispatch

def System.init (clock : DateTime) (tokens : Tokens) : System := ⟨clock, tokens, fun _ => none, []⟩

inductive Event where
  | request (call : ℕ) (op : TransferOp) (token clientIp : String) (limited : Except ApiError Unit)
  | step (call : ℕ) (input : Input)
  | drop (call : ℕ)
  | revoke (tokenId : String) (reply : Reply)
  | tick (elapsed : ℕ)

namespace System

variable (env : Env) (st : System)

def setCall (k : ℕ) (call : Call) : System :=
  { st with calls := Function.update st.calls k (some call) }

def log (d : Dispatch) : System := { st with dispatched := st.dispatched ++ [d] }

def start (op : TransferOp) (token clientIp : String) (limited : Except ApiError Unit) : Call :=
  let call : Call := ⟨op, token, clientIp, .find⟩
  match limited with
  | .error e => call.fail e
  | .ok () => if validTemporaryTokenShape token then call else call.fail invalidUrl

def stepStatement (k : ℕ) (call : Call) (reply : Reply) : System :=
  match call.statement env st.clock st.tokens with
  | none => st
  | some (tokens, told, untold) => match reply with
    | .done => { st with tokens }.setCall k told
    | .failed => st.setCall k untold
    | .lost => { st with tokens }.setCall k untold

def stepCall (k : ℕ) (call : Call) : Input → System
  | .statement reply => st.stepStatement env k call reply
  | .issuer rows limited reservationId => match call.phase with
    | .issuer id record =>
      match validateTransferIssuer record rows st.clock >>= fun _ => limited with
      | .error e => st.setCall k (call.fail e)
      | .ok () =>
        st.setCall k (call.validated ⟨id, record.serverId, record.path⟩ reservationId)
    | _ => st
  | .body received => match call.phase with
    | .receive transfer reservationId => match readLimitedUploadBody received with
      | .error e => st.setCall k (call.goTo (.release transfer reservationId e))
      | .ok body => st.setCall k (call.goTo (.commit transfer reservationId body))
    | _ => st
  | .agent online runId sent => match call.phase with
    | .dispatch transfer task =>
      if !online then
        st.setCall k (call.goTo (.record transfer none (.error (.badGateway, "agent is offline"))))
      else match sent with
        | .error e =>
          st.setCall k (call.goTo (.record transfer (some runId) (.error (.badGateway, e))))
        | .ok () =>
          (st.log ⟨k, transfer.tokenId, transfer.serverId, task⟩).setCall k
            (call.goTo (.await transfer task runId))
    | _ => st
  | .result reply => match call.phase with
    | .await transfer task runId =>
      st.setCall k (call.goTo (.record transfer (some runId) (Call.respond transfer task reply)))
    | _ => st

def step : Event → System
  | .request k op token clientIp limited => match st.calls k with
    | none => st.setCall k (start op token clientIp limited)
    | some _ => st
  | .step k input => match st.calls k with
    | none => st
    | some call => st.stepCall env k call input
  | .drop k => match st.calls k with
    | none => st
    | some call => st.setCall k (call.goTo .dropped)
  | .revoke tokenId reply => match reply with
    | .failed => st
    | .done | .lost => { st with tokens := (st.tokens.revoke env st.clock tokenId).1 }
  | .tick elapsed => { st with clock := st.clock + elapsed }

end System

end XLStatus.Transfers
