import XLStatus.Shared.AgentJson
import XLStatus.Transfers.TokensDefs

/-! The dashboard metadata of a server: the requests that read the stored JSON, check what they
change against it and write the whole document back, each read and each write a step. -/

namespace XLStatus.Servers

open Shared Auth Checked
open Auth.Rbac (hasScope)
open Transfers (agentVisible)

/-- The fields the dashboard shows to guests, the tags, and the other fields of the document. -/
structure DashboardMetadata (R : Type) where
  publicNote : Option String
  dashboardVisible : Option Bool
  hideForGuest : Option Bool
  tags : List String
  rest : R
  deriving DecidableEq

structure PublicFields where
  publicNote : Option String
  dashboardVisible : Option Bool
  hideForGuest : Option Bool
  deriving DecidableEq

def DashboardMetadata.public {R : Type} (metadata : DashboardMetadata R) : PublicFields :=
  ⟨metadata.publicNote, metadata.dashboardVisible, metadata.hideForGuest⟩

structure Telemetry (R : Type) where
  tags : List String
  fill : R → R

def noTelemetry {R : Type} : Telemetry R := ⟨[], id⟩

/-- `serde_json` for the document, and the reading of the telemetry. Of the encoding only this
is used: what is written is not blank around its ends, and is read back with the same public
fields. -/
structure Codec (R : Type) where
  toText : DashboardMetadata R → Except String String
  fromText : String → Option (DashboardMetadata R)
  defaultRest : R
  telemetry : Option String → Option String → Telemetry R
  fromText_toText : ∀ metadata text, toText metadata = .ok text →
    Text.trim text = text ∧ text ≠ "" ∧
      ∃ metadata', fromText text = some metadata' ∧ metadata'.public = metadata.public

def normalizeTags (tags : List String) : List String :=
  tags.foldl (fun out tag =>
    let cleaned := Text.trim tag
    if out.length ≥ 8 || cleaned = "" || cleaned.toList.any Text.isControl ||
      out.contains cleaned then out
    else out ++ [String.ofList (cleaned.toList.take 24)]) []

def serverTagInputMaxItems : ℕ := 64
def serverTagInputMaxBytes : ℕ := 128
def serverLabelMaxBytes : ℕ := 512
def serverDashboardMetadataMaxBytes : ℕ := agentDashboardMetadataJsonMaxBytes
def serverBatchMaxServerIds : ℕ := 200

def normalizeTagInput (tags : List String) : Except AppError (List String) := do
  ensure (tags.length ≤ serverTagInputMaxItems)
    (.badRequest ("tags must contain at most " ++ toString serverTagInputMaxItems ++ " items"))
  tags.forM fun tag => do
    ensure (Text.len (Text.trim tag) ≤ serverTagInputMaxBytes) (.badRequest "tag is too long")
    ensure (!(Text.trim tag).toList.any Text.isControl)
      (.badRequest "tag must not contain control characters")
  return normalizeTags tags

def normalizeOptionalLabel (value : Option String) (field : String) :
    Except AppError (Option String) :=
  match value.map Text.trim with
  | none | some "" => .ok none
  | some value => do
    ensure (Text.len value ≤ serverLabelMaxBytes) (.badRequest (field ++ " is too long"))
    ensure (!value.toList.any Text.isControl)
      (.badRequest (field ++ " must not contain control characters"))
    return some value

section Document

variable {R : Type} (codec : Codec R)

def dashboardMetadata (stored : Option String) (telemetry : Telemetry R) : DashboardMetadata R :=
  let out := (parseDashboardMetadataJson codec.fromText stored).getD
    ⟨none, none, none, [], codec.defaultRest⟩
  { out with
    rest := telemetry.fill out.rest
    tags := normalizeTags (if out.tags = [] then telemetry.tags else out.tags) }

def dashboardMetadataJson (metadata : DashboardMetadata R) : Except AppError String := do
  let value ← (codec.toText metadata).mapError AppError.badRequest
  ensure (Text.len value ≤ serverDashboardMetadataMaxBytes)
    (.badRequest "dashboard metadata is too large")
  return value

def publicServerVisibilityMetadataChanged (current next : DashboardMetadata R) : Bool :=
  current.publicNote != next.publicNote || current.dashboardVisible != next.dashboardVisible ||
    current.hideForGuest != next.hideForGuest

end Document

/-! ## Authority

The answer of `require_sensitive_totp` is an argument. -/

def requireAdminCookieSession (auth : AuthSession) : Except AppError Unit := do
  ensure auth.role.isAdmin (.forbidden "admin role required")
  ensure (auth.authKind ≠ .personalAccessToken) (.forbidden "Cookie session required")

def requirePublicServerVisibilityWriteAuth (auth : AuthSession) (totp : Except AppError Unit) :
    Except AppError Unit := do
  requireAdminCookieSession auth
  totp

def requireServerTagWriteAuth (auth : AuthSession) (totp : Except AppError Unit) :
    Except AppError Unit := do
  ensure (auth.authKind ≠ .personalAccessToken)
    (.forbidden "server tag changes require a cookie session")
  totp

section Authority

variable {R : Type} (codec : Codec R) (auth : AuthSession) (totp : Except AppError Unit)
  (stored : Option String) (next : DashboardMetadata R)

def publicChanged : Bool :=
  publicServerVisibilityMetadataChanged (dashboardMetadata codec stored noTelemetry) next

def tagsChanged : Bool := (dashboardMetadata codec stored noTelemetry).tags ≠ next.tags

def requirePublicServerMetadataWriteAuth : Except AppError Unit :=
  if publicChanged codec stored next then requirePublicServerVisibilityWriteAuth auth totp
  else .ok ()

def requireServerTagWriteAuthIfChanged : Except AppError Unit :=
  if tagsChanged codec stored next then requireServerTagWriteAuth auth totp else .ok ()

end Authority

structure AgentRow where
  ownerUserId : UserId
  revokedAt : Option DateTime
  dashboardMetadataJson : Option String
  lastInfoJson : Option String
  lastStateJson : Option String

structure UpdateServerRequest (R : Type) where
  publicNote : Option String
  dashboardVisible : Option Bool
  hideForGuest : Option Bool
  tags : Option (List String)
  rest : Except AppError R

inductive ServerBatchAction where
  | setTags
  | addTags
  | removeTags
  | setDashboardVisible
  deriving DecidableEq, Repr

structure BatchUpdateServersRequest where
  serverIds : List String
  action : ServerBatchAction
  tags : List String
  dashboardVisible : Option Bool

def requireServerUuidText (value field : String) : Except AppError AgentId :=
  if value = "" then .error (.badRequest (field ++ " is required"))
  else if h : isCanonicalUuid value = true then .ok ⟨value, h⟩
  else .error (.badRequest (field ++ " must be a canonical UUID"))

def ensureAgentVisible (auth : AuthSession) (id : AgentId) (row : AgentRow) :
    Except AppError Unit :=
  ensure (agentVisible auth ⟨id, row.ownerUserId, row.revokedAt⟩)
    (.forbidden "agent not in scope")

section Requests

variable {R : Type} (codec : Codec R)

/-- `update_server` from its read to its write: the document to be written, and whether the
request had to pass the check of the second factor. -/
def prepareUpdate (auth : AuthSession) (totpPublic totpTags : Except AppError Unit) (id : AgentId)
    (row : AgentRow) (req : UpdateServerRequest R) : Except AppError (String × Bool) := do
  ensureAgentVisible auth id row
  let tags ← normalizeTagInput (req.tags.getD [])
  let publicNote ← normalizeOptionalLabel req.publicNote "public_note"
  let rest ← req.rest
  let next : DashboardMetadata R :=
    { publicNote, tags, rest, dashboardVisible := req.dashboardVisible,
      hideForGuest := req.hideForGuest }
  let stored := row.dashboardMetadataJson
  requirePublicServerMetadataWriteAuth codec auth totpPublic stored next
  requireServerTagWriteAuthIfChanged codec auth totpTags stored next
  let json ← dashboardMetadataJson codec next
  return (json, publicChanged codec stored next || tagsChanged codec stored next)

structure Batch where
  action : ServerBatchAction
  tags : List String
  dashboardVisible : Option Bool
  serverIds : List AgentId

def dedupeIds (ids : List String) (maxItems : ℕ) (field : String) :
    Except AppError (List AgentId) := do
  ensure (ids.length ≤ maxItems)
    (.badRequest (field ++ " must contain at most " ++ toString maxItems ++ " items"))
  let ids ← ids.mapM (requireServerUuidText · field)
  return ids.eraseDups

def requireBatchWriteAuth (auth : AuthSession) (totp : Except AppError Unit) :
    ServerBatchAction → Except AppError Unit
  | .setDashboardVisible => requirePublicServerVisibilityWriteAuth auth totp
  | _ => requireServerTagWriteAuth auth totp

def startBatch (auth : AuthSession) (totp : Except AppError Unit)
    (req : BatchUpdateServersRequest) : Except AppError Batch := do
  ensure (hasScope auth "server:write") (.forbidden "missing scope: server:write")
  requireBatchWriteAuth auth totp req.action
  let serverIds ← dedupeIds req.serverIds serverBatchMaxServerIds "server_ids"
  ensure (!serverIds.isEmpty) (.badRequest "server_ids is required")
  ensure (!(req.action = .setDashboardVisible && req.dashboardVisible.isNone))
    (.badRequest "dashboard_visible is required")
  let tags ← normalizeTagInput req.tags
  ensure (!(req.action ≠ .setDashboardVisible && tags.isEmpty)) (.badRequest "tags is required")
  return ⟨req.action, tags, req.dashboardVisible, serverIds⟩

def prepareBatchAction (auth : AuthSession) (batch : Batch) (id : AgentId) (row : AgentRow) :
    Except AppError String := do
  ensureAgentVisible auth id row
  let metadata := dashboardMetadata codec row.dashboardMetadataJson
    (codec.telemetry row.lastInfoJson row.lastStateJson)
  dashboardMetadataJson codec <| match batch.action with
    | .setTags => { metadata with tags := normalizeTags batch.tags }
    | .addTags => { metadata with tags := normalizeTags (metadata.tags ++ batch.tags) }
    | .removeTags => { metadata with tags := metadata.tags.filter (!batch.tags.contains ·) }
    | .setDashboardVisible => { metadata with dashboardVisible := batch.dashboardVisible }

structure Pending where
  agentId : AgentId
  read : Option String
  json : String

structure Request where
  auth : AuthSession
  passedTotp : Bool
  batch : Option Batch
  pending : Option Pending

structure System where
  agents : HashMap AgentId AgentRow
  requests : HashMap ℕ Request

/-- One step: a request starts with its read, or a batch starts; a batch reads its next server;
a request writes; or the row of an agent is changed otherwise, inserted or deleted. -/
inductive Event (R : Type) where
  | update (r : ℕ) (auth : AuthSession) (totpPublic totpTags : Except AppError Unit)
      (id : String) (req : UpdateServerRequest R)
  | startBatch (r : ℕ) (auth : AuthSession) (totp : Except AppError Unit)
      (req : BatchUpdateServersRequest)
  | batchRead (r : ℕ)
  | write (r : ℕ)
  | agentChanged (id : AgentId) (row : Option AgentRow)

def startUpdate (σ : System) (auth : AuthSession) (totpPublic totpTags : Except AppError Unit)
    (id : String) (req : UpdateServerRequest R) : Except AppError Request := do
  ensure (hasScope auth "server:write") (.forbidden "missing scope: server:write")
  let agentId ← requireServerUuidText id "server_id"
  let row ← require (σ.agents.lookup agentId) (.notFound "agent not found")
  let (json, passedTotp) ← prepareUpdate codec auth totpPublic totpTags agentId row req
  return ⟨auth, passedTotp, none, some ⟨agentId, row.dashboardMetadataJson, json⟩⟩

def readNext (σ : System) (request : Request) (batch : Batch) : Request :=
  match batch.serverIds with
  | [] => request
  | id :: rest =>
    let pending := (σ.agents.lookup id).bind fun row =>
      (prepareBatchAction codec request.auth batch id row).toOption.map
        (Pending.mk id row.dashboardMetadataJson)
    { request with batch := some { batch with serverIds := rest }, pending }

def updateAgentDashboardMetadata (agents : HashMap AgentId AgentRow) (id : AgentId)
    (json : String) : HashMap AgentId AgentRow :=
  match agents.lookup id with
  | none => agents
  | some row => agents.insert id { row with dashboardMetadataJson := some json }

def changeAgent (agents : HashMap AgentId AgentRow) (id : AgentId) :
    Option AgentRow → HashMap AgentId AgentRow
  | none => agents.erase id
  | some row => agents.insert id
    { row with dashboardMetadataJson := (agents.lookup id).bind (·.dashboardMetadataJson) }

def step (σ : System) : Event R → System
  | .update r auth totpPublic totpTags id req =>
    if (σ.requests.lookup r).isSome then σ
    else match startUpdate codec σ auth totpPublic totpTags id req with
      | .error _ => σ
      | .ok request => { σ with requests := σ.requests.insert r request }
  | .startBatch r auth totp req =>
    if (σ.requests.lookup r).isSome then σ
    else match startBatch auth totp req with
      | .error _ => σ
      | .ok batch =>
        { σ with requests := σ.requests.insert r ⟨auth, true, some batch, none⟩ }
  | .batchRead r => match σ.requests.lookup r with
    | some request => match request.batch, request.pending with
      | some batch, none =>
        { σ with requests := σ.requests.insert r (readNext codec σ request batch) }
      | _, _ => σ
    | none => σ
  | .write r => match σ.requests.lookup r with
    | some request => match request.pending with
      | some pending =>
        { agents := updateAgentDashboardMetadata σ.agents pending.agentId pending.json
          requests := σ.requests.insert r { request with pending := none } }
      | none => σ
    | none => σ
  | .agentChanged id row => { σ with agents := changeAgent σ.agents id row }

end Requests

end XLStatus.Servers
