import XLStatus.Db.Stamp
import XLStatus.Tasks.TargetsDefs
import XLStatus.Transfers.TokensDefs

/-! The history and the uptime of a service: who may ask for them, which servers the answer
is restricted to, and the queries on the results. -/

namespace XLStatus.Services

open Auth Shared Checked
open Auth.Middleware (Decoders OwnedAgent)
open Db (Stamp)
open Tasks (bindId eqIgnoreAsciiCase)
open Transfers (agentVisible)

def serviceUuidTextLen : ℕ := 36
def serviceMaxServerIds : ℕ := 64
def serviceHistoryMaxLimit : ℤ := 1000
def serviceHistoryMaxOffset : ℤ := 10000
def serviceHistoryMaxTimestampBytes : ℕ := 64
def serviceHistoryMaxRangeBytes : ℕ := 16
def serviceResultErrorMaxBytes : ℕ := 512
def serviceResultStatusMaxBytes : ℕ := 32
def serviceResultCertFingerprintMaxBytes : ℕ := 256
def serviceResultCertNotAfterMaxBytes : ℕ := 64
def serviceExcludeServerIdsJsonMaxBytes : ℕ := 8 * 1024

/-- What the handlers use of libraries and of the database: the decoders, the text of a
`timestamptz`, the message of a UUID that does not parse, the average of a column, and the
redaction of the addresses in an error text. -/
structure Runtime extends Decoders where
  timestamptzText : DateTime → String
  uuidError : String → String
  avg : List Int32 → Float
  redactServiceErrorUrls : String → String

/-! ## The tables -/

structure AgentRow (b : DatabaseBackend) where
  id : String
  ownerUserId : String
  lastSeenAt : Option (Stamp b)
  revokedAt : Option (Stamp b)
  createdAt : Stamp b
  updatedAt : Stamp b

structure ServiceRow where
  id : String
  ownerUserId : Option String
  coverMode : Option String
  serverId : Option String
  excludeServerIdsJson : Option String

structure ServiceServerRow (b : DatabaseBackend) where
  serviceId : String
  serverId : String
  createdAt : Stamp b

structure ServiceResultRow (b : DatabaseBackend) where
  id : String
  serviceId : String
  serverId : Option String
  status : String
  delayMs : Option Int32
  statusCode : Option Int32
  error : Option String
  certFingerprint : Option String
  certNotAfter : Option (Stamp b)
  createdAt : Stamp b

structure Inventory (b : DatabaseBackend) where
  agents : List (AgentRow b)
  services : List ServiceRow
  serviceServers : List (ServiceServerRow b)

structure Tables (b : DatabaseBackend) extends Inventory b where
  serviceResults : List (ServiceResultRow b)

section

variable (rt : Runtime) {b : DatabaseBackend}

/-! ## Agents -/

def rowToAgent (row : AgentRow b) : Option OwnedAgent := do
  let id ← parseUuid row.id
  let ownerUserId ← parseUuid row.ownerUserId
  let _ ← row.lastSeenAt.mapM (Stamp.instant rt.rfc3339)
  let revokedAt ← row.revokedAt.mapM (Stamp.instant rt.rfc3339)
  let _ ← Stamp.instant rt.rfc3339 row.createdAt
  let _ ← Stamp.instant rt.rfc3339 row.updatedAt
  return ⟨⟨id.1, canonical_parsed id⟩, ⟨ownerUserId.1, canonical_parsed ownerUserId⟩, revokedAt⟩

def findById (db : Inventory b) (id : AgentId) : Option OwnedAgent :=
  (db.agents.find? (·.id == id.text)).bind (rowToAgent rt)

/-! ## Texts -/

def requireCanonicalUuidText (value field : String) : Except AppError String := do
  let error := AppError.badRequest (field ++ " must be a canonical UUID")
  ensure (Text.len value == serviceUuidTextLen) error
  let parsed ← require (parseUuid value) error
  ensure (parsed.1 == value) error
  return value

def requireServiceUuidText (value field : String) : Except AppError String := do
  ensure (value != "") (.badRequest (field ++ " is required"))
  requireCanonicalUuidText value field

def parseUuidOr (value what : String) : Except AppError AgentId := do
  let parsed ← require (parseUuid value)
    (.badRequest ("invalid " ++ what ++ ": " ++ rt.uuidError value))
  return ⟨parsed.1, canonical_parsed parsed⟩

def bindUuid (b : DatabaseBackend) (value what : String) : Except AppError String :=
  require (bindId b value) (.badRequest ("invalid " ++ what ++ ": " ++ rt.uuidError value))

/-! ## Services and their visibility -/

def serviceNotInScope : AppError := .forbidden "service not in scope"
def serverNotInScope : AppError := .forbidden "server not in scope"

structure ServiceSecurityMeta where
  ownerUserId : Option String
  coverMode : String
  legacyServerId : Option String
  excludeServerIdsJson : Option String
  assignedServerIds : List String

def loadServiceServerIds (db : Inventory b) (sid : String) : List String :=
  let before (r s : ServiceServerRow b) : Bool :=
    Stamp.le r.createdAt s.createdAt &&
      (!Stamp.le s.createdAt r.createdAt || decide (r.serverId ≤ s.serverId))
  ((db.serviceServers.filter (·.serviceId == sid)).mergeSort before).map (·.serverId)

def loadServiceSecurityMeta (db : Inventory b) (serviceId : String) :
    Except AppError ServiceSecurityMeta := do
  let sid ← bindUuid rt b serviceId "service id"
  let row ← require (db.services.find? (·.id == sid)) (.notFound "service not found")
  return {
    ownerUserId := row.ownerUserId
    coverMode := row.coverMode.getD "local"
    legacyServerId := row.serverId
    excludeServerIdsJson := row.excludeServerIdsJson
    assignedServerIds := (loadServiceServerIds db sid).take (serviceMaxServerIds + 1) }

structure ServiceResponse where
  id : String
  serverId : Option String
  serverIds : List String
  lastStatus : Option String
  lastCheckAt : Option String
  certFingerprint : Option String
  certNotAfter : Option String

def newestFirst (rows : List (ServiceResultRow b)) : List (ServiceResultRow b) :=
  rows.mergeSort fun r s => Stamp.le s.createdAt r.createdAt

def serviceFromRow (db : Tables b) (row : ServiceRow) : ServiceResponse :=
  let latest := (newestFirst (db.serviceResults.filter (·.serviceId == row.id))).head?
  { id := row.id
    serverId := row.serverId
    serverIds := row.serverId.toList
    lastStatus := latest.map (·.status)
    lastCheckAt := latest.map (Stamp.text rt.timestamptzText ·.createdAt)
    certFingerprint := latest.bind (·.certFingerprint)
    certNotAfter := latest.bind fun r => r.certNotAfter.map (Stamp.text rt.timestamptzText) }

def attachServiceServerIds (db : Inventory b) (service : ServiceResponse) :
    Except AppError ServiceResponse := do
  let sid ← bindUuid rt b service.id "service id"
  match loadServiceServerIds db sid with
  | [] => return { service with serverIds := service.serverId.toList }
  | id :: ids => return { service with serverId := some id, serverIds := id :: ids }

def loadService (db : Tables b) (id : String) : Except AppError ServiceResponse := do
  let id ← requireServiceUuidText id "service_id"
  let sid ← bindUuid rt b id "service id"
  let row ← require (db.services.find? (·.id == sid)) (.notFound "service not found")
  attachServiceServerIds rt db.toInventory (serviceFromRow rt db row)

def authHasGlobalServiceVisibility (auth : AuthSession) : Bool :=
  auth.role.isAdmin && auth.serverIds.isNone

def serviceEffectiveServerIds (service : ServiceResponse) : List String :=
  match service.serverId with
  | none => service.serverIds
  | some id =>
    if service.serverIds.any (· == id) then service.serverIds else service.serverIds ++ [id]

def serverVisibleToAuth (db : Inventory b) (auth : AuthSession) (serverId : String) :
    Except AppError Bool := do
  let agentId ← parseUuidOr rt serverId "server_id"
  let agent ← require (findById rt db agentId) (.notFound "server not found")
  return agentVisible auth agent

def allServersVisible (db : Inventory b) (auth : AuthSession) : List String → Except AppError Bool
  | [] => .ok true
  | id :: ids => do
    if ← serverVisibleToAuth rt db auth id then allServersVisible db auth ids else return false

def serviceVisibleToAuth (db : Inventory b) (auth : AuthSession) (service : ServiceResponse) :
    Except AppError Bool :=
  if authHasGlobalServiceVisibility auth then .ok true
  else match serviceEffectiveServerIds service with
    | [] => .ok false
    | ids => allServersVisible rt db auth ids

def ensureServiceVisibleToAuth (db : Inventory b) (auth : AuthSession)
    (service : ServiceResponse) : Except AppError Unit := do
  ensure (← serviceVisibleToAuth rt db auth service) serviceNotInScope

def ensureServiceIdVisibleToAuth (db : Tables b) (auth : AuthSession) (serviceId : String) :
    Except AppError Unit := do
  let service ← loadService rt db serviceId
  ensureServiceVisibleToAuth rt db.toInventory auth service

def excludeServerIdsJsonIsEmpty (raw : Option String) : Bool :=
  match raw with
  | none => true
  | some raw =>
    let trimmed := Text.trim raw
    if trimmed = "" then true
    else if Text.len trimmed > serviceExcludeServerIdsJsonMaxBytes then false
    else ((rt.jsonStringArray trimmed).map fun items =>
      items.all fun item => Text.trim item = "").getD false

def parsePatAllowlist (auth : AuthSession) : Except AppError (Option (List String)) :=
  match auth.serverIds with
  | none => .ok none
  | some rawIds => do
    ensure (!(rawIds.isEmpty || decide (rawIds.length > serviceMaxServerIds))) serviceNotInScope
    some <$> rawIds.mapM fun raw =>
      (requireCanonicalUuidText (Text.trim raw) "server_id").mapError fun _ => serviceNotInScope

def pushTarget (targets : List String) (rawId : String) : Except AppError (List String) := do
  let canonical ← (requireCanonicalUuidText rawId "server_id").mapError fun _ => serviceNotInScope
  return if targets.any (· == canonical) then targets else targets ++ [canonical]

def pushLegacyTarget (targets : List String) : Option String → Except AppError (List String)
  | none => .ok targets
  | some legacyId =>
    if Text.trim legacyId = "" then .ok targets else pushTarget targets (Text.trim legacyId)

def ensureServiceOwner (auth : AuthSession) (ownerUserId : Option String) :
    Except AppError Unit :=
  if auth.role.isAdmin then .ok ()
  else do
    let owner ← require (ownerUserId.bind fun raw =>
      (requireCanonicalUuidText (Text.trim raw) "owner_user_id").toOption) serviceNotInScope
    ensure (owner == auth.userId.text) serviceNotInScope

def ensureTargetVisible (db : Inventory b) (auth : AuthSession) (allowlist : Option (List String))
    (serverId : String) : Except AppError Unit := do
  ensure (allowlist.all fun ids => ids.any (· == serverId)) serviceNotInScope
  let parsed ← require (parseUuid serverId) serviceNotInScope
  let agent ← require (findById rt db ⟨parsed.1, canonical_parsed parsed⟩) serviceNotInScope
  ensure agent.revokedAt.isNone serviceNotInScope
  ensure (auth.role.isAdmin || agent.ownerUserId == auth.userId) serviceNotInScope

def ensureTargetsInScope (db : Inventory b) (auth : AuthSession) (info : ServiceSecurityMeta)
    (targets : List String) : Except AppError (List String) := do
  ensureServiceOwner auth info.ownerUserId
  ensure (eqIgnoreAsciiCase (Text.trim info.coverMode) "specific") serviceNotInScope
  ensure (excludeServerIdsJsonIsEmpty rt info.excludeServerIdsJson) serviceNotInScope
  ensure (!targets.isEmpty) serviceNotInScope
  let allowlist ← parsePatAllowlist auth
  targets.forM (ensureTargetVisible rt db auth allowlist)
  return targets

def ensureServiceHistoryVisibleToAuth (db : Tables b) (auth : AuthSession) (serviceId : String) :
    Except AppError (List String) := do
  let serviceId ← requireCanonicalUuidText serviceId "service_id"
  let info ← loadServiceSecurityMeta rt db.toInventory serviceId
  ensureServiceIdVisibleToAuth rt db auth serviceId
  ensure (info.assignedServerIds.length ≤ serviceMaxServerIds) serviceNotInScope
  let assigned ← info.assignedServerIds.foldlM pushTarget []
  let targets ← pushLegacyTarget assigned info.legacyServerId
  if authHasGlobalServiceVisibility auth then return targets
  else ensureTargetsInScope rt db.toInventory auth info targets

def ensureRequestedServerVisibleToAuth (db : Inventory b) (auth : AuthSession)
    (rawServerId : String) : Except AppError String := do
  let serverId ← requireCanonicalUuidText rawServerId "server_id"
  let allowlist ← parsePatAllowlist auth
  ensure (allowlist.all fun ids => ids.any (· == serverId)) serverNotInScope
  let agentId ← parseUuidOr rt serverId "server_id"
  let agent ← require (findById rt db agentId)
    (if authHasGlobalServiceVisibility auth then .notFound "server not found"
      else serverNotInScope)
  ensure agent.revokedAt.isNone serverNotInScope
  ensure (auth.role.isAdmin || agent.ownerUserId == auth.userId) serverNotInScope
  return serverId

def validateRequestedServer (db : Inventory b) (auth : AuthSession) :
    Option String → Except AppError (Option String)
  | some raw => some <$> ensureRequestedServerVisibleToAuth rt db auth raw
  | none => .ok none

def normalizeIdList (values : List String) : List String :=
  values.foldl (fun out value =>
    if value != "" && !out.any (· == value) then out ++ [value] else out) []

def selectVisibleAgentIds (db : Inventory b) (auth : AuthSession) (allowed : Option (List String)) :
    List String :=
  let rows := db.agents.filter fun row =>
    (auth.role.isAdmin || row.ownerUserId == auth.userId.text) &&
      allowed.all fun ids => ids.any (· == row.id)
  (rows.map (·.id)).mergeSort fun r s => decide (r ≤ s)

def visibleServerIdsForAuth (db : Inventory b) (auth : AuthSession) :
    Except AppError (List String) :=
  if auth.role.isAdmin && auth.serverIds.isNone then .ok []
  else match auth.serverIds.map normalizeIdList with
    | none => .ok (selectVisibleAgentIds db auth none)
    | some [] => .ok []
    | some ids => do
      let bound ← ids.mapM fun id => bindUuid rt b id "server_id"
      return selectVisibleAgentIds db auth (some bound)

def resolveQueryServerIds (db : Inventory b) (auth : AuthSession) (serviceServerIds : List String)
    (requestedServerId : Option String) : Except AppError (Option (List String)) :=
  if authHasGlobalServiceVisibility auth then .ok (requestedServerId.map fun id => [id])
  else do
    let visible ← visibleServerIdsForAuth rt db auth
    let allowed := serviceServerIds.filter fun serverId => visible.any (· == serverId)
    match requestedServerId with
    | none => return some allowed
    | some reqId => do
      ensure (allowed.any (· == reqId)) serverNotInScope
      return some (allowed.filter (· == reqId))

/-! ## The query -/

structure HistoryQuery where
  limit : ℤ := 100
  offset : ℤ := 0
  startTime : Option String := none
  endTime : Option String := none
  serverId : Option String := none
  range : Option String := none

def normalizeHistoryLimit (limit : ℤ) : Except AppError ℤ := do
  ensure (0 < limit ∧ limit ≤ serviceHistoryMaxLimit)
    (.badRequest ("limit must be between 1 and " ++ toString serviceHistoryMaxLimit))
  return limit

def normalizeHistoryOffset (offset : ℤ) : Except AppError ℤ := do
  ensure (0 ≤ offset ∧ offset ≤ serviceHistoryMaxOffset)
    (.badRequest ("offset must be between 0 and " ++ toString serviceHistoryMaxOffset))
  return offset

def hours (n : ℤ) : ℤ := seconds (n * 3600)
def days (n : ℤ) : ℤ := hours (n * 24)

def rangeDuration (text : String) : Option ℤ :=
  match text with
  | "1h" => some (hours 1)
  | "6h" => some (hours 6)
  | "12h" => some (hours 12)
  | "24h" => some (days 1)
  | "1d" => some (days 1)
  | "7d" => some (days 7)
  | "30d" => some (days 30)
  | _ => none

def parseHistoryRange (range : Option String) : Except AppError (Option ℤ) :=
  match range with
  | none => .ok none
  | some raw =>
    let trimmed := Text.trim raw
    if trimmed = "" then .ok none
    else do
      ensure (!(decide (Text.len trimmed > serviceHistoryMaxRangeBytes) ||
        trimmed.toList.any Text.isControl)) (.badRequest "invalid range")
      some <$> require (rangeDuration (String.ofList (trimmed.toList.map Char.toLower)))
        (.badRequest "range must be 1h, 6h, 12h, 24h, 1d, 7d, or 30d")

def parseHistoryTimestamp (value field : String) : Except AppError (String × DateTime) := do
  let trimmed := Text.trim value
  ensure (!(trimmed == "" || decide (Text.len trimmed > serviceHistoryMaxTimestampBytes) ||
    trimmed.toList.any Text.isControl)) (.badRequest ("invalid " ++ field))
  let parsed ← require (rt.rfc3339 trimmed)
    (.badRequest (field ++ " must be a valid RFC3339 timestamp"))
  return (trimmed, parsed)

def startAfterEnd : AppError := .badRequest "start_time must not be after end_time"

def parseOptionalTimestamp (value : Option String) (field : String) :
    Except AppError (Option (String × DateTime)) :=
  match value with
  | none => .ok none
  | some raw => some <$> parseHistoryTimestamp rt raw field

def resolveOptionalHistoryWindow (now : DateTime) (query : HistoryQuery) :
    Except AppError (Option (String × DateTime) × Option (String × DateTime)) := do
  let range ← parseHistoryRange query.range
  let endBound ← parseOptionalTimestamp rt query.endTime "end_time"
  let startBound ← match query.startTime with
    | some raw => some <$> parseHistoryTimestamp rt raw "start_time"
    | none => .ok (range.map fun duration =>
      let start := (endBound.map (·.2)).getD now - duration
      (rt.toRfc3339 start, start))
  ensure (startBound.all fun s => endBound.all fun e => decide (s.2 ≤ e.2)) startAfterEnd
  return (startBound, endBound)

def resolveUptimeWindow (now : DateTime) (query : HistoryQuery) :
    Except AppError (String × String) := do
  let range := (← parseHistoryRange query.range).getD (days 30)
  let endBound ← match query.endTime with
    | some raw => parseHistoryTimestamp rt raw "end_time"
    | none => .ok (rt.toRfc3339 now, now)
  let startBound ← match query.startTime with
    | some raw => parseHistoryTimestamp rt raw "start_time"
    | none => .ok (rt.toRfc3339 (endBound.2 - range), endBound.2 - range)
  ensure (startBound.2 ≤ endBound.2) startAfterEnd
  return (startBound.1, endBound.1)

/-! ## Rows and aggregates -/

structure ServiceResult where
  id : String
  serviceId : String
  serverId : Option String
  status : String
  delayMs : Option Int32
  statusCode : Option Int32
  error : Option String
  certFingerprint : Option String
  certNotAfter : Option String
  createdAt : String

def takeBytes (maxBytes : ℕ) : ℕ → List Char → List Char
  | _, [] => []
  | used, c :: cs =>
    if used + c.utf8Size > maxBytes then [] else c :: takeBytes maxBytes (used + c.utf8Size) cs

def sanitizeServiceResultError (error : Option String) : Option String := do
  let raw ← error
  let normalized := (rt.redactServiceErrorUrls raw).toList.filterMap fun c =>
    if c = '\r' ∨ c = '\n' ∨ c = '\t' then some ' '
    else if Text.isControl c then none else some c
  let trimmed := Text.trim (String.ofList (takeBytes serviceResultErrorMaxBytes 0 normalized))
  if trimmed = "" then none else some trimmed

def sanitizeBoundedResultField (value : String) (maxBytes : ℕ) : String :=
  Text.trim (String.ofList
    (takeBytes maxBytes 0 (value.toList.filter fun c => !Text.isControl c)))

def sanitizeOptionalResultField (value : Option String) (maxBytes : ℕ) : Option String :=
  (value.map fun raw => sanitizeBoundedResultField raw maxBytes).filter (· ≠ "")

def serviceResultFromRow (row : ServiceResultRow b) : ServiceResult where
  id := row.id
  serviceId := row.serviceId
  serverId := row.serverId
  status := sanitizeBoundedResultField row.status serviceResultStatusMaxBytes
  delayMs := row.delayMs
  statusCode := row.statusCode
  error := sanitizeServiceResultError rt row.error
  certFingerprint :=
    sanitizeOptionalResultField row.certFingerprint serviceResultCertFingerprintMaxBytes
  certNotAfter := sanitizeOptionalResultField (row.certNotAfter.map (Stamp.text rt.timestamptzText))
    serviceResultCertNotAfterMaxBytes
  createdAt := Stamp.text rt.timestamptzText row.createdAt

def matchesQuery (sid : String) (startBound endBound : Option (String × DateTime))
    (serverIds : Option (List String)) (row : ServiceResultRow b) : Bool :=
  row.serviceId == sid &&
    startBound.all (fun bound => Stamp.le (Stamp.ofBound b bound) row.createdAt) &&
    endBound.all (fun bound => Stamp.le row.createdAt (Stamp.ofBound b bound)) &&
    serverIds.all fun ids => row.serverId.any fun id => ids.any (· == id)

def selectResults (db : Tables b) (serviceId : String)
    (startBound endBound : Option (String × DateTime)) (serverIds : Option (List String)) :
    Except AppError (List (ServiceResultRow b)) := do
  let sid ← bindUuid rt b serviceId "service id"
  let bound ← match serverIds with
    | none => .ok none
    | some ids => some <$> ids.mapM fun id => bindUuid rt b id "server_id"
  return db.serviceResults.filter (matchesQuery sid startBound endBound bound)

def listServiceHistoryForAuth (db : Tables b) (now : DateTime) (auth : AuthSession)
    (serviceId : String) (query : HistoryQuery) (limit offset : ℤ) :
    Except AppError (List ServiceResult) := do
  let serviceId ← requireCanonicalUuidText serviceId "service_id"
  let serviceServers ← ensureServiceHistoryVisibleToAuth rt db auth serviceId
  let limit ← normalizeHistoryLimit limit
  let offset ← normalizeHistoryOffset offset
  let window ← resolveOptionalHistoryWindow rt now query
  let requestedServerId ← validateRequestedServer rt db.toInventory auth query.serverId
  let serverIds ← resolveQueryServerIds rt db.toInventory auth serviceServers requestedServerId
  if serverIds = some [] then return []
  else do
    let rows ← selectResults rt db serviceId window.1 window.2 serverIds
    return (((newestFirst rows).drop offset.toNat).take limit.toNat).map (serviceResultFromRow rt)

structure UptimeCounts where
  totalChecks : ℕ
  successfulChecks : ℕ
  avgLatency : Option Float

def uptimeCounts (rows : List (ServiceResultRow b)) : UptimeCounts :=
  let successful := rows.filter (·.status == "success")
  let delays := successful.filterMap (·.delayMs)
  ⟨rows.length, successful.length, if delays.isEmpty then none else some (rt.avg delays)⟩

def serviceUptimeForAuthWithServerFilter (db : Tables b) (auth : AuthSession) (serviceId : String)
    (startTime endTime : String) (requestedServerId : Option String) :
    Except AppError UptimeCounts := do
  let serviceId ← requireCanonicalUuidText serviceId "service_id"
  let serviceServers ← ensureServiceHistoryVisibleToAuth rt db auth serviceId
  let startBound ← parseHistoryTimestamp rt startTime "start_time"
  let endBound ← parseHistoryTimestamp rt endTime "end_time"
  ensure (startBound.2 ≤ endBound.2) startAfterEnd
  let validatedServerId ← validateRequestedServer rt db.toInventory auth requestedServerId
  let serverIds ← resolveQueryServerIds rt db.toInventory auth serviceServers validatedServerId
  if serverIds = some [] then return ⟨0, 0, none⟩
  else do
    let rows ← selectResults rt db serviceId (some startBound) (some endBound) serverIds
    return uptimeCounts rt rows

/-! ## The handlers -/

structure ServiceHistoryResponse where
  results : List ServiceResult
  total : ℕ
  uptimePercent : Option Float

def requireScope (auth : AuthSession) (scope : String) : Except AppError Unit :=
  ensure (Rbac.hasScope auth scope) (.forbidden ("missing scope: " ++ scope))

def getServiceHistory (db : Tables b) (now : DateTime) (auth : AuthSession) (serviceId : String)
    (query : HistoryQuery) : Except AppError ServiceHistoryResponse := do
  requireScope auth "service:read"
  let serviceId ← requireCanonicalUuidText serviceId "service_id"
  let _ ← ensureServiceHistoryVisibleToAuth rt db auth serviceId
  let limit ← normalizeHistoryLimit query.limit
  let offset ← normalizeHistoryOffset query.offset
  let results ← listServiceHistoryForAuth rt db now auth serviceId query limit offset
  let successful := (results.filter (·.status == "success")).length
  return {
    results
    total := results.length
    uptimePercent := if results.isEmpty then none
      else some (Float.ofNat successful / Float.ofNat results.length * 100.0) }

structure ServiceUptimeResponse where
  serviceId : String
  totalChecks : ℕ
  successfulChecks : ℕ
  uptimePercent : Float
  avgLatencyMs : Option Float
  periodStart : String
  periodEnd : String

def getServiceUptime (db : Tables b) (now : DateTime) (auth : AuthSession) (serviceId : String)
    (query : HistoryQuery) : Except AppError ServiceUptimeResponse := do
  requireScope auth "service:read"
  let serviceId ← requireCanonicalUuidText serviceId "service_id"
  let _ ← ensureServiceHistoryVisibleToAuth rt db auth serviceId
  let _ ← normalizeHistoryLimit query.limit
  let _ ← normalizeHistoryOffset query.offset
  let _ ← validateRequestedServer rt db.toInventory auth query.serverId
  let (startTime, endTime) ← resolveUptimeWindow rt now query
  let requestedServerId ← match query.serverId with
    | some raw => some <$> requireCanonicalUuidText raw "server_id"
    | none => .ok none
  let counts ← serviceUptimeForAuthWithServerFilter rt db auth serviceId startTime endTime
    requestedServerId
  return {
    serviceId
    totalChecks := counts.totalChecks
    successfulChecks := counts.successfulChecks
    uptimePercent := if 0 < counts.totalChecks then
      Float.ofNat counts.successfulChecks / Float.ofNat counts.totalChecks * 100.0 else 0.0
    avgLatencyMs := counts.avgLatency
    periodStart := startTime
    periodEnd := endTime }

end

end XLStatus.Services
