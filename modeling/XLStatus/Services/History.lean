import XLStatus.Services.HistoryDefs

/-! What a session without global visibility learns of a service's results: its answers are
determined by the results of the servers it may see. -/

namespace XLStatus.Services

open Auth Shared Checked List
open Tasks (bindId)
open Transfers (agentVisible serverVisible)

section

variable (rt : Runtime) {b : DatabaseBackend}

/-- The session may see the server: there is an agent of this name that is not revoked, on
the session's allowlist, and of the session's user unless that is an admin. -/
def visibleServer (db : Inventory b) (auth : AuthSession) (serverId : String) : Bool :=
  db.agents.any fun row => row.id == serverId && (rowToAgent rt row).any fun agent =>
    agent.revokedAt.isNone && agentVisible auth agent

def visibleResults (db : Tables b) (auth : AuthSession) : List (ServiceResultRow b) :=
  db.serviceResults.filter fun row =>
    row.serverId.any fun id => visibleServer rt db.toInventory auth id

end

variable {rt : Runtime} {b : DatabaseBackend} {inv : Inventory b} {auth : AuthSession}

/-! ## Identifiers -/

theorem canonical_of_requireCanonicalUuidText {value field text : String}
    (h : requireCanonicalUuidText value field = .ok text) :
    text = value ∧ isCanonicalUuid value = true := by
  simp only [requireCanonicalUuidText, bind_eq_ok, ensure_eq_ok, require_eq_ok, pure_eq_ok,
    beq_iff_eq] at h
  obtain ⟨_, -, parsed, -, _, hparsed, rfl⟩ := h
  exact ⟨rfl, hparsed ▸ parsed.2⟩

theorem bindId_of_isCanonicalUuid {id : String} (h : isCanonicalUuid id = true) :
    bindId b id = some id := by
  cases b with
  | sqlite => rfl
  | postgres => rw [bindId, parseUuid_of_isCanonicalUuid h, Option.map_some]

theorem bound_eq_self {ids bound : List String} {what : String}
    (hcanonical : ∀ id ∈ ids, isCanonicalUuid id = true)
    (h : ids.mapM (fun id => bindUuid rt b id what) = .ok bound) : bound = ids := by
  have hpairs := mapM_eq_ok.mp h
  clear h
  induction hpairs with
  | nil => rfl
  | cons hbound _ ih =>
    rw [forall_mem_cons] at hcanonical
    rw [bindUuid, bindId_of_isCanonicalUuid hcanonical.1, require_eq_ok] at hbound
    rw [ih hcanonical.2, Option.some.inj hbound]

theorem text_of_rowToAgent {row : AgentRow b} {agent : Auth.Middleware.OwnedAgent}
    (h : rowToAgent rt row = some agent) (hcanonical : isCanonicalUuid row.id = true) :
    agent.id.text = row.id := by
  simp only [rowToAgent, Option.bind_eq_bind, Option.bind_eq_some_iff,
    parseUuid_of_isCanonicalUuid hcanonical, Option.some.injEq] at h
  obtain ⟨id, rfl, _, _, _, _, _, _, _, _, _, _, hagent⟩ := h
  rw [← Option.some.inj hagent]

/-! ## The targets of a service -/

theorem canonical_of_pushTarget {targets next : List String} {rawId : String}
    (h : pushTarget targets rawId = .ok next)
    (htargets : ∀ id ∈ targets, isCanonicalUuid id = true) :
    ∀ id ∈ next, isCanonicalUuid id = true := by
  simp only [pushTarget, bind_eq_ok, mapError_eq_ok, pure_eq_ok] at h
  obtain ⟨text, htext, rfl⟩ := h
  obtain ⟨rfl, hcanonical⟩ := canonical_of_requireCanonicalUuidText htext
  intro id hid
  split at hid
  · exact htargets id hid
  · rcases mem_append.mp hid with hid | hid
    · exact htargets id hid
    · rw [mem_singleton.mp hid]
      exact hcanonical

theorem canonical_of_foldlM_pushTarget {ids targets next : List String}
    (h : ids.foldlM pushTarget targets = .ok next)
    (htargets : ∀ id ∈ targets, isCanonicalUuid id = true) :
    ∀ id ∈ next, isCanonicalUuid id = true := by
  induction ids generalizing targets with
  | nil =>
    obtain rfl := pure_eq_ok.mp h
    exact htargets
  | cons rawId ids ih =>
    rw [foldlM_cons] at h
    obtain ⟨middle, hmiddle, hrest⟩ := bind_eq_ok.mp h
    exact ih hrest (canonical_of_pushTarget hmiddle htargets)

theorem canonical_of_pushLegacyTarget {targets next : List String} {legacyId : Option String}
    (h : pushLegacyTarget targets legacyId = .ok next)
    (htargets : ∀ id ∈ targets, isCanonicalUuid id = true) :
    ∀ id ∈ next, isCanonicalUuid id = true := by
  cases legacyId with
  | none =>
    obtain rfl := Except.ok.inj h
    exact htargets
  | some =>
    rw [pushLegacyTarget] at h
    split at h
    · obtain rfl := Except.ok.inj h
      exact htargets
    · exact canonical_of_pushTarget h htargets

theorem agent_of_ensureTargetVisible {allowlist : Option (List String)} {serverId : String}
    {u : Unit} (hcanonical : isCanonicalUuid serverId = true)
    (h : ensureTargetVisible rt inv auth allowlist serverId = .ok u) :
    ∃ row ∈ inv.agents, row.id = serverId ∧ ∃ agent, rowToAgent rt row = some agent ∧
      agent.revokedAt = none ∧ (auth.role.isAdmin || agent.ownerUserId == auth.userId) = true := by
  simp only [ensureTargetVisible, bind_eq_ok, ensure_eq_ok, require_eq_ok,
    parseUuid_of_isCanonicalUuid hcanonical, Option.some.injEq] at h
  obtain ⟨_, -, parsed, rfl, agent, hagent, _, hrevoked, howner⟩ := h
  obtain ⟨row, hrow, hdecode⟩ := Option.bind_eq_some_iff.mp hagent
  exact ⟨row, mem_of_find?_eq_some hrow, by simpa using find?_some hrow, agent, hdecode,
    Option.isNone_iff_eq_none.mp hrevoked, howner⟩

structure Checks (rt : Runtime) (inv : Inventory b) (auth : AuthSession) (targets : List String) :
    Prop where
  canonical : ∀ id ∈ targets, isCanonicalUuid id = true
  allowlist : ∃ allowlist, parsePatAllowlist auth = .ok allowlist
  agent : ∀ id ∈ targets, ∃ row ∈ inv.agents, row.id = id ∧ ∃ agent, rowToAgent rt row = some agent ∧
    agent.revokedAt = none ∧ (auth.role.isAdmin || agent.ownerUserId == auth.userId) = true

theorem checks_of_ensureServiceHistoryVisibleToAuth {results : List (ServiceResultRow b)}
    {serviceId : String} {targets : List String}
    (hglobal : authHasGlobalServiceVisibility auth = false)
    (h : ensureServiceHistoryVisibleToAuth rt ⟨inv, results⟩ auth serviceId = .ok targets) :
    Checks rt inv auth targets := by
  simp only [ensureServiceHistoryVisibleToAuth, ensureTargetsInScope, hglobal, Bool.false_eq_true,
    if_false, bind_eq_ok, pure_eq_ok] at h
  obtain ⟨_, -, info, -, _, -, _, -, assigned, hassigned, targets, hlegacy, _, -, _, -, _, -, _, -,
    allowlist, hallowlist, _, htargets, rfl⟩ := h
  have hcanonical := canonical_of_pushLegacyTarget hlegacy
    (canonical_of_foldlM_pushTarget hassigned (by simp))
  refine ⟨hcanonical, ⟨allowlist, hallowlist⟩, fun id hid => ?_⟩
  exact agent_of_ensureTargetVisible (hcanonical id hid) (forM_eq_ok.mp htargets id hid)

/-! ## The servers of the query -/

theorem mem_of_mem_normalizeIdList {values : List String} {id : String}
    (h : id ∈ normalizeIdList values) : id ∈ values := by
  have key : ∀ out, id ∈ values.foldl (fun out value =>
      if value != "" && !out.any (· == value) then out ++ [value] else out) out →
      id ∈ out ∨ id ∈ values := by
    clear h
    induction values with
    | nil => exact fun out h => .inl h
    | cons value values ih =>
      intro out h
      rcases ih _ h with hout | hvalues
      · dsimp only at hout
        split at hout
        · rcases mem_append.mp hout with hout | hout
          · exact .inl hout
          · exact .inr (mem_singleton.mp hout ▸ mem_cons_self)
        · exact .inl hout
      · exact .inr (mem_cons_of_mem _ hvalues)
  exact (key [] h).resolve_left (not_mem_nil)

theorem eq_of_bindId {allowlist : Option (List String)} {rawIds : List String} {raw id : String}
    (hserverIds : auth.serverIds = some rawIds)
    (hallowlist : parsePatAllowlist auth = .ok allowlist) (hraw : raw ∈ rawIds)
    (hbind : bindId b raw = some id) : id = raw := by
  cases b with
  | sqlite => exact (Option.some.inj hbind).symm
  | postgres =>
    simp only [parsePatAllowlist, hserverIds, bind_eq_ok, map_eq_ok] at hallowlist
    obtain ⟨_, -, ids, hids, -⟩ := hallowlist
    obtain ⟨text, htext⟩ := exists_of_mapM_of_mem hids hraw
    obtain ⟨-, hcanonical⟩ := canonical_of_requireCanonicalUuidText (mapError_eq_ok.mp htext)
    obtain ⟨parsed, hparse, rfl⟩ := Option.map_eq_some_iff.mp hbind
    exact parseUuid_eq_self_of_trim hparse hcanonical

theorem allowed_of_mem_visible {allowlist : Option (List String)} {visible : List String}
    {id : String} (hallowlist : parsePatAllowlist auth = .ok allowlist)
    (h : visibleServerIdsForAuth rt inv auth = .ok visible) (hid : id ∈ visible) :
    ∀ rawIds, auth.serverIds = some rawIds → id ∈ rawIds := by
  intro rawIds hserverIds
  have hnotGlobal : ¬ (auth.role.isAdmin && auth.serverIds.isNone) = true := by simp [hserverIds]
  rw [visibleServerIdsForAuth, if_neg hnotGlobal, hserverIds, Option.map_some] at h
  split at h
  · rename_i hnone
    cases hnone
  · obtain rfl := Except.ok.inj h
    cases hid
  · rename_i ids _ hids
    cases hids
    simp only [bind_eq_ok, pure_eq_ok] at h
    obtain ⟨bound, hbound, rfl⟩ := h
    simp only [selectVisibleAgentIds, mem_mergeSort, mem_map, mem_filter,
      Bool.and_eq_true, Option.all_some, any_eq_true, beq_iff_eq] at hid
    obtain ⟨row, ⟨-, -, boundId, hmem, rfl⟩, rfl⟩ := hid
    obtain ⟨raw, hraw, hbind⟩ := exists_of_mem_mapM hbound hmem
    have hraw := mem_of_mem_normalizeIdList hraw
    rw [eq_of_bindId hserverIds hallowlist hraw (require_eq_ok.mp hbind)]
    exact hraw

theorem visible_of_resolveQueryServerIds {targets : List String} {requested : Option String}
    {serverIds : Option (List String)} (hglobal : authHasGlobalServiceVisibility auth = false)
    (hchecks : Checks rt inv auth targets)
    (h : resolveQueryServerIds rt inv auth targets requested = .ok serverIds) :
    ∃ ids, serverIds = some ids ∧
      ∀ id ∈ ids, isCanonicalUuid id = true ∧ visibleServer rt inv auth id = true := by
  obtain ⟨allowlist, hallowlist⟩ := hchecks.allowlist
  simp only [resolveQueryServerIds, hglobal, Bool.false_eq_true, if_false, bind_eq_ok] at h
  obtain ⟨visible, hvisible, h⟩ := h
  have hallowed : ∀ id ∈ targets.filter fun serverId => visible.any (· == serverId),
      isCanonicalUuid id = true ∧ visibleServer rt inv auth id = true := by
    intro id hid
    simp only [mem_filter, any_eq_true, beq_iff_eq] at hid
    obtain ⟨htarget, _, hmem, rfl⟩ := hid
    refine ⟨hchecks.canonical _ htarget, ?_⟩
    obtain ⟨row, hrow, hrowId, agent, hdecode, hrevoked, howner⟩ := hchecks.agent _ htarget
    simp only [visibleServer, any_eq_true, Bool.and_eq_true, beq_iff_eq]
    refine ⟨row, hrow, hrowId, ?_⟩
    rw [hdecode, Option.any_some, hrevoked, Option.isNone_none, Bool.true_and, agentVisible,
      Bool.and_eq_true]
    refine ⟨?_, howner⟩
    have hlisted := allowed_of_mem_visible hallowlist hvisible hmem
    have htext : agent.id.text = row.id :=
      text_of_rowToAgent hdecode (hrowId ▸ hchecks.canonical _ htarget)
    rw [serverVisible, htext, hrowId]
    cases hserverIds : auth.serverIds with
    | none => rfl
    | some rawIds => exact any_eq_true.mpr ⟨_, hlisted rawIds hserverIds, beq_self_eq_true _⟩
  cases requested with
  | none =>
    obtain rfl := pure_eq_ok.mp h
    exact ⟨_, rfl, hallowed⟩
  | some =>
    simp only [bind_eq_ok, pure_eq_ok] at h
    obtain ⟨_, -, rfl⟩ := h
    exact ⟨_, rfl, fun id hid => hallowed id (mem_of_mem_filter hid)⟩

/-! ## Two contents of the tables -/

theorem filter_eq_of_filter_eq {α : Type} {p q : α → Bool} {l l' : List α}
    (himp : ∀ a, p a = true → q a = true) (h : l.filter q = l'.filter q) :
    l.filter p = l'.filter p := by
  have key : ∀ l : List α, (l.filter q).filter p = l.filter p := by
    intro l
    rw [filter_filter]
    refine filter_congr fun a _ => ?_
    cases hp : p a with
    | false => rfl
    | true => rw [himp a hp, Bool.and_self]
  rw [← key l, h, key l']

theorem ensureServiceVisibleToAuth_congr {service service' : ServiceResponse}
    (hid : service.id = service'.id) (hserverId : service.serverId = service'.serverId) :
    (attachServiceServerIds rt inv service >>= ensureServiceVisibleToAuth rt inv auth) =
      attachServiceServerIds rt inv service' >>= ensureServiceVisibleToAuth rt inv auth := by
  simp only [attachServiceServerIds, bind_assoc, hid]
  refine bind_congr_of_ok fun sid _ => ?_
  cases loadServiceServerIds inv sid with
  | nil =>
    simp only [pure_bind, ensureServiceVisibleToAuth, serviceVisibleToAuth,
      serviceEffectiveServerIds, hserverId]
  | cons =>
    simp only [pure_bind, ensureServiceVisibleToAuth, serviceVisibleToAuth,
      serviceEffectiveServerIds]

variable (results results' : List (ServiceResultRow b))

theorem ensureServiceIdVisibleToAuth_congr (serviceId : String) :
    ensureServiceIdVisibleToAuth rt ⟨inv, results⟩ auth serviceId =
      ensureServiceIdVisibleToAuth rt ⟨inv, results'⟩ auth serviceId := by
  simp only [ensureServiceIdVisibleToAuth, loadService, bind_assoc]
  refine bind_congr_of_ok fun id _ => bind_congr_of_ok fun sid _ =>
    bind_congr_of_ok fun row _ => ?_
  exact ensureServiceVisibleToAuth_congr rfl rfl

theorem ensureServiceHistoryVisibleToAuth_congr (serviceId : String) :
    ensureServiceHistoryVisibleToAuth rt ⟨inv, results⟩ auth serviceId =
      ensureServiceHistoryVisibleToAuth rt ⟨inv, results'⟩ auth serviceId := by
  simp only [ensureServiceHistoryVisibleToAuth, ensureServiceIdVisibleToAuth_congr results results']

def AgreeOnVisible (rt : Runtime) (inv : Inventory b) (auth : AuthSession)
    (results results' : List (ServiceResultRow b)) : Prop :=
  visibleResults rt ⟨inv, results⟩ auth = visibleResults rt ⟨inv, results'⟩ auth

variable {results results'}

theorem selectResults_congr {serviceId : String} {startBound endBound : Option (String × DateTime)}
    {ids : List String} (hagree : AgreeOnVisible rt inv auth results results')
    (hids : ∀ id ∈ ids, isCanonicalUuid id = true ∧ visibleServer rt inv auth id = true) :
    selectResults rt ⟨inv, results⟩ serviceId startBound endBound (some ids) =
      selectResults rt ⟨inv, results'⟩ serviceId startBound endBound (some ids) := by
  unfold selectResults
  refine bind_congr_of_ok fun sid _ => bind_congr_of_ok fun bound hbound => ?_
  obtain ⟨boundIds, hboundIds, rfl⟩ := map_eq_ok.mp hbound
  obtain rfl := bound_eq_self (fun id hid => (hids id hid).1) hboundIds
  refine congrArg pure (filter_eq_of_filter_eq (fun row hrow => ?_) hagree)
  simp only [matchesQuery, Bool.and_eq_true, Option.all_some] at hrow
  cases hserverId : row.serverId with
  | none => simp [hserverId] at hrow
  | some =>
    rw [hserverId, Option.any_some, any_eq_true] at hrow
    obtain ⟨-, _, hid, heq⟩ := hrow
    rw [Option.any_some, ← beq_iff_eq.mp heq]
    exact (hids _ hid).2

variable (hglobal : authHasGlobalServiceVisibility auth = false)
  (hagree : AgreeOnVisible rt inv auth results results')

include hglobal hagree

theorem listServiceHistoryForAuth_congr (now : DateTime) (serviceId : String)
    (query : HistoryQuery) (limit offset : ℤ) :
    listServiceHistoryForAuth rt ⟨inv, results⟩ now auth serviceId query limit offset =
      listServiceHistoryForAuth rt ⟨inv, results'⟩ now auth serviceId query limit offset := by
  unfold listServiceHistoryForAuth
  refine bind_congr_of_ok fun serviceId _ => ?_
  rw [ensureServiceHistoryVisibleToAuth_congr results results']
  refine bind_congr_of_ok fun targets htargets => bind_congr_of_ok fun limit _ =>
    bind_congr_of_ok fun offset _ => bind_congr_of_ok fun window _ =>
    bind_congr_of_ok fun requested _ => bind_congr_of_ok fun serverIds hserverIds => ?_
  have hchecks := checks_of_ensureServiceHistoryVisibleToAuth hglobal htargets
  obtain ⟨ids, rfl, hids⟩ := visible_of_resolveQueryServerIds hglobal hchecks hserverIds
  rw [selectResults_congr hagree hids]

theorem serviceUptimeForAuthWithServerFilter_congr (serviceId startTime endTime : String)
    (requestedServerId : Option String) :
    serviceUptimeForAuthWithServerFilter rt ⟨inv, results⟩ auth serviceId startTime endTime
        requestedServerId =
      serviceUptimeForAuthWithServerFilter rt ⟨inv, results'⟩ auth serviceId startTime endTime
        requestedServerId := by
  unfold serviceUptimeForAuthWithServerFilter
  refine bind_congr_of_ok fun serviceId _ => ?_
  rw [ensureServiceHistoryVisibleToAuth_congr results results']
  refine bind_congr_of_ok fun targets htargets => bind_congr_of_ok fun startBound _ =>
    bind_congr_of_ok fun endBound _ => bind_congr_of_ok fun _ _ =>
    bind_congr_of_ok fun requested _ => bind_congr_of_ok fun serverIds hserverIds => ?_
  have hchecks := checks_of_ensureServiceHistoryVisibleToAuth hglobal htargets
  obtain ⟨ids, rfl, hids⟩ := visible_of_resolveQueryServerIds hglobal hchecks hserverIds
  rw [selectResults_congr hagree hids]

omit hglobal hagree

/-- Results of servers outside the session's scope have no influence on its answers. -/
theorem history_determined_by_visible_results (rt : Runtime) (b : DatabaseBackend)
    (db db' : Tables b) (auth : AuthSession)
    (hglobal : authHasGlobalServiceVisibility auth = false)
    (hinventory : db.toInventory = db'.toInventory)
    (hvisible : visibleResults rt db auth = visibleResults rt db' auth)
    (now : DateTime) (serviceId : String) (query : HistoryQuery) :
    getServiceHistory rt db now auth serviceId query =
        getServiceHistory rt db' now auth serviceId query ∧
      getServiceUptime rt db now auth serviceId query =
        getServiceUptime rt db' now auth serviceId query := by
  obtain ⟨inv, results⟩ := db
  obtain ⟨inv', results'⟩ := db'
  obtain rfl : inv = inv' := hinventory
  constructor
  · simp only [getServiceHistory, ensureServiceHistoryVisibleToAuth_congr results results',
      listServiceHistoryForAuth_congr hglobal hvisible]
  · simp only [getServiceUptime, ensureServiceHistoryVisibleToAuth_congr results results',
      serviceUptimeForAuthWithServerFilter_congr hglobal hvisible]

section Sample

private def sampleTimes : List (String × DateTime) :=
  [("2025-12-03T00:00:00+00:00", seconds 1764720000),
    ("2026-01-01T00:00:00+00:00", seconds 1767225600),
    ("2026-01-02T00:00:00+00:00", seconds 1767312000)]

private def sampleRuntime : Runtime where
  jsonStringArray := fun _ => none
  rfc3339 := fun text => sampleTimes.lookup text
  toRfc3339 := fun t => ((sampleTimes.find? (·.2 == t)).map (·.1)).getD ""
  timestamptzText := fun _ => ""
  uuidError := fun _ => ""
  avg := fun delays => Float.ofInt (delays.map Int32.toInt).sum / Float.ofNat delays.length
  redactServiceErrorUrls := id

private def sampleMember : AuthSession where
  sessionId := "session"
  userId := ⟨"00000000-0000-0000-0000-000000000001", by decide⟩
  username := "member"
  role := .member
  csrfToken := ""
  authKind := .session
  scopes := []
  serverIds := none
  patId := none

private def sampleAgent (id ownerUserId : String) : AgentRow .sqlite where
  id := id
  ownerUserId := ownerUserId
  lastSeenAt := none
  revokedAt := none
  createdAt := "2026-01-01T00:00:00+00:00"
  updatedAt := "2026-01-01T00:00:00+00:00"

private def ownServer : String := "00000000-0000-0000-0000-00000000000a"
private def foreignServer : String := "00000000-0000-0000-0000-00000000000b"
private def sampleService : String := "00000000-0000-0000-0000-000000000005"

private def sampleInventory : Inventory .sqlite where
  agents := [sampleAgent ownServer "00000000-0000-0000-0000-000000000001",
    sampleAgent foreignServer "00000000-0000-0000-0000-000000000002"]
  services := [⟨sampleService, some "00000000-0000-0000-0000-000000000001", some "specific", none,
    none⟩]
  serviceServers := [⟨sampleService, ownServer, "2026-01-01T00:00:00+00:00"⟩]

private def sampleResult (id serverId status : String) : ServiceResultRow .sqlite where
  id := id
  serviceId := sampleService
  serverId := some serverId
  status := status
  delayMs := some 20
  statusCode := some 200
  error := none
  certFingerprint := none
  certNotAfter := none
  createdAt := "2026-01-01T00:00:00+00:00"

theorem history_determined_by_visible_results_member :
    let db : Tables .sqlite := ⟨sampleInventory, [sampleResult "1" ownServer "success"]⟩
    let db' : Tables .sqlite := ⟨sampleInventory,
      [sampleResult "2" foreignServer "failure", sampleResult "1" ownServer "success"]⟩
    visibleResults sampleRuntime db sampleMember = db.serviceResults ∧
    (getServiceHistory sampleRuntime db (seconds 1767312000) sampleMember sampleService
      {}).toOption.map (fun answer => answer.results.map (·.id)) = some ["1"] ∧
    getServiceHistory sampleRuntime db (seconds 1767312000) sampleMember sampleService {} =
      getServiceHistory sampleRuntime db' (seconds 1767312000) sampleMember sampleService {} ∧
    getServiceUptime sampleRuntime db (seconds 1767312000) sampleMember sampleService {} =
      getServiceUptime sampleRuntime db' (seconds 1767312000) sampleMember sampleService {} := by
  intro db db'
  have hown : visibleServer sampleRuntime sampleInventory sampleMember ownServer = true := by
    decide +kernel
  have hforeign : visibleServer sampleRuntime sampleInventory sampleMember foreignServer =
      false := by decide +kernel
  have hdb : visibleResults sampleRuntime db sampleMember = db.serviceResults := by
    simp [visibleResults, db, sampleResult, hown]
  refine ⟨hdb, by decide +kernel, ?_⟩
  refine history_determined_by_visible_results sampleRuntime .sqlite db db' sampleMember rfl rfl ?_
    (seconds 1767312000) sampleService {}
  simp [visibleResults, db, db', sampleResult, hown, hforeign]

end Sample

end XLStatus.Services
