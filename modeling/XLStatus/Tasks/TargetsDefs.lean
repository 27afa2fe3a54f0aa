import XLStatus.Agent.ConfigDefs
import XLStatus.Auth.TotpDefs
import XLStatus.Shared.AgentJson

/-! The servers a task is sent to: its selector, the tags of an agent, and the resolution of
the selector against the tables. -/

namespace XLStatus.Tasks

open Auth Shared
open Agent (Json)

inductive CoverMode where
  | all
  | any
  | specific
  deriving DecidableEq, Repr

structure ServerSelector where
  serverIds : List String := []
  excludeServerIds : List String := []
  groupIds : List String := []
  tagNames : List String := []
  tags : HashMap String String := ∅
  sourceServer : Bool := false

/-- What the resolution uses of libraries: `serde_json::from_str`, the lower-case mapping, and
the order in which a hash set with the given elements is iterated. -/
structure Runtime where
  fromStr : String → Option Json
  toLowercase : String → String
  iterate : List String → List String
  iterate_perm : ∀ elements, (iterate elements).Perm elements.dedup

structure AgentRow where
  id : String
  name : String
  ownerUserId : String
  revoked : Bool
  createdAt : DateTime
  dashboardMetadataJson : Option String
  lastInfoJson : Option String
  lastStateJson : Option String

structure ServerGroup where
  id : String
  ownerUserId : String

structure ServerGroupMember where
  groupId : String
  agentId : String
  createdAt : DateTime

structure Tables where
  backend : DatabaseBackend
  agents : List AgentRow
  primaryKey : (agents.map (·.id)).Nodup
  serverGroups : List ServerGroup
  serverGroupMembers : List ServerGroupMember

def bindId : DatabaseBackend → String → Option String
  | .sqlite, text => some text
  | .postgres, text => (parseUuid text).map (·.1)

structure AgentSelectorRecord where
  id : String
  name : String
  dashboardMetadataJson : Option String
  lastInfoJson : Option String
  lastStateJson : Option String

def AgentRow.selectorRecord (row : AgentRow) : AgentSelectorRecord where
  id := row.id
  name := row.name
  dashboardMetadataJson :=
    row.dashboardMetadataJson.filter (Text.len · ≤ agentDashboardMetadataJsonMaxBytes)
  lastInfoJson := row.lastInfoJson.filter (Text.len · ≤ agentTelemetryJsonMaxBytes)
  lastStateJson := row.lastStateJson.filter (Text.len · ≤ agentTelemetryJsonMaxBytes)

inductive ResolveError where
  | uuid
  deriving DecidableEq

def listOwnedAgentRecords (db : Tables) (ownerUserId : String) :
    Except ResolveError (List AgentSelectorRecord) :=
  match bindId db.backend ownerUserId with
  | none => .error .uuid
  | some owner =>
    let rows := db.agents.filter fun row => row.ownerUserId = owner && !row.revoked
    .ok ((rows.mergeSort fun a b => a.createdAt ≤ b.createdAt).map AgentRow.selectorRecord)

def selectGroupMembers (db : Tables) (owner groupId : String) : List String :=
  (db.serverGroupMembers.mergeSort fun a b => a.createdAt ≤ b.createdAt).flatMap fun sgm =>
    (db.serverGroups.filter fun sg =>
        sg.id = sgm.groupId && sg.id = groupId && sg.ownerUserId = owner).flatMap fun _ =>
      (db.agents.filter fun a =>
        a.id = sgm.agentId && a.ownerUserId = owner && !a.revoked).map fun _ => sgm.agentId

def listGroupAgentIds (db : Tables) (ownerUserId : String) (groupIds : List String) :
    Except ResolveError (List String) :=
  if groupIds.isEmpty then .ok []
  else match bindId db.backend ownerUserId with
    | none => .error .uuid
    | some owner => .ok (groupIds.flatMap fun text =>
        match bindId db.backend text with
        | none => []
        | some groupId => selectGroupMembers db owner groupId)

section Tags

variable (rt : Runtime)

def normalizeTagFilter (value : String) : Option String :=
  let trimmed := rt.toLowercase (String.ofList ((Text.trim value).toList.dropWhile (· == '#')))
  if trimmed = "" then none else some trimmed

def eqIgnoreAsciiCase (a b : String) : Bool :=
  a.toList.map Char.toLower == b.toList.map Char.toLower

def pairFilters (key value : String) : List String :=
  let key := Text.trim key
  let value := Text.trim value
  if value = "" || value = "*" || eqIgnoreAsciiCase value "true" then
    (normalizeTagFilter rt key).toList
  else (normalizeTagFilter rt value).toList ++ (normalizeTagFilter rt (key ++ ":" ++ value)).toList

def normalizedSelectorTags (selector : ServerSelector) : List String :=
  (selector.tagNames.filterMap (normalizeTagFilter rt) ++
    selector.tags.entries.flatMap fun entry => pairFilters rt entry.1 entry.2).eraseDups

def jsonGet (value : Json) (key : String) : Option Json :=
  value.asObject.bind (·.lookup key)

def tagsFromJsonValue : Json → List String
  | .array items => items.filterMap Json.asStr
  | .string value => ((Text.split value ',').map Text.trim).filter (· ≠ "")
  | .object fields => fields.flatMap fun (key, value) =>
    match value.asStr with
    | some label => [label, key ++ ":" ++ label]
    | none => if value.asBool = some true then [key] else []
  | _ => []

def tagsFromJsonSource (value : Json) : List String :=
  let ofKeys (value : Json) : List String :=
    ["tags", "labels"].flatMap fun key => (jsonGet value key).elim [] tagsFromJsonValue
  ofKeys value ++
    ["metadata", "custom"].flatMap fun container => (jsonGet value container).elim [] ofKeys

def agentTags (record : AgentSelectorRecord) : List String :=
  let sources := [parseDashboardMetadataJson rt.fromStr record.dashboardMetadataJson,
    parseAgentTelemetryJson rt.fromStr record.lastInfoJson,
    parseAgentTelemetryJson rt.fromStr record.lastStateJson]
  ((sources.filterMap id).flatMap tagsFromJsonSource).filterMap (normalizeTagFilter rt) ++
    (normalizeTagFilter rt record.name).toList

def agentMatchesTagFilters (record : AgentSelectorRecord) (filters : List String) : Bool :=
  let tags := agentTags rt record
  filters.all (· ∈ tags)

end Tags

def ServerSelector.hasIncludeSelector (selector : ServerSelector) : Bool :=
  selector.sourceServer || !selector.serverIds.isEmpty || !selector.groupIds.isEmpty

def applyTagFilters (rt : Runtime) (records : List AgentSelectorRecord) (selector : ServerSelector)
    (coverMode : CoverMode) (candidates : List String) : List String :=
  let tagFilters := normalizedSelectorTags rt selector
  if !tagFilters.isEmpty then
    let tagMatched := (records.filter (agentMatchesTagFilters rt · tagFilters)).map (·.id)
    if selector.hasIncludeSelector then candidates.filter (· ∈ tagMatched)
    else candidates ++ rt.iterate tagMatched
  else if !selector.hasIncludeSelector && (coverMode = .all || coverMode = .any) then
    candidates ++ records.map (·.id)
  else candidates

def resolveServerIds (rt : Runtime) (db : Tables) (selector : ServerSelector)
    (coverMode : CoverMode) (ownerUserId : String) (sourceAgentId : Option String) :
    Except ResolveError (List String) := do
  let records ← listOwnedAgentRecords db ownerUserId
  let ownedIds := records.map (·.id)
  let source :=
    if selector.sourceServer then sourceAgentId.toList.filter (· ∈ ownedIds) else []
  let listed := selector.serverIds.filter (· ∈ ownedIds)
  let grouped ← listGroupAgentIds db ownerUserId selector.groupIds
  let candidates := applyTagFilters rt records selector coverMode (source ++ listed ++ grouped)
  -- the loop keeps the first occurrence of what is owned and not excluded
  let resolved := (candidates.filter fun id =>
    !(selector.excludeServerIds.contains id || !ownedIds.contains id)).eraseDups
  return if coverMode = .any then resolved.take 1 else resolved

end XLStatus.Tasks
