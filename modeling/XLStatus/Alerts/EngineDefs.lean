import XLStatus.Auth.TotpDefs

/-! The alert engine: what one tick does for each rule that is loaded, the state it keeps
in memory and the events it writes to `alert_events`. -/

namespace XLStatus.Alerts

open Shared Auth

inductive TriggerMode where
  | always
  | once
  deriving DecidableEq, Repr

inductive ResourceType where
  | cpu | memory | disk | network | networkIn | networkOut | networkTotal | trafficInTotal
  | trafficOutTotal | load | load5 | load15 | swap | tcp | udp | process | temperature | gpu
  deriving DecidableEq, Repr

inductive TrafficQuotaDirection where
  | total | inbound | outbound
  deriving DecidableEq, Repr

inductive Operator where
  | gt | lt | gte | lte
  deriving DecidableEq, Repr

/-- A condition; a finite `f64` is the rational number it stands for. -/
inductive AlertCondition where
  | serviceDown (serviceId : String) (consecutiveFailures : UInt32)
  | serviceLatency (serviceId : String) (maxLatencyMs : Int32)
  | certificateExpiry (serviceId : String) (daysBefore : ℤ)
  | serverExpiry (agentId : String) (daysBefore : ℤ)
  | serverTrafficQuota (agentId : String) (percent : ℚ) (direction : TrafficQuotaDirection)
  | serverOffline (agentId : String) (offlineSeconds : UInt64)
  | serverResource (agentId : String) (resource : ResourceType) (operator : Operator)
      (threshold : ℚ) (durationSeconds : UInt64)
  deriving DecidableEq

structure AlertRule where
  id : String
  ownerUserId : String
  name : String
  enabled : Bool
  triggerMode : TriggerMode
  conditions : List AlertCondition
  deriving DecidableEq

def conditionAgentId : AlertCondition → Option String
  | .serverExpiry agentId _ | .serverTrafficQuota agentId _ _ | .serverOffline agentId _
  | .serverResource agentId _ _ _ _ => some agentId
  | .serviceDown _ _ | .serviceLatency _ _ | .certificateExpiry _ _ => none

def inferConditionAgentId (found : Option String) : List AlertCondition → Option String
  | [] => found
  | condition :: conditions => match conditionAgentId condition, found with
    | none, _ => inferConditionAgentId found conditions
    | some agentId, some existing =>
      if existing ≠ agentId then none else inferConditionAgentId found conditions
    | some agentId, none => inferConditionAgentId (some agentId) conditions

abbrev Uuid := { text : String // isCanonicalUuid text = true }

/-- What the database answers to the ownership queries of one check: no row, or the owner
column, which is nullable for services. -/
structure Owners where
  service : Uuid → Except String (Option (Option String))
  agent : Uuid → Except String (Option (Option String))

def belongsToOwner (lookup : Uuid → Except String (Option (Option String)))
    (resourceId ownerUserId : String) : Except String Bool :=
  match parseUuid (Text.trim ownerUserId), parseUuid (Text.trim resourceId) with
  | none, _ | some _, none => .ok false
  | some owner, some resource => match lookup resource with
    | .error e => .error e
    | .ok row => .ok (row.join.bind (fun text => parseUuid (Text.trim text)) == some owner)

def serviceBelongsToOwner (owners : Owners) (serviceId ownerUserId : String) :
    Except String Bool :=
  belongsToOwner owners.service serviceId ownerUserId

def agentBelongsToOwner (owners : Owners) (agentId ownerUserId : String) : Except String Bool :=
  belongsToOwner owners.agent agentId ownerUserId

def conditionBelongsToRuleOwner (owners : Owners) (rule : AlertRule) :
    AlertCondition → Except String Bool
  | .serviceDown serviceId _ | .serviceLatency serviceId _ | .certificateExpiry serviceId _ =>
    serviceBelongsToOwner owners serviceId rule.ownerUserId
  | .serverExpiry agentId _ | .serverTrafficQuota agentId _ _ | .serverOffline agentId _
  | .serverResource agentId _ _ _ _ => agentBelongsToOwner owners agentId rule.ownerUserId

abbrev Instant := ℕ

def fromSecs (n : ℕ) : ℕ := n * 1000000000

structure AlertState where
  ruleId : String
  isActive : Bool
  lastFiredAt : Option DateTime
  lastAlwaysFireAt : Option Instant
  deriving DecidableEq

inductive EventKind where
  | fired
  | recovered
  deriving DecidableEq, Repr

structure EventPayload where
  ruleId : String
  ruleName : String
  kind : EventKind
  agentId : Option String
  firedAt : DateTime
  deriving DecidableEq

/-- A row of `alert_events`. The instant at which `fired_at` was read is kept with it: the
wall clock can be set, the time between two events is the time between their instants. -/
structure AlertEvent where
  ruleId : String
  agentId : Option String
  kind : EventKind
  payload : EventPayload
  firedAt : DateTime
  instant : Instant
  deriving DecidableEq

/-- The engine and its table; `windows` is what the evaluation of conditions keeps. -/
structure AlertEngine (W : Type) where
  states : HashMap String AlertState
  windows : W
  events : List AlertEvent
  clock : Instant

def AlertEngine.new {W : Type} (windows : W) (clock : Instant) : AlertEngine W :=
  ⟨∅, windows, [], clock⟩

/-- What one call of `evaluate_rule` meets. The database can answer differently to each
condition, and a check can change the windows whether it succeeds or not. -/
structure Tick (W : Type) where
  owners : ℕ → Owners
  check : ℕ → AlertCondition → W → Except String Bool × W
  sourceOwners : Owners
  insert : Except String Unit
  /-- The wall clock when the event is made and when the state is. -/
  firedAt : DateTime
  recordedAt : DateTime
  /-- The time that passes until the throttle is looked at, until the event is made and
  until the state is. -/
  untilCheck : ℕ
  untilFired : ℕ
  untilRecorded : ℕ

variable {W : Type}

namespace Tick

def checked (tick : Tick W) (start : Instant) : Instant := start + tick.untilCheck

def fired (tick : Tick W) (start : Instant) : Instant := tick.checked start + tick.untilFired

def recorded (tick : Tick W) (start : Instant) : Instant :=
  tick.fired start + tick.untilRecorded

end Tick

structure Scan where
  anyTriggered : Bool
  sourceAgentId : Option String
  trustedConditions : List AlertCondition
  deriving DecidableEq

def scanConditions (rule : AlertRule) (tick : Tick W) (trusted : List AlertCondition) (i : ℕ) :
    List AlertCondition → W → Except String Scan × W
  | [], windows => (.ok ⟨false, none, trusted⟩, windows)
  | c :: conditions, windows =>
    match conditionBelongsToRuleOwner (tick.owners i) rule c with
    | .error e => (.error e, windows)
    | .ok false => scanConditions rule tick trusted (i + 1) conditions windows
    | .ok true => match tick.check i c windows with
      | (.error e, windows) => (.error e, windows)
      | (.ok true, windows) => (.ok ⟨true, conditionAgentId c, trusted ++ [c]⟩, windows)
      | (.ok false, windows) =>
        scanConditions rule tick (trusted ++ [c]) (i + 1) conditions windows

section Database

variable (db : DatabaseBackend)

def bindIds (ruleId : String) (agentId : Option String) : Except String Unit :=
  match db with
  | .sqlite => .ok ()
  | .postgres =>
    if (parseUuid ruleId).isNone then .error "invalid alert rule id"
    else if agentId.any fun text => (parseUuid text).isNone then
      .error "invalid alert source agent id"
    else .ok ()

def trustedSourceAgentId (rule : AlertRule) (tick : Tick W) (sourceAgentId : Option String) :
    Except String (Option String) :=
  match sourceAgentId with
  | none => .ok none
  | some agentId => match agentBelongsToOwner tick.sourceOwners agentId rule.ownerUserId with
    | .error e => .error e
    | .ok true => .ok (some agentId)
    | .ok false => .ok none

def insertedEvent (rule : AlertRule) (tick : Tick W) (start : Instant) (kind : EventKind)
    (sourceAgentId : Option String) : Except String AlertEvent := do
  let agentId ← trustedSourceAgentId rule tick sourceAgentId
  bindIds db rule.id agentId
  tick.insert
  return { ruleId := rule.id, agentId, kind
           payload := ⟨rule.id, rule.name, kind, agentId, tick.firedAt⟩
           firedAt := db.stored tick.firedAt, instant := tick.fired start }

def AlertEngine.fire (engine : AlertEngine W) (rule : AlertRule) (tick : Tick W)
    (start : Instant) (kind : EventKind) (sourceAgentId : Option String) :
    Except String Unit × AlertEngine W :=
  match insertedEvent db rule tick start kind sourceAgentId with
  | .error e => (.error e, engine)
  | .ok event => (.ok (), { engine with events := engine.events ++ [event] })

def AlertEngine.isActive (engine : AlertEngine W) (ruleId : String) : Bool :=
  ((engine.states.lookup ruleId).map (·.isActive)).getD false

def AlertEngine.throttleOk (engine : AlertEngine W) (ruleId : String) (now : Instant) : Bool :=
  match (engine.states.lookup ruleId).bind (·.lastAlwaysFireAt) with
  | some t => fromSecs 60 ≤ now - t
  | none => true

def AlertEngine.fireAndRecord (engine : AlertEngine W) (rule : AlertRule) (tick : Tick W)
    (start : Instant) (kind : EventKind) (sourceAgentId : Option String) (state : AlertState) :
    AlertEngine W :=
  match engine.fire db rule tick start kind sourceAgentId with
  | (.error _, engine) => engine
  | (.ok (), engine) => { engine with states := engine.states.insert rule.id state }

def AlertEngine.react (engine : AlertEngine W) (rule : AlertRule) (tick : Tick W)
    (start : Instant) (scan : Scan) : AlertEngine W :=
  let source := scan.sourceAgentId.or (inferConditionAgentId none scan.trustedConditions)
  let recovered : AlertState := ⟨rule.id, false, none, none⟩
  match rule.triggerMode with
  | .once =>
    if scan.anyTriggered && !engine.isActive rule.id then
      engine.fireAndRecord db rule tick start .fired source
        ⟨rule.id, true, some tick.recordedAt, none⟩
    else if !scan.anyTriggered && engine.isActive rule.id then
      engine.fireAndRecord db rule tick start .recovered source recovered
    else engine
  | .always =>
    if scan.anyTriggered then
      if engine.throttleOk rule.id (tick.checked start) then
        engine.fireAndRecord db rule tick start .fired source
          ⟨rule.id, true, some tick.recordedAt, some (tick.recorded start)⟩
      else engine
    else if engine.isActive rule.id then
      engine.fireAndRecord db rule tick start .recovered source recovered
    else engine

def AlertEngine.evaluateRule (engine : AlertEngine W) (rule : AlertRule) (tick : Tick W) :
    AlertEngine W :=
  let (scanned, windows) := scanConditions rule tick [] 0 rule.conditions engine.windows
  let start := engine.clock
  let engine := { engine with windows, clock := tick.recorded start }
  match scanned with
  | .error _ => engine
  | .ok scan =>
    if scan.trustedConditions.isEmpty then
      { engine with states := engine.states.erase rule.id }
    else engine.react db rule tick start scan

def AlertEngine.evaluateLoaded (engine : AlertEngine W) (rules : List (AlertRule × Tick W)) :
    AlertEngine W :=
  rules.foldl
    (fun engine (rule, tick) => if rule.enabled then engine.evaluateRule db rule tick else engine)
    engine

def AlertEngine.evaluateAll (engine : AlertEngine W)
    (loaded : Except String (List (AlertRule × Tick W))) : AlertEngine W :=
  match loaded with
  | .error _ => engine
  | .ok rules =>
    let activeRuleIds := (rules.filter (·.1.enabled)).map (·.1.id)
    let states := engine.states.retain fun ruleId _ => ruleId ∈ activeRuleIds
    AlertEngine.evaluateLoaded db { engine with states } rules

end Database

end XLStatus.Alerts
