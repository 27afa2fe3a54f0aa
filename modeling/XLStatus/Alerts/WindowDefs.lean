import XLStatus.Alerts.EngineDefs
import XLStatus.Shared.Messages

/-! Conditions on the resources of a server: the values read from its telemetry, the windows
that a condition with a duration keeps, and the engine with the table of rules around it. -/

namespace XLStatus.Alerts

open Shared Auth

inductive Num (F : Type) where
  | posInt (n : UInt64)
  | negInt (n : Int64)
  | float (x : F)

inductive Value (F : Type) where
  | null
  | bool (b : Bool)
  | number (n : Num F)
  | string (s : String)
  | array (items : List (Value F))
  | object (fields : List (String × Value F))

/-- The arithmetic of `f64`; a threshold is the rational number it stands for. -/
structure Float64 (F : Type) where
  ofInt : ℤ → F
  ofRat : ℚ → F
  parse : String → Option F
  display : ℚ → String
  isFinite : F → Bool
  add : F → F → F
  mul : F → F → F
  div : F → F → F
  lt : F → F → Bool
  le : F → F → Bool

variable {F : Type}

namespace Value

def get (value : Value F) (key : String) : Option (Value F) :=
  match value with
  | .object fields => fields.lookup key
  | _ => none

def asArray : Value F → Option (List (Value F))
  | .array items => some items
  | _ => none

def asF64 (f : Float64 F) : Value F → Option F
  | .number (.posInt n) => some (f.ofInt n.toNat)
  | .number (.negInt n) => some (f.ofInt n.toInt)
  | .number (.float x) => some x
  | _ => none

end Value

section Telemetry

variable (f : Float64 F)

def jsonF64 (value : Value F) : Option F :=
  match value.asF64 f with
  | some x => if f.isFinite x then some x else none
  | none => match value with
    | .string s => (f.parse (Text.trim s)).filter f.isFinite
    | _ => none

def jsonU64 : Value F → Option UInt64
  | .number (.posInt n) => some n
  | .string s => (Text.parseUsize (Text.trim s)).map UInt64.ofNat
  | _ => none

def jsonF64ByKeys (state : Value F) (keys : List String) : Option F :=
  keys.findSome? fun key => (state.get key).bind (jsonF64 f)

def maxBy (xs : List F) : Option F :=
  xs.foldl (fun best x => match best with
    | none => some x
    | some b => if f.lt x b then some b else some x) none

def maxArrayNumber (state : Value F) (arrayKey : String) (keys : List String) : Option F := do
  let items ← (state.get arrayKey).bind Value.asArray
  maxBy f (items.filterMap fun item => jsonF64ByKeys f item keys)

def networkTotalByField (state : Value F) (field : String) : Option UInt64 :=
  let directKeys := match field with
    | "bytes_recv" => ["network_in_total", "net_rx_bytes", "bytes_recv_total"]
    | "bytes_sent" => ["network_out_total", "net_tx_bytes", "bytes_sent_total"]
    | _ => []
  match directKeys.findSome? fun key => (state.get key).bind jsonU64 with
  | some value => some value
  | none => ((state.get "net_io").bind Value.asArray).map fun nics =>
    nics.foldl (fun total nic => saturatingAdd total (((nic.get field).bind jsonU64).getD 0)) 0

def networkTotalBytes (state : Value F) : Option UInt64 :=
  let recv := (networkTotalByField state "bytes_recv").getD 0
  let sent := (networkTotalByField state "bytes_sent").getD 0
  if 0 < recv ∨ 0 < sent then some (saturatingAdd recv sent) else none

def percentOf (used total : F) : Option F :=
  if f.lt (f.ofInt 0) total then some (f.mul (f.div used total) (f.ofInt 100)) else none

def networkIn (state : Value F) : Option F :=
  jsonF64ByKeys f state ["net_rx_bps", "network_in_speed", "network_rx_bps", "rx_bps"]

def networkOut (state : Value F) : Option F :=
  jsonF64ByKeys f state ["net_tx_bps", "network_out_speed", "network_tx_bps", "tx_bps"]

def resourceValue (state : Value F) : ResourceType → Option F
  | .cpu => (state.get "cpu_percent").bind (Value.asF64 f)
  | .memory => do
    let used ← (state.get "memory_used").bind (Value.asF64 f)
    let total ← (state.get "memory_total").bind (Value.asF64 f)
    percentOf f used total
  | .disk => do
    let disks ← (state.get "disks").bind Value.asArray
    let (used, total) := disks.foldl (fun (used, total) d =>
      match (d.get "used").bind (Value.asF64 f), (d.get "total").bind (Value.asF64 f) with
      | some u, some t => (f.add used u, f.add total t)
      | _, _ => (used, total)) (f.ofInt 0, f.ofInt 0)
    percentOf f used total
  | .network => (networkTotalBytes state).map fun bytes => f.ofInt bytes.toNat
  | .networkIn => networkIn f state
  | .networkOut => networkOut f state
  | .networkTotal =>
    let rx := (networkIn f state).getD (f.ofInt 0)
    let tx := (networkOut f state).getD (f.ofInt 0)
    if f.lt (f.ofInt 0) rx || f.lt (f.ofInt 0) tx then some (f.add rx tx) else none
  | .trafficInTotal => (networkTotalByField state "bytes_recv").map fun n => f.ofInt n.toNat
  | .trafficOutTotal => (networkTotalByField state "bytes_sent").map fun n => f.ofInt n.toNat
  | .load => (state.get "load_1").bind (Value.asF64 f)
  | .load5 => jsonF64ByKeys f state ["load_5", "load5"]
  | .load15 => jsonF64ByKeys f state ["load_15", "load15"]
  | .swap => (jsonF64ByKeys f state ["swap_percent", "swap_usage"]).or do
    let used ← jsonF64ByKeys f state ["swap_used"]
    let total ← jsonF64ByKeys f state ["swap_total"]
    percentOf f used total
  | .tcp => jsonF64ByKeys f state ["tcp_connections", "tcp_conn_count", "tcp_count"]
  | .udp => jsonF64ByKeys f state ["udp_connections", "udp_conn_count", "udp_count"]
  | .process => jsonF64ByKeys f state ["process_count", "processes", "processes_count"]
  | .temperature => ((jsonF64ByKeys f state ["temperature", "cpu_temp", "max_temp", "temp"]).or
      (maxArrayNumber f state "temperatures" ["value", "temperature", "temp"])).or
      (maxArrayNumber f state "components" ["temperature", "temp"])
  | .gpu => (jsonF64ByKeys f state ["gpu_percent", "gpu_usage", "gpu_utilization"]).or
      (maxArrayNumber f state "gpus" ["utilization", "usage", "gpu_percent"])

def Operator.compare (left right : F) : Operator → Bool
  | .gt => f.lt right left
  | .lt => f.lt left right
  | .gte => f.le right left
  | .lte => f.le left right

end Telemetry

structure TrafficWindow where
  bytes : UInt64
  sampledAt : DateTime
  lastResult : Bool

structure Windows where
  conditionWindows : HashMap String DateTime
  trafficWindows : HashMap String TrafficWindow

def numSeconds (n : ℤ) : ℤ := n.tdiv 1000000000

def asI64 (n : UInt64) : ℤ := if n.toNat < 2 ^ 63 then n.toNat else n.toNat - 2 ^ 64

def ResourceType.debug : ResourceType → String
  | .cpu => "Cpu" | .memory => "Memory" | .disk => "Disk" | .network => "Network"
  | .networkIn => "NetworkIn" | .networkOut => "NetworkOut" | .networkTotal => "NetworkTotal"
  | .trafficInTotal => "TrafficInTotal" | .trafficOutTotal => "TrafficOutTotal"
  | .load => "Load" | .load5 => "Load5" | .load15 => "Load15" | .swap => "Swap" | .tcp => "Tcp"
  | .udp => "Udp" | .process => "Process" | .temperature => "Temperature" | .gpu => "Gpu"

def Operator.debug : Operator → String
  | .gt => "Gt" | .lt => "Lt" | .gte => "Gte" | .lte => "Lte"

def applyDurationWindow (windows : Windows) (key : String) (triggered : Bool)
    (durationSeconds : UInt64) (now : DateTime) : Bool × Windows :=
  if !triggered then
    (false, { windows with conditionWindows := windows.conditionWindows.erase key })
  else if durationSeconds = 0 then (true, windows)
  else
    let firstSeen := (windows.conditionWindows.lookup key).getD now
    (decide (asI64 durationSeconds ≤ numSeconds (now - firstSeen)),
      { windows with conditionWindows := windows.conditionWindows.insert key firstSeen })

section Checks

variable (f : Float64 F)

def checkNetworkWindow (windows : Windows) (key : String) (state : Value F) (operator : Operator)
    (threshold : ℚ) (durationSeconds : UInt64) (now : DateTime) : Bool × Windows :=
  match networkTotalBytes state with
  | none => (false, { windows with trafficWindows := windows.trafficWindows.erase key })
  | some bytes => match windows.trafficWindows.lookup key with
    | none => (false, { windows with
        trafficWindows := windows.trafficWindows.insert key ⟨bytes, now, false⟩ })
    | some window =>
      if max (numSeconds (now - window.sampledAt)) 0 < durationSeconds.toNat then
        (window.lastResult, windows)
      else
        let delta := f.ofInt (bytes.toNat - window.bytes.toNat : ℕ)
        let triggered := operator.compare f delta (f.ofRat threshold)
        (triggered, { windows with
          trafficWindows := windows.trafficWindows.insert key ⟨bytes, now, triggered⟩ })

def windowKey (agentId : String) (resource : ResourceType) (operator : Operator) (threshold : ℚ)
    (durationSeconds : UInt64) : String :=
  "resource:" ++ agentId ++ ":" ++ resource.debug ++ ":" ++ operator.debug ++ ":" ++
    f.display threshold ++ ":" ++ toString durationSeconds.toNat

def checkResourceCondition (latest : HashMap String (Value F)) (windows : Windows)
    (agentId : String) (resource : ResourceType) (operator : Operator) (threshold : ℚ)
    (durationSeconds : UInt64) (now : DateTime) : Bool × Windows :=
  match latest.lookup agentId with
  | none => (false, windows)
  | some state =>
    let key := windowKey f agentId resource operator threshold durationSeconds
    if resource = .network ∧ 0 < durationSeconds then
      checkNetworkWindow f windows key state operator threshold durationSeconds now
    else match resourceValue f state resource with
      | none => (false, { windows with conditionWindows := windows.conditionWindows.erase key })
      | some value => applyDurationWindow windows key (operator.compare f value (f.ofRat threshold))
          durationSeconds now

def checkCondition (latest : HashMap String (Value F)) (answer : Except String Bool)
    (now : DateTime) (windows : Windows) : AlertCondition → Except String Bool × Windows
  | .serverResource agentId resource operator threshold durationSeconds =>
    let (triggered, windows) := checkResourceCondition f latest windows agentId resource operator
      threshold durationSeconds now
    (.ok triggered, windows)
  | _ => (answer, windows)

end Checks

def alertMaxNameBytes : ℕ := 128
def alertMaxConditions : ℕ := 32
def alertMaxConsecutiveFailures : UInt32 := 100
def alertMaxLatencyMs : Int32 := 86400000
def alertMaxDaysBefore : ℤ := 3650
def alertMaxOfflineSeconds : UInt64 := 31536000
def alertMaxResourceDurationSeconds : UInt64 := 31536000
def alertMaxTrafficPercent : ℚ := 1000000
def alertMaxResourceThreshold : ℚ := 1000000000000

def requireCanonicalUuid (value : String) : Option String :=
  if isCanonicalUuid (Text.trim value) then some (Text.trim value) else none

def validRuntimeCondition : AlertCondition → Bool
  | .serviceDown serviceId failures => (requireCanonicalUuid serviceId).isSome &&
    decide (failures ≠ 0 ∧ failures ≤ alertMaxConsecutiveFailures)
  | .serviceLatency serviceId maxLatencyMs => (requireCanonicalUuid serviceId).isSome &&
    decide (0 < maxLatencyMs ∧ maxLatencyMs ≤ alertMaxLatencyMs)
  | .certificateExpiry id daysBefore | .serverExpiry id daysBefore =>
    (requireCanonicalUuid id).isSome && decide (0 ≤ daysBefore ∧ daysBefore ≤ alertMaxDaysBefore)
  | .serverTrafficQuota agentId percent _ => (requireCanonicalUuid agentId).isSome &&
    decide (0 < percent ∧ percent ≤ alertMaxTrafficPercent)
  | .serverOffline agentId offlineSeconds => (requireCanonicalUuid agentId).isSome &&
    decide (offlineSeconds ≠ 0 ∧ offlineSeconds ≤ alertMaxOfflineSeconds)
  | .serverResource agentId _ _ threshold durationSeconds =>
    (requireCanonicalUuid agentId).isSome &&
      decide (|threshold| ≤ alertMaxResourceThreshold ∧
        durationSeconds ≤ alertMaxResourceDurationSeconds)

def validateLoadedAlertRule (row : AlertRule) : Option AlertRule := do
  let id ← requireCanonicalUuid row.id
  let ownerUserId ← requireCanonicalUuid row.ownerUserId
  let name := Text.trim row.name
  if name = "" ∨ alertMaxNameBytes < Text.len name then none
  else if row.conditions = [] ∨ alertMaxConditions < row.conditions.length then none
  else if row.conditions.all validRuntimeCondition then some { row with id, ownerUserId, name }
  else none

def loadAlertRules (rows : List AlertRule) : List AlertRule :=
  (rows.filter (·.enabled)).filterMap validateLoadedAlertRule

structure Check where
  rule : AlertRule
  condition : AlertCondition
  now : DateTime
  triggered : Bool
  deriving DecidableEq

structure Evaluation extends Windows where
  now : DateTime
  checks : List Check

structure RuleTick where
  tick : Tick Unit
  elapsed : ℕ → ℕ

section System

variable (f : Float64 F)

def recordCheck (latest : HashMap String (Value F)) (rule : AlertRule) (env : RuleTick) (i : ℕ)
    (c : AlertCondition) (e : Evaluation) : Except String Bool × Evaluation :=
  let now := e.now + env.elapsed i
  let (result, windows) := checkCondition f latest (env.tick.check i c ()).1 now e.toWindows c
  (result, ⟨windows, now, match result with
    | .ok triggered => e.checks ++ [⟨rule, c, now, triggered⟩]
    | .error _ => e.checks⟩)

def RuleTick.toTick (latest : HashMap String (Value F)) (rule : AlertRule) (env : RuleTick) :
    Tick Evaluation where
  owners := env.tick.owners
  check := recordCheck f latest rule env
  sourceOwners := env.tick.sourceOwners
  insert := env.tick.insert
  firedAt := env.tick.firedAt
  recordedAt := env.tick.recordedAt
  untilCheck := env.tick.untilCheck
  untilFired := env.tick.untilFired
  untilRecorded := env.tick.untilRecorded

structure PastTick (F : Type) where
  start : DateTime
  latest : HashMap String (Value F)
  rules : List AlertRule

structure Period where
  stop : DateTime
  rules : List AlertRule

structure System (F : Type) where
  engine : AlertEngine Evaluation
  latest : HashMap String (Value F)
  rules : List AlertRule
  ticks : List (PastTick F)
  periods : List Period

def System.new (now : DateTime) (rules : List AlertRule) : System F :=
  ⟨.new ⟨⟨∅, ∅⟩, now, []⟩ 0, ∅, rules, [], []⟩

inductive Event (F : Type) where
  | observe (elapsed : ℕ) (agentId : String) (payload : Value F)
  | edit (elapsed : ℕ) (rules : List AlertRule)
  | tick (elapsed : ℕ) (load : Except String Unit) (env : AlertRule → RuleTick)

namespace System

variable {f} (db : DatabaseBackend)

def evaluation (σ : System F) : Evaluation := σ.engine.windows

def now (σ : System F) : DateTime := σ.evaluation.now

def wait (σ : System F) (elapsed : ℕ) : System F :=
  let now := σ.now + elapsed
  { σ with
    engine := { σ.engine with windows := { σ.evaluation with now, checks := [] } }
    periods := σ.periods ++ [⟨now, σ.rules⟩] }

variable (f)

def loadedRules (σ : System F) (env : AlertRule → RuleTick) : List (AlertRule × Tick Evaluation) :=
  (loadAlertRules σ.rules).map fun rule => (rule, (env rule).toTick f σ.latest rule)

def evaluate (σ : System F) (load : Except String Unit) (env : AlertRule → RuleTick) : System F :=
  let engine := σ.engine.evaluateAll db (load.map fun _ => σ.loadedRules f env)
  { σ with
    engine
    ticks := σ.ticks ++ [⟨σ.now, σ.latest, σ.rules⟩]
    periods := σ.periods ++ [⟨engine.windows.now, σ.rules⟩] }

def step (σ : System F) : Event F → System F
  | .observe elapsed agentId payload =>
    let σ := σ.wait elapsed
    { σ with latest := σ.latest.insert agentId payload }
  | .edit elapsed rules => { σ.wait elapsed with rules }
  | .tick elapsed load env => (σ.wait elapsed).evaluate f db load env

end System

end System

end XLStatus.Alerts
