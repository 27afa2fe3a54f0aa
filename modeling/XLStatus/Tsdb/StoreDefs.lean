import XLStatus.Alerts.WindowDefs
import XLStatus.Lib.Checked
import XLStatus.Lib.SortedMap

/-! The time series of the agents, kept in memory. -/

namespace XLStatus.Tsdb

open Shared
open Auth (DateTime seconds timestamp)
open Alerts (Value Num Float64)

def maxSamplePayloadBytes : ℕ := 64 * 1024
def maxSampleJsonDepth : ℕ := 16
def maxBatchSamples : ℕ := 256000
def maxSamplesPerAgent : ℕ := 50000
def maxRetentionDays : ℤ := 3650
def maxFutureSkewSeconds : ℤ := 86400

def days (n : ℤ) : ℤ := seconds (n * 86400)

inductive MetricError where
  | invalidTimestamp (text : String)
  | backend (text : String)
  deriving DecidableEq

structure MetricSample (F : Type) where
  agentId : AgentId
  sampleAt : DateTime
  fieldsJson : Value F

structure MetricSeries (F : Type) where
  agentId : AgentId
  samples : List (MetricSample F)

inductive QueryRange where
  | day1
  | day7
  | day30
  deriving DecidableEq

def QueryRange.toChronoDuration : QueryRange → ℤ
  | .day1 => days 1
  | .day7 => days 7
  | .day30 => days 30

abbrev Entries (F : Type) := SortedMap DateTime (Value F)

structure InMemoryState (F : Type) where
  series : HashMap AgentId (Entries F)
  retention : ℤ

def normalizeRetention (retention : ℤ) : ℤ := max 1000000 (min retention (days maxRetentionDays))

def cutoffForRetention (now : DateTime) (retention : ℤ) : DateTime := max (now - max retention 0) 0

section Payload

variable {F : Type} (f : Float64 F)

def addBytes (accumulated n : ℕ) : Except MetricError ℕ :=
  if accumulated + n > maxSamplePayloadBytes then
    .error (.backend ("sample payload size exceeds maximum of " ++ toString maxSamplePayloadBytes ++
      " bytes"))
  else .ok (accumulated + n)

mutual

def walk : Value F → ℕ → ℕ → Except MetricError ℕ
  | value, depth, accumulated =>
    if depth > maxSampleJsonDepth then
      .error (.backend ("sample payload JSON depth exceeds maximum of " ++
        toString maxSampleJsonDepth))
    else match value with
      | .null => addBytes accumulated 4
      | .bool b => addBytes accumulated (if b then 4 else 5)
      | .number num =>
        if ((Value.number num).asF64 f).all f.isFinite then addBytes accumulated 24
        else .error (.backend "sample payload contains non-finite number")
      | .string s => addBytes accumulated (Text.len s + 2)
      | .array items => do walkItems items depth (← addBytes accumulated 2)
      | .object map => do walkFields map depth (← addBytes accumulated 2)

def walkItems : List (Value F) → ℕ → ℕ → Except MetricError ℕ
  | [], _, accumulated => .ok accumulated
  | item :: items, depth, accumulated => do
    let accumulated ← addBytes accumulated 1
    let accumulated ← walk item (depth + 1) accumulated
    walkItems items depth accumulated

def walkFields : List (String × Value F) → ℕ → ℕ → Except MetricError ℕ
  | [], _, accumulated => .ok accumulated
  | (k, v) :: map, depth, accumulated => do
    let accumulated ← addBytes accumulated (Text.len k + 4)
    let accumulated ← walk v (depth + 1) accumulated
    walkFields map depth accumulated

end

def validateSamplePayload (value : Value F) : Except MetricError ℕ := walk f value 0 0

end Payload

/-- What `chrono` and the arithmetic of `f64` give. -/
structure Runtime (F : Type) where
  float : Float64 F
  toRfc3339 : DateTime → String

section Store

variable {F : Type} (rt : Runtime F)

def validateSample (sample : MetricSample F) (now : DateTime) : Except MetricError Unit := do
  if timestamp sample.sampleAt < 0 then throw (.invalidTimestamp (rt.toRfc3339 sample.sampleAt))
  if sample.sampleAt > now + seconds maxFutureSkewSeconds then
    throw (.invalidTimestamp (rt.toRfc3339 sample.sampleAt))
  let _ ← validateSamplePayload rt.float sample.fieldsJson
  pure ()

def withRetention (retention : ℤ) : InMemoryState F := ⟨∅, normalizeRetention retention⟩

def compactSeries (entries : Entries F) (cutoff : DateTime) : Entries F × ℕ :=
  let before := entries.len
  let entries := entries.splitOff cutoff
  let entries :=
    if entries.len > maxSamplesPerAgent then
      SortedMap.popFirst^[entries.len - maxSamplesPerAgent] entries
    else entries
  (entries, before - entries.len)

def compactAgent (series : HashMap AgentId (Entries F)) (agentId : AgentId) (cutoff : DateTime) :
    HashMap AgentId (Entries F) × ℕ :=
  match series.lookup agentId with
  | none => (series, 0)
  | some entries =>
    let (entries, dropped) := compactSeries entries cutoff
    (if entries.isEmpty then series.erase agentId else series.insert agentId entries, dropped)

def compactAll (state : InMemoryState F) (cutoff : DateTime) : InMemoryState F × ℕ :=
  ({ state with
      series := (state.series.mapVal fun _ entries => (compactSeries entries cutoff).1).retain
        fun _ entries => !entries.isEmpty },
    (state.series.entries.map fun e => (compactSeries e.2 cutoff).2).sum)

def compact (now : DateTime) (state : InMemoryState F) : InMemoryState F × ℕ :=
  compactAll state (cutoffForRetention now state.retention)

def setRetentionOf (now : DateTime) (retention : ℤ) (state : InMemoryState F) :
    InMemoryState F × ℕ :=
  let retention := normalizeRetention retention
  compactAll { state with retention } (cutoffForRetention now retention)

def setRetention (now : DateTime) (retention : ℤ) (state : InMemoryState F) :
    Except MetricError Unit × InMemoryState F :=
  if retention ≤ 0 then (.error (.backend "retention must be greater than zero"), state)
  else if retention > days maxRetentionDays then
    (.error (.backend ("retention must not exceed " ++ toString maxRetentionDays ++ " days")),
      state)
  else (.ok (), (setRetentionOf now retention state).1)

def insertSample (series : HashMap AgentId (Entries F)) (sample : MetricSample F) :
    HashMap AgentId (Entries F) :=
  series.insert sample.agentId
    (((series.lookup sample.agentId).getD .empty).insert sample.sampleAt sample.fieldsJson)

def write (now : DateTime) (sample : MetricSample F) (state : InMemoryState F) :
    Except MetricError Unit × InMemoryState F :=
  match validateSample rt sample now with
  | .error e => (.error e, state)
  | .ok () =>
    let cutoff := cutoffForRetention now state.retention
    let series := insertSample state.series sample
    (.ok (), { state with series := (compactAgent series sample.agentId cutoff).1 })

def writeEach (now : DateTime) : List (MetricSample F) → InMemoryState F →
    Except MetricError Unit × InMemoryState F
  | [], state => (.ok (), state)
  | sample :: samples, state =>
    match write rt now sample state with
    | (.error e, state) => (.error e, state)
    | (.ok (), state) => writeEach now samples state

def writeBatch (now : DateTime) (samples : List (MetricSample F)) (state : InMemoryState F) :
    Except MetricError ℕ × InMemoryState F :=
  if samples.length > maxBatchSamples then
    (.error (.backend ("batch size " ++ toString samples.length ++ " exceeds maximum of " ++
      toString maxBatchSamples)), state)
  else match samples.forM fun sample => validateSample rt sample now with
    | .error e => (.error e, state)
    | .ok () =>
      let cutoff := cutoffForRetention now state.retention
      let affectedAgents := (samples.map (·.agentId)).dedup
      let series := samples.foldl insertSample state.series
      (.ok samples.length, { state with
        series := affectedAgents.foldl (fun series a => (compactAgent series a cutoff).1) series })

def samplesOf (agentId : AgentId) (entries : List (DateTime × Value F)) : List (MetricSample F) :=
  entries.map fun e => ⟨agentId, e.1, e.2⟩

def query (now : DateTime) (agentId : AgentId) (range : QueryRange) (state : InMemoryState F) :
    MetricSeries F :=
  let rangeCutoff := cutoffForRetention now range.toChronoDuration
  let retentionCutoff := cutoffForRetention now state.retention
  let cutoff := max rangeCutoff retentionCutoff
  ⟨agentId, match state.series.lookup agentId with
    | some entries => samplesOf agentId (entries.range cutoff)
    | none => []⟩

def latest (now : DateTime) (agentId : AgentId) (state : InMemoryState F) :
    Option (MetricSample F) :=
  let cutoff := cutoffForRetention now state.retention
  (((state.series.lookup agentId).bind (·.last)).filter fun e => cutoff ≤ e.1).map
    fun e => ⟨agentId, e.1, e.2⟩

def listAgents (now : DateTime) (state : InMemoryState F) : List AgentId :=
  let cutoff := cutoffForRetention now state.retention
  (state.series.entries.filter fun e => e.2.last.any fun entry => cutoff ≤ entry.1).map (·.1)

def exportOrder (a b : MetricSample F) : Bool :=
  if a.agentId = b.agentId then decide (a.sampleAt ≤ b.sampleAt)
  else decide (a.agentId.text ≤ b.agentId.text)

def exportSamples (now : DateTime) (state : InMemoryState F) : List (MetricSample F) :=
  let cutoff := cutoffForRetention now state.retention
  (state.series.entries.flatMap fun e => samplesOf e.1 (e.2.range cutoff)).mergeSort exportOrder

end Store

end XLStatus.Tsdb
