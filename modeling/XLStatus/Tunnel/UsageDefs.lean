import XLStatus.Auth.ChallengeDefs
import XLStatus.Shared.Messages
import XLStatus.Tunnel.PolicyDefs

/-! How often a source used a NAT mapping: the counters in memory, the table of the usage
windows, and what a new connection and a finished tunnel do to both. -/

namespace XLStatus.Tunnel

open Auth (DateTime seconds timestamp)
open Checked Shared

def maxTrackedSourceIpsPerMapping : ℕ := 4096

structure TrackedSourceRateState where
  windowStart : DateTime
  connectionCount : UInt64
  bytesTransferred : UInt64
  updatedAt : DateTime
  deriving DecidableEq

abbrev Sources := HashMap String TrackedSourceRateState

def pruneExpiredSourceRateWindows (sources : Sources) (minWindowStart : DateTime) : Sources :=
  sources.retain fun _ state => minWindowStart ≤ state.windowStart

def windowCounts (sources : Sources) (sourceIp : String) (windowStart : DateTime) :
    UInt64 × UInt64 :=
  match sources.lookup sourceIp with
  | some state =>
    if state.windowStart = windowStart then (state.connectionCount, state.bytesTransferred)
    else (0, 0)
  | none => (0, 0)

def isFull (sources : Sources) (sourceIp : String) (maxTrackedIps : ℕ) : Bool :=
  (sources.lookup sourceIp).isNone && maxTrackedIps ≤ sources.len

def recordSourceConnectionInMap (sources : Sources) (sourceIp : String)
    (windowStart now : DateTime) (maxTrackedIps : ℕ) (maxConnectionsPerWindow : Option UInt32)
    (maxBytesPerWindow : Option UInt64) : Except String TrackedSourceRateState × Sources :=
  let sources := pruneExpiredSourceRateWindows sources windowStart
  let sourceIp := Text.trim sourceIp
  if sourceIp = "" then (.error "NAT source IP must not be empty", sources)
  else if isFull sources sourceIp maxTrackedIps then
    (.error ("NAT mapping tracked source IP limit (" ++ toString maxTrackedIps ++
      ") exceeded for source " ++ sourceIp), sources)
  else
    let (connections, bytes) := windowCounts sources sourceIp windowStart
    let connections := saturatingAdd connections 1
    let state : TrackedSourceRateState := ⟨windowStart, connections, bytes, now⟩
    if maxConnectionsPerWindow.any fun limit => connections.toNat > limit.toNat then
      (.error ("NAT mapping connection rate limit exceeded for source " ++ sourceIp),
        sources.insert sourceIp state)
    else if maxBytesPerWindow.any fun limit => bytes > limit then
      (.error ("NAT mapping byte window limit exceeded for source " ++ sourceIp), sources)
    else (.ok state, sources.insert sourceIp state)

def TrackedSourceRateState.addBytes (entry : TrackedSourceRateState) (windowStart : DateTime)
    (bytes : UInt64) (now : DateTime) : TrackedSourceRateState :=
  let entry := if entry.windowStart ≠ windowStart then
      { entry with windowStart, connectionCount := 0, bytesTransferred := 0 }
    else entry
  { entry with
    bytesTransferred := saturatingAdd entry.bytesTransferred bytes
    updatedAt := now }

def recordSourceBytesInMap (sources : Sources) (sourceIp : String) (windowStart : DateTime)
    (bytes : UInt64) (now : DateTime) (maxTrackedIps : ℕ) :
    Option TrackedSourceRateState × Sources :=
  let sources := pruneExpiredSourceRateWindows sources windowStart
  let sourceIp := Text.trim sourceIp
  if sourceIp = "" then (none, sources)
  else if isFull sources sourceIp maxTrackedIps then (none, sources)
  else
    let entry := (sources.lookup sourceIp).getD ⟨windowStart, 0, 0, now⟩
    let entry := entry.addBytes windowStart bytes now
    (some entry, sources.insert sourceIp entry)

structure NatUsageWindow where
  connectionCount : ℕ
  bytesTransferred : ℕ
  updatedAt : DateTime
  deriving DecidableEq

structure UsageKey where
  mappingId : String
  sourceIp : String
  windowStart : DateTime
  deriving DecidableEq

abbrev UsageTable := HashMap UsageKey NatUsageWindow

def recordConnectionWindow (table : UsageTable) (key : UsageKey) (now : DateTime) :
    NatUsageWindow × UsageTable :=
  let row : NatUsageWindow := match table.lookup key with
    | some row => { row with connectionCount := row.connectionCount + 1, updatedAt := now }
    | none => ⟨1, 0, now⟩
  (row, table.insert key row)

def recordWindowBytes (table : UsageTable) (key : UsageKey) (bytes : ℕ) (now : DateTime) :
    NatUsageWindow × UsageTable :=
  let bytes := min bytes (2 ^ 63 - 1)
  let row : NatUsageWindow := match table.lookup key with
    | some row => { row with bytesTransferred := row.bytesTransferred + bytes, updatedAt := now }
    | none => ⟨0, bytes, now⟩
  (row, table.insert key row)

def pruneUsageWindows (table : UsageTable) (before : DateTime) : UsageTable :=
  table.retain fun key _ => before ≤ key.windowStart

structure Usage where
  rateLimits : HashMap String Sources
  table : UsageTable

structure NatUsageWindowKey where
  windowStart : DateTime
  sourceIp : String
  deriving DecidableEq

def natRateLimitWindowSeconds (mapping : NatMapping) : Option UInt32 :=
  if mapping.maxConnectionsPerWindow.isNone && mapping.maxBytesPerWindow.isNone then none
  else mapping.rateLimitWindowSeconds.or (some 60)

def currentNatUsageWindow (windowSeconds : UInt32) (now : DateTime) : DateTime :=
  let windowSeconds : ℤ := max windowSeconds.toNat 1
  seconds (timestamp now - timestamp now % windowSeconds)

structure ConnectionIo where
  windowNow : DateTime
  now : DateTime
  recordedAt : DateTime
  pruned : Bool
  recorded : Except String Unit

def recordUsage (table : UsageTable) (mapping : NatMapping) (windowSeconds : UInt32)
    (window : NatUsageWindowKey) (io : ConnectionIo) :
    Except String (Option NatUsageWindowKey) × UsageTable :=
  let table := if io.pruned then
      pruneUsageWindows table (io.now - seconds (windowSeconds.toNat * 4))
    else table
  match io.recorded with
  | .error e => (.error e, table)
  | .ok () =>
    let (usage, table) := recordConnectionWindow table
      ⟨mapping.id, window.sourceIp, window.windowStart⟩ io.recordedAt
    if mapping.maxConnectionsPerWindow.any fun limit => usage.connectionCount > limit.toNat then
      (.error ("NAT mapping connection rate limit exceeded for source " ++ window.sourceIp), table)
    else if mapping.maxBytesPerWindow.any fun limit => usage.bytesTransferred > limit.toNat then
      (.error ("NAT mapping byte window limit exceeded for source " ++ window.sourceIp), table)
    else (.ok (some window), table)

def recordNatConnection (st : Usage) (mapping : NatMapping) (sourceIp : String)
    (io : ConnectionIo) : Except String (Option NatUsageWindowKey) × Usage :=
  let windowStart := currentNatUsageWindow ((natRateLimitWindowSeconds mapping).getD 60)
    io.windowNow
  let (result, sources) := recordSourceConnectionInMap
    ((st.rateLimits.lookup mapping.id).getD ∅) sourceIp windowStart io.now
    maxTrackedSourceIpsPerMapping mapping.maxConnectionsPerWindow mapping.maxBytesPerWindow
  let st := { st with rateLimits := st.rateLimits.insert mapping.id sources }
  match result, natRateLimitWindowSeconds mapping with
  | .error e, _ => (.error e, st)
  | .ok _, none => (.ok none, st)
  | .ok _, some windowSeconds =>
    let (result, table) := recordUsage st.table mapping windowSeconds ⟨windowStart, sourceIp⟩ io
    (result, { st with table })

def recordNatWindowBytes (st : Usage) (mapping : NatMapping) (window : NatUsageWindowKey)
    (bytes : ℕ) (now recordedAt : DateTime) (recorded : Except String Unit) : Usage :=
  if mapping.maxBytesPerWindow.isNone || bytes = 0 then st
  else
    let st := match st.rateLimits.lookup mapping.id with
      | some sources =>
        { st with
          rateLimits := st.rateLimits.insert mapping.id
            (recordSourceBytesInMap sources window.sourceIp window.windowStart
              (UInt64.ofNat bytes) now maxTrackedSourceIpsPerMapping).2 }
      | none => st
    match recorded with
    | .error _ => st
    | .ok () =>
      { st with
        table := (recordWindowBytes st.table ⟨mapping.id, window.sourceIp, window.windowStart⟩
          bytes recordedAt).2 }

end XLStatus.Tunnel
