import XLStatus.Lib.Checked
import XLStatus.Lib.IpText
import XLStatus.Shared.Ids

/-! The policy of a NAT mapping: the list of the sources that may connect, the bounds of
the other fields, and the loading of a stored row. -/

namespace XLStatus.Tunnel

open Checked Shared Net Text

inductive Protocol where
  | tcp
  | udp
  deriving DecidableEq, Repr

def Protocol.parse (s : String) : Option Protocol :=
  if s.toLower = "tcp" then some .tcp
  else if s.toLower = "udp" then some .udp
  else none

structure NatMapping where
  id : String
  agentId : String
  localHost : String
  localPort : UInt16
  publicPort : UInt16
  protocol : Protocol
  enabled : Bool
  description : Option String
  allowedSources : Option String
  maxActiveTunnels : Option UInt32
  idleTimeoutSeconds : Option UInt32
  maxBytesPerTunnel : Option UInt64
  maxBandwidthBytesPerSecond : Option UInt64
  rateLimitWindowSeconds : Option UInt32
  maxConnectionsPerWindow : Option UInt32
  maxBytesPerWindow : Option UInt64
  deriving DecidableEq, Repr

def defaultNatMinPublicPort : ℕ := 1024
def natUuidTextLen : ℕ := 36
def natMaxLocalHostBytes : ℕ := 253
def natMaxDescriptionBytes : ℕ := 1024
def natMaxAllowedSourcesBytes : ℕ := 4096
def natMaxAllowedSourceEntries : ℕ := 64
def natMaxAllowedSourceEntryBytes : ℕ := 128
def natMaxActiveTunnelsPerMapping : ℕ := 1024
def natMaxIdleTimeoutSeconds : ℕ := 24 * 60 * 60
def natMaxBytesPerTunnel : ℕ := 1024 * 1024 * 1024 * 1024
def natMaxBandwidthBytesPerSecond : ℕ := 1024 * 1024 * 1024
def natMaxRateLimitWindowSeconds : ℕ := 24 * 60 * 60
def natMaxConnectionsPerWindow : ℕ := 100000
def natMaxBytesPerWindow : ℕ := 1024 * 1024 * 1024 * 1024

def natSourceEntryValid (entry : String) : Bool :=
  if (IpAddr.parse entry).isSome then true
  else match splitOnce entry '/' with
    | none => false
    | some (network, length) => match IpAddr.parse network, parseUnsigned 8 length with
      | some (.v4 _), some length => length ≤ 32
      | some (.v6 _), some length => length ≤ 128
      | _, _ => false

def isSourceSeparator (c : Char) : Bool := c == ',' || c == ' ' || c == '\n' || c == '\t'

def allowedSourceEntries (value : String) : List String :=
  items isSourceSeparator value

def checkAllowedSourceEntry (entry : String) : Except String Unit := do
  ensure (len entry ≤ natMaxAllowedSourceEntryBytes)
    ("allowed source entry must be at most " ++ toString natMaxAllowedSourceEntryBytes ++ " bytes")
  ensure (natSourceEntryValid entry) ("invalid NAT allowed source CIDR or IP: " ++ entry)

def normalizeNatAllowedSources (value : Option String) : Except String (Option String) :=
  match value.map trim with
  | none => .ok none
  | some value =>
    if value = "" then .ok none
    else if len value > natMaxAllowedSourcesBytes then
      .error ("allowed_sources must be at most " ++ toString natMaxAllowedSourcesBytes ++ " bytes")
    else
      let entries := allowedSourceEntries value
      if entries = [] then .ok none
      else if entries.length > natMaxAllowedSourceEntries then
        .error ("allowed_sources must contain at most " ++
          toString natMaxAllowedSourceEntries ++ " entries")
      else do
        entries.forM checkAllowedSourceEntry
        return some (",".intercalate entries)

def maskedEq {w : ℕ} (ip network : BitVec w) (length : ℕ) : Bool :=
  let mask := if length = 0 then 0 else BitVec.allOnes w <<< (w - length)
  ip &&& mask == network &&& mask

def natIpInCidr (ip network : IpAddr) (length : ℕ) : Bool :=
  match ip, network with
  | .v4 ip, .v4 network => length ≤ 32 && maskedEq ip.toBits network.toBits length
  | .v6 ip, .v6 network => length ≤ 128 && maskedEq ip.toBits network.toBits length
  | _, _ => false

def natSourceEntryMatches (entry : String) (ip : IpAddr) : Bool :=
  match IpAddr.parse entry with
  | some exact => exact == ip
  | none => match splitOnce entry '/' with
    | none => false
    | some (network, length) => match IpAddr.parse network, parseUnsigned 8 length with
      | some network, some length => natIpInCidr ip network length
      | _, _ => false

def natSourceListAllows (raw : String) (peerIp : IpAddr) : Bool :=
  match normalizeNatAllowedSources (some raw) with
  | .ok (some normalized) => (split normalized ',').any (natSourceEntryMatches · peerIp)
  | _ => false

def natMappingSourceAllowed (mapping : NatMapping) (peerIp : IpAddr) : Bool :=
  match mapping.allowedSources with
  | none => true
  | some raw => natSourceListAllows raw peerIp

def validateCanonicalUuid (value field : String) : Except String String := do
  let error := field ++ " must be a canonical UUID"
  ensure (len value == natUuidTextLen) error
  let parsed ← require (parseUuid value) error
  ensure (parsed.1 == value) error
  return parsed.1

def validateRequiredText (value : String) (maxBytes : ℕ) (field : String) :
    Except String String := do
  let value := trim value
  ensure (value != "") (field ++ " is required")
  ensure (len value ≤ maxBytes) (field ++ " must be at most " ++ toString maxBytes ++ " bytes")
  return value

def validateOptionalText (value : Option String) (maxBytes : ℕ) (field : String) :
    Except String (Option String) :=
  match value.map trim with
  | none => .ok none
  | some value =>
    if value = "" then .ok none
    else if len value > maxBytes then
      .error (field ++ " must be at most " ++ toString maxBytes ++ " bytes")
    else .ok (some value)

def validateOptionalNumber (value : Option ℕ) (maxValue : ℕ) (field : String) :
    Except String Unit :=
  match value with
  | none => .ok ()
  | some value =>
    if value = 0 then .error (field ++ " must be greater than zero")
    else if value > maxValue then
      .error (field ++ " must be less than or equal to " ++ toString maxValue)
    else .ok ()

def validateOptionalU32 (value : Option UInt32) : ℕ → String → Except String Unit :=
  validateOptionalNumber (value.map UInt32.toNat)

def validateOptionalU64 (value : Option UInt64) : ℕ → String → Except String Unit :=
  validateOptionalNumber (value.map UInt64.toNat)

section Environment

variable (env : String → Option String)

def natPublicPortMin : ℕ :=
  ((env "XLSTATUS_NAT_PUBLIC_PORT_MIN").bind fun value =>
    parseUnsigned 16 (trim value)).getD defaultNatMinPublicPort

def natPublicPortAllowed (port : UInt16) : Bool := natPublicPortMin env ≤ port.toNat

def natLocalTargetIsLoopback (host : String) : Bool :=
  let host := trim host
  host != "" && (host.toLower == "localhost" || (IpAddr.parse host).any IpAddr.isLoopback)

def natPrivateTargetsAllowed : Bool :=
  ["XLSTATUS_ALLOW_PRIVATE_NAT_TARGETS", "XLSTATUS_ALLOW_PRIVATE_OUTBOUND"].any fun name =>
    (env name).any (["1", "true", "TRUE", "yes", "YES"].contains ·)

def natLocalTargetAllowed (host : String) : Bool :=
  natPrivateTargetsAllowed env || natLocalTargetIsLoopback host

def validateNatMappingRuntimePolicy (mapping : NatMapping) : Except String NatMapping := do
  let id ← validateCanonicalUuid mapping.id "id"
  let agentId ← validateCanonicalUuid mapping.agentId "agent_id"
  let localHost ← validateRequiredText mapping.localHost natMaxLocalHostBytes "local_host"
  ensure (natLocalTargetAllowed env localHost)
    ("NAT local_host must resolve to the Agent loopback interface unless private NAT targets " ++
      "are explicitly enabled")
  ensure (mapping.localPort != 0) "local_port must be greater than zero"
  ensure (natPublicPortAllowed env mapping.publicPort)
    ("public_port " ++ toString mapping.publicPort.toNat ++
      " is below the configured NAT public port minimum")
  let description ← validateOptionalText mapping.description natMaxDescriptionBytes "description"
  let allowedSources ← normalizeNatAllowedSources mapping.allowedSources
  validateOptionalU32 mapping.maxActiveTunnels natMaxActiveTunnelsPerMapping
    "max_active_tunnels"
  validateOptionalU32 mapping.idleTimeoutSeconds natMaxIdleTimeoutSeconds
    "idle_timeout_seconds"
  validateOptionalU64 mapping.maxBytesPerTunnel natMaxBytesPerTunnel "max_bytes_per_tunnel"
  validateOptionalU64 mapping.maxBandwidthBytesPerSecond natMaxBandwidthBytesPerSecond
    "max_bandwidth_bytes_per_second"
  validateOptionalU32 mapping.rateLimitWindowSeconds natMaxRateLimitWindowSeconds
    "rate_limit_window_seconds"
  validateOptionalU32 mapping.maxConnectionsPerWindow natMaxConnectionsPerWindow
    "max_connections_per_window"
  validateOptionalU64 mapping.maxBytesPerWindow natMaxBytesPerWindow "max_bytes_per_window"
  return { mapping with id, agentId, localHost, description, allowedSources }

structure NatMappingRow where
  id : String
  agentId : String
  localHost : String
  localPort : ℤ
  publicPort : ℤ
  protocol : String
  enabled : Bool
  description : Option String
  allowedSources : Option String
  maxActiveTunnels : Option ℤ
  idleTimeoutSeconds : Option ℤ
  maxBytesPerTunnel : Option ℤ
  maxBandwidthBytesPerSecond : Option ℤ
  rateLimitWindowSeconds : Option ℤ
  maxConnectionsPerWindow : Option ℤ
  maxBytesPerWindow : Option ℤ

def parseColumn (bound : ℕ) (value : ℤ) (field : String) : Except String ℕ := do
  ensure (0 ≤ value && value < bound) ("invalid NAT mapping " ++ field ++ " value")
  return value.toNat

def parseI32U16 (value : ℤ) (field : String) : Except String UInt16 :=
  Nat.toUInt16 <$> parseColumn (2 ^ 16) value field

def parseI32U32 (value : ℤ) (field : String) : Except String UInt32 :=
  Nat.toUInt32 <$> parseColumn (2 ^ 32) value field

def parseI64U64 (value : ℤ) (field : String) : Except String UInt64 :=
  Nat.toUInt64 <$> parseColumn (2 ^ 64) value field

def parseOptional {α : Type} (parse : ℤ → String → Except String α) (value : Option ℤ)
    (field : String) : Except String (Option α) :=
  match value with
  | none => .ok none
  | some value => some <$> parse value field

def rowToMapping (row : NatMappingRow) : Except String NatMapping := do
  let protocol ← require (Protocol.parse row.protocol)
    ("invalid NAT mapping protocol: " ++ row.protocol)
  let localPort ← parseI32U16 row.localPort "local_port"
  let publicPort ← parseI32U16 row.publicPort "public_port"
  let maxActiveTunnels ← parseOptional parseI32U32 row.maxActiveTunnels "max_active_tunnels"
  let idleTimeoutSeconds ← parseOptional parseI32U32 row.idleTimeoutSeconds
    "idle_timeout_seconds"
  let maxBytesPerTunnel ← parseOptional parseI64U64 row.maxBytesPerTunnel "max_bytes_per_tunnel"
  let maxBandwidthBytesPerSecond ← parseOptional parseI64U64 row.maxBandwidthBytesPerSecond
    "max_bandwidth_bytes_per_second"
  let rateLimitWindowSeconds ← parseOptional parseI32U32 row.rateLimitWindowSeconds
    "rate_limit_window_seconds"
  let maxConnectionsPerWindow ← parseOptional parseI32U32 row.maxConnectionsPerWindow
    "max_connections_per_window"
  let maxBytesPerWindow ← parseOptional parseI64U64 row.maxBytesPerWindow "max_bytes_per_window"
  validateNatMappingRuntimePolicy env
    { row with
      localPort, publicPort, protocol, maxActiveTunnels, idleTimeoutSeconds, maxBytesPerTunnel
      maxBandwidthBytesPerSecond, rateLimitWindowSeconds, maxConnectionsPerWindow
      maxBytesPerWindow }

end Environment

end XLStatus.Tunnel
