import XLStatus.Shared.Messages
import XLStatus.Tasks.TargetsDefs

/-! The host state an agent reports, as the document that is kept with the agent:
`state_to_json` of `crates/server/src/grpc/mod.rs`. -/

namespace XLStatus.Grpc

open Option

open Agent (Json)
open Shared (saturatingAdd)

inductive F64 where
  | nan
  | infinite (negative : Bool)
  | finite (value : ℚ)
  deriving DecidableEq

structure DiskState where
  mountPoint : String
  used : UInt64
  total : UInt64

structure NetStat where
  interface : String
  bytesSent : UInt64
  bytesRecv : UInt64

structure TempSensor where
  label : String
  temperature : F64

structure HostState where
  cpuPercent : F64
  memoryUsed : UInt64
  memoryTotal : UInt64
  swapUsed : UInt64
  swapTotal : UInt64
  disks : List DiskState
  netIo : List NetStat
  load1 : F64
  load5 : F64
  load15 : F64
  tcpConnections : UInt32
  udpConnections : UInt32
  processCount : UInt32
  temperatures : List TempSensor
  gpus : ℕ
  uptimeSeconds : UInt64

def agentTelemetryMaxItems : ℕ := 64
def agentTelemetryMaxStringBytes : ℕ := 128
def agentTelemetryMaxJsonBytes : ℕ := 256 * 1024

/-! ## Values within bounds

Each comes with whether something was cut off. -/

def sanitizeF64 (low high : ℚ) : F64 → F64 × Bool
  | .finite value =>
    if low ≤ value ∧ value ≤ high then (.finite value, false)
    else (.finite (max low (min value high)), true)
  | _ => (.finite 0, true)

def sanitizePercentageF64 : F64 → F64 × Bool := sanitizeF64 0 100
def sanitizeNonNegativeF64 (value : F64) (max : ℚ) : F64 × Bool := sanitizeF64 0 max value
def sanitizeTemperatureF64 : F64 → F64 × Bool := sanitizeF64 (-273.15) 1000

def boundedTelemetryChars : List Char → List Char → Bool → List Char × Bool
  | [], sanitized, truncated => (sanitized, truncated)
  | ch :: rest, sanitized, truncated =>
    if Text.isControl ch then boundedTelemetryChars rest sanitized true
    else if Text.len (String.ofList sanitized) + ch.utf8Size > agentTelemetryMaxStringBytes then
      (sanitized, true)
    else boundedTelemetryChars rest (sanitized ++ [ch]) truncated

def boundedTelemetryString (value : String) : String × Bool :=
  let (sanitized, truncated) := boundedTelemetryChars value.toList [] false
  (String.ofList sanitized, truncated)

def jsonU64 (n : UInt64) : Json := .number (.posInt n)
def jsonU32 (n : UInt32) : Json := jsonU64 n.toUInt64

def jsonF64 (_ : F64) : Json := .number .float

def diskJson (d : DiskState) : Json × Bool :=
  let (mountPoint, truncated) := boundedTelemetryString d.mountPoint
  (.object [("mount_point", .string mountPoint), ("used", jsonU64 d.used),
    ("total", jsonU64 d.total)], truncated)

def netJson (n : NetStat) : Json × Bool :=
  let (interface, truncated) := boundedTelemetryString n.interface
  (.object [("interface", .string interface), ("bytes_sent", jsonU64 n.bytesSent),
    ("bytes_recv", jsonU64 n.bytesRecv)], truncated)

def tempJson (t : TempSensor) : Json × Bool :=
  let (temp, clamped) := sanitizeTemperatureF64 t.temperature
  let (label, truncated) := boundedTelemetryString t.label
  (.object [("label", .string label), ("temperature", jsonF64 temp)], clamped || truncated)

def stateFields (s : HostState) (disks netIo temperatures : List Json) (truncated : Bool) :
    List (String × Json) :=
  let counted := s.netIo.take agentTelemetryMaxItems
  [("cpu_percent", jsonF64 (sanitizePercentageF64 s.cpuPercent).1),
    ("memory_used", jsonU64 s.memoryUsed),
    ("memory_total", jsonU64 s.memoryTotal),
    ("swap_used", jsonU64 s.swapUsed),
    ("swap_total", jsonU64 s.swapTotal),
    ("load_1", jsonF64 (sanitizeNonNegativeF64 s.load1 1000000).1),
    ("load_5", jsonF64 (sanitizeNonNegativeF64 s.load5 1000000).1),
    ("load_15", jsonF64 (sanitizeNonNegativeF64 s.load15 1000000).1),
    ("tcp_connections", jsonU32 s.tcpConnections),
    ("udp_connections", jsonU32 s.udpConnections),
    ("process_count", jsonU32 s.processCount),
    ("disks", .array disks),
    ("net_io", .array netIo),
    ("network_in_total", jsonU64 (counted.foldl (fun sum n => saturatingAdd sum n.bytesRecv) 0)),
    ("network_out_total", jsonU64 (counted.foldl (fun sum n => saturatingAdd sum n.bytesSent) 0)),
    ("uptime_seconds", jsonU64 s.uptimeSeconds),
    ("temperatures", .array temperatures),
    ("telemetry_truncated", .bool truncated)]

/-- `serde_json` on documents: an object that it writes it reads back with the same texts under
the same names. -/
structure SerdeJson where
  toString : Json → Except String String
  fromStr : String → Option Json
  trim_toString : ∀ fields text, toString (.object fields) = .ok text → Text.trim text = text
  fromStr_toString : ∀ fields text, (fields.map Prod.fst).Nodup →
    toString (.object fields) = .ok text →
      ∃ fields', fromStr text = some (.object fields') ∧
        ∀ key, (fields'.lookup key).bind Json.asStr = (fields.lookup key).bind Json.asStr
  fromStr_truncated : fromStr "\x7b\"telemetry_truncated\":true\x7d" =
    some (.object [("telemetry_truncated", .bool true)])

def SerdeJson.toStringOrEmpty (serde : SerdeJson) (value : Json) : String :=
  match serde.toString value with
  | .ok text => text
  | .error _ => ""

def serializeTelemetryJson (serde : SerdeJson) (value fallback : Json) : String :=
  let serialized := serde.toStringOrEmpty value
  if Text.len serialized ≤ agentTelemetryMaxJsonBytes then serialized
  else
    let fallback := serde.toStringOrEmpty fallback
    if Text.len fallback ≤ agentTelemetryMaxJsonBytes then fallback
    else "\x7b\"telemetry_truncated\":true\x7d"

def stateToJson (serde : SerdeJson) (s : HostState) : String :=
  let disks := (s.disks.take agentTelemetryMaxItems).map diskJson
  let netIo := (s.netIo.take agentTelemetryMaxItems).map netJson
  let temperatures := (s.temperatures.take agentTelemetryMaxItems).map tempJson
  let telemetryTruncated :=
    s.disks.length > agentTelemetryMaxItems || s.netIo.length > agentTelemetryMaxItems ||
      s.temperatures.length > agentTelemetryMaxItems || s.gpus ≠ 0 ||
      (disks ++ netIo ++ temperatures).any Prod.snd ||
      (sanitizePercentageF64 s.cpuPercent).2 || (sanitizeNonNegativeF64 s.load1 1000000).2 ||
      (sanitizeNonNegativeF64 s.load5 1000000).2 || (sanitizeNonNegativeF64 s.load15 1000000).2
  serializeTelemetryJson serde
    (.object (stateFields s (disks.map Prod.fst) (netIo.map Prod.fst)
      (temperatures.map Prod.fst) telemetryTruncated))
    (.object (stateFields s [] [] [] true))

def textMember (serde : SerdeJson) (key : String) (lastStateJson : Option String) :
    Option String :=
  (Shared.parseAgentTelemetryJson serde.fromStr lastStateJson).bind fun parsed =>
    (Tasks.jsonGet parsed key).bind Json.asStr

variable {serde : SerdeJson} {key : String}

theorem textMember_eq_none {text : String}
    (h : ∀ value, serde.fromStr (Text.trim text) = some value →
      (Tasks.jsonGet value key).bind Json.asStr = none) :
    textMember serde key (some text) = none := by
  simp only [textMember, Shared.parseAgentTelemetryJson, Shared.parseBoundedAgentJson,
    bind_eq_bind, bind_some]
  split_ifs with hlong hempty
  · rfl
  · rfl
  · exact bind_eq_none_iff.mpr h

theorem textMember_empty : textMember serde key (some "") = none := by
  have htrim : Text.trim "" = "" := rfl
  simp [textMember, Shared.parseAgentTelemetryJson, Shared.parseBoundedAgentJson, htrim]

theorem asStr_stateFields (s : HostState) (disks netIo temperatures : List Json)
    (truncated : Bool) :
    ∀ field ∈ stateFields s disks netIo temperatures truncated, field.2.asStr = none := by
  simp [stateFields, jsonU64, jsonU32, jsonF64, Json.asStr]

theorem nodup_stateFields (s : HostState) (disks netIo temperatures : List Json)
    (truncated : Bool) :
    ((stateFields s disks netIo temperatures truncated).map Prod.fst).Nodup := by
  simp [stateFields]

theorem textMember_toStringOrEmpty (s : HostState) (disks netIo temperatures : List Json)
    (truncated : Bool) :
    textMember serde key (some (serde.toStringOrEmpty
      (.object (stateFields s disks netIo temperatures truncated)))) = none := by
  unfold SerdeJson.toStringOrEmpty
  split
  · rename_i text htext
    apply textMember_eq_none
    intro value hvalue
    obtain ⟨fields, hfields, hsame⟩ := serde.fromStr_toString _ text
      (nodup_stateFields s disks netIo temperatures truncated) htext
    rw [serde.trim_toString _ text htext, hfields] at hvalue
    cases hvalue
    refine (hsame key).trans (bind_eq_none_iff.mpr fun found hfound => ?_)
    obtain ⟨before, after, hsplit, -⟩ := List.lookup_eq_some_iff.mp hfound
    exact asStr_stateFields s disks netIo temperatures truncated (key, found) (by simp [hsplit])
  · exact textMember_empty

theorem textMember_stateToJson (s : HostState) :
    textMember serde key (some (stateToJson serde s)) = none := by
  unfold stateToJson serializeTelemetryJson
  simp only
  split_ifs
  · exact textMember_toStringOrEmpty s _ _ _ _
  · exact textMember_toStringOrEmpty s _ _ _ _
  · apply textMember_eq_none
    intro value hvalue
    have htrim : Text.trim "\x7b\"telemetry_truncated\":true\x7d" =
        "\x7b\"telemetry_truncated\":true\x7d" := by decide +kernel
    rw [htrim, serde.fromStr_truncated] at hvalue
    cases hvalue
    simp only [Tasks.jsonGet, Json.asObject, bind_some, List.lookup_cons, List.lookup_nil]
    split <;> rfl

end XLStatus.Grpc
