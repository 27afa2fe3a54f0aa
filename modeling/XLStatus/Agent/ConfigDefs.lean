import XLStatus.Lib.Checked
import XLStatus.Lib.FsPath
import XLStatus.Lib.Text
import XLStatus.Lib.Transition

/-! The agent's configuration and its remote updates: the checks on each field, the
order they run in, and the replacement of the configuration file. -/

namespace XLStatus.Agent

open FsPath (Component)
open Checked

inductive Number where
  | posInt (n : UInt64)
  | negInt (n : Int64)
  | float
  deriving DecidableEq, Repr

/-- A parsed JSON value; the members of an object are in the order of its map. -/
inductive Json where
  | null
  | bool (b : Bool)
  | number (n : Number)
  | string (s : String)
  | array (items : List Json)
  | object (fields : List (String × Json))

def Json.asObject : Json → Option (List (String × Json))
  | .object fields => some fields
  | _ => none

def Json.asStr : Json → Option String
  | .string s => some s
  | _ => none

def Json.asBool : Json → Option Bool
  | .bool b => some b
  | _ => none

def Json.asArray : Json → Option (List Json)
  | .array items => some items
  | _ => none

def Json.asU64 : Json → Option UInt64
  | .number (.posInt n) => some n
  | _ => none

structure Url where
  scheme : String
  hostStr : Option String
  username : String
  password : Option String
  text : String

structure Parsers where
  json : List UInt8 → Except String Json
  url : String → Except String Url

structure AgentConfig where
  server : String
  grpcServer : String
  grpcTlsCaPath : Option String
  grpcTlsDomainName : Option String
  grpcTlsClientCertPath : Option String
  grpcTlsClientKeyPath : Option String
  agentId : String
  name : String
  publicKey : String
  privateKey : String
  reportIntervalSeconds : UInt64
  ipReportIntervalSeconds : UInt64
  disableAutoUpdate : Bool
  disableForceUpdate : Bool
  disableCommandExecute : Bool
  disableNat : Bool
  disableSendQuery : Bool
  fileAllowedRoots : List String
  deriving DecidableEq, Repr

structure ConfigUpdate where
  configYaml : List UInt8

def remoteConfigMaxBytes : ℕ := 128 * 1024
def remoteConfigMaxNameBytes : ℕ := 255
def remoteConfigMaxUrlBytes : ℕ := 2048
def remoteConfigMaxPathBytes : ℕ := 4096
def remoteConfigMaxRoots : ℕ := 32
def remoteConfigMinIntervalSeconds : UInt64 := 1
def remoteConfigMaxIntervalSeconds : UInt64 := 86400

def validateSizedRemoteText (value : String) (minBytes maxBytes : ℕ) (field : String) :
    Except String Unit :=
  ensure (!(Text.len value < minBytes || Text.len value > maxBytes))
    (field ++ " must be between " ++ toString minBytes ++ " and " ++ toString maxBytes ++ " bytes")

def trimEndMatches (c : Char) (s : String) : String :=
  String.ofList (s.toList.reverse.dropWhile (· == c)).reverse

def validateRemoteConfigUrl (parsers : Parsers) (field : String) (value : Json) :
    Except String String := do
  let text := Text.trim (← require value.asStr (field ++ " must be a string"))
  validateSizedRemoteText text 1 remoteConfigMaxUrlBytes field
  match parsers.url text with
  | .error _ => .error (field ++ " is invalid")
  | .ok parsed => do
    ensure (parsed.scheme == "http" || parsed.scheme == "https")
      (field ++ " scheme '" ++ parsed.scheme ++ "' is not allowed")
    ensure parsed.hostStr.isSome (field ++ " must include a host")
    ensure (parsed.username == "" && parsed.password.isNone)
      (field ++ " must not include credentials")
    return trimEndMatches '/' parsed.text

def validateOptionalRemoteConfigText (field : String) (maxBytes : ℕ) (value : Json) :
    Except String (Option String) := do
  let text := Text.trim (← require value.asStr (field ++ " must be a string"))
  if text = "" then return none
  else
    validateSizedRemoteText text 1 maxBytes field
    ensure (!text.toList.any Text.isControl) (field ++ " contains control characters")
    return some text

def validateNormalizedAbsolutePath (text field : String) : Except String (List Component) := do
  ensure (!text.toList.contains '\x00') (field ++ " contains NUL byte")
  ensure (!text.toList.any Text.isControl) (field ++ " contains control characters")
  ensure (FsPath.isAbsolute text) (field ++ " must be an absolute path")
  let components := FsPath.components text
  ensure (!components.contains .curDir && !components.contains .parentDir)
    (field ++ " must not contain relative path traversal components")
  ensure (components != [.rootDir]) (field ++ " must not be the filesystem root")
  return components

def validateOptionalRemoteConfigPath (field : String) (value : Json) :
    Except String (Option String) := do
  match ← validateOptionalRemoteConfigText field remoteConfigMaxPathBytes value with
  | none => return none
  | some text =>
    let _ ← validateNormalizedAbsolutePath text field
    return some text

def validateRemoteConfigName (value : Json) : Except String String := do
  let text := Text.trim (← require value.asStr "name must be a string")
  validateSizedRemoteText text 1 remoteConfigMaxNameBytes "name"
  ensure (!text.toList.any Text.isControl) "name contains control characters"
  return text

def validateRemoteConfigInterval (field : String) (value : Json) : Except String UInt64 := do
  let seconds ← require value.asU64 (field ++ " must be an unsigned integer")
  ensure (remoteConfigMinIntervalSeconds ≤ seconds && seconds ≤ remoteConfigMaxIntervalSeconds)
    (field ++ " must be between " ++ toString remoteConfigMinIntervalSeconds ++ " and " ++
      toString remoteConfigMaxIntervalSeconds ++ " seconds")
  return seconds

def validateRemoteConfigBool (field : String) (value : Json) : Except String Bool :=
  require value.asBool (field ++ " must be a boolean")

def validateRemoteConfigDisableFlag (field : String) (currentlyDisabled : Bool) (value : Json) :
    Except String Bool := do
  let requested ← validateRemoteConfigBool field value
  ensure (!(currentlyDisabled && !requested))
    ("remote config field " ++ field ++ " cannot be re-enabled once disabled by local policy")
  return requested

def validateRemoteConfigRoot (root : Json) : Except String String := do
  let text := Text.trim (← require root.asStr "file_allowed_roots entries must be strings")
  validateSizedRemoteText text 1 remoteConfigMaxPathBytes "file_allowed_roots"
  let _ ← validateNormalizedAbsolutePath text "file_allowed_roots"
  return text

def validateRemoteConfigRoots (value : Json) : Except String (List String) := do
  let roots ← require value.asArray "file_allowed_roots must be an array"
  ensure (!(roots.isEmpty || roots.length > remoteConfigMaxRoots))
    ("file_allowed_roots must contain 1 to " ++ toString remoteConfigMaxRoots ++ " entries")
  roots.mapM validateRemoteConfigRoot

def forbiddenSystemPrefixes : List String :=
  ["/etc", "/private/etc", "/root", "/proc", "/sys", "/dev", "/boot", "/run", "/var/run",
    "/private/var/run", "/usr", "/bin", "/sbin", "/lib", "/lib64"]

def validateCandidateRoot (allowed : List (List Component)) (configFile : List Component)
    (candidate : String) : Except String Unit := do
  let path ← validateNormalizedAbsolutePath candidate "file_allowed_roots"
  ensure (!forbiddenSystemPrefixes.any fun dir => FsPath.startsWith path (FsPath.components dir))
    ("remote file_allowed_roots entry '" ++ candidate ++ "' targets a protected system directory")
  ensure (!(FsPath.startsWith configFile path || FsPath.parent configFile == some path))
    ("remote file_allowed_roots entry '" ++ candidate ++ "' overlaps agent configuration storage")
  ensure (allowed.any fun existing => FsPath.startsWith path existing)
    ("remote file_allowed_roots entry '" ++ candidate ++ "' is outside local policy roots")

def validateRemoteConfigRootsWithinPolicy (requestedRoots currentRoots : List String)
    (configFile : List Component) (commandExecuteDisabled : Bool) : Except String Unit := do
  ensure (!commandExecuteDisabled)
    "file_allowed_roots cannot be modified remotely when disable_command_execute is enabled"
  let allowed ← currentRoots.mapM fun root =>
    validateNormalizedAbsolutePath (Text.trim root) "file_allowed_roots"
  ensure (!allowed.isEmpty)
    "file_allowed_roots cannot be expanded when no local roots are configured"
  requestedRoots.forM (validateCandidateRoot allowed configFile)

def nonEmptyConfigPath (value : Option String) : Option String :=
  (value.map Text.trim).filter (· ≠ "")

def validateRemoteTlsConfigConsistency (config : AgentConfig) : Except String Unit := do
  let caPath := nonEmptyConfigPath config.grpcTlsCaPath
  let domainName := nonEmptyConfigPath config.grpcTlsDomainName
  let clientCertPath := nonEmptyConfigPath config.grpcTlsClientCertPath
  let clientKeyPath := nonEmptyConfigPath config.grpcTlsClientKeyPath
  ensure (clientCertPath.isSome == clientKeyPath.isSome)
    "grpc_tls_client_cert_path and grpc_tls_client_key_path must be configured together"
  ensure (!((caPath.isSome || domainName.isSome || clientCertPath.isSome || clientKeyPath.isSome) &&
      !Text.startsWith config.grpcServer "https://"))
    "custom gRPC TLS settings require grpc_server to use https://"

def patchableFields : List String :=
  ["server", "grpc_server", "grpc_tls_ca_path", "grpc_tls_domain_name",
    "grpc_tls_client_cert_path", "grpc_tls_client_key_path", "name", "report_interval_seconds",
    "ip_report_interval_seconds", "disable_auto_update", "disable_force_update",
    "disable_command_execute", "disable_nat", "disable_send_query", "file_allowed_roots"]

def validateRemoteConfigField (key : String) : Except String Unit :=
  if key ∈ patchableFields then .ok ()
  else if key ∈ ["agent_id", "public_key", "private_key"] then
    .error ("remote config field " ++ key ++ " cannot be changed")
  else .error ("unknown remote config field: " ++ key)

def validateRemoteConfigFields (object : List (String × Json)) : Except String Unit :=
  (object.map Prod.fst).forM validateRemoteConfigField

def patchField {α : Type} (object : List (String × Json)) (key : String)
    (validate : AgentConfig → Json → Except String α) (set : AgentConfig → α → AgentConfig)
    (config : AgentConfig) : Except String AgentConfig :=
  match object.lookup key with
  | none => .ok config
  | some value => do return set config (← validate config value)

def patchSteps (parsers : Parsers) (object : List (String × Json)) :
    List (AgentConfig → Except String AgentConfig) :=
  [patchField object "server" (fun _ => validateRemoteConfigUrl parsers "server")
      (fun c v => { c with server := v }),
    patchField object "grpc_server" (fun _ => validateRemoteConfigUrl parsers "grpc_server")
      (fun c v => { c with grpcServer := v }),
    patchField object "grpc_tls_ca_path"
      (fun _ => validateOptionalRemoteConfigPath "grpc_tls_ca_path")
      (fun c v => { c with grpcTlsCaPath := v }),
    patchField object "grpc_tls_domain_name"
      (fun _ => validateOptionalRemoteConfigText "grpc_tls_domain_name" 253)
      (fun c v => { c with grpcTlsDomainName := v }),
    patchField object "grpc_tls_client_cert_path"
      (fun _ => validateOptionalRemoteConfigPath "grpc_tls_client_cert_path")
      (fun c v => { c with grpcTlsClientCertPath := v }),
    patchField object "grpc_tls_client_key_path"
      (fun _ => validateOptionalRemoteConfigPath "grpc_tls_client_key_path")
      (fun c v => { c with grpcTlsClientKeyPath := v }),
    patchField object "name" (fun _ => validateRemoteConfigName) (fun c v => { c with name := v }),
    patchField object "report_interval_seconds"
      (fun _ => validateRemoteConfigInterval "report_interval_seconds")
      (fun c v => { c with reportIntervalSeconds := v }),
    patchField object "ip_report_interval_seconds"
      (fun _ => validateRemoteConfigInterval "ip_report_interval_seconds")
      (fun c v => { c with ipReportIntervalSeconds := v }),
    patchField object "disable_auto_update"
      (fun c => validateRemoteConfigDisableFlag "disable_auto_update" c.disableAutoUpdate)
      (fun c v => { c with disableAutoUpdate := v }),
    patchField object "disable_force_update"
      (fun c => validateRemoteConfigDisableFlag "disable_force_update" c.disableForceUpdate)
      (fun c v => { c with disableForceUpdate := v }),
    patchField object "disable_command_execute"
      (fun c => validateRemoteConfigDisableFlag "disable_command_execute" c.disableCommandExecute)
      (fun c v => { c with disableCommandExecute := v }),
    patchField object "disable_nat"
      (fun c => validateRemoteConfigDisableFlag "disable_nat" c.disableNat)
      (fun c v => { c with disableNat := v }),
    patchField object "disable_send_query"
      (fun c => validateRemoteConfigDisableFlag "disable_send_query" c.disableSendQuery)
      (fun c v => { c with disableSendQuery := v })]

def patchRoots (configFile : List Component) (object : List (String × Json)) :
    AgentConfig → Except String AgentConfig :=
  patchField object "file_allowed_roots"
    (fun c value => do
      let requestedRoots ← validateRemoteConfigRoots value
      validateRemoteConfigRootsWithinPolicy requestedRoots c.fileAllowedRoots configFile
        c.disableCommandExecute
      return requestedRoots)
    (fun c v => { c with fileAllowedRoots := v })

def mergeDiskFlags (current disk : AgentConfig) : AgentConfig :=
  { current with
    disableAutoUpdate := current.disableAutoUpdate || disk.disableAutoUpdate
    disableForceUpdate := current.disableForceUpdate || disk.disableForceUpdate
    disableCommandExecute := current.disableCommandExecute || disk.disableCommandExecute
    disableNat := current.disableNat || disk.disableNat
    disableSendQuery := current.disableSendQuery || disk.disableSendQuery }

/-- The configuration file: what it parses to or why it does not, whether its entry
is a symbolic link, and whether a temporary file lies beside it. -/
structure ConfigFile where
  path : String
  content : Except String AgentConfig
  isSymlink : Bool
  tempFile : Bool

inductive WriteCall where
  | openTemp
  | chmodTemp
  | writeAll
  | syncAll
  | rename
  | chmodFinal
  deriving DecidableEq, Repr

/-- How the file system treats one update: the calls that fail, with their errors, and
the canonical path of the configuration file, or its path as given when it cannot be
resolved. -/
structure FsOutcome where
  configFile : List Component
  readError : Option String
  writeError : Option (WriteCall × String)
  removeFails : Bool

def readDiskConfig (io : FsOutcome) (file : ConfigFile) : Except String AgentConfig :=
  match io.readError with
  | some e => .error e
  | none => file.content

def writeSecureConfig (io : FsOutcome) (file : ConfigFile) (config : AgentConfig) :
    Except String Unit × ConfigFile :=
  if file.isSymlink then
    (.error ("refusing to write config through symlink " ++ file.path), file)
  else if (FsPath.fileName (FsPath.components file.path)).isNone then
    (.error "config path has no valid file name", file)
  else match io.writeError with
    | none => (.ok (), { file with content := .ok config })
    | some (.openTemp, e) => (.error e, file)
    | some (.chmodFinal, e) => (.error e, { file with content := .ok config })
    | some (_, e) => (.error e, { file with tempFile := file.tempFile || io.removeFails })

structure RuntimeContext where
  config : AgentConfig
  file : ConfigFile

def runAgent (file : ConfigFile) : Except String RuntimeContext :=
  file.content.map fun config => ⟨config, file⟩

def parsePatch (parsers : Parsers) (update : ConfigUpdate) :
    Except String (List (String × Json)) := do
  ensure (!(update.configYaml.length > remoteConfigMaxBytes))
    ("remote config payload exceeds " ++ toString remoteConfigMaxBytes ++ " bytes")
  match parsers.json update.configYaml with
  | .error e => .error ("invalid remote config payload: " ++ e)
  | .ok patch => do
    let object ← require patch.asObject "remote config patch must be an object"
    validateRemoteConfigFields object
    return object

def patchedConfig (parsers : Parsers) (configFile : List Component)
    (object : List (String × Json)) (memory disk : AgentConfig) : Except String AgentConfig := do
  let current ← (patchSteps parsers object).foldlM (fun c step => step c)
    (mergeDiskFlags memory disk)
  let current ← patchRoots configFile object current
  validateRemoteTlsConfigConsistency current
  return { current with privateKey := disk.privateKey }

def applyRemoteConfig (parsers : Parsers) (io : FsOutcome)
    (runtime : RuntimeContext) (update : ConfigUpdate) : Except String Unit × RuntimeContext :=
  let next := do
    let object ← parsePatch parsers update
    let disk ← readDiskConfig io runtime.file
    patchedConfig parsers io.configFile object runtime.config disk
  match next with
  | .error e => (.error e, runtime)
  | .ok current =>
    match writeSecureConfig io runtime.file current with
    | (.ok (), file) => (.ok (), ⟨current, file⟩)
    | (.error e, file) => (.error e, { runtime with file })

def RuntimeContext.step (parsers : Parsers) (runtime : RuntimeContext)
    (u : ConfigUpdate × FsOutcome) : RuntimeContext :=
  (applyRemoteConfig parsers u.2 runtime u.1).2

end XLStatus.Agent
