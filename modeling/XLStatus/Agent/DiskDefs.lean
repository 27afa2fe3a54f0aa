import XLStatus.Agent.ConfigDefs
import XLStatus.Lib.Directory

/-! The agent's configuration file call by call: `apply_remote_config`, `read_disk_config`,
`persist_agent_config` and `write_secure_config` of `crates/agent/src/main.rs` on the directory
the file lies in, as on Unix. -/

namespace XLStatus.Agent.Disk

open FsPath (Component)
open XLStatus.Checked

structure ConfigFormat where
  toStringPretty : AgentConfig → Except String String
  fromStr : String → Except String AgentConfig
  fromStr_toStringPretty : ∀ config text, toStringPretty config = .ok text →
    fromStr text = .ok config

/-- How the system treats one update: the name of the temporary file is made of `pid` and
`random`, a call with a fault fails, a write that fails has written so many bytes, and
`follow` reads through a symbolic link. -/
structure DiskOutcome where
  configFile : List Component
  pid : ℕ
  random : String
  follow : String → Option ByteArray
  readError : Option String
  symlinkMetadataFails : Bool
  fault : WriteCall → Option String
  written : ℕ
  removeError : Option String

def tempPath (o : DiskOutcome) (fileName : String) : String :=
  "." ++ fileName ++ ".tmp." ++ toString o.pid ++ "." ++ o.random

def writeCalls (o : DiskOutcome) (fileName : String) (contents : ByteArray) :
    List (Attempt Directory) :=
  let temp := tempPath o fileName
  [.failing (o.fault .openTemp) (Directory.createNew temp 0o600),
    .failing (o.fault .chmodTemp) (Directory.setPermissions temp 0o600),
    Directory.writeAll (o.fault .writeAll) o.written temp contents,
    .failing (o.fault .syncAll) Directory.syncAll,
    .failing (o.fault .rename) (Directory.rename temp fileName),
    .failing (o.fault .chmodFinal) (Directory.setPermissions fileName 0o600)]

def removeTemp (o : DiskOutcome) (fileName : String) : Attempt Directory :=
  .failing o.removeError (Directory.removeFile (tempPath o fileName))

def isSymlink (o : DiskOutcome) (d : Directory) (fileName : String) : Bool :=
  !o.symlinkMetadataFails && (d fileName).any DirEntry.isSymlink

-- A path without a file name is no symbolic link, so the order of the two checks is immaterial.
def writeSecureConfig (o : DiskOutcome) (path : String) (contents : ByteArray) :
    Attempt Directory := fun d =>
  match FsPath.fileName (FsPath.components path) with
  | none => (.error "config path has no valid file name", d)
  | some fileName =>
    if isSymlink o d fileName then
      (.error ("refusing to write config through symlink " ++ path), d)
    else
      (Attempt.all (writeCalls o fileName contents)).onError (removeTemp o fileName) d

def persistAgentConfig (format : ConfigFormat) (o : DiskOutcome) (path : String)
    (config : AgentConfig) : Attempt Directory := fun d =>
  match format.toStringPretty config with
  | .error e => (.error e, d)
  | .ok serialized => writeSecureConfig o path serialized.toUTF8 d

def contents (o : DiskOutcome) (path : String) (d : Directory) : Option ByteArray :=
  (FsPath.fileName (FsPath.components path)).bind (d.contents o.follow)

def diskConfig (format : ConfigFormat) (o : DiskOutcome) (path : String) (d : Directory) :
    Except String AgentConfig := do
  let bytes ← require (contents o path d) Directory.notFound
  let configText ← require (String.fromUTF8? bytes) "stream did not contain valid UTF-8"
  format.fromStr configText

def readDiskConfig (format : ConfigFormat) (o : DiskOutcome) (path : String) (d : Directory) :
    Except String AgentConfig :=
  match o.readError with
  | some e => .error e
  | none => diskConfig format o path d

structure Host where
  config : AgentConfig
  dir : Directory

def nextConfig (parsers : Parsers) (format : ConfigFormat) (o : DiskOutcome) (path : String)
    (host : Host) (update : ConfigUpdate) : Except String AgentConfig := do
  let object ← parsePatch parsers update
  let disk ← readDiskConfig format o path host.dir
  patchedConfig parsers o.configFile object host.config disk

def applyRemoteConfig (parsers : Parsers) (format : ConfigFormat) (o : DiskOutcome)
    (path : String) (host : Host) (update : ConfigUpdate) : Except String Unit × Host :=
  match nextConfig parsers format o path host update with
  | .error e => (.error e, host)
  | .ok current =>
    match persistAgentConfig format o path current host.dir with
    | (.ok (), dir) => (.ok (), ⟨current, dir⟩)
    | (.error e, dir) => (.error e, { host with dir })

def callsToReplace : List WriteCall :=
  [.openTemp, .chmodTemp, .writeAll, .syncAll, .rename]

def replaces (o : DiskOutcome) (d : Directory) (fileName : String) : Bool :=
  !isSymlink o d fileName && (d (tempPath o fileName)).isNone &&
    callsToReplace.all fun call => (o.fault call).isNone

def replacement (parsers : Parsers) (format : ConfigFormat) (o : DiskOutcome) (path : String)
    (host : Host) (update : ConfigUpdate) : Option ByteArray :=
  match nextConfig parsers format o path host update >>= format.toStringPretty,
    FsPath.fileName (FsPath.components path) with
  | .ok serialized, some fileName =>
    if replaces o host.dir fileName then some serialized.toUTF8 else none
  | _, _ => none

/-- An update that fails leaves the configuration in memory and the bytes of the file as they
were, and no file beside it; after one that succeeds the file holds what is in memory. -/
structure NoEffectOnError (format : ConfigFormat) (o : DiskOutcome) (path : String) (host : Host)
    (after : Except String Unit × Host) : Prop where
  memory : ∀ e, after.1 = .error e → after.2.config = host.config
  file : ∀ e, after.1 = .error e → contents o path after.2.dir = contents o path host.dir
  noTemp : ∀ e, after.1 = .error e → ∀ name, after.2.dir name ≠ none → host.dir name ≠ none
  equal : after.1 = .ok () → diskConfig format o path after.2.dir = .ok after.2.config

def allCalls : List WriteCall := callsToReplace ++ [.chmodFinal]

def DiskOutcome.firstFault (o : DiskOutcome) : Option (WriteCall × String) :=
  allCalls.findSome? fun call => (o.fault call).map (call, ·)

def DiskOutcome.toFsOutcome (o : DiskOutcome) : FsOutcome where
  configFile := o.configFile
  readError := o.readError
  writeError := o.firstFault
  removeFails := o.removeError.isSome

def toConfigFile (format : ConfigFormat) (o : DiskOutcome) (path fileName : String)
    (d : Directory) : ConfigFile where
  path := path
  content := diskConfig format o path d
  isSymlink := isSymlink o d fileName
  tempFile := (d (tempPath o fileName)).isSome

def Host.toRuntimeContext (format : ConfigFormat) (o : DiskOutcome) (path fileName : String)
    (host : Host) : RuntimeContext :=
  ⟨host.config, toConfigFile format o path fileName host.dir⟩

end XLStatus.Agent.Disk
