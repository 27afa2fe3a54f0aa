import XLStatus.Agent.DiskDefs
import XLStatus.Agent.Config

/-! What an update of the configuration leaves behind, whichever call on the file fails. -/

namespace XLStatus.Agent.Disk

open XLStatus.Checked List Option

variable {o : DiskOutcome} {path fileName : String} {d : Directory} {text : ByteArray}

theorem tempPath_ne (o : DiskOutcome) (fileName : String) : tempPath o fileName ≠ fileName := by
  intro h
  have hlen := congrArg String.length h
  simp only [tempPath, String.length_append] at hlen
  have hdot : ".".length = 1 := rfl
  omega

/-! ## The calls -/

def leftBy (o : DiskOutcome) (fileName : String) (text : ByteArray) (d : Directory) :
    WriteCall → Directory
  | .openTemp => d
  | .chmodTemp => Function.update d (tempPath o fileName) (some (.file .empty 0o600))
  | .writeAll =>
    Function.update d (tempPath o fileName) (some (.file (text.extract 0 o.written) 0o600))
  | .syncAll | .rename => Function.update d (tempPath o fileName) (some (.file text 0o600))
  | .chmodFinal => Function.update d fileName (some (.file text 0o600))

theorem all_writeCalls_of_used (h : d (tempPath o fileName) ≠ none) (text : ByteArray) :
    ∃ e, Attempt.all (writeCalls o fileName text) d = (.error e, d) := by
  cases hopen : o.fault .openTemp with
  | some e => exact ⟨e, Attempt.all_cons_of_error (by rw [hopen]; rfl)⟩
  | none =>
    refine ⟨Directory.alreadyExists, Attempt.all_cons_of_error ?_⟩
    rw [hopen]
    exact Directory.createNew_of_used h _

theorem all_writeCalls (hunused : d (tempPath o fileName) = none)
    (hfile : d fileName ≠ some .dir) (text : ByteArray) :
    Attempt.all (writeCalls o fileName text) d =
      match o.firstFault with
      | none => (.ok (), Function.update d fileName (some (.file text 0o600)))
      | some (call, e) => (.error e, leftBy o fileName text d call) := by
  have hcreate := Directory.createNew_of_unused hunused 0o600
  have hrename := Directory.rename_update (tempPath_ne o fileName) hunused hfile text 0o600
  -- Each call in turn: its fault ends the calls there, without one they go on.
  simp only [DiskOutcome.firstFault, allCalls, callsToReplace, cons_append, nil_append,
    findSome?_cons, findSome?_nil, writeCalls]
  cases o.fault .openTemp with
  | some => rfl
  | none =>
  rw [Attempt.failing_none, Attempt.all_cons_of_ok hcreate]
  cases o.fault .chmodTemp with
  | some => rfl
  | none =>
  rw [Attempt.failing_none, Attempt.all_cons_of_ok (Directory.setPermissions_update _ _ _)]
  cases o.fault .writeAll with
  | some =>
    exact Attempt.all_cons_of_error (by
      rw [Directory.writeAll, Directory.append_update, ByteArray.empty_append]
      rfl)
  | none =>
  rw [Attempt.all_cons_of_ok (by
    rw [Directory.writeAll, Directory.append_update, ByteArray.empty_append])]
  cases o.fault .syncAll with
  | some => rfl
  | none =>
  rw [Attempt.failing_none, Attempt.all_cons_of_ok Directory.syncAll_eq]
  cases o.fault .rename with
  | some => rfl
  | none =>
  rw [Attempt.failing_none, Attempt.all_cons_of_ok hrename]
  cases o.fault .chmodFinal with
  | some => rfl
  | none => exact Attempt.all_cons_of_ok (Directory.setPermissions_update _ _ _)

theorem firstFault_cases (o : DiskOutcome) :
    ((∀ call ∈ callsToReplace, o.fault call = none) ∧
      o.firstFault = (o.fault .chmodFinal).map (.chmodFinal, ·)) ∨
    ∃ call ∈ callsToReplace, ∃ e, o.fault call = some e ∧ o.firstFault = some (call, e) := by
  have happend : o.firstFault =
      (callsToReplace.findSome? fun call => (o.fault call).map (call, ·)).or
        ((o.fault .chmodFinal).map (.chmodFinal, ·)) := by
    rw [DiskOutcome.firstFault, allCalls, findSome?_append, findSome?_singleton]
  cases hfind : callsToReplace.findSome? fun call => (o.fault call).map (call, ·) with
  | none =>
    rw [hfind, none_or] at happend
    refine .inl ⟨fun call hcall => ?_, happend⟩
    simpa using findSome?_eq_none_iff.mp hfind call hcall
  | some =>
    rw [hfind, some_or] at happend
    obtain ⟨call, hcall, hfault⟩ := exists_of_findSome?_eq_some hfind
    obtain ⟨e, he, rfl⟩ := map_eq_some_iff.mp hfault
    exact .inr ⟨call, hcall, e, he, happend⟩

theorem removeTemp_of_unused (h : d (tempPath o fileName) = none) :
    (removeTemp o fileName d).2 = d := by
  unfold removeTemp
  cases o.removeError with
  | none => exact Directory.removeFile_of_unused h
  | some => rfl

theorem removeTemp_leftBy {call : WriteCall} (hcall : call ∈ callsToReplace)
    (hunused : d (tempPath o fileName) = none) (text : ByteArray) :
    (removeTemp o fileName (leftBy o fileName text d call)).2 =
      if o.removeError.isSome then leftBy o fileName text d call else d := by
  unfold removeTemp
  cases o.removeError with
  | some => rfl
  | none =>
    cases call with
    | openTemp => exact Directory.removeFile_of_unused hunused
    | chmodTemp => exact Directory.removeFile_update hunused _ _
    | writeAll => exact Directory.removeFile_update hunused _ _
    | syncAll => exact Directory.removeFile_update hunused _ _
    | rename => exact Directory.removeFile_update hunused _ _
    | chmodFinal => simp [callsToReplace] at hcall

theorem leftBy_chmodFinal_unused (hunused : d (tempPath o fileName) = none) (text : ByteArray) :
    leftBy o fileName text d .chmodFinal (tempPath o fileName) = none := by
  rw [leftBy, Function.update_of_ne (tempPath_ne o fileName), hunused]

/-! ## Writing -/

theorem replaces_iff : replaces o d fileName = true ↔
    isSymlink o d fileName = false ∧ d (tempPath o fileName) = none ∧
      ∀ call ∈ callsToReplace, o.fault call = none := by
  simp [replaces, and_assoc]

section Write

variable (hname : FsPath.fileName (FsPath.components path) = some fileName)

include hname

theorem writeSecureConfig_of_symlink (h : isSymlink o d fileName = true) (text : ByteArray) :
    writeSecureConfig o path text d =
      (.error ("refusing to write config through symlink " ++ path), d) := by
  simp [writeSecureConfig, hname, h]

theorem writeSecureConfig_of_not_symlink (h : isSymlink o d fileName = false) (text : ByteArray) :
    writeSecureConfig o path text d =
      (Attempt.all (writeCalls o fileName text)).onError (removeTemp o fileName) d := by
  simp [writeSecureConfig, hname, h]

theorem writeSecureConfig_of_replaces (hfile : d fileName ≠ some .dir)
    (h : replaces o d fileName = true) (text : ByteArray) :
    writeSecureConfig o path text d =
      ((match o.fault .chmodFinal with
        | none => .ok ()
        | some e => .error e),
        Function.update d fileName (some (.file text 0o600))) := by
  obtain ⟨hlink, hunused, hfaults⟩ := replaces_iff.mp h
  have hall := all_writeCalls hunused hfile text
  rw [writeSecureConfig_of_not_symlink hname hlink]
  rcases firstFault_cases o with ⟨-, hfirst⟩ | ⟨call, hcall, e, he, -⟩
  · rw [hfirst] at hall
    cases hchmod : o.fault .chmodFinal with
    | none =>
      rw [hchmod] at hall
      exact Attempt.onError_of_ok hall
    | some =>
      rw [hchmod] at hall
      rw [Attempt.onError_of_error hall,
        removeTemp_of_unused (leftBy_chmodFinal_unused hunused text)]
      rfl
  · rw [hfaults call hcall] at he
    cases he

theorem writeSecureConfig_of_not_replaces (hfile : d fileName ≠ some .dir)
    (hremove : o.removeError = none) (h : ¬ replaces o d fileName = true) (text : ByteArray) :
    ∃ e d', writeSecureConfig o path text d = (.error e, d') ∧
      (d' = d ∨ d' = (Directory.removeFile (tempPath o fileName) d).2) := by
  cases hlink : isSymlink o d fileName with
  | true => exact ⟨_, d, writeSecureConfig_of_symlink hname hlink text, .inl rfl⟩
  | false =>
    rw [writeSecureConfig_of_not_symlink hname hlink]
    by_cases hunused : d (tempPath o fileName) = none
    · have hall := all_writeCalls hunused hfile text
      rcases firstFault_cases o with ⟨hnone, -⟩ | ⟨call, hcall, e, -, hfirst⟩
      · exact absurd (replaces_iff.mpr ⟨hlink, hunused, hnone⟩) h
      · rw [hfirst] at hall
        refine ⟨e, _, Attempt.onError_of_error hall, .inl ?_⟩
        rw [removeTemp_leftBy hcall hunused, hremove]
        rfl
    · obtain ⟨e, hall⟩ := all_writeCalls_of_used hunused text
      refine ⟨e, _, Attempt.onError_of_error hall, .inr ?_⟩
      rw [removeTemp, hremove, Attempt.failing_none]

end Write

/-! ## The update -/

theorem contents_update (hname : FsPath.fileName (FsPath.components path) = some fileName)
    (bytes : ByteArray) (mode : ℕ) :
    contents o path (Function.update d fileName (some (.file bytes mode))) = some bytes := by
  rw [contents, hname, bind_some, Directory.contents_update]

theorem diskConfig_update {format : ConfigFormat} {config : AgentConfig} {serialized : String}
    (hname : FsPath.fileName (FsPath.components path) = some fileName)
    (h : format.toStringPretty config = .ok serialized) (mode : ℕ) :
    diskConfig format o path
      (Function.update d fileName (some (.file serialized.toUTF8 mode))) = .ok config := by
  have hutf8 : String.fromUTF8? serialized.toUTF8 = some serialized :=
    dif_pos serialized.isValidUTF8
  exact bind_eq_ok.mpr ⟨_, require_eq_ok.mpr (contents_update hname _ _),
    bind_eq_ok.mpr ⟨_, require_eq_ok.mpr hutf8, format.fromStr_toStringPretty config _ h⟩⟩

theorem file_of_nextConfig {parsers : Parsers} {format : ConfigFormat} {host : Host}
    {update : ConfigUpdate} {current : AgentConfig}
    (h : nextConfig parsers format o path host update = .ok current) :
    ∃ fileName, FsPath.fileName (FsPath.components path) = some fileName ∧
      host.dir fileName ≠ some .dir ∧ host.dir fileName ≠ none := by
  obtain ⟨object, -, hrest⟩ := bind_eq_ok.mp h
  obtain ⟨disk, hdisk, -⟩ := bind_eq_ok.mp hrest
  unfold readDiskConfig at hdisk
  split at hdisk
  · cases hdisk
  · obtain ⟨bytes, hbytes, -⟩ := bind_eq_ok.mp hdisk
    obtain ⟨fileName, hname, hcontents⟩ := bind_eq_some_iff.mp (require_eq_ok.mp hbytes)
    refine ⟨fileName, hname, fun hdir => ?_, fun hnone => ?_⟩
    · simp [Directory.contents, hdir] at hcontents
    · simp [Directory.contents, hnone] at hcontents

section Update

variable {parsers : Parsers} {format : ConfigFormat} {host : Host} {update : ConfigUpdate}

theorem applyRemoteConfig_of_replaces {current : AgentConfig} {serialized : String}
    (hnext : nextConfig parsers format o path host update = .ok current)
    (hserialized : format.toStringPretty current = .ok serialized)
    (hname : FsPath.fileName (FsPath.components path) = some fileName)
    (hrep : replaces o host.dir fileName = true) :
    applyRemoteConfig parsers format o path host update =
      match o.fault .chmodFinal with
      | none => (.ok (), ⟨current, Function.update host.dir fileName
          (some (.file serialized.toUTF8 0o600))⟩)
      | some e => (.error e, ⟨host.config, Function.update host.dir fileName
          (some (.file serialized.toUTF8 0o600))⟩) := by
  obtain ⟨fileName', hname', hfile, -⟩ := file_of_nextConfig hnext
  obtain rfl : fileName' = fileName := some.inj (hname'.symm.trans hname)
  simp only [applyRemoteConfig, hnext, persistAgentConfig, hserialized,
    writeSecureConfig_of_replaces hname hfile hrep]
  cases o.fault .chmodFinal with
  | none => rfl
  | some => rfl

theorem applyRemoteConfig_spec (hremove : o.removeError = none) :
    (replacement parsers format o path host update = none ∧
      ∃ e dir,
        applyRemoteConfig parsers format o path host update = (.error e, ⟨host.config, dir⟩) ∧
        contents o path dir = contents o path host.dir ∧
        ∀ name, dir name ≠ none → host.dir name ≠ none) ∨
    ∃ current serialized fileName, format.toStringPretty current = .ok serialized ∧
      FsPath.fileName (FsPath.components path) = some fileName ∧ host.dir fileName ≠ none ∧
      replacement parsers format o path host update = some serialized.toUTF8 ∧
      applyRemoteConfig parsers format o path host update =
        match o.fault .chmodFinal with
        | none => (.ok (), ⟨current, Function.update host.dir fileName
            (some (.file serialized.toUTF8 0o600))⟩)
        | some e => (.error e, ⟨host.config, Function.update host.dir fileName
            (some (.file serialized.toUTF8 0o600))⟩) := by
  cases hnext : nextConfig parsers format o path host update with
  | error e =>
    refine .inl ⟨?_, e, host.dir, ?_, rfl, fun _ h => h⟩
    · rw [replacement, hnext]
      rfl
    · simp only [applyRemoteConfig, hnext]
  | ok current =>
    obtain ⟨fileName, hname, hfile, hsome⟩ := file_of_nextConfig hnext
    have hbind : (Except.ok current >>= format.toStringPretty) = format.toStringPretty current :=
      rfl
    cases hserialized : format.toStringPretty current with
    | error e =>
      refine .inl ⟨?_, e, host.dir, ?_, rfl, fun _ h => h⟩
      · rw [replacement, hnext, hbind, hserialized]
      · simp only [applyRemoteConfig, hnext, persistAgentConfig, hserialized]
    | ok serialized =>
      have hreplacement : replacement parsers format o path host update =
          if replaces o host.dir fileName then some serialized.toUTF8 else none := by
        rw [replacement, hnext, hbind, hserialized, hname]
      by_cases hrep : replaces o host.dir fileName = true
      · exact .inr ⟨current, serialized, fileName, hserialized, hname, hsome,
          hreplacement.trans (if_pos hrep),
          applyRemoteConfig_of_replaces hnext hserialized hname hrep⟩
      · obtain ⟨e, dir, hwrite, hdir⟩ := writeSecureConfig_of_not_replaces hname hfile hremove
          hrep serialized.toUTF8
        refine .inl ⟨hreplacement.trans (if_neg hrep), e, dir, ?_, ?_, ?_⟩
        · simp only [applyRemoteConfig, hnext, persistAgentConfig, hserialized, hwrite]
        · rcases hdir with rfl | rfl
          · rfl
          · rw [contents, contents, hname, bind_some, bind_some]
            exact Directory.contents_congr _
              (Directory.removeFile_of_ne (tempPath_ne o fileName).symm)
        · rcases hdir with rfl | rfl
          · exact fun _ h => h
          · exact fun _ h => Directory.ne_none_of_removeFile h

end Update

/-! The file of the agent in `Sample`, and a system on which setting permissions fails. -/

namespace DiskSample

def configPath : String := "/etc/xlstatus/agent.json"

def renamed : AgentConfig := { Sample.config with name := "edge" }

def pretty (name : String) : String :=
  "\x7b\n  \"server\": \"http://dashboard.example\",\n  \"grpc_server\": " ++
  "\"http://dashboard.example:50051\",\n  \"grpc_tls_ca_path\": null,\n  " ++
  "\"grpc_tls_domain_name\": null,\n  \"grpc_tls_client_cert_path\": null,\n  " ++
  "\"grpc_tls_client_key_path\": null,\n  \"agent_id\": \"agent-1\",\n  \"name\": \"" ++ name ++
  "\",\n  \"public_key\": \"\",\n  \"private_key\": \"private-key\",\n  " ++
  "\"report_interval_seconds\": 3,\n  \"ip_report_interval_seconds\": 60,\n  " ++
  "\"disable_auto_update\": false,\n  \"disable_force_update\": false,\n  " ++
  "\"disable_command_execute\": false,\n  \"disable_nat\": false,\n  " ++
  "\"disable_send_query\": false,\n  \"file_allowed_roots\": [\n    " ++
  "\"/srv/xlstatus/workspace\"\n  ]\n\x7d"

theorem pretty_inj {name name' : String} (h : pretty name = pretty name') : name = name' := by
  unfold pretty at h
  iterate 6 rw [String.append_left_inj] at h
  exact (String.append_right_inj _).mp h

theorem pretty_ne : pretty "edge" ≠ pretty "agent-1" := fun h => absurd (pretty_inj h) (by decide)

def format : ConfigFormat where
  toStringPretty := fun config =>
    if config = Sample.config then .ok (pretty "agent-1")
    else if config = renamed then .ok (pretty "edge")
    else .error "not one of the two"
  fromStr := fun text =>
    if text = pretty "agent-1" then .ok Sample.config
    else if text = pretty "edge" then .ok renamed
    else .error "expected value at line 1 column 1"
  fromStr_toStringPretty := by
    intro config text h
    split_ifs at h with hfirst hsecond
    · cases h
      rw [if_pos rfl, hfirst]
    · cases h
      rw [if_neg pretty_ne, if_pos rfl, hsecond]

def system (fault : WriteCall → Option String) : DiskOutcome where
  configFile := FsPath.components configPath
  pid := 4711
  random := "9f86d081884c7d659a2feaa0c55ad015a3bf4f1b2b0b822cd15d6c15b0f00a08"
  follow := fun _ => none
  readError := none
  symlinkMetadataFails := false
  fault := fault
  written := 0
  removeError := none

def chmodDenied : DiskOutcome :=
  system fun call =>
    if call = .chmodFinal then some "Operation not permitted (os error 1)" else none

def diskFull : DiskOutcome :=
  system fun call =>
    if call = .writeAll then some "No space left on device (os error 28)" else none

def host : Host where
  config := Sample.config
  dir := Function.update (fun _ => none) "agent.json"
    (some (.file (pretty "agent-1").toUTF8 0o600))

theorem fileName_configPath :
    FsPath.fileName (FsPath.components configPath) = some "agent.json" := by
  decide

theorem toStringPretty_config : format.toStringPretty Sample.config = .ok (pretty "agent-1") := by
  simp [format]

theorem toStringPretty_renamed : format.toStringPretty renamed = .ok (pretty "edge") := by
  have hne : renamed ≠ Sample.config := fun h =>
    absurd (congrArg AgentConfig.name h) (by decide)
  simp [format, hne]

theorem nextConfig_rename (fault : WriteCall → Option String) :
    nextConfig Sample.parsers format (system fault) configPath host Sample.rename =
      .ok renamed := by
  have hread : readDiskConfig format (system fault) configPath host.dir = .ok Sample.config :=
    diskConfig_update fileName_configPath toStringPretty_config _
  have hpatched : (do
      let object ← parsePatch Sample.parsers Sample.rename
      patchedConfig Sample.parsers (FsPath.components configPath) object Sample.config
        Sample.config) = .ok renamed := by
    decide +kernel
  rw [nextConfig, hread]
  exact hpatched

end DiskSample

/-- Whichever calls fail, an update has no effect unless it succeeds, exactly when setting the
permissions of the new file does not fail or what was put in its place is what it held. -/
theorem no_effect_on_error_iff (parsers : Parsers) (format : ConfigFormat) (o : DiskOutcome)
    (path : String) (host : Host) (update : ConfigUpdate) (hremove : o.removeError = none) :
    NoEffectOnError format o path host (applyRemoteConfig parsers format o path host update) ↔
      o.fault .chmodFinal = none ∨
        ∀ text, replacement parsers format o path host update = some text →
          contents o path host.dir = some text := by
  rcases applyRemoteConfig_spec hremove with ⟨hnone, e, dir, happly, hcontents, hsubset⟩ |
    ⟨current, serialized, fileName, hserialized, hname, hsome, hrep, happly⟩
  · rw [happly]
    refine ⟨fun _ => .inr fun text h => ?_, fun _ => ?_⟩
    · rw [hnone] at h
      cases h
    · exact ⟨fun _ _ => rfl, fun _ _ => hcontents, fun _ _ => hsubset, nofun⟩
  · rw [happly]
    cases o.fault .chmodFinal with
    | none =>
      refine ⟨fun _ => .inl rfl, fun _ => ⟨nofun, nofun, nofun, fun _ => ?_⟩⟩
      exact diskConfig_update hname hserialized _
    | some e =>
      constructor
      · intro h
        refine .inr fun text htext => ?_
        rw [hrep] at htext
        rw [← h.file e rfl, ← htext]
        exact contents_update hname _ _
      · rintro (hfault | hsame)
        · cases hfault
        · refine ⟨fun _ _ => rfl, fun _ _ => ?_, fun _ _ _ hnew => ?_, nofun⟩
          · exact (contents_update hname _ _).trans (hsame _ hrep).symm
          · exact Directory.ne_none_of_update hsome hnew

theorem no_effect_on_error_iff_disk_full :
    NoEffectOnError DiskSample.format DiskSample.diskFull DiskSample.configPath DiskSample.host
      (applyRemoteConfig Sample.parsers DiskSample.format DiskSample.diskFull
        DiskSample.configPath DiskSample.host Sample.rename) :=
  (no_effect_on_error_iff Sample.parsers DiskSample.format DiskSample.diskFull
    DiskSample.configPath DiskSample.host Sample.rename rfl).mpr (.inl rfl)

theorem refused_update_changes_file :
    (applyRemoteConfig Sample.parsers DiskSample.format DiskSample.chmodDenied
        DiskSample.configPath DiskSample.host Sample.rename).1 =
      .error "Operation not permitted (os error 1)" ∧
    (applyRemoteConfig Sample.parsers DiskSample.format DiskSample.chmodDenied
        DiskSample.configPath DiskSample.host Sample.rename).2.config.name = "agent-1" ∧
    diskConfig DiskSample.format DiskSample.chmodDenied DiskSample.configPath
        (applyRemoteConfig Sample.parsers DiskSample.format DiskSample.chmodDenied
          DiskSample.configPath DiskSample.host Sample.rename).2.dir =
      .ok { Sample.config with name := "edge" } := by
  have hrep : replaces DiskSample.chmodDenied DiskSample.host.dir "agent.json" = true := by
    decide +kernel
  have hnext : nextConfig Sample.parsers DiskSample.format DiskSample.chmodDenied
      DiskSample.configPath DiskSample.host Sample.rename = .ok DiskSample.renamed :=
    DiskSample.nextConfig_rename _
  rw [applyRemoteConfig_of_replaces hnext DiskSample.toStringPretty_renamed
    DiskSample.fileName_configPath hrep]
  exact ⟨rfl, rfl, diskConfig_update DiskSample.fileName_configPath
    DiskSample.toStringPretty_renamed _⟩

/-! ## The parsed file -/

section Refines

variable {format : ConfigFormat}

theorem toConfigFile_replaced {config : AgentConfig} {serialized : String}
    (hname : FsPath.fileName (FsPath.components path) = some fileName)
    (hlink : isSymlink o d fileName = false)
    (h : format.toStringPretty config = .ok serialized) (mode : ℕ) :
    toConfigFile format o path fileName
        (Function.update d fileName (some (.file serialized.toUTF8 mode))) =
      { toConfigFile format o path fileName d with content := .ok config } := by
  have hlink' : isSymlink o (Function.update d fileName (some (.file serialized.toUTF8 mode)))
      fileName = false := by
    simp [isSymlink, DirEntry.isSymlink]
  rw [toConfigFile, toConfigFile, diskConfig_update hname h, hlink', hlink,
    Function.update_of_ne (tempPath_ne o fileName)]

theorem toConfigFile_temp (hname : FsPath.fileName (FsPath.components path) = some fileName)
    (data : ByteArray) (mode : ℕ) :
    toConfigFile format o path fileName
        (Function.update d (tempPath o fileName) (some (.file data mode))) =
      { toConfigFile format o path fileName d with tempFile := true } := by
  have hfile := Function.update_of_ne (tempPath_ne o fileName).symm (some (.file data mode)) d
  have hcontents : contents o path (Function.update d (tempPath o fileName)
      (some (.file data mode))) = contents o path d := by
    rw [contents, contents, hname, bind_some, bind_some]
    exact Directory.contents_congr _ hfile
  simp [toConfigFile, diskConfig, hcontents, isSymlink, hfile]

theorem toConfigFile_removeTemp (format : ConfigFormat) (call : WriteCall)
    (hcall : call ∈ callsToReplace) (hopen : call ≠ .openTemp)
    (hname : FsPath.fileName (FsPath.components path) = some fileName)
    (hunused : d (tempPath o fileName) = none) (text : ByteArray) :
    toConfigFile format o path fileName
        (removeTemp o fileName (leftBy o fileName text d call)).2 =
      { toConfigFile format o path fileName d with
        tempFile := (toConfigFile format o path fileName d).tempFile || o.removeError.isSome } := by
  rw [removeTemp_leftBy hcall hunused]
  cases o.removeError with
  | none => simp only [isSome_none, Bool.or_false]; rfl
  | some =>
    simp only [isSome_some, Bool.or_true, if_true]
    cases call with
    | openTemp => exact absurd rfl hopen
    | chmodTemp => exact toConfigFile_temp hname _ _
    | writeAll => exact toConfigFile_temp hname _ _
    | syncAll => exact toConfigFile_temp hname _ _
    | rename => exact toConfigFile_temp hname _ _
    | chmodFinal => simp [callsToReplace] at hcall

theorem writeSecureConfig_refines {config : AgentConfig} {serialized : String}
    (hname : FsPath.fileName (FsPath.components path) = some fileName)
    (hfile : d fileName ≠ some .dir) (hunused : d (tempPath o fileName) = none)
    (h : format.toStringPretty config = .ok serialized) :
    Agent.writeSecureConfig o.toFsOutcome (toConfigFile format o path fileName d) config =
      ((writeSecureConfig o path serialized.toUTF8 d).1,
        toConfigFile format o path fileName (writeSecureConfig o path serialized.toUTF8 d).2) := by
  have hisNone : (FsPath.fileName (FsPath.components
      (toConfigFile format o path fileName d).path)).isNone = false := by
    rw [toConfigFile, hname]
    rfl
  cases hlink : isSymlink o d fileName with
  | true =>
    rw [writeSecureConfig_of_symlink hname hlink, Agent.writeSecureConfig]
    exact if_pos hlink
  | false =>
    rw [writeSecureConfig_of_not_symlink hname hlink, Agent.writeSecureConfig,
      if_neg (by rw [toConfigFile, hlink]; exact Bool.false_ne_true), hisNone,
      if_neg Bool.false_ne_true]
    have hall := all_writeCalls hunused hfile serialized.toUTF8
    have hwriteError : o.toFsOutcome.writeError = o.firstFault := rfl
    rw [hwriteError]
    cases hfirst : o.firstFault with
    | none =>
      rw [hfirst] at hall
      rw [Attempt.onError_of_ok hall, toConfigFile_replaced hname hlink h]
    | some fault =>
      obtain ⟨call, e⟩ := fault
      rw [hfirst] at hall
      rw [Attempt.onError_of_error hall]
      have htemp := fun call hcall hopen => (toConfigFile_removeTemp format call hcall hopen hname
        hunused serialized.toUTF8).symm
      cases call with
      | openTemp => rw [leftBy, removeTemp_of_unused hunused]
      | chmodFinal =>
        rw [removeTemp_of_unused (leftBy_chmodFinal_unused hunused _), leftBy,
          toConfigFile_replaced hname hlink h]
      | chmodTemp => exact congrArg _ (htemp _ (by decide) (by decide))
      | writeAll => exact congrArg _ (htemp _ (by decide) (by decide))
      | syncAll => exact congrArg _ (htemp _ (by decide) (by decide))
      | rename => exact congrArg _ (htemp _ (by decide) (by decide))

/-- An update call by call is the update of the parsed file, as long as the temporary name is
unused. -/
theorem applyRemoteConfig_refines (parsers : Parsers) (host : Host) (update : ConfigUpdate)
    (hname : FsPath.fileName (FsPath.components path) = some fileName)
    (hunused : host.dir (tempPath o fileName) = none)
    (hserialize : ∀ config, ∃ serialized, format.toStringPretty config = .ok serialized) :
    Agent.applyRemoteConfig parsers o.toFsOutcome
        (host.toRuntimeContext format o path fileName) update =
      ((applyRemoteConfig parsers format o path host update).1,
        (applyRemoteConfig parsers format o path host update).2.toRuntimeContext
          format o path fileName) := by
  have hnext : (do
      let object ← parsePatch parsers update
      let disk ← Agent.readDiskConfig o.toFsOutcome (toConfigFile format o path fileName host.dir)
      patchedConfig parsers o.toFsOutcome.configFile object host.config disk) =
      nextConfig parsers format o path host update := rfl
  unfold Agent.applyRemoteConfig applyRemoteConfig
  simp only [Host.toRuntimeContext, hnext]
  cases hcurrent : nextConfig parsers format o path host update with
  | error => rfl
  | ok current =>
    obtain ⟨serialized, h⟩ := hserialize current
    obtain ⟨fileName', hname', hfile, -⟩ := file_of_nextConfig hcurrent
    obtain rfl : fileName' = fileName := some.inj (hname'.symm.trans hname)
    simp only [persistAgentConfig, h, writeSecureConfig_refines hname hfile hunused h]
    cases writeSecureConfig o path serialized.toUTF8 host.dir with
    | mk result =>
      cases result with
      | error => rfl
      | ok => rfl

end Refines

end XLStatus.Agent.Disk
