import XLStatus.Agent.ConfigDefs

/-! What remote updates can and cannot do to the agent's policy. Flags are merged with
the file and only ever set; the roots are compared with those in memory, so a list
that was narrowed in the file alone is not seen. -/

namespace XLStatus.Agent

open FsPath (Component Under)
open Checked Transition

/-! ## The policy in a configuration -/

inductive DisableFlag where
  | autoUpdate
  | forceUpdate
  | commandExecute
  | nat
  | sendQuery
  deriving DecidableEq

def AgentConfig.disabled (c : AgentConfig) : DisableFlag → Bool
  | .autoUpdate => c.disableAutoUpdate
  | .forceUpdate => c.disableForceUpdate
  | .commandExecute => c.disableCommandExecute
  | .nat => c.disableNat
  | .sendQuery => c.disableSendQuery

def AgentConfig.identity (c : AgentConfig) : String × String × String :=
  (c.agentId, c.publicKey, c.privateKey)

def rootPaths (roots : List String) : List (List Component) :=
  roots.map fun root => FsPath.components (Text.trim root)

def AgentConfig.Admits (c : AgentConfig) (path : List Component) : Prop :=
  Under (rootPaths c.fileAllowedRoots) path

instance (c : AgentConfig) (path : List Component) : Decidable (c.Admits path) :=
  inferInstanceAs (Decidable (Under _ _))

/-! ## Validated values -/

variable {value : Json} {field : String} {configFile : List Component}
  {object : List (String × Json)} {c' c : AgentConfig} {α : Type}

theorem validateDisableFlag_ok {current requested : Bool}
    (h : validateRemoteConfigDisableFlag field current value = .ok requested) :
    current = true → requested = true := by
  obtain ⟨b, -, h⟩ := bind_eq_ok.mp h
  obtain ⟨_, hkeep, h⟩ := bind_eq_ok.mp h
  obtain rfl := pure_eq_ok.mp h
  rw [ensure_eq_ok] at hkeep
  intro hcur
  simpa [hcur] using hkeep

theorem validateNormalizedAbsolutePath_ok {text : String} {path : List Component}
    (h : validateNormalizedAbsolutePath text field = .ok path) :
    path = FsPath.components text := by
  unfold validateNormalizedAbsolutePath at h
  simp only [bind_eq_ok, pure_eq_ok] at h
  obtain ⟨_, -, _, -, _, -, _, -, _, -, h⟩ := h
  exact h.symm

theorem validateRemoteConfigRoot_ok {root : String}
    (h : validateRemoteConfigRoot value = .ok root) : Text.trim root = root := by
  unfold validateRemoteConfigRoot at h
  simp only [bind_eq_ok, pure_eq_ok] at h
  obtain ⟨text, -, _, -, _, -, h⟩ := h
  rw [← h, Text.trim_trim]

theorem validateRemoteConfigRoots_ok {roots : List String}
    (h : validateRemoteConfigRoots value = .ok roots) : ∀ root ∈ roots, Text.trim root = root := by
  unfold validateRemoteConfigRoots at h
  simp only [bind_eq_ok] at h
  obtain ⟨items, -, _, -, h⟩ := h
  intro root hroot
  obtain ⟨_, -, hvalue⟩ := exists_of_mem_mapM h hroot
  exact validateRemoteConfigRoot_ok hvalue

theorem validateCandidateRoot_ok {allowed : List (List Component)} {candidate : String}
    (h : validateCandidateRoot allowed configFile candidate = .ok ()) :
    Under allowed (FsPath.components candidate) := by
  unfold validateCandidateRoot at h
  simp only [bind_eq_ok, ensure_eq_ok] at h
  obtain ⟨path, hpath, _, -, _, -, hany⟩ := h
  obtain rfl := validateNormalizedAbsolutePath_ok hpath
  obtain ⟨base, hbase, hpre⟩ := List.any_eq_true.mp hany
  exact ⟨base, hbase, FsPath.startsWith_iff.mp hpre⟩

theorem validateRootsWithinPolicy_ok {requested current : List String} {disabled : Bool}
    (h : validateRemoteConfigRootsWithinPolicy requested current configFile disabled = .ok ()) :
    disabled = false ∧
      ∀ root ∈ requested, Under (rootPaths current) (FsPath.components root) := by
  unfold validateRemoteConfigRootsWithinPolicy at h
  simp only [bind_eq_ok, ensure_eq_ok, forM_eq_ok] at h
  obtain ⟨_, hdisabled, allowed, hallowed, _, -, hall⟩ := h
  refine ⟨by simpa using hdisabled, fun root hroot => ?_⟩
  obtain ⟨base, hbase, hpre⟩ := validateCandidateRoot_ok (hall root hroot)
  obtain ⟨cur, hcur, hval⟩ := exists_of_mem_mapM hallowed hbase
  refine ⟨base, List.mem_map.mpr ⟨cur, hcur, ?_⟩, hpre⟩
  exact (validateNormalizedAbsolutePath_ok hval).symm

/-! ## The patch -/

theorem patchField_ok {key : String} {validate : AgentConfig → Json → Except String α}
    {set : AgentConfig → α → AgentConfig} (h : patchField object key validate set c = .ok c') :
    (object.lookup key = none ∧ c' = c) ∨
      ∃ value a, object.lookup key = some value ∧ validate c value = .ok a ∧ c' = set c a := by
  unfold patchField at h
  split at h
  · rename_i hnone
    exact .inl ⟨hnone, (Except.ok.inj h).symm⟩
  · rename_i value hsome
    obtain ⟨a, ha, h⟩ := bind_eq_ok.mp h
    exact .inr ⟨value, a, hsome, ha, (pure_eq_ok.mp h).symm⟩

structure Tightens (c c' : AgentConfig) : Prop where
  flags : ∀ flag, c.disabled flag = true → c'.disabled flag = true
  identity : c'.identity = c.identity
  roots : c'.fileAllowedRoots = c.fileAllowedRoots

theorem Tightens.refl (c : AgentConfig) : Tightens c c := ⟨fun _ h => h, rfl, rfl⟩

theorem Tightens.trans (a b c : AgentConfig) (hab : Tightens a b) (hbc : Tightens b c) :
    Tightens a c where
  flags := fun flag h => hbc.flags flag (hab.flags flag h)
  identity := hbc.identity.trans hab.identity
  roots := hbc.roots.trans hab.roots

theorem patchField_tightens {key : String} {validate : AgentConfig → Json → Except String α}
    {set : AgentConfig → α → AgentConfig}
    (hset : ∀ c value a, validate c value = .ok a → Tightens c (set c a)) (c c' : AgentConfig)
    (h : patchField object key validate set c = .ok c') : Tightens c c' := by
  rcases patchField_ok h with ⟨-, rfl⟩ | ⟨value, a, -, ha, rfl⟩
  · exact .refl c'
  · exact hset c value a ha

theorem patchSteps_tightens {parsers : Parsers}
    (h : (patchSteps parsers object).foldlM (fun c step => step c) c = .ok c') :
    Tightens c c' := by
  refine foldlM_rel Tightens.refl Tightens.trans ?_ h
  simp only [patchSteps, List.forall_mem_cons, List.not_mem_nil, false_imp_iff, implies_true,
    and_true]
  -- nine members that are no policy, then the five flags
  refine ⟨?_, ?_, ?_, ?_, ?_, ?_, ?_, ?_, ?_, ?_, ?_, ?_, ?_, ?_⟩
  iterate 9
    exact patchField_tightens fun c value a _ =>
      ⟨fun flag h => by cases flag <;> exact h, rfl, rfl⟩
  all_goals
    refine patchField_tightens fun c value a ha => ⟨fun flag h => ?_, rfl, rfl⟩
    have hkeep := validateDisableFlag_ok ha
    cases flag <;> first | exact hkeep h | exact h

def requestedRoots (object : List (String × Json)) : Option (List String) :=
  (object.lookup "file_allowed_roots").bind fun value => (validateRemoteConfigRoots value).toOption

theorem patchRoots_ok (h : patchRoots configFile object c = .ok c') :
    c' = { c with fileAllowedRoots := (requestedRoots object).getD c.fileAllowedRoots } ∧
      (c'.fileAllowedRoots = c.fileAllowedRoots ∨ c.disableCommandExecute = false) ∧
      ∀ path, c'.Admits path → c.Admits path := by
  rcases patchField_ok h with ⟨hnone, rfl⟩ | ⟨value, roots, hsome, hval, rfl⟩
  · refine ⟨?_, .inl rfl, fun _ h => h⟩
    simp [requestedRoots, hnone]
  · simp only [bind_eq_ok, pure_eq_ok] at hval
    obtain ⟨_, hroots, _, hpolicy, rfl⟩ := hval
    obtain ⟨henabled, hunder⟩ := validateRootsWithinPolicy_ok hpolicy
    refine ⟨?_, .inr henabled, FsPath.under_le_iff.mpr fun path hpath => ?_⟩
    · simp [requestedRoots, hsome, hroots, Except.toOption]
    · obtain ⟨root, hroot, rfl⟩ := List.mem_map.mp hpath
      simp only [validateRemoteConfigRoots_ok hroots root hroot]
      exact hunder root hroot

structure Patched (memory disk : AgentConfig) (object : List (String × Json))
    (current : AgentConfig) : Prop where
  flags_memory : ∀ flag, memory.disabled flag = true → current.disabled flag = true
  flags_disk : ∀ flag, disk.disabled flag = true → current.disabled flag = true
  identity : current.identity = (memory.agentId, memory.publicKey, disk.privateKey)
  roots_eq : current.fileAllowedRoots =
    (requestedRoots object).getD memory.fileAllowedRoots
  roots_fixed : current.fileAllowedRoots = memory.fileAllowedRoots ∨
    current.disableCommandExecute = false
  admits : ∀ path, current.Admits path → memory.Admits path

theorem mergeDiskFlags_disabled (memory disk : AgentConfig) (flag : DisableFlag) :
    (mergeDiskFlags memory disk).disabled flag = (memory.disabled flag || disk.disabled flag) := by
  cases flag <;> rfl

theorem patchedConfig_ok {parsers : Parsers} {memory disk current : AgentConfig}
    (h : patchedConfig parsers configFile object memory disk = .ok current) :
    Patched memory disk object current := by
  unfold patchedConfig at h
  simp only [bind_eq_ok, pure_eq_ok] at h
  obtain ⟨c₁, hsteps, c₂, hroots, _, -, rfl⟩ := h
  have hstep := patchSteps_tightens hsteps
  obtain ⟨rfl, hfixed, hadmits⟩ := patchRoots_ok hroots
  -- the merged configuration has the roots and the identity of the one in memory
  have hmem : c₁.fileAllowedRoots = memory.fileAllowedRoots := hstep.roots
  have hid := hstep.identity
  simp only [AgentConfig.identity, mergeDiskFlags, Prod.mk.injEq] at hid
  have hflag : ∀ flag, (memory.disabled flag || disk.disabled flag) = true →
      c₁.disabled flag = true :=
    fun flag h => hstep.flags flag (by rwa [mergeDiskFlags_disabled])
  refine ⟨fun flag h => ?_, fun flag h => ?_, ?_, ?_, ?_, fun path h => ?_⟩
  · have := hflag flag (by rw [h, Bool.true_or])
    cases flag <;> exact this
  · have := hflag flag (by rw [h, Bool.or_true])
    cases flag <;> exact this
  · simp [AgentConfig.identity, hid.1, hid.2.1]
  · simp [hmem]
  · rwa [← hmem]
  · have hc₁ := hadmits path h
    unfold AgentConfig.Admits at hc₁ ⊢
    rwa [← hmem]

/-! ## One update -/

theorem applyRemoteConfig_cases (parsers : Parsers) (io : FsOutcome) (s : RuntimeContext)
    (update : ConfigUpdate) :
    ((∃ e, (applyRemoteConfig parsers io s update).1 = .error e) ∧
      (applyRemoteConfig parsers io s update).2.config = s.config ∧
      (applyRemoteConfig parsers io s update).2.file.content = s.file.content) ∨
    ∃ object disk current, parsePatch parsers update = .ok object ∧ s.file.content = .ok disk ∧
      Patched s.config disk object current ∧
      (applyRemoteConfig parsers io s update).2.file.content = .ok current ∧
      (((applyRemoteConfig parsers io s update).1 = .ok () ∧
          (applyRemoteConfig parsers io s update).2.config = current) ∨
        ∃ e, (applyRemoteConfig parsers io s update).1 = .error e ∧
          io.writeError = some (.chmodFinal, e) ∧
          (applyRemoteConfig parsers io s update).2.config = s.config) := by
  unfold applyRemoteConfig
  simp only
  split
  · rename_i e _
    exact .inl ⟨⟨e, rfl⟩, rfl, rfl⟩
  · rename_i current hnext
    simp only [bind_eq_ok] at hnext
    obtain ⟨object, hobject, disk, hdisk, hpatch⟩ := hnext
    have hcontent : s.file.content = .ok disk := by
      unfold readDiskConfig at hdisk
      split at hdisk
      · cases hdisk
      · exact hdisk
    have hpatched := patchedConfig_ok hpatch
    unfold writeSecureConfig
    split_ifs with hlink hname
    · exact .inl ⟨⟨_, rfl⟩, rfl, rfl⟩
    · exact .inl ⟨⟨_, rfl⟩, rfl, rfl⟩
    · cases hw : io.writeError with
      | none =>
        exact .inr ⟨object, disk, current, hobject, hcontent, hpatched, rfl, .inl ⟨rfl, rfl⟩⟩
      | some w =>
        obtain ⟨call, e⟩ := w
        cases call with
        -- The only call after the rename: the file is new, the memory is not.
        | chmodFinal =>
          exact .inr ⟨object, disk, current, hobject, hcontent, hpatched, rfl,
            .inr ⟨e, rfl, rfl, rfl⟩⟩
        | openTemp => exact .inl ⟨⟨_, rfl⟩, rfl, rfl⟩
        | chmodTemp => exact .inl ⟨⟨_, rfl⟩, rfl, rfl⟩
        | writeAll => exact .inl ⟨⟨_, rfl⟩, rfl, rfl⟩
        | syncAll => exact .inl ⟨⟨_, rfl⟩, rfl, rfl⟩
        | rename => exact .inl ⟨⟨_, rfl⟩, rfl, rfl⟩

/-! ## Runs -/

/-- The configuration on disk is the one in memory, or a later one whose write failed
after the rename: as strict, and with the same roots once commands are disabled. -/
structure InStep (s : RuntimeContext) (disk : AgentConfig) : Prop where
  content : s.file.content = .ok disk
  identity : disk.identity = s.config.identity
  flags : ∀ flag, s.config.disabled flag = true → disk.disabled flag = true
  admits : ∀ path, disk.Admits path → s.config.Admits path
  roots : disk.disableCommandExecute = true → disk.fileAllowedRoots = s.config.fileAllowedRoots

structure Tighter (s : RuntimeContext) (ds : AgentConfig) (t : RuntimeContext)
    (dt : AgentConfig) : Prop where
  memory_flags : ∀ flag, s.config.disabled flag = true → t.config.disabled flag = true
  disk_flags : ∀ flag, ds.disabled flag = true → dt.disabled flag = true
  memory_identity : t.config.identity = s.config.identity
  disk_identity : dt.identity = ds.identity
  admits : ∀ path, t.config.Admits path → s.config.Admits path
  fixed : ds.disableCommandExecute = true →
    t.config.fileAllowedRoots = s.config.fileAllowedRoots ∧
      dt.fileAllowedRoots = ds.fileAllowedRoots

theorem Tighter.refl (s : RuntimeContext) (ds : AgentConfig) : Tighter s ds s ds :=
  ⟨fun _ h => h, fun _ h => h, rfl, rfl, fun _ h => h, fun _ => ⟨rfl, rfl⟩⟩

theorem Tighter.trans {s t u : RuntimeContext} {ds dt du : AgentConfig}
    (hst : Tighter s ds t dt) (htu : Tighter t dt u du) : Tighter s ds u du where
  memory_flags := fun flag h => htu.memory_flags flag (hst.memory_flags flag h)
  disk_flags := fun flag h => htu.disk_flags flag (hst.disk_flags flag h)
  memory_identity := htu.memory_identity.trans hst.memory_identity
  disk_identity := htu.disk_identity.trans hst.disk_identity
  admits := fun path h => hst.admits path (htu.admits path h)
  fixed := fun h => by
    have hdt := htu.fixed (hst.disk_flags .commandExecute h)
    have hds := hst.fixed h
    exact ⟨hdt.1.trans hds.1, hdt.2.trans hds.2⟩

variable {s : RuntimeContext} {ds : AgentConfig}

theorem step_tighter (parsers : Parsers) (h : InStep s ds) (u : ConfigUpdate × FsOutcome) :
    ∃ dt, InStep (s.step parsers u) dt ∧ Tighter s ds (s.step parsers u) dt := by
  rcases applyRemoteConfig_cases parsers u.2 s u.1 with
    ⟨-, hconfig, hcontent⟩ | ⟨object, disk, current, -, hdisk, hpatched, hcontent, houtcome⟩
  · refine ⟨ds, ⟨hcontent.trans h.content, ?_, ?_, ?_, ?_⟩, ⟨?_, fun _ h => h, ?_, rfl, ?_, ?_⟩⟩
    all_goals rw [RuntimeContext.step, hconfig]
    · exact h.identity
    · exact h.flags
    · exact h.admits
    · exact h.roots
    · exact fun _ h => h
    · exact fun _ h => h
    · exact fun _ => ⟨rfl, rfl⟩
  · obtain rfl : disk = ds := Except.ok.inj (hdisk.symm.trans h.content)
    have hid := h.identity
    simp only [AgentConfig.identity, Prod.mk.injEq] at hid
    have hidentity : current.identity = s.config.identity := by
      rw [hpatched.identity, hid.2.2]
      rfl
    -- a set flag excludes a change of the roots in the same update
    have hroots : current.disableCommandExecute = true →
        current.fileAllowedRoots = s.config.fileAllowedRoots :=
      fun hset => hpatched.roots_fixed.resolve_right (by rw [hset]; decide)
    have hfixed : disk.disableCommandExecute = true →
        current.fileAllowedRoots = disk.fileAllowedRoots :=
      fun hset => (hroots (hpatched.flags_disk .commandExecute hset)).trans (h.roots hset).symm
    rcases houtcome with ⟨-, hconfig⟩ | ⟨e, -, -, hconfig⟩
    · refine ⟨current, ⟨hcontent, ?_, ?_, ?_, ?_⟩,
        ⟨?_, hpatched.flags_disk, ?_, hidentity.trans h.identity.symm, ?_,
          fun hset => ⟨?_, hfixed hset⟩⟩⟩
      all_goals rw [RuntimeContext.step, hconfig]
      · exact fun _ h => h
      · exact fun _ h => h
      · exact fun _ => rfl
      · exact hpatched.flags_memory
      · exact hidentity
      · exact hpatched.admits
      · exact hroots (hpatched.flags_disk .commandExecute hset)
    · refine ⟨current, ⟨hcontent, ?_, ?_, ?_, ?_⟩,
        ⟨?_, hpatched.flags_disk, ?_, hidentity.trans h.identity.symm, ?_,
          fun hset => ⟨?_, hfixed hset⟩⟩⟩
      all_goals rw [RuntimeContext.step, hconfig]
      · exact hidentity
      · exact hpatched.flags_memory
      · exact hpatched.admits
      · exact hroots
      · exact fun _ h => h
      · exact fun _ h => h

theorem run_tighter (parsers : Parsers) (h : InStep s ds) (us : List (ConfigUpdate × FsOutcome)) :
    ∃ dt, InStep (run (RuntimeContext.step parsers) s us) dt ∧
      Tighter s ds (run (RuntimeContext.step parsers) s us) dt := by
  induction us generalizing s ds with
  | nil => exact ⟨ds, h, .refl s ds⟩
  | cons u us ih =>
    obtain ⟨d, hd, hsd⟩ := step_tighter parsers h u
    obtain ⟨dt, hdt, hddt⟩ := ih hd
    exact ⟨dt, hdt, hsd.trans hddt⟩

theorem run_inSync (parsers : Parsers) {us : List (ConfigUpdate × FsOutcome)}
    (h : s.file.content = .ok s.config)
    (hfault : ∀ u ∈ us, ∀ e, u.2.writeError ≠ some (.chmodFinal, e)) :
    (run (RuntimeContext.step parsers) s us).file.content =
      .ok (run (RuntimeContext.step parsers) s us).config := by
  induction us generalizing s with
  | nil => exact h
  | cons u us ih =>
    refine ih ?_ fun v hv => hfault v (List.mem_cons_of_mem _ hv)
    rcases applyRemoteConfig_cases parsers u.2 s u.1 with
      ⟨-, hconfig, hcontent⟩ | ⟨object, disk, current, -, -, -, hcontent, houtcome⟩
    · rw [RuntimeContext.step, hcontent, hconfig, h]
    · rcases houtcome with ⟨-, hconfig⟩ | ⟨e, -, hwrite, -⟩
      · rw [RuntimeContext.step, hcontent, hconfig]
      · exact absurd hwrite (hfault u List.mem_cons_self e)

theorem inStep_runAgent {file : ConfigFile} (h : runAgent file = .ok s) :
    s.file.content = .ok s.config ∧ InStep s s.config := by
  unfold runAgent at h
  cases hc : file.content with
  | error => simp [hc, Except.map] at h
  | ok config =>
    obtain rfl : RuntimeContext.mk config file = s := by simpa [hc, Except.map] using h
    exact ⟨hc, hc, rfl, fun _ h => h, fun _ h => h, fun _ => rfl⟩

/-! A configuration and the updates that the statements below are tried on. -/

namespace Sample

def config : AgentConfig where
  server := "http://dashboard.example"
  grpcServer := "http://dashboard.example:50051"
  grpcTlsCaPath := none
  grpcTlsDomainName := none
  grpcTlsClientCertPath := none
  grpcTlsClientKeyPath := none
  agentId := "agent-1"
  name := "agent-1"
  publicKey := ""
  privateKey := "private-key"
  reportIntervalSeconds := 3
  ipReportIntervalSeconds := 60
  disableAutoUpdate := false
  disableForceUpdate := false
  disableCommandExecute := false
  disableNat := false
  disableSendQuery := false
  fileAllowedRoots := ["/srv/xlstatus/workspace"]

def file : ConfigFile where
  path := "/etc/xlstatus/agent.json"
  content := .ok config
  isSymlink := false
  tempFile := false

def io : FsOutcome where
  configFile := FsPath.components "/etc/xlstatus/agent.json"
  readError := none
  writeError := none
  removeFails := false

def bytes (text : String) : List UInt8 := text.toList.flatMap String.utf8EncodeChar

def rename : ConfigUpdate := ⟨bytes "\x7b\"name\":\"edge\"\x7d"⟩

def narrow : ConfigUpdate :=
  ⟨bytes "\x7b\"file_allowed_roots\":[\"/srv/xlstatus/workspace/subdir\"]\x7d"⟩

def parsers : Parsers where
  json := fun text =>
    if text = rename.configYaml then .ok (.object [("name", .string "edge")])
    else if text = narrow.configYaml then
      .ok (.object [("file_allowed_roots", .array [.string "/srv/xlstatus/workspace/subdir"])])
    else .error "expected value at line 1 column 1"
  url := fun _ => .error "relative URL without a base"

def loaded : RuntimeContext := ⟨config, file⟩

def updates : List (ConfigUpdate × FsOutcome) := [(rename, io), (narrow, io)]

def narrowed : AgentConfig :=
  { config with fileAllowedRoots := ["/srv/xlstatus/workspace/public"] }

def edited : RuntimeContext := ⟨config, { file with content := .ok narrowed }⟩

end Sample

/-- An agent that started from its configuration file, after some updates (`s`) and
after more of them (`t`): flags stay set and the identity stays the same in memory and
on disk, the roots in force admit no path they did not admit before, and they no longer
change once commands are disabled. The file's own roots keep within those in force
before; within the file's earlier roots they keep if no write failed after its rename. -/
theorem remote_config_only_tightens (parsers : Parsers) (file : ConfigFile)
    {loaded s t : RuntimeContext} (before after : List (ConfigUpdate × FsOutcome))
    (hload : runAgent file = .ok loaded)
    (hs : run (RuntimeContext.step parsers) loaded before = s)
    (ht : run (RuntimeContext.step parsers) s after = t) :
    ∃ ds dt, s.file.content = .ok ds ∧ t.file.content = .ok dt ∧
      (∀ flag, s.config.disabled flag = true → t.config.disabled flag = true) ∧
      (∀ flag, ds.disabled flag = true → dt.disabled flag = true) ∧
      t.config.identity = s.config.identity ∧ dt.identity = ds.identity ∧
      (∀ path, t.config.Admits path → s.config.Admits path) ∧
      (∀ path, dt.Admits path → s.config.Admits path) ∧
      ((∀ u ∈ before, ∀ e, u.2.writeError ≠ some (.chmodFinal, e)) →
        ∀ path, dt.Admits path → ds.Admits path) ∧
      (s.config.disableCommandExecute = true ∨ ds.disableCommandExecute = true →
        t.config.fileAllowedRoots = s.config.fileAllowedRoots ∧
          dt.fileAllowedRoots = ds.fileAllowedRoots) := by
  obtain ⟨hsync, hstart⟩ := inStep_runAgent hload
  obtain ⟨ds, hds, -⟩ := run_tighter parsers hstart before
  rw [hs] at hds
  obtain ⟨dt, hdt, htight⟩ := run_tighter parsers hds after
  rw [ht] at hdt htight
  have hdisk : ∀ path, dt.Admits path → s.config.Admits path :=
    fun path h => htight.admits path (hdt.admits path h)
  refine ⟨ds, dt, hds.content, hdt.content, htight.memory_flags, htight.disk_flags,
    htight.memory_identity, htight.disk_identity, htight.admits, hdisk, ?_, ?_⟩
  -- Without a failure after the rename, disk and memory agree at `s`.
  · intro hfault path hpath
    have hsame := run_inSync parsers hsync hfault
    rw [hs, hds.content] at hsame
    rw [Except.ok.inj hsame]
    exact hdisk path hpath
  · rintro (hset | hset)
    · exact htight.fixed (hds.flags .commandExecute hset)
    · exact htight.fixed hset

theorem remote_config_only_tightens_sample :
    ∃ dt, (run (RuntimeContext.step Sample.parsers) Sample.loaded Sample.updates).file.content =
        .ok dt ∧
      ∀ path, dt.Admits path → Sample.loaded.config.Admits path := by
  have hload : runAgent Sample.file = .ok Sample.loaded := rfl
  obtain ⟨_, dt, -, hdt, -, -, -, -, -, hdisk, -⟩ :=
    remote_config_only_tightens Sample.parsers Sample.file [] Sample.updates hload
      (run_nil Sample.loaded) rfl
  exact ⟨dt, hdt, hdisk⟩

/-! ## Restrictions made in the file -/

def updateRoots (parsers : Parsers) (update : ConfigUpdate) : Option (List String) :=
  match parsePatch parsers update with
  | .ok object => requestedRoots object
  | .error _ => none

namespace Sample

theorem values :
    (applyRemoteConfig parsers io loaded narrow).1 = .ok () ∧
    (∀ root ∈ (updateRoots parsers narrow).getD loaded.config.fileAllowedRoots,
      config.Admits (FsPath.components (Text.trim root))) ∧
    (∀ base ∈ rootPaths narrowed.fileAllowedRoots,
      FsPath.Under (rootPaths edited.config.fileAllowedRoots) base) ∧
    (applyRemoteConfig parsers io edited rename).1 = .ok () ∧
    (applyRemoteConfig parsers io edited rename).2.file.content =
      .ok { config with name := "edge" } ∧
    AgentConfig.Admits { config with name := "edge" }
      (FsPath.components "/srv/xlstatus/workspace/private") ∧
    ¬ narrowed.Admits (FsPath.components "/srv/xlstatus/workspace/private") := by
  decide +kernel

theorem narrow_accepted : (applyRemoteConfig parsers io loaded narrow).1 = .ok () := values.1

end Sample

/-- An accepted update keeps every flag of the file. It keeps the file's roots exactly
when those it brings, or else those in memory, lie under them. -/
theorem persisted_keeps_disk_policy_iff (parsers : Parsers) (io : FsOutcome)
    (s : RuntimeContext) (update : ConfigUpdate) {disk : AgentConfig}
    (hdisk : s.file.content = .ok disk)
    (haccepted : (applyRemoteConfig parsers io s update).1 = .ok ()) :
    ∃ persisted, (applyRemoteConfig parsers io s update).2.file.content = .ok persisted ∧
      (((∀ flag, disk.disabled flag = true → persisted.disabled flag = true) ∧
          ∀ path, persisted.Admits path → disk.Admits path) ↔
        ∀ root ∈ (updateRoots parsers update).getD s.config.fileAllowedRoots,
          disk.Admits (FsPath.components (Text.trim root))) := by
  rcases applyRemoteConfig_cases parsers io s update with
    ⟨⟨e, herror⟩, -⟩ | ⟨object, disk', current, hparse, hdisk', hpatched, hcontent, -⟩
  · rw [herror] at haccepted
    cases haccepted
  · obtain rfl : disk' = disk := Except.ok.inj (hdisk'.symm.trans hdisk)
    refine ⟨current, hcontent, ?_⟩
    have hroots : (updateRoots parsers update).getD s.config.fileAllowedRoots =
        current.fileAllowedRoots := by
      rw [hpatched.roots_eq, updateRoots, hparse]
    rw [and_iff_right hpatched.flags_disk, hroots]
    unfold AgentConfig.Admits
    rw [FsPath.under_le_iff]
    exact List.forall_mem_map

theorem persisted_keeps_disk_policy_iff_narrow :
    ∃ persisted, (applyRemoteConfig Sample.parsers Sample.io Sample.loaded
        Sample.narrow).2.file.content = .ok persisted ∧
      ∀ path, persisted.Admits path → Sample.config.Admits path := by
  obtain ⟨persisted, hcontent, hiff⟩ := persisted_keeps_disk_policy_iff Sample.parsers Sample.io
    Sample.loaded Sample.narrow rfl Sample.narrow_accepted
  exact ⟨persisted, hcontent, (hiff.mpr Sample.values.2.1).2⟩

theorem rename_widens_disk_roots :
    (∀ path, Sample.narrowed.Admits path → Sample.edited.config.Admits path) ∧
      (applyRemoteConfig Sample.parsers Sample.io Sample.edited Sample.rename).1 = .ok () ∧
      (applyRemoteConfig Sample.parsers Sample.io Sample.edited Sample.rename).2.file.content =
        .ok { Sample.config with name := "edge" } ∧
      AgentConfig.Admits { Sample.config with name := "edge" }
        (FsPath.components "/srv/xlstatus/workspace/private") ∧
      ¬ Sample.narrowed.Admits (FsPath.components "/srv/xlstatus/workspace/private") := by
  obtain ⟨-, -, hunder, hrenamed⟩ := Sample.values
  exact ⟨FsPath.under_le_iff.mpr hunder, hrenamed⟩

end XLStatus.Agent
