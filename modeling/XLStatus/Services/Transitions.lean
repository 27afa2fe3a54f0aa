import XLStatus.Services.HistoryDefs

/-! The tasks the service monitor triggers when the result of a service changes, against the
results it has stored: the monitor takes the result before from its cache, or from the table where
the cache has none. -/

namespace XLStatus.Services

open Auth (DatabaseBackend)
open Db (Stamp)
open Shared Transition List Option

/-! ## The monitor -/

structure ServiceId where
  text : String
  canonical : isCanonicalUuid text = true

instance : DecidableEq ServiceId := fun a b => decidable_of_iff (a.text = b.text) (by
  cases a
  cases b
  rw [ServiceId.mk.injEq])

structure ServiceConfig where
  id : ServiceId
  ownerUserId : Option String
  failureTaskIds : List String
  recoveryTaskIds : List String

structure ServiceProbe (b : DatabaseBackend) where
  success : Bool
  latencyMs : Option Int32
  statusCode : Option Int32
  error : Option String
  certFingerprint : Option String
  certNotAfter : Option (Stamp b)

structure Spawn where
  taskIds : List String
  source : String
  serverId : Option String
  ownerUserId : String
  deriving DecidableEq

structure Monitor (b : DatabaseBackend) where
  states : HashMap String Bool
  results : List (ServiceResultRow b)

structure SaveIo (b : DatabaseBackend) where
  read : Except String Unit
  id : String
  createdAt : Stamp b
  inserted : Except String Unit
  cutoff : Stamp b
  deletedResults : Except String Unit
  deletedHistory : Except String Unit
  uniqueOwner : Except String (Option String)

def serviceStateKey (serviceId : ServiceId) (serverId : Option AgentId) : String :=
  serviceId.text ++ ":" ++ (serverId.map AgentId.text).getD "local"

def trustedServiceOwnerFromConfig (service : ServiceConfig) : Option String :=
  (service.ownerUserId.map Text.trim).filter (· ≠ "")

def serviceTriggerOwner (service : ServiceConfig) (uniqueOwner : Except String (Option String)) :
    Except String (Option String) :=
  match trustedServiceOwnerFromConfig service with
  | some owner => .ok (some owner)
  | none => uniqueOwner

variable {b : DatabaseBackend}

def isFor (serviceId : ServiceId) (serverId : Option AgentId) (row : ServiceResultRow b) : Bool :=
  row.serviceId == serviceId.text && row.serverId == serverId.map AgentId.text

def resultRow (service : ServiceConfig) (serverId : Option AgentId) (result : ServiceProbe b)
    (io : SaveIo b) : ServiceResultRow b where
  id := io.id
  serviceId := service.id.text
  serverId := serverId.map AgentId.text
  status := if result.success then "success" else "failure"
  delayMs := result.latencyMs
  statusCode := result.statusCode
  error := result.error
  certFingerprint := result.certFingerprint
  certNotAfter := result.certNotAfter
  createdAt := io.createdAt

structure SaveOutcome (b : DatabaseBackend) where
  result : Except String Unit
  stored : Option (ServiceResultRow b)
  spawned : Option Spawn
  monitor : Monitor b

namespace Monitor

def previousServiceSuccess (m : Monitor b) (serviceId : ServiceId) (serverId : Option AgentId)
    (read : Except String Unit) : Except String (Option Bool) :=
  match m.states.lookup (serviceStateKey serviceId serverId), read with
  | some success, _ => .ok (some success)
  | none, .error e => .error e
  | none, .ok () =>
    let row := (newestFirst (m.results.filter (isFor serviceId serverId))).head?
    .ok (row.map (·.status == "success"))

def handleServiceTransition (m : Monitor b) (service : ServiceConfig) (serverId : Option AgentId)
    (success : Bool) (previousSuccess : Option Bool) (owner : Except String (Option String)) :
    Option Spawn × Monitor b :=
  let m := { m with states := m.states.insert (serviceStateKey service.id serverId) success }
  if previousSuccess = some success || (previousSuccess.isNone && success) then (none, m)
  else
    let taskIds := if success then service.recoveryTaskIds else service.failureTaskIds
    if taskIds = [] then (none, m)
    else match owner with
      | .ok (some ownerUserId) =>
        (some {
          taskIds
          source := "service:" ++ service.id.text ++ ":" ++
            (serverId.map AgentId.text).getD "local" ++ ":" ++
            (if success then "recovered" else "failed")
          serverId := serverId.map AgentId.text
          ownerUserId }, m)
      | _ => (none, m)

def save (m : Monitor b) (service : ServiceConfig) (serverId : Option AgentId)
    (result : ServiceProbe b) (io : SaveIo b) : SaveOutcome b :=
  match m.previousServiceSuccess service.id serverId io.read, io.inserted with
  | .error e, _ | .ok _, .error e => ⟨.error e, none, none, m⟩
  | .ok previousSuccess, .ok () =>
    let row := resultRow service serverId result io
    let m := { m with results := m.results ++ [row] }
    -- the pruning of old rows
    match io.deletedResults with
    | .error e => ⟨.error e, some row, none, m⟩
    | .ok () =>
      let m := { m with results := m.results.filter fun row => Stamp.le io.cutoff row.createdAt }
      match io.deletedHistory with
      | .error e => ⟨.error e, some row, none, m⟩
      | .ok () =>
        let (spawned, m) := m.handleServiceTransition service serverId result.success
          previousSuccess (serviceTriggerOwner service io.uniqueOwner)
        ⟨.ok (), some row, spawned, m⟩

def pruneInactiveRuntimeState (m : Monitor b) (activeServiceIds : List String) : Monitor b :=
  { m with states := m.states.retain fun key _ =>
      (Text.splitOnce key ':').any fun parts => activeServiceIds.contains parts.1 }

def pruneServiceTargetStates (m : Monitor b) (serviceId : ServiceId)
    (serverIds : Option (List AgentId)) : Monitor b :=
  let activeKeys := match serverIds with
    | some serverIds => serverIds.map fun serverId => serviceStateKey serviceId (some serverId)
    | none => [serviceStateKey serviceId none]
  { m with states := m.states.retain fun key _ =>
      !Text.startsWith key (serviceId.text ++ ":") || activeKeys.contains key }

end Monitor

/-! ## Runs -/

structure Saved (b : DatabaseBackend) where
  service : ServiceConfig
  serverId : Option AgentId
  success : Bool
  owner : Except String (Option String)
  row : ServiceResultRow b
  spawned : Option Spawn

structure MonitorRun (b : DatabaseBackend) where
  monitor : Monitor b
  saved : List (Saved b)

inductive MonitorEvent (b : DatabaseBackend) where
  | save (service : ServiceConfig) (serverId : Option AgentId) (result : ServiceProbe b)
      (io : SaveIo b)
  | pruneInactive (activeServiceIds : List String)
  | pruneTargets (serviceId : ServiceId) (serverIds : Option (List AgentId))
  | restart

def lastSaved (saved : List (Saved b)) (serviceId : ServiceId) (serverId : Option AgentId) :
    Option (Saved b) :=
  (saved.filter fun x => x.service.id = serviceId ∧ x.serverId = serverId).getLast?

namespace MonitorRun

def init : MonitorRun b := ⟨⟨∅, []⟩, []⟩

def step (r : MonitorRun b) : MonitorEvent b → MonitorRun b
  | .save service serverId result io =>
    let outcome := r.monitor.save service serverId result io
    { monitor := outcome.monitor
      saved := r.saved ++ (outcome.stored.map fun row =>
        ⟨service, serverId, result.success, serviceTriggerOwner service io.uniqueOwner, row,
          outcome.spawned⟩).toList }
  | .pruneInactive activeServiceIds =>
    { r with monitor := r.monitor.pruneInactiveRuntimeState activeServiceIds }
  | .pruneTargets serviceId serverIds =>
    { r with monitor := r.monitor.pruneServiceTargetStates serviceId serverIds }
  | .restart => { r with monitor := { r.monitor with states := ∅ } }

end MonitorRun

/-- The tasks a stored result calls for after the one before it: a failure that is the first
result or follows a success triggers the failure tasks, a success that follows a failure the
recovery tasks. -/
def Saved.calledFor (x : Saved b) (previous : Option Bool) : Option Spawn :=
  let spawn (taskIds : List String) (word : String) : Option Spawn :=
    match taskIds, x.owner with
    | _ :: _, .ok (some ownerUserId) =>
      some {
        taskIds
        source := "service:" ++ x.service.id.text ++ ":" ++
          (x.serverId.map AgentId.text).getD "local" ++ ":" ++ word
        serverId := x.serverId.map AgentId.text
        ownerUserId }
    | _, _ => none
  match previous, x.success with
  | none, false | some true, false => spawn x.service.failureTaskIds "failed"
  | some false, true => spawn x.service.recoveryTaskIds "recovered"
  | none, true | some true, true | some false, false => none

def TriggersMatch (saved : List (Saved b)) : Prop :=
  ∀ before x after, saved = before ++ x :: after →
    x.spawned = x.calledFor ((lastSaved before x.service.id x.serverId).map (·.success))

def Earlier (s t : Stamp b) : Prop := Stamp.le s t = true ∧ Stamp.le t s = false

/-- The pruning after a stored result succeeds; the clock has moved on since the target's rows
were stored; and where the cache has no state, the target's last result is still in the table. -/
def MonitorRun.Kept (r : MonitorRun b) : MonitorEvent b → Prop
  | .save service serverId _ io =>
    (io.inserted = .ok () → io.deletedResults = .ok () ∧ io.deletedHistory = .ok ()) ∧
    (∀ row ∈ r.monitor.results, isFor service.id serverId row = true →
      Earlier row.createdAt io.createdAt) ∧
    (r.monitor.states.lookup (serviceStateKey service.id serverId) = none →
      ∀ x ∈ lastSaved r.saved service.id serverId, x.row ∈ r.monitor.results)
  | _ => True

/-! ## Keys and rows -/

variable {server : Option AgentId} {id : ServiceId} {saved : List (Saved b)} {x : Saved b}

theorem serviceStateKey_inj {id' : ServiceId} {server' : Option AgentId} :
    serviceStateKey id server = serviceStateKey id' server' ↔ id = id' ∧ server = server' := by
  constructor
  · intro hkey
    have hlist := congrArg String.toList hkey
    simp only [serviceStateKey, String.toList_append] at hlist
    have hlen : id.text.toList.length = id'.text.toList.length := by
      obtain ⟨c, l, d, htext, hlen, -, -⟩ := exists_of_isCanonicalUuid id.canonical
      obtain ⟨c', l', d', htext', hlen', -, -⟩ := exists_of_isCanonicalUuid id'.canonical
      simp [htext, htext', hlen, hlen']
    obtain ⟨hid, hserver⟩ := append_inj hlist (by simp [hlen])
    obtain ⟨hid, -⟩ := append_inj hid hlen
    refine ⟨?_, ?_⟩
    · cases id
      cases id'
      obtain rfl := String.toList_inj.mp hid
      rfl
    · cases server with
      | none =>
        cases server' with
        | none => rfl
        | some s' =>
          have hs := congrArg length hserver
          simp [s'.length_text] at hs
      | some s =>
        cases server' with
        | none =>
          have hs := congrArg length hserver
          simp [s.length_text] at hs
        | some => exact congrArg some (AgentId.ext_text (String.toList_inj.mp hserver))
  · rintro ⟨rfl, rfl⟩
    rfl

theorem head?_newestFirst {rows : List (ServiceResultRow b)} {x : ServiceResultRow b}
    (hx : x ∈ rows) (hrows : ∀ row ∈ rows, row = x ∨ Earlier row.createdAt x.createdAt) :
    (newestFirst rows).head? = some x := by
  have hsorted : (newestFirst rows).Pairwise fun r s => Stamp.le s.createdAt r.createdAt = true :=
    @List.pairwise_mergeSort (ServiceResultRow b) (fun r s => Stamp.le s.createdAt r.createdAt)
      (fun _ _ _ hrs hst => Stamp.le_trans hst hrs) (fun _ _ => Stamp.le_total _ _) rows
  have hmem : ∀ row, row ∈ newestFirst rows ↔ row ∈ rows := fun row => mem_mergeSort
  cases hnewest : newestFirst rows with
  | nil =>
    have hx' := (hmem x).mpr hx
    rw [hnewest] at hx'
    cases hx'
  | cons y =>
    rw [hnewest] at hsorted hmem
    rcases hrows y ((hmem y).mp mem_cons_self) with rfl | ⟨-, hlater⟩
    · rfl
    · rcases mem_cons.mp ((hmem x).mpr hx) with rfl | hx'
      · rfl
      · rw [rel_of_pairwise_cons hsorted hx'] at hlater
        cases hlater

theorem lastSaved_append (saved : List (Saved b)) (x : Saved b) (id : ServiceId)
    (server : Option AgentId) :
    lastSaved (saved ++ [x]) id server =
      if x.service.id = id ∧ x.serverId = server then some x else lastSaved saved id server := by
  unfold lastSaved
  rw [filter_append, filter_singleton]
  split <;> rename_i h
  · simp [h]
  · simp [h]

theorem mem_of_mem_lastSaved (hx : x ∈ lastSaved saved id server) :
    x ∈ saved ∧ x.service.id = id ∧ x.serverId = server := by
  have hmem := mem_of_getLast? (mem_def.mp hx)
  simpa using hmem

theorem triggersMatch_append (h : TriggersMatch saved) (hx : x.spawned = x.calledFor ((lastSaved
      saved x.service.id x.serverId).map (·.success))) :
    TriggersMatch (saved ++ [x]) := by
  intro before y after heq
  rcases eq_nil_or_concat after with rfl | ⟨init, last, rfl⟩
  · obtain ⟨rfl, hy⟩ := append_inj' heq rfl
    obtain rfl := head_eq_of_cons_eq hy
    exact hx
  · rw [concat_eq_append, ← cons_append, ← append_assoc] at heq
    obtain ⟨hsaved, -⟩ := append_inj' heq rfl
    exact h before y init hsaved

/-! ## Steps -/

namespace Monitor

variable {m : Monitor b}

theorem handleServiceTransition_eq (m : Monitor b) (x : Saved b) (previous : Option Bool) :
    m.handleServiceTransition x.service x.serverId x.success previous x.owner =
      (x.calledFor previous, { m with
        states := m.states.insert (serviceStateKey x.service.id x.serverId) x.success }) := by
  obtain ⟨service, serverId, success, owner, row, spawned⟩ := x
  unfold handleServiceTransition Saved.calledFor
  cases success with
  | false =>
    rcases previous with _ | _ | _ <;> cases service.failureTaskIds <;>
      rcases owner with _ | _ | _ <;> rfl
  | true =>
    rcases previous with _ | _ | _ <;> cases service.recoveryTaskIds <;>
      rcases owner with _ | _ | _ <;> rfl

end Monitor

namespace MonitorRun

variable {r : MonitorRun b} {service : ServiceConfig} {serverId : Option AgentId}

theorem step_save_cases (r : MonitorRun b) (service : ServiceConfig) (serverId : Option AgentId)
    (result : ServiceProbe b) {io : SaveIo b} (hpruned : io.inserted = .ok () →
      io.deletedResults = .ok () ∧ io.deletedHistory = .ok ()) :
    r.step (.save service serverId result io) = r ∨
    ∃ (previous : Option Bool) (x : Saved b),
      r.monitor.previousServiceSuccess service.id serverId io.read = .ok previous ∧
      (x.service = service ∧ x.serverId = serverId ∧ x.success = result.success ∧
        x.row = resultRow service serverId result io) ∧
      x.spawned = x.calledFor previous ∧
      r.step (.save service serverId result io) =
        ⟨⟨r.monitor.states.insert (serviceStateKey service.id serverId) result.success,
          (r.monitor.results ++ [x.row]).filter fun row => Stamp.le io.cutoff row.createdAt⟩,
          r.saved ++ [x]⟩ := by
  cases hprevious : r.monitor.previousServiceSuccess service.id serverId io.read with
  | error =>
    refine .inl ?_
    simp [step, Monitor.save, hprevious]
  | ok previous =>
    cases hinserted : io.inserted with
    | error =>
      refine .inl ?_
      simp [step, Monitor.save, hprevious, hinserted]
    | ok =>
      obtain ⟨hresults, hhistory⟩ := hpruned hinserted
      let x : Saved b := ⟨service, serverId, result.success,
        serviceTriggerOwner service io.uniqueOwner, resultRow service serverId result io, none⟩
      refine .inr ⟨previous, { x with spawned := x.calledFor previous }, rfl,
        ⟨rfl, rfl, rfl, rfl⟩, rfl, ?_⟩
      simp only [step, Monitor.save, hprevious, hinserted, hresults, hhistory]
      rw [Monitor.handleServiceTransition_eq _ x previous]
      rfl

/-- The cache has the last stored results, the table no later rows, and the tasks triggered so far
are those called for. -/
structure Tracked (r : MonitorRun b) : Prop where
  cached : ∀ id server success,
    r.monitor.states.lookup (serviceStateKey id server) = some success →
    (lastSaved r.saved id server).map (·.success) = some success
  stored : ∀ row ∈ r.monitor.results, ∀ id server, isFor id server row = true →
    ∃ x ∈ lastSaved r.saved id server, row = x.row ∨ Earlier row.createdAt x.row.createdAt
  rows : ∀ x ∈ r.saved, isFor x.service.id x.serverId x.row = true ∧
    (x.row.status == "success") = x.success
  matched : TriggersMatch r.saved

theorem tracked_init : Tracked (init (b := b)) := by
  refine ⟨fun id server success h => ?_, fun row hrow => ?_, fun x hx => ?_,
    fun before x after h => ?_⟩
  · simp [init] at h
  · simp [init] at hrow
  · simp [init] at hx
  · simp [init] at h

theorem Tracked.previous_eq (ht : Tracked r) {previous : Option Bool} {read : Except String Unit}
    (hlast : r.monitor.states.lookup (serviceStateKey service.id serverId) = none →
      ∀ x ∈ lastSaved r.saved service.id serverId, x.row ∈ r.monitor.results)
    (hprevious : r.monitor.previousServiceSuccess service.id serverId read = .ok previous) :
    previous = (lastSaved r.saved service.id serverId).map (·.success) := by
  unfold Monitor.previousServiceSuccess at hprevious
  split at hprevious
  · rename_i success _ hcached
    rw [ht.cached _ _ _ hcached]
    exact (Except.ok.inj hprevious).symm
  · cases hprevious
  · rename_i hmiss
    rw [← Except.ok.inj hprevious]
    cases hsaved : lastSaved r.saved service.id serverId with
    | none =>
      have hnone : r.monitor.results.filter (isFor service.id serverId) = [] := by
        rw [filter_eq_nil_iff]
        intro row hrow hfor
        obtain ⟨x, hx, -⟩ := ht.stored row hrow _ _ hfor
        rw [hsaved] at hx
        cases hx
      rw [hnone]
      simp [newestFirst]
    | some x =>
      obtain ⟨hmem, hid, hserver⟩ := mem_of_mem_lastSaved (mem_def.mpr hsaved)
      obtain ⟨hfor, hstatus⟩ := ht.rows x hmem
      rw [hid, hserver] at hfor
      have hrow := hlast hmiss x (mem_def.mpr hsaved)
      rw [head?_newestFirst (x := x.row) (mem_filter.mpr ⟨hrow, hfor⟩)]
      · simp [hstatus]
      · intro row hrow
        obtain ⟨hrow, hfor⟩ := mem_filter.mp hrow
        obtain ⟨y, hy, hrow⟩ := ht.stored row hrow _ _ hfor
        rw [hsaved] at hy
        cases hy
        exact hrow

theorem Tracked.of_states (ht : Tracked r) {states : HashMap String Bool}
    (hstates : ∀ key success, states.lookup key = some success →
      r.monitor.states.lookup key = some success) :
    Tracked ⟨⟨states, r.monitor.results⟩, r.saved⟩ :=
  ⟨fun id server success h => ht.cached id server success (hstates _ _ h), ht.stored, ht.rows,
    ht.matched⟩

theorem isFor_inj {id id' : ServiceId} {server server' : Option AgentId} {row : ServiceResultRow b}
    (h : isFor id server row = true) (h' : isFor id' server' row = true) :
    id = id' ∧ server = server' := by
  simp only [isFor, Bool.and_eq_true, beq_iff_eq] at h h'
  refine ⟨?_, ?_⟩
  · cases id
    cases id'
    obtain rfl := h.1.symm.trans h'.1
    rfl
  · exact map_injective (fun _ _ => AgentId.ext_text) (h.2.symm.trans h'.2)

theorem tracked_step (ht : Tracked r) {e : MonitorEvent b} (hkept : r.Kept e) :
    Tracked (r.step e) := by
  cases e with
  | save service serverId result =>
    obtain ⟨hpruned, hclock, hlast⟩ := hkept
    rcases step_save_cases r service serverId result hpruned with
      hsame | ⟨previous, x, hprevious, hx, hspawned, hstep⟩
    · rw [hsame]
      exact ht
    · obtain ⟨rfl, rfl, hsuccess, hrow⟩ := hx
      rw [hstep]
      have hfor : isFor x.service.id x.serverId x.row = true := by
        simp [hrow, isFor, resultRow]
      refine ⟨fun id server success h => ?_, fun row hmem id server hrowFor => ?_,
        fun y hy => ?_, ?_⟩
      · simp only [AList.lookup_insert_eq, serviceStateKey_inj] at h
        rw [lastSaved_append]
        split at h
        · rename_i hkey
          rw [if_pos ⟨hkey.1.symm, hkey.2.symm⟩, map_some, hsuccess]
          exact h
        · rename_i hkey
          rw [if_neg fun heq => hkey ⟨heq.1.symm, heq.2.symm⟩]
          exact ht.cached id server success h
      · rw [lastSaved_append]
        obtain ⟨hmem, -⟩ := mem_filter.mp hmem
        by_cases hkey : x.service.id = id ∧ x.serverId = server
        · rw [if_pos hkey]
          obtain ⟨rfl, rfl⟩ := hkey
          refine ⟨x, rfl, ?_⟩
          rcases mem_append.mp hmem with hold | hnew
          · refine .inr ?_
            rw [hrow]
            exact hclock row hold hrowFor
          · exact .inl (mem_singleton.mp hnew)
        · rw [if_neg hkey]
          rcases mem_append.mp hmem with hold | hnew
          · exact ht.stored row hold id server hrowFor
          · rw [mem_singleton.mp hnew] at hrowFor
            exact absurd (isFor_inj hfor hrowFor) hkey
      · rcases mem_append.mp hy with hold | hnew
        · exact ht.rows y hold
        · obtain rfl := mem_singleton.mp hnew
          refine ⟨hfor, ?_⟩
          rw [hrow, hsuccess, resultRow]
          cases result.success <;> simp
      · apply triggersMatch_append ht.matched
        rw [hspawned, ht.previous_eq hlast hprevious]
  | pruneInactive =>
    exact ht.of_states fun key success h => (AList.lookup_retain_eq_some.mp h).1
  | pruneTargets =>
    exact ht.of_states fun key success h => (AList.lookup_retain_eq_some.mp h).1
  | restart => exact ht.of_states fun key success h => by simp at h

end MonitorRun

namespace Sample

def service : ServiceConfig where
  id := ⟨"00000000-0000-4000-8000-000000000001", canonical_one⟩
  ownerUserId := some "00000000-0000-4000-8000-000000000002"
  failureTaskIds := ["00000000-0000-4000-8000-000000000003"]
  recoveryTaskIds := []

def probe (success : Bool) : ServiceProbe .postgres := ⟨success, none, none, none, none, none⟩

def ioAt (now : ℤ) (deletedHistory : Except String Unit) : SaveIo .postgres where
  read := .ok ()
  id := "00000000-0000-4000-8000-000000000004"
  createdAt := now
  inserted := .ok ()
  cutoff := now - 1000
  deletedResults := .ok ()
  deletedHistory := deletedHistory
  uniqueOwner := .ok none

def saveAt (now : ℤ) (success : Bool) (deletedHistory : Except String Unit) :
    MonitorEvent .postgres :=
  .save service none (probe success) (ioAt now deletedHistory)

def outage : List (MonitorEvent .postgres) := [saveAt 1 true (.ok ()), saveAt 2 false (.ok ())]

def lockedOutage : List (MonitorEvent .postgres) :=
  [saveAt 1 true (.ok ()), saveAt 2 false (.error "database is locked"), saveAt 3 false (.ok ())]

end Sample

namespace MonitorRun

end MonitorRun

end XLStatus.Services
