import XLStatus.Tunnel.UsageDefs

/-! The limits on the use of a NAT mapping: what the counters in memory admit over a run of
calls, and which usage windows a connection of another mapping leaves alone. -/

namespace XLStatus.Tunnel

open Auth (DateTime seconds timestamp)
open Shared Transition List AList

/-! ## The calls on one mapping's counters -/

structure RateLimits where
  maxTrackedIps : ℕ
  maxConnectionsPerWindow : Option UInt32
  maxBytesPerWindow : Option UInt64

inductive RateCall where
  | connection (sourceIp : String) (windowStart now : DateTime)
  | bytes (sourceIp : String) (windowStart : DateTime) (bytes : UInt64) (now : DateTime)

structure RateRun where
  sources : Sources
  latest : DateTime
  admitted : List (String × DateTime)

def RateRun.init (start : DateTime) : RateRun := ⟨∅, start, []⟩

variable (limits : RateLimits)

def RateRun.step (st : RateRun) : RateCall → RateRun
  | .connection sourceIp windowStart now =>
    let (result, sources) := recordSourceConnectionInMap st.sources sourceIp windowStart now
      limits.maxTrackedIps limits.maxConnectionsPerWindow limits.maxBytesPerWindow
    { sources
      latest := windowStart
      admitted := match result with
        | .ok _ => st.admitted ++ [(Text.trim sourceIp, windowStart)]
        | .error _ => st.admitted }
  | .bytes sourceIp windowStart bytes now =>
    { st with
      sources := (recordSourceBytesInMap st.sources sourceIp windowStart bytes now
        limits.maxTrackedIps).2 }

/-- Connections come in the order of their windows, and bytes are reported for the window a
connection of the source was admitted in. -/
def RateRun.Timely (st : RateRun) : RateCall → Prop
  | .connection _ windowStart _ => st.latest ≤ windowStart
  | .bytes sourceIp windowStart _ _ => (Text.trim sourceIp, windowStart) ∈ st.admitted

instance (st : RateRun) : (call : RateCall) → Decidable (st.Timely call)
  | .connection _ windowStart _ => inferInstanceAs (Decidable (st.latest ≤ windowStart))
  | .bytes sourceIp windowStart _ _ =>
    inferInstanceAs (Decidable ((Text.trim sourceIp, windowStart) ∈ st.admitted))

def RateRun.InOrder (st : RateRun) : RateCall → Prop
  | .connection _ _ _ => True
  | .bytes sourceIp windowStart _ _ =>
    ∀ state, st.sources.lookup (Text.trim sourceIp) = some state →
      state.windowStart ≤ windowStart

/-! ## One call -/

variable {state : TrackedSourceRateState} {minWindowStart : DateTime} {sources : Sources}
  {ip sourceIp : String} {maxConnectionsPerWindow : Option UInt32} {maxTrackedIps : ℕ}
  {a : NatMapping} {windowSeconds : UInt32}

theorem lookup_prune :
    (pruneExpiredSourceRateWindows sources minWindowStart).lookup ip = some state ↔
      sources.lookup ip = some state ∧ minWindowStart ≤ state.windowStart := by
  rw [pruneExpiredSourceRateWindows, lookup_retain_eq_some, decide_eq_true_eq]

theorem windowCounts_prune (sources : Sources) (ip : String) {w : DateTime}
    (h : minWindowStart ≤ w) :
    windowCounts (pruneExpiredSourceRateWindows sources minWindowStart) ip w =
      windowCounts sources ip w := by
  cases hlookup : (pruneExpiredSourceRateWindows sources minWindowStart).lookup ip with
  | some => simp [windowCounts, hlookup, (lookup_prune.mp hlookup).1]
  | none =>
    cases hsource : sources.lookup ip with
    | none => simp [windowCounts, hlookup, hsource]
    | some state =>
      have hne : state.windowStart ≠ w := by
        rintro rfl
        rw [lookup_prune.mpr ⟨hsource, h⟩] at hlookup
        cases hlookup
      simp [windowCounts, hlookup, hsource, hne]

theorem windowCounts_insert_self (sources : Sources) (ip : String) (state : TrackedSourceRateState)
    (w : DateTime) :
    windowCounts (sources.insert ip state) ip w =
      if state.windowStart = w then (state.connectionCount, state.bytesTransferred)
      else (0, 0) := by
  simp [windowCounts]

theorem windowCounts_insert_ne (sources : Sources) {ip' : String} (h : ip' ≠ ip)
    (state : TrackedSourceRateState) (w : DateTime) :
    windowCounts (sources.insert ip state) ip' w = windowCounts sources ip' w := by
  simp [windowCounts, lookup_insert_ne h]

theorem len_insert_le_of_not_isFull {bound : ℕ} (hfull : isFull sources ip bound = false)
    (hlen : sources.len ≤ bound) (state : TrackedSourceRateState) :
    (sources.insert ip state).len ≤ bound := by
  rw [isFull, Bool.and_eq_false_iff, Option.isNone_eq_false_iff, decide_eq_false_iff_not] at hfull
  rcases hfull with hsome | hroom
  · rw [len_insert_of_mem state (lookup_isSome.mp hsome)]
    exact hlen
  · have := len_insert_le sources ip state
    omega

section Call

variable (sources : Sources) (sourceIp : String) (windowStart now : DateTime)

theorem recordSourceConnection_cases :
    let call := recordSourceConnectionInMap sources sourceIp windowStart now limits.maxTrackedIps
      limits.maxConnectionsPerWindow limits.maxBytesPerWindow
    let pruned := pruneExpiredSourceRateWindows sources windowStart
    let counted := saturatingAdd (windowCounts pruned (Text.trim sourceIp) windowStart).1 1
    ((∃ e, call.1 = .error e) ∧ call.2 = pruned) ∨
      isFull pruned (Text.trim sourceIp) limits.maxTrackedIps = false ∧
        (∃ state, call.2 = pruned.insert (Text.trim sourceIp) state ∧
          state.windowStart = windowStart ∧ state.connectionCount = counted) ∧
        ((∃ e, call.1 = .error e) ∨ (∃ state, call.1 = .ok state) ∧
          ∀ limit, limits.maxConnectionsPerWindow = some limit → counted.toNat ≤ limit.toNat) := by
  intro call pruned counted
  have hcall : call = recordSourceConnectionInMap sources sourceIp windowStart now
    limits.maxTrackedIps limits.maxConnectionsPerWindow limits.maxBytesPerWindow := rfl
  unfold recordSourceConnectionInMap at hcall
  dsimp only at hcall
  split at hcall
  · exact Or.inl ⟨⟨_, by rw [hcall]⟩, by rw [hcall]⟩
  split at hcall
  · exact Or.inl ⟨⟨_, by rw [hcall]⟩, by rw [hcall]⟩
  rename_i hfull
  rw [Bool.not_eq_true] at hfull
  split at hcall
  · exact Or.inr ⟨hfull, ⟨_, by rw [hcall], rfl, rfl⟩, Or.inl ⟨_, by rw [hcall]⟩⟩
  rename_i hlimit
  split at hcall
  · exact Or.inl ⟨⟨_, by rw [hcall]⟩, by rw [hcall]⟩
  · refine Or.inr ⟨hfull, ⟨_, by rw [hcall], rfl, rfl⟩,
      Or.inr ⟨⟨_, by rw [hcall]⟩, fun limit hmax => ?_⟩⟩
    simpa [hmax] using hlimit

theorem recordSourceBytes_cases (bytes : UInt64) :
    let result := (recordSourceBytesInMap sources sourceIp windowStart bytes now
      limits.maxTrackedIps).2
    let pruned := pruneExpiredSourceRateWindows sources windowStart
    result = pruned ∨ isFull pruned (Text.trim sourceIp) limits.maxTrackedIps = false ∧
      ∃ state, result = pruned.insert (Text.trim sourceIp) state ∧
        state.windowStart = windowStart ∧
        state.connectionCount = (windowCounts pruned (Text.trim sourceIp) windowStart).1 := by
  intro result pruned
  have hresult : result = (recordSourceBytesInMap sources sourceIp windowStart bytes now
    limits.maxTrackedIps).2 := rfl
  unfold recordSourceBytesInMap at hresult
  dsimp only at hresult
  split at hresult
  · exact Or.inl hresult
  split at hresult
  · exact Or.inl hresult
  rename_i hfull
  rw [Bool.not_eq_true] at hfull
  refine Or.inr ⟨hfull, _, hresult, ?_⟩
  unfold windowCounts
  cases pruned.lookup (Text.trim sourceIp) with
  | none => simp [TrackedSourceRateState.addBytes]
  | some state =>
    by_cases hw : state.windowStart = windowStart <;>
      simp [TrackedSourceRateState.addBytes, hw]

end Call

/-! ## Runs -/

namespace RateRun

variable {limits}

theorem len_step {st : RateRun} (h : st.sources.len ≤ limits.maxTrackedIps) (call : RateCall) :
    (st.step limits call).sources.len ≤ limits.maxTrackedIps := by
  have hpruned : ∀ w, (pruneExpiredSourceRateWindows st.sources w).len ≤ limits.maxTrackedIps :=
    fun w => (len_retain_le _ _).trans h
  cases call with
  | connection sourceIp windowStart now =>
    rcases recordSourceConnection_cases limits st.sources sourceIp windowStart now with
      ⟨-, hsources⟩ | ⟨hfull, ⟨state, hsources, -⟩, -⟩
    · simp only [step, hsources]
      exact hpruned windowStart
    · simp only [step, hsources]
      exact len_insert_le_of_not_isFull hfull (hpruned windowStart) _
  | bytes sourceIp windowStart bytes now =>
    rcases recordSourceBytes_cases limits st.sources sourceIp windowStart now bytes with
      hsources | ⟨hfull, state, hsources, -⟩
    · simp only [step, hsources]
      exact hpruned windowStart
    · simp only [step, hsources]
      exact len_insert_le_of_not_isFull hfull (hpruned windowStart) _

structure Counted (limit : UInt32) (st : RateRun) : Prop where
  tracked_le : ∀ {ip state}, st.sources.lookup ip = some state → state.windowStart ≤ st.latest
  admitted_le : ∀ a ∈ st.admitted, a.2 ≤ st.latest
  counted : ∀ ip, st.admitted.count (ip, st.latest) ≤
    (windowCounts st.sources ip st.latest).1.toNat
  within : ∀ a, st.admitted.count a ≤ limit.toNat

theorem toNat_saturatingAdd_one (x : UInt64) :
    (saturatingAdd x 1).toNat = min (x.toNat + 1) (2 ^ 64 - 1) := by
  have hx := x.toNat_lt
  have hone : (1 : UInt64).toNat = 1 := rfl
  unfold saturatingAdd
  split
  · rw [UInt64.toNat_add, hone, Nat.mod_eq_of_lt (by omega)]
    omega
  · change 2 ^ 64 - 1 = _
    omega

variable {limit : UInt32} {st : RateRun}

theorem Counted.count_le (h : Counted limit st) {w : DateTime} (hw : st.latest ≤ w) (ip : String) :
    st.admitted.count (ip, w) ≤
      (windowCounts (pruneExpiredSourceRateWindows st.sources w) ip w).1.toNat := by
  rw [windowCounts_prune _ _ le_rfl]
  rcases hw.eq_or_lt with rfl | hlt
  · exact h.counted ip
  · have hnot : (ip, w) ∉ st.admitted := fun hmem => hlt.not_ge (h.admitted_le _ hmem)
    simp [count_eq_zero_of_not_mem hnot]

theorem tracked_insert_le {sources : Sources} {latest : DateTime}
    (h : ∀ {ip state}, sources.lookup ip = some state → state.windowStart ≤ latest) {ip : String}
    {state : TrackedSourceRateState} (hstate : state.windowStart ≤ latest) {ip' : String}
    {state' : TrackedSourceRateState}
    (hlookup : (sources.insert ip state).lookup ip' = some state') :
    state'.windowStart ≤ latest := by
  rw [lookup_insert_eq] at hlookup
  split at hlookup
  · exact Option.some.inj hlookup ▸ hstate
  · exact h hlookup

variable {windowStart : DateTime} {sourceIp : String}

theorem Counted.step_connection (hmax : limits.maxConnectionsPerWindow = some limit)
    (h : Counted limit st) {now : DateTime} (hw : st.latest ≤ windowStart) :
    Counted limit (st.step limits (.connection sourceIp windowStart now)) := by
  have htracked : ∀ {ip state}, (pruneExpiredSourceRateWindows st.sources windowStart).lookup ip =
      some state → state.windowStart ≤ windowStart :=
    fun hlookup => (h.tracked_le (lookup_prune.mp hlookup).1).trans hw
  have hadmitted : ∀ a ∈ st.admitted, a.2 ≤ windowStart := fun a ha => (h.admitted_le a ha).trans hw
  have hcount := h.count_le hw
  rcases recordSourceConnection_cases limits st.sources sourceIp windowStart now with
    ⟨⟨e, hresult⟩, hsources⟩ | ⟨-, ⟨state, hsources, hstate, hcounted⟩, hadmit⟩
  · simp only [step, hresult, hsources]
    exact ⟨htracked, hadmitted, hcount, h.within⟩
  · have hsource := hcount (Text.trim sourceIp)
    have hsat := toNat_saturatingAdd_one (windowCounts
      (pruneExpiredSourceRateWindows st.sources windowStart) (Text.trim sourceIp) windowStart).1
    have hbound := (windowCounts (pruneExpiredSourceRateWindows st.sources windowStart)
      (Text.trim sourceIp) windowStart).1.toNat_lt
    rw [← hcounted] at hsat
    have hself : (windowCounts ((pruneExpiredSourceRateWindows st.sources windowStart).insert
        (Text.trim sourceIp) state) (Text.trim sourceIp) windowStart).1 =
        state.connectionCount := by
      rw [windowCounts_insert_self, if_pos hstate]
    rcases hadmit with ⟨e, hresult⟩ | ⟨⟨_, hresult⟩, hlimit⟩
    · simp only [step, hresult, hsources]
      refine ⟨tracked_insert_le htracked hstate.le, hadmitted, fun ip => ?_, h.within⟩
      by_cases hip : ip = Text.trim sourceIp
      · rw [hip, hself]
        exact hsource.trans (by omega)
      · rw [windowCounts_insert_ne _ hip]
        exact hcount ip
    · -- within the limit the counter has not reached its end
      have hle := hlimit limit hmax
      have hlt := limit.toNat_lt
      rw [← hcounted] at hle
      simp only [step, hresult, hsources]
      refine ⟨tracked_insert_le htracked hstate.le, ?_, fun ip => ?_, fun a => ?_⟩
      · intro a ha
        rcases mem_append.mp ha with ha | ha
        · exact hadmitted a ha
        · rw [mem_singleton.mp ha]
      · rw [count_append, count_singleton]
        by_cases hip : ip = Text.trim sourceIp
        · rw [hip, hself, if_pos (beq_self_eq_true _)]
          exact (Nat.succ_le_succ hsource).trans (by omega)
        · rw [windowCounts_insert_ne _ hip]
          simpa [Ne.symm hip] using hcount ip
      · rw [count_append, count_singleton]
        split
        · rename_i heq
          rw [← eq_of_beq heq]
          omega
        · exact h.within a

theorem Counted.step_bytes (h : Counted limit st) {now : DateTime} {bytes : UInt64}
    (htimely : st.Timely (.bytes sourceIp windowStart bytes now))
    (horder : st.InOrder (.bytes sourceIp windowStart bytes now)) :
    Counted limit (st.step limits (.bytes sourceIp windowStart bytes now)) := by
  have hw : windowStart ≤ st.latest := h.admitted_le _ htimely
  have htracked : ∀ {ip state}, (pruneExpiredSourceRateWindows st.sources windowStart).lookup ip =
      some state → state.windowStart ≤ st.latest :=
    fun hlookup => h.tracked_le (lookup_prune.mp hlookup).1
  have hcount : ∀ ip, st.admitted.count (ip, st.latest) ≤
      (windowCounts (pruneExpiredSourceRateWindows st.sources windowStart) ip
        st.latest).1.toNat := by
    intro ip
    rw [windowCounts_prune _ _ hw]
    exact h.counted ip
  rcases recordSourceBytes_cases limits st.sources sourceIp windowStart now bytes with
    hsources | ⟨-, state, hsources, hstate, hcounted⟩
  · simp only [step, hsources]
    exact ⟨htracked, h.admitted_le, hcount, h.within⟩
  · simp only [step, hsources]
    refine ⟨tracked_insert_le htracked (hstate.trans_le hw), h.admitted_le, fun ip => ?_, h.within⟩
    by_cases hip : ip = Text.trim sourceIp
    · rw [hip, windowCounts_insert_self, hstate, hcounted]
      refine (hcount (Text.trim sourceIp)).trans ?_
      -- a source counted in the latest window is counted in the window of the report
      by_cases hlatest : windowStart = st.latest
      · rw [if_pos hlatest, hlatest]
      · rw [if_neg hlatest, windowCounts]
        split
        · rename_i tracked hlookup
          have hle := horder tracked (lookup_prune.mp hlookup).1
          rw [if_neg fun heq : tracked.windowStart = st.latest =>
            hlatest (le_antisymm hw (heq ▸ hle))]
        · exact le_rfl
    · rw [windowCounts_insert_ne _ hip]
      exact hcount ip

/-- In every run, the counters stay within the tracking limit; if no report of bytes goes back
to an earlier window than the one its source is counted in, no source has more connections
admitted in a window than the mapping allows. -/
theorem connections_within_limit (limits : RateLimits) (start : DateTime) (calls : List RateCall)
    (htimely : Meets (step limits) Timely (.init start) calls) :
    (run (step limits) (.init start) calls).sources.len ≤ limits.maxTrackedIps ∧
      (Meets (step limits) InOrder (.init start) calls →
        ∀ limit, limits.maxConnectionsPerWindow = some limit → ∀ sourceIp windowStart,
          (run (step limits) (.init start) calls).admitted.count (sourceIp, windowStart) ≤
            limit.toNat) := by
  refine ⟨?_, fun horder limit hmax sourceIp windowStart => ?_⟩
  · exact run_induct (P := fun st : RateRun => st.sources.len ≤ limits.maxTrackedIps)
      (fun st call h => len_step h call) (Nat.zero_le _) calls
  · have hinit : Counted limit (.init start) :=
      ⟨(fun hlookup => by cases hlookup), (fun a ha => by cases ha), fun ip => Nat.zero_le _,
        fun a => Nat.zero_le _⟩
    have hrun : Counted limit (run (step limits) (.init start) calls) := by
      refine run_induct_of_meets (fun st call hguard h => ?_) hinit (htimely.and horder)
      cases call with
      | connection sourceIp windowStart now => exact h.step_connection hmax hguard.1
      | bytes sourceIp windowStart bytes now => exact h.step_bytes hguard.1 hguard.2
    exact hrun.within (sourceIp, windowStart)

namespace Sample

def oneConnection : RateLimits := ⟨4096, some 1, none⟩

def opened : List RateCall :=
  [.connection "203.0.113.7" 0 5, .connection "203.0.113.7" 60 65]

def closedLate : List RateCall :=
  opened ++ [.bytes "203.0.113.7" 0 100 70, .connection "203.0.113.7" 60 75]

end Sample

theorem connections_within_limit_sample :
    (run (step Sample.oneConnection) (.init 0) Sample.opened).admitted.count ("203.0.113.7", 60) ≤
      (1 : UInt32).toNat := by
  have htimely : Meets (step Sample.oneConnection) Timely (.init 0) Sample.opened := by
    decide +kernel
  have horder : Meets (step Sample.oneConnection) InOrder (.init 0) Sample.opened :=
    ⟨trivial, trivial, trivial⟩
  exact (connections_within_limit Sample.oneConnection 0 Sample.opened htimely).2 horder 1 rfl _ _

theorem late_report_admits_again :
    Meets (step Sample.oneConnection) Timely (.init 0) Sample.closedLate ∧
      (run (step Sample.oneConnection) (.init 0) Sample.closedLate).admitted.count
        ("203.0.113.7", 60) = 2 := by
  decide +kernel

end RateRun

/-! ## The usage of other mappings -/

/-- What recording a connection for one mapping leaves of another mapping's usage: the counters,
and every row of the window that is current for it. -/
def Untouched (a b : NatMapping) : Prop :=
  ∀ (st : Usage) (sourceIp : String) (io : ConnectionIo),
    (recordNatConnection st a sourceIp io).2.rateLimits.lookup b.id = st.rateLimits.lookup b.id ∧
      ∀ source, (recordNatConnection st a sourceIp io).2.table.lookup
          ⟨b.id, source, currentNatUsageWindow ((natRateLimitWindowSeconds b).getD 60) io.now⟩ =
        st.table.lookup
          ⟨b.id, source, currentNatUsageWindow ((natRateLimitWindowSeconds b).getD 60) io.now⟩

theorem currentNatUsageWindow_bounds (windowSeconds : UInt32) (now : ℤ) :
    currentNatUsageWindow windowSeconds now ≤ now ∧
      now < currentNatUsageWindow windowSeconds now + seconds (max windowSeconds.toNat 1) := by
  have hpos : (0 : ℤ) < max (windowSeconds.toNat : ℤ) 1 := by omega
  have hmod := Int.emod_nonneg (timestamp now) hpos.ne'
  have hlt := Int.emod_lt_of_pos (timestamp now) hpos
  have htime : timestamp now * 1000000000 ≤ now ∧
      now < timestamp now * 1000000000 + 1000000000 := by
    unfold timestamp
    omega
  simp only [currentNatUsageWindow, seconds]
  generalize max (windowSeconds.toNat : ℤ) 1 = length at *
  generalize timestamp now % length = elapsed at *
  change (_ : ℤ) ≤ now ∧ now < (_ : ℤ)
  omega

theorem currentNatUsageWindow_last (windowSeconds : UInt32) :
    currentNatUsageWindow windowSeconds (seconds (max windowSeconds.toNat 1) - 1) = 0 := by
  have hpos : (0 : ℤ) < max (windowSeconds.toNat : ℤ) 1 := by omega
  have htime : timestamp (seconds (max windowSeconds.toNat 1) - 1) =
      max (windowSeconds.toNat : ℤ) 1 - 1 := by
    unfold timestamp seconds
    omega
  simp only [currentNatUsageWindow, htime]
  rw [Int.emod_eq_of_lt (by omega) (by omega), sub_self]
  rfl

theorem lookup_pruneUsageWindows {table : UsageTable} {before : DateTime} {key : UsageKey}
    (h : before ≤ key.windowStart) :
    (pruneUsageWindows table before).lookup key = table.lookup key := by
  rw [pruneUsageWindows, lookup_retain, decide_eq_true h]
  cases table.lookup key <;> rfl

theorem lookup_recordUsage (table : UsageTable) (mapping : NatMapping) (windowSeconds : UInt32)
    (window : NatUsageWindowKey) (io : ConnectionIo) {key : UsageKey}
    (hkey : key.mappingId ≠ mapping.id) :
    (recordUsage table mapping windowSeconds window io).2.lookup key =
      (if io.pruned then pruneUsageWindows table (io.now - seconds (windowSeconds.toNat * 4))
        else table).lookup key := by
  have hrecord : ∀ table : UsageTable, (recordConnectionWindow table
      ⟨mapping.id, window.sourceIp, window.windowStart⟩ io.recordedAt).2.lookup key =
        table.lookup key := by
    intro table
    refine lookup_insert_ne fun heq => hkey ?_
    rw [heq]
  unfold recordUsage
  dsimp only
  generalize (if io.pruned then
    pruneUsageWindows table (io.now - seconds (windowSeconds.toNat * 4)) else table) = pruned
  split
  · rfl
  split
  · exact hrecord pruned
  split
  · exact hrecord pruned
  · exact hrecord pruned

theorem refused_of_limit_zero {windowStart now : DateTime} {maxBytesPerWindow : Option UInt64}
    (hzero : maxConnectionsPerWindow = some 0) :
    (recordSourceConnectionInMap sources sourceIp windowStart now maxTrackedIps
      maxConnectionsPerWindow maxBytesPerWindow).1 ≠ .ok state := by
  intro hok
  rcases recordSourceConnection_cases ⟨maxTrackedIps, maxConnectionsPerWindow, maxBytesPerWindow⟩
    sources sourceIp windowStart now with ⟨⟨e, herror⟩, -⟩ | ⟨-, -, ⟨e, herror⟩ | ⟨-, hlimit⟩⟩
  · cases herror.symm.trans hok
  · cases herror.symm.trans hok
  · have hle := hlimit 0 hzero
    rw [RateRun.toNat_saturatingAdd_one] at hle
    change min _ _ ≤ 0 at hle
    omega

theorem untouched_of_le {b : NatMapping} (hid : b.id ≠ a.id) (hle : a.maxConnectionsPerWindow =
      some 0 ∨ ∀ windowSeconds, natRateLimitWindowSeconds a = some windowSeconds → max
      ((natRateLimitWindowSeconds b).getD 60).toNat 1 ≤ 4 * windowSeconds.toNat) :
    Untouched a b := by
  intro st sourceIp io
  unfold recordNatConnection
  dsimp only
  split
  · exact ⟨lookup_insert_ne hid, fun _ => rfl⟩
  · exact ⟨lookup_insert_ne hid, fun _ => rfl⟩
  · rename_i state windowSeconds hok hwindow
    refine ⟨lookup_insert_ne hid, fun source => ?_⟩
    rw [lookup_recordUsage _ _ _ _ _ hid]
    split
    · apply lookup_pruneUsageWindows
      have hlength : max ((natRateLimitWindowSeconds b).getD 60).toNat 1 ≤
          4 * windowSeconds.toNat := by
        refine hle.resolve_left (fun hzero => ?_) windowSeconds hwindow
        exact absurd hok (refused_of_limit_zero hzero)
      have hbounds := currentNatUsageWindow_bounds ((natRateLimitWindowSeconds b).getD 60) io.now
      simp only [seconds] at hbounds ⊢
      change (_ : ℤ) ≤ _
      omega
    · rfl

theorem table_of_admitted (st : Usage) (io : ConnectionIo) (hok : (recordSourceConnectionInMap
      ((st.rateLimits.lookup a.id).getD ∅) sourceIp (currentNatUsageWindow
      ((natRateLimitWindowSeconds a).getD 60) io.windowNow) io.now maxTrackedSourceIpsPerMapping
      a.maxConnectionsPerWindow a.maxBytesPerWindow).1 = .ok state)
    (hwindow : natRateLimitWindowSeconds a = some windowSeconds) :
    (recordNatConnection st a sourceIp io).2.table =
      (recordUsage st.table a windowSeconds
        ⟨currentNatUsageWindow ((natRateLimitWindowSeconds a).getD 60) io.windowNow, sourceIp⟩
        io).2 := by
  unfold recordNatConnection
  dsimp only
  rw [hok, hwindow]

theorem first_connection_admitted (hip : Text.trim sourceIp ≠ "") (windowStart now : DateTime)
    (htracked : 0 < maxTrackedIps) (hmax : maxConnectionsPerWindow ≠ some 0)
    (maxBytesPerWindow : Option UInt64) :
    (recordSourceConnectionInMap ∅ sourceIp windowStart now maxTrackedIps maxConnectionsPerWindow
      maxBytesPerWindow).1 = .ok ⟨windowStart, 1, 0, now⟩ := by
  have hpruned : pruneExpiredSourceRateWindows ∅ windowStart = ∅ := rfl
  have hfull : isFull ∅ (Text.trim sourceIp) maxTrackedIps = false := by
    simp [isFull, len, htracked.ne']
  have hlimit : (maxConnectionsPerWindow.any fun limit =>
      decide ((saturatingAdd 0 1).toNat > limit.toNat)) = false := by
    cases maxConnectionsPerWindow with
    | none => rfl
    | some limit =>
      have hne : limit.toNat ≠ 0 := fun h => hmax (congrArg some (UInt32.toNat_inj.mp h))
      simp only [Option.any_some, RateRun.toNat_saturatingAdd_one, UInt64.toNat_zero,
        decide_eq_false_iff_not]
      omega
  have hbytes : (maxBytesPerWindow.any fun limit => decide ((0 : UInt64) > limit)) = false := by
    cases maxBytesPerWindow with
    | none => rfl
    | some => simp
  simp only [recordSourceConnectionInMap, hpruned, if_neg hip, hfull, windowCounts,
    lookup_empty, hlimit, hbytes]
  rfl

theorem lookup_eq_none_of_lt (hmax : a.maxConnectionsPerWindow ≠ some 0)
    (hwindow : natRateLimitWindowSeconds a = some windowSeconds) {now : DateTime} {key : UsageKey}
    (hid : key.mappingId ≠ a.id) (hlt : key.windowStart < now - seconds (windowSeconds.toNat * 4))
    (table : UsageTable) :
    (recordNatConnection ⟨∅, table⟩ a "203.0.113.7" ⟨now, now, now, true, .ok ()⟩).2.table.lookup
      key = none := by
  have hadmitted : (recordSourceConnectionInMap
      (((∅ : HashMap String Sources).lookup a.id).getD ∅) "203.0.113.7"
      (currentNatUsageWindow ((natRateLimitWindowSeconds a).getD 60) now) now
      maxTrackedSourceIpsPerMapping a.maxConnectionsPerWindow a.maxBytesPerWindow).1 =
      .ok ⟨currentNatUsageWindow ((natRateLimitWindowSeconds a).getD 60) now, 1, 0, now⟩ := by
    rw [lookup_empty, Option.getD_none]
    exact first_connection_admitted (by decide +kernel) _ _ (by decide) hmax _
  rw [table_of_admitted ⟨∅, table⟩ ⟨now, now, now, true, .ok ()⟩ hadmitted hwindow,
    lookup_recordUsage _ _ _ _ _ hid, if_pos rfl, pruneUsageWindows, lookup_retain,
    decide_eq_false hlt.not_ge]
  cases table.lookup key <;> rfl

/-- Over all times and tables, a mapping leaves another one's usage alone exactly if the other's
windows are at most four times as long as its own, or it never gets to prune. -/
theorem untouched_iff (a b : NatMapping) (hid : b.id ≠ a.id) :
    Untouched a b ↔ a.maxConnectionsPerWindow = some 0 ∨
      ∀ windowSeconds, natRateLimitWindowSeconds a = some windowSeconds →
        max ((natRateLimitWindowSeconds b).getD 60).toNat 1 ≤ 4 * windowSeconds.toNat := by
  constructor
  · intro huntouched
    by_contra hcondition
    push Not at hcondition
    obtain ⟨hmax, windowSeconds, hwindow, hlong⟩ := hcondition
    -- at the last instant of a window of `b`, `a` drops the rows from its start
    let now := seconds (max ((natRateLimitWindowSeconds b).getD 60).toNat 1) - 1
    let key : UsageKey := ⟨b.id, "203.0.113.7",
      currentNatUsageWindow ((natRateLimitWindowSeconds b).getD 60) now⟩
    have hstart : key.windowStart < now - seconds (windowSeconds.toNat * 4) := by
      change currentNatUsageWindow ((natRateLimitWindowSeconds b).getD 60) now < _
      rw [currentNatUsageWindow_last]
      simp only [now, seconds]
      change (0 : ℤ) < _
      omega
    have hkept := (huntouched ⟨∅, (∅ : UsageTable).insert key ⟨5, 0, now⟩⟩ "203.0.113.7"
      ⟨now, now, now, true, .ok ()⟩).2 "203.0.113.7"
    rw [lookup_eq_none_of_lt hmax hwindow hid hstart, lookup_insert] at hkept
    cases hkept
  · exact untouched_of_le hid

namespace Sample

def limited (id : String) (windowSeconds : UInt32) : NatMapping where
  id := id
  agentId := "00000000-0000-0000-0000-000000000002"
  localHost := "127.0.0.1"
  localPort := 80
  publicPort := 18080
  protocol := .tcp
  enabled := true
  description := none
  allowedSources := none
  maxActiveTunnels := none
  idleTimeoutSeconds := none
  maxBytesPerTunnel := none
  maxBandwidthBytesPerSecond := none
  rateLimitWindowSeconds := some windowSeconds
  maxConnectionsPerWindow := some 5
  maxBytesPerWindow := some 1000

def halfHour : DateTime := seconds 1800

def usedUp : Usage where
  rateLimits := ∅
  table := (∅ : UsageTable).insert ⟨"hourly", "203.0.113.7", 0⟩ ⟨5, 0, halfHour⟩

end Sample

theorem untouched_iff_sample : Untouched (Sample.limited "a" 60) (Sample.limited "b" 240) := by
  refine (untouched_iff _ _ (by decide)).mpr (Or.inr fun windowSeconds h => ?_)
  cases h
  decide

theorem short_window_deletes_usage :
    currentNatUsageWindow ((natRateLimitWindowSeconds (Sample.limited "hourly" 3600)).getD 60)
        Sample.halfHour = 0 ∧
      Sample.usedUp.table.lookup ⟨"hourly", "203.0.113.7", 0⟩ = some ⟨5, 0, Sample.halfHour⟩ ∧
      (recordNatConnection Sample.usedUp (Sample.limited "a" 60) "198.51.100.1"
        ⟨Sample.halfHour, Sample.halfHour, Sample.halfHour, true, .ok ()⟩).2.table.lookup
          ⟨"hourly", "203.0.113.7", 0⟩ = none := by
  decide +kernel

end XLStatus.Tunnel
