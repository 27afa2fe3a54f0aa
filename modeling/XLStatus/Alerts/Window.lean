import XLStatus.Alerts.WindowDefs

/-! A condition with a duration is met for the whole of it, as long as its window is looked
after: what the checks of one tick do to a window, and what an open window says of the ticks
and the rules since it was opened. -/

namespace XLStatus.Alerts

open Shared Auth Transition List Option AList

variable {F : Type} {f : Float64 F}

/-! ## Comparators and keys -/

section

variable (f)

def held (latest : HashMap String (Value F)) : AlertCondition → Bool
  | .serverResource agentId resource operator threshold _ =>
    ((latest.lookup agentId).bind fun state => resourceValue f state resource).any fun value =>
      operator.compare f value (f.ofRat threshold)
  | _ => false

def conditionKey : AlertCondition → Option String
  | .serverResource agentId resource operator threshold durationSeconds =>
    some (windowKey f agentId resource operator threshold durationSeconds)
  | _ => none

end

theorem toList_windowKey (a : String) (r : ResourceType) (o : Operator) (q : ℚ) (d : UInt64) :
    ∃ rest, (windowKey f a r o q d).toList = "resource:".toList ++ (a.toList ++ ':' :: rest) := by
  refine ⟨(r.debug ++ ":" ++ o.debug ++ ":" ++ f.display q ++ ":" ++ toString d.toNat).toList, ?_⟩
  rw [show ':' :: (r.debug ++ ":" ++ o.debug ++ ":" ++ f.display q ++ ":" ++
      toString d.toNat).toList = ":".toList ++ (r.debug ++ ":" ++ o.debug ++ ":" ++ f.display q ++
      ":" ++ toString d.toNat).toList from rfl]
  -- The equation of `windowKey` is slow to generate.
  delta windowKey
  simp only [← String.toList_append, String.append_assoc]

theorem agentId_of_windowKey {a a' : String} {r r' : ResourceType} {o o' : Operator} {q q' : ℚ}
    {d d' : UInt64} (ha : ':' ∉ a.toList) (ha' : ':' ∉ a'.toList)
    (h : windowKey f a r o q d = windowKey f a' r' o' q' d') : a = a' := by
  have hfirst : ∀ {x : String} {rest : List Char}, ':' ∉ x.toList →
      (x.toList ++ ':' :: rest).takeWhile (· != ':') = x.toList := by
    intro x rest hx
    have hall : ∀ c ∈ x.toList, (c != ':') = true := by
      intro c hc
      rw [bne_iff_ne]
      rintro rfl
      exact hx hc
    rw [takeWhile_append_of_pos hall, takeWhile_cons_of_neg (by simp), append_nil]
  obtain ⟨rest, hkey⟩ := toList_windowKey (f := f) a r o q d
  obtain ⟨rest', hkey'⟩ := toList_windowKey (f := f) a' r' o' q' d'
  have hname : a.toList ++ ':' :: rest = a'.toList ++ ':' :: rest' := by
    rw [h, hkey'] at hkey
    exact (append_cancel_left hkey).symm
  have hstart := congrArg (takeWhile (· != ':')) hname
  rw [hfirst ha, hfirst ha'] at hstart
  exact String.toList_inj.mp hstart

theorem seconds_le_of_numSeconds {n : UInt64} {x : ℤ} (hpos : 0 < n)
    (hn : n ≤ alertMaxResourceDurationSeconds) (h : asI64 n ≤ numSeconds x) :
    seconds n.toNat ≤ x := by
  have hbound : n.toNat ≤ 31536000 := UInt64.le_iff_toNat_le.mp hn
  have hpos : 0 < n.toNat := UInt64.lt_iff_toNat_lt.mp hpos
  have hcast : asI64 n = n.toNat := if_pos (by omega)
  rw [hcast, numSeconds] at h
  have hx : 0 ≤ x := by
    by_contra hneg
    have hquot : (-x).tdiv 1000000000 = -x / 1000000000 :=
      Int.tdiv_eq_ediv_of_nonneg (by omega)
    have hsign : x.tdiv 1000000000 = -((-x).tdiv 1000000000) := by rw [← Int.neg_tdiv, neg_neg]
    omega
  rw [Int.tdiv_eq_ediv_of_nonneg hx] at h
  simp only [seconds]
  omega

/-! ## One check -/

section Check

variable {latest : HashMap String (Value F)} {windows : Windows} {agentId : String}
  {resource : ResourceType} {operator : Operator} {threshold : ℚ} {durationSeconds : UInt64}
  {now : DateTime}

inductive WindowEffect (key : String) (now : DateTime) (before : HashMap String DateTime) :
    HashMap String DateTime → Prop
  | kept : WindowEffect key now before before
  | closed : WindowEffect key now before (before.erase key)
  | opened : WindowEffect key now before (before.insert key ((before.lookup key).getD now))

theorem windowEffect_checkResourceCondition :
    WindowEffect (windowKey f agentId resource operator threshold durationSeconds) now
      windows.conditionWindows (checkResourceCondition f latest windows agentId resource operator
        threshold durationSeconds now).2.conditionWindows := by
  unfold checkResourceCondition
  cases latest.lookup agentId with
  | none => exact .kept
  | some state =>
    dsimp only
    split
    · unfold checkNetworkWindow
      cases networkTotalBytes state with
      | none => exact .kept
      | some =>
        dsimp only
        split
        · exact .kept
        · split
          · exact .kept
          · exact .kept
    · cases resourceValue f state resource with
      | none => exact .closed
      | some =>
        dsimp only [applyDurationWindow]
        split
        · exact .closed
        · split
          · exact .kept
          · exact .opened

theorem lookup_checkCondition (answer : Except String Bool) (c : AlertCondition) (key : String) :
    let after := (checkCondition f latest answer now windows c).2.conditionWindows
    let before := windows.conditionWindows
    after.lookup key = before.lookup key ∨ conditionKey f c = some key ∧
      (after.lookup key = none ∨ after.lookup key = some ((before.lookup key).getD now)) := by
  intro after before
  cases c with
  | serverResource agentId resource operator threshold durationSeconds =>
    have heffect : WindowEffect (windowKey f agentId resource operator threshold durationSeconds)
        now before after := windowEffect_checkResourceCondition
    by_cases hkey : key = windowKey f agentId resource operator threshold durationSeconds
    · subst hkey
      generalize after = after at heffect
      cases heffect with
      | kept => exact .inl rfl
      | closed => exact .inr ⟨rfl, .inl (lookup_erase _ _)⟩
      | opened => exact .inr ⟨rfl, .inr (lookup_insert _)⟩
    · generalize after = after at heffect
      cases heffect with
      | kept => exact .inl rfl
      | closed => exact .inl (lookup_erase_ne hkey)
      | opened => exact .inl (lookup_insert_ne hkey)
  | _ => exact .inl rfl

end Check

/-! ## One tick -/

section Tick

variable {W : Type}

variable {P : W → Prop}

theorem scanConditions_induct {rule : AlertRule} {tick : Tick W}
    {conditions trusted : List AlertCondition} {i : ℕ} {windows : W}
    (hcheck : ∀ i, ∀ c ∈ conditions, ∀ w, P w → P (tick.check i c w).2) (h : P windows) :
    P (scanConditions rule tick trusted i conditions windows).2 := by
  induction conditions generalizing trusted i windows with
  | nil => exact h
  | cons c conditions ih =>
    have hrest := fun i c hc => hcheck i c (mem_cons_of_mem _ hc)
    have hfirst := hcheck i c mem_cons_self windows h
    rw [scanConditions]
    split
    · exact h
    · exact ih hrest h
    · split
      · rename_i hchecked
        rw [hchecked] at hfirst
        exact hfirst
      · rename_i hchecked
        rw [hchecked] at hfirst
        exact hfirst
      · rename_i hchecked
        rw [hchecked] at hfirst
        exact ih hrest hfirst

variable (db : DatabaseBackend)

theorem windows_fireAndRecord (engine : AlertEngine W) (rule : AlertRule) (tick : Tick W)
    (start : Instant) (kind : EventKind) (source : Option String) (state : AlertState) :
    (engine.fireAndRecord db rule tick start kind source state).windows = engine.windows := by
  unfold AlertEngine.fireAndRecord AlertEngine.fire
  cases insertedEvent db rule tick start kind source with
  | error => rfl
  | ok => rfl

theorem windows_evaluateRule (engine : AlertEngine W) (rule : AlertRule) (tick : Tick W) :
    (engine.evaluateRule db rule tick).windows =
      (scanConditions rule tick [] 0 rule.conditions engine.windows).2 := by
  unfold AlertEngine.evaluateRule
  rcases scanConditions rule tick [] 0 rule.conditions engine.windows with ⟨scanned, windows⟩
  dsimp only
  cases scanned with
  | error => rfl
  | ok =>
    dsimp only
    split
    · rfl
    · unfold AlertEngine.react
      cases rule.triggerMode with
      | once => dsimp only; split_ifs <;> first | rfl | exact windows_fireAndRecord db _ _ _ _ _ _ _
      | always =>
        dsimp only; split_ifs <;> first | rfl | exact windows_fireAndRecord db _ _ _ _ _ _ _

theorem evaluateAll_induct {loaded : Except String (List (AlertRule × Tick W))} (hcheck : ∀ rules,
      loaded = .ok rules → ∀ r ∈ rules, ∀ i, ∀ c ∈ r.1.conditions, ∀ w, P w → P (r.2.check i c w).2)
    {engine : AlertEngine W} (h : P engine.windows) :
    P (engine.evaluateAll db loaded).windows := by
  cases loaded with
  | error => exact h
  | ok rules =>
    replace hcheck := hcheck rules rfl
    have key : ∀ engine : AlertEngine W, P engine.windows →
        P (engine.evaluateLoaded db rules).windows := by
      induction rules with
      | nil => exact fun _ h => h
      | cons r rules ih =>
        intro engine h
        rw [forall_mem_cons] at hcheck
        refine ih hcheck.2 _ ?_
        dsimp only
        split
        · rw [windows_evaluateRule]
          exact scanConditions_induct hcheck.1 h
        · exact h
    exact key _ h

end Tick

/-! ## A condition with a duration -/

/-- A condition on a resource with a duration. The duration of a condition on `network` is the
period of its samples, and no window of this kind. -/
structure TimedCondition where
  agentId : String
  resource : ResourceType
  operator : Operator
  threshold : ℚ
  durationSeconds : UInt64
  notNetwork : resource ≠ .network
  positive : 0 < durationSeconds

namespace TimedCondition

def condition (c : TimedCondition) : AlertCondition :=
  .serverResource c.agentId c.resource c.operator c.threshold c.durationSeconds

variable (f) in
def key (c : TimedCondition) : String :=
  windowKey f c.agentId c.resource c.operator c.threshold c.durationSeconds

def duration (c : TimedCondition) : ℤ := seconds c.durationSeconds.toNat

structure Valid (c : TimedCondition) : Prop where
  bounded : c.durationSeconds ≤ alertMaxResourceDurationSeconds
  name : ':' ∉ c.agentId.toList

variable {latest : HashMap String (Value F)} {windows : Windows} {now : DateTime}

theorem check_of_held (c : TimedCondition) (answer : Except String Bool)
    (hheld : held f latest c.condition = true) :
    let firstSeen := (windows.conditionWindows.lookup (c.key f)).getD now
    checkCondition f latest answer now windows c.condition =
      (.ok (decide (asI64 c.durationSeconds ≤ numSeconds (now - firstSeen))), { windows with
        conditionWindows := windows.conditionWindows.insert (c.key f) firstSeen }) := by
  intro firstSeen
  have hne : c.durationSeconds ≠ 0 := by
    intro heq
    have hpositive := c.positive
    rw [heq] at hpositive
    exact absurd hpositive (by decide)
  simp only [held, condition] at hheld
  cases hstate : latest.lookup c.agentId with
  | none => simp [hstate] at hheld
  | some state =>
    cases hvalue : resourceValue f state c.resource with
    | none => simp [hstate, hvalue] at hheld
    | some =>
      simp only [hstate, hvalue, bind_some, any_some] at hheld
      simp only [condition, key, checkCondition, checkResourceCondition, hstate, c.notNetwork,
        hvalue, applyDurationWindow, hheld, hne, false_and, if_false, Bool.not_true,
        Bool.false_eq_true, firstSeen]
      rfl

theorem check_of_not_held (c : TimedCondition) (answer : Except String Bool)
    (hheld : held f latest c.condition = false) :
    let checked := checkCondition f latest answer now windows c.condition
    checked.1 = .ok false ∧
      (checked.2.conditionWindows.lookup (c.key f) = none ∨ latest.lookup c.agentId = none) := by
  intro checked
  simp only [held, condition] at hheld
  cases hstate : latest.lookup c.agentId with
  | none =>
    exact ⟨by simp only [checked, condition, checkCondition, checkResourceCondition, hstate],
      .inr rfl⟩
  | some state =>
    have hchecked : checked = (.ok false, { windows with
        conditionWindows := windows.conditionWindows.erase (c.key f) }) := by
      cases hvalue : resourceValue f state c.resource with
      | none => simp only [checked, condition, key, checkCondition, checkResourceCondition, hstate,
          c.notNetwork, hvalue, false_and, if_false]
      | some =>
        simp only [hstate, hvalue, bind_some, any_some] at hheld
        simp only [checked, condition, key, checkCondition, checkResourceCondition, hstate,
          c.notNetwork, hvalue, hheld, applyDurationWindow, false_and, if_false, Bool.not_false,
          if_true]
    rw [hchecked]
    exact ⟨rfl, .inl (lookup_erase _ _)⟩

end TimedCondition

/-! ## The windows during a tick -/

section During

variable {latest : HashMap String (Value F)} {rule : AlertRule} {env : RuleTick} {i : ℕ}
  {c' : AlertCondition} {e : Evaluation}

def Observed (f : Float64 F) (latest : HashMap String (Value F)) (windows : Windows) : Prop :=
  ∀ key t, windows.conditionWindows.lookup key = some t → ∃ a r o q d,
    key = windowKey f a r o q d ∧ ':' ∉ a.toList ∧ (latest.lookup a).isSome = true

theorem mem_checks_recordCheck {check : Check}
    (h : check ∈ (recordCheck f latest rule env i c' e).2.checks) :
    check ∈ e.checks ∨ ∃ triggered, check = ⟨rule, c', e.now + env.elapsed i, triggered⟩ ∧
      (checkCondition f latest (env.tick.check i c' ()).1 (e.now + env.elapsed i)
        e.toWindows c').1 = .ok triggered := by
  simp only [recordCheck] at h
  cases hresult : (checkCondition f latest (env.tick.check i c' ()).1 (e.now + env.elapsed i)
      e.toWindows c').1 with
  | error _ =>
    rw [hresult] at h
    exact .inl h
  | ok triggered =>
    rw [hresult] at h
    rcases mem_append.mp h with h | h
    · exact .inl h
    · exact .inr ⟨triggered, mem_singleton.mp h, rfl⟩

theorem observed_recordCheck (hname : ∀ a, conditionAgentId c' = some a → ':' ∉ a.toList)
    (h : Observed f latest e.toWindows) :
    Observed f latest (recordCheck f latest rule env i c' e).2.toWindows := by
  intro key t hlookup
  cases c' with
  | serverResource a r o q d =>
    cases hlatest : latest.lookup a with
    | none =>
      refine h key t ?_
      simpa only [recordCheck, checkCondition, checkResourceCondition, hlatest] using hlookup
    | some =>
      rcases lookup_checkCondition (env.tick.check i (.serverResource a r o q d) ()).1
        (.serverResource a r o q d) key with hsame | ⟨hkey, -⟩
      · exact h key t (hsame ▸ hlookup)
      · exact ⟨a, r, o, q, d, (some.inj hkey).symm, hname a rfl, by rw [hlatest]; rfl⟩
  | _ => exact h key t hlookup

variable (f latest) in
/-- What the checks of a tick have done to the window of a condition so far: `start` is when
the tick started, `before` what the windows were then. -/
structure During (c : TimedCondition) (start : DateTime) (before : Windows) (e : Evaluation) :
    Prop where
  clock : start ≤ e.now
  observed : Observed f latest e.toWindows
  bounded : ∀ t, e.conditionWindows.lookup (c.key f) = some t → t ≤ e.now
  old : ∀ t, e.conditionWindows.lookup (c.key f) = some t → t < start →
    before.conditionWindows.lookup (c.key f) = some t ∧
      ∀ check ∈ e.checks, check.condition = c.condition → held f latest c.condition = true
  report : ∀ check ∈ e.checks, check.condition = c.condition → check.triggered = true →
    start ≤ check.now ∧ held f latest c.condition = true ∧ ∃ t, t + c.duration ≤ check.now ∧
      (t < start → before.conditionWindows.lookup (c.key f) = some t)

variable {c : TimedCondition} {start : DateTime} {before : Windows}

theorem held_of_lookup_recordCheck (hvalid : c.Valid) {t : DateTime}
    (hobserved : Observed f latest (recordCheck f latest rule env i c.condition e).2.toWindows)
    (hlookup : (recordCheck f latest rule env i c.condition e).2.conditionWindows.lookup (c.key f) =
      some t) : held f latest c.condition = true := by
  by_contra hheld
  rw [Bool.not_eq_true] at hheld
  obtain ⟨-, hclosed | hlatest⟩ := c.check_of_not_held (env.tick.check i c.condition ()).1 hheld
  · cases hclosed.symm.trans hlookup
  · obtain ⟨a, r, o, q, d, hkey, ha, hsome⟩ := hobserved _ _ hlookup
    rw [← agentId_of_windowKey hvalid.name ha hkey, hlatest] at hsome
    cases hsome

theorem During.recordCheck (hvalid : c.Valid)
    (hname : ∀ a, conditionAgentId c' = some a → ':' ∉ a.toList)
    (h : During f latest c start before e) :
    During f latest c start before (recordCheck f latest rule env i c' e).2 := by
  have hadvance : e.now ≤ e.now + env.elapsed i := le_add_of_nonneg_right (Int.natCast_nonneg _)
  have hclock : start ≤ e.now + env.elapsed i := h.clock.trans hadvance
  have hobserved : Observed f latest (Alerts.recordCheck f latest rule env i c' e).2.toWindows :=
    observed_recordCheck hname h.observed
  -- A window that is open now was open, or is opened at this moment.
  have hwindow : ∀ t, (Alerts.recordCheck f latest rule env i c' e).2.conditionWindows.lookup
      (c.key f) = some t → e.conditionWindows.lookup (c.key f) = some t ∨
        t = e.now + env.elapsed i := by
    intro t ht
    rcases lookup_checkCondition (env.tick.check i c' ()).1 c' (c.key f) with
      hsame | ⟨-, hnone | hopen⟩
    · exact .inl (hsame ▸ ht)
    · cases hnone.symm.trans ht
    · have ht := some.inj (hopen.symm.trans ht)
      cases hlookup : e.conditionWindows.lookup (c.key f) with
      | none => exact .inr (by rw [← ht, hlookup]; rfl)
      | some => exact .inl (by rw [← ht, hlookup]; rfl)
  refine ⟨hclock, hobserved, fun t ht => ?_, fun t ht hold => ?_, fun check hcheck hc htrig => ?_⟩
  · rcases hwindow t ht with hbefore | rfl
    · exact (h.bounded t hbefore).trans hadvance
    · exact le_rfl
  · have hbefore := (hwindow t ht).resolve_right fun heq => absurd hold (heq ▸ not_lt.mpr hclock)
    refine ⟨(h.old t hbefore hold).1, fun check hcheck hc => ?_⟩
    rcases mem_checks_recordCheck hcheck with hcheck | ⟨triggered, rfl, -⟩
    · exact (h.old t hbefore hold).2 check hcheck hc
    · obtain rfl : c' = c.condition := hc
      exact held_of_lookup_recordCheck hvalid hobserved ht
  · rcases mem_checks_recordCheck hcheck with hcheck | ⟨triggered, rfl, hresult⟩
    · exact h.report check hcheck hc htrig
    · obtain rfl : c' = c.condition := hc
      obtain rfl : triggered = true := htrig
      have hheld : held f latest c.condition = true := by
        by_contra hheld
        rw [Bool.not_eq_true] at hheld
        rw [(c.check_of_not_held _ hheld).1] at hresult
        cases hresult
      rw [c.check_of_held _ hheld] at hresult
      have hage := of_decide_eq_true (Except.ok.inj hresult)
      have hage := seconds_le_of_numSeconds c.positive hvalid.bounded hage
      refine ⟨hclock, hheld, _, le_sub_iff_add_le'.mp hage, fun hold => ?_⟩
      cases hlookup : e.conditionWindows.lookup (c.key f) with
      | none =>
        rw [hlookup, getD_none] at hold
        exact absurd hold (not_lt.mpr hclock)
      | some t =>
        rw [hlookup, getD_some] at hold
        exact (h.old t hlookup hold).1

end During

/-! ## Loaded rules -/

theorem not_colon_mem_of_requireCanonicalUuid {value : String}
    (h : (requireCanonicalUuid value).isSome = true) : ':' ∉ value.toList := by
  have hcanonical : isCanonicalUuid (Text.trim value) = true := by
    by_contra hnot
    simp [requireCanonicalUuid, hnot] at h
  obtain ⟨before, after, hparts, hbefore, hafter⟩ := Text.exists_append_trim value
  intro hmem
  rw [hparts, append_assoc, mem_append, mem_append] at hmem
  rcases hmem with hmem | hmem | hmem
  · exact absurd (hbefore _ hmem) (by decide)
  · exact absurd (eq_hyphen_or_digit_of_mem hcanonical hmem) (by decide)
  · exact absurd (hafter _ hmem) (by decide)

variable {c : AlertCondition}

theorem valid_of_mem_loadAlertRules {rows : List AlertRule} {rule : AlertRule}
    (hrule : rule ∈ loadAlertRules rows) (hc : c ∈ rule.conditions) :
    validRuntimeCondition c = true := by
  obtain ⟨row, -, hrow⟩ := mem_filterMap.mp hrule
  simp only [validateLoadedAlertRule, bind_eq_bind, bind_eq_some_iff] at hrow
  obtain ⟨id, -, owner, -, hrow⟩ := hrow
  split_ifs at hrow with _ _ hvalid
  cases hrow
  exact List.all_eq_true.mp hvalid c hc

theorem not_colon_mem_of_valid (h : validRuntimeCondition c = true) :
    ∀ a, conditionAgentId c = some a → ':' ∉ a.toList := by
  intro a ha
  cases c with
  | serviceDown _ _ | serviceLatency _ _ | certificateExpiry _ _ => cases ha
  | serverExpiry _ _ | serverTrafficQuota _ _ _ | serverOffline _ _ | serverResource _ _ _ _ _ =>
    cases ha
    simp only [validRuntimeCondition, Bool.and_eq_true] at h
    exact not_colon_mem_of_requireCanonicalUuid h.1

theorem TimedCondition.valid {c : TimedCondition} (h : validRuntimeCondition c.condition = true) :
    c.Valid := by
  refine ⟨?_, not_colon_mem_of_valid h _ rfl⟩
  simp only [condition, validRuntimeCondition, Bool.and_eq_true, decide_eq_true_eq] at h
  exact h.2.2

/-! ## The windows behind a tick -/

section Evaluate

variable (db : DatabaseBackend) {σ : System F} {load : Except String Unit}
  {env : AlertRule → RuleTick} {c : TimedCondition}

theorem evaluate_induct {P : Evaluation → Prop}
    (hcheck : ∀ rule ∈ loadAlertRules σ.rules, ∀ i, ∀ c ∈ rule.conditions, ∀ e, P e →
      P (recordCheck f σ.latest rule (env rule) i c e).2) (h : P σ.evaluation) :
    P (σ.evaluate f db load env).evaluation := by
  refine evaluateAll_induct db (fun rules hrules r hr => ?_) h
  cases load with
  | error => cases hrules
  | ok =>
    obtain rfl := Except.ok.inj hrules
    obtain ⟨rule, hrule, rfl⟩ := List.mem_map.mp hr
    exact hcheck rule hrule

theorem during_evaluate (load : Except String Unit) (env : AlertRule → RuleTick)
    (hvalid : c.Valid) (hchecks : σ.evaluation.checks = [])
    (hobserved : Observed f σ.latest σ.evaluation.toWindows)
    (hbounded : ∀ t, σ.evaluation.conditionWindows.lookup (c.key f) = some t → t ≤ σ.now) :
    During f σ.latest c σ.now σ.evaluation.toWindows (σ.evaluate f db load env).evaluation := by
  refine evaluate_induct db (fun rule hrule i c' hc' e h => ?_) ?_
  · exact h.recordCheck hvalid (not_colon_mem_of_valid (valid_of_mem_loadAlertRules hrule hc'))
  · refine ⟨le_rfl, hobserved, hbounded, fun t ht _ => ⟨ht, ?_⟩, ?_⟩
    · simp [hchecks]
    · simp [hchecks]

theorem loaded_of_mem_checks (hchecks : σ.evaluation.checks = []) {check : Check}
    (hcheck : check ∈ (σ.evaluate f db load env).evaluation.checks) :
    check.rule ∈ loadAlertRules σ.rules ∧ check.condition ∈ check.rule.conditions := by
  refine evaluate_induct (P := fun e => ∀ check ∈ e.checks, check.rule ∈ loadAlertRules σ.rules ∧
    check.condition ∈ check.rule.conditions) db ?_ (by simp [hchecks]) check hcheck
  intro rule hrule i c' hc' e h check hcheck
  rcases mem_checks_recordCheck hcheck with hcheck | ⟨triggered, rfl, -⟩
  · exact h check hcheck
  · exact ⟨hrule, hc'⟩

theorem lookup_evaluate_of_forall_ne
    (hkey : ∀ rule ∈ loadAlertRules σ.rules, ∀ c' ∈ rule.conditions,
      conditionKey f c' ≠ some (c.key f)) :
    (σ.evaluate f db load env).evaluation.conditionWindows.lookup (c.key f) =
      σ.evaluation.conditionWindows.lookup (c.key f) := by
  refine evaluate_induct (P := fun e => e.conditionWindows.lookup (c.key f) =
    σ.evaluation.conditionWindows.lookup (c.key f)) db ?_ rfl
  intro rule hrule i c' hc' e h
  rcases lookup_checkCondition ((env rule).tick.check i c' ()).1 c' (c.key f) with
    hsame | ⟨heq, -⟩
  · exact hsame.trans h
  · exact absurd heq (hkey rule hrule c' hc')

end Evaluate

/-! ## Whole runs -/

section Runs

variable (f) (db : DatabaseBackend) (rule : AlertRule) (c : TimedCondition)

/-- What a tick has to do with the window of the rule's condition: with the rule enabled, it
finds the window closed, or the comparator holds, or the condition is evaluated; without the
rule, no condition of the key is evaluated. -/
def TickLookedAfter (σ : System F) (load : Except String Unit) (env : AlertRule → RuleTick) :
    Prop :=
  if rule ∈ loadAlertRules σ.rules then
    σ.evaluation.conditionWindows.lookup (c.key f) = none ∨ held f σ.latest c.condition = true ∨
      ∃ check ∈ (σ.evaluate f db load env).evaluation.checks, check.condition = c.condition
  else ∀ other ∈ loadAlertRules σ.rules, ∀ c' ∈ other.conditions,
    conditionKey f c' ≠ some (c.key f)

def LookedAfter (σ : System F) : Event F → Prop
  | .observe _ _ _ => True
  | .edit _ rules => rule ∈ loadAlertRules rules ∨
    σ.evaluation.conditionWindows.lookup (c.key f) = none
  | .tick elapsed load env => TickLookedAfter f db rule c (σ.wait elapsed) load env

/-- Since `t`, which is after the start, the rule was enabled, and the comparator held at
every tick. -/
structure HeldSince (started : DateTime) (σ : System F) (t : DateTime) : Prop where
  begun : started ≤ t
  ticks : ∀ tick ∈ σ.ticks, t < tick.start → rule ∈ loadAlertRules tick.rules →
    held f tick.latest c.condition = true
  periods : ∀ period ∈ σ.periods, t < period.stop → rule ∈ loadAlertRules period.rules

structure Invariant (started : DateTime) (σ : System F) : Prop where
  begun : started ≤ σ.now
  ticks : ∀ tick ∈ σ.ticks, tick.start ≤ σ.now
  periods : ∀ period ∈ σ.periods, period.stop ≤ σ.now
  observed : Observed f σ.latest σ.evaluation.toWindows
  window : ∀ t, σ.evaluation.conditionWindows.lookup (c.key f) = some t →
    t ≤ σ.now ∧ rule ∈ loadAlertRules σ.rules ∧ HeldSince f rule c started σ t
  reports : ∀ check ∈ σ.evaluation.checks, check.rule = rule → check.condition = c.condition →
    check.triggered = true → HeldSince f rule c started σ (check.now - c.duration)

variable {f db rule c} {started : DateTime} {σ : System F}

variable {t : DateTime}

theorem HeldSince.mono {t' : DateTime} (ht : t ≤ t') (h : HeldSince f rule c started σ t) :
    HeldSince f rule c started σ t' where
  begun := h.begun.trans ht
  ticks tick htick hafter := h.ticks tick htick (lt_of_le_of_lt ht hafter)
  periods period hperiod hafter := h.periods period hperiod (lt_of_le_of_lt ht hafter)

theorem HeldSince.wait (elapsed : ℕ) (henabled : rule ∈ loadAlertRules σ.rules)
    (h : HeldSince f rule c started σ t) : HeldSince f rule c started (σ.wait elapsed) t where
  begun := h.begun
  ticks := h.ticks
  periods := by
    intro period hperiod hafter
    rcases mem_append.mp hperiod with hperiod | hperiod
    · exact h.periods period hperiod hafter
    · rw [mem_singleton.mp hperiod]
      exact henabled

theorem Invariant.wait (elapsed : ℕ) (h : Invariant f rule c started σ) :
    Invariant f rule c started (σ.wait elapsed) := by
  have hadvance : σ.now ≤ σ.now + elapsed := le_add_of_nonneg_right (Int.natCast_nonneg _)
  refine ⟨h.begun.trans hadvance, fun tick ht => (h.ticks tick ht).trans hadvance, ?_, h.observed,
    fun t ht => ?_, fun check hcheck => nomatch hcheck⟩
  · intro period hperiod
    rcases mem_append.mp hperiod with hperiod | hperiod
    · exact (h.periods period hperiod).trans hadvance
    · rw [mem_singleton.mp hperiod]
      exact le_rfl
  · obtain ⟨hbounded, henabled, hsince⟩ := h.window t ht
    exact ⟨hbounded.trans hadvance, henabled, hsince.wait elapsed henabled⟩

theorem Invariant.observe (elapsed : ℕ) (agentId : String) (payload : Value F)
    (h : Invariant f rule c started σ) :
    Invariant f rule c started (σ.step f db (.observe elapsed agentId payload)) := by
  have hwait := h.wait elapsed
  refine ⟨hwait.begun, hwait.ticks, hwait.periods, fun key t ht => ?_, fun t ht => ?_,
    fun check hcheck => nomatch hcheck⟩
  · obtain ⟨a, r, o, q, d, hkey, ha, hsome⟩ := hwait.observed key t ht
    exact ⟨a, r, o, q, d, hkey, ha, (isSome_lookup_insert _ _ _ _).mpr (.inr hsome)⟩
  · obtain ⟨hbounded, henabled, hbegun, hticks, hperiods⟩ := hwait.window t ht
    exact ⟨hbounded, henabled, hbegun, hticks, hperiods⟩

theorem Invariant.edit (elapsed : ℕ) (rules : List AlertRule)
    (hguard : LookedAfter f db rule c σ (.edit elapsed rules))
    (h : Invariant f rule c started σ) :
    Invariant f rule c started (σ.step f db (.edit elapsed rules)) := by
  have hwait := h.wait elapsed
  refine ⟨hwait.begun, hwait.ticks, hwait.periods, hwait.observed, fun t ht => ?_,
    fun check hcheck => nomatch hcheck⟩
  obtain ⟨hbounded, -, hbegun, hticks, hperiods⟩ := hwait.window t ht
  refine ⟨hbounded, ?_, hbegun, hticks, hperiods⟩
  exact hguard.resolve_right fun hnone => absurd (hnone.symm.trans ht) (by simp)

theorem HeldSince.evaluate (load : Except String Unit) (env : AlertRule → RuleTick)
    (h : Invariant f rule c started σ) (henabled : rule ∈ loadAlertRules σ.rules)
    (hold : t < σ.now → HeldSince f rule c started σ t ∧ held f σ.latest c.condition = true) :
    HeldSince f rule c started (σ.evaluate f db load env) t := by
  refine ⟨?_, fun tick htick hafter hrule => ?_, fun period hperiod hafter => ?_⟩
  · by_cases ht : t < σ.now
    · exact (hold ht).1.begun
    · exact h.begun.trans (not_lt.mp ht)
  · rcases mem_append.mp htick with htick | htick
    · have ht : t < σ.now := lt_of_lt_of_le hafter (h.ticks tick htick)
      exact (hold ht).1.ticks tick htick hafter hrule
    · rw [mem_singleton.mp htick] at hafter ⊢
      exact (hold hafter).2
  · rcases mem_append.mp hperiod with hperiod | hperiod
    · have ht : t < σ.now := lt_of_lt_of_le hafter (h.periods period hperiod)
      exact (hold ht).1.periods period hperiod hafter
    · rw [mem_singleton.mp hperiod]
      exact henabled

theorem Invariant.evaluate {load : Except String Unit} {env : AlertRule → RuleTick}
    (hvalid : c.Valid) (hchecks : σ.evaluation.checks = [])
    (hguard : TickLookedAfter f db rule c σ load env) (h : Invariant f rule c started σ) :
    Invariant f rule c started (σ.evaluate f db load env) := by
  have hduring := during_evaluate db load env hvalid hchecks h.observed
    fun t ht => (h.window t ht).1
  refine ⟨h.begun.trans hduring.clock, fun tick htick => ?_, fun period hperiod => ?_,
    hduring.observed, fun t ht => ?_, fun check hcheck hrule hcondition htriggered => ?_⟩
  · rcases mem_append.mp htick with htick | htick
    · exact (h.ticks tick htick).trans hduring.clock
    · rw [mem_singleton.mp htick]
      exact hduring.clock
  · rcases mem_append.mp hperiod with hperiod | hperiod
    · exact (h.periods period hperiod).trans hduring.clock
    · rw [mem_singleton.mp hperiod]
      exact le_rfl
  · -- Without the rule, the window was closed before the tick and no check could open it.
    have henabled : rule ∈ loadAlertRules σ.rules := by
      by_contra hnot
      rw [TickLookedAfter, if_neg hnot] at hguard
      rw [lookup_evaluate_of_forall_ne db hguard] at ht
      exact hnot (h.window t ht).2.1
    refine ⟨hduring.bounded t ht, henabled, .evaluate load env h henabled fun hold => ?_⟩
    obtain ⟨hbefore, hevaluated⟩ := hduring.old t ht hold
    refine ⟨(h.window t hbefore).2.2, ?_⟩
    rw [TickLookedAfter, if_pos henabled] at hguard
    rcases hguard with hnone | hheld | ⟨check, hcheck, hcondition⟩
    · cases hnone.symm.trans hbefore
    · exact hheld
    · exact hevaluated check hcheck hcondition
  · have henabled := (loaded_of_mem_checks db hchecks hcheck).1
    rw [hrule] at henabled
    obtain ⟨-, hheld, t, hage, hbefore⟩ := hduring.report check hcheck hcondition htriggered
    have hsince : HeldSince f rule c started (σ.evaluate f db load env) t :=
      .evaluate load env h henabled fun hold => ⟨(h.window t (hbefore hold)).2.2, hheld⟩
    exact hsince.mono (le_sub_iff_add_le.mpr hage)

theorem Invariant.step (hvalid : c.Valid) (event : Event F)
    (hguard : LookedAfter f db rule c σ event) (h : Invariant f rule c started σ) :
    Invariant f rule c started (σ.step f db event) := by
  cases event with
  | observe elapsed agentId payload => exact h.observe elapsed agentId payload
  | edit elapsed rules => exact h.edit elapsed rules hguard
  | tick elapsed => exact (h.wait elapsed).evaluate hvalid rfl hguard

end Runs

theorem invariant_new (f : Float64 F) (rule : AlertRule) (c : TimedCondition) (started : DateTime)
    (rules : List AlertRule) : Invariant f rule c started (System.new started rules) where
  begun := le_rfl
  ticks _ h := nomatch h
  periods _ h := nomatch h
  observed _ _ h := nomatch h
  window _ h := nomatch h
  reports _ h := nomatch h

theorem valid_of_mem_checks (f : Float64 F) (db : DatabaseBackend) (started : DateTime)
    (rules : List AlertRule) (events : List (Event F)) :
    ∀ check ∈ (run (System.step f db) (System.new started rules) events).evaluation.checks,
      validRuntimeCondition check.condition = true := by
  refine run_induct (P := fun σ : System F => ∀ check ∈ σ.evaluation.checks,
    validRuntimeCondition check.condition = true) (fun σ event h => ?_)
    (fun _ hcheck => absurd hcheck not_mem_nil) events
  cases event with
  | observe => exact fun check hcheck => nomatch hcheck
  | edit => exact fun check hcheck => nomatch hcheck
  | tick =>
    intro check hcheck
    obtain ⟨hrule, hcondition⟩ := loaded_of_mem_checks db rfl hcheck
    exact valid_of_mem_loadAlertRules hrule hcondition

/-- The rule was enabled for the whole of the duration before the check, and the comparator
held at every tick of that time. -/
def Continuous (f : Float64 F) (c : TimedCondition) (started : DateTime) (σ : System F)
    (check : Check) : Prop :=
  started ≤ check.now - c.duration ∧
    (∀ tick ∈ σ.ticks, check.now - c.duration < tick.start → tick.start ≤ check.now →
      check.rule ∈ loadAlertRules tick.rules → held f tick.latest c.condition = true) ∧
    ∀ period ∈ σ.periods, check.now - c.duration < period.stop →
      check.rule ∈ loadAlertRules period.rules

/-- In every run that looks after the window of a rule's condition, the condition is reported
only when it was met for its duration. -/
theorem duration_window_continuous (f : Float64 F) (db : DatabaseBackend) (started : DateTime)
    (rules : List AlertRule) (rule : AlertRule) (c : TimedCondition) (events : List (Event F))
    (hmeets : Meets (System.step f db) (LookedAfter f db rule c) (System.new started rules) events) :
    ∀ check ∈ (run (System.step f db) (System.new started rules) events).evaluation.checks,
      check.rule = rule → check.condition = c.condition → check.triggered = true →
      Continuous f c started (run (System.step f db) (System.new started rules) events) check := by
  intro check hcheck hrule hcondition htriggered
  have hvalid : c.Valid := by
    have hcheckValid := valid_of_mem_checks f db started rules events check hcheck
    rw [hcondition] at hcheckValid
    exact TimedCondition.valid hcheckValid
  have hinvariant := run_induct_of_meets (fun _ event hguard h => h.step hvalid event hguard)
    (invariant_new f rule c started rules) hmeets
  obtain ⟨hbegun, hticks, hperiods⟩ := hinvariant.reports check hcheck hrule hcondition htriggered
  subst hrule
  exact ⟨hbegun, fun tick htick hafter _ => hticks tick htick hafter, hperiods⟩

/-! ## Runs -/

instance (f : Float64 F) (c : TimedCondition) (started : DateTime) (σ : System F) (check : Check) :
    Decidable (Continuous f c started σ check) :=
  inferInstanceAs (Decidable (_ ∧ _ ∧ _))

instance (f : Float64 F) (db : DatabaseBackend) (rule : AlertRule) (c : TimedCondition)
    (σ : System F) (load : Except String Unit) (env : AlertRule → RuleTick) :
    Decidable (TickLookedAfter f db rule c σ load env) :=
  if h : rule ∈ loadAlertRules σ.rules then
    decidable_of_iff (σ.evaluation.conditionWindows.lookup (c.key f) = none ∨
      held f σ.latest c.condition = true ∨ ∃ check ∈ (σ.evaluate f db load env).evaluation.checks,
        check.condition = c.condition) (by rw [TickLookedAfter, if_pos h])
  else decidable_of_iff (∀ other ∈ loadAlertRules σ.rules, ∀ c' ∈ other.conditions,
    conditionKey f c' ≠ some (c.key f)) (by rw [TickLookedAfter, if_neg h])

instance (f : Float64 F) (db : DatabaseBackend) (rule : AlertRule) (c : TimedCondition)
    (σ : System F) : ∀ event, Decidable (LookedAfter f db rule c σ event)
  | .observe _ _ _ => .isTrue trivial
  | .edit _ _ => inferInstanceAs (Decidable (_ ∨ _))
  | .tick elapsed load env =>
    inferInstanceAs (Decidable (TickLookedAfter f db rule c (σ.wait elapsed) load env))

namespace WindowSample

def float : Float64 ℚ where
  ofInt n := n
  ofRat q := q
  parse _ := none
  display q := toString q
  isFinite _ := true
  add := (· + ·)
  mul := (· * ·)
  div := (· / ·)
  lt a b := decide (a < b)
  le a b := decide (a ≤ b)

def owner : String := "00000000-0000-0000-0000-000000000002"

def agent : String := "00000000-0000-0000-0000-00000000000a"

def memory : TimedCondition where
  agentId := agent
  resource := .memory
  operator := .gt
  threshold := 90
  durationSeconds := 60
  notNetwork := by decide
  positive := by decide

def rule (conditions : List AlertCondition) : AlertRule :=
  ⟨"00000000-0000-0000-0000-000000000001", owner, "memory", true, .once, conditions⟩

def twoConditions : AlertRule :=
  rule [.serverResource agent .cpu .gt 90 0, memory.condition]

def usage (cpu memory : UInt64) : Value ℚ :=
  .object [("cpu_percent", .number (.posInt cpu)), ("memory_used", .number (.posInt memory)),
    ("memory_total", .number (.posInt 100))]

def env (_ : AlertRule) : RuleTick where
  tick :=
    { owners := fun _ => ⟨fun _ => .ok none, fun _ => .ok (some (some owner))⟩
      check := fun _ _ windows => (.ok false, windows)
      sourceOwners := ⟨fun _ => .ok none, fun _ => .ok (some (some owner))⟩
      insert := .ok ()
      firedAt := 0
      recordedAt := 0
      untilCheck := 0
      untilFired := 0
      untilRecorded := 0 }
  elapsed := fun _ => 0

def tick (elapsed : ℕ) : Event ℚ := .tick (fromSecs elapsed) (.ok ()) env

def observe (elapsed : ℕ) (cpu memory : UInt64) : Event ℚ :=
  .observe (fromSecs elapsed) agent (usage cpu memory)

def skipped : List (Event ℚ) :=
  [observe 0 10 95, tick 0, observe 30 95 10, tick 0, observe 30 10 95, tick 0]

def disabled : List (Event ℚ) :=
  [observe 0 10 95, tick 0, .edit (fromSecs 10) [{ twoConditions with enabled := false }],
    .edit (fromSecs 40) [twoConditions], tick 10]

def busy : List (Event ℚ) := [observe 0 10 95, tick 0, observe 30 10 99, tick 0, tick 30]

def runFrom (rule : AlertRule) (events : List (Event ℚ)) : System ℚ :=
  run (System.step float .sqlite) (System.new 0 [rule]) events

end WindowSample

open WindowSample in
theorem duration_window_continuous_busy :
    (∃ check ∈ (runFrom (rule [memory.condition]) busy).evaluation.checks,
      check.triggered = true) ∧
    ∀ check ∈ (runFrom (rule [memory.condition]) busy).evaluation.checks,
      check.rule = rule [memory.condition] → check.condition = memory.condition →
      check.triggered = true →
      Continuous float memory 0 (runFrom (rule [memory.condition]) busy) check :=
  ⟨by decide +kernel, duration_window_continuous float .sqlite 0 [rule [memory.condition]]
    (rule [memory.condition]) memory busy (by decide +kernel)⟩

open WindowSample in
theorem duration_window_not_continuous :
    (∃ check ∈ (runFrom twoConditions skipped).evaluation.checks,
      check.condition = memory.condition ∧ check.triggered = true ∧
        ¬ Continuous float memory 0 (runFrom twoConditions skipped) check) ∧
    ∃ check ∈ (runFrom twoConditions disabled).evaluation.checks,
      check.condition = memory.condition ∧ check.triggered = true ∧
        ¬ Continuous float memory 0 (runFrom twoConditions disabled) check := by
  constructor
  · decide +kernel
  · decide +kernel

end XLStatus.Alerts
