import XLStatus.Alerts.EngineDefs
import XLStatus.Lib.Checked
import XLStatus.Lib.EventLog

/-! The events of a rule over the life of the engine. The engine is read through the view a
rule has of it: only the rule's own evaluation changes that view. -/

namespace XLStatus.Alerts

open Shared Auth Transition EventLog List

variable {W : Type} (db : DatabaseBackend)

/-! ## The view of a rule -/

structure View where
  state : Option AlertState
  events : List AlertEvent
  clock : Instant

def AlertEngine.eventsOf (engine : AlertEngine W) (ruleId : String) : List AlertEvent :=
  engine.events.filter (·.ruleId = ruleId)

def AlertEngine.view (engine : AlertEngine W) (ruleId : String) : View :=
  ⟨engine.states.lookup ruleId, engine.eventsOf ruleId, engine.clock⟩

def View.isActive (v : View) : Bool := (v.state.map (·.isActive)).getD false

def View.lastAlwaysFireAt (v : View) : Option Instant := v.state.bind (·.lastAlwaysFireAt)

def View.MayFire (v : View) (mode : TriggerMode) (now : Instant) : Prop :=
  match mode with
  | .once => v.isActive = false
  | .always => ∀ t, v.lastAlwaysFireAt = some t → t + fromSecs 60 ≤ now

inductive Effect (mode : TriggerMode) (v : View) : View → Prop
  | idle (clock : Instant) (later : v.clock ≤ clock) : Effect mode v ⟨v.state, v.events, clock⟩
  | fired (state : AlertState) (e : AlertEvent) (clock : Instant) (kind : e.kind = .fired)
      (since : v.clock ≤ e.instant) (later : e.instant ≤ clock)
      (mayFire : v.MayFire mode e.instant) (active : state.isActive = true)
      (throttle : mode = .always → ∃ t, state.lastAlwaysFireAt = some t ∧ e.instant ≤ t) :
      Effect mode v ⟨some state, v.events ++ [e], clock⟩
  | recovered (state : AlertState) (e : AlertEvent) (clock : Instant)
      (kind : e.kind = .recovered) (since : v.clock ≤ e.instant) (later : e.instant ≤ clock)
      (wasActive : v.isActive = true) (inactive : state.isActive = false) :
      Effect mode v ⟨some state, v.events ++ [e], clock⟩

/-! ## One evaluation -/

theorem insertedEvent_eq_ok {rule : AlertRule} {tick : Tick W} {start : Instant}
    {kind : EventKind} {source : Option String} {event : AlertEvent}
    (h : insertedEvent db rule tick start kind source = .ok event) :
    event.ruleId = rule.id ∧ event.kind = kind ∧ event.instant = tick.fired start := by
  simp only [insertedEvent, Checked.bind_eq_ok, Checked.pure_eq_ok] at h
  obtain ⟨agentId, -, -, -, -, -, rfl⟩ := h
  exact ⟨rfl, rfl, rfl⟩

theorem fireAndRecord_cases (engine : AlertEngine W) (rule : AlertRule) (tick : Tick W)
    (start : Instant) (kind : EventKind) (source : Option String) (state : AlertState) :
    engine.fireAndRecord db rule tick start kind source state = engine ∨
      ∃ event : AlertEvent, event.ruleId = rule.id ∧ event.kind = kind ∧
        event.instant = tick.fired start ∧
        engine.fireAndRecord db rule tick start kind source state =
          { engine with
            events := engine.events ++ [event], states := engine.states.insert rule.id state } := by
  unfold AlertEngine.fireAndRecord AlertEngine.fire
  cases h : insertedEvent db rule tick start kind source with
  | error => exact .inl rfl
  | ok event =>
    obtain ⟨hid, hkind, hinstant⟩ := insertedEvent_eq_ok db h
    exact .inr ⟨event, hid, hkind, hinstant, rfl⟩

section View

variable (engine : AlertEngine W) (rule : AlertRule) (tick : Tick W) (start : Instant)
  (kind : EventKind) (source : Option String) (state : AlertState)

theorem view_fireAndRecord :
    (engine.fireAndRecord db rule tick start kind source state).view rule.id =
        engine.view rule.id ∨
      ∃ event : AlertEvent, event.kind = kind ∧ event.instant = tick.fired start ∧
        (engine.fireAndRecord db rule tick start kind source state).view rule.id =
          ⟨some state, engine.eventsOf rule.id ++ [event], engine.clock⟩ := by
  obtain h | ⟨event, hid, hkind, hinstant, h⟩ :=
    fireAndRecord_cases db engine rule tick start kind source state
  · exact .inl (by rw [h])
  · refine .inr ⟨event, hkind, hinstant, ?_⟩
    rw [h]
    simp [AlertEngine.view, AlertEngine.eventsOf, hid]

theorem view_fireAndRecord_of_ne {id : String} (hne : id ≠ rule.id) :
    (engine.fireAndRecord db rule tick start kind source state).view id = engine.view id := by
  obtain h | ⟨event, hid, -, -, h⟩ :=
    fireAndRecord_cases db engine rule tick start kind source state
  · rw [h]
  · have hevent : event.ruleId ≠ id := fun he => hne (he.symm.trans hid)
    rw [h]
    simp [AlertEngine.view, AlertEngine.eventsOf, AList.lookup_insert_ne hne, hevent]

end View

theorem Tick.checked_le_fired (tick : Tick W) (start : Instant) :
    tick.checked start ≤ tick.fired start := Nat.le_add_right _ _

theorem Tick.fired_le_recorded (tick : Tick W) (start : Instant) :
    tick.fired start ≤ tick.recorded start := Nat.le_add_right _ _

theorem Tick.le_fired (tick : Tick W) (start : Instant) : start ≤ tick.fired start :=
  (Nat.le_add_right _ _).trans (tick.checked_le_fired start)

theorem add_le_of_le_sub {a b c : ℕ} (hb : 0 < b) (h : b ≤ c - a) : a + b ≤ c := by omega

variable {v : View} {id : String} {mode : TriggerMode} {e : AlertEvent}

theorem mayFire_of_throttleOk {engine : AlertEngine W} {ruleId : String} {checked fired : Instant}
    (hv : v.state = engine.states.lookup ruleId) (h : engine.throttleOk ruleId checked = true)
    (hle : checked ≤ fired) :
    v.MayFire .always fired := by
  intro t ht
  rw [View.lastAlwaysFireAt, hv] at ht
  simp only [AlertEngine.throttleOk, ht, decide_eq_true_eq] at h
  exact add_le_of_le_sub (by decide) (h.trans (Nat.sub_le_sub_right hle t))

theorem react_effect (engine : AlertEngine W) (rule : AlertRule) (tick : Tick W)
    (start : Instant) (hclock : engine.clock = tick.recorded start) (scan : Scan) :
    Effect rule.triggerMode ⟨engine.states.lookup rule.id, engine.eventsOf rule.id, start⟩
      ((engine.react db rule tick start scan).view rule.id) := by
  have hfired := tick.le_fired start
  have hrecorded := tick.fired_le_recorded start
  have hidle : ∀ mode, Effect mode
      ⟨engine.states.lookup rule.id, engine.eventsOf rule.id, start⟩ (engine.view rule.id) :=
    fun mode => .idle engine.clock (by rw [hclock]; exact hfired.trans hrecorded)
  -- Each branch that fires is idle when the insert fails.
  have hfire : ∀ mode kind source state,
      (∀ event : AlertEvent, event.kind = kind → event.instant = tick.fired start →
        Effect mode ⟨engine.states.lookup rule.id, engine.eventsOf rule.id, start⟩
          ⟨some state, engine.eventsOf rule.id ++ [event], engine.clock⟩) →
      Effect mode ⟨engine.states.lookup rule.id, engine.eventsOf rule.id, start⟩
        ((engine.fireAndRecord db rule tick start kind source state).view rule.id) := by
    intro mode kind source state h
    obtain hview | ⟨event, hkind, hinstant, hview⟩ :=
      view_fireAndRecord db engine rule tick start kind source state
    · rw [hview]
      exact hidle mode
    · rw [hview]
      exact h event hkind hinstant
  have hrecover : ∀ mode source, engine.isActive rule.id = true →
      Effect mode ⟨engine.states.lookup rule.id, engine.eventsOf rule.id, start⟩
        ((engine.fireAndRecord db rule tick start .recovered source
          ⟨rule.id, false, none, none⟩).view rule.id) := by
    intro mode source hactive
    refine hfire mode _ source _ fun event hkind hinstant => ?_
    exact .recovered _ event _ hkind (hinstant ▸ hfired) (by rw [hinstant, hclock]; exact hrecorded)
      hactive rfl
  unfold AlertEngine.react
  cases hmode : rule.triggerMode with
  | once =>
    simp only [Bool.and_eq_true, Bool.not_eq_true']
    split_ifs with htriggered hcleared
    · refine hfire _ _ _ _ fun event hkind hinstant => ?_
      exact .fired _ event _ hkind (hinstant ▸ hfired) (by rw [hinstant, hclock]; exact hrecorded)
        htriggered.2 rfl (fun h => nomatch h)
    · exact hrecover _ _ hcleared.2
    · exact hidle _
  | always =>
    simp only
    split_ifs with htriggered hthrottle hactive
    · refine hfire _ _ _ _ fun event hkind hinstant => ?_
      refine .fired _ event _ hkind (hinstant ▸ hfired) (by rw [hinstant, hclock]; exact hrecorded)
        ?_ rfl fun _ => ⟨tick.recorded start, rfl, hinstant ▸ hrecorded⟩
      rw [hinstant]
      exact mayFire_of_throttleOk rfl hthrottle (tick.checked_le_fired start)
    · exact hidle _
    · exact hrecover _ _ hactive
    · exact hidle _

theorem view_react_of_ne (engine : AlertEngine W) (rule : AlertRule) (tick : Tick W)
    (start : Instant) (scan : Scan) (hne : id ≠ rule.id) :
    (engine.react db rule tick start scan).view id = engine.view id := by
  have hfire := fun kind source state =>
    view_fireAndRecord_of_ne db engine rule tick start kind source state hne
  unfold AlertEngine.react
  cases rule.triggerMode <;> simp only <;> split_ifs <;> first | rfl | exact hfire _ _ _

/-! ## The trusted conditions -/

def HasTrusted (rule : AlertRule) (tick : Tick W) : Prop :=
  ∃ i c, rule.conditions[i]? = some c ∧
    conditionBelongsToRuleOwner (tick.owners i) rule c ≠ .ok false

theorem trusted_of_scanConditions {rule : AlertRule} {tick : Tick W}
    {conditions trusted : List AlertCondition} {i : ℕ} {windows windows' : W} {scan : Scan}
    (hscan : scanConditions rule tick trusted i conditions windows = (.ok scan, windows'))
    (h : trusted ≠ [] ∨ ∃ (j : ℕ) (c : AlertCondition), conditions[j]? = some c ∧
      conditionBelongsToRuleOwner (tick.owners (i + j)) rule c ≠ .ok false) :
    scan.trustedConditions ≠ [] := by
  induction conditions generalizing trusted i windows with
  | nil =>
    simp only [scanConditions, Prod.mk.injEq, Except.ok.injEq] at hscan
    rw [← hscan.1]
    simpa using h
  | cons c conditions ih =>
    rw [scanConditions] at hscan
    cases hbelongs : conditionBelongsToRuleOwner (tick.owners i) rule c with
    | error => simp [hbelongs] at hscan
    | ok belongs =>
      cases belongs with
      | false =>
        simp only [hbelongs] at hscan
        refine ih hscan (h.imp_right ?_)
        rintro ⟨j, c', hj, hc'⟩
        cases j with
        | zero =>
          obtain rfl : c = c' := by simpa using hj
          exact absurd hbelongs hc'
        | succ j => exact ⟨j, c', by simpa using hj, by rwa [Nat.add_right_comm i 1 j]⟩
      | true =>
        simp only [hbelongs] at hscan
        split at hscan
        · simp at hscan
        · simp only [Prod.mk.injEq, Except.ok.injEq] at hscan
          rw [← hscan.1]
          simp
        · exact ih hscan (.inl (by simp))

theorem evaluateRule_effect (engine : AlertEngine W) {rule : AlertRule} {tick : Tick W}
    (h : HasTrusted rule tick) :
    Effect rule.triggerMode (engine.view rule.id)
      ((engine.evaluateRule db rule tick).view rule.id) := by
  unfold AlertEngine.evaluateRule
  rcases hscan : scanConditions rule tick [] 0 rule.conditions engine.windows with
    ⟨scanned, windows⟩
  simp only
  cases scanned with
  | error =>
    exact .idle _ ((tick.le_fired _).trans (tick.fired_le_recorded _))
  | ok scan =>
    have htrusted : scan.trustedConditions ≠ [] :=
      trusted_of_scanConditions hscan (.inr (by simpa [HasTrusted] using h))
    simp only [List.isEmpty_iff, htrusted, if_false]
    exact react_effect db { engine with windows, clock := tick.recorded engine.clock } rule tick
      engine.clock rfl scan

theorem evaluateRule_effect_of_ne (engine : AlertEngine W) (rule : AlertRule) (tick : Tick W)
    (mode : TriggerMode) (hne : id ≠ rule.id) :
    Effect mode (engine.view id) ((engine.evaluateRule db rule tick).view id) := by
  have hview : (engine.evaluateRule db rule tick).view id =
      ⟨engine.states.lookup id, engine.eventsOf id, tick.recorded engine.clock⟩ := by
    unfold AlertEngine.evaluateRule
    rcases hscan : scanConditions rule tick [] 0 rule.conditions engine.windows with
      ⟨scanned, windows⟩
    simp only
    cases scanned with
    | error => rfl
    | ok scan =>
      simp only
      split_ifs
      · simp [AlertEngine.view, AlertEngine.eventsOf, AList.lookup_erase_ne hne]
      · rw [view_react_of_ne db _ rule tick _ scan hne]
        rfl
  rw [hview]
  exact .idle _ ((tick.le_fired _).trans (tick.fired_le_recorded _))

/-! ## Whole runs -/

def AlertEvent.isFired (e : AlertEvent) : Bool := e.kind = .fired

/-- Once: fired and recovered take turns, fired first. Always: a recovered event has a fired
event since the last recovered one, and fired events of one episode are a minute apart. -/
def EventsInOrder (mode : TriggerMode) (events : List AlertEvent) : Prop :=
  match mode with
  | .once => Alternates AlertEvent.isFired events
  | .always => ClosesOpened AlertEvent.isFired events ∧
      Spaced AlertEvent.isFired (·.instant) (fromSecs 60) events

structure Consistent (mode : TriggerMode) (v : View) : Prop where
  active : v.isActive = isOpen AlertEvent.isFired v.events
  past : ∀ e ∈ v.events, e.instant ≤ v.clock
  throttle : mode = .always → v.isActive = true →
    ∃ t, v.lastAlwaysFireAt = some t ∧ ∀ e ∈ v.events, e.instant ≤ t
  inOrder : EventsInOrder mode v.events

theorem consistent_new (mode : TriggerMode) (windows : W) (clock : Instant) (id : String) :
    Consistent mode ((AlertEngine.new windows clock).view id) where
  active := rfl
  past := by simp [AlertEngine.view, AlertEngine.eventsOf, AlertEngine.new]
  throttle _ h := nomatch h
  inOrder := by
    cases mode with
    | once => exact alternates_nil
    | always => exact ⟨closesOpened_nil, spaced_nil⟩

theorem Consistent.inOrder_fired (h : Consistent mode v) (hkind : e.kind = .fired)
    (hmay : v.MayFire mode e.instant) :
    EventsInOrder mode (v.events ++ [e]) := by
  have hfired : e.isFired = true := by simp [AlertEvent.isFired, hkind]
  cases mode with
  | once =>
    refine Alternates.snoc h.inOrder ?_
    rw [hfired, ← h.active, show v.isActive = false from hmay]
    rfl
  | always =>
    refine ⟨h.inOrder.1.snoc fun hclose => ?_, h.inOrder.2.snoc fun _ hopen x hx => ?_⟩
    · simp [hfired] at hclose
    · obtain ⟨t, ht, hle⟩ := h.throttle rfl (h.active.trans hopen)
      exact (Nat.add_le_add_right (hle x hx) _).trans (hmay t ht)

theorem Consistent.inOrder_recovered (h : Consistent mode v) (hkind : e.kind = .recovered)
    (hactive : v.isActive = true) :
    EventsInOrder mode (v.events ++ [e]) := by
  have hfired : e.isFired = false := by simp [AlertEvent.isFired, hkind]
  have hopen := h.active.symm.trans hactive
  cases mode with
  | once => exact Alternates.snoc h.inOrder (by rw [hfired, hopen]; rfl)
  | always => exact ⟨h.inOrder.1.snoc fun _ => hopen, h.inOrder.2.snoc (by simp [hfired])⟩

theorem Consistent.effect {v' : View} (h : Consistent mode v) (heffect : Effect mode v v') :
    Consistent mode v' := by
  -- Events so far lie before the clock, hence before a new event.
  have hpast : ∀ {e : AlertEvent}, v.clock ≤ e.instant →
      ∀ x ∈ v.events ++ [e], x.instant ≤ e.instant := by
    intro e hsince x hx
    obtain hx | rfl := mem_append.mp hx |>.imp_right mem_singleton.mp
    · exact (h.past x hx).trans hsince
    · exact le_rfl
  cases heffect with
  | idle clock later =>
    exact ⟨h.active, fun e he => (h.past e he).trans later, h.throttle, h.inOrder⟩
  | fired state e clock kind since later mayFire active throttle =>
    refine ⟨?_, fun x hx => (hpast since x hx).trans later, fun hmode _ => ?_,
      h.inOrder_fired kind mayFire⟩
    · simp [View.isActive, active, AlertEvent.isFired, kind]
    · obtain ⟨t, ht, hle⟩ := throttle hmode
      exact ⟨t, ht, fun x hx => (hpast since x hx).trans hle⟩
  | recovered state e clock kind since later wasActive inactive =>
    refine ⟨?_, fun x hx => (hpast since x hx).trans later, fun _ hactive => ?_,
      h.inOrder_recovered kind wasActive⟩
    · simp [View.isActive, inactive, AlertEvent.isFired, kind]
    · simp [View.isActive, inactive] at hactive

def StaysEnabled (id : String) (mode : TriggerMode) (rules : List (AlertRule × Tick W)) : Prop :=
  (∃ r ∈ rules, r.1.id = id ∧ r.1.enabled = true) ∧
    ∀ r ∈ rules, r.1.id = id → r.1.triggerMode = mode ∧ HasTrusted r.1 r.2

theorem consistent_evaluateLoaded {rules : List (AlertRule × Tick W)}
    (hrules : ∀ r ∈ rules, r.1.id = id → r.1.triggerMode = mode ∧ HasTrusted r.1 r.2)
    (engine : AlertEngine W) (h : Consistent mode (engine.view id)) :
    Consistent mode ((engine.evaluateLoaded db rules).view id) := by
  induction rules generalizing engine with
  | nil => exact h
  | cons r rules ih =>
    obtain ⟨rule, tick⟩ := r
    rw [forall_mem_cons] at hrules
    refine ih hrules.2 _ ?_
    simp only
    split_ifs
    · by_cases hid : rule.id = id
      · subst hid
        obtain ⟨rfl, htrusted⟩ := hrules.1 rfl
        exact h.effect (evaluateRule_effect db engine htrusted)
      · exact h.effect (evaluateRule_effect_of_ne db engine rule tick mode (Ne.symm hid))
    · exact h

theorem consistent_evaluateAll {loaded : Except String (List (AlertRule × Tick W))}
    (hloaded : ∀ rules, loaded = .ok rules → StaysEnabled id mode rules) (engine : AlertEngine W)
    (h : Consistent mode (engine.view id)) :
    Consistent mode ((engine.evaluateAll db loaded).view id) := by
  cases loaded with
  | error => exact h
  | ok rules =>
    obtain ⟨⟨r, hr, hid, henabled⟩, hrules⟩ := hloaded rules rfl
    refine consistent_evaluateLoaded db hrules _ ?_
    -- An enabled rule keeps its state.
    have hactive : id ∈ (rules.filter (·.1.enabled)).map (·.1.id) :=
      mem_map.mpr ⟨r, mem_filter.mpr ⟨hr, henabled⟩, hid⟩
    have hlookup : (engine.states.retain fun ruleId _ =>
        ruleId ∈ (rules.filter (·.1.enabled)).map (·.1.id)).lookup id =
          engine.states.lookup id := by
      rw [AList.lookup_retain]
      cases engine.states.lookup id with
      | none => rfl
      | some => simp only [Option.filter_some, decide_eq_true hactive, if_true]
    simpa only [AlertEngine.view, AlertEngine.eventsOf, hlookup] using h

/-- Over all ticks of the engine, those included whose load, conditions or insert fail, the
events of a rule that stays enabled with a trusted condition are in order. -/
theorem alert_events_in_order (windows : W) (clock : Instant) (id : String) (mode : TriggerMode)
    (ticks : List (Except String (List (AlertRule × Tick W))))
    (h : ∀ loaded ∈ ticks, ∀ rules, loaded = .ok rules → StaysEnabled id mode rules) :
    EventsInOrder mode
      ((run (AlertEngine.evaluateAll db) (.new windows clock) ticks).eventsOf id) := by
  have hstep : ∀ (engine : AlertEngine W) (loaded : Except String (List (AlertRule × Tick W))),
      (∀ rules, loaded = .ok rules → StaysEnabled id mode rules) →
      Consistent mode (engine.view id) →
      Consistent mode ((AlertEngine.evaluateAll db engine loaded).view id) :=
    fun engine loaded hloaded => consistent_evaluateAll db hloaded engine
  exact (run_induct_of_meets hstep (consistent_new mode windows clock id)
    (meets_of_forall h)).inOrder

namespace Sample

def owner : String := "6f1c0d0a-0b5e-4c51-9d7e-0123456789ab"

def agent : String := "0b5e6f1c-0d0a-4c51-9d7e-0123456789ab"

def rule : AlertRule := ⟨"r1", owner, "cpu", true, .once, [.serverOffline agent 60]⟩

def owners : Owners := ⟨fun _ => .ok none, fun _ => .ok (some (some owner))⟩

def tick (offline : Bool) (insert : Except String Unit) : Tick Unit where
  owners _ := owners
  check _ _ windows := (.ok offline, windows)
  sourceOwners := owners
  insert := insert
  firedAt := 0
  recordedAt := 0
  untilCheck := fromSecs 15
  untilFired := 0
  untilRecorded := 0

def ticks : List (Except String (List (AlertRule × Tick Unit))) :=
  [.ok [(rule, tick true (.error "busy"))], .ok [(rule, tick true (.ok ()))], .error "locked",
    .ok [(rule, tick true (.ok ()))], .ok [(rule, tick false (.error "busy"))],
    .ok [(rule, tick false (.ok ()))]]

theorem hasTrusted (offline : Bool) (insert : Except String Unit) :
    HasTrusted rule (tick offline insert) := by
  refine ⟨0, .serverOffline agent 60, rfl, ?_⟩
  have hbelongs : agentBelongsToOwner owners agent owner = .ok true := by decide +kernel
  simp only [conditionBelongsToRuleOwner, tick, rule, hbelongs]
  simp

theorem staysEnabled : ∀ loaded ∈ ticks, ∀ rules, loaded = .ok rules →
    StaysEnabled rule.id .once rules := by
  intro loaded hloaded rules hrules
  subst hrules
  simp only [ticks, mem_cons, Except.ok.injEq, not_mem_nil, or_false, reduceCtorEq,
    false_or] at hloaded
  rcases hloaded with rfl | rfl | rfl | rfl | rfl <;>
    exact ⟨⟨_, mem_cons_self, rfl, rfl⟩,
      forall_mem_singleton.mpr fun _ => ⟨rfl, hasTrusted _ _⟩⟩

end Sample

theorem alert_events_in_order_sample :
    ((run (AlertEngine.evaluateAll .sqlite) (.new () 0) Sample.ticks).eventsOf "r1").map
        (·.kind) = [.fired, .recovered] ∧
      EventsInOrder .once
        ((run (AlertEngine.evaluateAll .sqlite) (.new () 0) Sample.ticks).eventsOf "r1") :=
  ⟨by decide +kernel,
    alert_events_in_order .sqlite () 0 "r1" .once Sample.ticks Sample.staysEnabled⟩

end XLStatus.Alerts
