import XLStatus.Services.History

/-! The windows of the history and of the uptime of a service: on PostgreSQL the bounds are
instants, on SQLite they are the texts of the caller and are compared with the texts that the
server wrote. -/

namespace XLStatus.Services

open Auth Checked Option
open Db (Stamp)

section Rows

variable (rt : Runtime) {b : DatabaseBackend} (db : Tables b) (now : DateTime)
  (query : HistoryQuery) (serviceId : String) (serverIds : Option (List String))

def historyRows : Except AppError (List (ServiceResultRow b)) := do
  let window ← resolveOptionalHistoryWindow rt now query
  selectResults rt db serviceId window.1 window.2 serverIds

def uptimeRows : Except AppError (List (ServiceResultRow b)) := do
  let (startTime, endTime) ← resolveUptimeWindow rt now query
  let startBound ← parseHistoryTimestamp rt startTime "start_time"
  let endBound ← parseHistoryTimestamp rt endTime "end_time"
  ensure (startBound.2 ≤ endBound.2) startAfterEnd
  selectResults rt db serviceId (some startBound) (some endBound) serverIds

variable {rt db now query serviceId serverIds} {auth : AuthSession}

end Rows

section Accepted

variable (rt : Runtime)

def Accepts (value text : String) (t : DateTime) : Prop :=
  ∀ field, parseHistoryTimestamp rt value field = .ok (text, t)

variable {rt}

theorem parseHistoryTimestamp_eq_ok {value field text : String} {t : DateTime} :
    parseHistoryTimestamp rt value field = .ok (text, t) ↔
      (!(Text.trim value == "" || decide (Text.len (Text.trim value) >
        serviceHistoryMaxTimestampBytes) || (Text.trim value).toList.any Text.isControl)) = true ∧
        rt.rfc3339 (Text.trim value) = some t ∧ Text.trim value = text := by
  unfold parseHistoryTimestamp
  dsimp only
  rw [bind_eq_ok]
  constructor
  · rintro ⟨_, hchecked, h⟩
    obtain ⟨parsed, hparsed, heq⟩ := bind_eq_ok.mp h
    obtain ⟨rfl, rfl⟩ := Prod.mk.inj (pure_eq_ok.mp heq)
    exact ⟨ensure_eq_ok.mp hchecked, require_eq_ok.mp hparsed, rfl⟩
  · rintro ⟨hchecked, hparsed, rfl⟩
    exact ⟨(), ensure_eq_ok.mpr hchecked, bind_eq_ok.mpr ⟨t, require_eq_ok.mpr hparsed, rfl⟩⟩

theorem accepts_of_parse {value field text : String} {t : DateTime}
    (h : parseHistoryTimestamp rt value field = .ok (text, t)) : Accepts rt value text t :=
  fun _ => parseHistoryTimestamp_eq_ok.mpr (parseHistoryTimestamp_eq_ok.mp h)

theorem Accepts.again {value text : String} {t : DateTime} (h : Accepts rt value text t) :
    Accepts rt text text t := by
  intro field
  obtain ⟨hchecked, hparsed, rfl⟩ := parseHistoryTimestamp_eq_ok.mp (h field)
  refine parseHistoryTimestamp_eq_ok.mpr ?_
  rw [Text.trim_trim]
  exact ⟨hchecked, hparsed, rfl⟩

variable {b : DatabaseBackend} {startTime endTime startText endText : String} {t u : DateTime}
  (hstart : Accepts rt startTime startText t) (hend : Accepts rt endTime endText u) (htu : t ≤ u)

include hstart hend htu

theorem rows_eq_selectResults (db : Tables b) (now : DateTime) (query : HistoryQuery)
    {range : Option ℤ} (hrange : parseHistoryRange query.range = .ok range)
    (hqueryStart : query.startTime = some startTime) (hqueryEnd : query.endTime = some endTime)
    (serviceId : String) (serverIds : Option (List String)) :
    historyRows rt db now query serviceId serverIds =
        selectResults rt db serviceId (some (startText, t)) (some (endText, u)) serverIds ∧
      uptimeRows rt db now query serviceId serverIds =
        selectResults rt db serviceId (some (startText, t)) (some (endText, u)) serverIds := by
  have hordered : ensure (decide (t ≤ u)) startAfterEnd = .ok () :=
    ensure_eq_ok.mpr (decide_eq_true htu)
  constructor
  · unfold historyRows resolveOptionalHistoryWindow parseOptionalTimestamp
    rw [hrange, hqueryStart, hqueryEnd]
    dsimp only
    rw [hend, hstart]
    change ((ensure (decide (t ≤ u)) startAfterEnd >>= fun _ => pure _) >>= _) = _
    rw [hordered]
    rfl
  · unfold uptimeRows resolveUptimeWindow
    rw [hrange, hqueryStart, hqueryEnd]
    dsimp only
    rw [hend, hstart]
    change ((ensure (decide (t ≤ u)) startAfterEnd >>= fun _ => pure (startText, endText)) >>=
      _) = _
    rw [hordered]
    change (parseHistoryTimestamp rt startText "start_time" >>= _) = _
    rw [hstart.again]
    change (parseHistoryTimestamp rt endText "end_time" >>= _) = _
    rw [hend.again]
    change (ensure (decide (t ≤ u)) startAfterEnd >>= _) = _
    rw [hordered]
    rfl

end Accepted

section Written

variable (rt : Runtime) (written : DateTime → Prop)

/-- The results that the server wrote at given instants: the column is the text of the instant on
SQLite and the instant on PostgreSQL. -/
def WrittenAt {b : DatabaseBackend} (rows : List (ServiceResultRow b))
    (instant : ServiceResultRow b → DateTime) : Prop :=
  ∀ row ∈ rows, written (instant row) ∧
    row.createdAt = Stamp.ofBound b (rt.toRfc3339 (instant row), instant row)

def between {b : DatabaseBackend} (db : Tables b) (instant : ServiceResultRow b → DateTime)
    (t u : DateTime) : Tables b :=
  { db with serviceResults := db.serviceResults.filter fun row =>
      decide (t ≤ instant row) && decide (instant row ≤ u) }

/-- Whatever the server wrote, the window of two texts has the results whose instant is in the
closed interval, for the history and for the uptime: the queries select what a query without a
window selects of those. -/
def SelectsByInstant (b : DatabaseBackend) (startTime endTime : String) : Prop :=
  ∀ (startText endText : String) (t u : DateTime), Accepts rt startTime startText t →
    Accepts rt endTime endText u → t ≤ u →
    ∀ (db : Tables b) (instant : ServiceResultRow b → DateTime),
      WrittenAt rt written db.serviceResults instant →
    ∀ (now : DateTime) (query : HistoryQuery) (range : Option ℤ),
      parseHistoryRange query.range = .ok range → query.startTime = some startTime →
      query.endTime = some endTime → ∀ (serviceId : String) (serverIds : Option (List String)),
      historyRows rt db now query serviceId serverIds =
          selectResults rt (between db instant t u) serviceId none none serverIds ∧
        uptimeRows rt db now query serviceId serverIds =
          selectResults rt (between db instant t u) serviceId none none serverIds

variable {rt written} {b : DatabaseBackend}

theorem selectResults_between (db : Tables b) {instant : ServiceResultRow b → DateTime}
    (startBound endBound : String × DateTime) (serviceId : String)
    (serverIds : Option (List String))
    (hrows : ∀ row ∈ db.serviceResults,
      Stamp.le (Stamp.ofBound b startBound) row.createdAt = decide (startBound.2 ≤ instant row) ∧
      Stamp.le row.createdAt (Stamp.ofBound b endBound) = decide (instant row ≤ endBound.2)) :
    selectResults rt db serviceId (some startBound) (some endBound) serverIds =
      selectResults rt (between db instant startBound.2 endBound.2) serviceId none none
        serverIds := by
  have hfilter : ∀ (sid : String) (bound : Option (List String)),
      db.serviceResults.filter (matchesQuery sid (some startBound) (some endBound) bound) =
        (between db instant startBound.2 endBound.2).serviceResults.filter
          (matchesQuery sid none none bound) := by
    intro sid bound
    unfold between
    rw [List.filter_filter]
    refine List.filter_congr fun row hrow => ?_
    unfold matchesQuery
    rw [all_some, all_some, (hrows row hrow).1, (hrows row hrow).2, all_none,
      all_none]
    cases decide (startBound.2 ≤ instant row) <;> cases decide (instant row ≤ endBound.2) <;> simp
  unfold selectResults
  simp only [hfilter]

theorem selectsByInstant_of_le {startTime endTime : String}
    (hstart : ∀ text t, Accepts rt startTime text t → ∀ v, written v →
      Stamp.le (Stamp.ofBound b (text, t)) (Stamp.ofBound b (rt.toRfc3339 v, v)) = decide (t ≤ v))
    (hend : ∀ text u, Accepts rt endTime text u → ∀ v, written v →
      Stamp.le (Stamp.ofBound b (rt.toRfc3339 v, v)) (Stamp.ofBound b (text, u)) =
        decide (v ≤ u)) :
    SelectsByInstant rt written b startTime endTime := by
  intro startText endText t u haccepted hlast htu db instant hwritten now query range hrange
    hqueryStart hqueryEnd serviceId serverIds
  have hrows : ∀ row ∈ db.serviceResults,
      Stamp.le (Stamp.ofBound b (startText, t)) row.createdAt = decide (t ≤ instant row) ∧
      Stamp.le row.createdAt (Stamp.ofBound b (endText, u)) = decide (instant row ≤ u) := by
    intro row hrow
    obtain ⟨hrow, hcolumn⟩ := hwritten row hrow
    rw [hcolumn]
    exact ⟨hstart _ _ haccepted _ hrow, hend _ _ hlast _ hrow⟩
  rw [← selectResults_between db (startText, t) (endText, u) serviceId serverIds hrows]
  exact rows_eq_selectResults haccepted hlast htu db now query hrange hqueryStart hqueryEnd
    serviceId serverIds

def resultAt (rt : Runtime) (t : DateTime) : ServiceResultRow .sqlite where
  id := ""
  serviceId := ""
  serverId := none
  status := "success"
  delayMs := none
  statusCode := none
  error := none
  certFingerprint := none
  certNotAfter := none
  createdAt := rt.toRfc3339 t

theorem eq_toRfc3339_of_selectsByInstant {value text : String} {t : DateTime}
    (haccepts : Accepts rt value text t) (hwritten : written t)
    (h : SelectsByInstant rt written .sqlite value value) : text = rt.toRfc3339 t := by
  let db : Tables .sqlite := ⟨⟨[], [], []⟩, [resultAt rt t]⟩
  have hrows : WrittenAt rt written db.serviceResults fun _ => t := by
    intro row hrow
    rw [List.mem_singleton.mp hrow]
    exact ⟨hwritten, rfl⟩
  let query : HistoryQuery := { startTime := some value, endTime := some value }
  have hquery := h text text t t haccepts haccepts le_rfl db (fun _ => t) hrows 0 query none rfl
    rfl rfl "" none
  have hselect := (rows_eq_selectResults haccepts haccepts le_rfl db 0 query rfl rfl rfl "" none).1
  have hbetween : (between db (fun _ => t) t t).serviceResults = [resultAt rt t] := by
    simp [between, db]
  rw [hquery.1] at hselect
  change Except.ok ((between db (fun _ => t) t t).serviceResults.filter
    (matchesQuery "" none none none)) = Except.ok (db.serviceResults.filter
      (matchesQuery "" (some (text, t)) (some (text, t)) none)) at hselect
  rw [hbetween] at hselect
  have hmem : resultAt rt t ∈ db.serviceResults.filter
      (matchesQuery "" (some (text, t)) (some (text, t)) none) := by
    rw [← Except.ok.inj hselect]
    exact List.mem_singleton_self _
  have hmatches := (List.mem_filter.mp hmem).2
  simp only [matchesQuery, all_some, Bool.and_eq_true] at hmatches
  obtain ⟨⟨⟨-, hfrom⟩, htill⟩, -⟩ := hmatches
  exact String.le_antisymm (of_decide_eq_true hfrom) (of_decide_eq_true htill)

end Written

namespace Sample

def midnight : DateTime := seconds 1767225600
def later : DateTime := midnight + 500000000

def midnightText : String := "2026-01-01T00:00:00+00:00"
def laterText : String := "2026-01-01T00:00:00.500+00:00"
def zuluText : String := "2026-01-01T00:00:00Z"

def clock : Runtime where
  jsonStringArray := fun _ => none
  rfc3339 := fun text =>
    [(midnightText, midnight), (laterText, later), (zuluText, midnight)].lookup text
  toRfc3339 := fun t => if t = midnight then midnightText else if t = later then laterText else ""
  timestamptzText := fun _ => ""
  uuidError := fun _ => ""
  avg := fun _ => 0
  redactServiceErrorUrls := id

def Ticks (t : DateTime) : Prop := t = midnight ∨ t = later

theorem accepts_clock {value text : String} {t : DateTime}
    (hvalue : value = midnightText ∨ value = laterText) (h : Accepts clock value text t) :
    Ticks t ∧ text = clock.toRfc3339 t := by
  have hmidnight : parseHistoryTimestamp clock midnightText "" =
      .ok (midnightText, midnight) := by decide +kernel
  have hlater : parseHistoryTimestamp clock laterText "" = .ok (laterText, later) := by
    decide +kernel
  rcases hvalue with rfl | rfl
  · obtain ⟨rfl, rfl⟩ := Prod.mk.inj (Except.ok.inj (hmidnight.symm.trans (h "")))
    exact ⟨.inl rfl, rfl⟩
  · obtain ⟨rfl, rfl⟩ := Prod.mk.inj (Except.ok.inj (hlater.symm.trans (h "")))
    exact ⟨.inr rfl, rfl⟩

end Sample

end XLStatus.Services
