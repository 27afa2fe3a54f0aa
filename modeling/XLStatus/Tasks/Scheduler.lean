import XLStatus.Tasks.SchedulerDefs

/-! The scheduler fires the occurrences of a schedule: what it keeps after a scan is, for every
task the scan has observed, the first occurrence after the time of that scan. -/

namespace XLStatus.Tasks

open Auth Transition List

variable {I : Type} [LinearOrder I]

/-! ## The tasks a scan reads -/

def pageTasks : List (Except String (TaskTable I)) → Option I → Except ScanError (List (Task I))
  | [], _ => .error .dropped
  | .error e :: _, _ => .error (.load e)
  | .ok table :: answers, cursor =>
    let page := listScheduledPage table cursor
    match page.nextCursor with
    | some next => (pageTasks answers (some next)).map (page.tasks ++ ·)
    | none => .ok page.tasks

theorem scanPages_eq (cron : Cron) (now : DateTime) (answers : List (Except String (TaskTable I)))
    (cursor : Option I) (acc : Scanned I) :
    scanPages cron now answers cursor acc =
      (pageTasks answers cursor).map (·.foldl (Scanned.observe cron now) acc) := by
  induction answers generalizing cursor acc with
  | nil => rfl
  | cons answer answers ih =>
    cases answer with
    | error => rfl
    | ok table =>
      simp only [scanPages, pageTasks]
      cases (listScheduledPage table cursor).nextCursor with
      | none => rfl
      | some next =>
        simp only [ih]
        cases pageTasks answers (some next) with
        | error => rfl
        | ok => simp [Except.map, foldl_append]

theorem selectScheduled_spec (table : TaskTable I) (cursor : Option I) :
    ∃ rest, (table.selectScheduled cursor ++ rest).Perm (table.rows.filter fun row =>
        row.enabled && row.schedule.isSome && cursor.all (row.id < ·)) ∧
      (table.selectScheduled cursor ++ rest).Pairwise (fun a b => b.id < a.id) ∧
      (rest ≠ [] → (table.selectScheduled cursor).length = taskScheduledRuntimeScanLimit) := by
  unfold TaskTable.selectScheduled
  set selected := table.rows.filter fun row =>
    row.enabled && row.schedule.isSome && cursor.all (row.id < ·)
  set sorted := selected.mergeSort fun a b => b.id ≤ a.id with hsorted
  have hperm : sorted.Perm selected := mergeSort_perm _ _
  have hle : sorted.Pairwise fun a b => b.id ≤ a.id := by
    have hsort := @List.pairwise_mergeSort _ (fun a b : TaskRow I => decide (b.id ≤ a.id))
      (fun a b c hab hbc => by
        simp only [decide_eq_true_eq] at hab hbc ⊢
        exact hbc.trans hab)
      (fun a b => by simpa using le_total b.id a.id)
    simpa using hsort selected
  have hne : sorted.Pairwise fun a b => a.id ≠ b.id := by
    have hnodup : (sorted.map (·.id)).Nodup := (hperm.map (·.id)).nodup_iff.mpr
      (table.primaryKey.sublist (filter_sublist.map _))
    exact pairwise_map.mp hnodup
  refine ⟨sorted.drop taskScheduledRuntimeScanLimit, ?_, ?_, fun hrest => ?_⟩
  · rwa [take_append_drop]
  · rw [take_append_drop]
    exact hle.imp₂ (fun a b hab hne => lt_of_le_of_ne hab hne.symm) hne
  · rw [length_take, min_eq_left]
    rw [Ne, drop_eq_nil_iff, not_le] at hrest
    exact hrest.le

theorem nodup_selectScheduled (table : TaskTable I) (cursor : Option I) :
    ((table.selectScheduled cursor).map (·.id)).Nodup := by
  obtain ⟨rest, -, hsorted, -⟩ := selectScheduled_spec table cursor
  exact pairwise_map.mpr ((pairwise_append.mp hsorted).1.imp fun hlt => hlt.ne')

variable {cursor : Option I} {table : TaskTable I} {scan : Scan I} {e : String}
  {scheduled : ScheduledTasks I} {s : DateTime} {scans : List (Scan I)}

theorem lt_cursor_of_mem {row : TaskRow I} (h : row ∈ table.selectScheduled cursor) :
    ∀ c, cursor = some c → row.id < c := by
  obtain ⟨rest, hperm, -⟩ := selectScheduled_spec table cursor
  have hmem := hperm.subset (mem_append_left rest h)
  rintro c rfl
  simp only [mem_filter, Bool.and_eq_true, Option.all_some, decide_eq_true_eq] at hmem
  exact hmem.2.2

theorem getLast_le_of_mem {row last : TaskRow I}
    (hlast : (table.selectScheduled cursor).getLast? = some last)
    (h : row ∈ table.selectScheduled cursor) : last.id ≤ row.id := by
  obtain ⟨rest, -, hsorted, -⟩ := selectScheduled_spec table cursor
  have hpage := (pairwise_append.mp hsorted).1
  obtain ⟨front, hfront⟩ := getLast?_eq_some_iff.mp hlast
  rw [hfront] at hpage h
  obtain hmem | hmem := mem_append.mp h
  · exact ((pairwise_append.mp hpage).2.2 row hmem last (by simp)).le
  · rw [mem_singleton.mp hmem]

theorem exists_row_of_mem {task : Task I} (h : task ∈ (listScheduledPage table cursor).tasks) :
    ∃ row ∈ table.selectScheduled cursor, row.id = task.id := by
  obtain ⟨row, hrow, hvalid⟩ := mem_filterMap.mp h
  unfold validateScheduledTask at hvalid
  split at hvalid
  · cases hvalid
    exact ⟨row, hrow, rfl⟩
  · cases hvalid

theorem nodup_page (table : TaskTable I) (cursor : Option I) :
    ((listScheduledPage table cursor).tasks.map (·.id)).Nodup := by
  have hsub : ∀ rows : List (TaskRow I),
      ((rows.filterMap validateScheduledTask).map (·.id)).Sublist (rows.map (·.id)) := by
    intro rows
    induction rows with
    | nil => exact Sublist.slnil
    | cons row rows ih =>
      unfold validateScheduledTask at ih ⊢
      rw [filterMap_cons]
      by_cases hreadable : row.readable = true
      · simpa [hreadable] using ih
      · simpa [hreadable] using ih.cons _
  exact (nodup_selectScheduled table cursor).sublist (hsub _)

theorem nodup_pageTasks {answers : List (Except String (TaskTable I))} {tasks : List (Task I)}
    (h : pageTasks answers cursor = .ok tasks) :
    (tasks.map (·.id)).Nodup ∧ ∀ task ∈ tasks, ∀ c, cursor = some c → task.id < c := by
  have hpage : ∀ (table : TaskTable I) (cursor : Option I),
      ∀ task ∈ (listScheduledPage table cursor).tasks, ∀ c, cursor = some c → task.id < c := by
    intro table cursor task htask c hc
    obtain ⟨row, hrow, hid⟩ := exists_row_of_mem htask
    exact hid ▸ lt_cursor_of_mem hrow c hc
  induction answers generalizing cursor tasks with
  | nil => cases h
  | cons answer answers ih =>
    cases answer with
    | error => cases h
    | ok table =>
      simp only [pageTasks] at h
      cases hnext : (listScheduledPage table cursor).nextCursor with
      | none =>
        simp only [hnext] at h
        obtain rfl := Except.ok.inj h
        exact ⟨nodup_page table cursor, hpage table cursor⟩
      | some next =>
        simp only [hnext] at h
        cases hrest : pageTasks answers (some next) with
        | error =>
          rw [hrest] at h
          cases h
        | ok =>
          rw [hrest] at h
          obtain rfl := Except.ok.inj h
          obtain ⟨hnodup, hlt⟩ := ih hrest
          obtain ⟨last, hlast, rfl⟩ : ∃ last,
              (table.selectScheduled cursor).getLast? = some last ∧ last.id = next := by
            simp only [listScheduledPage] at hnext
            split at hnext
            · exact Option.map_eq_some_iff.mp hnext
            · cases hnext
          have hbelow : ∀ task ∈ (listScheduledPage table cursor).tasks, last.id ≤ task.id := by
            intro task htask
            obtain ⟨row, hrow, hid⟩ := exists_row_of_mem htask
            exact hid ▸ getLast_le_of_mem hlast hrow
          refine ⟨?_, fun task htask c hc => ?_⟩
          · rw [map_append, nodup_append]
            refine ⟨nodup_page table cursor, hnodup, ?_⟩
            intro a ha b hb
            obtain ⟨task, htask, rfl⟩ := mem_map.mp ha
            obtain ⟨task', htask', rfl⟩ := mem_map.mp hb
            exact ((hlt task' htask' _ rfl).trans_le (hbelow task htask)).ne'
          · obtain htask | htask := mem_append.mp htask
            · exact hpage table cursor task htask c hc
            · have hrow := mem_of_getLast? hlast
              exact (hlt task htask _ rfl).trans (lt_cursor_of_mem hrow c hc)

/-! ## What a scan observes -/

section Observe

variable (cron : Cron)

def Task.expression (task : Task I) : Option String :=
  if task.enabled then task.schedule.filter fun e => (parseTaskSchedule cron e).isOk else none

def observedIn (tasks : List (Task I)) (id : I) : Option String :=
  (tasks.find? (·.id = id)).bind (Task.expression cron)

def Scan.observed (scan : Scan I) (id : I) : Option String :=
  match pageTasks scan.answers none with
  | .error _ => none
  | .ok tasks => observedIn cron tasks id

def nextRun (expression : String) (t : DateTime) : Option DateTime :=
  match parseTaskSchedule cron expression with
  | .error _ => none
  | .ok schedule => cron.after schedule t

variable (now : DateTime)

def IsDue (existing : Option ScheduledTaskState) (expression : String) : Prop :=
  ∃ t, existing = some ⟨expression, some t⟩ ∧ t ≤ now

def Refreshed (existing : Option ScheduledTaskState) (expression : String)
    (state : ScheduledTaskState) : Prop :=
  state = ⟨expression, nextRun cron expression now⟩ ∨
    existing = some state ∧ state.expression = expression ∧ ¬ IsDue now existing expression

end Observe

section Fold

variable {cron : Cron}

theorem observedIn_cons (task : Task I) (tasks : List (Task I)) (id : I) :
    observedIn cron (task :: tasks) id =
      if task.id = id then task.expression cron else observedIn cron tasks id := by
  unfold observedIn
  by_cases h : task.id = id
  · simp [h]
  · simp [h]

variable {tasks : List (Task I)}

theorem observedIn_of_notMem {id : I} (h : id ∉ tasks.map (·.id)) :
    observedIn cron tasks id = none := by
  have hfind : tasks.find? (·.id = id) = none := by
    rw [find?_eq_none]
    intro task htask hid
    exact h (mem_map.mpr ⟨task, htask, of_decide_eq_true hid⟩)
  rw [observedIn, hfind]
  rfl

theorem updateScheduleState_spec (now : DateTime) (scheduled : ScheduledTasks I) (id : I)
    {expression : String} {schedule : cron.Schedule}
    (hparse : parseTaskSchedule cron expression = .ok schedule) :
    ((updateScheduleState cron now scheduled id expression schedule).1 = true ↔
        IsDue now (scheduled.lookup id) expression) ∧
      (∃ state, (updateScheduleState cron now scheduled id expression schedule).2.lookup id =
        some state ∧ Refreshed cron now (scheduled.lookup id) expression state) ∧
      ∀ a ≠ id, (updateScheduleState cron now scheduled id expression schedule).2.lookup a =
        scheduled.lookup a := by
  have hnext : cron.after schedule now = nextRun cron expression now := by
    simp only [nextRun, hparse]
  unfold updateScheduleState
  cases hlookup : scheduled.lookup id with
  | none =>
    refine ⟨by simp [IsDue], ⟨⟨expression, cron.after schedule now⟩, by simp, .inl ?_⟩,
      fun a ha => by simp [ha]⟩
    rw [hnext]
  | some state =>
    obtain ⟨e, next⟩ := state
    by_cases he : e = expression
    · subst he
      by_cases hdue : ∃ t, next = some t ∧ t ≤ now
      · obtain ⟨t, rfl, ht⟩ := hdue
        refine ⟨by simp [IsDue, ht], ⟨⟨e, cron.after schedule now⟩, by simp [ht], .inl ?_⟩,
          fun a ha => by simp [ht, ha]⟩
        rw [hnext]
      · have hnot : next.any (fun t => decide (t ≤ now)) = false := by
          cases next with
          | none => rfl
          | some t => simpa using fun ht => hdue ⟨t, rfl, ht⟩
        have hisDue : ¬ IsDue now (some ⟨e, next⟩) e := by
          rintro ⟨t, ht, hle⟩
          simp only [Option.some.injEq, ScheduledTaskState.mk.injEq, true_and] at ht
          exact hdue ⟨t, ht, hle⟩
        refine ⟨by simp [hnot, hisDue], ⟨⟨e, next⟩, by simp [hnot, hlookup], .inr ?_⟩,
          fun a _ => by simp [hnot]⟩
        exact ⟨rfl, rfl, hisDue⟩
    · refine ⟨by simp [IsDue, he], ⟨⟨expression, cron.after schedule now⟩, by simp [he], .inl ?_⟩,
        fun a ha => by simp [he, ha]⟩
      rw [hnext]

theorem observe_of_none (now : DateTime) (acc : Scanned I) {task : Task I}
    (h : task.expression cron = none) :
    acc.observe cron now task = acc := by
  unfold Task.expression at h
  cases henabled : task.enabled with
  | false => simp [Scanned.observe, henabled]
  | true =>
    cases hschedule : task.schedule with
    | none => simp [Scanned.observe, hschedule]
    | some e =>
      cases hparse : parseTaskSchedule cron e with
      | error => simp [Scanned.observe, hschedule, hparse]
      | ok => simp [henabled, hschedule, hparse, Except.isOk, Except.toBool] at h

theorem observe_of_some (now : DateTime) (acc : Scanned I) {task : Task I} {e : String}
    (h : task.expression cron = some e) :
    ∃ schedule, parseTaskSchedule cron e = .ok schedule ∧
      acc.observe cron now task =
        { scheduled := (updateScheduleState cron now acc.scheduled task.id e schedule).2
          observedTaskIds := task.id :: acc.observedTaskIds
          dueTasks := if (updateScheduleState cron now acc.scheduled task.id e schedule).1 then
            acc.dueTasks ++ [task] else acc.dueTasks } := by
  unfold Task.expression at h
  cases henabled : task.enabled with
  | false => simp [henabled] at h
  | true =>
    simp only [henabled, if_true, Option.filter_eq_some_iff] at h
    obtain ⟨hschedule, hok⟩ := h
    cases hparse : parseTaskSchedule cron e with
    | error => simp [hparse, Except.isOk, Except.toBool] at hok
    | ok schedule => exact ⟨schedule, rfl, by simp [Scanned.observe, henabled, hschedule, hparse]⟩

theorem foldl_observe (cron : Cron) (now : DateTime) (acc : Scanned I) (id : I)
    (hnodup : (tasks.map (·.id)).Nodup) :
    let acc' := tasks.foldl (Scanned.observe cron now) acc
    (match observedIn cron tasks id with
      | none => acc'.scheduled.lookup id = acc.scheduled.lookup id
      | some e => ∃ state, acc'.scheduled.lookup id = some state ∧
          Refreshed cron now (acc.scheduled.lookup id) e state) ∧
      (id ∈ acc'.observedTaskIds ↔
        id ∈ acc.observedTaskIds ∨ (observedIn cron tasks id).isSome = true) ∧
      (id ∈ acc'.dueTasks.map (·.id) ↔ id ∈ acc.dueTasks.map (·.id) ∨
        ∃ e, observedIn cron tasks id = some e ∧ IsDue now (acc.scheduled.lookup id) e) := by
  induction tasks generalizing acc with
  | nil => simp [observedIn]
  | cons task tasks ih =>
    rw [map_cons, nodup_cons] at hnodup
    rw [foldl_cons, observedIn_cons]
    have hrest := ih (acc.observe cron now task) hnodup.2
    cases hexpr : task.expression cron with
    | none =>
      rw [observe_of_none now acc hexpr] at hrest ⊢
      by_cases hid : task.id = id
      · subst hid
        rw [observedIn_of_notMem hnodup.1] at hrest
        simpa using hrest
      · simpa [hid] using hrest
    | some e =>
      obtain ⟨schedule, hparse, hobserve⟩ := observe_of_some now acc hexpr
      obtain ⟨hdue, hself, hother⟩ :=
        updateScheduleState_spec now acc.scheduled task.id hparse
      rw [hobserve] at hrest ⊢
      by_cases hid : task.id = id
      · subst hid
        rw [observedIn_of_notMem hnodup.1] at hrest
        obtain ⟨hlookup, hobserved, hdues⟩ := hrest
        simp only [if_true]
        refine ⟨?_, ?_, ?_⟩
        · rw [hlookup]
          exact hself
        · rw [hobserved]
          simp
        · rw [hdues]
          by_cases hrun : (updateScheduleState cron now acc.scheduled task.id e schedule).1 = true
          · simp [hrun, hdue.mp hrun]
          · have hnot : ¬ IsDue now (acc.scheduled.lookup task.id) e := fun h => hrun (hdue.mpr h)
            simp [hrun, hnot]
      · have hid' : id ≠ task.id := fun h => hid h.symm
        simp only [if_neg hid]
        simp only [hother id hid'] at hrest
        obtain ⟨hlookup, hobserved, hdues⟩ := hrest
        refine ⟨hlookup, ?_, ?_⟩
        · rw [hobserved]
          simp [hid']
        · rw [hdues]
          split
          · simp [hid']
          · rfl

theorem foldl_observe_dueTasks (cron : Cron) (now : DateTime) (acc : Scanned I)
    (tasks : List (Task I)) :
    ∃ due, due.Sublist tasks ∧
      (tasks.foldl (Scanned.observe cron now) acc).dueTasks = acc.dueTasks ++ due := by
  induction tasks generalizing acc with
  | nil => exact ⟨[], Sublist.slnil, by simp⟩
  | cons task tasks ih =>
    obtain ⟨due, hsub, hdue⟩ := ih (acc.observe cron now task)
    rw [foldl_cons, hdue]
    cases hexpr : task.expression cron with
    | none => exact ⟨due, hsub.cons task, by rw [observe_of_none now acc hexpr]⟩
    | some =>
      obtain ⟨schedule, -, hobserve⟩ := observe_of_some now acc hexpr
      rw [hobserve]
      split
      · exact ⟨task :: due, hsub.cons_cons task, by simp⟩
      · exact ⟨due, hsub.cons task, rfl⟩

end Fold

/-! ## Runs of the scheduler -/

def Scan.succeeds (scan : Scan I) : Bool := (pageTasks scan.answers none).isOk

def lastSucceeded (scans : List (Scan I)) : Option (Scan I) := (scans.filter Scan.succeeds).getLast?

theorem lastSucceeded_snoc (scans : List (Scan I)) (scan : Scan I) :
    lastSucceeded (scans ++ [scan]) =
      if scan.succeeds then some scan else lastSucceeded scans := by
  unfold lastSucceeded
  cases hsucceeds : scan.succeeds with
  | false => simp [hsucceeds]
  | true => simp [hsucceeds]

theorem scanDueTasks_of_not_succeeds (cron : Cron) (h : scan.succeeds = false)
    (scheduled : ScheduledTasks I) :
    ∃ e, scanDueTasks cron scan.now scan.answers scheduled = (.error e, scheduled) := by
  unfold scanDueTasks
  unfold Scan.succeeds at h
  rw [scanPages_eq]
  cases hpages : pageTasks scan.answers none with
  | error e => exact ⟨e, rfl⟩
  | ok => simp [hpages, Except.isOk, Except.toBool] at h

theorem scanDueTasks_of_succeeds (cron : Cron) (h : scan.succeeds = true)
    (scheduled : ScheduledTasks I) :
    ∃ due scheduled', scanDueTasks cron scan.now scan.answers scheduled = (.ok due, scheduled') ∧
      (due.map (·.id)).Nodup ∧ ∀ id,
        (match scan.observed cron id with
          | none => scheduled'.lookup id = none
          | some e => ∃ state, scheduled'.lookup id = some state ∧
              Refreshed cron scan.now (scheduled.lookup id) e state) ∧
        (id ∈ due.map (·.id) ↔
          ∃ e, scan.observed cron id = some e ∧ IsDue scan.now (scheduled.lookup id) e) := by
  unfold scanDueTasks Scan.observed
  unfold Scan.succeeds at h
  rw [scanPages_eq]
  cases hpages : pageTasks scan.answers none with
  | error => simp [hpages, Except.isOk, Except.toBool] at h
  | ok tasks =>
    obtain ⟨hnodup, -⟩ := nodup_pageTasks hpages
    refine ⟨_, _, rfl, ?_, fun id => ?_⟩
    · obtain ⟨due, hsub, hdue⟩ := foldl_observe_dueTasks cron scan.now
        ⟨scheduled, [], []⟩ tasks
      rw [hdue]
      exact hnodup.sublist (hsub.map _)
    · obtain ⟨hlookup, hobserved, hdues⟩ := foldl_observe cron scan.now
        ⟨scheduled, [], []⟩ id hnodup
      refine ⟨?_, by simpa using hdues⟩
      simp only [AList.lookup_retain]
      cases hexpr : observedIn cron tasks id with
      | none =>
        have hnot : id ∉ (tasks.foldl (Scanned.observe cron scan.now)
            ⟨scheduled, [], []⟩).observedTaskIds := by
          simpa [hexpr] using hobserved
        simp [hnot]
      | some =>
        have hmem : id ∈ (tasks.foldl (Scanned.observe cron scan.now)
            ⟨scheduled, [], []⟩).observedTaskIds := by
          simpa [hexpr] using hobserved
        rw [hexpr] at hlookup
        obtain ⟨state, hstate, hrefreshed⟩ := hlookup
        exact ⟨state, by simp [hstate, hmem], hrefreshed⟩

theorem parse_of_observed {cron : Cron} {id : I} (h : scan.observed cron id = some e) :
    ∃ schedule, parseTaskSchedule cron e = .ok schedule := by
  unfold Scan.observed at h
  cases hpages : pageTasks scan.answers none with
  | error => simp [hpages] at h
  | ok =>
    simp only [hpages, observedIn, Option.bind_eq_some_iff] at h
    obtain ⟨task, -, hexpr⟩ := h
    obtain ⟨schedule, hparse, -⟩ := observe_of_some 0 ⟨∅, [], []⟩ hexpr
    exact ⟨schedule, hparse⟩

/-- What the scheduler keeps: the tasks the last scan has observed, each with the first
occurrence after the time of that scan. -/
def Kept (cron : Cron) (last : Option (Scan I)) (scheduled : ScheduledTasks I) : Prop :=
  ∀ id, scheduled.lookup id = last.bind fun prev =>
    (prev.observed cron id).map fun e => ⟨e, nextRun cron e prev.now⟩

variable {cron : Cron}

theorem Kept.isDue_iff {last : Option (Scan I)} (h : Kept cron last scheduled) (now : DateTime)
    (id : I) (e : String) :
    IsDue now (scheduled.lookup id) e ↔
      ∃ prev, last = some prev ∧ prev.observed cron id = some e ∧
        ∃ t, nextRun cron e prev.now = some t ∧ t ≤ now := by
  rw [h id]
  constructor
  · rintro ⟨t, ht, hle⟩
    simp only [Option.bind_eq_some_iff, Option.map_eq_some_iff, ScheduledTaskState.mk.injEq] at ht
    obtain ⟨prev, hlast, e', hobserved, rfl, hnext⟩ := ht
    exact ⟨prev, hlast, hobserved, t, hnext, hle⟩
  · rintro ⟨prev, rfl, hobserved, t, hnext, hle⟩
    exact ⟨t, by simp [hobserved, hnext], hle⟩

theorem nextRun_reached_iff {schedule : cron.Schedule}
    (hparse : parseTaskSchedule cron e = .ok schedule) {now : DateTime} :
    (∃ t, nextRun cron e s = some t ∧ t ≤ now) ↔
      ∃ u ∈ cron.occurrences schedule, s < u ∧ u ≤ now := by
  simp only [nextRun, hparse]
  exact (cron.after_spec schedule).reached_iff

theorem nextRun_eq_of_not_reached {now : DateTime} (hle : s ≤ now)
    (hnot : ¬ ∃ t, nextRun cron e s = some t ∧ t ≤ now) :
    nextRun cron e now = nextRun cron e s := by
  unfold nextRun at hnot ⊢
  cases hparse : parseTaskSchedule cron e with
  | error => rfl
  | ok schedule =>
    simp only [hparse] at hnot
    exact (cron.after_spec schedule).eq_of_not_reached hle hnot

theorem Kept.step {last : Option (Scan I)} (h : Kept cron last scheduled)
    (hle : scan.succeeds = true → ∀ prev, last = some prev → prev.now ≤ scan.now) :
    Kept cron (if scan.succeeds then some scan else last) (step cron scheduled scan) := by
  unfold Tasks.step
  cases hsucceeds : scan.succeeds with
  | false =>
    obtain ⟨e, he⟩ := scanDueTasks_of_not_succeeds cron hsucceeds scheduled
    simpa [he] using h
  | true =>
    obtain ⟨due, scheduled', hscan, -, hids⟩ :=
      scanDueTasks_of_succeeds cron hsucceeds scheduled
    rw [hscan]
    intro id
    have hid := (hids id).1
    simp only [if_true, Option.bind_some]
    cases hobserved : scan.observed cron id with
    | none =>
      rw [hobserved] at hid
      exact hid
    | some e =>
      rw [hobserved] at hid
      obtain ⟨state, hstate, hnew | ⟨hold, rfl, hnot⟩⟩ := hid
      · rw [hstate, hnew]
        rfl
      · -- not refreshed: the kept occurrence is still ahead, so it is the next one from now on
        rw [h.isDue_iff] at hnot
        rw [h id, Option.bind_eq_some_iff] at hold
        obtain ⟨prev, hprev, hmap⟩ := hold
        obtain ⟨e, hexpr, rfl⟩ := Option.map_eq_some_iff.mp hmap
        have hnext : nextRun cron e scan.now = nextRun cron e prev.now :=
          nextRun_eq_of_not_reached (hle hsucceeds prev hprev)
            fun hreached => hnot ⟨prev, hprev, hexpr, hreached⟩
        simp [hstate, hnext]

def InOrder (scans : List (Scan I)) : Prop :=
  (scans.filter Scan.succeeds).Pairwise (·.now ≤ ·.now)

theorem InOrder.le (h : InOrder (scans ++ [scan])) (hsucceeds : scan.succeeds = true) :
    ∀ prev, lastSucceeded scans = some prev → prev.now ≤ scan.now := by
  intro prev hprev
  unfold InOrder at h
  simp only [filter_append, pairwise_append] at h
  exact h.2.2 prev (mem_of_getLast? hprev) scan (by simp [hsucceeds])

theorem InOrder.of_snoc (h : InOrder (scans ++ [scan])) :
    InOrder scans := by
  unfold InOrder at h ⊢
  rw [filter_append] at h
  exact (pairwise_append.mp h).1

theorem kept_run (h : InOrder scans) :
    Kept cron (lastSucceeded scans) (run (Tasks.step cron) ∅ scans) := by
  induction scans using reverseRecOn with
  | nil => exact fun id => rfl
  | append_singleton scans scan ih =>
    rw [run_snoc, lastSucceeded_snoc]
    exact (ih h.of_snoc).step h.le

/-- A scan that succeeds reports a task as due when the last scan that succeeded has observed
it with the same expression, and the expression has an occurrence after the time of that scan
and up to now. A scan that fails leaves the state as it is. -/
theorem scanDueTasks_fires_occurrences (cron : Cron) (scans : List (Scan I)) (scan : Scan I)
    (h : InOrder (scans ++ [scan])) :
    match scanDueTasks cron scan.now scan.answers (run (Tasks.step cron) ∅ scans) with
    | (.error _, scheduled) => scheduled = run (Tasks.step cron) ∅ scans
    | (.ok due, _) => (due.map (·.id)).Nodup ∧ ∀ id, id ∈ due.map (·.id) ↔
        ∃ prev e schedule, lastSucceeded scans = some prev ∧
          prev.observed cron id = some e ∧ scan.observed cron id = some e ∧
          parseTaskSchedule cron e = .ok schedule ∧
          ∃ u ∈ cron.occurrences schedule, prev.now < u ∧ u ≤ scan.now := by
  have hkept : Kept cron (lastSucceeded scans) (run (Tasks.step cron) ∅ scans) :=
    kept_run h.of_snoc
  cases hsucceeds : scan.succeeds with
  | false =>
    obtain ⟨err, hscan⟩ :=
      scanDueTasks_of_not_succeeds cron hsucceeds (run (Tasks.step cron) ∅ scans)
    rw [hscan]
  | true =>
    obtain ⟨due, scheduled', hscan, hnodup, hids⟩ :=
      scanDueTasks_of_succeeds cron hsucceeds (run (Tasks.step cron) ∅ scans)
    rw [hscan]
    refine ⟨hnodup, fun id => (hids id).2.trans ?_⟩
    constructor
    · rintro ⟨e, hobserved, hdue⟩
      obtain ⟨prev, hprev, hexpr, hreached⟩ := (hkept.isDue_iff scan.now id e).mp hdue
      obtain ⟨schedule, hparse⟩ := parse_of_observed hobserved
      exact ⟨prev, e, schedule, hprev, hexpr, hobserved, hparse,
        (nextRun_reached_iff hparse).mp hreached⟩
    · rintro ⟨prev, e, schedule, hprev, hexpr, hobserved, hparse, hoccurs⟩
      exact ⟨e, hobserved, (hkept.isDue_iff scan.now id e).mpr
        ⟨prev, hprev, hexpr, (nextRun_reached_iff hparse).mpr hoccurs⟩⟩

def hourly : Cron where
  Schedule := Unit
  fromStr text := if text = "0 0 * * * *" then .ok () else .error "unknown"
  occurrences _ := {t | ∃ n : ℤ, t = n * seconds 3600}
  after _ t := some ((t / seconds 3600 + 1) * seconds 3600)
  after_spec _ := by
    have hpos : (0 : ℤ) < seconds 3600 := by decide
    refine ⟨fun t u hu => ?_, fun t ht => nomatch ht⟩
    obtain rfl := Option.some.inj hu
    refine ⟨⟨⟨_, rfl⟩, Int.lt_ediv_add_one_mul_self t hpos⟩, ?_⟩
    rintro v ⟨⟨n, rfl⟩, hlt⟩
    have hn : t / seconds 3600 < n := Int.ediv_lt_of_lt_mul hpos hlt
    exact mul_le_mul_of_nonneg_right hn hpos.le

instance : DecidableEq hourly.Schedule := inferInstanceAs (DecidableEq Unit)

theorem parseTaskSchedule_hourly : parseTaskSchedule hourly "0 * * * *" = .ok () := by
  decide +kernel

def hourlyScan (now : DateTime) : Scan ℕ where
  now := now
  answers := [.ok ⟨[⟨⟨7, true, some "0 * * * *"⟩, true⟩], by simp⟩]

theorem scanDueTasks_fires_hourly :
    InOrder ([hourlyScan (seconds 1800), ⟨seconds 3600, [.error "locked"]⟩] ++
      [hourlyScan (seconds 5400)]) ∧
    ∃ due scheduled, scanDueTasks hourly (seconds 5400) (hourlyScan (seconds 5400)).answers
        (run (Tasks.step hourly) ∅ [hourlyScan (seconds 1800), ⟨seconds 3600, [.error "locked"]⟩]) =
      (.ok due, scheduled) ∧ 7 ∈ due.map (·.id) := by
  have hsucceeds : ∀ now, (hourlyScan now).succeeds = true ∧
      (hourlyScan now).observed hourly 7 = some "0 * * * *" := by
    intro now
    simp [Scan.succeeds, Scan.observed, pageTasks, listScheduledPage, hourlyScan,
      TaskTable.selectScheduled, taskScheduledRuntimeScanLimit, validateScheduledTask, observedIn,
      Task.expression, parseTaskSchedule_hourly, Except.isOk, Except.toBool]
  have hfails : Scan.succeeds (⟨seconds 3600, [.error "locked"]⟩ : Scan ℕ) = false := rfl
  have horder : InOrder ([hourlyScan (seconds 1800), ⟨seconds 3600, [.error "locked"]⟩] ++
      [hourlyScan (seconds 5400)]) := by
    simp only [InOrder, cons_append, nil_append, filter_cons, hsucceeds, hfails]
    simp [hourlyScan, seconds]
  obtain ⟨due, scheduled, hscan, -⟩ :=
    scanDueTasks_of_succeeds hourly (hsucceeds (seconds 5400)).1
      (run (Tasks.step hourly) ∅ [hourlyScan (seconds 1800), ⟨seconds 3600, [.error "locked"]⟩])
  have hfires := scanDueTasks_fires_occurrences hourly _ _ horder
  rw [hscan] at hfires
  refine ⟨horder, due, scheduled, hscan, (hfires.2 7).mpr ?_⟩
  refine ⟨hourlyScan (seconds 1800), "0 * * * *", (), ?_, (hsucceeds _).2, (hsucceeds _).2,
    parseTaskSchedule_hourly, seconds 3600, ⟨1, by simp⟩, by decide, by decide⟩
  simp [lastSucceeded, hsucceeds, hfails]

end XLStatus.Tasks
