import XLStatus.Auth.ChallengeDefs
import XLStatus.Lib.Occurrence

/-! The task scheduler: what one scan of the `tasks` table reports as due and what it keeps
about each task until the next. -/

namespace XLStatus.Tasks

open Auth

/-- What the scheduler uses of the `cron` crate: reading an expression, and the first
occurrence of a schedule after an instant. -/
structure Cron where
  Schedule : Type
  fromStr : String → Except String Schedule
  occurrences : Schedule → Set DateTime
  after : Schedule → DateTime → Option DateTime
  after_spec : ∀ schedule, NextAfter (occurrences schedule) (after schedule)

def parseTaskSchedule (cron : Cron) (schedule : String) : Except String cron.Schedule :=
  let trimmed := Text.trim schedule
  match (Text.splitWhitespace trimmed).length with
  | 5 => cron.fromStr ("0 " ++ trimmed)
  | 6 | 7 => cron.fromStr trimmed
  | _ => .error "Invalid cron expression"

/-! ## The table

Task identifiers are texts in the order of the database's collation. -/

variable {I : Type} [LinearOrder I]

structure Task (I : Type) where
  id : I
  enabled : Bool
  schedule : Option String
  deriving DecidableEq

/-- A row of `tasks`. It is readable if its other columns decode and the task passes
`validate_task_definition`; other rows are skipped. -/
structure TaskRow (I : Type) extends Task I where
  readable : Bool

structure TaskTable (I : Type) where
  rows : List (TaskRow I)
  primaryKey : (rows.map (·.id)).Nodup

def taskScheduledRuntimeScanLimit : ℕ := 1024

structure ScheduledTaskPage (I : Type) where
  tasks : List (Task I)
  nextCursor : Option I

def TaskTable.selectScheduled (table : TaskTable I) (cursor : Option I) : List (TaskRow I) :=
  let selected := table.rows.filter fun row =>
    row.enabled && row.schedule.isSome && cursor.all (row.id < ·)
  (selected.mergeSort fun a b => b.id ≤ a.id).take taskScheduledRuntimeScanLimit

def validateScheduledTask (row : TaskRow I) : Option (Task I) :=
  if row.readable then some row.toTask else none

def listScheduledPage (table : TaskTable I) (cursor : Option I) : ScheduledTaskPage I :=
  let rows := table.selectScheduled cursor
  { tasks := rows.filterMap validateScheduledTask
    nextCursor :=
      if rows.length = taskScheduledRuntimeScanLimit then rows.getLast?.map (·.id) else none }

structure ScheduledTaskState where
  expression : String
  nextRun : Option DateTime
  deriving DecidableEq

abbrev ScheduledTasks (I : Type) := HashMap I ScheduledTaskState

section Scan

variable (cron : Cron) (now : DateTime)

def updateScheduleState (scheduled : ScheduledTasks I) (taskId : I) (expression : String)
    (schedule : cron.Schedule) : Bool × ScheduledTasks I :=
  let existing := scheduled.lookup taskId
  let expressionChanged := existing.any fun state => state.expression ≠ expression
  let firstObservation := existing.isNone || expressionChanged
  let shouldRun := existing.any fun state =>
    !expressionChanged && state.nextRun.any fun nextRun => nextRun ≤ now
  if firstObservation || shouldRun then
    (shouldRun, scheduled.insert taskId ⟨expression, cron.after schedule now⟩)
  else (shouldRun, scheduled)

structure Scanned (I : Type) where
  scheduled : ScheduledTasks I
  observedTaskIds : List I
  dueTasks : List (Task I)

def Scanned.observe (acc : Scanned I) (task : Task I) : Scanned I :=
  if !task.enabled then acc
  else match task.schedule with
    | none => acc
    | some expression => match parseTaskSchedule cron expression with
      | .error _ => acc
      | .ok schedule =>
        let (due, scheduled) := updateScheduleState cron now acc.scheduled task.id expression
          schedule
        { scheduled, observedTaskIds := task.id :: acc.observedTaskIds
          dueTasks := if due then acc.dueTasks ++ [task] else acc.dueTasks }

inductive ScanError where
  | load (error : String)
  | dropped
  deriving DecidableEq

/-- The loop over the pages. Each page is read from the table as it is at that time; a scan
that gets no further answer is dropped while it waits. -/
def scanPages : List (Except String (TaskTable I)) → Option I → Scanned I →
    Except ScanError (Scanned I)
  | [], _, _ => .error .dropped
  | .error e :: _, _, _ => .error (.load e)
  | .ok table :: answers, cursor, acc =>
    let page := listScheduledPage table cursor
    let acc := page.tasks.foldl (Scanned.observe cron now) acc
    match page.nextCursor with
    | some next => scanPages answers (some next) acc
    | none => .ok acc

def scanDueTasks (answers : List (Except String (TaskTable I))) (scheduled : ScheduledTasks I) :
    Except ScanError (List (Task I)) × ScheduledTasks I :=
  match scanPages cron now answers none ⟨scheduled, [], []⟩ with
  | .error e => (.error e, scheduled)
  | .ok acc => (.ok acc.dueTasks, acc.scheduled.retain fun id _ => id ∈ acc.observedTaskIds)

end Scan

/-- A call of `scan_due_tasks`: its time, and what its page queries are answered. -/
structure Scan (I : Type) where
  now : DateTime
  answers : List (Except String (TaskTable I))

def step (cron : Cron) (scheduled : ScheduledTasks I) (scan : Scan I) : ScheduledTasks I :=
  (scanDueTasks cron scan.now scan.answers scheduled).2

end XLStatus.Tasks
