import XLStatus.Lib.Utf8
import XLStatus.Transfers.TokensDefs

/-! Dispatching a task to one agent: the rows of `task_runs`, the dispatches in progress and the
cleanups of cancelled ones, one statement or message at a time. -/

namespace XLStatus.Tasks

open Shared
open Transfers (TaskResult TaskOutcome Reply)

def taskResultStdoutMaxBytes : ℕ := 64 * 1024
def taskResultStderrMaxBytes : ℕ := 64 * 1024
def taskResultErrorMaxBytes : ℕ := 16 * 1024

def taskRunCancellationError : String := "task dispatch was cancelled before completion"
def taskRunCancellationCleanupAttempts : ℕ := 10
def taskRunRestartError : String := "Server restarted before the task result was received"

structure TaskResultTextTruncation where
  stdout : Bool
  stderr : Bool
  error : Bool
  deriving DecidableEq

def TaskResultTextTruncation.any (t : TaskResultTextTruncation) : Bool :=
  t.stdout || t.stderr || t.error

def truncateUtf8ToBytes (value : String) (maxBytes : ℕ) : String × Bool :=
  if Text.len value ≤ maxBytes then (value, false) else (Utf8.truncate value maxBytes, true)

def truncateTaskResultText (result : TaskResult) (stdoutMax stderrMax errorMax : ℕ) :
    TaskResult × TaskResultTextTruncation :=
  let stdout := truncateUtf8ToBytes result.stdout stdoutMax
  let stderr := truncateUtf8ToBytes result.stderr stderrMax
  let error := truncateUtf8ToBytes result.error errorMax
  ({ result with stdout := stdout.1, stderr := stderr.1, error := error.1 },
    { stdout := stdout.2, stderr := stderr.2, error := error.2 })

inductive TaskStatus where
  | success
  | failure
  | timeout
  | offline
  deriving DecidableEq, Repr

def TaskStatus.statusStr : TaskStatus → String
  | .offline => "pending"
  | .success => "success"
  | .failure => "failed"
  | .timeout => "timeout"

def parseTaskStatus : String → TaskStatus
  | "pending" | "running" => .offline
  | "success" => .success
  | "failed" => .failure
  | "timeout" => .timeout
  | _ => .failure

/-- Run identifiers are version 7 UUIDs that are only compared: the `n`-th one given out is `n`. -/
abbrev RunId := ℕ

structure RunResult where
  status : TaskStatus
  delayMs : ℤ
  output : Option String
  outputTruncated : Bool
  error : Option String
  deriving DecidableEq

structure TaskRun where
  id : RunId
  taskId : String
  serverId : String
  status : TaskStatus
  delayMs : Option ℤ
  output : Option String
  outputTruncated : Bool
  error : Option String
  createdAt : String
  deriving DecidableEq

structure TaskRunRow where
  taskId : String
  serverId : String
  status : String
  delayMs : Option ℤ
  output : Option String
  outputTruncated : Bool
  error : Option String
  createdAt : String
  deriving DecidableEq

abbrev TaskRuns := HashMap RunId TaskRunRow

namespace TaskRunRow

def settle (error : String) (row : TaskRunRow) : TaskRunRow :=
  if row.status = "pending" then { row with status := "failed", error := some error } else row

def toTaskRun (id : RunId) (row : TaskRunRow) : TaskRun :=
  { id, taskId := row.taskId, serverId := row.serverId, status := parseTaskStatus row.status,
    delayMs := row.delayMs, output := row.output, outputTruncated := row.outputTruncated,
    error := row.error, createdAt := row.createdAt }

end TaskRunRow

namespace TaskRunRepository

def create (runs : TaskRuns) (run : TaskRun) : TaskRuns :=
  runs.insert run.id
    { taskId := run.taskId, serverId := run.serverId, status := run.status.statusStr,
      delayMs := run.delayMs, output := run.output, outputTruncated := run.outputTruncated,
      error := run.error, createdAt := run.createdAt }

def updateResult (runs : TaskRuns) (runId : RunId) (result : RunResult) : TaskRuns :=
  runs.mapVal fun id row =>
    if id = runId then
      { row with
        status := result.status.statusStr
        delayMs := some result.delayMs
        output := result.output
        outputTruncated := result.outputTruncated
        error := result.error }
    else row

def settlePendingAfterCancellation (runs : TaskRuns) (runId : RunId) (error : String) :
    TaskRuns × Bool :=
  (runs.mapVal fun id row => if id = runId then row.settle error else row,
    (runs.lookup runId).any (·.status == "pending"))

def settlePendingAfterRestart (runs : TaskRuns) (error : String) : TaskRuns :=
  runs.mapVal fun _ row => row.settle error

end TaskRunRepository

/-- What a dispatch waits for: whether the agent is connected, that the task is sent, that its
row is inserted (as it ended, or as pending), the agent's result, or that the row is updated. -/
inductive Phase where
  | online
  | send
  | create (result : RunResult)
  | createPending
  | await
  | update (result : RunResult)
  deriving DecidableEq

def Phase.armed : Phase → Bool
  | .createPending | .await | .update _ => true
  | _ => false

structure Dispatch where
  taskId : String
  serverId : String
  createdAt : String
  phase : Phase
  dropped : Bool
  deriving DecidableEq

def RunResult.failed (delayMs : ℤ) (error : String) : RunResult :=
  { status := .failure, delayMs, output := none, outputTruncated := false, error := some error }

def RunResult.agentOffline : RunResult :=
  { status := .offline, delayMs := 0, output := none, outputTruncated := false,
    error := some "agent offline" }

def RunResult.pending : RunResult :=
  { status := .offline, delayMs := 0, output := none, outputTruncated := false, error := none }

def RunResult.serverTimeout (elapsed : ℤ) : RunResult :=
  { status := .timeout, delayMs := elapsed, output := none, outputTruncated := false,
    error := some "server-side timeout" }

def taskStatusOf : TaskOutcome → TaskStatus
  | .success => .success
  | .timeout => .timeout
  | .failure | .unspecified => .failure

def RunResult.received (result : TaskResult) (elapsed : ℤ) : RunResult :=
  let (result, textTruncation) := truncateTaskResultText result taskResultStdoutMaxBytes
    taskResultStderrMaxBytes taskResultErrorMaxBytes
  let stderr := if result.stderr.isEmpty then none else some result.stderr
  { status := taskStatusOf result.status
    delayMs := elapsed
    output := if result.stdout.isEmpty then none else some result.stdout
    outputTruncated := textTruncation.any
    error := if result.error.isEmpty then stderr else some result.error }

namespace Dispatch

variable (d : Dispatch)

def run (id : RunId) (result : RunResult) : TaskRun :=
  { id, taskId := d.taskId, serverId := d.serverId, status := result.status,
    delayMs := some result.delayMs, output := result.output,
    outputTruncated := result.outputTruncated, error := result.error, createdAt := d.createdAt }

def statement (id : RunId) (runs : TaskRuns) : Option TaskRuns :=
  match d.phase with
  | .create result => some (TaskRunRepository.create runs (d.run id result))
  | .createPending => some (TaskRunRepository.create runs (d.run id .pending))
  | .update result => some (TaskRunRepository.updateResult runs id result)
  | _ => none

end Dispatch

/-- The server, with the runs that dispatches have returned and the attempts left to each cleanup. -/
structure State where
  runs : TaskRuns
  dispatches : HashMap RunId Dispatch
  cleanups : HashMap RunId ℕ
  issued : ℕ
  returned : List TaskRun

inductive Event where
  | start (taskId agentId createdAt : String)
  | online (id : RunId) (online : Bool)
  | sent (id : RunId) (error : Option String)
  | received (id : RunId) (result : TaskResult) (elapsed : ℤ)
  | closed (id : RunId)
  | timeout (id : RunId) (elapsed : ℤ)
  | answer (id : RunId) (reply : Reply)
  | cancel (id : RunId)
  | cleanup (id : RunId) (reply : Reply)
  | restart (reply : Reply)

def executed (reply : Reply) : Bool := decide (reply ≠ .failed)

namespace State

variable (st : State)

def abandon (id : RunId) (phase : Phase) : HashMap RunId ℕ :=
  if phase.armed then st.cleanups.insert id taskRunCancellationCleanupAttempts else st.cleanups

def start (taskId agentId createdAt : String) : State :=
  let phase := match parseUuid agentId with
    | some _ => .online
    | none => .create (.failed 0 "invalid agent id")
  { st with
    issued := st.issued + 1
    dispatches := st.dispatches.insert st.issued
      { taskId, serverId := agentId, createdAt, phase, dropped := false } }

def advance (id : RunId) (next : Phase → Option Phase) : State :=
  match st.dispatches.lookup id with
  | none => st
  | some d => match next d.phase with
    | none => st
    | some phase =>
      if d.dropped then st else { st with dispatches := st.dispatches.insert id { d with phase } }

def nextOnline (online : Bool) : Phase → Option Phase
  | .online => some (if online then .send else .create .agentOffline)
  | _ => none

def nextSent (error : Option String) : Phase → Option Phase
  | .send => some (match error with
    | none => .createPending
    | some error => .create (.failed 0 error))
  | _ => none

def nextAwaited (result : RunResult) : Phase → Option Phase
  | .await => some (.update result)
  | _ => none

def succeed (id : RunId) (d : Dispatch) : State :=
  match d.phase with
  | .create result | .update result =>
    { st with
      dispatches := st.dispatches.erase id
      returned := d.run id result :: st.returned }
  | .createPending =>
    { st with dispatches := st.dispatches.insert id { d with phase := .await } }
  | _ => st

def answer (id : RunId) (reply : Reply) : State :=
  match st.dispatches.lookup id with
  | none => st
  | some d => match d.statement id st.runs with
    | none => st
    | some runs =>
      let st := { st with runs := if executed reply then runs else st.runs }
      if d.dropped then { st with dispatches := st.dispatches.erase id }
      else if reply = .done then st.succeed id d
      else
        { st with
          dispatches := st.dispatches.erase id
          cleanups := st.abandon id d.phase }

def cancel (id : RunId) : State :=
  match st.dispatches.lookup id with
  | none => st
  | some d =>
    if d.dropped then st
    else
      { st with
        dispatches := match d.statement id st.runs with
          | none => st.dispatches.erase id
          | some _ => st.dispatches.insert id { d with dropped := true }
        cleanups := st.abandon id d.phase }

def cleanup (id : RunId) (reply : Reply) : State :=
  match st.cleanups.lookup id with
  | none => st
  | some attempts =>
    let (runs, settled) :=
      TaskRunRepository.settlePendingAfterCancellation st.runs id taskRunCancellationError
    { st with
      runs := if executed reply then runs else st.runs
      cleanups :=
        if (reply = .done ∧ settled = true) ∨ attempts ≤ 1 then st.cleanups.erase id
        else st.cleanups.insert id (attempts - 1) }

def restart (reply : Reply) : State :=
  { st with
    runs := if executed reply then
      TaskRunRepository.settlePendingAfterRestart st.runs taskRunRestartError else st.runs
    dispatches := ∅
    cleanups := ∅ }

def step (st : State) : Event → State
  | .start taskId agentId createdAt => st.start taskId agentId createdAt
  | .online id online => st.advance id (nextOnline online)
  | .sent id error => st.advance id (nextSent error)
  | .received id result elapsed => st.advance id (nextAwaited (.received result elapsed))
  | .closed id => st.advance id (nextAwaited (.failed 0 "agent disconnected before reply"))
  | .timeout id elapsed => st.advance id (nextAwaited (.serverTimeout elapsed))
  | .answer id reply => st.answer id reply
  | .cancel id => st.cancel id
  | .cleanup id reply => st.cleanup id reply
  | .restart reply => st.restart reply

end State

def initial : State :=
  { runs := ∅, dispatches := ∅, cleanups := ∅, issued := 0, returned := [] }

end XLStatus.Tasks
