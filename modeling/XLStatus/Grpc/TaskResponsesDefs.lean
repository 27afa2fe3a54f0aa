import XLStatus.Lib.Channel
import XLStatus.Lib.HashMap
import XLStatus.Lib.Transition
import XLStatus.Shared.Ids

/-! The registry of the task runs that wait for their result. Every critical section under the
lock of the map is one step. A receiver that is dropped first takes its own entry out of the map
and closes its channel afterwards, without the lock. -/

namespace XLStatus.Grpc

open Shared

structure TaskResult where
  taskId : String
  status : Int32
  exitCode : Int32
  stdout : String
  stderr : String
  error : String
  startedAt : Int64
  finishedAt : Int64
  agentId : String
  deriving DecidableEq

def maxTaskIdBytes : ℕ := 128
def maxPendingTaskWaiters : ℕ := 4096

def validTaskId (taskId : String) : Bool :=
  taskId != "" && Text.len taskId ≤ maxTaskIdBytes && !taskId.toList.any Text.isControl

def validTaskResultFromAgent (agentId : AgentId) (taskId : String) (result : TaskResult) : Bool :=
  validTaskId taskId && (result.taskId == "" || result.taskId == taskId) &&
    (result.agentId == "" || result.agentId == agentId.text)

structure PendingTaskResponse where
  agentId : AgentId
  registration : ℕ
  deriving DecidableEq

inductive ReceiverPhase where
  | waiting
  | dropping
  | dropped
  deriving DecidableEq

/-- What a call of `register` returned. The agent it was called for is not kept in the source. -/
structure TaskResponseReceiver where
  taskId : String
  agentId : AgentId
  phase : ReceiverPhase
  deriving DecidableEq

structure TaskResponseRegistry where
  pending : HashMap String PendingTaskResponse
  receivers : ℕ → Option TaskResponseReceiver
  channels : ℕ → Channel TaskResult
  registrations : ℕ

namespace TaskResponseRegistry

def init : TaskResponseRegistry where
  pending := ∅
  receivers := fun _ => none
  channels := fun _ => .new 1
  registrations := 0

def pruneClosedTaskWaiters (r : TaskResponseRegistry) : TaskResponseRegistry :=
  { r with pending := r.pending.retain fun _ entry => !(r.channels entry.registration).closed }

def canInsert (r : TaskResponseRegistry) (taskId : String) (agentId : AgentId) : Bool :=
  match r.pending.lookup taskId with
  | some existing => existing.agentId = agentId
  | none => r.pending.len < maxPendingTaskWaiters

def register (r : TaskResponseRegistry) (taskId : String) (agentId : AgentId) :
    TaskResponseRegistry :=
  let registration := r.registrations
  let r := { r with
    receivers := Function.update r.receivers registration (some ⟨taskId, agentId, .waiting⟩)
    registrations := registration + 1 }
  if validTaskId taskId then
    let r := pruneClosedTaskWaiters r
    if r.canInsert taskId agentId then
      { r with pending := r.pending.insert taskId ⟨agentId, registration⟩ }
    else r
  else r

def send (r : TaskResponseRegistry) (n : ℕ) (result : TaskResult) : Bool × TaskResponseRegistry :=
  if (r.channels n).closed then (false, r)
  else (true, { r with channels := Function.update r.channels n ((r.channels n).send result) })

def deliver (r : TaskResponseRegistry) (agentId : AgentId) (taskId : String)
    (result : TaskResult) : Bool × TaskResponseRegistry :=
  if !validTaskResultFromAgent agentId taskId result then (false, r)
  else
    let result := { result with agentId := agentId.text }
    let r := pruneClosedTaskWaiters r
    match r.pending.lookup taskId with
    | none => (false, r)
    | some waiter =>
      if waiter.agentId ≠ agentId then (false, r)
      else send { r with pending := r.pending.erase taskId } waiter.registration result

def cancel (r : TaskResponseRegistry) (taskId : String) : TaskResponseRegistry :=
  let r := pruneClosedTaskWaiters r
  { r with pending := r.pending.erase taskId }

inductive Poll where
  | pending
  | ready (result : Except Unit TaskResult)
  deriving DecidableEq

def poll (r : TaskResponseRegistry) (n : ℕ) : Poll :=
  match (r.channels n).sent.drop (r.channels n).received with
  | result :: _ => .ready (.ok result)
  | [] =>
    if r.pending.entries.any fun e => e.2.registration == n then .pending else .ready (.error ())

def ownsRegistration (r : TaskResponseRegistry) (taskId : String) (n : ℕ) : Bool :=
  (r.pending.lookup taskId).any fun entry => entry.registration == n

def drop (r : TaskResponseRegistry) (n : ℕ) : TaskResponseRegistry :=
  match r.receivers n with
  | some ⟨taskId, agentId, .waiting⟩ =>
    { r with
      pending := if r.ownsRegistration taskId n then r.pending.erase taskId else r.pending
      receivers := Function.update r.receivers n (some ⟨taskId, agentId, .dropping⟩) }
  | _ => r

def dropFields (r : TaskResponseRegistry) (n : ℕ) : TaskResponseRegistry :=
  match r.receivers n with
  | some ⟨taskId, agentId, .dropping⟩ =>
    { r with
      channels := Function.update r.channels n (r.channels n).close
      receivers := Function.update r.receivers n (some ⟨taskId, agentId, .dropped⟩) }
  | _ => r

def recv (r : TaskResponseRegistry) (n : ℕ) : TaskResponseRegistry :=
  match r.receivers n with
  | some ⟨_, _, .waiting⟩ =>
    { r with channels := Function.update r.channels n (r.channels n).recv }
  | _ => r

inductive Event where
  | register (taskId : String) (agentId : AgentId)
  | deliver (agentId : AgentId) (taskId : String) (result : TaskResult)
  | cancel (n : ℕ)
  | poll (n : ℕ)
  | drop (n : ℕ)
  | dropFields (n : ℕ)

def step (r : TaskResponseRegistry) : Event → TaskResponseRegistry
  | .register taskId agentId => r.register taskId agentId
  | .deliver agentId taskId result => (r.deliver agentId taskId result).2
  | .cancel n =>
    match r.receivers n with
    | some receiver => r.cancel receiver.taskId
    | none => r
  | .poll n => r.recv n
  | .drop n => r.drop n
  | .dropFields n => r.dropFields n

end TaskResponseRegistry

end XLStatus.Grpc
