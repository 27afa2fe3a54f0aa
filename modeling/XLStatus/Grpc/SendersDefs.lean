import XLStatus.Lib.Channel
import XLStatus.Lib.HashMap
import XLStatus.Shared.Ids

/-! The senders of the agents' connections, one per agent, and the sends that wait for a
slot in them. Every critical section is one step; a send looks its sender up, waits
for a slot without holding a lock, and checks again before it places its message. -/

namespace XLStatus.Grpc

open Shared

abbrev ChannelId := ℕ

/-- A registered sender. Its registration stands for its change channel, which is
signalled exactly when the registration is replaced or removed. -/
structure RegisteredSender where
  sender : ChannelId
  registration : ℕ
  deriving DecidableEq

inductive SendPhase where
  | lookup
  | waiting (sender : ChannelId) (registration : ℕ)
  | reserveFailed (sender : ChannelId)
  | permitted (sender : ChannelId)
  | done (result : Except String Unit)

structure SendCall (M : Type) where
  agentId : AgentId
  value : M
  phase : SendPhase

structure SendErrors where
  missing : String
  closed : String
  timeout : String

/-- `owner` is the agent whose connection a channel was made for. -/
structure Senders (M : Type) where
  current : HashMap AgentId RegisteredSender
  revoked : Finset AgentId
  channels : ChannelId → Channel M
  owner : ChannelId → Option AgentId
  sends : ℕ → Option (SendCall M)
  registrations : ℕ

namespace Senders

variable {M : Type}

def init : Senders M where
  current := ∅
  revoked := ∅
  channels := fun _ => .new 0
  owner := fun _ => none
  sends := fun _ => none
  registrations := 0

def connect (s : Senders M) (c : ChannelId) (a : AgentId) (capacity : ℕ) : Senders M :=
  if s.owner c = none then
    { s with
      channels := Function.update s.channels c (.new capacity)
      owner := Function.update s.owner c (some a) }
  else s

def register (s : Senders M) (a : AgentId) (c : ChannelId) : Bool × Senders M :=
  if a ∈ s.revoked then (false, s)
  else (true, { s with
    current := s.current.insert a ⟨c, s.registrations⟩
    registrations := s.registrations + 1 })

def isCurrent (s : Senders M) (a : AgentId) (c : ChannelId) : Bool :=
  (s.current.lookup a).any fun r => r.sender == c

def unregister (s : Senders M) (a : AgentId) (c : ChannelId) : Bool × Senders M :=
  if s.isCurrent a c then (true, { s with current := s.current.erase a }) else (false, s)

def markRevoked (s : Senders M) (a : AgentId) : Senders M :=
  { s with revoked := insert a s.revoked }

def remove (s : Senders M) (a : AgentId) : Senders M := { s with current := s.current.erase a }

def updateChannel (s : Senders M) (c : ChannelId) (f : Channel M → Channel M) : Senders M :=
  { s with channels := Function.update s.channels c (f (s.channels c)) }

def setSend (s : Senders M) (i : ℕ) (call : SendCall M) (phase : SendPhase) : Senders M :=
  { s with sends := Function.update s.sends i (some { call with phase }) }

def beginSend (s : Senders M) (i : ℕ) (a : AgentId) (value : M) : Senders M :=
  match s.sends i with
  | none => { s with sends := Function.update s.sends i (some ⟨a, value, .lookup⟩) }
  | some _ => s

def revokedError : String := "Agent has been revoked"

inductive SendStep where
  | lookup
  | changed
  | reserve
  | recheck
  | commit
  | timeout
  | drop
  deriving DecidableEq

def releasePermit (s : Senders M) : SendPhase → Senders M
  | .permitted c => s.updateChannel c .release
  | _ => s

def lookupSend (errors : SendErrors) (s : Senders M) (i : ℕ) (call : SendCall M) : Senders M :=
  if call.agentId ∈ s.revoked then s.setSend i call (.done (.error revokedError))
  else match s.current.lookup call.agentId with
    | none => s.setSend i call (.done (.error errors.missing))
    | some r => s.setSend i call (.waiting r.sender r.registration)

def recheckSend (errors : SendErrors) (s : Senders M) (i : ℕ) (call : SendCall M)
    (c : ChannelId) : Senders M :=
  if call.agentId ∈ s.revoked then s.setSend i call (.done (.error revokedError))
  else match s.current.lookup call.agentId with
    | none => s.setSend i call (.done (.error errors.missing))
    | some r =>
      if r.sender ≠ c then s.setSend i call .lookup
      else s.setSend i call (.done (.error errors.closed))

def commitSend (errors : SendErrors) (s : Senders M) (i : ℕ) (call : SendCall M)
    (c : ChannelId) : Senders M :=
  if call.agentId ∈ s.revoked then
    (s.updateChannel c .release).setSend i call (.done (.error revokedError))
  else match s.current.lookup call.agentId with
    | none => (s.updateChannel c .release).setSend i call (.done (.error errors.missing))
    | some r =>
      if r.sender = c then
        (s.updateChannel c (·.sendPermit call.value)).setSend i call (.done (.ok ()))
      else (s.updateChannel c .release).setSend i call .lookup

def stepSend (errors : SendErrors) (s : Senders M) (i : ℕ) (step : SendStep) : Senders M :=
  match s.sends i with
  | none => s
  | some call =>
    match step, call.phase with
    | .lookup, .lookup => lookupSend errors s i call
    | .changed, .waiting _ registration =>
      if (s.current.lookup call.agentId).any (·.registration == registration) then s
      else s.setSend i call .lookup
    | .reserve, .waiting c _ =>
      if (s.channels c).closed then s.setSend i call (.reserveFailed c)
      else if (s.channels c).hasRoom then
        (s.updateChannel c .reserve).setSend i call (.permitted c)
      else s
    | .recheck, .reserveFailed c => recheckSend errors s i call c
    | .commit, .permitted c => commitSend errors s i call c
    | .timeout, .done _ => s
    | .timeout, phase => (s.releasePermit phase).setSend i call (.done (.error errors.timeout))
    | .drop, phase =>
      { s.releasePermit phase with sends := Function.update s.sends i none }
    | _, _ => s

end Senders
end XLStatus.Grpc
