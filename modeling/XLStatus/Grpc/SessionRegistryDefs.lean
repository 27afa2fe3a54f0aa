import XLStatus.Grpc.SendersDefs
import XLStatus.Lib.Transition

/-! The registry of the agents' sessions: the senders, the broadcasts that are under way
and the disconnects between their two critical sections. -/

namespace XLStatus.Grpc

open Shared

/-- A broadcast holds the senders it found and serves them one after the other, in the
order of the map, which may be any. -/
structure Broadcast (M : Type) where
  message : M
  senders : List ChannelId

structure SessionRegistry (M : Type) where
  sessions : Senders M
  broadcasts : ℕ → Option (Broadcast M)
  disconnects : ℕ → Option AgentId

namespace SessionRegistry

variable {M : Type}

def init : SessionRegistry M where
  sessions := .init
  broadcasts := fun _ => none
  disconnects := fun _ => none

def sendErrors : SendErrors where
  missing := "Agent session not found"
  closed := "Agent session channel is closed"
  timeout := "Timed out waiting for Agent session capacity"

def sessionCapacity : ℕ := 128

def isOnline (r : SessionRegistry M) (a : AgentId) : Bool := decide (a ∈ r.sessions.current)

inductive Event (M : Type) where
  | connect (c : ChannelId) (a : AgentId)
  | register (a : AgentId) (c : ChannelId)
  | unregister (a : AgentId) (c : ChannelId)
  | disconnectMark (call : ℕ) (a : AgentId)
  | disconnectRemove (call : ℕ)
  | send (call : ℕ) (a : AgentId) (message : M)
  | sendStep (call : ℕ) (step : Senders.SendStep)
  | broadcast (call : ℕ) (message : M)
  | broadcastSend (call : ℕ) (c : ChannelId)
  | broadcastDrop (call : ℕ)
  | recv (c : ChannelId)
  | closeReceiver (c : ChannelId)

def currentSenders (s : Senders M) : List ChannelId :=
  s.current.entries.map fun e => e.2.sender

def broadcastSend (r : SessionRegistry M) (call : ℕ) (b : Broadcast M) (c : ChannelId) :
    SessionRegistry M :=
  let rest : Broadcast M := { b with senders := b.senders.erase c }
  if (r.sessions.channels c).closed then
    { r with broadcasts := Function.update r.broadcasts call (some rest) }
  else if (r.sessions.channels c).hasRoom then
    { r with
      sessions := r.sessions.updateChannel c (·.send b.message)
      broadcasts := Function.update r.broadcasts call (some rest) }
  else r

def step (r : SessionRegistry M) : Event M → SessionRegistry M
  | .connect c a => { r with sessions := r.sessions.connect c a sessionCapacity }
  | .register a c =>
    if r.sessions.owner c = some a then { r with sessions := (r.sessions.register a c).2 } else r
  | .unregister a c => { r with sessions := (r.sessions.unregister a c).2 }
  | .disconnectMark call a =>
    match r.disconnects call with
    | none =>
      { r with
        sessions := r.sessions.markRevoked a
        disconnects := Function.update r.disconnects call (some a) }
    | some _ => r
  | .disconnectRemove call =>
    match r.disconnects call with
    | none => r
    | some a =>
      { r with
        sessions := r.sessions.remove a
        disconnects := Function.update r.disconnects call none }
  | .send call a message => { r with sessions := r.sessions.beginSend call a message }
  | .sendStep call step => { r with sessions := r.sessions.stepSend sendErrors call step }
  | .broadcast call message =>
    match r.broadcasts call with
    | none =>
      { r with
        broadcasts :=
          Function.update r.broadcasts call (some ⟨message, currentSenders r.sessions⟩) }
    | some _ => r
  | .broadcastSend call c =>
    match r.broadcasts call with
    | none => r
    | some b => if c ∈ b.senders then broadcastSend r call b c else r
  | .broadcastDrop call => { r with broadcasts := Function.update r.broadcasts call none }
  | .recv c => { r with sessions := r.sessions.updateChannel c .recv }
  | .closeReceiver c => { r with sessions := r.sessions.updateChannel c .close }

end SessionRegistry
end XLStatus.Grpc
