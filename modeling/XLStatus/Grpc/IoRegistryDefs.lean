import XLStatus.Grpc.SendersDefs
import XLStatus.Lib.Transition

/-! The registry of the agents' IO streams: the streams of the agents, the subscribers of
the stream identifiers, the deliveries and the close notices that are under way. -/

namespace XLStatus.Grpc

open Shared

inductive IoPayload where
  | data (bytes : List UInt8)
  | close (reason : String)
  | error (code message : String)
  deriving DecidableEq, Repr

structure IoFrame where
  streamId : String
  sequence : UInt64
  agentId : String
  payload : Option IoPayload
  deriving DecidableEq, Repr

def ioStreamClosedCode : String := "agent_io_stream_closed"
def maxIoStreamIdBytes : ℕ := 128
def maxIoFrameDataBytes : ℕ := 1024 * 1024
def maxIoControlTextBytes : ℕ := 4096
def maxActiveIoStreams : ℕ := 1024
def ioSubscriberCapacity : ℕ := 128

def validIoStreamId (streamId : String) : Bool :=
  streamId != "" && Text.len streamId ≤ maxIoStreamIdBytes && !streamId.toList.any Text.isControl

def validIoFrameFromAgent (agentId : AgentId) (frame : IoFrame) : Bool :=
  validIoStreamId frame.streamId && (frame.agentId == "" || frame.agentId == agentId.text) &&
    match frame.payload with
    | some (.data bytes) => bytes.length ≤ maxIoFrameDataBytes
    | some (.close reason) => Text.len reason ≤ maxIoControlTextBytes
    | some (.error code message) =>
      Text.len code ≤ maxIoStreamIdBytes && Text.len message ≤ maxIoControlTextBytes
    | none => true

def closeNotice (streamId : String) (agentId : AgentId) (reason : String) : IoFrame where
  streamId := streamId
  sequence := 0
  agentId := agentId.text
  payload := some (.error ioStreamClosedCode reason)

structure IoSubscriber where
  agentId : AgentId
  sender : ℕ
  deriving DecidableEq

/-- Where a delivery stands between two steps. A delivery waits on the change channel
first and on a slot second; the two are polled one after the other. -/
inductive DeliveryPhase where
  | missing
  | waiting (sender : ℕ)
  | polled (sender : ℕ)
  | ended (sender : ℕ) (delivered : Bool)
  | returned (delivered : Bool)
  deriving DecidableEq

structure Delivery where
  frame : IoFrame
  phase : DeliveryPhase

def Delivery.target (d : Delivery) : Option ℕ :=
  match d.phase with
  | .waiting n | .polled n => some n
  | _ => none

structure Notice where
  streamId : String
  sender : ℕ
  agentId : AgentId
  reason : String
  deriving DecidableEq

def Notice.frame (x : Notice) : IoFrame := closeNotice x.streamId x.agentId x.reason

/-- `receivers` are the channels `subscribe_stream` returned, numbered in their order;
`notified` are the change channels that were signalled. -/
structure IoRegistry where
  streams : Senders IoFrame
  subscribers : HashMap String IoSubscriber
  receivers : ℕ → Channel IoFrame
  notified : ℕ → Bool
  nextReceiver : ℕ
  deliveries : ℕ → Option Delivery
  notices : List Notice
  disconnects : ℕ → Option AgentId

namespace IoRegistry

def init : IoRegistry where
  streams := .init
  subscribers := ∅
  receivers := fun _ => .new ioSubscriberCapacity
  notified := fun _ => false
  nextReceiver := 0
  deliveries := fun _ => none
  notices := []
  disconnects := fun _ => none

def sendErrors : SendErrors where
  missing := "Agent IO stream not found"
  closed := "Agent IO stream channel is closed"
  timeout := "Timed out waiting for Agent IO stream capacity"

def ioStreamCapacity : ℕ := 128

def isAgentOnline (r : IoRegistry) (a : AgentId) : Bool := decide (a ∈ r.streams.current)

def isOpen (r : IoRegistry) (sub : IoSubscriber) : Bool := !(r.receivers sub.sender).closed

def holds (m : HashMap String IoSubscriber) (n : ℕ) : Bool :=
  m.entries.any fun e => e.2.sender == n

def pruneClosedIoSubscribers (r : IoRegistry) : IoRegistry :=
  { r with
    subscribers := r.subscribers.retain fun _ sub => r.isOpen sub
    notified := fun n => r.notified n || (holds r.subscribers n && (r.receivers n).closed) }

def agentEntries (m : HashMap String IoSubscriber) (a : AgentId) (reason : String) : List Notice :=
  (m.entries.filter fun e => e.2.agentId == a).map fun e => ⟨e.1, e.2.sender, a, reason⟩

def takeAgentSubscribers (r : IoRegistry) (a : AgentId) (reason : String) : IoRegistry :=
  { r with
    subscribers := r.subscribers.retain fun _ sub => sub.agentId != a
    notices := r.notices ++ agentEntries r.subscribers a reason }

def notifySubscriber (r : IoRegistry) (sub : Option IoSubscriber) : IoRegistry :=
  match sub with
  | none => r
  | some sub => { r with notified := Function.update r.notified sub.sender true }

def registerAgent (r : IoRegistry) (a : AgentId) (c : ChannelId) : Bool × IoRegistry :=
  if a ∈ r.streams.revoked then (false, r)
  else
    let r' := { r with streams := (r.streams.register a c).2 }
    match r.streams.current.lookup a with
    | none => (true, r')
    | some _ => (true, takeAgentSubscribers r' a "Agent IO stream was replaced")

def unregisterAgent (r : IoRegistry) (a : AgentId) (c : ChannelId) : Bool × IoRegistry :=
  if r.streams.isCurrent a c then
    (true, takeAgentSubscribers { r with streams := r.streams.remove a } a
      "Agent IO stream disconnected")
  else (false, r)

def disconnectTake (r : IoRegistry) (a : AgentId) : IoRegistry :=
  takeAgentSubscribers { r with streams := r.streams.remove a } a "Agent was revoked"

def subscribeStream (r : IoRegistry) (streamId : String) (a : AgentId) : IoRegistry :=
  let sub : IoSubscriber := ⟨a, r.nextReceiver⟩
  let r := { r with nextReceiver := r.nextReceiver + 1 }
  if !validIoStreamId streamId then r
  else if a ∈ r.streams.revoked then r
  else if a ∉ r.streams.current then r
  else
    let r := pruneClosedIoSubscribers r
    match r.subscribers.lookup streamId with
    | some existing =>
      if existing.agentId ≠ a then r
      else notifySubscriber { r with subscribers := r.subscribers.insert streamId sub } existing
    | none =>
      if r.subscribers.len ≥ maxActiveIoStreams then r
      else { r with subscribers := r.subscribers.insert streamId sub }

def unsubscribeStream (r : IoRegistry) (streamId : String) : IoRegistry :=
  let r := pruneClosedIoSubscribers r
  notifySubscriber { r with subscribers := r.subscribers.erase streamId }
    (r.subscribers.lookup streamId)

def sendToAgent (r : IoRegistry) (call : ℕ) (a : AgentId) (frame : IoFrame) : IoRegistry :=
  let failed := fun e =>
    { r with streams := r.streams.setSend call ⟨a, frame, .lookup⟩ (.done (.error e)) }
  if (r.streams.sends call).isSome then r
  else if frame.agentId != "" && frame.agentId != a.text then
    failed "IoFrame agent_id does not match target Agent"
  else if frame.streamId != "" && (r.subscribers.lookup frame.streamId).any fun sub =>
      r.isOpen sub && sub.agentId != a then
    failed "IO stream is bound to a different Agent"
  else { r with streams := r.streams.beginSend call a frame }

def deliverFromAgent (r : IoRegistry) (call : ℕ) (a : AgentId) (frame : IoFrame) : IoRegistry :=
  let frame' := { frame with agentId := a.text }
  let phase :=
    if !validIoFrameFromAgent a frame then .returned false
    else match (r.subscribers.lookup frame.streamId).filter
        fun sub => sub.agentId == a && r.isOpen sub with
      | some sub => .waiting sub.sender
      | none => .missing
  match r.deliveries call with
  | none => { r with deliveries := Function.update r.deliveries call (some ⟨frame', phase⟩) }
  | some _ => r

inductive DeliverStep where
  | poll
  | send
  | timeout
  | finish
  deriving DecidableEq

def setDelivery (r : IoRegistry) (call : ℕ) (d : Delivery) (phase : DeliveryPhase) : IoRegistry :=
  { r with deliveries := Function.update r.deliveries call (some { d with phase }) }

def stepDelivery (r : IoRegistry) (call : ℕ) (step : DeliverStep) : IoRegistry :=
  match r.deliveries call with
  | none => r
  | some d =>
    match step, d.phase with
    | .poll, .waiting n =>
      if r.notified n then r.setDelivery call d (.ended n false)
      else r.setDelivery call d (.polled n)
    | .send, .polled n =>
      if (r.receivers n).closed then r.setDelivery call d (.ended n false)
      else if (r.receivers n).hasRoom then
        { r with
          receivers := Function.update r.receivers n ((r.receivers n).send d.frame) }.setDelivery
          call d (.ended n true)
      else r.setDelivery call d (.waiting n)
    | .timeout, .waiting n => r.setDelivery call d (.ended n false)
    | .finish, .ended n delivered =>
      if !delivered && (r.receivers n).closed then
        (pruneClosedIoSubscribers r).setDelivery call d (.returned delivered)
      else r.setDelivery call d (.returned delivered)
    | .finish, .missing => (pruneClosedIoSubscribers r).setDelivery call d (.returned false)
    | _, _ => r

def notify (r : IoRegistry) (x : Notice) : IoRegistry :=
  let r' := { r with
    notified := Function.update r.notified x.sender true
    notices := r.notices.erase x }
  if !(r.receivers x.sender).closed && (r.receivers x.sender).hasRoom then
    { r' with
      receivers := Function.update r.receivers x.sender ((r.receivers x.sender).send x.frame) }
  else r'

inductive Event where
  | connect (c : ChannelId) (a : AgentId)
  | registerAgent (a : AgentId) (c : ChannelId)
  | unregisterAgent (a : AgentId) (c : ChannelId)
  | disconnectMark (call : ℕ) (a : AgentId)
  | disconnectTake (call : ℕ)
  | subscribeStream (streamId : String) (a : AgentId)
  | unsubscribeStream (streamId : String)
  | sendToAgent (call : ℕ) (a : AgentId) (frame : IoFrame)
  | sendStep (call : ℕ) (step : Senders.SendStep)
  | deliverFromAgent (call : ℕ) (a : AgentId) (frame : IoFrame)
  | deliverStep (call : ℕ) (step : DeliverStep)
  | notify (x : Notice)
  | recvAgent (c : ChannelId)
  | closeAgent (c : ChannelId)
  | recv (n : ℕ)
  | closeReceiver (n : ℕ)

def step (r : IoRegistry) : Event → IoRegistry
  | .connect c a => { r with streams := r.streams.connect c a ioStreamCapacity }
  | .registerAgent a c => if r.streams.owner c = some a then (registerAgent r a c).2 else r
  | .unregisterAgent a c => (unregisterAgent r a c).2
  | .disconnectMark call a =>
    match r.disconnects call with
    | none =>
      { r with
        streams := r.streams.markRevoked a
        disconnects := Function.update r.disconnects call (some a) }
    | some _ => r
  | .disconnectTake call =>
    match r.disconnects call with
    | none => r
    | some a =>
      { disconnectTake r a with disconnects := Function.update r.disconnects call none }
  | .subscribeStream streamId a => subscribeStream r streamId a
  | .unsubscribeStream streamId => unsubscribeStream r streamId
  | .sendToAgent call a frame => sendToAgent r call a frame
  | .sendStep call step => { r with streams := r.streams.stepSend sendErrors call step }
  | .deliverFromAgent call a frame => deliverFromAgent r call a frame
  | .deliverStep call step => stepDelivery r call step
  | .notify x => if x ∈ r.notices then notify r x else r
  | .recvAgent c => { r with streams := r.streams.updateChannel c .recv }
  | .closeAgent c => { r with streams := r.streams.updateChannel c .close }
  | .recv n => { r with receivers := Function.update r.receivers n (r.receivers n).recv }
  | .closeReceiver n => { r with receivers := Function.update r.receivers n (r.receivers n).close }

end IoRegistry
end XLStatus.Grpc
