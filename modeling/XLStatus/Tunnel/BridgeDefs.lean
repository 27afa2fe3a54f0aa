import XLStatus.Agent.IoDefs

/-! The server's end of a NAT tunnel: the loop between the public connection and the
frames of the agent, with every way it can end. -/

namespace XLStatus.Tunnel

open Shared Grpc Agent.Io

def maxNatFrameBytes : ℕ := 64 * 1024

structure Mapping where
  agentId : String
  localHost : String
  localPort : UInt16
  idleTimeoutSeconds : Option ℕ
  maxBytesPerTunnel : Option ℕ

structure PublicWrite where
  length : ℕ
  rest : List UInt8

/-- `received` counts the frames taken from the subscription and `written` are all bytes
written to the public connection. -/
structure Bridge where
  mapping : Mapping
  sequence : UInt64
  sentTotal : ℕ
  receivedTotal : ℕ
  sawReady : Bool
  received : ℕ
  writing : Option PublicWrite
  written : List UInt8
  result : Option (Except String (ℕ × ℕ))

def Bridge.new (mapping : Mapping) : Bridge where
  mapping := mapping
  sequence := 2
  sentTotal := 0
  receivedTotal := 0
  sawReady := false
  received := 0
  writing := none
  written := []
  result := none

variable (codec : Codec) (agentId : AgentId)

def verifyAgentIdMatches (candidate : String) : Bool :=
  let candidate := Text.trim candidate
  candidate != "" && codec.parseUuid candidate == some agentId

def verifyInboundTunnelFrame (tunnelId : String) (frame : IoFrame) : Bool :=
  frame.streamId == tunnelId && verifyAgentIdMatches codec agentId frame.agentId

inductive Verdict where
  | skip
  | ready
  | write (data : List UInt8)
  | oversize (length : ℕ)
  | stop (result : Except String Unit)

def judgePayload (sawReady : Bool) : Option IoPayload → Verdict
  | some (.data data) =>
    if data.length > maxNatFrameBytes then .oversize data.length
    else if sawReady then .write data
    else match codec.decodeNat data with
      | some .ready => .ready
      | some (.open _ _) => .skip
      | none => .write data
  | some (.close _) => .stop (.ok ())
  | some (.error _ message) => .stop (.error ("agent NAT tunnel error: " ++ message))
  | none => .skip

def judge (tunnelId : String) (mapping : Mapping) (sawReady : Bool) (frame : IoFrame) : Verdict :=
  if !verifyInboundTunnelFrame codec agentId tunnelId frame then .skip
  else if !verifyAgentIdMatches codec agentId mapping.agentId then .stop (.ok ())
  else judgePayload codec sawReady frame.payload

namespace Bridge

def selecting (b : Bridge) : Bool := b.result.isNone && b.writing.isNone

def leave (b : Bridge) : Bridge := { b with result := some (.ok (b.sentTotal, b.receivedTotal)) }

def fail (b : Bridge) (e : String) : Bridge := { b with result := some (.error e) }

variable (tunnelId : String)

def closeFrame (b : Bridge) (reason : String) : Tagged :=
  ⟨⟨tunnelId, b.sequence, b.mapping.agentId, some (.close reason)⟩, .server⟩

def closeWith (b : Bridge) (reason : String) (sent : Except String Unit)
    (exit : Bridge → Bridge) : Bridge × List Tagged :=
  match sent with
  | .ok () => (exit b, [b.closeFrame tunnelId reason])
  | .error e => (b.fail e, [])

def exceedsByteLimit (b : Bridge) : Bool :=
  b.mapping.maxBytesPerTunnel.any fun limit => b.sentTotal + b.receivedTotal > limit

def ensureNatByteLimit (b : Bridge) (sent : Except String Unit) : Bridge × List Tagged :=
  if b.exceedsByteLimit then
    b.closeWith tunnelId "NAT tunnel byte limit exceeded" sent
      (·.fail "NAT tunnel byte limit exceeded")
  else (b, [])

def publicRead (b : Bridge) (chunk : List UInt8) (sent closeSent : Except String Unit) :
    Bridge × List Tagged :=
  if !b.selecting || chunk.length > readBufferBytes then (b, [])
  else if chunk = [] then b.closeWith tunnelId "public stream closed" sent .leave
  else match sent with
    | .error e => (b.fail e, [])
    | .ok () =>
      let frame := ⟨tunnelId, b.sequence, b.mapping.agentId, some (.data chunk)⟩
      let (b, close) := { b with
        sentTotal := b.sentTotal + chunk.length
        sequence := saturatingAdd b.sequence 1 }.ensureNatByteLimit tunnelId closeSent
      (b, ⟨frame, .client⟩ :: close)

def publicReadError (b : Bridge) (e : String) : Bridge :=
  if b.selecting then b.fail e else b

def agentFrame (b : Bridge) (inbound : List IoFrame) (sent : Except String Unit) :
    Bridge × List Tagged :=
  if !b.selecting then (b, [])
  else match inbound[b.received]? with
    | none => (b, [])
    | some frame =>
      let b := { b with received := b.received + 1 }
      match judge codec agentId tunnelId b.mapping b.sawReady frame with
      | .skip => (b, [])
      | .ready => ({ b with sawReady := true }, [])
      | .write data => ({ b with sawReady := true, writing := some ⟨data.length, data⟩ }, [])
      | .oversize length =>
        let e := "NAT tunnel frame size " ++ toString length ++ " exceeds maximum " ++
          toString maxNatFrameBytes
        (b.fail e, match sent with
          | .ok () => [b.closeFrame tunnelId "NAT tunnel frame size limit exceeded"]
          | .error _ => [])
      | .stop (.ok ()) => (b.leave, [])
      | .stop (.error e) => (b.fail e, [])

def inboundClosed (b : Bridge) (inbound : List IoFrame) : Bridge :=
  if b.selecting && inbound.length ≤ b.received then b.leave else b

def idleTimeout (b : Bridge) (sent : Except String Unit) : Bridge × List Tagged :=
  if b.selecting && (!b.sawReady || b.mapping.idleTimeoutSeconds.isSome) then
    b.closeWith tunnelId "NAT tunnel idle timeout" sent (·.fail "NAT tunnel idle timeout")
  else (b, [])

def publicWrite (b : Bridge) (n : ℕ) : Bridge :=
  match b.result, b.writing with
  | none, some w =>
    { b with
      written := b.written ++ w.rest.take n
      writing := some { w with rest := w.rest.drop n } }
  | _, _ => b

def publicWritten (b : Bridge) (sent : Except String Unit) : Bridge × List Tagged :=
  match b.result, b.writing with
  | none, some w =>
    if w.rest = [] then
      { b with
        writing := none
        receivedTotal := b.receivedTotal + w.length }.ensureNatByteLimit tunnelId sent
    else (b, [])
  | _, _ => (b, [])

def publicWriteError (b : Bridge) (e : String) : Bridge :=
  match b.result, b.writing with
  | none, some _ => b.fail e
  | _, _ => b

end Bridge

inductive BridgeEvent where
  | publicRead (chunk : List UInt8) (sent closeSent : Except String Unit)
  | publicReadError (e : String)
  | agentFrame (sent : Except String Unit)
  | inboundClosed
  | idleTimeout (sent : Except String Unit)
  | publicWrite (n : ℕ)
  | publicWritten (sent : Except String Unit)
  | publicWriteError (e : String)

def Bridge.step (b : Bridge) (tunnelId : String) (inbound : List IoFrame) :
    BridgeEvent → Bridge × List Tagged
  | .publicRead chunk sent closeSent => b.publicRead tunnelId chunk sent closeSent
  | .publicReadError e => (b.publicReadError e, [])
  | .agentFrame sent => b.agentFrame codec agentId tunnelId inbound sent
  | .inboundClosed => (b.inboundClosed inbound, [])
  | .idleTimeout sent => b.idleTimeout tunnelId sent
  | .publicWrite n => (b.publicWrite n, [])
  | .publicWritten sent => b.publicWritten tunnelId sent
  | .publicWriteError e => (b.publicWriteError e, [])

end XLStatus.Tunnel
