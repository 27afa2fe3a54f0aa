import XLStatus.Agent.ConfigDefs
import XLStatus.Tunnel.SystemDefs

/-! A terminal socket of the server with its two tasks, the agent it is for, and the stream
between them. Frames keep their order and none is lost. -/

namespace XLStatus.Terminal

open Shared Grpc Agent.Io Checked
open XLStatus.Agent (Json)
open Tunnel (sanitizeCols sanitizeRows)
open Tunnel.System (buildDataFrame buildCloseFrame)

def maxTerminalSessions : ℕ := 16
def terminalMaxSessionIdBytes : ℕ := 256
def terminalMaxClientTextBytes : ℕ := 16 * 1024
def terminalMaxInputBytes : ℕ := 8 * 1024
def terminalMaxAgentFrameBytes : ℕ := 64 * 1024
def terminalMaxCloseReasonBytes : ℕ := 1024
def terminalMaxErrorBytes : ℕ := 4096

inductive TerminalServerMessage where
  | ready (sessionId : String)
  | output (data : String)
  | closed (reason : String)
  | error (message : String)
  deriving DecidableEq

/-- What the server uses of `serde_json` on the browser's messages, and the lossy reading of
bytes as text. -/
structure SocketCodec where
  clientMessage : String → Option TerminalClientMessage
  jsonValue : String → Option Json
  clientMessageOfValue : Json → Option TerminalClientMessage
  fromUtf8Lossy : List UInt8 → String

structure Env where
  codec : Codec
  socketCodec : SocketCodec
  agentId : AgentId
  sessionId : String
  cols : UInt16
  rows : UInt16

def takeBytes : ℕ → List Char → List Char
  | _, [] => []
  | n, c :: cs => if c.utf8Size ≤ n then c :: takeBytes (n - c.utf8Size) cs else []

def limitTerminalText (value : String) (maxBytes : ℕ) : String :=
  if Text.len value ≤ maxBytes then value else String.ofList (takeBytes maxBytes value.toList)

def normalizeTerminalClientMessage : TerminalClientMessage → TerminalClientMessage
  | .input data => .input (limitTerminalText data terminalMaxInputBytes)
  | .resize cols rows => .resize (sanitizeCols cols) (sanitizeRows rows)
  | .close => .close

def parseClientMessage (codec : SocketCodec) (text : String) : Option TerminalClientMessage :=
  if Text.len text > terminalMaxClientTextBytes then none
  else match codec.clientMessage text with
    | some message => some (normalizeTerminalClientMessage message)
    | none => do
      let value ← codec.jsonValue text
      let get (key : String) : Option Json := value.asObject.bind (·.lookup key)
      let dimension (key : String) (default : UInt16) : UInt16 :=
        (((get key).bind Json.asU64).map fun v =>
          if v.toNat < 2 ^ 16 then v.toUInt16 else 65535).getD default
      let ty := ((get "type").bind Json.asStr).getD ""
      if ty = "terminal.input" ∨ ty = "input" then
        return .input (limitTerminalText (((get "data").bind Json.asStr).getD "")
          terminalMaxInputBytes)
      else if ty = "terminal.resize" ∨ ty = "resize" then
        return normalizeTerminalClientMessage
          (.resize (dimension "cols" 80) (dimension "rows" 24))
      else if ty = "terminal.close" ∨ ty = "close" then return .close
      else return normalizeTerminalClientMessage (← codec.clientMessageOfValue value)

def mapAgentFrame (env : Env) (frame : IoFrame) : Option TerminalServerMessage :=
  match frame.payload with
  | some (.data data) =>
    if data.length > terminalMaxAgentFrameBytes then
      some (.error "terminal output frame is too large")
    else match env.codec.decodeTerminal data with
      | some (.output data) => some (.output (limitTerminalText data terminalMaxAgentFrameBytes))
      | some (.close reason) =>
        some (.closed ((reason.map (limitTerminalText · terminalMaxCloseReasonBytes)).getD
          "terminal closed"))
      | some (.error message) => some (.error (limitTerminalText message terminalMaxErrorBytes))
      | some _ => none
      | none => some (.output (limitTerminalText (env.socketCodec.fromUtf8Lossy data)
          terminalMaxAgentFrameBytes))
  | some (.close reason) => some (.closed (limitTerminalText reason terminalMaxCloseReasonBytes))
  | some (.error _ message) => some (.error (limitTerminalText message terminalMaxErrorBytes))
  | none => none

inductive BrowserMessage where
  | text (text : String)
  | close
  | error
  | other
  | ended
  deriving DecidableEq

/-- The task that reads the browser: between two messages, about to send a frame, or at its
end, with whether it has sent a close frame. -/
inductive RecvTask where
  | notStarted
  | waiting (sequence : UInt64)
  | forwarding (sequence : UInt64) (message : TerminalBridgeMessage)
  | closing (sequence : UInt64) (reason : String)
  | finished (closeSent : Bool)
  | cancelled
  deriving DecidableEq

inductive SendTask where
  | notStarted
  | waiting
  | writing (message : TerminalServerMessage)
  | finished
  | cancelled
  deriving DecidableEq

inductive Stage where
  | subscribing
  | opening
  | failing
  | greeting
  | running
  | removing
  | unsubscribing
  | returned
  deriving DecidableEq, Repr

structure Socket where
  stage : Stage
  subscribed : Bool
  inbound : List IoFrame
  recvTask : RecvTask
  recvAborted : Bool
  sendTask : SendTask
  sendAborted : Bool
  deriving DecidableEq

def Socket.init : Socket where
  stage := .subscribing
  subscribed := false
  inbound := []
  recvTask := .notStarted
  recvAborted := false
  sendTask := .notStarted
  sendAborted := false

namespace Socket

variable (env : Env) (s : Socket)

def browser (message : BrowserMessage) : Socket :=
  match s.recvTask with
  | .waiting sequence => match message with
    | .text text => match parseClientMessage env.socketCodec text with
      | some (.input data) => { s with recvTask := .forwarding sequence (.input data) }
      | some (.resize cols rows) =>
        { s with
          recvTask := .forwarding sequence (.resize (sanitizeCols cols) (sanitizeRows rows)) }
      | some .close => { s with recvTask := .closing sequence "browser closed" }
      | none => s
    | .close | .error => { s with recvTask := .closing sequence "browser disconnected" }
    | .other => s
    | .ended => { s with recvTask := .finished false }
  | _ => s

def forward : Socket × List Tagged :=
  match s.recvTask with
  | .forwarding sequence message =>
    ({ s with recvTask := .waiting (sequence + 1) },
      [buildDataFrame env.codec env.agentId env.sessionId sequence message])
  | .closing sequence reason =>
    ({ s with recvTask := .finished true },
      [buildCloseFrame env.agentId env.sessionId sequence reason])
  | _ => (s, [])

def takeInbound : Socket :=
  match s.sendTask, s.inbound with
  | .waiting, frame :: rest => match mapAgentFrame env frame with
    | some message => { s with inbound := rest, sendTask := .writing message }
    | none => { s with inbound := rest }
  | .waiting, [] => if s.subscribed then s else { s with sendTask := .finished }
  | _, _ => s

def write (ok : Bool) : Socket :=
  match s.sendTask with
  | .writing message =>
    if !ok then { s with sendTask := .finished }
    else match message with
      | .closed _ => { s with sendTask := .finished }
      | _ => { s with sendTask := .waiting }
  | _ => s

def select : Socket :=
  match s.stage with
  | .running => match s.recvTask, s.sendTask with
    | .finished _, _ => { s with sendAborted := true, stage := .removing }
    | _, .finished => { s with recvAborted := true, stage := .removing }
    | _, _ => s
  | _ => s

def cancelRecv : Socket :=
  match s.recvTask with
  | .notStarted | .finished _ => s
  | _ => if s.recvAborted then { s with recvTask := .cancelled } else s

def cancelSend : Socket :=
  match s.sendTask with
  | .notStarted | .finished => s
  | _ => if s.sendAborted then { s with sendTask := .cancelled } else s

end Socket

/-- A terminal session of the agent; its guard is gone once the session was closed. -/
structure TerminalSession where
  streamId : String
  slotGuard : Bool
  deriving DecidableEq

def TerminalSession.close (terminal : TerminalSession) : TerminalSession :=
  { terminal with slotGuard := false }

/-- `terminals` are the terminal sessions the agent has made, by their numbers; `toAgent` are
the frames the agent has not taken yet, and `taken` counts those of its own frames that the
server has. -/
structure System where
  agent : Session
  terminals : List TerminalSession
  toAgent : List Tagged
  taken : ℕ
  socket : Socket

def System.init (disableCommandExecute disableNat : Bool) : System where
  agent := .init disableCommandExecute disableNat
  terminals := []
  toAgent := []
  taken := 0
  socket := .init

def activeTerminalSessions (terminals : List TerminalSession) : ℕ := terminals.countP (·.slotGuard)

def validateSessionId (sessionId : String) : Except String Unit := do
  ensure (!(Text.trim sessionId).isEmpty) "Terminal session_id must not be empty"
  ensure (Text.len sessionId ≤ terminalMaxSessionIdBytes)
    ("Terminal session_id exceeds maximum length of " ++ toString terminalMaxSessionIdBytes ++
      " bytes")
  ensure (!(sessionId.toList.contains '\x00' || sessionId.toList.any Text.isControl))
    "Terminal session_id contains disallowed control characters"

def newTerminalSession (terminals : List TerminalSession) (sessionId : String)
    (spawned : Except String Unit) : Except String Unit := do
  validateSessionId sessionId
  ensure (activeTerminalSessions terminals < maxTerminalSessions)
    ("Maximum concurrent terminal sessions (" ++ toString maxTerminalSessions ++ ") reached")
  spawned

namespace System

variable (env : Env) (st : System)

def sendOpen (result : Except String Unit) : System :=
  match st.socket.stage, result with
  | .opening, .ok () =>
    { st with
      socket := { st.socket with stage := .greeting }
      toAgent := st.toAgent ++
        [buildDataFrame env.codec env.agentId env.sessionId 1 (.open env.cols env.rows)] }
  | .opening, .error _ => { st with socket := { st.socket with stage := .failing } }
  | _, _ => st

def greet : System :=
  match st.socket.stage with
  | .failing => { st with socket := { st.socket with stage := .removing } }
  | .greeting =>
    { st with
      socket := { st.socket with stage := .running, recvTask := .waiting 2, sendTask := .waiting } }
  | _ => st

def terminalsAfter (streamId : String) (agent : Session) : List TerminalSession :=
  match st.agent.terminalSessions.lookup streamId, agent.terminalSessions.lookup streamId with
  | some n, none => st.terminals.modify n TerminalSession.close
  | none, some _ => st.terminals ++ [⟨streamId, true⟩]
  | _, _ => st.terminals

def receive (result : Except String Unit) : System :=
  match st.agent.handler, st.toAgent with
  | .idle, x :: rest =>
    let result := match st.agent.terminalSessions.lookup x.frame.streamId with
      | none => newTerminalSession st.terminals x.frame.streamId result
      | some _ => result
    let agent := st.agent.handleIoFrame env.codec env.agentId x result
    { st with
      agent, toAgent := rest
      terminals := st.terminalsAfter x.frame.streamId agent }
  | _, _ => st

def deliver : System :=
  match st.agent.sent[st.taken]? with
  | none => st
  | some frame =>
    if frame.streamId = env.sessionId ∧ st.socket.subscribed ∧
        validIoFrameFromAgent env.agentId frame then
      { st with
        taken := st.taken + 1
        socket := { st.socket with
          inbound := st.socket.inbound ++ [{ frame with agentId := env.agentId.text }] } }
    else { st with taken := st.taken + 1 }

end System

inductive Event where
  | subscribe (accepted : Bool)
  | sendOpen (result : Except String Unit)
  | greet
  | browser (message : BrowserMessage)
  | forward
  | takeInbound
  | write (ok : Bool)
  | select
  | cancelRecv
  | cancelSend
  | remove
  | unsubscribe
  | receive (result : Except String Unit)
  | agent (e : SessionEvent)
  | deliver
  | other (x : Tagged)

def System.step (env : Env) (st : System) : Event → System
  | .subscribe accepted =>
    if st.socket.stage = .subscribing then
      { st with socket := { st.socket with stage := .opening, subscribed := accepted } }
    else st
  | .sendOpen result => st.sendOpen env result
  | .greet => st.greet
  | .browser message => { st with socket := st.socket.browser env message }
  | .forward =>
    let (socket, frames) := st.socket.forward env
    { st with socket, toAgent := st.toAgent ++ frames }
  | .takeInbound => { st with socket := st.socket.takeInbound env }
  | .write ok => { st with socket := st.socket.write ok }
  | .select => { st with socket := st.socket.select }
  | .cancelRecv => { st with socket := st.socket.cancelRecv }
  | .cancelSend => { st with socket := st.socket.cancelSend }
  | .remove =>
    if st.socket.stage = .removing then
      { st with socket := { st.socket with stage := .unsubscribing } }
    else st
  | .unsubscribe =>
    if st.socket.stage = .unsubscribing then
      { st with socket := { st.socket with stage := .returned, subscribed := false } }
    else st
  | .receive result => st.receive env result
  | .agent e => { st with agent := st.agent.step env.codec env.agentId e }
  | .deliver => st.deliver env
  | .other x =>
    if x.frame.streamId = env.sessionId then st else { st with toAgent := st.toAgent ++ [x] }

end XLStatus.Terminal
