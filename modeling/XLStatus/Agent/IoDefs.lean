import XLStatus.Grpc.IoRegistryDefs
import XLStatus.Shared.Messages

/-! The agent's side of the IO stream: the dispatcher of the frames the server sends, the
terminal sessions and NAT sessions it keeps, and the tasks it spawns. Frames are handled
one after the other; the tasks run between any two steps of the handler. -/

namespace XLStatus.Agent.Io

open Shared Grpc

inductive Origin where
  | server
  | client
  deriving DecidableEq, Repr

structure Tagged where
  frame : IoFrame
  origin : Origin
  deriving DecidableEq

inductive Act where
  | createTerminal (cols rows : UInt16)
  | terminalInput (data : String)
  | dial (localHost : String) (localPort : UInt16)
  deriving DecidableEq

structure Caused where
  act : Act
  cause : Tagged
  deriving DecidableEq

inductive Handler where
  | idle
  | dialing (x : Tagged) (localHost : String) (localPort : UInt16)
  | opened (x : Tagged) (conn : ℕ)
  | inserted (x : Tagged) (conn : ℕ)
  | natWrite (x : Tagged) (payload : List UInt8) (conn : ℕ)
  | replying (frame : IoFrame)
  deriving DecidableEq

inductive Reader where
  | reading
  | sending (chunk : List UInt8)
  | ending (frame : IoFrame)
  | removing
  | done
  deriving DecidableEq

inductive Writer where
  | writing
  | failing (error : String)
  | closed
  deriving DecidableEq

/-- A connection to a target: the frame that opened it, all bytes read from the target so
far, the two tasks and the channel between the handler and the writer. -/
structure Conn where
  cause : Tagged
  readSequence : UInt64
  produced : List UInt8
  reader : Reader
  aborted : Bool
  queue : List (List UInt8)
  writer : Writer
  deriving DecidableEq

def Conn.streamId (c : Conn) : String := c.cause.frame.streamId

def Conn.new (x : Tagged) : Conn where
  cause := x
  readSequence := saturatingAdd x.frame.sequence 2
  produced := []
  reader := .reading
  aborted := false
  queue := []
  writer := .writing

structure OutputLoop where
  streamId : String
  sequence : UInt64
  deriving DecidableEq

/-- `sent` are all frames given to the outgoing stream and `acts` what was done, both in
their order. -/
structure Session where
  disableCommandExecute : Bool
  disableNat : Bool
  terminalSessions : HashMap String ℕ
  natSessions : HashMap String ℕ
  conns : ℕ → Option Conn
  nextConn : ℕ
  outputLoops : ℕ → Option OutputLoop
  nextTerminal : ℕ
  handler : Handler
  sent : List IoFrame
  acts : List Caused

def Session.init (disableCommandExecute disableNat : Bool) : Session where
  disableCommandExecute := disableCommandExecute
  disableNat := disableNat
  terminalSessions := ∅
  natSessions := ∅
  conns := fun _ => none
  nextConn := 0
  outputLoops := fun _ => none
  nextTerminal := 0
  handler := .idle
  sent := []
  acts := []

def readBufferBytes : ℕ := 8192
def writerCapacity : ℕ := 64

section Frames

variable (agentId : AgentId) (streamId : String) (sequence : UInt64)

def ioRawDataFrame (data : List UInt8) : IoFrame :=
  ⟨streamId, sequence, agentId.text, some (.data data)⟩

def ioCloseFrame (reason : String) : IoFrame :=
  ⟨streamId, sequence, agentId.text, some (.close reason)⟩

def ioErrorFrame (code message : String) : IoFrame :=
  ⟨streamId, sequence, agentId.text, some (.error code message)⟩

end Frames

def formatNatTargetLabel (host : String) (port : UInt16) : String :=
  if host.contains ':' && !host.startsWith "[" then
    "[" ++ host ++ "]:" ++ toString port.toNat
  else host ++ ":" ++ toString port.toNat

namespace Session

variable (codec : Codec) (agentId : AgentId)

def replyWith (a : Session) (frame : IoFrame) : Session := { a with handler := .replying frame }

def replyError (a : Session) (x : Tagged) (code message : String) : Session :=
  a.replyWith (ioErrorFrame agentId x.frame.streamId x.frame.sequence code message)

def closeTerminalSession (a : Session) (x : Tagged) (reason : String) : Session :=
  { a with terminalSessions := a.terminalSessions.erase x.frame.streamId }.replyWith
    (ioRawDataFrame agentId x.frame.streamId x.frame.sequence
      (codec.encodeTerminal (.close (some reason))))

def closeNatSession (a : Session) (streamId : String) : Session :=
  match a.natSessions.lookup streamId with
  | none => a
  | some k =>
    { a with
      natSessions := a.natSessions.erase streamId
      conns := Function.update a.conns k ((a.conns k).map fun c => { c with aborted := true }) }

def handleNewTerminalSession (a : Session) (x : Tagged) (result : Except String Unit) :
    TerminalBridgeMessage → Session
  | .open cols rows =>
    if a.disableCommandExecute then
      a.replyError agentId x "command_execution_disabled"
        "terminal access is disabled by agent policy"
    else match result with
      | .ok () =>
        { a with
          terminalSessions := a.terminalSessions.insert x.frame.streamId a.nextTerminal
          outputLoops := Function.update a.outputLoops a.nextTerminal
            (some ⟨x.frame.streamId, saturatingAdd x.frame.sequence 1⟩)
          nextTerminal := a.nextTerminal + 1
          acts := a.acts ++ [⟨.createTerminal cols rows, x⟩] }
      | .error e => a.replyError agentId x "terminal_open_failed" e
  | .input _ | .resize _ _ | .close _ =>
    a.replyError agentId x "terminal_not_open" "terminal session is not open"
  | .output _ | .error _ => a

def handleTerminalMessage (a : Session) (x : Tagged) (payload : List UInt8)
    (result : Except String Unit) : Session :=
  if a.disableCommandExecute then
    { a with terminalSessions := a.terminalSessions.erase x.frame.streamId }.replyError agentId x
      "command_execution_disabled" "terminal access is disabled by agent policy"
  else match codec.decodeTerminal payload with
    | none =>
      a.replyError agentId x "invalid_terminal_message"
        "could not decode terminal control message"
    | some (.input data) =>
      let a := { a with acts := a.acts ++ [⟨.terminalInput data, x⟩] }
      match result with
      | .ok () => a
      | .error e => a.replyError agentId x "terminal_input_failed" e
    | some (.resize _ _) =>
      match result with
      | .ok () => a
      | .error e => a.replyError agentId x "terminal_resize_failed" e
    | some (.close reason) => a.closeTerminalSession codec agentId x (reason.getD "terminal closed")
    | some (.open _ _) | some (.output _) | some (.error _) => a

def handleNatControlMessage (a : Session) (x : Tagged) (message : NatTunnelControlMessage) :
    Session :=
  if a.disableNat then
    a.replyError agentId x "nat_disabled" "NAT is disabled by agent policy"
  else match message with
    | .open localHost localPort =>
      { a with
        handler := .dialing x localHost localPort
        acts := a.acts ++ [⟨.dial localHost localPort, x⟩] }
    | .ready => a

def handleData (a : Session) (x : Tagged) (payload : List UInt8) (result : Except String Unit) :
    Session :=
  if (a.terminalSessions.lookup x.frame.streamId).isSome then
    a.handleTerminalMessage codec agentId x payload result
  else match a.natSessions.lookup x.frame.streamId with
    | some k =>
      if a.disableNat then
        (a.closeNatSession x.frame.streamId).replyError agentId x "nat_disabled"
          "NAT is disabled by agent policy"
      else { a with handler := .natWrite x payload k }
    | none => match codec.decodeTerminal payload with
      | some message => a.handleNewTerminalSession agentId x result message
      | none => match codec.decodeNat payload with
        | some message => a.handleNatControlMessage agentId x message
        | none =>
          a.replyError agentId x "invalid_io_message"
            "could not decode terminal or NAT control message"

def handleIoFrame (a : Session) (x : Tagged) (result : Except String Unit) : Session :=
  match x.frame.payload with
  | some (.data payload) => a.handleData codec agentId x payload result
  | some (.close reason) =>
    if (a.terminalSessions.lookup x.frame.streamId).isSome then
      a.closeTerminalSession codec agentId x reason
    else if (a.natSessions.lookup x.frame.streamId).isSome then
      (a.closeNatSession x.frame.streamId).replyWith
        (ioCloseFrame agentId x.frame.streamId x.frame.sequence reason)
    else a
  | some (.error _ _) | none => a

def send (a : Session) (frame : IoFrame) : Session := { a with sent := a.sent ++ [frame] }

def setConn (a : Session) (k : ℕ) (c : Conn) : Session :=
  { a with conns := Function.update a.conns k (some c) }

def connected (a : Session) (result : Except String Unit) : Session :=
  match a.handler, result with
  | .dialing x _ _, .ok () =>
    { a.setConn a.nextConn (.new x) with
      nextConn := a.nextConn + 1
      handler := .opened x a.nextConn }
  | .dialing x localHost localPort, .error e =>
    a.replyError agentId x "nat_open_failed"
      ("failed to connect to " ++ formatNatTargetLabel localHost localPort ++ ": " ++ e)
  | _, _ => a

def insertSession (a : Session) : Session :=
  match a.handler with
  | .opened x k =>
    { a with
      natSessions := a.natSessions.insert x.frame.streamId k
      handler := .inserted x k }
  | _ => a

def reply (a : Session) : Session :=
  match a.handler with
  | .inserted x _ =>
    { a with handler := .idle }.send
      (ioRawDataFrame agentId x.frame.streamId (saturatingAdd x.frame.sequence 1)
        (codec.encodeNat .ready))
  | .replying frame => { a with handler := .idle }.send frame
  | _ => a

def natSend (a : Session) : Session :=
  match a.handler with
  | .natWrite x payload k => match a.conns k with
    | none => a
    | some c =>
      if c.writer = .closed then
        (a.closeNatSession x.frame.streamId).replyWith
          (ioCloseFrame agentId x.frame.streamId x.frame.sequence "NAT writer channel closed")
      else if c.queue.length < writerCapacity then
        { a.setConn k { c with queue := c.queue ++ [payload] } with handler := .idle }
      else a
  | _ => a

def onConn (a : Session) (k : ℕ) (f : Conn → Session) : Session :=
  match a.conns k with
  | none => a
  | some c => f c

def read (a : Session) (k : ℕ) (chunk : List UInt8) : Session :=
  a.onConn k fun c =>
    if c.reader = .reading ∧ chunk.length ≤ readBufferBytes then
      a.setConn k
        { c with
          produced := c.produced ++ chunk
          reader := if chunk = [] then
              .ending (ioCloseFrame agentId c.streamId c.readSequence "local NAT stream closed")
            else .sending chunk }
    else a

def readError (a : Session) (k : ℕ) (e : String) : Session :=
  a.onConn k fun c =>
    if c.reader = .reading then
      a.setConn k
        { c with
          reader := .ending (ioErrorFrame agentId c.streamId c.readSequence "nat_read_failed" e) }
    else a

def sendChunk (a : Session) (k : ℕ) : Session :=
  a.onConn k fun c => match c.reader with
    | .sending chunk =>
      (a.setConn k
        { c with
          reader := .reading
          readSequence := saturatingAdd c.readSequence 1 }).send
        (ioRawDataFrame agentId c.streamId c.readSequence chunk)
    | _ => a

def sendEnd (a : Session) (k : ℕ) : Session :=
  a.onConn k fun c => match c.reader with
    | .ending frame => (a.setConn k { c with reader := .removing }).send frame
    | _ => a

def removeSession (a : Session) (k : ℕ) : Session :=
  a.onConn k fun c => match c.reader with
    | .removing =>
      { a.setConn k { c with reader := .done } with
        natSessions := a.natSessions.erase c.streamId }
    | _ => a

def cancel (a : Session) (k : ℕ) : Session :=
  a.onConn k fun c => if c.aborted then a.setConn k { c with reader := .done } else a

def writeTarget (a : Session) (k : ℕ) (result : Except String Unit) : Session :=
  a.onConn k fun c => match c.writer, c.queue with
    | .writing, _ :: queue => match result with
      | .ok () => a.setConn k { c with queue }
      | .error e => a.setConn k { c with queue, writer := .failing e }
    | _, _ => a

def writerEnd (a : Session) (k : ℕ) : Session :=
  a.onConn k fun c => match c.writer with
    | .failing e =>
      (a.setConn k { c with writer := .closed }).send
        (ioErrorFrame agentId c.streamId (saturatingAdd c.cause.frame.sequence 1)
          "nat_write_failed" e)
    | _ => a

def terminalOutput (a : Session) (n : ℕ) (data : String) : Session :=
  match a.outputLoops n with
  | none => a
  | some loop =>
    { a with
      outputLoops := Function.update a.outputLoops n
        (some { loop with sequence := saturatingAdd loop.sequence 1 }) }.send
      (ioRawDataFrame agentId loop.streamId loop.sequence (codec.encodeTerminal (.output data)))

def terminalExit (a : Session) (n : ℕ) : Session :=
  match a.outputLoops n with
  | none => a
  | some loop =>
    { a with outputLoops := Function.update a.outputLoops n none }.send
      (ioRawDataFrame agentId loop.streamId loop.sequence
        (codec.encodeTerminal (.close (some "terminal exited"))))

end Session

inductive SessionEvent where
  | configure (disableCommandExecute disableNat : Bool)
  | connected (result : Except String Unit)
  | insertSession
  | reply
  | natSend
  | read (k : ℕ) (chunk : List UInt8)
  | readError (k : ℕ) (e : String)
  | sendChunk (k : ℕ)
  | sendEnd (k : ℕ)
  | removeSession (k : ℕ)
  | cancel (k : ℕ)
  | writeTarget (k : ℕ) (result : Except String Unit)
  | writerEnd (k : ℕ)
  | terminalOutput (n : ℕ) (data : String)
  | terminalExit (n : ℕ)

def Session.step (codec : Codec) (agentId : AgentId) (a : Session) : SessionEvent → Session
  | .configure disableCommandExecute disableNat =>
    if a.handler = .idle then { a with disableCommandExecute, disableNat } else a
  | .connected result => a.connected agentId result
  | .insertSession => a.insertSession
  | .reply => a.reply codec agentId
  | .natSend => a.natSend agentId
  | .read k chunk => a.read agentId k chunk
  | .readError k e => a.readError agentId k e
  | .sendChunk k => a.sendChunk agentId k
  | .sendEnd k => a.sendEnd k
  | .removeSession k => a.removeSession k
  | .cancel k => a.cancel k
  | .writeTarget k result => a.writeTarget k result
  | .writerEnd k => a.writerEnd agentId k
  | .terminalOutput n data => a.terminalOutput codec agentId n data
  | .terminalExit n => a.terminalExit codec agentId n

end XLStatus.Agent.Io
