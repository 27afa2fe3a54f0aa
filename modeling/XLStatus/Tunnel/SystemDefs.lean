import XLStatus.Tunnel.BridgeDefs

/-! One agent and the server: the tunnels and the terminal sockets send to the agent over
one stream, and the agent's frames come back by stream identifier. Both directions keep
the order and lose nothing. -/

namespace XLStatus.Tunnel

open Shared Grpc Agent.Io

/-- `toAgent` are the frames the agent has not taken yet. Identifiers are never used
twice: `terminals` are those of the terminal sockets, with their next sequence numbers. -/
structure System where
  agent : Session
  toAgent : List Tagged
  bridges : String → Option Bridge
  terminals : HashMap String UInt64

def System.init (disableCommandExecute disableNat : Bool) : System where
  agent := .init disableCommandExecute disableNat
  toAgent := []
  bridges := fun _ => none
  terminals := ∅

def sanitizeCols (cols : UInt16) : UInt16 := max 20 (min cols 240)
def sanitizeRows (rows : UInt16) : UInt16 := max 8 (min rows 80)

namespace System

variable (codec : Codec) (agentId : AgentId)

def inbound (st : System) (streamId : String) : List IoFrame :=
  (st.agent.sent.filter (·.streamId = streamId)).map ({ · with agentId := agentId.text })

def unused (st : System) (streamId : String) : Bool :=
  (st.bridges streamId).isNone && (st.terminals.lookup streamId).isNone

def openTunnel (st : System) (tunnelId : String) (mapping : Mapping) : System :=
  if st.unused tunnelId && codec.parseUuid mapping.agentId == some agentId then
    { st with
      bridges := Function.update st.bridges tunnelId (some (.new mapping))
      toAgent := st.toAgent ++ [⟨⟨tunnelId, 1, mapping.agentId,
        some (.data (codec.encodeNat (.open mapping.localHost mapping.localPort)))⟩, .server⟩] }
  else st

def stepBridge (st : System) (tunnelId : String) (e : BridgeEvent) : System :=
  match st.bridges tunnelId with
  | none => st
  | some b =>
    let (b, frames) := b.step codec agentId tunnelId (st.inbound agentId tunnelId) e
    { st with
      bridges := Function.update st.bridges tunnelId (some b)
      toAgent := st.toAgent ++ frames }

def buildDataFrame (sessionId : String) (sequence : UInt64) (message : TerminalBridgeMessage) :
    Tagged :=
  ⟨⟨sessionId, sequence, agentId.text, some (.data (codec.encodeTerminal message))⟩, .server⟩

def buildCloseFrame (sessionId : String) (sequence : UInt64) (reason : String) : Tagged :=
  ⟨⟨sessionId, sequence, agentId.text, some (.close reason)⟩, .server⟩

def openTerminal (st : System) (sessionId : String) (cols rows : UInt16) : System :=
  if st.unused sessionId then
    { st with
      terminals := st.terminals.insert sessionId 2
      toAgent := st.toAgent ++ [buildDataFrame codec agentId sessionId 1 (.open cols rows)] }
  else st

def browserMessage (st : System) (sessionId : String) (message : TerminalClientMessage) : System :=
  match st.terminals.lookup sessionId with
  | none => st
  | some sequence =>
    let forward := fun message : TerminalBridgeMessage =>
      { st with
        terminals := st.terminals.insert sessionId (sequence + 1)
        toAgent := st.toAgent ++ [buildDataFrame codec agentId sessionId sequence message] }
    match message with
    | .input data => forward (.input data)
    | .resize cols rows => forward (.resize (sanitizeCols cols) (sanitizeRows rows))
    | .close =>
      { st with
        toAgent := st.toAgent ++ [buildCloseFrame agentId sessionId sequence "browser closed"] }

def browserGone (st : System) (sessionId : String) : System :=
  match st.terminals.lookup sessionId with
  | none => st
  | some sequence =>
    { st with
      toAgent := st.toAgent ++
        [buildCloseFrame agentId sessionId sequence "browser disconnected"] }

def receive (st : System) (result : Except String Unit) : System :=
  match st.agent.handler, st.toAgent with
  | .idle, x :: rest =>
    { st with agent := st.agent.handleIoFrame codec agentId x result, toAgent := rest }
  | _, _ => st

end System

inductive Event where
  | openTunnel (tunnelId : String) (mapping : Mapping)
  | bridge (tunnelId : String) (e : BridgeEvent)
  | openTerminal (sessionId : String) (cols rows : UInt16)
  | browserMessage (sessionId : String) (message : TerminalClientMessage)
  | browserGone (sessionId : String)
  | receive (result : Except String Unit)
  | agent (e : SessionEvent)

def System.step (codec : Codec) (agentId : AgentId) (st : System) : Event → System
  | .openTunnel tunnelId mapping => st.openTunnel codec agentId tunnelId mapping
  | .bridge tunnelId e => st.stepBridge codec agentId tunnelId e
  | .openTerminal sessionId cols rows => st.openTerminal codec agentId sessionId cols rows
  | .browserMessage sessionId message => st.browserMessage codec agentId sessionId message
  | .browserGone sessionId => st.browserGone agentId sessionId
  | .receive result => st.receive codec agentId result
  | .agent e => { st with agent := st.agent.step codec agentId e }

end XLStatus.Tunnel
