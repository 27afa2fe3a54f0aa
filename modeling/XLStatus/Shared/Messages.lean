import XLStatus.Shared.Ids

/-! The control messages that travel inside the data frames of the IO streams, and the
third-party codecs the two ends use on them. -/

namespace XLStatus.Shared

inductive NatTunnelControlMessage where
  | «open» (localHost : String) (localPort : UInt16)
  | ready
  deriving DecidableEq, Repr

inductive TerminalBridgeMessage where
  | «open» (cols rows : UInt16)
  | input (data : String)
  | resize (cols rows : UInt16)
  | close (reason : Option String)
  | output (data : String)
  | error (message : String)
  deriving DecidableEq, Repr

inductive TerminalClientMessage where
  | input (data : String)
  | resize (cols rows : UInt16)
  | close
  deriving DecidableEq, Repr

/-- What the two ends get from `serde_json` and `uuid`. Nothing is assumed of the
functions here; where a result needs one to be right on a message it says so. -/
structure Codec where
  encodeNat : NatTunnelControlMessage → List UInt8
  decodeNat : List UInt8 → Option NatTunnelControlMessage
  encodeTerminal : TerminalBridgeMessage → List UInt8
  decodeTerminal : List UInt8 → Option TerminalBridgeMessage
  parseUuid : String → Option AgentId

structure Codec.OpensAs (codec : Codec) (localHost : String) (localPort : UInt16) : Prop where
  nat : codec.decodeNat (codec.encodeNat (.open localHost localPort)) =
    some (.open localHost localPort)
  terminal : codec.decodeTerminal (codec.encodeNat (.open localHost localPort)) = none

def saturatingAdd (x y : UInt64) : UInt64 :=
  if x.toNat + y.toNat < 2 ^ 64 then x + y else UInt64.ofNat (2 ^ 64 - 1)

end XLStatus.Shared
