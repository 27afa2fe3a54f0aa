import XLStatus.Lib.IpAddr

/-! The address classifiers that guard outbound connections: the server's block
list, the copies in the task validator and in the agent, and the two NAT target
policies of the agent. -/

namespace XLStatus.Net

namespace Security

def isBlockedIpv4 (ip : Ipv4Addr) : Bool :=
  ip.isPrivate
    || ip.isLoopback
    || ip.isLinkLocal
    || ip.isMulticast
    || ip.isUnspecified
    || ip.isDocumentation
    || ip.isBroadcast
    || ip.o0 == 0
    || 224 ≤ ip.o0
    || (ip.o0 == 100 && (64 ≤ ip.o1 && ip.o1 ≤ 127))
    || (ip.o0 == 169 && ip.o1 == 254)
    || (ip.o0 == 192 && ip.o1 == 0 && ip.o2 == 0)
    || (ip.o0 == 192 && ip.o1 == 88 && ip.o2 == 99)
    || (ip.o0 == 198 && (18 ≤ ip.o1 && ip.o1 ≤ 19))
    || ip == ⟨255, 255, 255, 255⟩

def ipv4FromSegments (hi lo : UInt16) : Ipv4Addr :=
  ⟨(hi >>> 8).toUInt8, hi.toUInt8, (lo >>> 8).toUInt8, lo.toUInt8⟩

def embeddedIpv4 (ip : Ipv6Addr) : Option Ipv4Addr :=
  match ip.toIpv4Mapped with
  | some mapped => some mapped
  | none =>
    if ip.prefix6 = [0, 0, 0, 0, 0, 0] ∨ ip.prefix6 = [0, 0, 0, 0, 0xffff, 0] then
      some (ipv4FromSegments ip.s6 ip.s7)
    else if ip.prefix6 = [0x0064, 0xff9b, 0, 0, 0, 0] ∨
        (ip.s0 = 0x0064 ∧ ip.s1 = 0xff9b ∧ ip.s2 = 1) then
      some (ipv4FromSegments ip.s6 ip.s7)
    else if ip.s0 = 0x2002 then
      some (ipv4FromSegments ip.s1 ip.s2)
    else none

def isBlockedIpv6 (ip : Ipv6Addr) : Bool :=
  ip.isLoopback
    || ip.isUnspecified
    || ip.isMulticast
    || ip.s0 &&& 0xfe00 == 0xfc00
    || ip.s0 &&& 0xffc0 == 0xfe80
    || ip.s0 &&& 0xffc0 == 0xfec0
    || (ip.s0 == 0x2001 && ip.s1 == 0x0db8)
    || ip.s0 &&& 0xfff0 == 0x3ff0
    || (ip.s0 == 0x2001 && ip.s1 < 0x0200)
    || (ip.s0 == 0x0100 && [ip.s1, ip.s2, ip.s3] == [0, 0, 0])
    || ip.prefix6 == [0, 0, 0, 0, 0, 0]
    || ip.prefix6 == [0, 0, 0, 0, 0xffff, 0]
    || ip.prefix6 == [0x0064, 0xff9b, 0, 0, 0, 0]
    || (ip.s0 == 0x0064 && ip.s1 == 0xff9b && ip.s2 == 0x0001)
    || ((embeddedIpv4 ip).map isBlockedIpv4).getD false

def isBlockedIp : IpAddr → Bool
  | .v4 ip => isBlockedIpv4 ip
  | .v6 ip => isBlockedIpv6 ip

end Security

/-! The task validator and the agent hold the same shorter list, each in a copy
of its own. -/

namespace Tasks

def isBlockedTaskIpv4 (ip : Ipv4Addr) : Bool :=
  ip.isPrivate
    || ip.isLoopback
    || ip.isLinkLocal
    || ip.isMulticast
    || ip.isUnspecified
    || ip.isDocumentation
    || ip.o0 == 0
    || 224 ≤ ip.o0
    || (ip.o0 == 100 && (64 ≤ ip.o1 && ip.o1 ≤ 127))
    || (ip.o0 == 169 && ip.o1 == 254)
    || (ip.o0 == 192 && ip.o1 == 0 && ip.o2 == 0)
    || (ip.o0 == 198 && (18 ≤ ip.o1 && ip.o1 ≤ 19))
    || ip == ⟨255, 255, 255, 255⟩

def isBlockedTaskIpv6 (ip : Ipv6Addr) : Bool :=
  ip.isLoopback
    || ip.isUnspecified
    || ip.isMulticast
    || ip.s0 &&& 0xfe00 == 0xfc00
    || ip.s0 &&& 0xffc0 == 0xfe80
    || (ip.s0 == 0x2001 && ip.s1 == 0x0db8)
    || (ip.toIpv4Mapped.map isBlockedTaskIpv4).getD false

def isBlockedTaskIp : IpAddr → Bool
  | .v4 ip => isBlockedTaskIpv4 ip
  | .v6 ip => isBlockedTaskIpv6 ip

end Tasks

namespace AgentMain

def isAgentBlockedIpv4 (ip : Ipv4Addr) : Bool :=
  ip.isPrivate
    || ip.isLoopback
    || ip.isLinkLocal
    || ip.isMulticast
    || ip.isUnspecified
    || ip.isDocumentation
    || ip.o0 == 0
    || 224 ≤ ip.o0
    || (ip.o0 == 100 && (64 ≤ ip.o1 && ip.o1 ≤ 127))
    || (ip.o0 == 169 && ip.o1 == 254)
    || (ip.o0 == 192 && ip.o1 == 0 && ip.o2 == 0)
    || (ip.o0 == 198 && (18 ≤ ip.o1 && ip.o1 ≤ 19))
    || ip == ⟨255, 255, 255, 255⟩

def isAgentBlockedIpv6 (ip : Ipv6Addr) : Bool :=
  ip.isLoopback
    || ip.isUnspecified
    || ip.isMulticast
    || ip.s0 &&& 0xfe00 == 0xfc00
    || ip.s0 &&& 0xffc0 == 0xfe80
    || (ip.s0 == 0x2001 && ip.s1 == 0x0db8)
    || (ip.toIpv4Mapped.map isAgentBlockedIpv4).getD false

def isAgentBlockedIp : IpAddr → Bool
  | .v4 ip => isAgentBlockedIpv4 ip
  | .v6 ip => isAgentBlockedIpv6 ip

inductive NatTargetError where
  | nonLoopback
  | permanentlyForbidden
  | nonPrivate
  deriving DecidableEq, Repr

def NatTargetError.text (ip : String) : NatTargetError → String
  | .nonLoopback => "Agent NAT target resolves to disallowed non-loopback address " ++ ip
  | .permanentlyForbidden => "Agent NAT target resolves to permanently forbidden address " ++ ip ++
      " (metadata, link-local, multicast, or unspecified)"
  | .nonPrivate => "Agent NAT target resolves to disallowed non-private address " ++ ip

def ensureAgentNatIpAllowed (ip : IpAddr) (allowPrivate : Bool) : Except NatTargetError Unit :=
  if allowPrivate || ip.isLoopback then .ok () else .error .nonLoopback

end AgentMain

/-! The hardened policy of the agent's `nat` module. -/

namespace AgentNat

open AgentMain (NatTargetError)

def isCloudMetadataIpv6 (ip : Ipv6Addr) : Bool :=
  ip == ⟨0xfd00, 0x0ec2, 0, 0, 0, 0, 0, 0x0254⟩

def isNeverAllowedNatIpv4 (ip : Ipv4Addr) : Bool :=
  ip.isUnspecified
    || ip.isLinkLocal
    || ip.isMulticast
    || ip.isBroadcast
    || ip.isDocumentation
    || ip.o0 == 0
    || (ip.o0 == 169 && ip.o1 == 254)
    || 224 ≤ ip.o0
    || (ip.o0 == 192 && ip.o1 == 0 && ip.o2 == 0)
    || (ip.o0 == 198 && (18 ≤ ip.o1 && ip.o1 ≤ 19))

def isNeverAllowedNatIpv6 (ip : Ipv6Addr) : Bool :=
  ip.isUnspecified
    || ip.isMulticast
    || ip.s0 &&& 0xffc0 == 0xfe80
    || (ip.s0 == 0x2001 && ip.s1 == 0x0db8)
    || isCloudMetadataIpv6 ip

def isNeverAllowedNatTargetIp : IpAddr → Bool
  | .v4 ip => isNeverAllowedNatIpv4 ip
  | .v6 ip => isNeverAllowedNatIpv6 ip

def isLoopbackNatTargetIp : IpAddr → Bool
  | .v4 ip => ip.isLoopback
  | .v6 ip => ip.isLoopback

def isPrivateLanNatTargetIp : IpAddr → Bool
  | .v4 ip => ip.isPrivate || (ip.o0 == 100 && (64 ≤ ip.o1 && ip.o1 ≤ 127))
  | .v6 ip => ip.s0 &&& 0xfe00 == 0xfc00 && !isCloudMetadataIpv6 ip

def canonicalIp : IpAddr → IpAddr
  | .v4 ip => .v4 ip
  | .v6 ip => match ip.toIpv4Mapped with
    | some mapped => .v4 mapped
    | none => .v6 ip

def ensureAgentNatIpAllowed (ip : IpAddr) (allowPrivate : Bool) : Except NatTargetError Unit :=
  if isNeverAllowedNatTargetIp (canonicalIp ip) then .error .permanentlyForbidden
  else if isLoopbackNatTargetIp (canonicalIp ip) then .ok ()
  else if !allowPrivate then .error .nonLoopback
  else if isPrivateLanNatTargetIp (canonicalIp ip) then .ok ()
  else .error .nonPrivate

end AgentNat

end XLStatus.Net
