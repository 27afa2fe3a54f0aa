import XLStatus.Net.BlocklistDefs

/-! How far the copies of the block list agree. The task validator and the agent
run the same shorter list; the server's list is that list together with the
blocks of `onlyServerBlocks`, and the two parts are disjoint. The NAT check that
the agent runs is compared with the policy of its `nat` module in the same way. -/

namespace XLStatus.Net

open Security Tasks AgentMain

theorem isAgentBlockedIp_eq (ip : IpAddr) : isAgentBlockedIp ip = isBlockedTaskIp ip := by
  cases ip <;> rfl

def isRelayAnycast (ip : Ipv4Addr) : Bool := ip.o0 == 192 && ip.o1 == 88 && ip.o2 == 99

theorem isBlockedIpv4_eq (ip : Ipv4Addr) :
    isBlockedIpv4 ip = (isBlockedTaskIpv4 ip || isRelayAnycast ip) := by
  have hb : ip.isBroadcast = true → decide (224 ≤ ip.o0) = true := by
    simp only [Ipv4Addr.isBroadcast, beq_iff_eq]
    rintro rfl
    decide
  unfold isBlockedIpv4 isBlockedTaskIpv4 isRelayAnycast
  cases h : ip.isBroadcast
  · grind
  · simp [hb h]

theorem not_isBlockedTaskIpv4_of_relay {ip : Ipv4Addr} (h : isRelayAnycast ip = true) :
    isBlockedTaskIpv4 ip = false := by
  obtain ⟨o0, o1, o2, o3⟩ := ip
  simp only [isRelayAnycast, Bool.and_eq_true, beq_iff_eq] at h
  obtain ⟨⟨rfl, rfl⟩, rfl⟩ := h
  simp [isBlockedTaskIpv4, Ipv4Addr.isPrivate, Ipv4Addr.isLoopback, Ipv4Addr.isLinkLocal,
    Ipv4Addr.isMulticast, Ipv4Addr.isUnspecified, Ipv4Addr.isDocumentation]

/-- Site-local, `3ff0::/12`, `2001::/23`, discard-only, IPv4-compatible,
IPv4-translated and the two NAT64 blocks, with `::` and `::1` taken out because
every copy blocks them. -/
def isServerOnlyBlock (ip : Ipv6Addr) : Bool :=
  ip.s0 &&& 0xffc0 == 0xfec0
    || ip.s0 &&& 0xfff0 == 0x3ff0
    || (ip.s0 == 0x2001 && ip.s1 < 0x0200)
    || (ip.s0 == 0x0100 && [ip.s1, ip.s2, ip.s3] == [0, 0, 0])
    || (ip.prefix6 == [0, 0, 0, 0, 0, 0] && !ip.isUnspecified && !ip.isLoopback)
    || ip.prefix6 == [0, 0, 0, 0, 0xffff, 0]
    || ip.prefix6 == [0x0064, 0xff9b, 0, 0, 0, 0]
    || (ip.s0 == 0x0064 && ip.s1 == 0xff9b && ip.s2 == 0x0001)

def isBlocked6to4 (ip : Ipv6Addr) : Bool :=
  ip.s0 == 0x2002 && isBlockedIpv4 (ipv4FromSegments ip.s1 ip.s2)

def onlyServerBlocks : IpAddr → Bool
  | .v4 ip => isRelayAnycast ip
  | .v6 ip => isServerOnlyBlock ip || isBlocked6to4 ip ||
      (ip.toIpv4Mapped.map isRelayAnycast).getD false

variable {ip : Ipv6Addr}

theorem toIpv4Mapped_eq_some {m : Ipv4Addr} (h : ip.toIpv4Mapped = some m) :
    ip.s0 = 0 ∧ ip.s1 = 0 ∧ ip.s2 = 0 ∧ ip.s3 = 0 ∧ ip.s4 = 0 ∧ ip.s5 = 0xffff := by
  unfold Ipv6Addr.toIpv4Mapped at h
  split_ifs at h with hp
  simpa [Ipv6Addr.prefix6] using hp

theorem isBlockedIpv6_eq (ip : Ipv6Addr) :
    isBlockedIpv6 ip = (isBlockedTaskIpv6 ip || onlyServerBlocks (.v6 ip)) := by
  rw [Bool.eq_iff_iff]
  cases hm : ip.toIpv4Mapped with
  | some =>
    -- a mapped address lies in none of the other blocks, so only its octets count
    obtain ⟨h0, h1, h2, h3, h4, h5⟩ := toIpv4Mapped_eq_some hm
    simp [isBlockedIpv6, isBlockedTaskIpv6, onlyServerBlocks, isServerOnlyBlock, isBlocked6to4,
      embeddedIpv4, Ipv6Addr.prefix6, hm, h0, h1, h2, h3, h4, h5, isBlockedIpv4_eq, or_assoc]
  | none =>
    simp only [isBlockedIpv6, isBlockedTaskIpv6, onlyServerBlocks, isServerOnlyBlock, isBlocked6to4,
      embeddedIpv4, hm, Bool.or_eq_true, Option.map_none, Option.getD_none]
    split_ifs <;> grind

theorem isBlockedIp_eq (ip : IpAddr) :
    isBlockedIp ip = (isBlockedTaskIp ip || onlyServerBlocks ip) := by
  cases ip with
  | v4 ip => exact isBlockedIpv4_eq ip
  | v6 ip => exact isBlockedIpv6_eq ip

theorem isMulticast_iff (ip : Ipv6Addr) : ip.isMulticast = true ↔ 0xff00 ≤ ip.s0.toNat := by
  have hlt := ip.s0.toNat_lt
  rw [Ipv6Addr.isMulticast, beq_iff_eq,
    and_highMask_eq_iff (k := 8) (by decide) (by decide) (by decide)]
  simp only [UInt16.reduceToNat]
  omega

theorem not_linkLocal {s : UInt16} (h : s.toNat < 0xfe80 ∨ 0xfec0 ≤ s.toNat) :
    ¬s &&& 0xffc0 = 0xfe80 := by
  rw [and_highMask_eq_iff (k := 6) (by decide) (by decide) (by decide)]
  simp only [UInt16.reduceToNat]
  omega

theorem isBlockedTaskIpv6_eq_false (hlo : ip.isLoopback = false) (hun : ip.isUnspecified = false)
    (hrange : ip.s0.toNat < 0xfc00 ∨ 0xfec0 ≤ ip.s0.toNat ∧ ip.s0.toNat < 0xff00)
    (hdoc : ¬(ip.s0 = 0x2001 ∧ ip.s1 = 0x0db8))
    (hmap : ∀ m, ip.toIpv4Mapped = some m → isBlockedTaskIpv4 m = false) :
    isBlockedTaskIpv6 ip = false := by
  have hmul : ¬ip.isMulticast = true := by
    rw [isMulticast_iff]
    omega
  have hula : ¬ip.s0 &&& 0xfe00 = 0xfc00 := by
    rw [and_highMask_eq_iff (k := 9) (by decide) (by decide) (by decide)]
    simp only [UInt16.reduceToNat]
    omega
  have hll := not_linkLocal (s := ip.s0) (by omega)
  have hm : (ip.toIpv4Mapped.map isBlockedTaskIpv4).getD false = false := by
    cases h : ip.toIpv4Mapped with
    | none => rfl
    | some m => simpa using hmap m h
  simp [isBlockedTaskIpv6, hlo, hun, hmul, hula, hll, hm]
  simpa using hdoc

theorem eq_zero_of_special (h : ip.s0 ≠ 0) :
    ip.isLoopback = false ∧ ip.isUnspecified = false ∧ ip.toIpv4Mapped = none := by
  refine ⟨?_, ?_, ?_⟩
  · simp only [Ipv6Addr.isLoopback, beq_eq_false_iff_ne]
    rintro rfl
    exact h rfl
  · simp only [Ipv6Addr.isUnspecified, beq_eq_false_iff_ne]
    rintro rfl
    exact h rfl
  · cases hm : ip.toIpv4Mapped with
    | none => rfl
    | some => exact absurd (toIpv4Mapped_eq_some hm).1 h

theorem isBlockedTaskIpv6_eq_false_of_ne (h0 : ip.s0 ≠ 0)
    (hrange : ip.s0.toNat < 0xfc00 ∨ 0xfec0 ≤ ip.s0.toNat ∧ ip.s0.toNat < 0xff00)
    (hdoc : ¬(ip.s0 = 0x2001 ∧ ip.s1 = 0x0db8)) : isBlockedTaskIpv6 ip = false := by
  obtain ⟨hlo, hun, hm⟩ := eq_zero_of_special h0
  exact isBlockedTaskIpv6_eq_false hlo hun hrange hdoc (by simp [hm])

theorem not_isBlockedTaskIpv6_of_block (h : isServerOnlyBlock ip = true) :
    isBlockedTaskIpv6 ip = false := by
  simp only [isServerOnlyBlock, Bool.or_eq_true, Bool.and_eq_true, beq_iff_eq,
    decide_eq_true_eq, Bool.not_eq_true'] at h
  rcases h with
    ((((((hsite | hdoc) | ⟨h0, h1⟩) | ⟨h0, -⟩) | ⟨⟨hz, hun⟩, hlo⟩) | ht) | hn) | ⟨⟨h0, -⟩, -⟩
  · rw [and_highMask_eq_iff (k := 6) (by decide) (by decide) (by decide)] at hsite
    simp only [UInt16.reduceToNat] at hsite
    refine isBlockedTaskIpv6_eq_false_of_ne ?_ (by omega) ?_
    · intro h0
      simp [h0] at hsite
    · rintro ⟨h0, -⟩
      simp [h0] at hsite
  · rw [and_highMask_eq_iff (k := 4) (by decide) (by decide) (by decide)] at hdoc
    simp only [UInt16.reduceToNat] at hdoc
    refine isBlockedTaskIpv6_eq_false_of_ne ?_ (by omega) ?_
    · intro h0
      simp [h0] at hdoc
    · rintro ⟨h0, -⟩
      simp [h0] at hdoc
  · refine isBlockedTaskIpv6_eq_false_of_ne (by simp [h0]) (by simp [h0]) ?_
    rintro ⟨-, h1'⟩
    simp [h1', UInt16.lt_iff_toNat_lt] at h1
  · exact isBlockedTaskIpv6_eq_false_of_ne (by simp [h0]) (by simp [h0]) (by simp [h0])
  · -- IPv4-compatible: the first segments are zero but the sixth is not `ffff`
    simp only [Ipv6Addr.prefix6, List.cons.injEq, and_true] at hz
    refine isBlockedTaskIpv6_eq_false hlo hun (by simp [hz.1]) (by simp [hz.1]) ?_
    intro m hm
    have h5 := (toIpv4Mapped_eq_some hm).2.2.2.2.2
    simp [hz.2.2.2.2.2] at h5
  · simp only [Ipv6Addr.prefix6, List.cons.injEq, and_true] at ht
    obtain ⟨h0, -, -, -, h4, -⟩ := ht
    refine isBlockedTaskIpv6_eq_false ?_ ?_ (by simp [h0]) (by simp [h0]) ?_
    · simp only [Ipv6Addr.isLoopback, beq_eq_false_iff_ne]
      rintro rfl
      simp at h4
    · simp only [Ipv6Addr.isUnspecified, beq_eq_false_iff_ne]
      rintro rfl
      simp at h4
    · intro m hm
      have h4' := (toIpv4Mapped_eq_some hm).2.2.2.2.1
      simp [h4] at h4'
  · simp only [Ipv6Addr.prefix6, List.cons.injEq, and_true] at hn
    exact isBlockedTaskIpv6_eq_false_of_ne (by simp [hn.1]) (by simp [hn.1]) (by simp [hn.1])
  · exact isBlockedTaskIpv6_eq_false_of_ne (by simp [h0]) (by simp [h0]) (by simp [h0])

theorem not_isBlockedTaskIp_of_onlyServerBlocks {ip : IpAddr} (h : onlyServerBlocks ip = true) :
    isBlockedTaskIp ip = false := by
  cases ip with
  | v4 => exact not_isBlockedTaskIpv4_of_relay h
  | v6 ip =>
    simp only [onlyServerBlocks, Bool.or_eq_true] at h
    rcases h with (hblock | h6to4) | hrelay
    · exact not_isBlockedTaskIpv6_of_block hblock
    · simp only [isBlocked6to4, Bool.and_eq_true, beq_iff_eq] at h6to4
      exact isBlockedTaskIpv6_eq_false_of_ne (by simp [h6to4.1]) (by simp [h6to4.1])
        (by simp [h6to4.1])
    · cases hm : ip.toIpv4Mapped with
      | none => simp [hm] at hrelay
      | some =>
        simp only [hm, Option.map_some, Option.getD_some] at hrelay
        obtain ⟨h0, h1, h2, h3, h4, h5⟩ := toIpv4Mapped_eq_some hm
        refine isBlockedTaskIpv6_eq_false ?_ ?_ (by simp [h0]) (by simp [h0]) ?_
        · simp only [Ipv6Addr.isLoopback, beq_eq_false_iff_ne]
          rintro rfl
          simp at h5
        · simp only [Ipv6Addr.isUnspecified, beq_eq_false_iff_ne]
          rintro rfl
          simp at h5
        · intro m' hm'
          cases hm.symm.trans hm'
          exact not_isBlockedTaskIpv4_of_relay hrelay

/-- The copies block what the server blocks exactly outside the blocks that only
the server's list has. -/
theorem isBlockedIp_covered_iff (ip : IpAddr) :
    (isBlockedIp ip = true → isBlockedTaskIp ip = true ∧ isAgentBlockedIp ip = true) ↔
      onlyServerBlocks ip = false := by
  rw [isAgentBlockedIp_eq, isBlockedIp_eq, and_self, Bool.or_eq_true]
  constructor
  · intro h
    by_contra hgap
    rw [Bool.not_eq_false] at hgap
    have htask := h (Or.inr hgap)
    rw [not_isBlockedTaskIp_of_onlyServerBlocks hgap] at htask
    exact absurd htask Bool.false_ne_true
  · intro hgap h
    rcases h with htask | honly
    · exact htask
    · rw [hgap] at honly
      exact absurd honly Bool.false_ne_true

def nat64Loopback : IpAddr := .v6 ⟨0x0064, 0xff9b, 0, 0, 0, 0, 0x7f00, 0x0001⟩

theorem nat64Loopback_not_covered :
    ¬(isBlockedIp nat64Loopback = true →
      isBlockedTaskIp nat64Loopback = true ∧ isAgentBlockedIp nat64Loopback = true) := by
  decide

def isLocalNatTarget (ip : IpAddr) : Bool :=
  AgentNat.isLoopbackNatTargetIp (AgentNat.canonicalIp ip) ||
    AgentNat.isPrivateLanNatTargetIp (AgentNat.canonicalIp ip)

theorem isNeverAllowedNatIpv4_of_local {ip : Ipv4Addr}
    (h : ip.isLoopback = true ∨ AgentNat.isPrivateLanNatTargetIp (.v4 ip) = true) :
    AgentNat.isNeverAllowedNatIpv4 ip = false := by
  obtain ⟨o0, o1, o2, o3⟩ := ip
  simp only [Ipv4Addr.isLoopback, AgentNat.isPrivateLanNatTargetIp, Ipv4Addr.isPrivate,
    Bool.or_eq_true, Bool.and_eq_true, beq_iff_eq, decide_eq_true_eq] at h
  rcases h with rfl | ((rfl | ⟨rfl, -⟩) | ⟨rfl, rfl⟩) | ⟨rfl, -⟩ <;>
    simp [AgentNat.isNeverAllowedNatIpv4, Ipv4Addr.isUnspecified, Ipv4Addr.isLinkLocal,
      Ipv4Addr.isMulticast, Ipv4Addr.isBroadcast, Ipv4Addr.isDocumentation]

theorem isNeverAllowedNatIpv6_of_local
    (h : ip.isLoopback = true ∨ AgentNat.isPrivateLanNatTargetIp (.v6 ip) = true) :
    AgentNat.isNeverAllowedNatIpv6 ip = false := by
  rcases h with hlo | hlan
  · simp only [Ipv6Addr.isLoopback, beq_iff_eq] at hlo
    rw [hlo]
    decide
  · simp only [AgentNat.isPrivateLanNatTargetIp, Bool.and_eq_true, beq_iff_eq,
      Bool.not_eq_true'] at hlan
    obtain ⟨hula, hmeta⟩ := hlan
    rw [and_highMask_eq_iff (k := 9) (by decide) (by decide) (by decide)] at hula
    simp only [UInt16.reduceToNat] at hula
    have h0 : ip.s0 ≠ 0 := by
      intro h0
      simp [h0] at hula
    have hmul : ¬ip.isMulticast = true := by
      rw [isMulticast_iff]
      omega
    have hll := not_linkLocal (s := ip.s0) (by omega)
    have hdoc : ip.s0 ≠ 0x2001 := by
      intro hd
      simp [hd] at hula
    simp [AgentNat.isNeverAllowedNatIpv6, (eq_zero_of_special h0).2.1, hmul, hll, hdoc, hmeta]

theorem isNeverAllowedNatTargetIp_of_local {ip : IpAddr} (h : isLocalNatTarget ip = true) :
    AgentNat.isNeverAllowedNatTargetIp (AgentNat.canonicalIp ip) = false := by
  unfold isLocalNatTarget at h
  rw [Bool.or_eq_true] at h
  cases hc : AgentNat.canonicalIp ip with
  | v4 => exact isNeverAllowedNatIpv4_of_local (by rwa [hc] at h)
  | v6 => exact isNeverAllowedNatIpv6_of_local (by rwa [hc] at h)

theorem isLoopbackNatTargetIp_of_isLoopback {ip : IpAddr} (h : ip.isLoopback = true) :
    AgentNat.isLoopbackNatTargetIp (AgentNat.canonicalIp ip) = true := by
  cases ip with
  | v4 => exact h
  | v6 =>
    simp only [IpAddr.isLoopback, Ipv6Addr.isLoopback, beq_iff_eq] at h
    subst h
    decide

theorem ensureAgentNatIpAllowed_private_iff (ip : IpAddr) :
    AgentNat.ensureAgentNatIpAllowed ip true = .ok () ↔ isLocalNatTarget ip = true := by
  constructor
  · intro h
    unfold AgentNat.ensureAgentNatIpAllowed at h
    unfold isLocalNatTarget
    split_ifs at h with hnever hloop hlan <;> simp_all
  · intro h
    have hnever := isNeverAllowedNatTargetIp_of_local h
    unfold isLocalNatTarget at h
    rw [Bool.or_eq_true] at h
    unfold AgentNat.ensureAgentNatIpAllowed
    rcases h with h | h <;> simp [hnever, h]

/-- The check the agent runs is no weaker than the hardened policy exactly when
private targets are off or the address is a local one anyway. -/
theorem ensureAgentNatIpAllowed_covered_iff (ip : IpAddr) (allowPrivate : Bool) :
    (AgentMain.ensureAgentNatIpAllowed ip allowPrivate = .ok () →
        AgentNat.ensureAgentNatIpAllowed ip allowPrivate = .ok ()) ↔
      allowPrivate = false ∨ isLocalNatTarget ip = true := by
  cases allowPrivate with
  | true =>
    have hmain : AgentMain.ensureAgentNatIpAllowed ip true = .ok () := rfl
    simp [hmain, ensureAgentNatIpAllowed_private_iff]
  | false =>
    simp only [true_or, iff_true]
    intro h
    have hloop : ip.isLoopback = true := by
      unfold AgentMain.ensureAgentNatIpAllowed at h
      split_ifs at h with hc
      simpa using hc
    have htarget := isLoopbackNatTargetIp_of_isLoopback hloop
    have hnever : AgentNat.isNeverAllowedNatTargetIp (AgentNat.canonicalIp ip) = false :=
      isNeverAllowedNatTargetIp_of_local (by simp [isLocalNatTarget, htarget])
    simp [AgentNat.ensureAgentNatIpAllowed, hnever, htarget]

def metadataService : IpAddr := .v4 ⟨169, 254, 169, 254⟩

theorem metadataService_not_covered :
    ¬(AgentMain.ensureAgentNatIpAllowed metadataService true = .ok () →
      AgentNat.ensureAgentNatIpAllowed metadataService true = .ok ()) := by
  decide

end XLStatus.Net
