import Mathlib.Tactic

/-! Internet addresses as the standard library of the source has them: octets
and segments, the range predicates, and the arithmetic of a prefix mask. -/

namespace XLStatus.Net

structure Ipv4Addr where
  o0 : UInt8
  o1 : UInt8
  o2 : UInt8
  o3 : UInt8
  deriving DecidableEq, Repr

structure Ipv6Addr where
  s0 : UInt16
  s1 : UInt16
  s2 : UInt16
  s3 : UInt16
  s4 : UInt16
  s5 : UInt16
  s6 : UInt16
  s7 : UInt16
  deriving DecidableEq, Repr

inductive IpAddr where
  | v4 (ip : Ipv4Addr)
  | v6 (ip : Ipv6Addr)
  deriving DecidableEq, Repr

namespace Ipv4Addr

def ofSegments (hi lo : UInt16) : Ipv4Addr :=
  ⟨(hi >>> 8).toUInt8, hi.toUInt8, (lo >>> 8).toUInt8, lo.toUInt8⟩

def toBits (ip : Ipv4Addr) : BitVec 32 :=
  ip.o0.toBitVec ++ ip.o1.toBitVec ++ ip.o2.toBitVec ++ ip.o3.toBitVec

def isUnspecified (ip : Ipv4Addr) : Bool := ip == ⟨0, 0, 0, 0⟩

def isLoopback (ip : Ipv4Addr) : Bool := ip.o0 == 127

def isPrivate (ip : Ipv4Addr) : Bool :=
  ip.o0 == 10
    || (ip.o0 == 172 && (16 ≤ ip.o1 && ip.o1 ≤ 31))
    || (ip.o0 == 192 && ip.o1 == 168)

def isLinkLocal (ip : Ipv4Addr) : Bool := ip.o0 == 169 && ip.o1 == 254

def isMulticast (ip : Ipv4Addr) : Bool := 224 ≤ ip.o0 && ip.o0 ≤ 239

def isBroadcast (ip : Ipv4Addr) : Bool := ip == ⟨255, 255, 255, 255⟩

def isDocumentation (ip : Ipv4Addr) : Bool :=
  (ip.o0 == 192 && ip.o1 == 0 && ip.o2 == 2)
    || (ip.o0 == 198 && ip.o1 == 51 && ip.o2 == 100)
    || (ip.o0 == 203 && ip.o1 == 0 && ip.o2 == 113)

end Ipv4Addr

namespace Ipv6Addr

def toBits (ip : Ipv6Addr) : BitVec 128 :=
  ip.s0.toBitVec ++ ip.s1.toBitVec ++ ip.s2.toBitVec ++ ip.s3.toBitVec ++
    ip.s4.toBitVec ++ ip.s5.toBitVec ++ ip.s6.toBitVec ++ ip.s7.toBitVec

def isUnspecified (ip : Ipv6Addr) : Bool := ip == ⟨0, 0, 0, 0, 0, 0, 0, 0⟩

def isLoopback (ip : Ipv6Addr) : Bool := ip == ⟨0, 0, 0, 0, 0, 0, 0, 1⟩

def isMulticast (ip : Ipv6Addr) : Bool := ip.s0 &&& 0xff00 == 0xff00

def prefix6 (ip : Ipv6Addr) : List UInt16 := [ip.s0, ip.s1, ip.s2, ip.s3, ip.s4, ip.s5]

def toIpv4Mapped (ip : Ipv6Addr) : Option Ipv4Addr :=
  if ip.prefix6 = [0, 0, 0, 0, 0, 0xffff] then some (.ofSegments ip.s6 ip.s7) else none

end Ipv6Addr

def IpAddr.isLoopback : IpAddr → Bool
  | .v4 ip => ip.isLoopback
  | .v6 ip => ip.isLoopback

/-! Masking away the low `k` bits keeps exactly the multiple of `2 ^ k` below. -/

theorem nat_and_highMask {x n k : ℕ} (hx : x < 2 ^ n) (hk : k ≤ n) :
    x &&& (2 ^ n - 2 ^ k) = x / 2 ^ k * 2 ^ k := by
  have hmask : 2 ^ n - 2 ^ k = 2 ^ n - ((2 ^ k - 1) + 1) := by
    rw [Nat.sub_add_cancel Nat.one_le_two_pow]
  have hlow : 2 ^ k - 1 < 2 ^ n :=
    lt_of_lt_of_le (Nat.sub_lt (Nat.two_pow_pos k) Nat.one_pos)
      (Nat.pow_le_pow_right (by decide) hk)
  rw [← Nat.shiftRight_eq_div_pow, ← Nat.shiftLeft_eq, hmask]
  apply Nat.eq_of_testBit_eq
  intro i
  rw [Nat.testBit_and, Nat.testBit_two_pow_sub_succ hlow, Nat.testBit_two_pow_sub_one,
    Nat.testBit_shiftLeft, Nat.testBit_shiftRight]
  by_cases hi : k ≤ i
  · have hadd : k + (i - k) = i := Nat.add_sub_cancel' hi
    by_cases hin : i < n
    · simp [hi, hin, hadd, Nat.not_lt.mpr hi]
    · have hbit : x.testBit i = false := Nat.testBit_lt_two_pow
        (lt_of_lt_of_le hx (Nat.pow_le_pow_right (by decide) (Nat.le_of_not_lt hin)))
      simp [hadd, hbit]
  · simp [hi, Nat.lt_of_not_le hi]

theorem and_highMask_eq_iff {x mask base : UInt16} {k : ℕ} (hk : k ≤ 16)
    (hmask : mask.toNat = 2 ^ 16 - 2 ^ k) (hbase : base.toNat % 2 ^ k = 0) :
    x &&& mask = base ↔ base.toNat ≤ x.toNat ∧ x.toNat < base.toNat + 2 ^ k := by
  have hpos : 0 < 2 ^ k := Nat.two_pow_pos k
  rw [← UInt16.toNat_inj, UInt16.toNat_and, hmask, nat_and_highMask x.toNat_lt hk]
  have hdiv := Nat.div_add_mod' x.toNat (2 ^ k)
  have hmod := Nat.mod_lt x.toNat hpos
  have hb := Nat.div_add_mod' base.toNat (2 ^ k)
  rw [hbase, add_zero] at hb
  constructor
  · intro h
    omega
  · rintro ⟨hle, hlt⟩
    have hq : x.toNat / 2 ^ k = base.toNat / 2 ^ k := by
      apply Nat.div_eq_of_lt_le
      · rw [hb]; exact hle
      · rw [Nat.succ_mul, hb]; exact hlt
    rw [hq, hb]

end XLStatus.Net
