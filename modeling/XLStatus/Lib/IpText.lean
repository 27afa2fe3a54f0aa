import XLStatus.Lib.IpAddr
import XLStatus.Lib.Items

/-! The text of an internet address: what the standard library of the source accepts as one,
and the form in which it prints it. -/

namespace XLStatus.Net

open List Option

def digitValue (c : Char) : ℕ :=
  if c ≤ '9' then c.toNat - '0'.toNat
  else if c ≤ 'F' then c.toNat - 'A'.toNat + 10
  else c.toNat - 'a'.toNat + 10

def parseDigits (radix : ℕ) (digits : List Char) : ℕ :=
  digits.foldl (fun n c => radix * n + digitValue c) 0

def parseOctet (s : List Char) : Option UInt8 :=
  if 1 ≤ s.length ∧ s.length ≤ 3 ∧ s.all Char.isDigit ∧ (s.length = 1 ∨ s.head? ≠ some '0') ∧
      parseDigits 10 s < 256 then
    some (parseDigits 10 s).toUInt8
  else none

def Ipv4Addr.parse (s : List Char) : Option Ipv4Addr :=
  match (s.splitOn '.').mapM parseOctet with
  | some [o0, o1, o2, o3] => some ⟨o0, o1, o2, o3⟩
  | _ => none

def parseGroup (s : List Char) : Option UInt16 :=
  if 1 ≤ s.length ∧ s.length ≤ 4 ∧ s.all Text.isAsciiHexDigit then
    some (parseDigits 16 s).toUInt16
  else none

def Ipv4Addr.segments (ip : Ipv4Addr) : List UInt16 :=
  [ip.o0.toUInt16 * 256 + ip.o1.toUInt16, ip.o2.toUInt16 * 256 + ip.o3.toUInt16]

def parseHeadGroups (s : List Char) : Option (List UInt16) :=
  if s = [] then some [] else (s.splitOn ':').mapM parseGroup

def parseTailGroups (s : List Char) : Option (List UInt16) :=
  match parseHeadGroups s with
  | some groups => some groups
  | none => do
    let parts := s.splitOn ':'
    let groups ← parts.dropLast.mapM parseGroup
    let last ← parts.getLast? >>= Ipv4Addr.parse
    return groups ++ last.segments

def splitDoubleColon : List Char → Option (List Char × List Char)
  | ':' :: ':' :: rest => some ([], rest)
  | c :: rest => (splitDoubleColon rest).map fun (head, tail) => (c :: head, tail)
  | [] => none

def Ipv6Addr.ofSegments : List UInt16 → Option Ipv6Addr
  | [s0, s1, s2, s3, s4, s5, s6, s7] => some ⟨s0, s1, s2, s3, s4, s5, s6, s7⟩
  | _ => none

def Ipv6Addr.parse (s : List Char) : Option Ipv6Addr :=
  match splitDoubleColon s with
  | none => parseTailGroups s >>= Ipv6Addr.ofSegments
  | some (head, tail) => do
    let head ← parseHeadGroups head
    let tail ← parseTailGroups tail
    if head.length + tail.length ≤ 7 then
      Ipv6Addr.ofSegments (head ++ replicate (8 - (head.length + tail.length)) 0 ++ tail)
    else none

def IpAddr.parse (s : String) : Option IpAddr :=
  match Ipv4Addr.parse s.toList with
  | some ip => some (.v4 ip)
  | none => (Ipv6Addr.parse s.toList).map .v6

def isAddressChar (c : Char) : Bool := Text.isAsciiHexDigit c || c == '.' || c == ':'

theorem isSome_of_mapM {α β : Type} {f : α → Option β} {l : List α} {l' : List β}
    (h : l.mapM f = some l') {a : α} (ha : a ∈ l) : (f a).isSome = true := by
  induction l generalizing l' with
  | nil => simp at ha
  | cons b l ih =>
    rw [mapM_cons] at h
    obtain ⟨b', hb, h⟩ := bind_eq_some_iff.mp h
    obtain ⟨rest, hrest, -⟩ := bind_eq_some_iff.mp h
    rcases mem_cons.mp ha with rfl | ha
    · rw [hb]
      rfl
    · exact ih hrest ha

variable {s : List Char} {groups : List UInt16}

theorem isAddressChar_of_parts {sep : Char} (hsep : isAddressChar sep = true)
    (h : ∀ part ∈ s.splitOn sep, ∀ c ∈ part, isAddressChar c = true) {c : Char} (hc : c ∈ s) :
    isAddressChar c = true := by
  cases heq : c == sep with
  | true => rwa [eq_of_beq heq]
  | false =>
    have hparts : ∃ part ∈ s.splitOn sep, c ∈ part := Text.exists_mem_splitOnP hc heq
    obtain ⟨part, hpart, hmem⟩ := hparts
    exact h part hpart c hmem

theorem isAddressChar_of_parseOctet (h : (parseOctet s).isSome = true) :
    ∀ c ∈ s, isAddressChar c = true := by
  intro c hc
  unfold parseOctet at h
  split at h
  · rename_i hs
    have hrange : '0' ≤ c ∧ c ≤ '9' := by
      have hdigit : c.isDigit = true := List.all_eq_true.mp hs.2.2.1 c hc
      simp only [Char.isDigit, Bool.and_eq_true, decide_eq_true_eq] at hdigit
      exact hdigit
    simp [isAddressChar, Text.isAsciiHexDigit, Text.isLowerHexDigit, hrange]
  · cases h

theorem Ipv4Addr.isAddressChar_of_parse {ip : Ipv4Addr} (h : Ipv4Addr.parse s = some ip) :
    ∀ c ∈ s, isAddressChar c = true := by
  unfold Ipv4Addr.parse at h
  split at h
  · rename_i hparts
    intro c hc
    exact isAddressChar_of_parts (by decide)
      (fun part hpart => isAddressChar_of_parseOctet (isSome_of_mapM hparts hpart)) hc
  · cases h

theorem isAddressChar_of_parseGroup (h : (parseGroup s).isSome = true) :
    ∀ c ∈ s, isAddressChar c = true := by
  intro c hc
  unfold parseGroup at h
  split at h
  · rename_i hs
    simp [isAddressChar, List.all_eq_true.mp hs.2.2 c hc]
  · cases h

theorem isAddressChar_of_parseHeadGroups (h : parseHeadGroups s = some groups) :
    ∀ c ∈ s, isAddressChar c = true := by
  intro c hc
  unfold parseHeadGroups at h
  split at h
  · rename_i hs
    simp [hs] at hc
  · exact isAddressChar_of_parts (by decide)
      (fun part hpart => isAddressChar_of_parseGroup (isSome_of_mapM h hpart)) hc

theorem isAddressChar_of_parseTailGroups (h : parseTailGroups s = some groups) :
    ∀ c ∈ s, isAddressChar c = true := by
  unfold parseTailGroups at h
  split at h
  · rename_i hgroups
    exact isAddressChar_of_parseHeadGroups hgroups
  · obtain ⟨groups, hgroups, h⟩ := bind_eq_some_iff.mp h
    obtain ⟨last, hlast, -⟩ := bind_eq_some_iff.mp h
    obtain ⟨part, hpart, hlast⟩ := bind_eq_some_iff.mp hlast
    intro c hc
    refine isAddressChar_of_parts (by decide : isAddressChar ':' = true) (fun p hp => ?_) hc
    -- a part is the last one, or one of the groups
    rw [← dropLast_append_getLast? part hpart, mem_append, mem_singleton] at hp
    rcases hp with hp | rfl
    · exact isAddressChar_of_parseGroup (isSome_of_mapM hgroups hp)
    · exact Ipv4Addr.isAddressChar_of_parse hlast

theorem splitDoubleColon_eq_some {head tail : List Char}
    (h : splitDoubleColon s = some (head, tail)) : s = head ++ ':' :: ':' :: tail := by
  induction s using splitDoubleColon.induct generalizing head with
  | case1 =>
    cases h
    rfl
  | case2 c rest hne ih =>
    rw [splitDoubleColon] at h
    · obtain ⟨⟨head', tail'⟩, hrest, heq⟩ := map_eq_some_iff.mp h
      cases heq
      rw [ih hrest]
      rfl
    · exact hne
  | case3 => cases h

theorem Ipv6Addr.isAddressChar_of_parse {ip : Ipv6Addr} (h : Ipv6Addr.parse s = some ip) :
    ∀ c ∈ s, isAddressChar c = true := by
  unfold Ipv6Addr.parse at h
  split at h
  · obtain ⟨groups, hgroups, -⟩ := bind_eq_some_iff.mp h
    exact isAddressChar_of_parseTailGroups hgroups
  · rename_i head tail hsplit
    obtain ⟨headGroups, hhead, h⟩ := bind_eq_some_iff.mp h
    obtain ⟨tailGroups, htail, -⟩ := bind_eq_some_iff.mp h
    intro c hc
    rw [splitDoubleColon_eq_some hsplit, mem_append, mem_cons, mem_cons] at hc
    rcases hc with hc | rfl | rfl | hc
    · exact isAddressChar_of_parseHeadGroups hhead c hc
    · rfl
    · rfl
    · exact isAddressChar_of_parseTailGroups htail c hc

theorem IpAddr.isAddressChar_of_parse {s : String} {ip : IpAddr} (h : IpAddr.parse s = some ip) :
    ∀ c ∈ s.toList, isAddressChar c = true := by
  unfold IpAddr.parse at h
  split at h
  · rename_i hv4
    exact Ipv4Addr.isAddressChar_of_parse hv4
  · obtain ⟨ipv6, hv6, -⟩ := map_eq_some_iff.mp h
    exact Ipv6Addr.isAddressChar_of_parse hv6

def Ipv4Addr.toText (ip : Ipv4Addr) : String :=
  ".".intercalate ([ip.o0, ip.o1, ip.o2, ip.o3].map fun o => toString o.toNat)

def longestZeroRun (segments : List UInt16) : ℕ × ℕ :=
  (segments.zipIdx.foldl (fun (longest, current) (segment, i) =>
    if segment = 0 then
      let current : ℕ × ℕ := if current.2 = 0 then (i, 1) else (current.1, current.2 + 1)
      (if current.2 > longest.2 then current else longest, current)
    else (longest, (0, 0))) (((0, 0), (0, 0)) : (ℕ × ℕ) × (ℕ × ℕ))).1

def segmentsText (segments : List UInt16) : String :=
  ":".intercalate (segments.map fun s => String.ofList (Nat.toDigits 16 s.toNat))

def Ipv6Addr.toText (ip : Ipv6Addr) : String :=
  match ip.toIpv4Mapped with
  | some ipv4 => "::ffff:" ++ ipv4.toText
  | none =>
    let segments := ip.prefix6 ++ [ip.s6, ip.s7]
    let (start, length) := longestZeroRun segments
    if length > 1 then
      segmentsText (segments.take start) ++ "::" ++ segmentsText (segments.drop (start + length))
    else segmentsText segments

def IpAddr.toText : IpAddr → String
  | .v4 ip => ip.toText
  | .v6 ip => ip.toText

end XLStatus.Net
