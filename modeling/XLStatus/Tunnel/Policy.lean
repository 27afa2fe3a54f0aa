import XLStatus.Tunnel.PolicyDefs

/-! What a list of allowed sources admits, and what is left of it when a mapping is loaded. -/

namespace XLStatus.Tunnel

open Checked Net Text

variable {length : ℕ} {network : IpAddr} {raw normalized : String}

theorem maskedEq_iff {w : ℕ} (ip network : BitVec w) (h : length ≤ w) :
    maskedEq ip network length = true ↔ ∀ i < length, ip.getMsbD i = network.getMsbD i := by
  have hmask : ∀ i < w, (if length = 0 then (0 : BitVec w)
      else BitVec.allOnes w <<< (w - length)).getMsbD i = decide (i < length) := by
    intro i hi
    split
    · simp_all
    · rw [BitVec.getMsbD_shiftLeft, BitVec.getMsbD_allOnes, decide_eq_decide]
      omega
  rw [maskedEq, beq_iff_eq]
  constructor
  · intro heq i hi
    have hbit := congrArg (·.getMsbD i) heq
    simpa only [BitVec.getMsbD_and, hmask i (hi.trans_le h), hi, decide_true, Bool.and_true]
      using hbit
  · intro hbits
    apply BitVec.eq_of_getMsbD_eq
    intro i hi
    rw [BitVec.getMsbD_and, BitVec.getMsbD_and, hmask i hi]
    by_cases hlt : i < length
    · rw [hbits i hlt]
    · simp [hlt]

def InNetwork (length : ℕ) : IpAddr → IpAddr → Prop
  | .v4 ip, .v4 network =>
    length ≤ 32 ∧ ∀ i < length, ip.toBits.getMsbD i = network.toBits.getMsbD i
  | .v6 ip, .v6 network =>
    length ≤ 128 ∧ ∀ i < length, ip.toBits.getMsbD i = network.toBits.getMsbD i
  | _, _ => False

theorem natIpInCidr_iff (ip network : IpAddr) (length : ℕ) :
    natIpInCidr ip network length = true ↔ InNetwork length ip network := by
  cases ip <;> cases network <;>
    simp only [natIpInCidr, InNetwork, Bool.and_eq_true, decide_eq_true_eq, Bool.false_eq_true]
  · exact and_congr_right fun h => maskedEq_iff _ _ h
  · exact and_congr_right fun h => maskedEq_iff _ _ h

def IsNetwork (entry : String) (network : IpAddr) (length : ℕ) : Prop :=
  ∃ address digits, entry = address ++ "/" ++ digits ∧ IpAddr.parse address = some network ∧
    parseUnsigned 8 digits = some length

def Admits (entry : String) (ip : IpAddr) : Prop :=
  IpAddr.parse entry = some ip ∨
    ∃ network length, IsNetwork entry network length ∧ InNetwork length ip network

def familyBits : IpAddr → ℕ
  | .v4 _ => 32
  | .v6 _ => 128

def IsSource (entry : String) : Prop :=
  (∃ ip, IpAddr.parse entry = some ip) ∨
    ∃ network length, IsNetwork entry network length ∧ length ≤ familyBits network

theorem slash_not_mem_of_parse {s : String} {ip : IpAddr} (h : IpAddr.parse s = some ip) :
    '/' ∉ s.toList := by
  intro hmem
  have hchar := IpAddr.isAddressChar_of_parse h '/' hmem
  exact absurd hchar (by decide)

def networkOf (entry : String) : Option (IpAddr × ℕ) := do
  let (address, digits) ← splitOnce entry '/'
  let network ← IpAddr.parse address
  let length ← parseUnsigned 8 digits
  return (network, length)

theorem networkOf_eq_some {entry : String} :
    networkOf entry = some (network, length) ↔
      ∃ address digits, splitOnce entry '/' = some (address, digits) ∧
        IpAddr.parse address = some network ∧ parseUnsigned 8 digits = some length := by
  simp [networkOf, Option.bind_eq_some_iff]

theorem isNetwork_iff {entry : String} :
    IsNetwork entry network length ↔
      IpAddr.parse entry = none ∧ networkOf entry = some (network, length) := by
  rw [networkOf_eq_some]
  constructor
  · rintro ⟨address, digits, rfl, haddress, hdigits⟩
    refine ⟨?_, address, digits, splitOnce_eq_some.mpr ⟨by simp, ?_⟩, haddress, hdigits⟩
    · by_contra hne
      obtain ⟨ip, hip⟩ := Option.ne_none_iff_exists'.mp hne
      exact slash_not_mem_of_parse hip (by simp)
    · exact slash_not_mem_of_parse haddress
  · rintro ⟨-, address, digits, hsplit, haddress, hdigits⟩
    refine ⟨address, digits, ?_, haddress, hdigits⟩
    apply String.toList_injective
    simp [(splitOnce_eq_some.mp hsplit).1]

theorem natSourceEntryMatches_eq (entry : String) (ip : IpAddr) :
    natSourceEntryMatches entry ip = match IpAddr.parse entry with
      | some exact => exact == ip
      | none => (networkOf entry).any fun (network, length) => natIpInCidr ip network length := by
  unfold natSourceEntryMatches networkOf
  cases IpAddr.parse entry with
  | some => rfl
  | none =>
    cases splitOnce entry '/' with
    | none => rfl
    | some parts =>
      obtain ⟨address, digits⟩ := parts
      dsimp only [bind, Option.bind]
      cases IpAddr.parse address <;> cases parseUnsigned 8 digits <;> rfl

theorem natSourceEntryValid_eq (entry : String) :
    natSourceEntryValid entry = ((IpAddr.parse entry).isSome ||
      (networkOf entry).any fun (network, length) => length ≤ familyBits network) := by
  unfold natSourceEntryValid networkOf
  cases IpAddr.parse entry with
  | some => rfl
  | none =>
    cases splitOnce entry '/' with
    | none => rfl
    | some parts =>
      obtain ⟨address, digits⟩ := parts
      dsimp only [bind, Option.bind]
      rcases IpAddr.parse address with _ | _ | _ <;> cases parseUnsigned 8 digits <;> rfl

theorem natSourceEntryMatches_iff (entry : String) (ip : IpAddr) :
    natSourceEntryMatches entry ip = true ↔ Admits entry ip := by
  rw [natSourceEntryMatches_eq, Admits]
  cases hentry : IpAddr.parse entry with
  | some => simp [isNetwork_iff, hentry]
  | none => simp [isNetwork_iff, hentry, Option.any_eq_true, natIpInCidr_iff]

theorem natSourceEntryValid_iff (entry : String) :
    natSourceEntryValid entry = true ↔ IsSource entry := by
  rw [natSourceEntryValid_eq, IsSource]
  cases hentry : IpAddr.parse entry with
  | some => simp
  | none => simp [isNetwork_iff, hentry, Option.any_eq_true]

structure ValidSources (raw : String) : Prop where
  entries_ne_nil : allowedSourceEntries (trim raw) ≠ []
  len_le : len (trim raw) ≤ natMaxAllowedSourcesBytes
  length_le : (allowedSourceEntries (trim raw)).length ≤ natMaxAllowedSourceEntries
  entries : ∀ entry ∈ allowedSourceEntries (trim raw),
    len entry ≤ natMaxAllowedSourceEntryBytes ∧ IsSource entry

theorem checkAllowedSourceEntry_eq_ok {entry : String} :
    checkAllowedSourceEntry entry = .ok () ↔
      len entry ≤ natMaxAllowedSourceEntryBytes ∧ IsSource entry := by
  simp [checkAllowedSourceEntry, bind_eq_ok, ensure_eq_ok, natSourceEntryValid_iff]

theorem normalizeNatAllowedSources_eq_some :
    normalizeNatAllowedSources (some raw) = .ok (some normalized) ↔
      ValidSources raw ∧ ",".intercalate (allowedSourceEntries (trim raw)) = normalized := by
  have hnormalize : normalizeNatAllowedSources (some raw) =
      if trim raw = "" then .ok none
      else if len (trim raw) > natMaxAllowedSourcesBytes then
        .error ("allowed_sources must be at most " ++ toString natMaxAllowedSourcesBytes ++
          " bytes")
      else if allowedSourceEntries (trim raw) = [] then .ok none
      else if (allowedSourceEntries (trim raw)).length > natMaxAllowedSourceEntries then
        .error ("allowed_sources must contain at most " ++
          toString natMaxAllowedSourceEntries ++ " entries")
      else do
        (allowedSourceEntries (trim raw)).forM checkAllowedSourceEntry
        return some (",".intercalate (allowedSourceEntries (trim raw))) := rfl
  rw [hnormalize]
  constructor
  · intro h
    split at h
    · cases h
    split at h
    · cases h
    split at h
    · cases h
    split at h
    · cases h
    rename_i hblank hlen hne hlength
    obtain ⟨_, hforM, h⟩ := bind_eq_ok.mp h
    refine ⟨⟨hne, not_lt.mp hlen, not_lt.mp hlength, fun entry hentry => ?_⟩, ?_⟩
    · exact checkAllowedSourceEntry_eq_ok.mp (forM_eq_ok.mp hforM entry hentry)
    · exact Option.some.inj (pure_eq_ok.mp h)
  · rintro ⟨hvalid, rfl⟩
    have hblank : trim raw ≠ "" := by
      intro hblank
      apply hvalid.entries_ne_nil
      rw [hblank]
      decide
    rw [if_neg hblank, if_neg (not_lt.mpr hvalid.len_le), if_neg hvalid.entries_ne_nil,
      if_neg (not_lt.mpr hvalid.length_le), bind_eq_ok]
    refine ⟨(), forM_eq_ok.mpr fun entry hentry => ?_, rfl⟩
    exact checkAllowedSourceEntry_eq_ok.mpr (hvalid.entries entry hentry)

theorem isItem_of_mem_entries {value entry : String} (h : entry ∈ allowedSourceEntries value) :
    IsItem isSourceSeparator entry :=
  isItem_of_mem_items h

theorem comma_eq : "," = String.singleton ',' := rfl

theorem entries_split (h : ValidSources raw) :
    split (",".intercalate (allowedSourceEntries (trim raw))) ',' =
      allowedSourceEntries (trim raw) := by
  rw [comma_eq]
  apply split_intercalate h.entries_ne_nil
  intro entry hentry hmem
  have hsep := (isItem_of_mem_entries hentry).no_sep ',' hmem
  exact absurd hsep (by decide)

theorem allows_iff_exists_admits (raw : String) (ip : IpAddr) :
    natSourceListAllows raw ip = true ↔ ValidSources raw ∧
      ∃ entry ∈ allowedSourceEntries (trim raw), Admits entry ip := by
  unfold natSourceListAllows
  split
  · rename_i normalized hnormalize
    obtain ⟨hvalid, rfl⟩ := normalizeNatAllowedSources_eq_some.mp hnormalize
    simp [entries_split hvalid, hvalid, natSourceEntryMatches_iff]
  · rename_i hnone
    refine iff_of_false (by simp) fun ⟨hvalid, _⟩ => ?_
    exact hnone _ (normalizeNatAllowedSources_eq_some.mpr ⟨hvalid, rfl⟩)

theorem validSources_normalized (h : ValidSources raw) :
    ValidSources (",".intercalate (allowedSourceEntries (trim raw))) ∧
      allowedSourceEntries (trim (",".intercalate (allowedSourceEntries (trim raw)))) =
        allowedSourceEntries (trim raw) := by
  have htrim : trim (",".intercalate (allowedSourceEntries (trim raw))) =
      ",".intercalate (allowedSourceEntries (trim raw)) := by
    rw [comma_eq]
    exact trim_intercalate h.entries_ne_nil fun entry => isItem_of_mem_entries
  have hentries : allowedSourceEntries
      (trim (",".intercalate (allowedSourceEntries (trim raw)))) =
        allowedSourceEntries (trim raw) := by
    rw [htrim, comma_eq]
    exact items_intercalate (by decide) fun entry => isItem_of_mem_entries
  have hsep : ∀ c, isSourceSeparator c = true → c.utf8Size = 1 := by
    intro c hc
    simp only [isSourceSeparator, Bool.or_eq_true, beq_iff_eq] at hc
    rcases hc with ((rfl | rfl) | rfl) | rfl <;> rfl
  refine ⟨⟨?_, ?_, ?_, ?_⟩, hentries⟩
  · rw [hentries]
    exact h.entries_ne_nil
  · rw [htrim, comma_eq]
    exact (len_intercalate_items_le rfl hsep h.entries_ne_nil).trans h.len_le
  · rw [hentries]
    exact h.length_le
  · rw [hentries]
    exact h.entries

theorem natSourceListAllows_normalized
    (h : normalizeNatAllowedSources (some raw) = .ok (some normalized)) (ip : IpAddr) :
    natSourceListAllows normalized ip = natSourceListAllows raw ip := by
  obtain ⟨hvalid, rfl⟩ := normalizeNatAllowedSources_eq_some.mp h
  obtain ⟨hvalid', hentries⟩ := validSources_normalized hvalid
  rw [Bool.eq_iff_iff, allows_iff_exists_admits, allows_iff_exists_admits, hentries]
  simp [hvalid, hvalid']

/-- The list admits the addresses of its entries when it is valid, and its normal form
decides the same and is normal. -/
theorem source_list_semantics (raw : String) :
    (∀ ip, natSourceListAllows raw ip = true ↔ ValidSources raw ∧
      ∃ entry ∈ allowedSourceEntries (trim raw), Admits entry ip) ∧
    ∀ normalized, normalizeNatAllowedSources (some raw) = .ok (some normalized) →
      (∀ ip, natSourceListAllows normalized ip = natSourceListAllows raw ip) ∧
        normalizeNatAllowedSources (some normalized) = .ok (some normalized) := by
  refine ⟨allows_iff_exists_admits raw, fun normalized h => ?_⟩
  refine ⟨natSourceListAllows_normalized h, ?_⟩
  obtain ⟨hvalid, rfl⟩ := normalizeNatAllowedSources_eq_some.mp h
  obtain ⟨hvalid', hentries⟩ := validSources_normalized hvalid
  exact normalizeNatAllowedSources_eq_some.mpr ⟨hvalid', by rw [hentries]⟩

theorem source_list_semantics_sample :
    normalizeNatAllowedSources (some " 10.0.0.0/8,\n::1 ") = .ok (some "10.0.0.0/8,::1") ∧
      natSourceListAllows "10.0.0.0/8,::1" (.v4 ⟨10, 1, 2, 3⟩) =
        natSourceListAllows " 10.0.0.0/8,\n::1 " (.v4 ⟨10, 1, 2, 3⟩) ∧
      normalizeNatAllowedSources (some "10.0.0.0/8,::1") = .ok (some "10.0.0.0/8,::1") := by
  have hnormalize : normalizeNatAllowedSources (some " 10.0.0.0/8,\n::1 ") =
      .ok (some "10.0.0.0/8,::1") := by decide +kernel
  obtain ⟨-, hnormal⟩ := source_list_semantics " 10.0.0.0/8,\n::1 "
  obtain ⟨hallows, hself⟩ := hnormal _ hnormalize
  exact ⟨hnormalize, hallows _, hself⟩

theorem validate_allowedSources {env : String → Option String} {mapping loaded : NatMapping}
    (h : validateNatMappingRuntimePolicy env mapping = .ok loaded) :
    normalizeNatAllowedSources mapping.allowedSources = .ok loaded.allowedSources := by
  simp only [validateNatMappingRuntimePolicy, bind_eq_ok, pure_eq_ok] at h
  obtain ⟨_, -, _, -, _, -, _, -, _, -, _, -, _, -, allowedSources, hsources, rest⟩ := h
  obtain ⟨_, -, _, -, _, -, _, -, _, -, _, -, _, -, rfl⟩ := rest
  exact hsources

theorem rowToMapping_allowedSources {env : String → Option String} {row : NatMappingRow}
    {mapping : NatMapping} (h : rowToMapping env row = .ok mapping) :
    normalizeNatAllowedSources row.allowedSources = .ok mapping.allowedSources := by
  simp only [rowToMapping, bind_eq_ok] at h
  obtain ⟨_, -, _, -, _, -, _, -, _, -, _, -, _, -, _, -, _, -, _, -, hvalidate⟩ := h
  exact validate_allowedSources hvalidate

theorem comma_or_isWhitespace_of_normalize (h : normalizeNatAllowedSources (some raw) = .ok none)
    {c : Char} (hc : c ∈ raw.toList) :
    c = ',' ∨ isWhitespace c = true := by
  obtain ⟨before, after, hraw, hbefore, hafter⟩ := exists_append_trim raw
  rw [hraw, List.mem_append, List.mem_append] at hc
  rcases hc with (hc | hc) | hc
  · exact Or.inr (hbefore c hc)
  · have hentries : allowedSourceEntries (trim raw) = [] := by
      by_contra hne
      simp only [normalizeNatAllowedSources, Option.map_some] at h
      split at h
      · rename_i hblank
        exact hne (by rw [hblank]; decide)
      split at h
      · cases h
      split at h
      · cases h
      · obtain ⟨_, -, hsome⟩ := bind_eq_ok.mp h
        cases hsome
    have hsep := sep_or_isWhitespace_of_items_eq_nil hentries hc
    simp only [isSourceSeparator, Bool.or_eq_true, beq_iff_eq] at hsep
    rcases hsep with (((rfl | rfl) | rfl) | rfl) | hwhite
    · exact Or.inl rfl
    · exact Or.inr rfl
    · exact Or.inr rfl
    · exact Or.inr rfl
    · exact Or.inr hwhite
  · exact Or.inr (hafter c hc)

/-- Who may connect to a loaded mapping is admitted by the list of its row, unless that list
is absent or has nothing but commas and white space. -/
theorem loading_never_widens {env : String → Option String} {row : NatMappingRow}
    {mapping : NatMapping} (h : rowToMapping env row = .ok mapping) {ip : IpAddr}
    (hallowed : natMappingSourceAllowed mapping ip = true) {raw : String}
    (hraw : row.allowedSources = some raw) :
    (∀ c ∈ raw.toList, c = ',' ∨ isWhitespace c = true) ∨
      natSourceListAllows raw ip = true := by
  have hnormalize := rowToMapping_allowedSources h
  rw [hraw] at hnormalize
  cases hsources : mapping.allowedSources with
  | none =>
    rw [hsources] at hnormalize
    exact Or.inl fun c hc => comma_or_isWhitespace_of_normalize hnormalize hc
  | some normalized =>
    rw [hsources] at hnormalize
    rw [natMappingSourceAllowed, hsources] at hallowed
    exact Or.inr ((natSourceListAllows_normalized hnormalize ip).symm.trans hallowed)

namespace Sample

def storedRow (allowedSources : String) : NatMappingRow where
  id := "00000000-0000-0000-0000-000000000001"
  agentId := "00000000-0000-0000-0000-000000000002"
  localHost := "127.0.0.1"
  localPort := 80
  publicPort := 18080
  protocol := "tcp"
  enabled := true
  description := none
  allowedSources := some allowedSources
  maxActiveTunnels := none
  idleTimeoutSeconds := none
  maxBytesPerTunnel := none
  maxBandwidthBytesPerSecond := none
  rateLimitWindowSeconds := none
  maxConnectionsPerWindow := none
  maxBytesPerWindow := none

def loadedMapping (allowedSources : Option String) : NatMapping where
  id := "00000000-0000-0000-0000-000000000001"
  agentId := "00000000-0000-0000-0000-000000000002"
  localHost := "127.0.0.1"
  localPort := 80
  publicPort := 18080
  protocol := .tcp
  enabled := true
  description := none
  allowedSources := allowedSources
  maxActiveTunnels := none
  idleTimeoutSeconds := none
  maxBytesPerTunnel := none
  maxBandwidthBytesPerSecond := none
  rateLimitWindowSeconds := none
  maxConnectionsPerWindow := none
  maxBytesPerWindow := none

def peer : IpAddr := .v4 ⟨10, 1, 2, 3⟩

end Sample

theorem loading_never_widens_sample :
    rowToMapping (fun _ => none) (Sample.storedRow "10.0.0.0/8") =
        .ok (Sample.loadedMapping (some "10.0.0.0/8")) ∧
      ((∀ c ∈ "10.0.0.0/8".toList, c = ',' ∨ isWhitespace c = true) ∨
        natSourceListAllows "10.0.0.0/8" Sample.peer = true) := by
  have hload : rowToMapping (fun _ => none) (Sample.storedRow "10.0.0.0/8") =
      .ok (Sample.loadedMapping (some "10.0.0.0/8")) := by decide +kernel
  exact ⟨hload, loading_never_widens hload (by decide +kernel) rfl⟩

theorem comma_list_widened :
    rowToMapping (fun _ => none) (Sample.storedRow ",") = .ok (Sample.loadedMapping none) ∧
      natMappingSourceAllowed (Sample.loadedMapping none) Sample.peer = true ∧
      natSourceListAllows "," Sample.peer = false := by
  decide +kernel

end XLStatus.Tunnel
