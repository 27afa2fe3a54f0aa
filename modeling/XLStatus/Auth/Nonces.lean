import XLStatus.Auth.Challenge

/-! The server's nonces over every interleaving of the challenge endpoints. The rows are whatever
the database answers at each reading, a purge may come at any time, and the clock readings may be
any; a nonce is 32 random bytes, and none is drawn twice. -/

namespace XLStatus.Auth

open Shared Transition List Option AList String

/-! ## Whose record a key is -/

def RecordOf (a : AgentId) (key : String) : Prop :=
  (∃ nonce, key = challengeKey a nonce) ∨ ∃ nonce, key = requestChallengeKey a nonce

theorem startsWith_iff_exists {key start : String} :
    Text.startsWith key start = true ↔ ∃ rest, key = start ++ rest := by
  rw [Text.startsWith_iff]
  constructor
  · rintro ⟨rest, hrest⟩
    refine ⟨ofList rest, toList_inj.mp ?_⟩
    rw [toList_append, toList_ofList, hrest]
  · rintro ⟨rest, rfl⟩
    rw [toList_append]
    exact prefix_append _ _

variable {a b : AgentId}

theorem isAgentKey_iff {key : String} :
    isAgentKey a key = true ↔ RecordOf a key := by
  rw [isAgentKey, Bool.or_eq_true, startsWith_iff_exists, startsWith_iff_exists]
  rfl

theorem challengeKey_inj {m n : String} (h : challengeKey a m = challengeKey b n) :
    a = b ∧ m = n := by
  have hlist := congrArg String.toList h
  rw [toList_challengeKey, toList_challengeKey] at hlist
  -- Both identifiers have 36 characters.
  obtain ⟨htext, hrest⟩ := append_inj hlist (a.length_text.trans b.length_text.symm)
  exact ⟨AgentId.ext_text (toList_inj.mp htext),
    toList_inj.mp (List.cons.inj hrest).2⟩

theorem RecordOf.unique {key : String} (ha : RecordOf a key) (hb : RecordOf b key) : a = b := by
  rcases ha with ⟨m, rfl⟩ | ⟨m, rfl⟩
  · rcases hb with ⟨n, heq⟩ | ⟨n, heq⟩
    · exact (challengeKey_inj heq).1
    · exact absurd heq.symm (requestChallengeKey_ne_challengeKey b a n m)
  · exact (eq_of_isAgentKey_requestKey (isAgentKey_iff.mpr hb)).symm

namespace Nonces

structure Given where
  nonce : String
  agentId : AgentId
  expiresAt : DateTime

/-- The store, the calls of the two endpoints between their critical sections, the nonces that
were handed out and the tokens that were issued. -/
structure System where
  challenges : ChallengeStore
  requests : ℕ → Option (AgentId × GetJwtChallengeRequest)
  calls : ℕ → Option JwtCall
  given : List Given
  issued : List (FoundChallenge × DateTime)

def System.init : System where
  challenges := ∅
  requests := fun _ => none
  calls := fun _ => none
  given := []
  issued := []

inductive Event where
  | checkRequest (call : ℕ) (findById : AgentId → Option Agent) (req : GetJwtChallengeRequest)
      (validateAt : DateTime)
  | reserve (call : ℕ) (now : DateTime) (nonce : String)
  | find (call : ℕ) (req : GetJwtRequest)
  | check (call : ℕ) (findById : AgentId → Option Agent) (now : DateTime)
  | consume (call : ℕ) (now : DateTime)
  | purge (agentId : AgentId)

def System.step (ed : Ed25519) (s : System) : Event → System
  | .checkRequest call findById req validateAt =>
    match checkChallengeRequest ed findById req validateAt with
    | .ok a => { s with requests := Function.update s.requests call (some (a, req)) }
    | .error _ => { s with requests := Function.update s.requests call none }
  | .reserve call now nonce =>
    match s.requests call with
    | none => s
    | some (a, req) =>
      if nonce ∈ s.given.map Given.nonce then s
      else
        let s' := { s with requests := Function.update s.requests call none }
        match reserveChallenge a req now nonce s.challenges with
        | (.ok _, challenges) =>
          { s' with
            challenges
            given := s.given ++ [⟨nonce, a, now + seconds challengeTtlSeconds⟩] }
        | (.error _, challenges) => { s' with challenges }
  | .find call req =>
    match findChallenge req s.challenges with
    | .ok c => { s with calls := Function.update s.calls call (some (.found c)) }
    | .error _ => { s with calls := Function.update s.calls call none }
  | .check call findById now =>
    match s.calls call with
    | some (.found c) =>
      match checkChallenge ed findById c now s.challenges with
      | (.ok _, challenges) =>
        { s with challenges, calls := Function.update s.calls call (some (.verified c)) }
      | (.error _, challenges) =>
        { s with challenges, calls := Function.update s.calls call none }
    | _ => s
  | .consume call now =>
    match s.calls call with
    | some (.verified c) =>
      let s' := { s with calls := Function.update s.calls call none }
      match consumeAgentJwtChallenge c now s.challenges with
      | (.ok _, challenges) => { s' with challenges, issued := s.issued ++ [(c, now)] }
      | (.error _, challenges) => { s' with challenges }
    | _ => s
  | .purge a => { s with challenges := purgeAgentJwtChallenges s.challenges a }

variable {ed : Ed25519} {s : System} {e : Event}

/-! ## What a step does -/

structure Removes (actor : Option AgentId) (now : Option DateTime)
    (store store' : ChallengeStore) : Prop where
  keys : store'.keys.Sublist store.keys
  lookup : ∀ key x, store'.lookup key = some x → store.lookup key = some x
  kept : ∀ key x, store.lookup key = some x → store'.lookup key = some x ∨
    (∃ a ∈ actor, RecordOf a key) ∨ ∃ t ∈ now, x ≤ t

variable {o : Option AgentId} {i : Option DateTime} {store : ChallengeStore}

theorem Removes.refl : Removes o i store store :=
  ⟨.refl _, fun _ _ h => h, fun _ _ h => .inl h⟩

theorem removes_retain {p : String → DateTime → Bool}
    (hp : ∀ key x, p key x = false → (∃ a ∈ o, RecordOf a key) ∨ ∃ t ∈ i, x ≤ t) :
    Removes o i store (store.retain p) where
  keys := keys_retain_sublist _ _
  lookup _ _ h := (lookup_retain_eq_some.mp h).1
  kept key x h := by
    cases hkey : p key x with
    | true => exact .inl (lookup_retain_eq_some.mpr ⟨h, hkey⟩)
    | false => exact .inr (hp key x hkey)

theorem removes_erase {c : FoundChallenge} :
    Removes (some c.agentId) i store (store.erase c.key) where
  keys := by
    rw [keys_erase]
    exact erase_sublist
  lookup key x h := by
    rw [lookup_erase_eq] at h
    split at h
    · cases h
    · exact h
  kept key x h := by
    rcases eq_or_ne key c.key with rfl | hne
    · exact .inr (.inl ⟨c.agentId, rfl, .inl ⟨_, rfl⟩⟩)
    · exact .inl ((lookup_erase_ne hne).trans h)

theorem removes_prune (t : DateTime) :
    Removes o (some t) store (pruneExpiredChallenges store t) :=
  removes_retain fun _ _ h => .inr ⟨t, rfl, not_lt.mp (of_decide_eq_false h)⟩

theorem removes_check (ed : Ed25519) (findById : AgentId → Option Agent) (c : FoundChallenge) (t : DateTime) :
    Removes (some c.agentId) i store (checkChallenge ed findById c t store).2 := by
  unfold checkChallenge
  split
  · exact removes_erase
  · split
    · exact .refl
    · split <;> exact .refl

theorem consume_cases (c : FoundChallenge) (t : DateTime) (store : ChallengeStore) :
    (∃ error, (consumeAgentJwtChallenge c t store).1 = .error error ∧
      Removes (some c.agentId) i store (consumeAgentJwtChallenge c t store).2) ∨
    (consumeAgentJwtChallenge c t store = (.ok (), store.erase c.key) ∧
      store.lookup c.key = some c.expiresAt ∧ t ≤ c.expiresAt) := by
  unfold consumeAgentJwtChallenge
  split
  · exact .inl ⟨_, rfl, .refl⟩
  · rename_i x hx
    split
    · rename_i hsame
      subst hsame
      split
      · exact .inl ⟨_, rfl, removes_erase⟩
      · rename_i hlive
        exact .inr ⟨rfl, hx, not_lt.mp hlive⟩
    · exact .inl ⟨_, rfl, .refl⟩

structure Room (store : ChallengeStore) (a : AgentId) : Prop where
  total : store.len + challengeRecordsPerRequest ≤ maxPendingChallenges
  pending : pendingChallengesForAgent store a < maxPendingChallengesPerAgent
  records : challengeRecordsForAgent store a + challengeRecordsPerRequest ≤
    maxChallengeRecordsPerAgent

def reserved (store : ChallengeStore) (a : AgentId) (req : GetJwtChallengeRequest)
    (nonce : String) (expiresAt : DateTime) : ChallengeStore :=
  (store.insert (requestChallengeKey a req.requestNonce) expiresAt).insert
    (challengeKey a nonce) expiresAt

theorem reserve_cases (a : AgentId) (req : GetJwtChallengeRequest) (t : DateTime)
    (nonce : String) (store : ChallengeStore) :
    (∃ error, reserveChallenge a req t nonce store = (.error error, pruneExpiredChallenges store t))
    ∨ ∃ response, Room (pruneExpiredChallenges store t) a ∧
      reserveChallenge a req t nonce store = (.ok response,
        reserved (pruneExpiredChallenges store t) a req nonce
          (t + seconds challengeTtlSeconds)) := by
  unfold reserveChallenge
  simp only
  split
  · exact .inl ⟨_, rfl⟩
  · split
    · exact .inl ⟨_, rfl⟩
    · rename_i hroom
      simp only [not_or, not_lt, not_le, ge_iff_le, gt_iff_lt] at hroom
      exact .inr ⟨_, ⟨hroom.1, hroom.2.1, hroom.2.2⟩, rfl⟩

def System.actor (s : System) : Event → Option AgentId
  | .reserve call _ _ => (s.requests call).map Prod.fst
  | .check call _ _ | .consume call _ => (s.calls call).map fun
    | .found c | .verified c => c.agentId
  | .purge a => some a
  | .checkRequest .. | .find .. => none

def Event.prunesAt : Event → Option DateTime
  | .reserve _ now _ => some now
  | _ => none

inductive Effect (s : System) (e : Event) (s' : System) : Prop where
  | removes (hstore : Removes (s.actor e) e.prunesAt s.challenges s'.challenges)
      (hgiven : s'.given = s.given) (hissued : s'.issued = s.issued)
  | gives (a : AgentId) (req : GetJwtChallengeRequest) (now : DateTime) (nonce : String)
      (hactor : s.actor e = some a) (hinstant : e.prunesAt = some now)
      (hfresh : nonce ∉ s.given.map Given.nonce)
      (hroom : Room (pruneExpiredChallenges s.challenges now) a)
      (hstore : s'.challenges = reserved (pruneExpiredChallenges s.challenges now) a req nonce
        (now + seconds challengeTtlSeconds))
      (hgiven : s'.given = s.given ++ [⟨nonce, a, now + seconds challengeTtlSeconds⟩])
      (hissued : s'.issued = s.issued)
  | issues (c : FoundChallenge) (now : DateTime) (hactor : s.actor e = some c.agentId)
      (hfound : s.challenges.lookup c.key = some c.expiresAt) (hlive : now ≤ c.expiresAt)
      (hstore : s'.challenges = s.challenges.erase c.key) (hgiven : s'.given = s.given)
      (hissued : s'.issued = s.issued ++ [(c, now)])

theorem effect_step (ed : Ed25519) (s : System) (e : Event) : Effect s e (s.step ed e) := by
  cases e with
  | checkRequest =>
    simp only [System.step]
    split <;> exact .removes .refl rfl rfl
  | reserve call now nonce =>
    simp only [System.step]
    split
    · exact .removes .refl rfl rfl
    · rename_i a req hcall
      have hactor : s.actor (.reserve call now nonce) = some a := by
        simp [System.actor, hcall]
      split
      · exact .removes .refl rfl rfl
      · rename_i hfresh
        rcases reserve_cases a req now nonce s.challenges with ⟨error, heq⟩ | ⟨response, hroom, heq⟩
          <;> rw [heq]
        · exact .removes (removes_prune now) rfl rfl
        · exact .gives a req now nonce hactor rfl hfresh hroom rfl rfl rfl
  | find =>
    simp only [System.step]
    split <;> exact .removes .refl rfl rfl
  | check call findById now =>
    simp only [System.step]
    split
    · rename_i c hcall
      have hactor : s.actor (.check call findById now) = some c.agentId := by
        simp [System.actor, hcall]
      have hremoves : Removes _ none s.challenges _ := removes_check ed findById c now
      rw [← hactor] at hremoves
      split <;>
      · rename_i heq
        rw [heq] at hremoves
        exact .removes hremoves rfl rfl
    · exact .removes .refl rfl rfl
  | consume call now =>
    simp only [System.step]
    split
    · rename_i c hcall
      have hactor : s.actor (.consume call now) = some c.agentId := by
        simp [System.actor, hcall]
      rcases consume_cases c now s.challenges with ⟨error, herror, hremoves⟩ | ⟨heq, hfound, hlive⟩
      · rw [← hactor] at hremoves
        split
        · rename_i heq
          rw [heq] at herror
          cases herror
        · rename_i heq
          rw [heq] at hremoves
          exact .removes hremoves rfl rfl
      · rw [heq]
        exact .issues c now hactor hfound hlive rfl rfl rfl
    · exact .removes .refl rfl rfl
  | purge a =>
    have hremoves : Removes (some a) none s.challenges (purgeAgentJwtChallenges s.challenges a) :=
      removes_retain fun key x hkey =>
        .inl ⟨a, rfl, isAgentKey_iff.mp (by simpa using hkey)⟩
    exact .removes hremoves rfl rfl

variable {req : GetJwtChallengeRequest} {a : AgentId} {expiresAt x : DateTime} {s' : System}
  {n : String}

theorem lookup_reserved {nonce : String} {key : String}
    (h : (reserved store a req nonce expiresAt).lookup key = some x) :
    store.lookup key = some x ∨ x = expiresAt ∧
      (key = challengeKey a nonce ∨ key = requestChallengeKey a req.requestNonce) := by
  unfold reserved at h
  rw [lookup_insert_eq, lookup_insert_eq] at h
  split at h
  · rename_i hkey
    exact .inr ⟨(some.inj h).symm, .inl hkey⟩
  · split at h
    · rename_i hkey
      exact .inr ⟨(some.inj h).symm, .inr hkey⟩
    · exact .inl h

theorem Effect.lookup_nonce (h : Effect s e s')
    (hx : s'.challenges.lookup (challengeKey a n) = some x) :
    s.challenges.lookup (challengeKey a n) = some x ∨
      (n ∉ s.given.map Given.nonce ∧ s'.given = s.given ++ [⟨n, a, x⟩] ∧ s'.issued = s.issued) := by
  cases h with
  | removes hstore => exact .inl (hstore.lookup _ _ hx)
  | gives b req now nonce hactor hinstant hfresh hroom hstore hgiven hissued =>
    rw [hstore] at hx
    rcases lookup_reserved hx with hold | ⟨rfl, hkey | hkey⟩
    · exact .inl ((removes_prune (o := none) now).lookup _ _ hold)
    · obtain ⟨rfl, rfl⟩ := challengeKey_inj hkey
      exact .inr ⟨hfresh, hgiven, hissued⟩
    · exact absurd hkey.symm (requestChallengeKey_ne_challengeKey b a _ _)
  | issues c now hactor hfound hlive hstore =>
    rw [hstore] at hx
    exact .inl ((removes_erase (i := none)).lookup _ _ hx)

/-! ## One token per nonce -/

structure Inv (s : System) : Prop where
  distinct : (s.given.map Given.nonce).Nodup
  stored : ∀ a n x, s.challenges.lookup (challengeKey a n) = some x →
    ⟨n, a, x⟩ ∈ s.given ∧ n ∉ s.issued.map (·.1.req.nonce)
  issued : ∀ p ∈ s.issued, ⟨p.1.req.nonce, p.1.agentId, p.1.expiresAt⟩ ∈ s.given ∧
    p.2 ≤ p.1.expiresAt
  once : (s.issued.map (·.1.req.nonce)).Nodup

theorem inv_init : Inv .init where
  distinct := nodup_nil
  stored _ _ _ h := by cases h
  issued _ h := by cases h
  once := nodup_nil

theorem Inv.fresh_not_issued (h : Inv s) (hn : n ∉ s.given.map Given.nonce) :
    n ∉ s.issued.map (·.1.req.nonce) := by
  intro hmem
  obtain ⟨p, hp, rfl⟩ := List.mem_map.mp hmem
  exact hn (List.mem_map.mpr ⟨_, (h.issued p hp).1, rfl⟩)

theorem inv_step (h : Inv s) (e : Event) : Inv (s.step ed e) := by
  have heffect := effect_step ed s e
  have hstored : ∀ a n x, (s.step ed e).challenges.lookup (challengeKey a n) = some x →
      ⟨n, a, x⟩ ∈ (s.step ed e).given ∧ n ∉ s.issued.map (·.1.req.nonce) := by
    intro a n x hx
    rcases heffect.lookup_nonce hx with hold | ⟨hfresh, hgiven, -⟩
    · obtain ⟨hmem, hunused⟩ := h.stored a n x hold
      refine ⟨?_, hunused⟩
      cases heffect with
      | removes _ hgiven => exact hgiven ▸ hmem
      | gives _ _ _ _ _ _ _ _ _ hgiven => exact hgiven ▸ mem_append_left _ hmem
      | issues _ _ _ _ _ _ hgiven => exact hgiven ▸ hmem
    · exact ⟨hgiven ▸ mem_append_right _ mem_cons_self, h.fresh_not_issued hfresh⟩
  cases heffect with
  | removes hstore hgiven hissued =>
    refine ⟨hgiven ▸ h.distinct, fun a n x hx => ?_, ?_, hissued ▸ h.once⟩
    · rw [hissued]
      exact hstored a n x hx
    · rw [hissued, hgiven]
      exact h.issued
  | gives a req now nonce hactor hinstant hfresh hroom hstore hgiven hissued =>
    refine ⟨?_, fun a n x hx => ?_, fun p hp => ?_, hissued ▸ h.once⟩
    · rw [hgiven, map_append, nodup_append]
      refine ⟨h.distinct, nodup_singleton _, ?_⟩
      rintro n hn m hm rfl
      obtain rfl : n = nonce := mem_singleton.mp hm
      exact hfresh hn
    · rw [hissued]
      exact hstored a n x hx
    · rw [hissued] at hp
      rw [hgiven]
      exact ⟨mem_append_left _ (h.issued p hp).1, (h.issued p hp).2⟩
  | issues c now hactor hfound hlive hstore hgiven hissued =>
    obtain ⟨hmem, hunused⟩ := h.stored _ _ _ hfound
    refine ⟨hgiven ▸ h.distinct, fun a n x hx => ?_, fun p hp => ?_, ?_⟩
    · obtain ⟨hmem', hunused'⟩ := hstored a n x hx
      refine ⟨hmem', fun hn => ?_⟩
      rw [hissued, map_append, mem_append, map_singleton, mem_singleton] at hn
      rcases hn with hn | rfl
      · exact hunused' hn
      · -- Both records are of the one nonce that was given, so the key is the erased one.
        rw [hgiven] at hmem'
        have hsame := inj_on_of_nodup_map h.distinct hmem' hmem rfl
        obtain rfl : a = c.agentId := congrArg Given.agentId hsame
        rw [hstore] at hx
        exact absurd hx (by rw [FoundChallenge.key, lookup_erase]; simp)
    · rw [hissued, mem_append, mem_singleton] at hp
      rw [hgiven]
      rcases hp with hp | rfl
      · exact h.issued p hp
      · exact ⟨hmem, hlive⟩
    · rw [hissued, map_append, nodup_append]
      refine ⟨h.once, nodup_singleton _, ?_⟩
      rintro n hn m hm rfl
      obtain rfl : n = c.req.nonce := mem_singleton.mp hm
      exact hunused hn

structure Purged (a : AgentId) (before s : System) : Prop where
  given : ∀ n ∈ before.given.map Given.nonce, n ∈ s.given.map Given.nonce
  gone : ∀ n ∈ before.given.map Given.nonce, s.challenges.lookup (challengeKey a n) = none
  issued : ∀ p ∈ s.issued, p.1.agentId = a → p.1.req.nonce ∈ before.given.map Given.nonce →
    p ∈ before.issued

theorem purged_purge (a : AgentId) : Purged a s (s.step ed (.purge a)) where
  given _ h := h
  gone n _ := by
    refine eq_none_iff_forall_not_mem.mpr fun x hx => ?_
    have hkept := (lookup_retain_eq_some.mp (mem_def.mp hx)).2
    rw [isAgentKey_iff.mpr (.inl ⟨n, rfl⟩)] at hkept
    cases hkept
  issued _ h _ _ := h

theorem purged_step {before : System} (h : Purged a before s) (e : Event) :
    Purged a before (s.step ed e) := by
  have heffect := effect_step ed s e
  have hgone : ∀ n ∈ before.given.map Given.nonce,
      (s.step ed e).challenges.lookup (challengeKey a n) = none := by
    intro n hn
    refine eq_none_iff_forall_not_mem.mpr fun x hx => ?_
    rcases heffect.lookup_nonce hx with hold | ⟨hfresh, -⟩
    · rw [h.gone n hn] at hold
      cases hold
    · exact hfresh (h.given n hn)
  cases heffect with
  | removes hstore hgiven hissued => exact ⟨hgiven ▸ h.given, hgone, hissued ▸ h.issued⟩
  | gives b req now nonce hactor hinstant hfresh hroom hstore hgiven hissued =>
    refine ⟨fun n hn => ?_, hgone, hissued ▸ h.issued⟩
    rw [hgiven, map_append]
    exact mem_append_left _ (h.given n hn)
  | issues c now hactor hfound hlive hstore hgiven hissued =>
    refine ⟨hgiven ▸ h.given, hgone, fun p hp ha hn => ?_⟩
    rw [hissued, mem_append, mem_singleton] at hp
    rcases hp with hp | rfl
    · exact h.issued p hp ha hn
    · have hnone := h.gone _ hn
      rw [← ha] at hnone
      rw [FoundChallenge.key, hnone] at hfound
      cases hfound

/-- Over every interleaving: a nonce leads to one token at most, for the agent it was given to and
not after its expiry; a nonce that was given before a purge of its agent leads to none after it. -/
theorem token_once_per_nonce (ed : Ed25519) (es : List Event) :
    ((run (System.step ed) .init es).issued.map (·.1.req.nonce)).Nodup ∧
    (∀ p ∈ (run (System.step ed) .init es).issued,
      ∃ g ∈ (run (System.step ed) .init es).given, g.nonce = p.1.req.nonce ∧
        g.agentId = p.1.agentId ∧ p.2 ≤ g.expiresAt ∧
        ∀ g' ∈ (run (System.step ed) .init es).given, g'.nonce = g.nonce → g' = g) ∧
    ∀ before after a, es = before ++ .purge a :: after →
      ∀ p ∈ (run (System.step ed) .init es).issued, p.1.agentId = a →
        p.1.req.nonce ∈ (run (System.step ed) .init before).given.map Given.nonce →
          p ∈ (run (System.step ed) .init before).issued := by
  have hinv : Inv (run (System.step ed) .init es) :=
    run_induct (P := Inv) (fun _ e h => inv_step h e) inv_init es
  refine ⟨hinv.once, fun p hp => ?_, ?_⟩
  · obtain ⟨hmem, hlive⟩ := hinv.issued p hp
    refine ⟨_, hmem, rfl, rfl, hlive, fun g' hg' hnonce => ?_⟩
    exact inj_on_of_nodup_map hinv.distinct hg' hmem hnonce
  · rintro before after a rfl
    rw [run_append, run_cons]
    exact (run_induct (P := Purged a (run (System.step ed) .init before))
      (fun _ e h => purged_step h e) (purged_purge a) after).issued

/-! One agent that asks for a nonce and signs it after a delay. -/

namespace Sample

def nonceSignature : String :=
  "e1808c22b6547ed996e755a2de94ff6d36fe75721ccde00890e444a7f1ba24e8" ++
    "3f27c26237be8456b8d74047014fab373d3914c4670114e0a79e1cf77403cc06"

def ed25519 : Ed25519 where
  validKey := Replay.ed25519.validKey
  verify := fun key message signature => Replay.ed25519.verify key message signature ||
    (hexDecode Replay.publicKey.toList = some key ∧ message = Replay.firstNonce ∧
      hexDecode nonceSignature.toList = some signature : Bool)

def rows : AgentId → Option Agent := fun a =>
  if a = Replay.agentId then some ⟨Replay.publicKey, none⟩ else none

def events (delay : ℤ) : List Event :=
  [.checkRequest 0 rows Replay.request Replay.sentAt,
    .reserve 0 Replay.sentAt Replay.firstNonce,
    .find 1 ⟨Replay.agentId.text, Replay.firstNonce, nonceSignature⟩,
    .check 1 rows (Replay.sentAt + seconds delay),
    .consume 1 (Replay.sentAt + seconds delay)]

theorem values :
    ((run (System.step ed25519) .init (events 60)).given.map Given.expiresAt =
        (run (System.step ed25519) .init (events 60)).issued.map Prod.snd ∧
      (run (System.step ed25519) .init (events 60)).issued.length = 1) ∧
    (run (System.step ed25519) .init (events 30)).issued.length = 1 ∧
    (run (System.step ed25519) .init (events 30)).challenges.len = 1 := by
  decide +kernel

end Sample

theorem token_at_expiry :
    (run (System.step Sample.ed25519) .init (Sample.events 60)).given.map Given.expiresAt =
      (run (System.step Sample.ed25519) .init (Sample.events 60)).issued.map Prod.snd ∧
    (run (System.step Sample.ed25519) .init (Sample.events 60)).issued.length = 1 :=
  Sample.values.1

theorem token_once_per_nonce_sample :
    ((run (System.step Sample.ed25519) .init (Sample.events 30)).issued.map
      (·.1.req.nonce)).Nodup ∧
    (run (System.step Sample.ed25519) .init (Sample.events 30)).issued.length = 1 :=
  ⟨(token_once_per_nonce Sample.ed25519 (Sample.events 30)).1, Sample.values.2.1⟩

/-! ## The bounds of the store -/

structure Bounded (s : System) : Prop where
  total : s.challenges.len ≤ maxPendingChallenges
  records : ∀ a, challengeRecordsForAgent s.challenges a ≤ maxChallengeRecordsPerAgent
  pending : ∀ a, pendingChallengesForAgent s.challenges a ≤ maxPendingChallengesPerAgent

theorem Bounded.of_sublist (h : Bounded s) (hkeys : s'.challenges.keys.Sublist s.challenges.keys) :
    Bounded s' where
  total := by
    rw [len_eq_keys_length]
    exact hkeys.length_le.trans (len_eq_keys_length _ ▸ h.total)
  records a := ((hkeys.filter _).length_le).trans (h.records a)
  pending a := ((hkeys.filter _).length_le).trans (h.pending a)

theorem length_filter_reserved_le (store : ChallengeStore) (a : AgentId)
    (req : GetJwtChallengeRequest) (nonce : String) (expiresAt : DateTime) (p : String → Bool) :
    ((reserved store a req nonce expiresAt).keys.filter p).length ≤ (store.keys.filter p).length +
      (if p (requestChallengeKey a req.requestNonce) then 1 else 0) +
      if p (challengeKey a nonce) then 1 else 0 :=
  (length_filter_keys_insert_le _ _ _ p).trans
    (Nat.add_le_add_right (length_filter_keys_insert_le _ _ _ p) _)

theorem startsWith_challengeKey_iff {key : String} :
    Text.startsWith key (a.text ++ ":") = true ↔ ∃ nonce, key = challengeKey a nonce :=
  startsWith_iff_exists

theorem bounded_reserved {nonce : String} (h : Bounded s) (hroom : Room s.challenges a)
    (hs' : s'.challenges = reserved s.challenges a req nonce expiresAt) : Bounded s' := by
  have hcount := length_filter_reserved_le s.challenges a req nonce expiresAt
  have hother : ∀ b, b ≠ a → ∀ key, RecordOf a key → isAgentKey b key = false := fun b hb key ha =>
    Bool.eq_false_iff.mpr fun hkey => hb ((isAgentKey_iff.mp hkey).unique ha)
  have hnonce : RecordOf a (challengeKey a nonce) := .inl ⟨_, rfl⟩
  have hrequest : RecordOf a (requestChallengeKey a req.requestNonce) := .inr ⟨_, rfl⟩
  refine ⟨?_, fun b => ?_, fun b => ?_⟩
  · rw [hs']
    have hlen := (len_insert_le (s.challenges.insert (requestChallengeKey a req.requestNonce)
      expiresAt) (challengeKey a nonce) expiresAt).trans
        (Nat.add_le_add_right (len_insert_le _ _ _) 1)
    exact hlen.trans hroom.total
  · have hb := hcount (isAgentKey b)
    rw [← hs'] at hb
    rcases eq_or_ne b a with rfl | hne
    · rw [if_pos (isAgentKey_iff.mpr hrequest), if_pos (isAgentKey_iff.mpr hnonce)] at hb
      exact hb.trans hroom.records
    · rw [hother b hne _ hrequest, hother b hne _ hnonce] at hb
      exact hb.trans (h.records b)
  · have hb := hcount fun key => Text.startsWith key (b.text ++ ":")
    have hkey : Text.startsWith (requestChallengeKey a req.requestNonce) (b.text ++ ":") = false :=
      Bool.eq_false_iff.mpr fun hstart => by
        obtain ⟨n, hn⟩ := startsWith_challengeKey_iff.mp hstart
        exact requestChallengeKey_ne_challengeKey a b _ n hn
    rw [← hs', hkey] at hb
    rcases eq_or_ne b a with rfl | hne
    · rw [startsWith_challengeKey_iff.mpr ⟨nonce, rfl⟩] at hb
      exact hb.trans hroom.pending
    · have hkey' : Text.startsWith (challengeKey a nonce) (b.text ++ ":") = false :=
        Bool.eq_false_iff.mpr fun hstart => by
          obtain ⟨n, hn⟩ := startsWith_challengeKey_iff.mp hstart
          exact hne (challengeKey_inj hn).1.symm
      rw [hkey'] at hb
      exact hb.trans (h.pending b)

theorem bounded_step (h : Bounded s) (e : Event) : Bounded (s.step ed e) := by
  cases effect_step ed s e with
  | removes hstore => exact h.of_sublist hstore.keys
  | gives a req now nonce hactor hinstant hfresh hroom hstore =>
    have hpruned : Bounded { s with challenges := pruneExpiredChallenges s.challenges now } :=
      h.of_sublist (removes_prune (o := none) now).keys
    exact bounded_reserved hpruned hroom hstore
  | issues c now hactor hfound hlive hstore =>
    refine h.of_sublist ?_
    rw [hstore]
    exact (removes_erase (i := none)).keys

theorem removed_by_owner {b : AgentId} {key : String} (hb : RecordOf b key)
    (hx : s.challenges.lookup key = some x) (hgone : (s.step ed e).challenges.lookup key ≠ some x) :
    s.actor e = some b ∨ ∃ t ∈ e.prunesAt, x ≤ t := by
  have howner : ∀ {a}, s.actor e = some a → RecordOf a key → s.actor e = some b :=
    fun ha hkey => hkey.unique hb ▸ ha
  cases effect_step ed s e with
  | removes hstore =>
    rcases hstore.kept key x hx with hkept | ⟨a, ha, hkey⟩ | hover
    · exact absurd hkept hgone
    · exact .inl (howner ha hkey)
    · exact .inr hover
  | gives a req now nonce hactor hinstant hfresh hroom hstore =>
    rcases (removes_prune (o := none) now).kept key x hx with hkept | ⟨_, hnone, -⟩ | hover
    · refine .inl (howner hactor ?_)
      by_contra hkey
      rw [hstore, reserved, lookup_insert_eq, if_neg, lookup_insert_eq, if_neg] at hgone
      · exact hgone hkept
      · rintro rfl
        exact hkey (.inr ⟨_, rfl⟩)
      · rintro rfl
        exact hkey (.inl ⟨_, rfl⟩)
    · cases hnone
    · exact .inr (hinstant ▸ hover)
  | issues c now hactor hfound hlive hstore =>
    rw [hstore] at hgone
    rcases (removes_erase (i := none)).kept key x hx with hkept | ⟨a, ha, hkey⟩ | ⟨_, hnone, -⟩
    · exact absurd hkept hgone
    · exact .inl (howner (hactor.trans ha) hkey)
    · cases hnone

/-- Over every interleaving the store keeps its bounds. What is counted for an agent, or purged
with it, are the records of that agent, and no record is the record of two agents; a record leaves
the store by a call for its agent or when its time is over. -/
theorem challenge_store_bounded (ed : Ed25519) (es : List Event) :
    (run (System.step ed) .init es).challenges.len ≤ 4096 ∧
    (∀ a, challengeRecordsForAgent (run (System.step ed) .init es).challenges a ≤ 32) ∧
    (∀ a, pendingChallengesForAgent (run (System.step ed) .init es).challenges a ≤ 16) ∧
    (∀ a key, isAgentKey a key = true ↔ RecordOf a key) ∧
    (∀ a key, Text.startsWith key (a.text ++ ":") = true ↔ ∃ nonce, key = challengeKey a nonce) ∧
    (∀ a b key, RecordOf a key → RecordOf b key → a = b) ∧
    ∀ e b key x, RecordOf b key → (run (System.step ed) .init es).challenges.lookup key = some x →
      (run (System.step ed) .init (es ++ [e])).challenges.lookup key ≠ some x →
        (run (System.step ed) .init es).actor e = some b ∨ ∃ t ∈ e.prunesAt, x ≤ t := by
  have hinit : Bounded .init := ⟨Nat.zero_le _, fun _ => Nat.zero_le _, fun _ => Nat.zero_le _⟩
  have hbounded : Bounded (run (System.step ed) .init es) :=
    run_induct (P := Bounded) (fun _ e h => bounded_step h e) hinit es
  refine ⟨hbounded.total, hbounded.records, hbounded.pending, fun _ _ => isAgentKey_iff,
    fun _ _ => startsWith_challengeKey_iff, fun _ _ _ => RecordOf.unique, ?_⟩
  intro e b key x hb hx hgone
  rw [run_snoc] at hgone
  exact removed_by_owner hb hx hgone

theorem challenge_store_bounded_sample :
    (run (System.step Sample.ed25519) .init (Sample.events 30)).challenges.len = 1 ∧
    challengeRecordsForAgent (run (System.step Sample.ed25519) .init (Sample.events 30)).challenges
      Replay.agentId ≤ 32 :=
  ⟨Sample.values.2.2, (challenge_store_bounded Sample.ed25519 (Sample.events 30)).2.1 _⟩

end Nonces

end XLStatus.Auth
