import XLStatus.Auth.ChallengeDefs

/-! Replays of a signed challenge request. An answered request is recorded for
`challengeTtlSeconds`, while its timestamp is accepted up to
`challengeRequestClockSkewSeconds` on either side of the clock; the record stops a
replay only as long as it lives. -/

namespace XLStatus.Auth

open Shared Transition List AList String

variable {ed : Ed25519} {s : System}

/-! ## Keys -/

theorem toList_challengeKey (a : AgentId) (n : String) :
    (challengeKey a n).toList = a.text.toList ++ ':' :: n.toList := by
  simp [challengeKey, toList_append]

theorem toList_requestChallengeKey (a : AgentId) (n : String) :
    (requestChallengeKey a n).toList =
      "request:".toList ++ (a.text.toList ++ ':' :: n.toList) := by
  have h : "request:".toList = "request".toList ++ [':'] := by decide
  simp [requestChallengeKey, requestChallengeKeyPrefix, toList_append, h]

theorem not_agent_prefix_requestKey (a b : AgentId) (n : String) (l : List Char) :
    ¬ b.text.toList ++ l <+: (requestChallengeKey a n).toList := by
  obtain ⟨c, cs, hb, hc⟩ := b.text_eq_cons
  have hr : "request:".toList = 'r' :: "equest:".toList := by decide
  rw [toList_requestChallengeKey, hb, hr]
  rintro h
  have hcr : c = 'r' := (cons_prefix_cons.mp h).1
  rw [hcr] at hc
  exact absurd hc (by decide)

theorem requestChallengeKey_ne_challengeKey (a b : AgentId) (n m : String) :
    requestChallengeKey a n ≠ challengeKey b m := by
  intro h
  refine not_agent_prefix_requestKey a b n (':' :: m.toList) ?_
  rw [h, toList_challengeKey]

variable {a b : AgentId} {n : String} {req : GetJwtChallengeRequest} {t : DateTime}
  {store : ChallengeStore}

theorem eq_of_isAgentKey_requestKey (h : isAgentKey b (requestChallengeKey a n) = true) :
    b = a := by
  rw [isAgentKey, Bool.or_eq_true, Text.startsWith_iff, Text.startsWith_iff] at h
  rcases h with h | h
  · rw [toList_append] at h
    exact absurd h (not_agent_prefix_requestKey a b n _)
  · have hkey : (requestChallengeKeyPrefix ++ ":" ++ b.text ++ ":").toList =
        "request:".toList ++ (b.text.toList ++ [':']) := by
      have h : "request:".toList = "request".toList ++ [':'] := by decide
      simp [requestChallengeKeyPrefix, toList_append, h]
    rw [hkey, toList_requestChallengeKey, prefix_append_right_inj] at h
    -- both identifiers have 36 characters, so the common start is all of them
    have hlen : b.text.toList.length = a.text.toList.length := by
      rw [a.length_text, b.length_text]
    obtain ⟨t, ht⟩ := h
    rw [List.append_assoc] at ht
    exact AgentId.ext_text (toList_inj.mp (append_inj_left ht hlen))

/-! ## One call -/

theorem checkChallengeRequest_ok {findById : AgentId → Option Agent}
    (h : checkChallengeRequest ed findById req t = .ok a) :
    parseAgentId req.agentId = .ok a ∧ (∃ publicKey, findById a = some ⟨publicKey, none⟩) ∧
      timestamp t ≤ req.requestTimestamp + challengeRequestClockSkewSeconds := by
  unfold checkChallengeRequest at h
  cases hp : parseAgentId req.agentId with
  | error => simp [hp, bind, Except.bind] at h
  | ok b =>
    simp only [hp, bind, Except.bind] at h
    cases hf : findById b with
    | none => simp [hf] at h
    | some agent =>
      obtain ⟨publicKey, revokedAt⟩ := agent
      cases revokedAt with
      | some => simp [hf] at h
      | none =>
        simp only [hf, Option.isSome_none, Bool.false_eq_true, if_false] at h
        cases hs : validateChallengeRequestShape req with
        | error => simp [hs] at h
        | ok u =>
          cases ht : validateChallengeRequestTimestamp req.requestTimestamp t with
          | error => simp [hs, ht] at h
          | ok =>
            have hab : b = a := by
              simp only [hs, ht] at h
              split at h
              · cases h
              · exact Except.ok.inj h
            subst hab
            refine ⟨rfl, ⟨publicKey, hf⟩, ?_⟩
            unfold validateChallengeRequestTimestamp at ht
            split at ht
            · cases ht
            · omega

theorem lookup_pruneExpired {e : DateTime} {k : String} (h : store.lookup k = some e)
    (now : DateTime) :
    (pruneExpiredChallenges store now).lookup k = some e ∨ e ≤ now := by
  rcases lt_or_ge now e with hlt | hle
  · left
    exact lookup_retain_eq_some.mpr ⟨h, decide_eq_true hlt⟩
  · exact .inr hle

theorem reserveChallenge_ok {now : DateTime} {nonce : String} {store' : ChallengeStore}
    {r : GetJwtChallengeResponse} (h : reserveChallenge a req now nonce store = (.ok r, store')) :
    (∀ e, store.lookup (requestChallengeKey a req.requestNonce) = some e → e ≤ now) ∧
      store'.lookup (requestChallengeKey a req.requestNonce) =
        some (now + seconds challengeTtlSeconds) := by
  unfold reserveChallenge at h
  simp only at h
  split at h
  · simp at h
  · rename_i hnew
    split at h
    · simp at h
    · obtain ⟨-, hstore⟩ := Prod.mk.inj h
      refine ⟨?_, ?_⟩
      · intro e he
        refine (lookup_pruneExpired he now).resolve_left ?_
        intro hk
        exact hnew (lookup_isSome.mp (by rw [hk]; rfl))
      · rw [← hstore, lookup_insert_eq,
          if_neg (requestChallengeKey_ne_challengeKey a a _ _), lookup_insert_eq,
          if_pos rfl]

theorem lookup_reserveChallenge {now e : DateTime} {nonce : String}
    (h : store.lookup (requestChallengeKey b n) = some e) :
    (reserveChallenge a req now nonce store).2.lookup (requestChallengeKey b n) = some e ∨
      e ≤ now := by
  rcases lookup_pruneExpired h now with hk | hle
  · unfold reserveChallenge
    simp only
    split
    · exact .inl hk
    · rename_i hnew
      split
      · exact .inl hk
      · left
        have hne : requestChallengeKey b n ≠ requestChallengeKey a req.requestNonce := by
          intro heq
          rw [heq] at hk
          exact hnew (lookup_isSome.mp (by rw [hk]; rfl))
        rw [lookup_insert_eq, if_neg (requestChallengeKey_ne_challengeKey b a _ _),
          lookup_insert_eq, if_neg hne, hk]
  · exact .inr hle

theorem lookup_getAgentJwtChallenge (ed : Ed25519) (findById : AgentId → Option Agent)
    (req : GetJwtChallengeRequest) (t now : DateTime) (nonce : String) {e : DateTime}
    (h : store.lookup (requestChallengeKey b n) = some e) :
    (getAgentJwtChallenge ed findById req t now nonce store).2.lookup (requestChallengeKey b n)
      = some e ∨ e ≤ now := by
  unfold getAgentJwtChallenge
  split
  · exact .inl h
  · exact lookup_reserveChallenge h

theorem lookup_erase_key (c : FoundChallenge) (b : AgentId) (n : String)
    (store : ChallengeStore) :
    (store.erase c.key).lookup (requestChallengeKey b n) =
      store.lookup (requestChallengeKey b n) := by
  rw [lookup_erase_eq]
  exact if_neg (requestChallengeKey_ne_challengeKey b c.agentId n _)

theorem lookup_checkChallenge (ed : Ed25519) (findById : AgentId → Option Agent)
    (c : FoundChallenge) (now : DateTime) (b : AgentId) (n : String) (store : ChallengeStore) :
    (checkChallenge ed findById c now store).2.lookup (requestChallengeKey b n) =
      store.lookup (requestChallengeKey b n) := by
  unfold checkChallenge
  split
  · exact lookup_erase_key c b n store
  · split
    · rfl
    · split <;> rfl

theorem lookup_consumeAgentJwtChallenge (c : FoundChallenge) (now : DateTime) (b : AgentId)
    (n : String) (store : ChallengeStore) :
    (consumeAgentJwtChallenge c now store).2.lookup (requestChallengeKey b n) =
      store.lookup (requestChallengeKey b n) := by
  unfold consumeAgentJwtChallenge
  split
  · rfl
  · split
    · split <;> exact lookup_erase_key c b n store
    · rfl

/-! ## Runs -/

structure AnsweredCall (ed : Ed25519) (s : System) (e : Event) (s' : System) where
  req : GetJwtChallengeRequest
  validateAt : DateTime
  now : DateTime
  nonce : String
  agentId : AgentId
  response : GetJwtChallengeResponse
  event_eq : e = .getAgentJwtChallenge req validateAt now nonce
  clock_le : s.clock ≤ now
  check : checkChallengeRequest ed s.agents req validateAt = .ok agentId
  reserve : reserveChallenge agentId req now nonce s.challenges = (.ok response, s'.challenges)
  answered_eq : s'.answered = s.answered ++ [(req, now)]

/-- All that a step does to the clock, the rows, the records of requests and the log:
a record is lost to the clock or with its agent only. -/
structure StepEffect (ed : Ed25519) (s : System) (e : Event) (s' : System) : Prop where
  clock_le : s.clock ≤ s'.clock
  gone : ∀ a, s.gone a = true → s'.gone a = true
  lookup : ∀ a n x, s.challenges.lookup (requestChallengeKey a n) = some x →
    s'.challenges.lookup (requestChallengeKey a n) = some x ∨ x ≤ s'.clock ∨ s'.gone a = true
  answered : s'.answered = s.answered ∨ Nonempty (AnsweredCall ed s e s')

variable {s' : System} {e : Event}

theorem StepEffect.refl : StepEffect ed s e s :=
  ⟨le_rfl, fun _ h => h, fun _ _ _ h => .inl h, .inl rfl⟩

theorem StepEffect.of_rows (hgone : ∀ a, s.gone a = true → s'.gone a = true)
    (hclock : s'.clock = s.clock) (hstore : s'.challenges = s.challenges)
    (hans : s'.answered = s.answered) : StepEffect ed s e s' :=
  ⟨hclock.ge, hgone, fun _ _ _ h => .inl (by rwa [hstore]), .inl hans⟩

theorem StepEffect.of_store (hclock : s.clock ≤ s'.clock) (hagents : s'.agents = s.agents)
    (hdeleted : s'.deleted = s.deleted)
    (hstore : ∀ a n x, s.challenges.lookup (requestChallengeKey a n) = some x →
      s'.challenges.lookup (requestChallengeKey a n) = some x ∨ x ≤ s'.clock)
    (hans : s'.answered = s.answered ∨ Nonempty (AnsweredCall ed s e s')) :
    StepEffect ed s e s' := by
  refine ⟨hclock, fun a h => ?_, fun a n x h => (hstore a n x h).imp_right .inl, hans⟩
  unfold System.gone at h ⊢
  rw [hagents, hdeleted]
  exact h

theorem gone_update {s : System} {row : Option Agent} (hb : b ≠ a) :
    ({ s with agents := Function.update s.agents a row } : System).gone b = s.gone b := by
  simp [System.gone, Function.update_of_ne hb]

theorem stepEffect_createAgent (s : System) (a : AgentId) (publicKey : String) :
    StepEffect ed s e (s.step ed (.createAgent a publicKey)) := by
  simp only [System.step]
  split
  · rename_i hnew
    refine .of_rows (fun b hb => ?_) rfl rfl rfl
    by_cases hba : b = a
    · subst hba
      simp [System.gone, hnew.1, hnew.2] at hb
    · rw [gone_update hba]
      exact hb
  · exact .refl

theorem stepEffect_revokeAgent (s : System) (a : AgentId) (t : DateTime) :
    StepEffect ed s e (s.step ed (.revokeAgent a t)) := by
  simp only [System.step]
  split
  · refine .of_rows (fun b hb => ?_) rfl rfl rfl
    by_cases hba : b = a
    · subst hba
      simp [System.gone]
    · rw [gone_update hba]
      exact hb
  · exact .refl

theorem stepEffect_deleteAgent (s : System) (a : AgentId) :
    StepEffect ed s e (s.step ed (.deleteAgent a)) := by
  refine .of_rows (fun b hb => ?_) rfl rfl rfl
  by_cases hba : b = a
  · subst hba
    simp [System.step, System.gone]
  · simpa [System.step, System.gone, Function.update_of_ne hba] using hb

theorem stepEffect_purge (s : System) (a : AgentId) :
    StepEffect ed s e (s.step ed (.purgeAgentJwtChallenges a)) := by
  simp only [System.step]
  split
  · rename_i hgone
    refine ⟨le_rfl, fun _ h => h, fun b n x h => ?_, .inl rfl⟩
    by_cases hkey : isAgentKey a (requestChallengeKey b n) = true
    · rw [eq_of_isAgentKey_requestKey hkey] at hgone
      exact .inr (.inr hgone)
    · exact .inl (lookup_retain_eq_some.mpr ⟨h, by simpa using hkey⟩)
  · exact .refl

theorem stepEffect_getAgentJwtChallenge (s : System) (req : GetJwtChallengeRequest)
    (t now : DateTime) (nonce : String) :
    StepEffect ed s (.getAgentJwtChallenge req t now nonce)
      (s.step ed (.getAgentJwtChallenge req t now nonce)) := by
  simp only [System.step]
  split
  · rename_i hclock
    have hle : s.clock ≤ now := hclock.1.trans hclock.2
    have hstore : ∀ a n x, s.challenges.lookup (requestChallengeKey a n) = some x → _ :=
      fun a n x h => lookup_getAgentJwtChallenge ed s.agents req t now nonce h
    split
    · rename_i r store' heq
      rw [heq] at hstore
      refine .of_store hle rfl rfl hstore (.inr ?_)
      unfold getAgentJwtChallenge at heq
      split at heq
      · simp at heq
      · rename_i a hcheck
        exact ⟨⟨req, t, now, nonce, a, r, rfl, hle, hcheck, heq, rfl⟩⟩
    · rename_i heq
      rw [heq] at hstore
      exact .of_store hle rfl rfl hstore (.inl rfl)
  · exact .refl

theorem stepEffect_jwt_step (s : System) (call : ℕ) (now : DateTime) :
    StepEffect ed s e (s.step ed (.checkChallenge call now)) ∧
      StepEffect ed s e (s.step ed (.consumeAgentJwtChallenge call now)) := by
  constructor
  · simp only [System.step]
    split
    · rename_i c _
      have hstore := fun a n => lookup_checkChallenge ed s.agents c now a n s.challenges
      split
      · split <;>
        · rename_i hle _ _ _ heq
          rw [heq] at hstore
          exact .of_store hle rfl rfl (fun a n x h => .inl ((hstore a n).trans h)) (.inl rfl)
      · exact .refl
    · exact .refl
  · simp only [System.step]
    split
    · rename_i c _
      have hstore := fun a n => lookup_consumeAgentJwtChallenge c now a n s.challenges
      split
      · split <;>
        · rename_i hle _ _ _ heq
          rw [heq] at hstore
          exact .of_store hle rfl rfl (fun a n x h => .inl ((hstore a n).trans h)) (.inl rfl)
      · exact .refl
    · exact .refl

theorem stepEffect (s : System) (e : Event) : StepEffect ed s e (s.step ed e) := by
  cases e with
  | createAgent a publicKey => exact stepEffect_createAgent s a publicKey
  | revokeAgent a t => exact stepEffect_revokeAgent s a t
  | deleteAgent a => exact stepEffect_deleteAgent s a
  | purgeAgentJwtChallenges a => exact stepEffect_purge s a
  | getAgentJwtChallenge req t now nonce => exact stepEffect_getAgentJwtChallenge s req t now nonce
  | findChallenge =>
    simp only [System.step]
    split
    · exact .of_rows (fun _ h => h) rfl rfl rfl
    · exact .refl
  | checkChallenge call now => exact (stepEffect_jwt_step s call now).1
  | consumeAgentJwtChallenge call now => exact (stepEffect_jwt_step s call now).2

/-- What stands between an answered request and its replay: the agent is gone, the
record's time is over, or the record is in the store. -/
def Recorded (s : System) (req : GetJwtChallengeRequest) (t : DateTime) : Prop :=
  ∃ a, parseAgentId req.agentId = .ok a ∧
    (s.gone a = true ∨ t + seconds challengeTtlSeconds ≤ s.clock ∨
      ∃ e, t + seconds challengeTtlSeconds ≤ e ∧
        s.challenges.lookup (requestChallengeKey a req.requestNonce) = some e)

theorem recorded_step (heff : StepEffect ed s e s') (h : Recorded s req t) : Recorded s' req t := by
  obtain ⟨a, ha, h⟩ := h
  refine ⟨a, ha, ?_⟩
  rcases h with hgone | hclock | ⟨x, hx, hlook⟩
  · exact .inl (heff.gone a hgone)
  · exact .inr (.inl (hclock.trans heff.clock_le))
  · rcases heff.lookup a _ x hlook with hk | hle | hgone
    · exact .inr (.inr ⟨x, hx, hk⟩)
    · exact .inr (.inl (hx.trans hle))
    · exact .inl hgone

/-- When the call comes, each earlier answer to the same request is still recorded,
or the request's timestamp has left the acceptance window. -/
def InReplayWindow (s : System) : Event → Prop
  | .getAgentJwtChallenge req validateAt now _ =>
    ∀ t, (req, t) ∈ s.answered → now < t + seconds challengeTtlSeconds ∨
      req.requestTimestamp + challengeRequestClockSkewSeconds < timestamp validateAt
  | _ => True

structure ReplayInv (s : System) : Prop where
  recorded : ∀ req t, (req, t) ∈ s.answered → Recorded s req t
  nodup : (s.answered.map Prod.fst).Nodup

theorem AnsweredCall.not_recorded (c : AnsweredCall ed s e s') {t₀ : DateTime}
    (hwin : c.now < t₀ + seconds challengeTtlSeconds ∨
      c.req.requestTimestamp + challengeRequestClockSkewSeconds < timestamp c.validateAt) :
    ¬ Recorded s c.req t₀ := by
  rintro ⟨b, hb, hrec⟩
  obtain ⟨ha, ⟨publicKey, hrow⟩, hts⟩ := checkChallengeRequest_ok c.check
  obtain rfl : b = c.agentId := Except.ok.inj (hb.symm.trans ha)
  have hnow : c.now < t₀ + seconds challengeTtlSeconds := hwin.resolve_right (by omega)
  rcases hrec with hgone | hover | ⟨x, hx, hlook⟩
  · simp [System.gone, hrow] at hgone
  · exact (hover.trans c.clock_le).not_gt hnow
  · exact (hx.trans ((reserveChallenge_ok c.reserve).1 x hlook)).not_gt hnow

theorem AnsweredCall.recorded (c : AnsweredCall ed s e s') : Recorded s' c.req c.now :=
  ⟨c.agentId, (checkChallengeRequest_ok c.check).1,
    .inr (.inr ⟨_, le_rfl, (reserveChallenge_ok c.reserve).2⟩)⟩

theorem replayInv_step (heff : StepEffect ed s e s') (hguard : InReplayWindow s e)
    (h : ReplayInv s) : ReplayInv s' := by
  rcases heff.answered with hsame | ⟨⟨c⟩⟩
  · refine ⟨?_, by rw [hsame]; exact h.nodup⟩
    intro req t hmem
    rw [hsame] at hmem
    exact recorded_step heff (h.recorded req t hmem)
  · constructor
    · intro req t hmem
      rw [c.answered_eq, mem_append, mem_singleton] at hmem
      rcases hmem with hold | hnew
      · exact recorded_step heff (h.recorded req t hold)
      · obtain ⟨rfl, rfl⟩ := Prod.mk.inj hnew
        exact c.recorded
    · rw [c.answered_eq, map_append, nodup_append]
      refine ⟨h.nodup, by simp, ?_⟩
      rintro x hx y hy rfl
      obtain ⟨⟨req, t₀⟩, hmem, rfl⟩ := mem_map.mp hx
      obtain rfl : req = c.req := by simpa using hy
      rw [c.event_eq] at hguard
      exact c.not_recorded (hguard t₀ hmem) (h.recorded _ t₀ hmem)

/-! A replayed request. The signature is that of the key on the request's
payload, so an Ed25519 implementation accepts it. -/

namespace Replay

def agentId : AgentId := ⟨"00000000-0000-4000-8000-000000000001", canonical_one⟩

def publicKey : String := "03a107bff3ce10be1d70dd18e74bc09967e4d6309ba50d5f1ddc8664125531b8"

def request : GetJwtChallengeRequest where
  agentId := "00000000-0000-4000-8000-000000000001"
  requestNonce := "0123456789abcdef0123456789abcdef0123456789abcdef0123456789abcdef"
  requestTimestamp := 1700000000
  signature := "40cc7c09b669ca650cced9c6dfa726efeb591e1cb63f15ab1a982959f7ed24ce" ++
    "46a481ae879ac9aeda187578b1372dfcb714688cd468be13c86b0aaf0c7e7701"

def ed25519 : Ed25519 where
  validKey := fun key => hexDecode publicKey.toList = some key
  verify := fun key message signature =>
    hexDecode publicKey.toList = some key ∧
      message = challengeRequestSignaturePayload agentId request.requestNonce 1700000000 ∧
      hexDecode request.signature.toList = some signature

def sentAt : DateTime := seconds 1700000000

def create : Event := .createAgent agentId publicKey

def send (delay : ℤ) (nonce : String) : Event :=
  .getAgentJwtChallenge request (sentAt + seconds delay) (sentAt + seconds delay) nonce

def firstNonce : String := "1111111111111111111111111111111111111111111111111111111111111111"

def secondNonce : String := "2222222222222222222222222222222222222222222222222222222222222222"

def events (delay : ℤ) : List Event := [create, send 0 firstNonce, send delay secondNonce]

theorem answered_first :
    ((System.init.step ed25519 create).step ed25519 (send 0 firstNonce)).answered =
      [(request, sentAt)] := by
  decide +kernel

theorem meets_early :
    Meets (System.step ed25519) InReplayWindow System.init (events 30) := by
  refine ⟨trivial, ?_, ?_, trivial⟩
  · intro t ht
    exact nomatch ht
  · intro t ht
    rw [answered_first, mem_singleton] at ht
    obtain rfl : t = sentAt := congrArg Prod.snd ht
    exact .inl (by decide)

end Replay

/-- As long as no call repeats a request after its record expired and before its
timestamp did, no request is answered twice. -/
theorem answered_nodup_of_inReplayWindow (ed : Ed25519) (es : List Event)
    (h : Meets (System.step ed) InReplayWindow System.init es) :
    ((run (System.step ed) System.init es).answered.map Prod.fst).Nodup := by
  have hinit : ReplayInv System.init := ⟨fun _ _ h => (nomatch h), nodup_nil⟩
  have hstep : ∀ s e, InReplayWindow s e → ReplayInv s → ReplayInv (System.step ed s e) :=
    fun s e => replayInv_step (stepEffect s e)
  exact (run_induct_of_meets hstep hinit h).nodup

theorem answered_nodup_of_inReplayWindow_early :
    Meets (System.step Replay.ed25519) InReplayWindow System.init (Replay.events 30) ∧
      ((run (System.step Replay.ed25519) System.init (Replay.events 30)).answered.map
        Prod.fst).Nodup :=
  ⟨Replay.meets_early, answered_nodup_of_inReplayWindow _ _ Replay.meets_early⟩

theorem replay_after_expiry_answered :
    (run (System.step Replay.ed25519) System.init (Replay.events 60)).answered =
      [(Replay.request, Replay.sentAt), (Replay.request, Replay.sentAt + seconds 60)] := by
  decide +kernel

end XLStatus.Auth
