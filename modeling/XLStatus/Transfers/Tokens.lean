import XLStatus.Lib.Lease
import XLStatus.Transfers.TokensDefs

/-! A transfer token is a lease of one use: the requests take it by a conditional update, and
only a request that has it sends a task. -/

namespace XLStatus.Transfers

open Shared Auth Transition Option Function

/-! ## The table under conditional updates -/

namespace Tokens

variable {tokens : Tokens} {id t : String} {p : TemporaryTransferToken → Bool}
  {f : TemporaryTransferToken → TemporaryTransferToken} {P : TemporaryTransferToken → Prop}

def Has (tokens : Tokens) (t : String) (P : TemporaryTransferToken → Prop) : Prop :=
  ∃ row, tokens.lookup t = some row ∧ P row

theorem updateWhere_cases (tokens : Tokens) (id : String) (p : TemporaryTransferToken → Bool)
    (f : TemporaryTransferToken → TemporaryTransferToken) :
    tokens.updateWhere id p f = (tokens, false) ∧ ¬ tokens.Has id (p · = true) ∨
      ∃ row, tokens.lookup id = some row ∧ p row = true ∧
        tokens.updateWhere id p f = (tokens.insert id (f row), true) := by
  unfold updateWhere
  cases hrow : tokens.lookup id with
  | none => exact .inl ⟨rfl, fun ⟨row, h, _⟩ => by simp [hrow] at h⟩
  | some row =>
    by_cases hp : p row = true
    · exact .inr ⟨row, rfl, hp, by simp [hp]⟩
    · refine .inl ⟨by simp [hp], fun ⟨row', h, hp'⟩ => hp ?_⟩
      cases hrow.symm.trans h
      exact hp'

theorem has_insert_self {row : TemporaryTransferToken} (h : P row) :
    Tokens.Has (tokens.insert t row) t P :=
  ⟨row, AList.lookup_insert tokens, h⟩

theorem has_updateWhere (hf : t = id → ∀ row, P row → P (f row)) (h : tokens.Has t P) :
    (tokens.updateWhere id p f).1.Has t P := by
  obtain ⟨row, hrow, hP⟩ := h
  obtain ⟨heq, -⟩ | ⟨row', hrow', -, heq⟩ := updateWhere_cases tokens id p f
  · rw [heq]
    exact ⟨row, hrow, hP⟩
  · rw [heq]
    by_cases ht : t = id
    · subst ht
      cases hrow.symm.trans hrow'
      exact has_insert_self (hf rfl row hP)
    · exact ⟨row, by rw [AList.lookup_insert_ne ht]; exact hrow, hP⟩

theorem of_updateWhere (h : (tokens.updateWhere id p f).2 = true) :
    ∃ row, tokens.lookup id = some row ∧ p row = true ∧
      (tokens.updateWhere id p f).1 = tokens.insert id (f row) := by
  obtain ⟨heq, -⟩ | ⟨row, hrow, hp, heq⟩ := updateWhere_cases tokens id p f
  · rw [heq] at h
    cases h
  · exact ⟨row, hrow, hp, by rw [heq]⟩

end Tokens

/-! ## What a request has of its token -/

namespace Phase

def claims : Phase → Option String
  | .receive transfer _ | .commit transfer _ _ | .release transfer _ _ | .dispatch transfer _ =>
    some transfer.tokenId
  | _ => none

def Closed : Phase → Prop
  | .release _ _ _ | .await _ _ _ | .record _ _ _ | .done _ | .dropped => True
  | _ => False

end Phase

def Used (row : TemporaryTransferToken) : Prop := row.usedAt.isSome = true

def Revoked (row : TemporaryTransferToken) : Prop := row.revokedAt.isSome = true

inductive StatementEffect (t : String) (tokens tokens' : Tokens) (call told untold : Call) :
    Prop where
  | quiet (hused : tokens.Has t Used → tokens'.Has t Used)
      (htold : told.phase.claims = some t → call.phase.claims = some t)
      (huntold : untold.phase.claims = none)
  | take (hfree : ¬ tokens.Has t Used) (htaken : tokens'.Has t Used)
      (huntold : untold.phase.claims = none)
  | giveBack (hcall : call.phase.claims = some t) (htold : told.phase.claims = none)
      (huntold : untold.phase.claims = none)

section Statement

variable {env : Env} {now : DateTime} {tokens tokens' : Tokens} {call told untold : Call}

theorem claims_found (call : Call) (found : Option (String × TemporaryTransferToken)) :
    (call.found now found).phase.claims = none := by
  unfold Call.found
  split
  · rfl
  · split <;> rfl

variable {t : String}

theorem takes_of_applied {id : String} {p : TemporaryTransferToken → Bool}
    {f : TemporaryTransferToken → TemporaryTransferToken} {next refused : Call}
    (hp : ∀ row, p row = true → row.usedAt.isNone = true) (hf : ∀ row, Used (f row))
    (hnext : next.phase.claims = some id) (hrefused : refused.phase.claims = none)
    (huntold : untold.phase.claims = none) :
    StatementEffect t tokens (tokens.updateWhere id p f).1 call
      (if (tokens.updateWhere id p f).2 then next else refused) untold := by
  have hused : tokens.Has t Used → (tokens.updateWhere id p f).1.Has t Used :=
    Tokens.has_updateWhere fun _ row _ => hf row
  cases happlied : (tokens.updateWhere id p f).2 with
  | false => exact .quiet hused (fun h => by simp [hrefused] at h) huntold
  | true =>
    by_cases ht : id = t
    · subst ht
      obtain ⟨row, hrow, hprow, heq⟩ := Tokens.of_updateWhere happlied
      refine .take (fun ⟨row', hrow', hused'⟩ => ?_) ?_ huntold
      · cases hrow.symm.trans hrow'
        have hnone := hp row hprow
        rw [isNone_iff_eq_none] at hnone
        simp [Used, hnone] at hused'
      · rw [heq]
        exact Tokens.has_insert_self (hf row)
    · refine .quiet hused (fun h => absurd ?_ ht) huntold
      simpa [hnext] using h

theorem statement_effect (t : String)
    (h : call.statement env now tokens = some (tokens', told, untold)) :
    StatementEffect t tokens tokens' call told untold := by
  unfold Call.statement at h
  cases hphase : call.phase <;>
    simp only [hphase, some.injEq, Prod.mk.injEq, reduceCtorEq] at h
  case find =>
    obtain ⟨rfl, rfl, rfl⟩ := h
    exact .quiet id (fun h => by simp [claims_found] at h) rfl
  case consume transfer =>
    obtain ⟨rfl, rfl, rfl⟩ := h
    exact takes_of_applied (fun row hrow => by simp_all) (fun row => rfl) rfl rfl rfl
  case reserve transfer reservationId =>
    obtain ⟨rfl, rfl, rfl⟩ := h
    exact takes_of_applied (fun row hrow => by simp_all) (fun row => rfl) rfl rfl rfl
  case commit transfer reservationId body =>
    obtain ⟨rfl, rfl, rfl⟩ := h
    refine .quiet (Tokens.has_updateWhere fun _ row hrow => hrow) (fun h => ?_) rfl
    rw [hphase]
    split at h <;> exact h
  case release transfer reservationId error =>
    obtain ⟨rfl, rfl, rfl⟩ := h
    by_cases ht : t = transfer.tokenId
    · exact .giveBack (by rw [hphase, ht]; rfl) rfl rfl
    · exact .quiet (Tokens.has_updateWhere fun heq => absurd heq ht) (fun h => by cases h) rfl
  case record transfer agentTaskId answer =>
    obtain ⟨rfl, rfl, rfl⟩ := h
    refine .quiet (fun hused => ?_) (fun h => by cases h) rfl
    cases answer <;> exact Tokens.has_updateWhere (fun _ row hrow => hrow) hused

theorem closed_statement (h : call.statement env now tokens = some (tokens', told, untold))
    (hclosed : call.phase.Closed) : told.phase.Closed ∧ untold.phase.Closed := by
  unfold Call.statement at h
  cases hphase : call.phase <;>
    simp only [hphase, some.injEq, Prod.mk.injEq, reduceCtorEq] at h
  case release transfer reservationId error =>
    obtain ⟨-, rfl, rfl⟩ := h
    exact ⟨trivial, trivial⟩
  case record transfer agentTaskId answer =>
    obtain ⟨-, rfl, rfl⟩ := h
    exact ⟨trivial, trivial⟩
  all_goals exact absurd hclosed (by simp [hphase, Phase.Closed])

theorem revoked_statement (h : call.statement env now tokens = some (tokens', told, untold))
    (hrevoked : tokens.Has t Revoked) : tokens'.Has t Revoked := by
  unfold Call.statement at h
  cases hphase : call.phase <;>
    simp only [hphase, some.injEq, Prod.mk.injEq, reduceCtorEq] at h
  case find =>
    obtain ⟨rfl, -, -⟩ := h
    exact hrevoked
  case record transfer agentTaskId answer =>
    obtain ⟨rfl, -, -⟩ := h
    cases answer <;> exact Tokens.has_updateWhere (fun _ row hrow => hrow) hrevoked
  case consume | reserve | commit | release =>
    obtain ⟨rfl, -, -⟩ := h
    exact Tokens.has_updateWhere (fun _ row hrow => hrow) hrevoked

end Statement

/-! ## What a step of a request does -/

inductive CallEffect (st : System) (k : ℕ) (call : Call) : System → Prop where
  | stay : CallEffect st k call st
  | move (next : Call)
      (hclaims : next.phase.claims = none ∨ next.phase.claims = call.phase.claims)
      (hclosed : call.phase.Closed → next.phase.Closed) : CallEffect st k call (st.setCall k next)
  | send (transfer : ValidatedTemporaryTransfer) (task : FileTask) (runId : String)
      (hphase : call.phase = .dispatch transfer task) :
      CallEffect st k call ((st.log ⟨k, transfer.tokenId, transfer.serverId, task⟩).setCall k
        (call.goTo (.await transfer task runId)))

theorem callEffect_fail (st : System) (k : ℕ) (call : Call) (error : ApiError) :
    CallEffect st k call (st.setCall k (call.fail error)) :=
  .move _ (.inl rfl) fun _ => trivial

theorem callEffect_stepCall (env : Env) (st : System) (k : ℕ) (call : Call) {input : Input}
    (hinput : ∀ reply, input ≠ .statement reply) :
    CallEffect st k call (st.stepCall env k call input) := by
  cases input with
  | statement reply => exact absurd rfl (hinput reply)
  | issuer =>
    simp only [System.stepCall]
    split
    · rename_i hphase
      split
      · exact callEffect_fail st k call _
      · refine .move _ (.inl ?_) fun h => absurd h (by simp [hphase, Phase.Closed])
        unfold Call.validated
        split <;> rfl
    · exact .stay
  | body =>
    simp only [System.stepCall]
    split
    · rename_i hphase
      split
      · exact .move _ (.inr (by rw [hphase]; rfl)) fun _ => trivial
      · exact .move _ (.inr (by rw [hphase]; rfl)) fun h =>
          absurd h (by simp [hphase, Phase.Closed])
    · exact .stay
  | agent =>
    simp only [System.stepCall]
    split
    · rename_i hphase
      split
      · exact .move _ (.inl rfl) fun _ => trivial
      · split
        · exact .move _ (.inl rfl) fun _ => trivial
        · exact .send _ _ _ hphase
    · exact .stay
  | result =>
    simp only [System.stepCall]
    split
    · exact .move _ (.inl rfl) fun _ => trivial
    · exact .stay

theorem claims_start (op : TransferOp) (token clientIp : String) (limited : Except ApiError Unit) :
    (System.start op token clientIp limited).phase.claims = none := by
  unfold System.start
  split
  · rfl
  · split <;> rfl

inductive Effect (env : Env) (st : System) : System → Prop where
  | stay : Effect env st st
  | begins (k : ℕ) (next : Call) (hcall : st.calls k = none)
      (hclaims : next.phase.claims = none) : Effect env st (st.setCall k next)
  | states (k : ℕ) (call : Call) (reply : Reply) (hcall : st.calls k = some call) :
      Effect env st (st.stepStatement env k call reply)
  | moves (k : ℕ) (call : Call) (st' : System) (hcall : st.calls k = some call)
      (h : CallEffect st k call st') : Effect env st st'
  | revokes (tokenId : String) :
      Effect env st { st with tokens := (st.tokens.revoke env st.clock tokenId).1 }
  | ticks (clock : DateTime) : Effect env st { st with clock }

theorem effect_step (env : Env) (st : System) (e : Event) : Effect env st (st.step env e) := by
  cases e with
  | request k op token clientIp limited =>
    simp only [System.step]
    split
    · rename_i hcall
      exact .begins k _ hcall (claims_start op token clientIp limited)
    · exact .stay
  | step k input =>
    simp only [System.step]
    split
    · exact .stay
    · rename_i call hcall
      cases input with
      | statement reply => exact .states k call reply hcall
      | _ => exact .moves k call _ hcall (callEffect_stepCall env st k call (by simp))
  | drop k =>
    simp only [System.step]
    split
    · exact .stay
    · rename_i call hcall
      exact .moves k call _ hcall (.move _ (.inl rfl) fun _ => trivial)
  | revoke tokenId reply =>
    cases reply with
    | failed => exact .stay
    | done => exact .revokes tokenId
    | lost => exact .revokes tokenId
  | tick => exact .ticks _

/-! ## The lease -/

def System.sentFor (st : System) (t : String) : List Dispatch :=
  st.dispatched.filter fun d => d.tokenId == t

def HoldsIn (calls : ℕ → Option Call) (t : String) (k : ℕ) : Prop :=
  ∃ call, calls k = some call ∧ call.phase.claims = some t

def System.lease (st : System) (t : String) : Lease ℕ :=
  ⟨st.tokens.Has t Used, HoldsIn st.calls t, (st.sentFor t).length⟩

theorem holdsIn_update {calls : ℕ → Option Call} {t : String} {k a : ℕ} {next : Call}
    (h : HoldsIn (Function.update calls k (some next)) t a) :
    a = k ∧ next.phase.claims = some t ∨ a ≠ k ∧ HoldsIn calls t a := by
  obtain ⟨call, hcall, hclaims⟩ := h
  by_cases ha : a = k
  · subst ha
    rw [update_self] at hcall
    cases hcall
    exact .inl ⟨rfl, hclaims⟩
  · rw [update_of_ne ha] at hcall
    exact .inr ⟨ha, call, hcall, hclaims⟩

section Lease

variable {env : Env} {st : System} {k : ℕ} {call next : Call} {t : String}

variable {a : ℕ}

theorem holdsIn_of_claims (hcall : st.calls k = some call)
    (hclaims : next.phase.claims = some t → call.phase.claims = some t)
    (h : HoldsIn (Function.update st.calls k (some next)) t a) : HoldsIn st.calls t a := by
  obtain ⟨rfl, hnext⟩ | ⟨-, h⟩ := holdsIn_update h
  · exact ⟨call, hcall, hclaims hnext⟩
  · exact h

theorem holdsIn_of_none (hnext : next.phase.claims = none)
    (h : HoldsIn (Function.update st.calls k (some next)) t a) : a ≠ k ∧ HoldsIn st.calls t a :=
  (holdsIn_update h).resolve_left fun ⟨_, h⟩ => by simp [hnext] at h

theorem lease_stepStatement (hcall : st.calls k = some call) (reply : Reply) :
    Lease.Step (st.lease t) ((st.stepStatement env k call reply).lease t) := by
  unfold System.stepStatement
  cases hstatement : call.statement env st.clock st.tokens with
  | none => exact .lose id (fun _ h => h) rfl
  | some result =>
    obtain ⟨tokens, told, untold⟩ := result
    cases statement_effect t hstatement with
    | quiet hused htold huntold =>
      cases reply with
      | done => exact .lose hused (fun _ h => holdsIn_of_claims hcall htold h) rfl
      | failed => exact .lose id (fun _ h => (holdsIn_of_none huntold h).2) rfl
      | lost => exact .lose hused (fun _ h => (holdsIn_of_none huntold h).2) rfl
    | take hfree htaken huntold =>
      cases reply with
      | done =>
        refine .take k hfree htaken (fun a h => ?_) rfl
        obtain ⟨rfl, -⟩ | ⟨-, h⟩ := holdsIn_update h
        · exact .inl rfl
        · exact .inr h
      | failed => exact .lose id (fun _ h => (holdsIn_of_none huntold h).2) rfl
      | lost => exact .lose (fun _ => htaken) (fun _ h => (holdsIn_of_none huntold h).2) rfl
    | giveBack hclaims htold huntold =>
      have hholds : (st.lease t).Holds k := ⟨call, hcall, hclaims⟩
      cases reply with
      | done => exact .giveBack k hholds (fun _ h => holdsIn_of_none htold h) rfl
      | failed => exact .giveBack k hholds (fun _ h => holdsIn_of_none huntold h) rfl
      | lost => exact .giveBack k hholds (fun _ h => holdsIn_of_none huntold h) rfl

theorem lease_callEffect (hcall : st.calls k = some call) {st' : System}
    (h : CallEffect st k call st') : Lease.Step (st.lease t) (st'.lease t) := by
  cases h with
  | stay => exact .lose id (fun _ h => h) rfl
  | move next hclaims =>
    refine .lose id (fun a h => holdsIn_of_claims hcall (fun hnext => ?_) h) rfl
    obtain hnone | hsame := hclaims
    · simp [hnone] at hnext
    · exact hsame ▸ hnext
  | send transfer task runId hphase =>
    by_cases ht : transfer.tokenId = t
    · have hholds : (st.lease t).Holds k := ⟨call, hcall, by rw [hphase, ← ht]; rfl⟩
      refine .spend k hholds id (fun a h => holdsIn_of_none rfl h) ?_
      simp [System.lease, System.sentFor, System.log, System.setCall, ht]
    · refine .lose id (fun a h => (holdsIn_of_none rfl h).2) ?_
      simp [System.lease, System.sentFor, System.log, System.setCall, ht]

theorem lease_step (st : System) (e : Event) :
    Lease.Step (st.lease t) ((st.step env e).lease t) := by
  generalize hst' : st.step env e = st'
  cases hst' ▸ effect_step env st e with
  | stay => exact .lose id (fun _ h => h) rfl
  | begins k next hcall hclaims => exact .lose id (fun a h => (holdsIn_of_none hclaims h).2) rfl
  | states k call reply hcall => exact lease_stepStatement hcall reply
  | moves k call st' hcall heffect => exact lease_callEffect hcall heffect
  | revokes =>
    exact .lose (Tokens.has_updateWhere fun _ _ hrow => hrow) (fun _ h => h) rfl
  | ticks => exact .lose id (fun _ h => h) rfl

theorem single_lease (env : Env) (clock : DateTime) (tokens : Tokens) (t : String)
    (es : List Event) : ((run (System.step env) (.init clock tokens) es).lease t).Single := by
  have hinit : ((System.init clock tokens).lease t).Single := by
    refine Lease.single_of_unused (fun k h => ?_) rfl
    obtain ⟨call, hcall, -⟩ := h
    cases hcall
  exact run_induct (P := fun st : System => (st.lease t).Single)
    (fun st e h => h.step (lease_step st e)) hinit es

end Lease

/-! ## Requests that send nothing more -/

def System.Closed (st : System) (k : ℕ) : Prop :=
  ∃ call, st.calls k = some call ∧ call.phase.Closed

section Closed

variable {env : Env} {st : System} {k : ℕ}

variable {next : Call} {a : ℕ}

theorem closed_setCall (h : st.Closed k)
    (hnext : ∀ call, st.calls a = some call → call.phase.Closed → next.phase.Closed) :
    (st.setCall a next).Closed k := by
  obtain ⟨call, hcall, hclosed⟩ := h
  unfold System.Closed System.setCall
  by_cases hk : k = a
  · subst hk
    exact ⟨next, update_self .., hnext call hcall hclosed⟩
  · exact ⟨call, (update_of_ne hk ..).trans hcall, hclosed⟩

theorem closed_setCall_self (h : next.phase.Closed) : (st.setCall k next).Closed k :=
  ⟨next, update_self .., h⟩

theorem closed_stepStatement {call : Call} (hcall : st.calls a = some call) (reply : Reply)
    (h : st.Closed k) : (st.stepStatement env a call reply).Closed k := by
  unfold System.stepStatement
  cases hstatement : call.statement env st.clock st.tokens with
  | none => exact h
  | some result =>
    obtain ⟨tokens, told, untold⟩ := result
    have hnext : ∀ call', st.calls a = some call' → call'.phase.Closed →
        told.phase.Closed ∧ untold.phase.Closed := by
      intro call' hcall' hclosed
      cases hcall.symm.trans hcall'
      exact closed_statement hstatement hclosed
    have hwith : System.Closed { st with tokens } k := h
    cases reply with
    | done => exact closed_setCall hwith fun c hc hclosed => (hnext c hc hclosed).1
    | failed => exact closed_setCall h fun c hc hclosed => (hnext c hc hclosed).2
    | lost => exact closed_setCall hwith fun c hc hclosed => (hnext c hc hclosed).2

theorem closed_callEffect {call : Call} (hcall : st.calls a = some call) {st' : System}
    (heffect : CallEffect st a call st') (h : st.Closed k) : st'.Closed k := by
  cases heffect with
  | stay => exact h
  | move next hclaims hclosed =>
    refine closed_setCall h fun call' hcall' hclosed' => ?_
    cases hcall.symm.trans hcall'
    exact hclosed hclosed'
  | send transfer task =>
    have hlog : (st.log ⟨a, transfer.tokenId, transfer.serverId, task⟩).Closed k := h
    exact closed_setCall hlog fun _ _ _ => trivial

theorem closed_step (e : Event) (h : st.Closed k) : (st.step env e).Closed k := by
  generalize hst' : st.step env e = st'
  cases hst' ▸ effect_step env st e with
  | stay => exact h
  | begins a next hcall =>
    exact closed_setCall h fun call hcall' => by simp [hcall] at hcall'
  | states a call reply hcall => exact closed_stepStatement hcall reply h
  | moves a call st' hcall heffect => exact closed_callEffect hcall heffect h
  | revokes => exact h
  | ticks => exact h

theorem dispatched_stepStatement {call : Call} (reply : Reply) :
    (st.stepStatement env a call reply).dispatched = st.dispatched := by
  unfold System.stepStatement
  split
  · rfl
  · cases reply <;> rfl

theorem dispatched_step {e : Event} {d : Dispatch} (h : d ∈ (st.step env e).dispatched) :
    d ∈ st.dispatched ∨ ¬ st.Closed d.call ∧ (st.step env e).Closed d.call := by
  generalize hst' : st.step env e = st' at h ⊢
  cases hst' ▸ effect_step env st e with
  | stay => exact .inl h
  | begins => exact .inl h
  | states =>
    rw [dispatched_stepStatement] at h
    exact .inl h
  | moves a call st' hcall heffect =>
    cases heffect with
    | stay => exact .inl h
    | move => exact .inl h
    | send transfer task runId hphase =>
      obtain h | h := List.mem_append.mp h
      · exact .inl h
      · obtain rfl := List.mem_singleton.mp h
        refine .inr ⟨fun ⟨call', hcall', hclosed⟩ => ?_, closed_setCall_self trivial⟩
        cases hcall.symm.trans hcall'
        simp [hphase, Phase.Closed] at hclosed
  | revokes => exact .inl h
  | ticks => exact .inl h

theorem closed_of_dispatched (env : Env) (clock : DateTime) (tokens : Tokens) (es : List Event) :
    ∀ d ∈ (run (System.step env) (.init clock tokens) es).dispatched,
      (run (System.step env) (.init clock tokens) es).Closed d.call := by
  refine run_induct (P := fun st : System => ∀ d ∈ st.dispatched, st.Closed d.call)
    (fun st e h d hd => ?_) (fun d hd => absurd hd List.not_mem_nil) es
  obtain hd | ⟨-, hclosed⟩ := dispatched_step hd
  · exact closed_step e (h d hd)
  · exact hclosed

theorem unsent_run (hclosed : st.Closed k) (hunsent : ∀ d ∈ st.dispatched, d.call ≠ k)
    (es : List Event) : ∀ d ∈ (run (System.step env) st es).dispatched, d.call ≠ k := by
  refine (run_induct (P := fun st : System => st.Closed k ∧ ∀ d ∈ st.dispatched, d.call ≠ k)
    (fun st e h => ⟨closed_step e h.1, fun d hd heq => ?_⟩) ⟨hclosed, hunsent⟩ es).2
  obtain hd | ⟨hopen, -⟩ := dispatched_step hd
  · exact h.2 d hd heq
  · exact hopen (heq ▸ h.1)

end Closed

/-! ## Revoked and expired tokens -/

def Call.Redeems (call : Call) (t : String) : Prop :=
  (∃ transfer, call.phase = .consume transfer ∧ transfer.tokenId = t) ∨
    ∃ transfer reservationId body, call.phase = .commit transfer reservationId body ∧
      transfer.tokenId = t

def System.Ended (st : System) (t : String) : Prop :=
  st.tokens.Has t fun row => row.revokedAt.isSome = true ∨ row.expiresAt ≤ st.clock

section Ended

variable {env : Env} {st : System} {k : ℕ} {call : Call} {t : String}

theorem isAfter_eq_false {expiresAt now : DateTime} (h : expiresAt ≤ now) :
    env.isAfter expiresAt now = false := by
  unfold Env.isAfter
  cases hbackend : env.backend with
  | sqlite => simpa using env.julianday_mono h
  | postgres =>
    have hle : ∀ a b : ℤ, a ≤ b → a / 1000 * 1000 ≤ b / 1000 * 1000 := fun a b hab => by omega
    simpa [DatabaseBackend.stored] using hle _ _ h

theorem not_applied_of_ended (env : Env) {p : TemporaryTransferToken → Bool}
    {f : TemporaryTransferToken → TemporaryTransferToken} (hended : st.Ended t)
    (hp : ∀ row, p row = true →
      row.revokedAt.isNone = true ∧ env.isAfter row.expiresAt st.clock = true) :
    (st.tokens.updateWhere t p f).2 = false := by
  by_contra happlied
  obtain ⟨row, hrow, hprow, -⟩ := Tokens.of_updateWhere (Bool.eq_true_of_not_eq_false happlied)
  obtain ⟨row', hrow', hended⟩ := hended
  cases hrow.symm.trans hrow'
  obtain ⟨hunrevoked, hunexpired⟩ := hp row hprow
  obtain hrevoked | hexpired := hended
  · rw [isNone_iff_eq_none] at hunrevoked
    simp [hunrevoked] at hrevoked
  · simp [isAfter_eq_false hexpired] at hunexpired

theorem closed_of_ended (hcall : st.calls k = some call) (hredeems : call.Redeems t)
    (hended : st.Ended t) (reply : Reply) :
    (st.step env (.step k (.statement reply))).Closed k := by
  have hrefused : ∃ tokens told, told.phase.Closed ∧
      call.statement env st.clock st.tokens = some (tokens, told, call.fail internalError) := by
    obtain ⟨transfer, hphase, rfl⟩ | ⟨transfer, reservationId, body, hphase, rfl⟩ := hredeems
    · have hused : (st.tokens.markUsedOnce env st.clock transfer.tokenId
          (some call.clientIp)).2 = false :=
        not_applied_of_ended env hended fun row hrow => by simp_all
      exact ⟨_, call.fail alreadyUsed, trivial,
        by simp only [Call.statement, hphase, hused, Bool.false_eq_true, if_false]; rfl⟩
    · have hcommitted : (st.tokens.commitUploadReservation env st.clock transfer.tokenId
          reservationId).2 = false :=
        not_applied_of_ended env hended fun row hrow => by simp_all
      exact ⟨_, call.goTo (.release transfer reservationId _), trivial,
        by simp only [Call.statement, hphase, hcommitted, Bool.false_eq_true, if_false]; rfl⟩
  obtain ⟨tokens, told, htold, hstatement⟩ := hrefused
  simp only [System.step, hcall, System.stepCall, System.stepStatement, hstatement]
  cases reply with
  | done => exact closed_setCall_self htold
  | failed => exact closed_setCall_self trivial
  | lost => exact closed_setCall_self trivial

theorem revoked_stepStatement (reply : Reply) (h : st.tokens.Has t Revoked) :
    (st.stepStatement env k call reply).tokens.Has t Revoked := by
  unfold System.stepStatement
  cases hstatement : call.statement env st.clock st.tokens with
  | none => exact h
  | some =>
    have hrevoked := revoked_statement hstatement h
    cases reply with
    | done => exact hrevoked
    | failed => exact h
    | lost => exact hrevoked

theorem revoked_step (e : Event) (h : st.tokens.Has t Revoked) :
    (st.step env e).tokens.Has t Revoked := by
  generalize hst' : st.step env e = st'
  cases hst' ▸ effect_step env st e with
  | stay => exact h
  | begins => exact h
  | states a call reply => exact revoked_stepStatement reply h
  | moves a call st' hcall heffect => cases heffect <;> exact h
  | revokes => exact Tokens.has_updateWhere (fun _ _ _ => rfl) h
  | ticks => exact h

theorem revoked_revoke {now : DateTime} {tokens : Tokens} (h : t ∈ tokens) :
    (tokens.revoke env now t).1.Has t Revoked := by
  obtain ⟨row, hrow⟩ := isSome_iff_exists.mp (AList.lookup_isSome.mpr h)
  unfold Tokens.revoke
  obtain ⟨heq, hnot⟩ | ⟨row', -, -, heq⟩ := Tokens.updateWhere_cases tokens t
    (fun row => row.revokedAt.isNone) fun row =>
      { row with revokedAt := some (env.backend.stored now) }
  · rw [heq]
    refine ⟨row, hrow, ?_⟩
    by_contra hunrevoked
    exact hnot ⟨row, hrow, by simpa [Revoked] using hunrevoked⟩
  · rw [heq]
    exact Tokens.has_insert_self rfl

end Ended

/-- At most one task is ever sent for a token; a request whose consume or commit statement
runs once the token is revoked or has expired sends none; and a revoked token stays revoked. -/
theorem transfer_token_single_use (env : Env) (clock : DateTime) (tokens : Tokens) (t : String)
    (es : List Event) :
    let after := run (System.step env) (.init clock tokens)
    ((after es).sentFor t).length ≤ 1 ∧
      (∀ pre k reply post call, es = pre ++ .step k (.statement reply) :: post →
        (after pre).calls k = some call → call.Redeems t → (after pre).Ended t →
          ∀ d ∈ (after es).dispatched, d.call ≠ k) ∧
      ∀ pre reply post, es = pre ++ .revoke t reply :: post → reply ≠ .failed →
        t ∈ (after pre).tokens → (after es).tokens.Has t Revoked := by
  refine ⟨(single_lease env clock tokens t es).once, ?_, ?_⟩
  · rintro pre k reply post call rfl hcall hredeems hended
    rw [run_append, run_cons]
    refine unsent_run (closed_of_ended hcall hredeems hended reply) (fun d hd heq => ?_) post
    -- A request about to redeem a token is not closed, so it has sent nothing yet.
    have hopen : ¬ call.phase.Closed := by
      obtain ⟨transfer, hphase, -⟩ | ⟨transfer, reservationId, body, hphase, -⟩ := hredeems <;>
        simp [hphase, Phase.Closed]
    have hsent : d ∈ (run (System.step env) (.init clock tokens) pre).dispatched := by
      simpa only [System.step, hcall, System.stepCall, dispatched_stepStatement] using hd
    obtain ⟨call', hcall', hclosed⟩ := closed_of_dispatched env clock tokens pre d hsent
    rw [heq] at hcall'
    exact hopen (some.inj (hcall.symm.trans hcall') ▸ hclosed)
  · rintro pre reply post rfl hreply ht
    rw [run_append, run_cons]
    refine run_induct (P := fun st : System => st.tokens.Has t Revoked)
      (fun st e h => revoked_step e h) ?_ post
    cases reply with
    | done => exact revoked_revoke ht
    | failed => exact absurd rfl hreply
    | lost => exact revoked_revoke ht

namespace Sample

def env : Env where
  backend := .sqlite
  julianday t := t / 86400000000000
  julianday_mono a b h := by
    have hcast : (a : ℚ) ≤ b := by exact_mod_cast h
    exact div_le_div_of_nonneg_right hcast (by norm_num)
  sha256 _ _ := 0

def agent : AgentId := ⟨"0190a6f4-2b1c-7c3d-8e4f-00000000000a", canonical_v7a⟩
def owner : UserId := ⟨"0190a6f4-2b1c-7c3d-8e4f-00000000000b", canonical_v7b⟩
def secret : String := "xlt_" ++ String.ofList (List.replicate 64 '0')

def token (op : TransferOp) : TemporaryTransferToken where
  tokenHash := hashToken env.sha256 secret
  serverId := agent
  path := "/srv/report"
  op := op
  issuedByUserId := owner
  authKind := .session
  sessionId := some "session"
  apiTokenId := none
  scope := expectedScope op
  expiresAt := 1000
  usedAt := none
  usedIp := none
  usedStatus := none
  usedError := none
  agentTaskId := none
  revokedAt := none

def tokens (op : TransferOp) : Tokens := AList.singleton "link" (token op)

def rows : IssuerRows where
  user := .ok (some ⟨owner, "alice", .admin⟩)
  session := .ok (some ⟨"session", owner, "", none, none, 5000, 0⟩)
  pat := .ok none
  agent := .ok (some ⟨agent, owner, none⟩)

def opened (k : ℕ) (op : TransferOp) : List Event :=
  [.request k op secret "198.51.100.7" (.ok ()), .step k (.statement .done),
    .step k (.issuer rows (.ok ()) "reservation")]

def raced : List Event :=
  opened 0 .download ++ opened 1 .download ++ [.step 1 (.statement .done),
    .step 0 (.statement .done), .step 1 (.agent true "run" (.ok ())),
    .step 0 (.agent true "run" (.ok ()))]

def revokedMeanwhile : List Event :=
  opened 0 .upload ++ [.step 0 (.statement .done), .revoke "link" .done,
    .step 0 (.body (.ok [1, 2, 3]))]

def received : Call :=
  ⟨.upload, secret, "198.51.100.7",
    .commit ⟨"link", agent, "/srv/report"⟩ "reservation" [1, 2, 3]⟩

def revokedRow : TemporaryTransferToken :=
  { token .upload with
    usedAt := some 0, usedIp := some "198.51.100.7", usedStatus := some .receiving
    agentTaskId := some "reservation", revokedAt := some 0 }

end Sample

theorem transfer_token_single_use_sample :
    ((run (System.step Sample.env) (.init 0 (Sample.tokens .download)) Sample.raced).sentFor
      "link").length = 1 ∧
    ∀ d ∈ (run (System.step Sample.env) (.init 0 (Sample.tokens .upload))
      (Sample.revokedMeanwhile ++ [.step 0 (.statement .done)])).dispatched, d.call ≠ 0 := by
  refine ⟨le_antisymm (transfer_token_single_use Sample.env 0 (Sample.tokens .download) "link"
    Sample.raced).1 (by decide +kernel), ?_⟩
  refine (transfer_token_single_use Sample.env 0 (Sample.tokens .upload) "link" _).2.1
    Sample.revokedMeanwhile 0 .done [] Sample.received rfl (by decide +kernel)
    (.inr ⟨_, _, _, rfl, rfl⟩) ⟨Sample.revokedRow, by decide +kernel, .inl rfl⟩

end XLStatus.Transfers
