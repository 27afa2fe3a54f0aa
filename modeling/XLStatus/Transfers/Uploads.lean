import XLStatus.Transfers.Tokens

/-! Uploads that are not committed: a reservation is given back by the request that has made
it, so the link stays taken where the request does not come to that. -/

namespace XLStatus.Transfers

open Shared Auth Transition Option Function

namespace Phase

def reservation : Phase → Option (String × String)
  | .receive transfer id | .commit transfer id _ | .release transfer id _ =>
    some (transfer.tokenId, id)
  | _ => none

def tokenId : Phase → Option String
  | .find | .done _ | .dropped => none
  | .issuer id _ => some id
  | .consume transfer | .reserve transfer _ | .receive transfer _ | .commit transfer _ _
  | .release transfer _ _ | .dispatch transfer _ | .await transfer _ _ | .record transfer _ _ =>
    some transfer.tokenId

def committed : Phase → Option String
  | .dispatch transfer _ => some transfer.tokenId
  | _ => none

def Uncommitted (t : String) (op : TransferOp) : Phase → Prop
  | .issuer id _ => id = t → op = .upload
  | .consume transfer | .dispatch transfer _ | .await transfer _ _ | .record transfer _ _ =>
    transfer.tokenId ≠ t
  | _ => True

end Phase

def System.Idle (st : System) (t : String) : Prop :=
  ∀ k call, st.calls k = some call → call.phase.tokenId ≠ some t

def System.Committed (st : System) (t : String) : Prop :=
  ∃ k call, st.calls k = some call ∧ call.phase.committed = some t

/-- The steps after which a reservation of the token is committed or given back: its request
is not dropped in between, the request is told of its reservation, the commit does not fail,
and the release is carried out. -/
def orderly (t : String) (st : System) : Event → Bool
  | .drop k => match st.calls k with
    | some call => (call.phase.reservation.map (·.1)) != some t
    | none => true
  | .step k (.statement reply) => match st.calls k with
    | some call => call.phase.tokenId != some t || match call.phase with
      | .reserve _ _ => reply != .lost
      | .commit _ _ _ => reply == .done
      | .release _ _ _ => reply != .failed
      | _ => true
    | none => true
  | _ => true

/-! ## The invariant -/

def Held (calls : ℕ → Option Call) (t : String) (row : TemporaryTransferToken) : Prop :=
  row.usedStatus = some .receiving ∧ row.usedAt.isSome = true ∧
    ∃ k call id, calls k = some call ∧ call.phase.reservation = some (t, id) ∧
      row.agentTaskId = some id

structure Inv (t : String) (st : System) : Prop where
  row : st.tokens.Has t fun row => row.op = .upload ∧ (row.usedAt = none ∨ Held st.calls t row)
  calls : ∀ k call, st.calls k = some call → call.phase.Uncommitted t call.op

section Steps

variable {t : String} {st : System} {k : ℕ} {call next : Call}

theorem calls_setCall (hcalls : ∀ k call, st.calls k = some call → call.phase.Uncommitted t call.op)
    (hnext : next.phase.Uncommitted t next.op) (k' : ℕ) (call' : Call)
    (h : (st.setCall k next).calls k' = some call') : call'.phase.Uncommitted t call'.op := by
  by_cases hk : k' = k
  · subst hk
    simp only [System.setCall, update_self, some.injEq] at h
    subst h
    exact hnext
  · simp only [System.setCall, update_of_ne hk] at h
    exact hcalls k' call' h

theorem held_setCall {row : TemporaryTransferToken} (h : Held st.calls t row)
    (hcall : st.calls k = some call)
    (hnext : ∀ id, call.phase.reservation = some (t, id) → next.phase.reservation = some (t, id)) :
    Held (st.setCall k next).calls t row := by
  obtain ⟨hstatus, hused, k', call', id, hcall', hres, htask⟩ := h
  refine ⟨hstatus, hused, ?_⟩
  by_cases hk : k' = k
  · subst hk
    cases hcall.symm.trans hcall'
    exact ⟨k', next, id, update_self .., hnext id hres, htask⟩
  · exact ⟨k', call', id, (update_of_ne hk _ _).trans hcall', hres, htask⟩

theorem inv_setCall (h : Inv t st) (hcall : st.calls k = some call)
    (hnext : next.phase.Uncommitted t next.op)
    (hres : ∀ id, call.phase.reservation = some (t, id) → next.phase.reservation = some (t, id)) :
    Inv t (st.setCall k next) := by
  obtain ⟨row, hrow, hop, hfree⟩ := h.row
  exact ⟨⟨row, hrow, hop, hfree.imp_right fun hheld => held_setCall hheld hcall hres⟩,
    calls_setCall h.calls hnext⟩

theorem inv_tokens (h : Inv t st) {tokens : Tokens}
    (hsame : tokens.lookup t = st.tokens.lookup t) : Inv t { st with tokens } := by
  obtain ⟨row, hrow, hfree⟩ := h.row
  exact ⟨⟨row, hsame.trans hrow, hfree⟩, h.calls⟩

variable {id : String}

theorem lookup_updateWhere_ne {tokens : Tokens} (hne : t ≠ id) (p : TemporaryTransferToken → Bool)
    (f : TemporaryTransferToken → TemporaryTransferToken) :
    (tokens.updateWhere id p f).1.lookup t = tokens.lookup t := by
  obtain ⟨heq, -⟩ | ⟨row, -, -, heq⟩ := Tokens.updateWhere_cases tokens id p f
  · rw [heq]
  · rw [heq, AList.lookup_insert_ne hne]

theorem findByTokenHash_lookup {tokens : Tokens} {hash : String} {record : TemporaryTransferToken}
    (h : tokens.findByTokenHash hash = some (id, record)) :
    tokens.lookup id = some record := by
  unfold Tokens.findByTokenHash at h
  split at h
  · cases h
  · obtain ⟨e, he, hpair⟩ := map_eq_some_iff.mp h
    obtain ⟨rfl, rfl⟩ := Prod.mk.inj hpair
    exact AList.mem_lookup_iff.mpr (List.mem_of_find?_eq_some he)

theorem uncommitted_found (h : Inv t st) (call : Call) (now : DateTime) (hash : String)
    (hnext : call.found now (st.tokens.findByTokenHash hash) = next) :
    next.phase.Uncommitted t next.op := by
  cases hfound : st.tokens.findByTokenHash hash with
  | none =>
    rw [hfound] at hnext
    subst hnext
    trivial
  | some found =>
    obtain ⟨id, record⟩ := found
    rw [hfound, Call.found] at hnext
    cases hvalid : validateTransferRecordState record call.op now with
    | error =>
      rw [hvalid] at hnext
      subst hnext
      trivial
    | ok =>
      rw [hvalid] at hnext
      subst hnext
      rintro rfl
      obtain ⟨row, hrow, hop, -⟩ := h.row
      cases hrow.symm.trans (findByTokenHash_lookup hfound)
      have hchecked := Checked.ensure_eq_ok.mp hvalid
      simp only [Bool.and_eq_true, beq_iff_eq] at hchecked
      rw [← hop]
      exact hchecked.1.1.1.1.1.1.symm

theorem inv_other (h : Inv t st) (hcall : st.calls k = some call) (hne : t ≠ id)
    (p : TemporaryTransferToken → Bool) (f : TemporaryTransferToken → TemporaryTransferToken)
    (hnext : next.phase.Uncommitted t next.op)
    (hres : ∀ id, call.phase.reservation ≠ some (t, id)) :
    Inv t ({ st with tokens := (st.tokens.updateWhere id p f).1 }.setCall k next) := by
  refine inv_setCall (inv_tokens h (lookup_updateWhere_ne hne p f)) hcall hnext fun id hid => ?_
  exact absurd hid (hres id)

section Statements

variable {env : Env} {transfer : ValidatedTemporaryTransfer} {id : String}

theorem inv_reserve (h : Inv t st) (hcall : st.calls k = some call)
    (hphase : call.phase = .reserve transfer id) {now : DateTime} {usedIp : Option String} :
    Inv t ({ st with
      tokens := (st.tokens.reserveUploadOnce env now transfer.tokenId usedIp id).1 }.setCall k
        (if (st.tokens.reserveUploadOnce env now transfer.tokenId usedIp id).2 then
          call.goTo (.receive transfer id) else call.fail alreadyUsed)) := by
  have hres : ∀ id, call.phase.reservation ≠ some (t, id) := by simp [hphase, Phase.reservation]
  by_cases ht : t = transfer.tokenId
  · unfold Tokens.reserveUploadOnce
    obtain ⟨heq, -⟩ | ⟨row, hrow, hfits, heq⟩ := Tokens.updateWhere_cases st.tokens transfer.tokenId
      (fun row => row.op == .upload && row.usedAt.isNone && row.revokedAt.isNone &&
        env.isAfter row.expiresAt now)
      fun row => { row with
        usedAt := some (env.backend.stored now), usedIp, usedStatus := some .receiving
        agentTaskId := some id }
    · rw [heq, if_neg Bool.false_ne_true]
      exact inv_setCall (inv_tokens h rfl) hcall trivial fun id hid => absurd hid (hres id)
    · rw [heq, if_pos rfl]
      simp only [Bool.and_eq_true, beq_iff_eq] at hfits
      refine ⟨?_, calls_setCall h.calls trivial⟩
      rw [ht]
      refine Tokens.has_insert_self ⟨hfits.1.1.1, .inr ⟨rfl, rfl, k, _, id,
        update_self .., ?_, rfl⟩⟩
      rfl
  · refine inv_other h hcall ht _ _ ?_ hres
    split <;> trivial

theorem inv_commit (h : Inv t st) (hcall : st.calls k = some call) {body : List UInt8}
    (hphase : call.phase = .commit transfer id body) {now : DateTime} {error : ApiError}
    {st' : System}
    (hst' : st' = { st with
      tokens := (st.tokens.commitUploadReservation env now transfer.tokenId id).1 }.setCall k
        (if (st.tokens.commitUploadReservation env now transfer.tokenId id).2 then
          call.goTo (.dispatch transfer (Call.writeTask transfer body))
        else call.goTo (.release transfer id error)))
    (hcommitted : ¬ st'.Committed t) : Inv t st' := by
  subst hst'
  by_cases ht : t = transfer.tokenId
  · unfold Tokens.commitUploadReservation at hcommitted ⊢
    obtain ⟨heq, -⟩ | ⟨row, -, -, heq⟩ := Tokens.updateWhere_cases st.tokens transfer.tokenId
      (fun row => row.usedStatus == some .receiving && row.agentTaskId == some id &&
        row.revokedAt.isNone && env.isAfter row.expiresAt now)
      fun row => { row with usedStatus := some .started, agentTaskId := none }
    · rw [heq, if_neg Bool.false_ne_true]
      refine inv_setCall (inv_tokens h rfl) hcall trivial fun id' hid => ?_
      rw [hphase] at hid
      exact hid
    · rw [heq, if_pos rfl] at hcommitted
      exact absurd ⟨k, _, update_self .., congrArg some ht.symm⟩ hcommitted
  · have hres : ∀ id, call.phase.reservation ≠ some (t, id) := by
      intro id hid
      rw [hphase] at hid
      exact ht (Prod.mk.inj (some.inj hid)).1.symm
    refine inv_other h hcall ht _ _ ?_ hres
    split
    · exact Ne.symm ht
    · trivial

theorem inv_release (h : Inv t st) (hcall : st.calls k = some call) {error : ApiError}
    (hphase : call.phase = .release transfer id error) :
    Inv t ({ st with
      tokens := (st.tokens.releaseUploadReservation transfer.tokenId id).1 }.setCall k
        (call.fail error)) := by
  by_cases ht : t = transfer.tokenId
  · subst ht
    obtain ⟨row, hrow, hop, hfree⟩ := h.row
    unfold Tokens.releaseUploadReservation
    obtain ⟨heq, hnot⟩ | ⟨row', hrow', -, heq⟩ := Tokens.updateWhere_cases st.tokens
      transfer.tokenId (fun row => row.usedStatus == some .receiving && row.agentTaskId == some id)
      fun row => { row with usedAt := none, usedIp := none, usedStatus := none, agentTaskId := none }
    · rw [heq]
      refine ⟨⟨row, hrow, hop, hfree.imp_right ?_⟩, calls_setCall h.calls trivial⟩
      rintro ⟨hstatus, hused, k', call', id', hcall', hres, htask⟩
      refine ⟨hstatus, hused, k', call', id', ?_, hres, htask⟩
      refine (update_of_ne (fun hk => hnot ⟨row, hrow, ?_⟩) _ _).trans hcall'
      subst hk
      cases hcall.symm.trans hcall'
      rw [hphase] at hres
      obtain rfl : id = id' := (Prod.mk.inj (some.inj hres)).2
      simp [hstatus, htask]
    · rw [heq]
      cases hrow.symm.trans hrow'
      exact ⟨Tokens.has_insert_self ⟨hop, .inl rfl⟩, calls_setCall h.calls trivial⟩
  · have hres : ∀ id, call.phase.reservation ≠ some (t, id) := by
      intro id hid
      rw [hphase] at hid
      exact ht (Prod.mk.inj (some.inj hid)).1.symm
    exact inv_other h hcall ht _ _ trivial hres

theorem inv_fail (h : Inv t st) (hcall : st.calls k = some call) (error : ApiError)
    (hres : ∀ id, call.phase.reservation ≠ some (t, id)) : Inv t (st.setCall k (call.fail error)) :=
  inv_setCall h hcall trivial fun id hid => absurd hid (hres id)

theorem inv_stepStatement (h : Inv t st) (hcall : st.calls k = some call) {reply : Reply}
    (horderly : orderly t st (.step k (.statement reply)) = true)
    (hcommitted : ¬ (st.stepStatement env k call reply).Committed t) :
    Inv t (st.stepStatement env k call reply) := by
  have huncommitted := h.calls k call hcall
  simp only [orderly, hcall, Bool.or_eq_true, bne_iff_ne, ne_eq] at horderly
  cases hstatement : call.statement env st.clock st.tokens with
  | none => simpa only [System.stepStatement, hstatement] using h
  | some result =>
    obtain ⟨tokens', told, untold⟩ := result
    simp only [System.stepStatement, hstatement] at hcommitted ⊢
    unfold Call.statement at hstatement
    cases hphase : call.phase <;>
      simp only [hphase, some.injEq, Prod.mk.injEq, reduceCtorEq] at hstatement
    case find =>
      obtain ⟨rfl, htold, rfl⟩ := hstatement
      have hres : ∀ id, call.phase.reservation ≠ some (t, id) := by simp [hphase, Phase.reservation]
      have hnext := uncommitted_found h call st.clock (hashToken env.sha256 call.token) htold
      cases reply with
      | done => exact inv_setCall h hcall hnext fun id hid => absurd hid (hres id)
      | failed => exact inv_fail h hcall _ hres
      | lost => exact inv_fail h hcall _ hres
    case consume transfer =>
      obtain ⟨rfl, rfl, rfl⟩ := hstatement
      rw [hphase] at huncommitted
      have hres : ∀ id, call.phase.reservation ≠ some (t, id) := by simp [hphase, Phase.reservation]
      have ht : t ≠ transfer.tokenId := Ne.symm huncommitted
      cases reply with
      | done =>
        refine inv_other h hcall ht _ _ ?_ hres
        split
        · exact Ne.symm ht
        · trivial
      | failed => exact inv_fail h hcall _ hres
      | lost => exact inv_other h hcall ht _ _ trivial hres
    case reserve transfer id =>
      obtain ⟨rfl, rfl, rfl⟩ := hstatement
      have hres : ∀ id, call.phase.reservation ≠ some (t, id) := by simp [hphase, Phase.reservation]
      cases reply with
      | done => exact inv_reserve h hcall hphase
      | failed => exact inv_fail h hcall _ hres
      | lost =>
        have ht : t ≠ transfer.tokenId := by
          rintro rfl
          simp [hphase, Phase.tokenId] at horderly
        exact inv_other h hcall ht _ _ trivial hres
    case commit transfer id body =>
      obtain ⟨rfl, rfl, rfl⟩ := hstatement
      have hother : reply ≠ .done → t ≠ transfer.tokenId := by
        rintro hreply rfl
        simp [hphase, Phase.tokenId, hreply] at horderly
      have hres : t ≠ transfer.tokenId → ∀ id, call.phase.reservation ≠ some (t, id) := by
        intro ht id hid
        rw [hphase] at hid
        exact ht (Prod.mk.inj (some.inj hid)).1.symm
      cases reply with
      | done => exact inv_commit h hcall hphase rfl hcommitted
      | failed => exact inv_fail h hcall _ (hres (hother (by simp)))
      | lost => exact inv_other h hcall (hother (by simp)) _ _ trivial (hres (hother (by simp)))
    case release transfer id error =>
      obtain ⟨rfl, rfl, rfl⟩ := hstatement
      cases reply with
      | done => exact inv_release h hcall hphase
      | lost => exact inv_release h hcall hphase
      | failed =>
        have ht : t ≠ transfer.tokenId := by
          rintro rfl
          simp [hphase, Phase.tokenId] at horderly
        refine inv_fail h hcall _ fun id hid => ?_
        rw [hphase] at hid
        exact ht (Prod.mk.inj (some.inj hid)).1.symm
    case record transfer agentTaskId answer =>
      obtain ⟨rfl, rfl, rfl⟩ := hstatement
      rw [hphase] at huncommitted
      have hres : ∀ id, call.phase.reservation ≠ some (t, id) := by simp [hphase, Phase.reservation]
      have ht : t ≠ transfer.tokenId := Ne.symm huncommitted
      have hdone : ∀ tokens : Tokens, tokens.lookup t = st.tokens.lookup t →
          Inv t ({ st with tokens }.setCall k (call.goTo (.done answer))) := fun tokens hsame =>
        inv_setCall (inv_tokens h hsame) hcall trivial fun id hid => absurd hid (hres id)
      cases reply with
      | failed => exact hdone st.tokens rfl
      | done => cases answer <;> exact hdone _ (lookup_updateWhere_ne ht _ _)
      | lost => cases answer <;> exact hdone _ (lookup_updateWhere_ne ht _ _)

end Statements

theorem inv_stepCall (env : Env) (h : Inv t st) (hcall : st.calls k = some call) {input : Input}
    (hinput : ∀ reply, input ≠ .statement reply) : Inv t (st.stepCall env k call input) := by
  have huncommitted := h.calls k call hcall
  cases input with
  | statement reply => exact absurd rfl (hinput reply)
  | issuer =>
    simp only [System.stepCall]
    split
    · rename_i id record hphase
      have hres : ∀ id, call.phase.reservation ≠ some (t, id) := by simp [hphase, Phase.reservation]
      split
      · exact inv_fail h hcall _ hres
      · refine inv_setCall h hcall ?_ fun id hid => absurd hid (hres id)
        unfold Call.validated
        rw [hphase] at huncommitted
        split
        · rename_i hop
          rintro rfl
          have hupload := huncommitted rfl
          rw [hop] at hupload
          cases hupload
        · trivial
    · exact h
  | body =>
    simp only [System.stepCall]
    split
    · rename_i hphase
      split
      · exact inv_setCall h hcall trivial fun id hid => by rw [hphase] at hid; exact hid
      · exact inv_setCall h hcall trivial fun id hid => by rw [hphase] at hid; exact hid
    · exact h
  | agent online runId =>
    simp only [System.stepCall]
    split
    · rename_i transfer task hphase
      have hres : ∀ id, call.phase.reservation ≠ some (t, id) := by simp [hphase, Phase.reservation]
      have hmoves : ∀ next : Call, next.phase.Uncommitted t next.op → Inv t (st.setCall k next) :=
        fun next hnext => inv_setCall h hcall hnext fun id hid => absurd hid (hres id)
      rw [hphase] at huncommitted
      split
      · exact hmoves _ huncommitted
      · split
        · exact hmoves _ huncommitted
        · exact ⟨(hmoves (call.goTo (.await transfer task runId)) huncommitted).row,
            (hmoves (call.goTo (.await transfer task runId)) huncommitted).calls⟩
    · exact h
  | result =>
    simp only [System.stepCall]
    split
    · rename_i transfer task runId hphase
      rw [hphase] at huncommitted
      exact inv_setCall h hcall huncommitted fun id hid => by rw [hphase] at hid; cases hid
    · exact h

theorem inv_step (env : Env) (h : Inv t st) {e : Event} (horderly : orderly t st e = true)
    (hcommitted : ¬ (st.step env e).Committed t) : Inv t (st.step env e) := by
  cases e with
  | request k op token clientIp limited =>
    simp only [System.step]
    split
    · rename_i hcall
      have hstart : (System.start op token clientIp limited).phase.Uncommitted t
          (System.start op token clientIp limited).op := by
        unfold System.start
        split
        · trivial
        · split <;> trivial
      obtain ⟨row, hrow, hop, hfree⟩ := h.row
      refine ⟨⟨row, hrow, hop, hfree.imp_right ?_⟩, calls_setCall h.calls hstart⟩
      rintro ⟨hstatus, hused, k', call', id, hcall', hres, htask⟩
      refine ⟨hstatus, hused, k', call', id, (update_of_ne ?_ _ _).trans hcall', hres, htask⟩
      rintro rfl
      cases hcall.symm.trans hcall'
    · exact h
  | step k input =>
    simp only [System.step] at hcommitted ⊢
    cases hcall : st.calls k with
    | none => exact h
    | some =>
      rw [hcall] at hcommitted
      cases input with
      | statement => exact inv_stepStatement h hcall horderly hcommitted
      | _ => exact inv_stepCall env h hcall (by simp)
  | drop k =>
    simp only [System.step]
    cases hcall : st.calls k with
    | none => exact h
    | some =>
      refine inv_setCall h hcall trivial fun id hid => ?_
      simp [orderly, hcall, hid] at horderly
  | revoke tokenId reply =>
    have hrevoked : Inv t { st with tokens := (st.tokens.revoke env st.clock tokenId).1 } :=
      ⟨Tokens.has_updateWhere (fun _ row hrow => hrow) h.row, h.calls⟩
    cases reply with
    | failed => exact h
    | done => exact hrevoked
    | lost => exact hrevoked
  | tick => exact ⟨h.row, h.calls⟩

end Steps

/-- In every run whose steps are orderly, an upload link that no request has committed is
unused again in every state in which no request for it is in progress. -/
theorem uncommitted_upload_unused (env : Env) (clock : DateTime) (tokens : Tokens) (t : String)
    (hunused : tokens.Has t fun row => row.op = .upload ∧ row.usedAt = none) (es : List Event)
    (horderly : Meets (System.step env) (fun st e => orderly t st e) (.init clock tokens) es)
    (huncommitted : ∀ pre, pre <+: es →
      ¬ (run (System.step env) (.init clock tokens) pre).Committed t)
    (hidle : (run (System.step env) (.init clock tokens) es).Idle t) :
    (run (System.step env) (.init clock tokens) es).tokens.Has t fun row => row.usedAt = none := by
  have hinit : Inv t (.init clock tokens) := by
    obtain ⟨row, hrow, hop, hused⟩ := hunused
    exact ⟨⟨row, hrow, hop, .inl hused⟩, fun k call hcall => by cases hcall⟩
  have hstep : ∀ st e, orderly t st e = true ∧ ¬ (st.step env e).Committed t → Inv t st →
      Inv t (st.step env e) := fun st e hguard h => inv_step env h hguard.1 hguard.2
  have hinv := run_induct_of_meets hstep hinit
    (horderly.and (meets_of_initial (P := fun st : System => ¬ st.Committed t) huncommitted))
  obtain ⟨row, hrow, -, hused | ⟨-, -, k, call, id, hcall, hres, -⟩⟩ := hinv.row
  · exact ⟨row, hrow, hused⟩
  · refine absurd ?_ (hidle k call hcall)
    cases hphase : call.phase <;> simp [hphase, Phase.reservation, Phase.tokenId] at hres ⊢ <;>
      exact hres.1

/-! ## Requests that do not interfere -/

def Event.call : Event → Option ℕ
  | .request k _ _ _ _ | .step k _ | .drop k => some k
  | .revoke _ _ | .tick _ => none

theorem calls_step_of_ne (env : Env) (st : System) {e : Event} {k : ℕ} (h : e.call ≠ some k) :
    (st.step env e).calls k = st.calls k := by
  have hset : ∀ (st : System) k' next, k' ≠ k → (st.setCall k' next).calls k = st.calls k :=
    fun st k' next hk => update_of_ne (Ne.symm hk) _ _
  have hk : ∀ k', e.call = some k' → k' ≠ k := by
    rintro k' hcall rfl
    exact h hcall
  cases e with
  | request k' =>
    simp only [System.step]
    split
    · exact hset st k' _ (hk k' rfl)
    · rfl
  | step k' input =>
    simp only [System.step]
    split
    · rfl
    · rename_i call hcall
      by_cases hinput : ∃ reply, input = .statement reply
      · obtain ⟨reply, rfl⟩ := hinput
        simp only [System.stepCall, System.stepStatement]
        split
        · rfl
        · split <;> exact hset _ k' _ (hk k' rfl)
      · have heffect := callEffect_stepCall env st k' call fun reply heq => hinput ⟨reply, heq⟩
        generalize st.stepCall env k' call input = st' at heffect ⊢
        cases heffect with
        | stay => rfl
        | move next => exact hset st k' next (hk k' rfl)
        | send => exact hset _ k' _ (hk k' rfl)
  | drop k' =>
    simp only [System.step]
    split
    · rfl
    · exact hset st k' _ (hk k' rfl)
  | revoke tokenId reply => cases reply <;> rfl
  | tick => rfl

namespace Sample

def reserved : List Event := opened 0 .upload ++ [.step 0 (.statement .done)]

def uploadRun (es : List Event) : System :=
  run (System.step env) (.init 0 (tokens .upload)) es

def disconnected : List Event := reserved ++ [.drop 0]

def commitFailed : List Event :=
  reserved ++ [.step 0 (.body (.ok [1])), .step 0 (.statement .failed)]

def unreadable : List Event :=
  reserved ++ [.step 0 (.body (.error "reset")), .step 0 (.statement .done)]

variable {es : List Event}

theorem calls_uploadRun (h : ∀ e ∈ es, e.call = some 0) {k : ℕ} (hk : k ≠ 0) :
    (uploadRun es).calls k = none :=
  run_view_of_ne (System.step env) (fun st => st.calls k) Event.call
    (fun st _ he => calls_step_of_ne env st he)
    (fun e he => by rw [h e he]; exact fun h0 => hk (some.inj h0).symm) _

theorem idle_uploadRun (h : ∀ e ∈ es, e.call = some 0)
    (h0 : ((uploadRun es).calls 0).all fun call => call.phase.tokenId != some "link") :
    (uploadRun es).Idle "link" := by
  intro k call hcall
  by_cases hk : k = 0
  · subst hk
    simpa [hcall] using h0
  · cases (calls_uploadRun h hk).symm.trans hcall

theorem uncommitted_uploadRun (h : ∀ e ∈ es, e.call = some 0) (h0 : ∀ pre ∈ es.inits, ((uploadRun
      pre).calls 0).all fun call => call.phase.committed != some "link") (pre : List Event)
    (hpre : pre <+: es) : ¬ (uploadRun pre).Committed "link" := by
  rintro ⟨k, call, hcall, hcommitted⟩
  by_cases hk : k = 0
  · subst hk
    have hall := h0 pre ((List.mem_inits _ _).mpr hpre)
    simp [hcall, hcommitted] at hall
  · cases (calls_uploadRun (fun e he => h e (hpre.subset he)) hk).symm.trans hcall

theorem unused : (tokens .upload).Has "link" fun row => row.op = .upload ∧ row.usedAt = none :=
  ⟨token .upload, by decide +kernel, rfl, rfl⟩

def LeftUsed (es : List Event) : Prop :=
  (∀ pre, pre <+: es → ¬ (uploadRun pre).Committed "link") ∧ (uploadRun es).Idle "link" ∧
    ¬ (uploadRun es).tokens.Has "link" fun row => row.usedAt = none

theorem leftUsed_of_mem : ∀ es ∈ [disconnected, commitFailed], LeftUsed es := by
  have husedAt : ∀ es ∈ [disconnected, commitFailed],
      ((uploadRun es).tokens.lookup "link").map (·.usedAt) = some (some 0) := by
    decide +kernel
  have hcalls : ∀ es ∈ [disconnected, commitFailed], ∀ e ∈ es, e.call = some 0 := by
    decide
  have hended : ∀ es ∈ [disconnected, commitFailed],
      ((uploadRun es).calls 0).all fun call => call.phase.tokenId != some "link" := by
    decide +kernel
  have huncommitted : ∀ es ∈ [disconnected, commitFailed], ∀ pre ∈ es.inits,
      ((uploadRun pre).calls 0).all fun call => call.phase.committed != some "link" := by
    decide +kernel
  intro es hes
  refine ⟨uncommitted_uploadRun (hcalls es hes) (huncommitted es hes),
    idle_uploadRun (hcalls es hes) (hended es hes), ?_⟩
  rintro ⟨row, hrow, hunused⟩
  have hused := husedAt es hes
  rw [hrow, map_some, hunused] at hused
  cases hused

end Sample

theorem uncommitted_upload_stays_used :
    Sample.LeftUsed Sample.disconnected ∧ Sample.LeftUsed Sample.commitFailed :=
  ⟨Sample.leftUsed_of_mem _ (by simp), Sample.leftUsed_of_mem _ (by simp)⟩

theorem uncommitted_upload_unused_unreadable :
    (Sample.uploadRun Sample.reserved).tokens.Has "link" (fun row => row.usedAt = some 0) ∧
      (Sample.uploadRun Sample.unreadable).tokens.Has "link" fun row => row.usedAt = none := by
  have hcalls : ∀ e ∈ Sample.unreadable, e.call = some 0 := by decide
  refine ⟨⟨{ Sample.token .upload with
      usedAt := some 0, usedIp := some "198.51.100.7", usedStatus := some .receiving
      agentTaskId := some "reservation" }, by decide +kernel, rfl⟩, ?_⟩
  exact uncommitted_upload_unused Sample.env 0 (Sample.tokens .upload) "link" Sample.unused
    Sample.unreadable (by decide +kernel)
    (Sample.uncommitted_uploadRun hcalls (by decide +kernel))
    (Sample.idle_uploadRun hcalls (by decide +kernel))

end XLStatus.Transfers
