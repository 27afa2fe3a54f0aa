import XLStatus.Tasks.DispatchDefs

/-! What becomes of a run that a dispatch has returned: the cleanups of other dispatches leave
its row alone, and so does a restart, unless the run is stored as a pending one. -/

namespace XLStatus.Tasks

open Transition Option AList
open Transfers (Reply)

theorem statusStr_eq_pending {status : TaskStatus} :
    status.statusStr = "pending" ↔ status = .offline := by
  cases status <;> decide

namespace TaskRunRow

variable {row : TaskRunRow} {error : String}

theorem settle_of_ne (h : row.status ≠ "pending") : row.settle error = row := if_neg h

theorem status_settle (h : row.status = "pending") : (row.settle error).status = "failed" := by
  unfold settle
  rw [if_pos h]

end TaskRunRow

namespace TaskRunRepository

variable (runs : TaskRuns) {id k : RunId}

theorem lookup_create_of_ne {run : TaskRun} (h : k ≠ run.id) :
    (create runs run).lookup k = runs.lookup k := lookup_insert_ne h

theorem lookup_updateResult {row : TaskRunRow} (hrow : runs.lookup id = some row)
    (result : RunResult) :
    (updateResult runs id result).lookup id = some { row with
      status := result.status.statusStr
      delayMs := some result.delayMs
      output := result.output
      outputTruncated := result.outputTruncated
      error := result.error } := by
  unfold updateResult
  rw [lookup_mapVal, hrow, map_some, if_pos rfl]

theorem lookup_updateResult_of_ne (h : k ≠ id) (result : RunResult) :
    (updateResult runs id result).lookup k = runs.lookup k := by
  unfold updateResult
  rw [lookup_mapVal]
  simp [h]

theorem lookup_settlePendingAfterCancellation_of_ne (h : k ≠ id) (error : String) :
    (settlePendingAfterCancellation runs id error).1.lookup k = runs.lookup k := by
  unfold settlePendingAfterCancellation
  rw [lookup_mapVal]
  simp [h]

theorem isSome_lookup_settlePendingAfterCancellation (error : String) :
    ((settlePendingAfterCancellation runs id error).1.lookup k).isSome =
      (runs.lookup k).isSome := by
  unfold settlePendingAfterCancellation
  rw [lookup_mapVal, isSome_map]

end TaskRunRepository

def Stored (runs : TaskRuns) (run : TaskRun) : Prop :=
  ∃ row, runs.lookup run.id = some row ∧ row.status = run.status.statusStr ∧
    row.error = run.error

instance (runs : TaskRuns) (run : TaskRun) : Decidable (Stored runs run) :=
  decidable_of_iff ((runs.lookup run.id).any fun row =>
      row.status == run.status.statusStr && row.error == run.error) <| by
    unfold Stored
    cases runs.lookup run.id <;> simp

theorem stored_create (runs : TaskRuns) (run : TaskRun) :
    Stored (TaskRunRepository.create runs run) run :=
  ⟨_, lookup_insert runs, rfl, rfl⟩

variable {runs runs' : TaskRuns} {id k : RunId} {d : Dispatch}

theorem stored_updateResult (h : (runs.lookup id).isSome = true) (d : Dispatch)
    (result : RunResult) :
    Stored (TaskRunRepository.updateResult runs id result) (d.run id result) := by
  obtain ⟨row, hrow⟩ := isSome_iff_exists.mp h
  exact ⟨_, TaskRunRepository.lookup_updateResult runs hrow result, rfl, rfl⟩

/-! ## One step, seen at one run -/

structure SameAt (k : RunId) (st st' : State) : Prop where
  runs : st'.runs.lookup k = st.runs.lookup k
  dispatches : st'.dispatches.lookup k = st.dispatches.lookup k
  cleanups : st'.cleanups.lookup k = st.cleanups.lookup k
  issued : st'.issued = st.issued

theorem SameAt.refl (k : RunId) (st : State) : SameAt k st st := ⟨rfl, rfl, rfl, rfl⟩

theorem lookup_statement_of_ne (hne : k ≠ id) (h : d.statement id runs = some runs') :
    runs'.lookup k = runs.lookup k := by
  unfold Dispatch.statement at h
  split at h
  · cases h
    exact TaskRunRepository.lookup_create_of_ne runs hne
  · cases h
    exact TaskRunRepository.lookup_create_of_ne runs hne
  · cases h
    exact TaskRunRepository.lookup_updateResult_of_ne runs hne _
  · cases h

def Phase.recorded : Phase → Bool
  | .await | .update _ => true
  | _ => false

theorem isSome_lookup_statement (h : d.statement id runs = some runs')
    (hk : (runs.lookup k).isSome = true) :
    (runs'.lookup k).isSome = true := by
  unfold Dispatch.statement at h
  split at h
  · cases h
    exact (isSome_lookup_insert _ _ _ _).mpr (.inr hk)
  · cases h
    exact (isSome_lookup_insert _ _ _ _).mpr (.inr hk)
  · cases h
    unfold TaskRunRepository.updateResult
    rwa [lookup_mapVal, isSome_map]
  · cases h

namespace State

variable (st : State) {id k : RunId}

theorem lookup_abandon_of_ne (h : k ≠ id) (phase : Phase) :
    (st.abandon id phase).lookup k = st.cleanups.lookup k := by
  unfold abandon
  split
  · exact lookup_insert_ne h
  · rfl

theorem advance_sameAt (h : k ≠ id) (next : Phase → Option Phase) :
    SameAt k st (st.advance id next) := by
  unfold advance
  split
  · exact .refl k st
  · split
    · exact .refl k st
    · split
      · exact .refl k st
      · exact ⟨rfl, lookup_insert_ne h, rfl, rfl⟩

theorem succeed_sameAt (h : k ≠ id) (d : Dispatch) : SameAt k st (st.succeed id d) := by
  unfold succeed
  split
  · exact ⟨rfl, lookup_erase_ne h, rfl, rfl⟩
  · exact ⟨rfl, lookup_erase_ne h, rfl, rfl⟩
  · exact ⟨rfl, lookup_insert_ne h, rfl, rfl⟩
  · exact .refl k st

theorem answer_cases (st : State) (id : RunId) (reply : Reply) :
    st.answer id reply = st ∨
      ∃ d runs, st.dispatches.lookup id = some d ∧ d.statement id st.runs = some runs ∧
        ((d.dropped = true ∧ st.answer id reply = { st with
            runs := if executed reply then runs else st.runs
            dispatches := st.dispatches.erase id }) ∨
          (d.dropped = false ∧ reply = .done ∧
            st.answer id reply = { st with runs }.succeed id d) ∨
          (d.dropped = false ∧ reply ≠ .done ∧ st.answer id reply = { st with
            runs := if executed reply then runs else st.runs
            dispatches := st.dispatches.erase id
            cleanups := st.abandon id d.phase })) := by
  unfold answer
  split
  · exact .inl rfl
  · rename_i d hd
    split
    · exact .inl rfl
    · rename_i runs hruns
      refine .inr ⟨d, runs, hd, hruns, ?_⟩
      cases hdropped : d.dropped with
      | true => exact .inl ⟨rfl, rfl⟩
      | false =>
        by_cases hreply : reply = .done
        · subst hreply
          exact .inr (.inl ⟨rfl, rfl, rfl⟩)
        · refine .inr (.inr ⟨rfl, hreply, ?_⟩)
          simp only [Bool.false_eq_true, if_false, if_neg hreply]
          rfl

theorem answer_sameAt (h : k ≠ id) (reply : Reply) : SameAt k st (st.answer id reply) := by
  obtain heq | ⟨d, runs, -, hruns, hcases⟩ := st.answer_cases id reply
  · rw [heq]
    exact .refl k st
  · have hlookup := lookup_statement_of_ne h hruns
    have hexecuted : (if executed reply then runs else st.runs).lookup k = st.runs.lookup k := by
      split
      · exact hlookup
      · rfl
    obtain ⟨-, heq⟩ | ⟨-, -, heq⟩ | ⟨-, -, heq⟩ := hcases
    · rw [heq]
      exact ⟨hexecuted, lookup_erase_ne h, rfl, rfl⟩
    · rw [heq]
      obtain ⟨hr, hd, hc, hi⟩ := succeed_sameAt { st with runs } h d
      exact ⟨hr.trans hlookup, hd, hc, hi⟩
    · rw [heq]
      exact ⟨hexecuted, lookup_erase_ne h, st.lookup_abandon_of_ne h d.phase, rfl⟩

theorem cancel_sameAt (h : k ≠ id) : SameAt k st (st.cancel id) := by
  unfold cancel
  split
  · exact .refl k st
  · split
    · exact .refl k st
    · refine ⟨rfl, ?_, st.lookup_abandon_of_ne h _, rfl⟩
      dsimp only
      split
      · exact lookup_erase_ne h
      · exact lookup_insert_ne h

theorem cleanup_sameAt (h : k ≠ id) (reply : Reply) : SameAt k st (st.cleanup id reply) := by
  unfold cleanup
  split
  · exact .refl k st
  · refine ⟨?_, rfl, ?_, rfl⟩
    · dsimp only
      split
      · exact TaskRunRepository.lookup_settlePendingAfterCancellation_of_ne st.runs h _
      · rfl
    · dsimp only
      split
      · exact lookup_erase_ne h
      · exact lookup_insert_ne h

end State

/-! ## Who writes a row -/

structure Inv (k : RunId) (st : State) : Prop where
  fresh : st.issued ≤ k → st.dispatches.lookup k = none ∧ st.cleanups.lookup k = none
  unguarded : ∀ d, st.dispatches.lookup k = some d → d.dropped = false →
    st.cleanups.lookup k = none
  recorded : ∀ d, st.dispatches.lookup k = some d → d.phase.recorded = true →
    (st.runs.lookup k).isSome = true

section Step

variable {st st' : State} {k : RunId}

theorem SameAt.inv (h : SameAt k st st') (hinv : Inv k st) : Inv k st' where
  fresh hk := by
    rw [h.dispatches, h.cleanups]
    exact hinv.fresh (h.issued ▸ hk)
  unguarded d hd hdropped := h.cleanups.trans (hinv.unguarded d (h.dispatches ▸ hd) hdropped)
  recorded d hd hphase := by
    rw [h.runs]
    exact hinv.recorded d (h.dispatches ▸ hd) hphase

theorem Inv.lt_issued (hinv : Inv k st) {d : Dispatch} (hd : st.dispatches.lookup k = some d) :
    k < st.issued := by
  by_contra hk
  rw [(hinv.fresh (Nat.le_of_not_lt hk)).1] at hd
  cases hd

theorem inv_of_no_dispatch (hfresh : st.issued ≤ k → st.cleanups.lookup k = none)
    (hd : st.dispatches.lookup k = none) : Inv k st where
  fresh hk := ⟨hd, hfresh hk⟩
  unguarded d h := by
    rw [hd] at h
    cases h
  recorded d h := by
    rw [hd] at h
    cases h

theorem inv_start (hinv : Inv k st) (taskId agentId createdAt : String) :
    Inv k (st.start taskId agentId createdAt) := by
  by_cases hk : k = st.issued
  · subst hk
    refine ⟨fun h => absurd h (Nat.not_succ_le_self _), fun _ _ _ => (hinv.fresh le_rfl).2, ?_⟩
    intro d hd hphase
    have hlookup : (st.start taskId agentId createdAt).dispatches.lookup st.issued = some _ :=
      lookup_insert st.dispatches
    rw [hlookup] at hd
    cases hd
    revert hphase
    dsimp only
    split <;> exact fun h => by cases h
  · have hd : (st.start taskId agentId createdAt).dispatches.lookup k = st.dispatches.lookup k :=
      lookup_insert_ne hk
    refine ⟨fun h => ?_, fun d h => hinv.unguarded d (hd ▸ h), fun d h => hinv.recorded d (hd ▸ h)⟩
    rw [hd]
    exact hinv.fresh (Nat.le_of_succ_le h)

theorem inv_advance (hinv : Inv k st) (id : RunId) {next : Phase → Option Phase}
    (hnext : ∀ phase phase', next phase = some phase' → phase'.recorded = true →
      phase.recorded = true) : Inv k (st.advance id next) := by
  by_cases hk : k = id
  · subst hk
    unfold State.advance
    split
    · exact hinv
    · rename_i d hd
      split
      · exact hinv
      · rename_i phase hphase
        split
        · exact hinv
        · rename_i hdropped
          have hlt := hinv.lt_issued hd
          refine ⟨fun h => absurd h (Nat.not_le_of_lt hlt), fun _ _ _ => ?_, fun d' hd' hrec => ?_⟩
          · exact hinv.unguarded d hd (by simpa using hdropped)
          · rw [lookup_insert] at hd'
            cases hd'
            exact hinv.recorded d hd (hnext _ _ hphase hrec)
  · exact (st.advance_sameAt hk next).inv hinv

theorem recorded_nextOnline (online : Bool) (phase phase' : Phase)
    (h : State.nextOnline online phase = some phase') (hrec : phase'.recorded = true) :
    phase.recorded = true := by
  cases phase <;> cases h
  cases online <;> cases hrec

theorem recorded_nextSent (error : Option String) (phase phase' : Phase)
    (h : State.nextSent error phase = some phase') (hrec : phase'.recorded = true) :
    phase.recorded = true := by
  cases phase <;> cases h
  cases error <;> cases hrec

theorem recorded_nextAwaited (result : RunResult) (phase phase' : Phase)
    (h : State.nextAwaited result phase = some phase') (_ : phase'.recorded = true) :
    phase.recorded = true := by
  cases phase <;> cases h
  rfl

theorem inv_answer (hinv : Inv k st) (id : RunId) (reply : Reply) :
    Inv k (st.answer id reply) := by
  by_cases hk : k = id
  · subst hk
    obtain heq | ⟨d, runs, hd, hruns, hcases⟩ := st.answer_cases k reply
    · rwa [heq]
    · have hissued {p : Prop} (h : st.issued ≤ k) : p := absurd (hinv.lt_issued hd) (not_lt_of_ge h)
      obtain ⟨-, heq⟩ | ⟨hdropped, -, heq⟩ | ⟨-, -, heq⟩ := hcases
      · rw [heq]
        exact inv_of_no_dispatch hissued (lookup_erase k st.dispatches)
      · rw [heq]
        unfold State.succeed
        split
        · exact inv_of_no_dispatch hissued (lookup_erase k st.dispatches)
        · exact inv_of_no_dispatch hissued (lookup_erase k st.dispatches)
        · rename_i hphase
          unfold Dispatch.statement at hruns
          rw [hphase] at hruns
          cases hruns
          exact ⟨hissued, fun _ _ _ => hinv.unguarded d hd hdropped,
            fun _ _ _ => (isSome_lookup_insert _ _ _ _).mpr (.inl rfl)⟩
        · exact ⟨hinv.fresh, hinv.unguarded, fun d' hd' hrec =>
            isSome_lookup_statement hruns (hinv.recorded d' hd' hrec)⟩
      · rw [heq]
        exact inv_of_no_dispatch hissued (lookup_erase k st.dispatches)
  · exact (st.answer_sameAt hk reply).inv hinv

theorem inv_cancel (hinv : Inv k st) (id : RunId) : Inv k (st.cancel id) := by
  by_cases hk : k = id
  · subst hk
    unfold State.cancel
    split
    · exact hinv
    · rename_i d hd
      split
      · exact hinv
      · have hissued {p : Prop} (h : st.issued ≤ k) : p :=
          absurd (hinv.lt_issued hd) (not_lt_of_ge h)
        cases hstatement : d.statement k st.runs with
        | none => exact inv_of_no_dispatch hissued (lookup_erase k st.dispatches)
        | some =>
          have hlookup : (st.dispatches.insert k { d with dropped := true }).lookup k =
              some { d with dropped := true } := lookup_insert st.dispatches
          refine ⟨hissued, fun d' hd' hdropped => ?_, fun d' hd' hrec => ?_⟩
          · cases hlookup.symm.trans hd'
            cases hdropped
          · cases hlookup.symm.trans hd'
            exact hinv.recorded d hd hrec
  · exact (st.cancel_sameAt hk).inv hinv

theorem inv_cleanup (hinv : Inv k st) (id : RunId) (reply : Reply) :
    Inv k (st.cleanup id reply) := by
  by_cases hk : k = id
  · subst hk
    unfold State.cleanup
    split
    · exact hinv
    · rename_i attempts hcleanup
      refine ⟨fun h => ?_, fun d hd hdropped => ?_, fun d hd hrec => ?_⟩
      · rw [(hinv.fresh h).2] at hcleanup
        cases hcleanup
      · rw [hinv.unguarded d hd hdropped] at hcleanup
        cases hcleanup
      · dsimp only
        split
        · rw [TaskRunRepository.isSome_lookup_settlePendingAfterCancellation]
          exact hinv.recorded d hd hrec
        · exact hinv.recorded d hd hrec
  · exact (st.cleanup_sameAt hk reply).inv hinv

theorem inv_step (hinv : Inv k st) (e : Event) : Inv k (st.step e) := by
  cases e with
  | start taskId agentId createdAt => exact inv_start hinv taskId agentId createdAt
  | online id online => exact inv_advance hinv id (recorded_nextOnline online)
  | sent id error => exact inv_advance hinv id (recorded_nextSent error)
  | received id => exact inv_advance hinv id (recorded_nextAwaited _)
  | closed id => exact inv_advance hinv id (recorded_nextAwaited _)
  | timeout id => exact inv_advance hinv id (recorded_nextAwaited _)
  | answer id reply => exact inv_answer hinv id reply
  | cancel id => exact inv_cancel hinv id
  | cleanup id reply => exact inv_cleanup hinv id reply
  | restart => exact inv_of_no_dispatch (fun _ => rfl) rfl

theorem inv_run (k : RunId) (es : List Event) : Inv k (run State.step initial es) :=
  run_induct (P := Inv k) (fun _ e h => inv_step h e) (inv_of_no_dispatch (fun _ => rfl) rfl) es

end Step

/-! ## A returned run -/

structure Finished (k : RunId) (st : State) : Prop where
  issued : k < st.issued
  dispatches : st.dispatches.lookup k = none
  cleanups : st.cleanups.lookup k = none

def Event.settles : Event → Bool
  | .restart reply => executed reply
  | _ => false

section Finished

variable {st st' : State} {k : RunId}

theorem SameAt.finished (h : SameAt k st st') (hfin : Finished k st) : Finished k st' :=
  ⟨h.issued ▸ hfin.issued, h.dispatches.trans hfin.dispatches, h.cleanups.trans hfin.cleanups⟩

theorem Finished.advance_sameAt (hfin : Finished k st) (id : RunId)
    (next : Phase → Option Phase) : SameAt k st (st.advance id next) := by
  by_cases hk : k = id
  · subst hk
    unfold State.advance
    rw [hfin.dispatches]
    exact .refl k st
  · exact st.advance_sameAt hk next

theorem Finished.answer_sameAt (hfin : Finished k st) (id : RunId) (reply : Reply) :
    SameAt k st (st.answer id reply) := by
  by_cases hk : k = id
  · subst hk
    unfold State.answer
    rw [hfin.dispatches]
    exact .refl k st
  · exact st.answer_sameAt hk reply

theorem Finished.cancel_sameAt (hfin : Finished k st) (id : RunId) :
    SameAt k st (st.cancel id) := by
  by_cases hk : k = id
  · subst hk
    unfold State.cancel
    rw [hfin.dispatches]
    exact .refl k st
  · exact st.cancel_sameAt hk

theorem Finished.cleanup_sameAt (hfin : Finished k st) (id : RunId) (reply : Reply) :
    SameAt k st (st.cleanup id reply) := by
  by_cases hk : k = id
  · subst hk
    unfold State.cleanup
    rw [hfin.cleanups]
    exact .refl k st
  · exact st.cleanup_sameAt hk reply

theorem finished_step (hfin : Finished k st) (e : Event) :
    Finished k (st.step e) ∧ (st.step e).runs.lookup k =
      if e.settles then (st.runs.lookup k).map (·.settle taskRunRestartError)
      else st.runs.lookup k := by
  have hsame {st' : State} (h : SameAt k st st') :
      Finished k st' ∧ st'.runs.lookup k = st.runs.lookup k := ⟨h.finished hfin, h.runs⟩
  cases e with
  | start =>
    refine ⟨⟨Nat.lt_succ_of_lt hfin.issued, ?_, hfin.cleanups⟩, rfl⟩
    exact (lookup_insert_ne (Nat.ne_of_lt hfin.issued)).trans hfin.dispatches
  | online id => exact hsame (hfin.advance_sameAt id _)
  | sent id => exact hsame (hfin.advance_sameAt id _)
  | received id => exact hsame (hfin.advance_sameAt id _)
  | closed id => exact hsame (hfin.advance_sameAt id _)
  | timeout id => exact hsame (hfin.advance_sameAt id _)
  | answer id reply => exact hsame (hfin.answer_sameAt id reply)
  | cancel id => exact hsame (hfin.cancel_sameAt id)
  | cleanup id reply => exact hsame (hfin.cleanup_sameAt id reply)
  | restart =>
    refine ⟨⟨hfin.issued, rfl, rfl⟩, ?_⟩
    unfold State.step State.restart Event.settles
    dsimp only
    split
    · exact lookup_mapVal st.runs _ k
    · rfl

theorem returned_succeed {id : RunId} (hinv : Inv id st) {d : Dispatch}
    (hd : st.dispatches.lookup id = some d) (hdropped : d.dropped = false) {runs : TaskRuns}
    (hruns : d.statement id st.runs = some runs) {run : TaskRun}
    (hrun : (State.succeed { st with runs } id d).returned = run :: st.returned) :
    Finished run.id (State.succeed { st with runs } id d) ∧
      Stored (State.succeed { st with runs } id d).runs run := by
  unfold Dispatch.statement at hruns
  unfold State.succeed at hrun ⊢
  have hfin : Finished id { st with runs, dispatches := st.dispatches.erase id } :=
    ⟨hinv.lt_issued hd, lookup_erase id st.dispatches, hinv.unguarded d hd hdropped⟩
  cases hphase : d.phase with
  | create =>
    simp only [hphase, List.cons.injEq, and_true, some.injEq] at hruns hrun ⊢
    subst hruns hrun
    exact ⟨⟨hfin.issued, hfin.dispatches, hfin.cleanups⟩, stored_create st.runs _⟩
  | update result =>
    simp only [hphase, List.cons.injEq, and_true, some.injEq] at hruns hrun ⊢
    subst hruns hrun
    have hrecorded : (st.runs.lookup id).isSome = true :=
      hinv.recorded d hd (by rw [hphase]; rfl)
    exact ⟨⟨hfin.issued, hfin.dispatches, hfin.cleanups⟩, stored_updateResult hrecorded d result⟩
  | online | send | createPending | await =>
    simp only [hphase] at hrun
    exact absurd hrun.symm (List.cons_ne_self _ _)

variable {e : Event}

theorem returned_step (hinv : ∀ k, Inv k st) {run : TaskRun}
    (hrun : (st.step e).returned = run :: st.returned) :
    Finished run.id (st.step e) ∧ Stored (st.step e).runs run := by
  have hself {st' : State} (h : st'.returned = st.returned) :
      st'.returned ≠ run :: st.returned := by
    rw [h]
    exact fun heq => List.cons_ne_self _ _ heq.symm
  have hadvance (id : RunId) (next : Phase → Option Phase) :
      (st.advance id next).returned = st.returned := by
    unfold State.advance
    split
    · rfl
    · split
      · rfl
      · split <;> rfl
  cases e with
  | start => exact absurd hrun (hself rfl)
  | online id => exact absurd hrun (hself (hadvance id _))
  | sent id => exact absurd hrun (hself (hadvance id _))
  | received id => exact absurd hrun (hself (hadvance id _))
  | closed id => exact absurd hrun (hself (hadvance id _))
  | timeout id => exact absurd hrun (hself (hadvance id _))
  | cancel id =>
    refine absurd hrun (hself ?_)
    show (st.cancel id).returned = st.returned
    unfold State.cancel
    split
    · rfl
    · split <;> rfl
  | cleanup id reply =>
    refine absurd hrun (hself ?_)
    show (st.cleanup id reply).returned = st.returned
    unfold State.cleanup
    split <;> rfl
  | restart => exact absurd hrun (hself rfl)
  | answer id reply =>
    change (st.answer id reply).returned = _ at hrun
    show Finished run.id (st.answer id reply) ∧ Stored (st.answer id reply).runs run
    obtain heq | ⟨d, runs, hd, hruns, ⟨-, heq⟩ | ⟨hdropped, -, heq⟩ | ⟨-, -, heq⟩⟩ :=
      st.answer_cases id reply
    · exact absurd hrun (hself (by rw [heq]))
    · exact absurd hrun (hself (by rw [heq]))
    · rw [heq] at hrun ⊢
      exact returned_succeed (hinv id) hd hdropped hruns hrun
    · exact absurd hrun (hself (by rw [heq]))

theorem stored_step {run : TaskRun} (hfin : Finished run.id st) (hstored : Stored st.runs run)
    (he : run.status = .offline → e.settles = false) :
    Stored (st.step e).runs run := by
  obtain ⟨row, hrow, hstatus, herror⟩ := hstored
  have hlookup := (finished_step hfin e).2
  rw [hrow] at hlookup
  cases hsettles : e.settles with
  | false =>
    rw [hsettles] at hlookup
    exact ⟨row, hlookup, hstatus, herror⟩
  | true =>
    have hpending : row.status ≠ "pending" := by
      rw [hstatus]
      intro h
      rw [he (statusStr_eq_pending.mp h)] at hsettles
      cases hsettles
    rw [hsettles, if_pos rfl, map_some, TaskRunRow.settle_of_ne hpending] at hlookup
    exact ⟨row, hlookup, hstatus, herror⟩

theorem not_stored_of_settles {run : TaskRun} (hfin : Finished run.id st)
    (hstored : Stored st.runs run) (hoffline : run.status = .offline) (he : e.settles = true) :
    ¬ Stored (st.step e).runs run := by
  obtain ⟨row, hrow, hstatus, -⟩ := hstored
  have hlookup := (finished_step hfin e).2
  rw [he, if_pos rfl, hrow, map_some] at hlookup
  rintro ⟨row', hrow', hstatus', -⟩
  rw [hlookup] at hrow'
  cases hrow'
  rw [TaskRunRow.status_settle (hstatus.trans (statusStr_eq_pending.mpr hoffline)), hoffline]
    at hstatus'
  exact absurd hstatus' (by decide)

end Finished

/-- A run stays stored with the status and the error it is returned with, through every later
cancellation, cleanup and restart, exactly if it is not the run of an agent that was offline or
no later restart settles the pending runs. -/
theorem returned_run_stored_iff (es : List Event) (e : Event) (run : TaskRun)
    (hrun : (State.step (Transition.run State.step initial es) e).returned =
      run :: (Transition.run State.step initial es).returned) (later : List Event) :
    (∀ earlier, earlier <+: later →
        Stored (Transition.run State.step initial (es ++ e :: earlier)).runs run) ↔
      (run.status = .offline → ∀ e' ∈ later, e'.settles = false) := by
  have hafter (earlier : List Event) : Transition.run State.step initial (es ++ e :: earlier) =
      Transition.run State.step ((Transition.run State.step initial es).step e) earlier := by
    rw [run_append, run_cons]
  simp only [hafter]
  obtain ⟨hfin, hstored⟩ := returned_step (fun k => inv_run k es) hrun
  generalize (Transition.run State.step initial es).step e = st at hfin hstored
  have hfinished (earlier : List Event) : Finished run.id (Transition.run State.step st earlier) :=
    run_induct (P := Finished run.id) (fun _ e' h => (finished_step h e').1) hfin earlier
  constructor
  · intro hkept hoffline e' he'
    obtain ⟨before, after, rfl⟩ := List.append_of_mem he'
    by_contra hsettles
    have hlast := hkept (before ++ [e']) ⟨after, by simp⟩
    rw [run_snoc] at hlast
    exact not_stored_of_settles (hfinished before) (hkept before (List.prefix_append _ _)) hoffline
      (by simpa using hsettles) hlast
  · intro hkept earlier hearlier
    refine (run_induct_of_meets (P := fun st => Finished run.id st ∧ Stored st.runs run)
      (fun st e' he' h => ⟨(finished_step h.1 e').1, stored_step h.1 h.2 he'⟩) ⟨hfin, hstored⟩
      (meets_of_forall (p := fun e' : Event => run.status = .offline → e'.settles = false) ?_)).2
    exact fun e' he' hoffline => hkept hoffline e' (hearlier.subset he')

def offlineDispatch : List Event :=
  [.start "task" "00000000-0000-0000-0000-0000000000a1" "2026-01-01T00:00:00+00:00",
    .online 0 false, .answer 0 .done]

def offlineRun : TaskRun :=
  Dispatch.run
    { taskId := "task", serverId := "00000000-0000-0000-0000-0000000000a1",
      createdAt := "2026-01-01T00:00:00+00:00", phase := .online, dropped := false } 0 .agentOffline

theorem offline_run_rewritten :
    (Transition.run State.step initial offlineDispatch).returned = [offlineRun] ∧
      Stored (Transition.run State.step initial offlineDispatch).runs offlineRun ∧
      ((Transition.run State.step initial (offlineDispatch ++ [.restart .done])).runs.lookup 0).map
          (fun row => ((row.toTaskRun 0).status, (row.toTaskRun 0).error)) =
        some (.failure, some taskRunRestartError) ∧
      ¬ Stored (Transition.run State.step initial (offlineDispatch ++ [.restart .done])).runs
        offlineRun := by
  decide +kernel

def closedDispatch : List Event :=
  [.start "task" "00000000-0000-0000-0000-0000000000a1" "2026-01-01T00:00:00+00:00",
    .start "task" "00000000-0000-0000-0000-0000000000a2" "2026-01-01T00:00:00+00:00",
    .online 0 true, .sent 0 none, .answer 0 .done, .online 1 true, .sent 1 none, .cancel 1,
    .closed 0]

def closedRun : TaskRun :=
  Dispatch.run
    { taskId := "task", serverId := "00000000-0000-0000-0000-0000000000a1",
      createdAt := "2026-01-01T00:00:00+00:00", phase := .online, dropped := false } 0
    (.failed 0 "agent disconnected before reply")

def closedLater : List Event := [.answer 1 .done, .cleanup 1 .done, .restart .done]

theorem returned_run_stored_closed :
    (State.step (Transition.run State.step initial closedDispatch) (.answer 0 .done)).returned =
      [closedRun] ∧
    closedRun.status ≠ .offline ∧
    Stored (Transition.run State.step initial
      (closedDispatch ++ .answer 0 .done :: closedLater)).runs closedRun := by
  refine ⟨by decide +kernel, by decide, ?_⟩
  refine (returned_run_stored_iff closedDispatch (.answer 0 .done) closedRun (by decide +kernel)
    closedLater).mpr ?_ closedLater List.prefix_rfl
  exact fun h => absurd h (by decide)

end XLStatus.Tasks
