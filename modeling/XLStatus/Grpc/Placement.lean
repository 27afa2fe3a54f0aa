import XLStatus.Grpc.Senders
import XLStatus.Grpc.SessionRegistryDefs

/-! A send is all or nothing: what its steps place in the channels, from its start to its
result, whatever the connections do meanwhile. -/

namespace XLStatus.Grpc

open Shared Transition List Function

variable {M : Type}

namespace Senders

variable {s : Senders M} {i : ℕ} {call : SendCall M} {errors : SendErrors}

/-- What a step of a send does: it places the message in the channel that is registered for the
agent, and succeeds, or it places nothing and does not succeed. -/
inductive SendOutcome (s : Senders M) (call : SendCall M) (i : ℕ) (s' : Senders M) : Prop where
  | placed (r : RegisteredSender) (hlive : call.agentId ∉ s.revoked)
      (hcurrent : s.current.lookup call.agentId = some r)
      (hsent : ∀ x, (s'.channels x).sent =
        if x = r.sender then (s.channels x).sent ++ [call.value] else (s.channels x).sent)
      (hphase : s'.sends i = some { call with phase := .done (.ok ()) })
  | waits (phase : SendPhase) (hok : phase ≠ .done (.ok ()))
      (hsent : ∀ x, (s'.channels x).sent = (s.channels x).sent)
      (hphase : s'.sends i = some { call with phase })

theorem SendOutcome.setSend {s' : Senders M} {phase : SendPhase} (hok : phase ≠ .done (.ok ()))
    (hsent : ∀ x, (s'.channels x).sent = (s.channels x).sent) :
    SendOutcome s call i (s'.setSend i call phase) :=
  .waits phase hok hsent (update_self _ _ _)

theorem sendOutcome_commit {c : ChannelId} :
    SendOutcome s call i (commitSend errors s i call c) := by
  have hrelease : ∀ x, ((s.updateChannel c .release).channels x).sent = (s.channels x).sent :=
    sent_updateChannel Channel.sent_release
  unfold commitSend
  split
  · exact .setSend nofun hrelease
  · rename_i hlive
    split
    · exact .setSend nofun hrelease
    · rename_i r hr
      split
      · rename_i hsame
        subst hsame
        refine .placed r hlive hr (fun x => ?_) (update_self _ _ _)
        show (Function.update s.channels r.sender _ x).sent = _
        split
        · rename_i hx
          rw [hx, update_self]
          rfl
        · rename_i hx
          rw [update_of_ne hx]
      · exact .setSend nofun hrelease

theorem stepSend_of_done {step : SendStep} (hcall : s.sends i = some call)
    {result : Except String Unit} (hphase : call.phase = .done result) (hdrop : step ≠ .drop) :
    s.stepSend errors i step = s := by
  unfold stepSend
  rw [hcall]
  cases step with
  | drop => exact absurd rfl hdrop
  | _ => simp only [hphase]

theorem sendOutcome_stepSend {step : SendStep} (hcall : s.sends i = some call)
    (hphase : ∀ result, call.phase ≠ .done result) (hdrop : step ≠ .drop) :
    SendOutcome s call i (s.stepSend errors i step) := by
  have hrefl : SendOutcome s call i s := .waits call.phase (hphase _) (fun _ => rfl) hcall
  unfold stepSend
  rw [hcall]
  dsimp only
  split
  · unfold lookupSend
    split
    · exact .setSend nofun fun _ => rfl
    · split <;> exact .setSend nofun fun _ => rfl
  · split
    · exact hrefl
    · exact .setSend nofun fun _ => rfl
  · split
    · exact .setSend nofun fun _ => rfl
    · split
      · exact .setSend nofun (sent_updateChannel Channel.sent_reserve)
      · exact hrefl
  · unfold recheckSend
    split
    · exact .setSend nofun fun _ => rfl
    · split
      · exact .setSend nofun fun _ => rfl
      · split <;> exact .setSend nofun fun _ => rfl
  · exact sendOutcome_commit
  · exact hrefl
  · exact .setSend nofun (sent_releasePermit _)
  · exact absurd rfl hdrop
  · exact hrefl

theorem sends_stepSend_of_ne {j : ℕ} (hj : j ≠ i) (step : SendStep) :
    (s.stepSend errors i step).sends j = s.sends j := by
  have hset {s' : Senders M} (call : SendCall M) (phase : SendPhase) (h : s'.sends = s.sends) :
      (s'.setSend i call phase).sends j = s.sends j := by
    rw [← h]
    exact update_of_ne hj _ _
  have hrelease (phase : SendPhase) : (s.releasePermit phase).sends = s.sends := by
    cases phase <;> rfl
  unfold stepSend
  split
  · rfl
  · rename_i call _
    split
    · unfold lookupSend
      split
      · exact hset _ _ rfl
      · split <;> exact hset _ _ rfl
    · split
      · rfl
      · exact hset _ _ rfl
    · split
      · exact hset _ _ rfl
      · split
        · exact hset _ _ rfl
        · rfl
    · unfold recheckSend
      split
      · exact hset _ _ rfl
      · split
        · exact hset _ _ rfl
        · split <;> exact hset _ _ rfl
    · unfold commitSend
      split
      · exact hset _ _ rfl
      · split
        · exact hset _ _ rfl
        · split <;> exact hset _ _ rfl
    · rfl
    · exact hset _ _ (hrelease _)
    · exact update_of_ne hj _ _
    · rfl

end Senders

namespace SessionRegistry

def placed (call : ℕ) (c : ChannelId) : SessionRegistry M → List (Event M) → List M
  | _, [] => []
  | r, e :: es =>
    (match e with
      | .sendStep i _ =>
        if i = call then
          ((r.step e).sessions.channels c).sent.drop (r.sessions.channels c).sent.length
        else []
      | _ => []) ++ placed call c (r.step e) es

def PlacedOnce (call : ℕ) (a : AgentId) (message : M) (r : SessionRegistry M)
    (es : List (Event M)) : Prop :=
  ∃ before step after sender, es = before ++ .sendStep call step :: after ∧
    (run SessionRegistry.step r before).sessions.current.lookup a = some sender ∧
    a ∉ (run SessionRegistry.step r before).sessions.revoked ∧
    ((run SessionRegistry.step r (before ++ [.sendStep call step])).sessions.channels
        sender.sender).sent =
      ((run SessionRegistry.step r before).sessions.channels sender.sender).sent ++ [message] ∧
    placed call sender.sender r es = [message] ∧ ∀ c, c ≠ sender.sender → placed call c r es = []

section Step

variable {r : SessionRegistry M} {i : ℕ} {call : SendCall M}

variable {e : Event M}

theorem sends_step_of_ne (hcall : r.sessions.sends i = some call)
    (he : ∀ step, e ≠ .sendStep i step) : (r.step e).sessions.sends i = some call := by
  cases e with
  | connect c a =>
    rw [← hcall]
    show (r.sessions.connect c a sessionCapacity).sends i = _
    unfold Senders.connect
    split <;> rfl
  | register =>
    rw [← hcall]
    unfold step
    dsimp only
    split
    · unfold Senders.register
      split <;> rfl
    · rfl
  | unregister a c =>
    rw [← hcall]
    obtain h | h := r.sessions.unregister_eq a c
    · exact congrArg (fun s : Senders M => s.sends i) h
    · exact (congrArg (fun s : Senders M => s.sends i) h).trans rfl
  | disconnectMark =>
    rw [← hcall]
    unfold step
    dsimp only
    split <;> rfl
  | disconnectRemove =>
    rw [← hcall]
    unfold step
    dsimp only
    split <;> rfl
  | send j a message =>
    show (r.sessions.beginSend j a message).sends i = _
    unfold Senders.beginSend
    split
    · rename_i hfree
      have hne : i ≠ j := by
        rintro rfl
        rw [hcall] at hfree
        cases hfree
      exact (update_of_ne hne _ _).trans hcall
    · exact hcall
  | sendStep j step =>
    have hne : i ≠ j := fun heq => he step (heq ▸ rfl)
    exact (Senders.sends_stepSend_of_ne hne step).trans hcall
  | broadcast =>
    rw [← hcall]
    unfold step
    dsimp only
    split <;> rfl
  | broadcastSend =>
    rw [← hcall]
    unfold step
    dsimp only
    split
    · rfl
    · split
      · unfold broadcastSend
        dsimp only
        split
        · rfl
        · split <;> rfl
      · rfl
  | broadcastDrop => exact hcall
  | recv => exact hcall
  | closeReceiver => exact hcall

theorem placed_cons_of_ne (he : ∀ step, e ≠ .sendStep i step) (c : ChannelId)
    (es : List (Event M)) : placed i c r (e :: es) = placed i c (r.step e) es := by
  unfold placed
  split
  · rename_i j step
    have hne : j ≠ i := fun heq => he step (heq ▸ rfl)
    rw [if_neg hne, nil_append]
    cases es <;> rfl
  · rw [nil_append]
    cases es <;> rfl

theorem placed_cons_self (step : Senders.SendStep) (c : ChannelId) (es : List (Event M)) :
    placed i c r (.sendStep i step :: es) =
      ((r.step (.sendStep i step)).sessions.channels c).sent.drop
        (r.sessions.channels c).sent.length ++ placed i c (r.step (.sendStep i step)) es := by
  rw [placed]
  simp only [if_true]

end Step

section Run

variable {r : SessionRegistry M} {i : ℕ} {a : AgentId} {message : M}

variable {es : List (Event M)}

theorem placed_of_done {result : Except String Unit}
    (hcall : r.sessions.sends i = some ⟨a, message, .done result⟩) (hes : .sendStep i .drop ∉ es) :
    (run step r es).sessions.sends i = some ⟨a, message, .done result⟩ ∧
      ∀ c, placed i c r es = [] := by
  induction es generalizing r with
  | nil => exact ⟨hcall, fun _ => rfl⟩
  | cons e es ih =>
    obtain ⟨hdrop, hrest⟩ := not_or.mp (mt mem_cons.mpr hes)
    by_cases he : ∃ step, e = .sendStep i step
    · obtain ⟨step, rfl⟩ := he
      have hstep : r.step (.sendStep i step) = r := by
        show { r with sessions := r.sessions.stepSend sendErrors i step } = r
        rw [Senders.stepSend_of_done hcall rfl fun h => hdrop (h ▸ rfl)]
      rw [run_cons, hstep]
      refine ⟨(ih hcall hrest).1, fun c => ?_⟩
      rw [placed_cons_self, hstep, drop_length, (ih hcall hrest).2 c, append_nil]
    · have hother : ∀ step, e ≠ .sendStep i step := fun step heq => he ⟨step, heq⟩
      have hnext := ih (sends_step_of_ne hcall hother) hrest
      rw [run_cons]
      exact ⟨hnext.1, fun c => (placed_cons_of_ne hother c es).trans (hnext.2 c)⟩

theorem PlacedOnce.cons {e : Event M} (h : PlacedOnce i a message (r.step e) es)
    (hplaced : ∀ c, placed i c r (e :: es) = placed i c (r.step e) es) :
    PlacedOnce i a message r (e :: es) := by
  obtain ⟨before, step, after, sender, rfl, hcurrent, hlive, hsent, honce, hothers⟩ := h
  refine ⟨e :: before, step, after, sender, rfl, hcurrent, hlive, hsent, ?_, fun c hc => ?_⟩
  · rw [hplaced, honce]
  · rw [hplaced, hothers c hc]

theorem placed_run {phase : SendPhase} (hcall : r.sessions.sends i = some ⟨a, message, phase⟩)
    (hphase : ∀ result, phase ≠ .done result) (hes : .sendStep i .drop ∉ es) :
    ∃ phase', (run step r es).sessions.sends i = some ⟨a, message, phase'⟩ ∧
      (phase' = .done (.ok ()) → PlacedOnce i a message r es) ∧
      (phase' ≠ .done (.ok ()) → ∀ c, placed i c r es = []) := by
  induction es generalizing r phase with
  | nil => exact ⟨phase, hcall, fun h => absurd h (hphase _), fun _ _ => rfl⟩
  | cons e es ih =>
    obtain ⟨hdrop, hrest⟩ := not_or.mp (mt mem_cons.mpr hes)
    by_cases he : ∃ step, e = .sendStep i step
    · obtain ⟨sendStep, rfl⟩ := he
      have houtcome : Senders.SendOutcome r.sessions ⟨a, message, phase⟩ i
          (r.step (.sendStep i sendStep)).sessions :=
        Senders.sendOutcome_stepSend hcall hphase fun h => hdrop (h ▸ rfl)
      cases houtcome with
      | placed sender hlive hcurrent hsent hdone =>
        obtain ⟨hend, hnothing⟩ := placed_of_done hdone hrest
        refine ⟨_, hend, fun _ => ?_, fun h => absurd rfl h⟩
        refine ⟨[], sendStep, es, sender, rfl, hcurrent, hlive, ?_, ?_, fun c hc => ?_⟩
        · exact (hsent _).trans (if_pos rfl)
        · rw [placed_cons_self, hsent, if_pos rfl, drop_left, hnothing, append_nil]
        · rw [placed_cons_self, hsent, if_neg hc, drop_length, hnothing, append_nil]
      | waits next hok hsent hnext =>
        have hplaced (c : ChannelId) : placed i c r (.sendStep i sendStep :: es) =
            placed i c (r.step (.sendStep i sendStep)) es := by
          rw [placed_cons_self, hsent, drop_length, nil_append]
        by_cases hended : ∃ result, next = .done result
        · obtain ⟨result, rfl⟩ := hended
          obtain ⟨hend, hnothing⟩ := placed_of_done hnext hrest
          exact ⟨_, hend, fun h => absurd h hok, fun _ c => (hplaced c).trans (hnothing c)⟩
        · obtain ⟨phase', hend, hok', hnothing⟩ :=
            ih hnext (fun result heq => hended ⟨result, heq⟩) hrest
          exact ⟨phase', hend, fun h => (hok' h).cons hplaced,
            fun h c => (hplaced c).trans (hnothing h c)⟩
    · have hother : ∀ step, e ≠ .sendStep i step := fun step heq => he ⟨step, heq⟩
      obtain ⟨phase', hend, hok', hnothing⟩ := ih (sends_step_of_ne hcall hother) hphase hrest
      exact ⟨phase', hend, fun h => (hok' h).cons fun c => placed_cons_of_ne hother c es,
        fun h c => (placed_cons_of_ne hother c es).trans (hnothing h c)⟩

end Run

/-- A send that has returned succeeded exactly if it has placed its message once, in the channel
that was registered for the agent at that moment; if it has failed it has placed it nowhere. -/
theorem send_all_or_nothing (before after : List (Event M)) (i : ℕ) (a : AgentId) (message : M)
    (hfree : (run step init before).sessions.sends i = none)
    (hdrop : .sendStep i .drop ∉ after) (result : Except String Unit)
    (hresult : (run step init (before ++ .send i a message :: after)).sessions.sends i =
      some ⟨a, message, .done result⟩) :
    (result = .ok () ↔
      PlacedOnce i a message (run step init (before ++ [.send i a message])) after) ∧
    (∀ error, result = .error error →
      ∀ c, placed i c (run step init (before ++ [.send i a message])) after = []) := by
  have hbegin : (run step init (before ++ [.send i a message])).sessions.sends i =
      some ⟨a, message, .lookup⟩ := by
    rw [run_snoc]
    show ((run step init before).sessions.beginSend i a message).sends i = _
    unfold Senders.beginSend
    rw [hfree]
    exact update_self _ _ _
  rw [append_cons, run_append] at hresult
  obtain ⟨phase, hend, hok, hnothing⟩ := placed_run hbegin nofun hdrop
  rw [hend] at hresult
  obtain rfl : phase = .done result := congrArg SendCall.phase (Option.some.inj hresult)
  have hfailed (error : String) (herror : result = .error error) (c : ChannelId) :
      placed i c (run step init (before ++ [.send i a message])) after = [] := by
    subst herror
    exact hnothing nofun c
  refine ⟨⟨fun h => hok (h ▸ rfl), fun h => ?_⟩, hfailed⟩
  obtain ⟨-, -, -, sender, -, -, -, -, honce, -⟩ := h
  cases result with
  | ok u => rfl
  | error error =>
    rw [hfailed error rfl] at honce
    cases honce

namespace Reconnect

def agentId : AgentId := ⟨"00000000-0000-4000-8000-000000000001", canonical_one⟩

def after : List (Event String) :=
  [.sendStep 0 .lookup, .sendStep 0 .reserve, .connect 1 agentId, .register agentId 1,
    .sendStep 0 .commit, .sendStep 0 .lookup, .sendStep 0 .reserve, .sendStep 0 .commit]

end Reconnect

theorem send_all_or_nothing_reconnect :
    PlacedOnce 0 Reconnect.agentId "task"
      (run step init [.connect 0 Reconnect.agentId, .register Reconnect.agentId 0,
        .send 0 Reconnect.agentId "task"]) Reconnect.after :=
  (send_all_or_nothing [.connect 0 Reconnect.agentId, .register Reconnect.agentId 0]
    Reconnect.after 0 Reconnect.agentId "task" rfl (by simp [Reconnect.after]) (.ok ()) rfl).1.mp rfl

end SessionRegistry

end XLStatus.Grpc
