import XLStatus.Grpc.Senders
import XLStatus.Grpc.SessionRegistryDefs

/-! Revocation in the session registry. A send checks the revocation again before it
places its message; a broadcast does not, so a sender it took before the revocation
still gets the message. -/

namespace XLStatus.Grpc.SessionRegistry

open Shared Transition Function

variable {M : Type} {r : SessionRegistry M}

structure Consistent (s : Senders M) (broadcasts : ℕ → Option (Broadcast M)) : Prop where
  owned : s.Owned
  live : ∀ call b, broadcasts call = some b → ∀ c ∈ b.senders,
    ∃ a, s.owner c = some a ∧ a ∉ s.revoked

/-- No broadcast holds a sender of an agent that gets revoked, and none starts between
the two steps of a disconnect. -/
def NoStaleBroadcast (r : SessionRegistry M) : Event M → Prop
  | .disconnectMark _ a => ∀ call b, r.broadcasts call = some b → ∀ c ∈ b.senders,
      r.sessions.owner c ≠ some a
  | .broadcast _ _ => ∀ a ∈ r.sessions.revoked, r.sessions.current.lookup a = none
  | _ => True

theorem exists_lookup_of_mem_currentSenders {s : Senders M} {c : ChannelId}
    (h : c ∈ currentSenders s) : ∃ a x, s.current.lookup a = some x ∧ x.sender = c := by
  obtain ⟨⟨a, x⟩, hmem, rfl⟩ := List.mem_map.mp h
  exact ⟨a, x, AList.mem_lookup_iff.mpr hmem, rfl⟩

section
variable {s s' : Senders M} {broadcasts : ℕ → Option (Broadcast M)}

theorem Consistent.of_owner (h : Consistent s broadcasts) (howned : s'.Owned)
    (howner : ∀ c a, s.owner c = some a → s'.owner c = some a)
    (hrevoked : s'.revoked = s.revoked) : Consistent s' broadcasts := by
  refine ⟨howned, fun call b hb c hc => ?_⟩
  obtain ⟨a, ha, hlive⟩ := h.live call b hb c hc
  refine ⟨a, howner c a ha, ?_⟩
  rw [hrevoked]
  exact hlive

theorem Consistent.of_sameMap (h : Consistent s broadcasts) (hmap : Senders.SameMap s s') :
    Consistent s' broadcasts := by
  refine h.of_owner (hmap.owned h.owned) ?_ hmap.revoked
  intro c a ha
  rw [hmap.owner]
  exact ha

theorem Consistent.remove (h : Consistent s broadcasts) (a : AgentId) :
    Consistent (s.remove a) broadcasts :=
  h.of_owner (Senders.owned_erase h.owned a) (fun _ _ ha => ha) rfl

theorem Consistent.connect (h : Consistent s broadcasts) (c : ChannelId) (a : AgentId)
    (capacity : ℕ) : Consistent (s.connect c a capacity) broadcasts := by
  refine h.of_owner (Senders.owned_connect h.owned c a _) ?_ ?_
  · intro x b hb
    unfold Senders.connect
    split
    · rename_i hfree
      have hne : x ≠ c := by
        rintro rfl
        rw [hfree] at hb
        cases hb
      exact (update_of_ne hne _ _).trans hb
    · exact hb
  · unfold Senders.connect
    split <;> rfl

theorem Consistent.register (h : Consistent s broadcasts) {a : AgentId} {c : ChannelId}
    (hc : s.owner c = some a) : Consistent (s.register a c).2 broadcasts := by
  refine h.of_owner (Senders.owned_register h.owned hc) ?_ ?_ <;>
    unfold Senders.register <;> split
  · exact fun _ _ h => h
  · exact fun _ _ h => h
  · rfl
  · rfl

theorem Consistent.markRevoked (h : Consistent s broadcasts) {a : AgentId}
    (hfree : ∀ call b, broadcasts call = some b → ∀ c ∈ b.senders, s.owner c ≠ some a) :
    Consistent (s.markRevoked a) broadcasts := by
  refine ⟨h.owned, fun call b hb c hc => ?_⟩
  obtain ⟨x, hx, hlive⟩ := h.live call b hb c hc
  refine ⟨x, hx, fun hmem => ?_⟩
  rcases Finset.mem_insert.mp hmem with rfl | hold
  · exact hfree call b hb c hc hx
  · exact hlive hold

theorem Consistent.update (h : Consistent s broadcasts) (call : ℕ) {b : Option (Broadcast M)}
    (hb : ∀ x, b = some x → ∀ c ∈ x.senders, ∃ a, s.owner c = some a ∧ a ∉ s.revoked) :
    Consistent s (Function.update broadcasts call b) := by
  refine ⟨h.owned, fun call' b' hb' => ?_⟩
  by_cases hcall : call' = call
  · subst hcall
    rw [update_self] at hb'
    exact hb b' hb'
  · rw [update_of_ne hcall] at hb'
    exact h.live call' b' hb'

end

theorem consistent_broadcastSend {call : ℕ} {b : Broadcast M}
    (h : Consistent r.sessions r.broadcasts) (hb : r.broadcasts call = some b) (c : ChannelId) :
    Consistent (broadcastSend r call b c).sessions (broadcastSend r call b c).broadcasts := by
  have hrest : Consistent r.sessions
      (Function.update r.broadcasts call (some { b with senders := b.senders.erase c })) := by
    refine h.update call fun x hx y hy => ?_
    cases hx
    exact h.live call b hb y (List.mem_of_mem_erase hy)
  unfold broadcastSend
  simp only
  split
  · exact hrest
  · split
    · exact hrest.of_sameMap ⟨rfl, rfl, rfl⟩
    · exact h

theorem consistent_step (r : SessionRegistry M) (e : Event M) (hguard : NoStaleBroadcast r e)
    (h : Consistent r.sessions r.broadcasts) :
    Consistent (r.step e).sessions (r.step e).broadcasts := by
  cases e with
  | connect c a => exact h.connect c a sessionCapacity
  | register =>
    simp only [step]
    split
    · rename_i hc
      exact h.register hc
    · exact h
  | unregister a c =>
    simp only [step]
    rcases Senders.unregister_eq r.sessions a c with heq | heq <;> rw [heq]
    · exact h
    · exact h.remove a
  | disconnectMark =>
    simp only [step]
    split
    · exact h.markRevoked hguard
    · exact h
  | disconnectRemove =>
    simp only [step]
    split
    · exact h
    · exact h.remove _
  | send call a message =>
    exact h.of_sameMap (Senders.sendEffect_beginSend _ call a message).map
  | sendStep call step =>
    exact h.of_sameMap (Senders.sendEffect_stepSend sendErrors _ call step).map
  | broadcast call =>
    simp only [step]
    split
    · refine h.update call fun b hb c hc => ?_
      cases hb
      -- a sender that was found in the map belongs to an agent that is not revoked
      obtain ⟨a, x, hx, rfl⟩ := exists_lookup_of_mem_currentSenders hc
      refine ⟨a, h.owned a x hx, fun hrevoked => ?_⟩
      rw [hguard a hrevoked] at hx
      cases hx
    · exact h
  | broadcastSend call c =>
    simp only [step]
    split
    · exact h
    · rename_i b hb
      split
      · exact consistent_broadcastSend h hb c
      · exact h
  | broadcastDrop call => exact h.update call fun _ hb => nomatch hb
  | recv c => exact h.of_sameMap (Senders.sameMap_updateChannel c _)
  | closeReceiver c => exact h.of_sameMap (Senders.sameMap_updateChannel c _)

theorem sent_step_of_revoked (h : Consistent r.sessions r.broadcasts) (e : Event M) {a : AgentId}
    (ha : a ∈ r.sessions.revoked) {c : ChannelId} (hc : r.sessions.owner c = some a) :
    ((r.step e).sessions.channels c).sent = (r.sessions.channels c).sent := by
  have hsend : ∀ s', Senders.SendEffect r.sessions s' →
      (s'.channels c).sent = (r.sessions.channels c).sent := by
    intro s' heff
    -- A commit is made to the current sender of an agent that is not revoked.
    refine (heff.sent c).resolve_right ?_
    rintro ⟨b, x, hlive, hlook, rfl⟩
    have howner := h.owned b x hlook
    rw [hc] at howner
    exact hlive (Option.some.inj howner ▸ ha)
  cases e with
  | connect x =>
    simp only [step, Senders.connect]
    split
    · rename_i hfree
      have hne : c ≠ x := by
        rintro rfl
        rw [hfree] at hc
        cases hc
      exact congrArg Channel.sent (update_of_ne hne _ _)
    · rfl
  | register =>
    simp only [step]
    split
    · unfold Senders.register
      split <;> rfl
    · rfl
  | unregister b x =>
    simp only [step]
    rcases Senders.unregister_eq r.sessions b x with heq | heq <;> rw [heq]
    rfl
  | disconnectMark =>
    simp only [step]
    split <;> rfl
  | disconnectRemove =>
    simp only [step]
    split <;> rfl
  | send call b message => exact hsend _ (Senders.sendEffect_beginSend _ call b message)
  | sendStep call step => exact hsend _ (Senders.sendEffect_stepSend sendErrors _ call step)
  | broadcast =>
    simp only [step]
    split <;> rfl
  | broadcastSend call x =>
    simp only [step]
    split
    · rfl
    · rename_i b hb
      split
      · rename_i hx
        unfold broadcastSend
        simp only
        split
        · rfl
        · split
          · have hne : c ≠ x := by
              rintro rfl
              -- The senders a broadcast still holds are all of live agents.
              obtain ⟨o, ho, hlive⟩ := h.live call b hb c hx
              rw [hc] at ho
              exact hlive (Option.some.inj ho ▸ ha)
            exact congrArg Channel.sent (update_of_ne hne _ _)
          · rfl
      · rfl
  | broadcastDrop => rfl
  | recv => exact Senders.sent_updateChannel Channel.sent_recv c
  | closeReceiver => exact Senders.sent_updateChannel Channel.sent_close c

def Gone (a : AgentId) (r : SessionRegistry M) : Prop :=
  a ∈ r.sessions.revoked ∧ r.sessions.current.lookup a = none

theorem gone_step {a : AgentId} (h : Gone a r) (e : Event M) : Gone a (r.step e) := by
  have hsame : ∀ s', Senders.SameMap r.sessions s' →
      a ∈ s'.revoked ∧ s'.current.lookup a = none := by
    intro s' hmap
    rw [hmap.revoked, hmap.current]
    exact h
  unfold Gone at h ⊢
  cases e with
  | connect =>
    simp only [step, Senders.connect]
    split <;> exact h
  | register b =>
    simp only [step]
    split
    -- The registration is refused for `a` and touches no entry but that of `b`.
    · refine ⟨?_, Senders.lookup_register_of_revoked h.1 h.2⟩
      unfold Senders.register
      split <;> exact h.1
    · exact h
  | unregister b x =>
    simp only [step]
    rcases Senders.unregister_eq r.sessions b x with heq | heq <;> rw [heq]
    · exact h
    · exact ⟨h.1, Senders.lookup_remove_of_none h.2⟩
  | disconnectMark =>
    simp only [step]
    split
    · exact ⟨Finset.mem_insert_of_mem h.1, h.2⟩
    · exact h
  | disconnectRemove =>
    simp only [step]
    split
    · exact h
    · exact ⟨h.1, Senders.lookup_remove_of_none h.2⟩
  | send call b message => exact hsame _ (Senders.sendEffect_beginSend _ call b message).map
  | sendStep call step => exact hsame _ (Senders.sendEffect_stepSend sendErrors _ call step).map
  | broadcast =>
    simp only [step]
    split <;> exact h
  | broadcastSend =>
    simp only [step]
    split
    · exact h
    · split
      · unfold broadcastSend
        simp only
        split
        · exact h
        · split <;> exact h
      · exact h
  | broadcastDrop => exact h
  | recv => exact h
  | closeReceiver => exact h

/-! A broadcast, and a send, that is under way while its agent is revoked. -/

namespace Stale

def agentId : AgentId := ⟨"00000000-0000-4000-8000-000000000001", canonical_one⟩

def start : List (Event String) := [.connect 0 agentId, .register agentId 0]

def broadcastThenRevoke : List (Event String) :=
  start ++ [.broadcast 0 "task", .disconnectMark 0 agentId, .disconnectRemove 0]

def sendThenRevoke : List (Event String) :=
  start ++ [.send 0 agentId "task", .sendStep 0 .lookup, .sendStep 0 .reserve,
    .disconnectMark 0 agentId]

theorem sendThenRevoke_meets :
    Meets step NoStaleBroadcast init (sendThenRevoke ++ [.sendStep 0 .commit]) := by
  refine ⟨trivial, trivial, trivial, trivial, trivial, fun call b hb => ?_, trivial, trivial⟩
  exact nomatch hb

end Stale

/-- In a run without stale broadcasts, from the moment an agent is marked revoked: no
step places a message in a channel of the agent, a registration is refused and changes
nothing, and when a disconnect of the agent is completed the agent is out of the map in
every state after it. -/
theorem revocation_final_of_noStaleBroadcast (before after : List (Event M)) (e : Event M)
    (hrun : Meets step NoStaleBroadcast init (before ++ e :: after)) {a : AgentId}
    (ha : a ∈ (run step init before).sessions.revoked) :
    (∀ c, (run step init before).sessions.owner c = some a →
        (((run step init before).step e).sessions.channels c).sent =
          ((run step init before).sessions.channels c).sent) ∧
      (∀ c, (run step init before).sessions.register a c =
        (false, (run step init before).sessions)) ∧
      ∀ call, e = .disconnectRemove call → (run step init before).disconnects call = some a →
        (run step init (before ++ e :: after)).sessions.current.lookup a = none := by
  have hinit : Consistent (init : SessionRegistry M).sessions init.broadcasts :=
    ⟨fun _ _ h => (nomatch h), fun _ _ h => (nomatch h)⟩
  have hbefore := run_induct_of_meets (P := fun r => Consistent r.sessions r.broadcasts)
    consistent_step hinit (meets_append.mp hrun).1
  refine ⟨fun c hc => sent_step_of_revoked hbefore e ha hc, fun c => if_pos ha, ?_⟩
  rintro call rfl hcall
  rw [run_append, run_cons]
  have hremoved : Gone a ((run step init before).step (.disconnectRemove call)) := by
    simp only [step, hcall]
    exact ⟨ha, AList.lookup_erase _ _⟩
  have hstep : ∀ (r : SessionRegistry M) e, Gone a r → Gone a (step r e) :=
    fun _ e h => gone_step h e
  exact (run_induct hstep hremoved after).2

theorem revocation_final_send :
    Stale.agentId ∈ (run step init Stale.sendThenRevoke).sessions.revoked ∧
    ∀ c, (run step init Stale.sendThenRevoke).sessions.owner c = some Stale.agentId →
      (((run step init Stale.sendThenRevoke).step
          (.sendStep 0 .commit)).sessions.channels c).sent =
        ((run step init Stale.sendThenRevoke).sessions.channels c).sent :=
  ⟨by decide, (revocation_final_of_noStaleBroadcast Stale.sendThenRevoke [] (.sendStep 0 .commit)
    Stale.sendThenRevoke_meets (by decide)).1⟩

theorem stale_broadcast_sends_to_revoked :
    Stale.agentId ∈ (run step init Stale.broadcastThenRevoke).sessions.revoked ∧
      (run step init Stale.broadcastThenRevoke).sessions.owner 0 = some Stale.agentId ∧
      ((run step init Stale.broadcastThenRevoke).sessions.channels 0).sent = [] ∧
      (((run step init Stale.broadcastThenRevoke).step
        (.broadcastSend 0 0)).sessions.channels 0).sent = ["task"] := by
  decide

end XLStatus.Grpc.SessionRegistry
