import XLStatus.Grpc.SendersDefs

/-! What the steps on the senders keep: a send never touches the map of the senders, and
places its message only in the channel registered for an agent that is not revoked. -/

namespace XLStatus.Grpc.Senders

open Shared

variable {M : Type} {s : Senders M}

def Owned (s : Senders M) : Prop :=
  ∀ a r, s.current.lookup a = some r → s.owner r.sender = some a

structure SameMap (s s' : Senders M) : Prop where
  current : s'.current = s.current
  revoked : s'.revoked = s.revoked
  owner : s'.owner = s.owner

theorem SameMap.refl (s : Senders M) : SameMap s s := ⟨rfl, rfl, rfl⟩

variable {s' : Senders M} {c : ChannelId} {i : ℕ} {a b : AgentId}

theorem SameMap.owned (h : SameMap s s') (ho : s.Owned) : s'.Owned := by
  intro a r hr
  rw [h.current] at hr
  rw [h.owner]
  exact ho a r hr

theorem sameMap_updateChannel (c : ChannelId) (f : Channel M → Channel M) :
    SameMap s (s.updateChannel c f) := ⟨rfl, rfl, rfl⟩

theorem sameMap_releasePermit (phase : SendPhase) : SameMap s (s.releasePermit phase) := by
  cases phase <;> exact ⟨rfl, rfl, rfl⟩

theorem sent_updateChannel {f : Channel M → Channel M} (hf : ∀ x : Channel M, (f x).sent = x.sent)
    (x : ChannelId) :
    ((s.updateChannel c f).channels x).sent = (s.channels x).sent :=
  sent_update (hf _) x

theorem sent_releasePermit (phase : SendPhase) (x : ChannelId) :
    ((s.releasePermit phase).channels x).sent = (s.channels x).sent := by
  cases phase with
  | permitted => exact sent_updateChannel Channel.sent_release x
  | lookup => rfl
  | waiting => rfl
  | reserveFailed => rfl
  | done => rfl

def Commits (s : Senders M) (x : ChannelId) : Prop :=
  ∃ a r, a ∉ s.revoked ∧ s.current.lookup a = some r ∧ r.sender = x

structure SendEffect (s s' : Senders M) : Prop where
  map : SameMap s s'
  sent : ∀ x, (s'.channels x).sent = (s.channels x).sent ∨ Commits s x

theorem sendEffect_setSend {call : SendCall M} {phase : SendPhase} (hmap : SameMap s s')
    (hsent : ∀ x, (s'.channels x).sent = (s.channels x).sent ∨ Commits s x) :
    SendEffect s (s'.setSend i call phase) :=
  ⟨⟨hmap.current, hmap.revoked, hmap.owner⟩, hsent⟩

theorem sendEffect_commit {errors : SendErrors} {call : SendCall M} :
    SendEffect s (commitSend errors s i call c) := by
  have hrelease : ∀ phase, SendEffect s ((s.updateChannel c .release).setSend i call phase) :=
    fun phase => sendEffect_setSend (sameMap_updateChannel c _)
      fun x => .inl (sent_updateChannel Channel.sent_release x)
  unfold commitSend
  split
  · exact hrelease _
  · rename_i hlive
    split
    · exact hrelease _
    · rename_i r hr
      split
      · rename_i hsame
        refine sendEffect_setSend (sameMap_updateChannel c _) fun x => ?_
        by_cases hx : x = c
        · exact .inr ⟨call.agentId, r, hlive, hr, hsame.trans hx.symm⟩
        · exact .inl (congrArg Channel.sent (Function.update_of_ne hx _ _))
      · exact hrelease _

theorem sendEffect_stepSend (errors : SendErrors) (s : Senders M) (i : ℕ) (step : SendStep) :
    SendEffect s (s.stepSend errors i step) := by
  have hrefl : SendEffect s s := ⟨.refl s, fun _ => .inl rfl⟩
  have hphase : ∀ (call : SendCall M) phase, SendEffect s (s.setSend i call phase) :=
    fun call phase => sendEffect_setSend (.refl s) fun _ => .inl rfl
  unfold stepSend
  split
  · exact hrefl
  · rename_i call _
    split
    · unfold lookupSend
      split
      · exact hphase _ _
      · split <;> exact hphase _ _
    · split
      · exact hrefl
      · exact hphase _ _
    · split
      · exact hphase _ _
      · split
        · exact sendEffect_setSend (sameMap_updateChannel _ _)
            fun x => .inl (sent_updateChannel Channel.sent_reserve x)
        · exact hrefl
    · unfold recheckSend
      split
      · exact hphase _ _
      · split
        · exact hphase _ _
        · split <;> exact hphase _ _
    · exact sendEffect_commit
    · exact hrefl
    · exact sendEffect_setSend (sameMap_releasePermit _) fun x => .inl (sent_releasePermit _ x)
    · have hmap := sameMap_releasePermit (s := s) call.phase
      exact ⟨⟨hmap.current, hmap.revoked, hmap.owner⟩, fun x => .inl (sent_releasePermit _ x)⟩
    · exact hrefl

theorem sendEffect_beginSend (s : Senders M) (i : ℕ) (a : AgentId) (value : M) :
    SendEffect s (s.beginSend i a value) := by
  unfold beginSend
  split <;> exact ⟨⟨rfl, rfl, rfl⟩, fun _ => .inl rfl⟩

theorem owned_connect (h : s.Owned) (c : ChannelId) (a : AgentId) (capacity : ℕ) :
    (s.connect c a capacity).Owned := by
  unfold connect
  split
  · rename_i hfree
    intro b r hr
    have hb := h b r hr
    have hne : r.sender ≠ c := by
      rintro rfl
      rw [hfree] at hb
      cases hb
    exact (Function.update_of_ne hne _ _).trans hb
  · exact h

theorem owned_register (h : s.Owned) (hc : s.owner c = some a) :
    (s.register a c).2.Owned := by
  unfold register
  split
  · exact h
  · intro b r hr
    have hlook : (if b = a then some ⟨c, s.registrations⟩ else s.current.lookup b) = some r := by
      rw [← AList.lookup_insert_eq]
      exact hr
    split at hlook
    · rename_i hba
      cases hlook
      rw [hba]
      exact hc
    · exact h b r hlook

theorem owned_erase (h : s.Owned) (a : AgentId) : (s.remove a).Owned := by
  intro b r hr
  have hlook : (if b = a then none else s.current.lookup b) = some r := by
    rw [← AList.lookup_erase_eq]
    exact hr
  split at hlook
  · cases hlook
  · exact h b r hlook

theorem unregister_eq (s : Senders M) (a : AgentId) (c : ChannelId) :
    (s.unregister a c).2 = s ∨ (s.unregister a c).2 = s.remove a := by
  unfold unregister
  split
  · exact .inr rfl
  · exact .inl rfl

theorem lookup_register_of_revoked (ha : a ∈ s.revoked) (h : s.current.lookup a = none) :
    (s.register b c).2.current.lookup a = none := by
  unfold register
  split
  · exact h
  · rename_i hb
    have hab : a ≠ b := fun heq => hb (heq ▸ ha)
    have := AList.lookup_insert_eq s.current b a ⟨c, s.registrations⟩
    rw [if_neg hab] at this
    exact this.trans h

theorem lookup_remove_of_none (h : s.current.lookup a = none) :
    (s.remove b).current.lookup a = none := by
  have := AList.lookup_erase_eq s.current b a
  split at this
  · exact this
  · exact this.trans h

end XLStatus.Grpc.Senders
