import XLStatus.Grpc.IoRegistryDefs
import XLStatus.Grpc.Senders
import XLStatus.Grpc.SessionRegistryDefs
import XLStatus.Lib.Holders

/-! The agents' connections in the two registries. In both, an agent is held by the connection
that was registered for it last, and each step is one of the acts on the holders: the end of a
connection that was replaced takes nothing from the one that replaced it. -/

namespace XLStatus.Grpc

open Shared Transition AList

namespace Senders

variable {M : Type} {s s' : Senders M} {disconnects : ℕ → Option AgentId}

def holders (s : Senders M) (disconnects : ℕ → Option AgentId) : Holders AgentId ChannelId where
  holder a := (s.current.lookup a).map (·.sender)
  barred := s.revoked
  evicting := disconnects

variable {c : ChannelId} {a : AgentId}

theorem isCurrent_iff :
    s.isCurrent a c = true ↔ (s.holders disconnects).holder a = some c := by
  unfold isCurrent
  show _ ↔ (s.current.lookup a).map _ = some c
  cases s.current.lookup a with
  | none => simp
  | some => simp

theorem mem_current_of_isCurrent (h : s.isCurrent a c = true) :
    a ∈ s.current := by
  rw [← lookup_isSome]
  exact Option.isSome_of_any h

theorem SameMap.holders (h : SameMap s s') : s'.holders disconnects = s.holders disconnects := by
  unfold Senders.holders
  rw [h.current, h.revoked]

theorem holders_connect (c : ChannelId) (a : AgentId) (capacity : ℕ) :
    (s.connect c a capacity).holders disconnects = s.holders disconnects := by
  unfold connect
  split <;> rfl

theorem holders_register (a : AgentId) (c : ChannelId) :
    (s.register a c).2.holders disconnects = (s.holders disconnects).step (.claim a c) := by
  unfold register
  by_cases ha : a ∈ s.revoked
  · rw [if_pos ha, Holders.step_claim_of_barred ha]
  · rw [if_neg ha, Holders.step_claim ha]
    refine congrArg (Holders.mk · s.revoked disconnects) (funext fun b => ?_)
    rw [lookup_insert_eq, Function.update_apply]
    split <;> rfl

theorem holders_remove (a : AgentId) : (s.remove a).holders disconnects =
    { s.holders disconnects with
      holder := Function.update (s.holders disconnects).holder a none } := by
  refine congrArg (Holders.mk · s.revoked disconnects) (funext fun b => ?_)
  show ((s.current.erase a).lookup b).map _ = _
  rw [lookup_erase_eq, Function.update_apply]
  split <;> rfl

theorem holders_unregister (a : AgentId) (c : ChannelId) :
    (s.unregister a c).2.holders disconnects = (s.holders disconnects).step (.release a c) := by
  unfold unregister
  by_cases hc : s.isCurrent a c = true
  · rw [if_pos hc, Holders.step_release (isCurrent_iff.mp hc)]
    exact holders_remove a
  · rw [if_neg hc, Holders.step_release_of_ne (mt isCurrent_iff.mpr hc)]

end Senders

namespace SessionRegistry

variable {M : Type} {r : SessionRegistry M}

def holders (r : SessionRegistry M) : Holders AgentId ChannelId := r.sessions.holders r.disconnects

def act (r : SessionRegistry M) : Event M → Holders.Act AgentId ChannelId
  | .register a c => if r.sessions.owner c = some a then .claim a c else .idle
  | .unregister a c => .release a c
  | .disconnectMark call a => .bar call a
  | .disconnectRemove call => .evict call
  | _ => .idle

theorem holders_step (r : SessionRegistry M) (e : Event M) :
    holders (r.step e) = (holders r).step (act r e) := by
  cases e with
  | connect c a => exact Senders.holders_connect c a _
  | register a c =>
    simp only [step, act]
    split
    · exact Senders.holders_register a c
    · rfl
  | unregister a c => exact Senders.holders_unregister a c
  | disconnectMark call =>
    simp only [step]
    cases hcall : r.disconnects call with
    | none => exact (Holders.step_bar (h := holders r) hcall).symm
    | some => exact (Holders.step_bar_of_some (h := holders r) hcall).symm
  | disconnectRemove call =>
    simp only [step]
    cases hcall : r.disconnects call with
    | none => exact (Holders.step_evict_of_none (h := holders r) hcall).symm
    | some a =>
      refine Eq.trans ?_ (Holders.step_evict (h := holders r) hcall).symm
      exact Senders.holders_remove a
  | send call a message => exact (Senders.sendEffect_beginSend _ call a message).map.holders
  | sendStep call step => exact (Senders.sendEffect_stepSend sendErrors _ call step).map.holders
  | broadcast =>
    simp only [step]
    split <;> rfl
  | broadcastSend =>
    simp only [step, broadcastSend]
    split
    · rfl
    · split
      · split
        · rfl
        · split <;> rfl
      · rfl
  | broadcastDrop => rfl
  | recv => rfl
  | closeReceiver => rfl

def ending : Event M → Option ChannelId
  | .unregister _ c | .closeReceiver c => some c
  | _ => none

variable {c : ChannelId} {e : Event M} {a : AgentId}

theorem isCurrent_of_ending {b : AgentId} (he : ending e = some c)
    (hne : (r.step e).sessions.current.lookup b ≠ r.sessions.current.lookup b) :
    r.sessions.isCurrent b c = true := by
  cases e with
  | unregister a x =>
    obtain rfl := Option.some.inj he
    by_cases hx : r.sessions.isCurrent a x = true
    · rcases eq_or_ne b a with rfl | hba
      · exact hx
      · refine absurd ?_ hne
        simp only [step, Senders.unregister, if_pos hx]
        exact lookup_erase_ne hba
    · refine absurd ?_ hne
      simp only [step, Senders.unregister, if_neg hx]
  | closeReceiver x => exact absurd rfl hne
  | connect | register | disconnectMark | disconnectRemove | send | sendStep | broadcast
  | broadcastSend | broadcastDrop | recv => cases he

theorem event_of_ends (h : (act r e).Ends a c) :
    (∃ x ≠ c, e = .register a x) ∨ e = .unregister a c ∨ ∃ call, e = .disconnectMark call a := by
  cases e with
  | register b x =>
    simp only [act] at h
    split at h
    · obtain ⟨rfl, hx⟩ := h
      exact .inl ⟨x, hx, rfl⟩
    · exact h.elim
  | unregister =>
    obtain ⟨rfl, rfl⟩ := h
    exact .inr (.inl rfl)
  | disconnectMark call b =>
    obtain rfl : b = a := h
    exact .inr (.inr ⟨call, rfl⟩)
  | connect | disconnectRemove | send | sendStep | broadcast | broadcastSend | broadcastDrop
  | recv | closeReceiver => exact h.elim

theorem isCurrent_run {before after : List (Event M)}
    (howner : (run step init before).sessions.owner c = some a)
    (hlive : a ∉ (run step init before).sessions.revoked) (hlast : ∀ x ≠ c, .register a x ∉ after)
    (hend : .unregister a c ∉ after) (hdisconnect : ∀ call, .disconnectMark call a ∉ after) :
    (run step init (before ++ .register a c :: after)).sessions.isCurrent a c = true := by
  have hheld : (holders (run step init (before ++ .register a c :: after))).Held a c := by
    refine Holders.held_run_claim holders_step (fun _ _ h => by cases h) (if_pos howner) hlive ?_
    intro r e he hends
    obtain ⟨x, hx, rfl⟩ | rfl | ⟨call, rfl⟩ := event_of_ends hends
    · exact hlast x hx he
    · exact hend he
    · exact hdisconnect call he
  exact Senders.isCurrent_iff.mpr hheld.holder

end SessionRegistry

namespace IoRegistry

variable {r : IoRegistry}

def holders (r : IoRegistry) : Holders AgentId ChannelId := r.streams.holders r.disconnects

def act (r : IoRegistry) : Event → Holders.Act AgentId ChannelId
  | .registerAgent a c => if r.streams.owner c = some a then .claim a c else .idle
  | .unregisterAgent a c => .release a c
  | .disconnectMark call a => .bar call a
  | .disconnectTake call => .evict call
  | _ => .idle

theorem holders_notifySubscriber (sub : Option IoSubscriber) :
    holders (r.notifySubscriber sub) = holders r := by
  cases sub <;> rfl

theorem holders_registerAgent (a : AgentId) (c : ChannelId) :
    holders (r.registerAgent a c).2 = (holders r).step (.claim a c) := by
  refine Eq.trans ?_ (Senders.holders_register a c)
  unfold registerAgent
  by_cases ha : a ∈ r.streams.revoked
  · rw [if_pos ha, Senders.register, if_pos ha]
    rfl
  · rw [if_neg ha]
    split <;> rfl

theorem holders_unregisterAgent (a : AgentId) (c : ChannelId) :
    holders (r.unregisterAgent a c).2 = (holders r).step (.release a c) := by
  refine Eq.trans ?_ (Senders.holders_unregister a c)
  unfold unregisterAgent Senders.unregister
  split <;> rfl

theorem holders_subscribeStream (s : String) (a : AgentId) :
    holders (r.subscribeStream s a) = holders r := by
  unfold subscribeStream
  simp only
  split
  · rfl
  · split
    · rfl
    · split
      · rfl
      · split
        · split
          · rfl
          · exact holders_notifySubscriber _
        · split <;> rfl

theorem holders_sendToAgent (call : ℕ) (a : AgentId) (frame : IoFrame) :
    holders (r.sendToAgent call a frame) = holders r := by
  unfold sendToAgent
  simp only
  split
  · rfl
  · split
    · rfl
    · split
      · rfl
      · exact (Senders.sendEffect_beginSend _ call a frame).map.holders

theorem holders_stepDelivery (call : ℕ) (step : DeliverStep) :
    holders (r.stepDelivery call step) = holders r := by
  unfold stepDelivery
  split
  · rfl
  · split
    · split <;> rfl
    · split
      · rfl
      · split <;> rfl
    · rfl
    · split <;> rfl
    · rfl
    · rfl

theorem holders_step (r : IoRegistry) (e : Event) :
    holders (r.step e) = (holders r).step (act r e) := by
  cases e with
  | connect c a => exact Senders.holders_connect c a _
  | registerAgent a c =>
    simp only [step, act]
    split
    · exact holders_registerAgent a c
    · rfl
  | unregisterAgent a c => exact holders_unregisterAgent a c
  | disconnectMark call =>
    simp only [step]
    cases hcall : r.disconnects call with
    | none => exact (Holders.step_bar (h := holders r) hcall).symm
    | some => exact (Holders.step_bar_of_some (h := holders r) hcall).symm
  | disconnectTake call =>
    simp only [step]
    cases hcall : r.disconnects call with
    | none => exact (Holders.step_evict_of_none (h := holders r) hcall).symm
    | some a =>
      refine Eq.trans ?_ (Holders.step_evict (h := holders r) hcall).symm
      exact Senders.holders_remove a
  | subscribeStream s a => exact holders_subscribeStream s a
  | unsubscribeStream => exact holders_notifySubscriber _
  | sendToAgent call a frame => exact holders_sendToAgent call a frame
  | sendStep call step => exact (Senders.sendEffect_stepSend sendErrors _ call step).map.holders
  | deliverFromAgent =>
    simp only [step, deliverFromAgent]
    split <;> rfl
  | deliverStep call step => exact holders_stepDelivery call step
  | notify =>
    simp only [step, notify]
    split
    · split <;> rfl
    · rfl
  | recvAgent => rfl
  | closeAgent => rfl
  | recv => rfl
  | closeReceiver => rfl

def ending : Event → Option ChannelId
  | .unregisterAgent _ c | .closeAgent c => some c
  | _ => none

variable {c : ChannelId} {e : Event} {a : AgentId}

theorem isCurrent_of_ending (he : ending e = some c) :
    (∀ b, (r.step e).streams.current.lookup b ≠ r.streams.current.lookup b →
      r.streams.isCurrent b c = true) ∧
    ∀ s sub, r.subscribers.lookup s = some sub → (r.step e).subscribers.lookup s ≠ some sub →
      r.streams.isCurrent sub.agentId c = true := by
  cases e with
  | unregisterAgent a x =>
    obtain rfl := Option.some.inj he
    by_cases hx : r.streams.isCurrent a x = true
    · refine ⟨fun b hne => ?_, fun s sub hsub hne => ?_⟩
      · rcases eq_or_ne b a with rfl | hba
        · exact hx
        · refine absurd ?_ hne
          simp only [step, unregisterAgent, if_pos hx]
          exact lookup_erase_ne hba
      · rcases eq_or_ne sub.agentId a with rfl | hba
        · exact hx
        · refine absurd ?_ hne
          simp only [step, unregisterAgent, if_pos hx]
          exact lookup_retain_eq_some.mpr ⟨hsub, bne_iff_ne.mpr hba⟩
    · have hsame : r.step (.unregisterAgent a x) = r := by
        simp only [step, unregisterAgent, if_neg hx]
      rw [hsame]
      exact ⟨fun b hne => absurd rfl hne, fun s sub hsub hne => absurd hsub hne⟩
  | closeAgent x => exact ⟨fun b hne => absurd rfl hne, fun s sub hsub hne => absurd hsub hne⟩
  | connect | registerAgent | disconnectMark | disconnectTake | subscribeStream
  | unsubscribeStream | sendToAgent | sendStep | deliverFromAgent | deliverStep | notify
  | recvAgent | recv | closeReceiver => cases he

theorem event_of_ends (h : (act r e).Ends a c) :
    (∃ x ≠ c, e = .registerAgent a x) ∨ e = .unregisterAgent a c ∨
      ∃ call, e = .disconnectMark call a := by
  cases e with
  | registerAgent b x =>
    simp only [act] at h
    split at h
    · obtain ⟨rfl, hx⟩ := h
      exact .inl ⟨x, hx, rfl⟩
    · exact h.elim
  | unregisterAgent =>
    obtain ⟨rfl, rfl⟩ := h
    exact .inr (.inl rfl)
  | disconnectMark call b =>
    obtain rfl : b = a := h
    exact .inr (.inr ⟨call, rfl⟩)
  | connect | disconnectTake | subscribeStream | unsubscribeStream | sendToAgent | sendStep
  | deliverFromAgent | deliverStep | notify | recvAgent | closeAgent | recv
  | closeReceiver => exact h.elim

theorem isCurrent_run {before after : List Event}
    (howner : (run step init before).streams.owner c = some a)
    (hlive : a ∉ (run step init before).streams.revoked)
    (hlast : ∀ x ≠ c, .registerAgent a x ∉ after) (hend : .unregisterAgent a c ∉ after)
    (hdisconnect : ∀ call, .disconnectMark call a ∉ after) :
    (run step init (before ++ .registerAgent a c :: after)).streams.isCurrent a c = true := by
  have hheld : (holders (run step init (before ++ .registerAgent a c :: after))).Held a c := by
    refine Holders.held_run_claim holders_step (fun _ _ h => by cases h) (if_pos howner) hlive ?_
    intro r e he hends
    obtain ⟨x, hx, rfl⟩ | rfl | ⟨call, rfl⟩ := event_of_ends hends
    · exact hlast x hx he
    · exact hend he
    · exact hdisconnect call he
  exact Senders.isCurrent_iff.mpr hheld.holder

end IoRegistry

/-- In both registries, over every interleaving: what the end of a connection takes belongs to
the agent that is registered with this connection, and an agent that is not revoked stays online
from its last registration on until the end of that connection or its disconnect. -/
theorem stale_connection_harmless {M : Type} :
    (∀ (es : List (SessionRegistry.Event M)) (e : SessionRegistry.Event M) (c : ChannelId),
      SessionRegistry.ending e = some c → ∀ b,
        (run SessionRegistry.step .init (es ++ [e])).sessions.current.lookup b ≠
            (run SessionRegistry.step .init es).sessions.current.lookup b →
          (run SessionRegistry.step .init es).sessions.isCurrent b c = true) ∧
    (∀ (es : List IoRegistry.Event) (e : IoRegistry.Event) (c : ChannelId),
      IoRegistry.ending e = some c →
        (∀ b, (run IoRegistry.step .init (es ++ [e])).streams.current.lookup b ≠
            (run IoRegistry.step .init es).streams.current.lookup b →
          (run IoRegistry.step .init es).streams.isCurrent b c = true) ∧
        ∀ s sub, (run IoRegistry.step .init es).subscribers.lookup s = some sub →
          (run IoRegistry.step .init (es ++ [e])).subscribers.lookup s ≠ some sub →
          (run IoRegistry.step .init es).streams.isCurrent sub.agentId c = true) ∧
    (∀ (before after : List (SessionRegistry.Event M)) (a : AgentId) (c : ChannelId),
      (run SessionRegistry.step .init before).sessions.owner c = some a →
      a ∉ (run SessionRegistry.step .init before).sessions.revoked →
      (∀ x ≠ c, .register a x ∉ after) → .unregister a c ∉ after →
      (∀ call, .disconnectMark call a ∉ after) →
        (run SessionRegistry.step .init (before ++ .register a c :: after)).isOnline a = true) ∧
    (∀ (before after : List IoRegistry.Event) (a : AgentId) (c : ChannelId),
      (run IoRegistry.step .init before).streams.owner c = some a →
      a ∉ (run IoRegistry.step .init before).streams.revoked →
      (∀ x ≠ c, .registerAgent a x ∉ after) → .unregisterAgent a c ∉ after →
      (∀ call, .disconnectMark call a ∉ after) →
        (run IoRegistry.step .init (before ++ .registerAgent a c :: after)).isAgentOnline a =
          true) := by
  refine ⟨fun es e c he b => ?_, fun es e c he => ?_, ?_, ?_⟩
  · rw [run_snoc]
    exact SessionRegistry.isCurrent_of_ending he
  · rw [run_snoc]
    exact IoRegistry.isCurrent_of_ending he
  · intro before after a c howner hlive hlast hend hdisconnect
    have hcurrent := SessionRegistry.isCurrent_run howner hlive hlast hend hdisconnect
    exact decide_eq_true (Senders.mem_current_of_isCurrent hcurrent)
  · intro before after a c howner hlive hlast hend hdisconnect
    have hcurrent := IoRegistry.isCurrent_run howner hlive hlast hend hdisconnect
    exact decide_eq_true (Senders.mem_current_of_isCurrent hcurrent)

namespace Replaced

def agentId : AgentId := ⟨"00000000-0000-4000-8000-000000000001", canonical_one⟩

end Replaced

open Replaced in
theorem stale_connection_harmless_replaced :
    (run SessionRegistry.step .init [.connect 0 agentId, .register agentId 0,
      .connect 1 agentId, .register agentId 1, .unregister agentId 0,
      (.closeReceiver 0 : SessionRegistry.Event String)]).isOnline agentId = true ∧
    (run IoRegistry.step .init [.connect 0 agentId, .registerAgent agentId 0,
      .connect 1 agentId, .registerAgent agentId 1, .unregisterAgent agentId 0,
      .closeAgent 0]).isAgentOnline agentId = true :=
  ⟨(stale_connection_harmless (M := String)).2.2.1
      [.connect 0 agentId, .register agentId 0, .connect 1 agentId]
      [.unregister agentId 0, .closeReceiver 0] agentId 1 rfl (by decide +kernel)
      (by simp) (by simp) (by simp),
    (stale_connection_harmless (M := String)).2.2.2
      [.connect 0 agentId, .registerAgent agentId 0, .connect 1 agentId]
      [.unregisterAgent agentId 0, .closeAgent 0] agentId 1 rfl (by decide +kernel)
      (by simp) (by simp) (by simp)⟩

end XLStatus.Grpc
