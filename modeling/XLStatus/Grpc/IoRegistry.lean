import XLStatus.Grpc.IoRegistryDefs

/-! Isolation in the IO registry. A receiver is bound to the stream and the agent it was
made for: it only gets frames that agent delivered on that stream after the
subscription, and the registry's own close notices. -/

namespace XLStatus.Grpc.IoRegistry

open Shared Transition List Option Function AList

variable {r r' : IoRegistry} {e : Event}

/-! ## Operations on the subscribers -/

variable {s reason : String} {sub : IoSubscriber} {a : AgentId} {x : Notice} {es : List Event}
  {f : IoFrame} {n : ℕ}

theorem lookup_prune :
    (pruneClosedIoSubscribers r).subscribers.lookup s = some sub ↔
      r.subscribers.lookup s = some sub ∧ r.isOpen sub = true :=
  lookup_retain_eq_some

@[simp] theorem notifySubscriber_subscribers (sub : Option IoSubscriber) :
    (notifySubscriber r sub).subscribers = r.subscribers := by
  cases sub <;> rfl

@[simp] theorem notifySubscriber_deliveries (sub : Option IoSubscriber) :
    (notifySubscriber r sub).deliveries = r.deliveries := by
  cases sub <;> rfl

@[simp] theorem notifySubscriber_notices (sub : Option IoSubscriber) :
    (notifySubscriber r sub).notices = r.notices := by
  cases sub <;> rfl

@[simp] theorem notifySubscriber_receivers (sub : Option IoSubscriber) :
    (notifySubscriber r sub).receivers = r.receivers := by
  cases sub <;> rfl

@[simp] theorem notifySubscriber_nextReceiver (sub : Option IoSubscriber) :
    (notifySubscriber r sub).nextReceiver = r.nextReceiver := by
  cases sub <;> rfl

theorem mem_agentEntries {m : HashMap String IoSubscriber} (h : x ∈ agentEntries m a reason) :
    m.lookup x.streamId = some ⟨a, x.sender⟩ ∧ x.agentId = a ∧ x.reason = reason := by
  obtain ⟨⟨s, sub⟩, hmem, rfl⟩ := List.mem_map.mp h
  obtain ⟨hentry, howner⟩ := mem_filter.mp hmem
  have hlook : m.lookup s = some sub := mem_lookup_iff.mpr hentry
  obtain rfl : sub.agentId = a := beq_iff_eq.mp howner
  exact ⟨hlook, rfl, rfl⟩

/-! ## The effect of a step -/

def closing (r : IoRegistry) : Event → Option (AgentId × String)
  | .registerAgent a c =>
    if r.streams.owner c = some a ∧ a ∉ r.streams.revoked ∧
        (r.streams.current.lookup a).isSome = true then
      some (a, "Agent IO stream was replaced")
    else none
  | .unregisterAgent a c =>
    if r.streams.isCurrent a c then some (a, "Agent IO stream disconnected") else none
  | .disconnectTake call => (r.disconnects call).map fun a => (a, "Agent was revoked")
  | _ => none

structure Effect (r : IoRegistry) (e : Event) (r' : IoRegistry) : Prop where
  next_le : r.nextReceiver ≤ r'.nextReceiver
  subscribers : ∀ s sub, r'.subscribers.lookup s = some sub →
    r.subscribers.lookup s = some sub ∨
      ∃ a, e = .subscribeStream s a ∧ sub = ⟨a, r.nextReceiver⟩ ∧
        r.nextReceiver < r'.nextReceiver
  deliveries : ∀ call d n, r'.deliveries call = some d → d.target = some n →
    (∃ d₀, r.deliveries call = some d₀ ∧ d₀.target = some n ∧ d₀.frame = d.frame) ∨
      ∃ a frame, e = .deliverFromAgent call a frame ∧
        r.subscribers.lookup frame.streamId = some ⟨a, n⟩ ∧
        d.frame = { frame with agentId := a.text }
  notices : ∀ x ∈ r'.notices, x ∈ r.notices ∨
    (closing r e = some (x.agentId, x.reason) ∧
      r.subscribers.lookup x.streamId = some ⟨x.agentId, x.sender⟩)
  sent : ∀ n, (r'.receivers n).sent = (r.receivers n).sent ∨
    ∃ f, (r'.receivers n).sent = (r.receivers n).sent ++ [f] ∧
      ((∃ call d, r.deliveries call = some d ∧ d.target = some n ∧ f = d.frame) ∨
        ∃ x ∈ r.notices, x.sender = n ∧ f = x.frame)

theorem Effect.refl (r : IoRegistry) (e : Event) : Effect r e r :=
  ⟨le_rfl, fun _ _ h => .inl h, fun _ d _ h ht => .inl ⟨d, h, ht, rfl⟩, fun _ h => .inl h,
    fun _ => .inl rfl⟩

theorem Effect.of_subscribers (hnext : r.nextReceiver ≤ r'.nextReceiver)
    (hsub : ∀ s sub, r'.subscribers.lookup s = some sub → r.subscribers.lookup s = some sub)
    (hdel : r'.deliveries = r.deliveries) (hnot : r'.notices = r.notices)
    (hrec : ∀ n, (r'.receivers n).sent = (r.receivers n).sent) : Effect r e r' := by
  refine ⟨hnext, fun s sub h => .inl (hsub s sub h), fun call d n h ht => ?_, fun x hx => ?_,
    fun n => .inl (hrec n)⟩
  · rw [hdel] at h
    exact .inl ⟨d, h, ht, rfl⟩
  · rw [hnot] at hx
    exact .inl hx

theorem Effect.of_delivery {call : ℕ} {d : Delivery} {phase : DeliveryPhase}
    (hd : r.deliveries call = some d)
    (hphase : ∀ n, Delivery.target { d with phase } = some n → d.target = some n)
    (hnext : r'.nextReceiver = r.nextReceiver)
    (hsub : ∀ s sub, r'.subscribers.lookup s = some sub → r.subscribers.lookup s = some sub)
    (hdel : r'.deliveries = Function.update r.deliveries call (some { d with phase }))
    (hnot : r'.notices = r.notices)
    (hsent : ∀ n, (r'.receivers n).sent = (r.receivers n).sent ∨
      (r'.receivers n).sent = (r.receivers n).sent ++ [d.frame] ∧ d.target = some n) :
    Effect r e r' := by
  refine ⟨hnext.ge, fun s sub h => .inl (hsub s sub h), fun i x n hx hn => ?_, fun x hx => ?_,
    fun n => ?_⟩
  · rw [hdel] at hx
    by_cases hi : i = call
    · subst hi
      rw [update_self] at hx
      cases hx
      exact .inl ⟨d, hd, hphase n hn, rfl⟩
    · rw [update_of_ne hi] at hx
      exact .inl ⟨x, hx, hn, rfl⟩
  · rw [hnot] at hx
    exact .inl hx
  · rcases hsent n with hsame | ⟨happ, htarget⟩
    · exact .inl hsame
    · exact .inr ⟨d.frame, happ, .inl ⟨call, d, hd, htarget, rfl⟩⟩

theorem Effect.of_take (hclosing : closing r e = some (a, reason))
    (hnext : r'.nextReceiver = r.nextReceiver)
    (hsub : r'.subscribers = r.subscribers.retain fun _ sub => sub.agentId != a)
    (hdel : r'.deliveries = r.deliveries)
    (hnot : r'.notices = r.notices ++ agentEntries r.subscribers a reason)
    (hrec : r'.receivers = r.receivers) : Effect r e r' := by
  refine ⟨hnext.ge, fun s sub h => .inl ?_, fun call d n h ht => .inl ⟨d, hdel ▸ h, ht, rfl⟩,
    fun x hx => ?_, fun n => .inl (by rw [hrec])⟩
  · rw [hsub] at h
    exact (lookup_retain_eq_some.mp h).1
  · rw [hnot] at hx
    rcases mem_append.mp hx with hold | hnew
    · exact .inl hold
    · obtain ⟨hlook, rfl, rfl⟩ := mem_agentEntries hnew
      exact .inr ⟨hclosing, hlook⟩

theorem effect_registerAgent (r : IoRegistry) (a : AgentId) (c : ChannelId) :
    Effect r (.registerAgent a c) (r.step (.registerAgent a c)) := by
  simp only [step]
  split
  · rename_i howner
    unfold registerAgent
    split
    · exact .refl r _
    · rename_i hlive
      simp only
      split
      · exact .of_subscribers le_rfl (fun _ _ h => h) rfl rfl fun _ => rfl
      · rename_i hcurrent
        refine .of_take ?_ rfl rfl rfl rfl rfl
        simp [closing, howner, hlive, hcurrent]
  · exact .refl r _

theorem effect_unregisterAgent (r : IoRegistry) (a : AgentId) (c : ChannelId) :
    Effect r (.unregisterAgent a c) (r.step (.unregisterAgent a c)) := by
  simp only [step]
  unfold unregisterAgent
  split
  · rename_i hcurrent
    exact .of_take (if_pos hcurrent) rfl rfl rfl rfl rfl
  · exact .refl r _

theorem effect_disconnectTake (r : IoRegistry) (call : ℕ) :
    Effect r (.disconnectTake call) (r.step (.disconnectTake call)) := by
  simp only [step]
  split
  · exact .refl r _
  · rename_i a ha
    refine .of_take ?_ rfl rfl rfl rfl rfl
    simp [closing, ha]

theorem effect_subscribe
    (hsub : r'.subscribers = (pruneClosedIoSubscribers r).subscribers.insert s ⟨a, r.nextReceiver⟩)
    (hnext : r'.nextReceiver = r.nextReceiver + 1) (hdel : r'.deliveries = r.deliveries)
    (hnot : r'.notices = r.notices) (hrec : r'.receivers = r.receivers) :
    Effect r (.subscribeStream s a) r' := by
  refine ⟨by omega, fun x sub h => ?_, fun call d n h ht => .inl ⟨d, hdel ▸ h, ht, rfl⟩,
    fun x hx => .inl (hnot ▸ hx), fun n => .inl (by rw [hrec])⟩
  rw [hsub, lookup_insert_eq] at h
  split at h
  · rename_i hx
    subst hx
    exact .inr ⟨a, rfl, (some.inj h).symm, by omega⟩
  · exact .inl (lookup_prune.mp h).1

theorem effect_subscribeStream (r : IoRegistry) (s : String) (a : AgentId) :
    Effect r (.subscribeStream s a) (r.subscribeStream s a) := by
  have hskip : Effect r (.subscribeStream s a) { r with nextReceiver := r.nextReceiver + 1 } :=
    .of_subscribers (Nat.le_succ _) (fun _ _ h => h) rfl rfl fun _ => rfl
  have hprune : Effect r (.subscribeStream s a)
      (pruneClosedIoSubscribers { r with nextReceiver := r.nextReceiver + 1 }) :=
    .of_subscribers (Nat.le_succ _) (fun _ _ h => (lookup_prune.mp h).1) rfl rfl fun _ => rfl
  unfold subscribeStream
  simp only
  split
  · exact hskip
  · split
    · exact hskip
    · split
      · exact hskip
      · split
        · split
          · exact hprune
          · exact effect_subscribe (by simp; rfl) (by simp; rfl) (by simp; rfl) (by simp; rfl)
              (by simp; rfl)
        · split
          · exact hprune
          · exact effect_subscribe rfl rfl rfl rfl rfl

theorem effect_unsubscribeStream (r : IoRegistry) (s : String) :
    Effect r e (r.unsubscribeStream s) := by
  refine .of_subscribers ?_ ?_ ?_ ?_ ?_ <;> unfold unsubscribeStream
  · simp [pruneClosedIoSubscribers]
  · intro x sub h
    simp only [notifySubscriber_subscribers, lookup_erase_eq] at h
    split at h
    · cases h
    · exact (lookup_prune.mp h).1
  · simp [pruneClosedIoSubscribers]
  · simp [pruneClosedIoSubscribers]
  · simp [pruneClosedIoSubscribers]

theorem effect_sendToAgent (r : IoRegistry) (call : ℕ) (a : AgentId) (frame : IoFrame) :
    Effect r e (r.sendToAgent call a frame) := by
  unfold sendToAgent
  simp only
  split_ifs
  · exact .refl r e
  all_goals exact .of_subscribers le_rfl (fun _ _ h => h) rfl rfl fun _ => rfl

theorem effect_deliverFromAgent (r : IoRegistry) (call : ℕ) (a : AgentId) (frame : IoFrame) :
    Effect r (.deliverFromAgent call a frame) (r.deliverFromAgent call a frame) := by
  unfold deliverFromAgent
  simp only
  split
  · refine ⟨le_rfl, fun _ _ h => .inl h, fun i d n hd hn => ?_, fun _ h => .inl h,
      fun _ => .inl rfl⟩
    by_cases hi : i = call
    · subst hi
      simp only [update_self, some.injEq] at hd
      subst hd
      -- only a frame that found its subscriber has a receiver
      right
      simp only [Delivery.target] at hn
      split at hn <;> rename_i heq
      · split at heq
        · cases heq
        · split at heq
          · rename_i sub hsub
            obtain ⟨hlook, howner⟩ := filter_eq_some_iff.mp hsub
            obtain ⟨hagent, -⟩ := Bool.and_eq_true_iff.mp howner
            obtain rfl : sub.agentId = a := beq_iff_eq.mp hagent
            obtain rfl : sub.sender = n := by simp_all
            exact ⟨sub.agentId, frame, rfl, hlook, rfl⟩
          · cases heq
      · split at heq
        · cases heq
        · split at heq <;> cases heq
      · cases hn
    · simp only [update_of_ne hi] at hd
      exact .inl ⟨d, hd, hn, rfl⟩
  · exact .refl r _

theorem effect_stepDelivery (r : IoRegistry) (call : ℕ) (step : DeliverStep) :
    Effect r e (r.stepDelivery call step) := by
  unfold stepDelivery
  split
  · exact .refl r e
  · rename_i d hd
    -- a change of phase alone, with or without pruning
    have hset : ∀ phase, (∀ n, Delivery.target { d with phase } = some n → d.target = some n) →
        Effect r e (r.setDelivery call d phase) := fun phase hphase =>
      .of_delivery hd hphase rfl (fun _ _ h => h) rfl rfl fun _ => .inl rfl
    have hpruned : ∀ phase, (∀ n, Delivery.target { d with phase } = some n →
        d.target = some n) →
        Effect r e ((pruneClosedIoSubscribers r).setDelivery call d phase) := fun phase hphase =>
      .of_delivery hd hphase rfl (fun _ _ h => (lookup_prune.mp h).1) rfl rfl fun _ => .inl rfl
    split
    · rename_i n hphase
      split
      · exact hset _ fun _ h => nomatch h
      · refine hset _ fun m hm => ?_
        rw [Delivery.target, hphase]
        exact hm
    · rename_i n hphase
      have htarget : d.target = some n := by rw [Delivery.target, hphase]
      split
      · exact hset _ fun _ h => nomatch h
      · split
        · refine .of_delivery hd (fun _ h => by cases h) rfl (fun _ _ h => h) rfl rfl fun m => ?_
          by_cases hm : m = n
          · subst hm
            right
            refine ⟨?_, htarget⟩
            simp [setDelivery]
          · left
            simp [setDelivery, update_of_ne hm]
        · exact hset _ fun m hm => htarget.trans hm
    · exact hset _ fun _ h => nomatch h
    · split
      · exact hpruned _ fun _ h => nomatch h
      · exact hset _ fun _ h => nomatch h
    · exact hpruned _ fun _ h => nomatch h
    · exact .refl r e

theorem effect_notify (hx : x ∈ r.notices) : Effect r e (r.notify x) := by
  unfold notify
  simp only
  have herase : ∀ y ∈ r.notices.erase x, y ∈ r.notices ∨
      (closing r e = some (y.agentId, y.reason) ∧
        r.subscribers.lookup y.streamId = some ⟨y.agentId, y.sender⟩) :=
    fun y hy => .inl (mem_of_mem_erase hy)
  split
  · refine ⟨le_rfl, fun _ _ h => .inl h, fun _ d _ h ht => .inl ⟨d, h, ht, rfl⟩, herase,
      fun n => ?_⟩
    by_cases hn : n = x.sender
    · subst hn
      refine .inr ⟨x.frame, ?_, .inr ⟨x, hx, rfl, rfl⟩⟩
      simp
    · left
      simp [update_of_ne hn]
  · exact ⟨le_rfl, fun _ _ h => .inl h, fun _ d _ h ht => .inl ⟨d, h, ht, rfl⟩, herase,
      fun _ => .inl rfl⟩

theorem effect_step (r : IoRegistry) (e : Event) : Effect r e (r.step e) := by
  have hstreams : ∀ s, Effect r e { r with streams := s } := fun s =>
    .of_subscribers le_rfl (fun _ _ h => h) rfl rfl fun _ => rfl
  cases e with
  | connect => exact hstreams _
  | registerAgent a c => exact effect_registerAgent r a c
  | unregisterAgent a c => exact effect_unregisterAgent r a c
  | disconnectMark =>
    simp only [step]
    split
    · exact .of_subscribers le_rfl (fun _ _ h => h) rfl rfl fun _ => rfl
    · exact .refl r _
  | disconnectTake call => exact effect_disconnectTake r call
  | subscribeStream s a => exact effect_subscribeStream r s a
  | unsubscribeStream s => exact effect_unsubscribeStream r s
  | sendToAgent call a frame => exact effect_sendToAgent r call a frame
  | sendStep => exact hstreams _
  | deliverFromAgent call a frame => exact effect_deliverFromAgent r call a frame
  | deliverStep call step => exact effect_stepDelivery r call step
  | notify =>
    simp only [step]
    split
    · rename_i hx
      exact effect_notify hx
    · exact .refl r _
  | recvAgent => exact hstreams _
  | closeAgent => exact hstreams _
  | recv =>
    exact .of_subscribers le_rfl (fun _ _ h => h) rfl rfl fun m =>
      sent_update (Channel.sent_recv _) m
  | closeReceiver =>
    exact .of_subscribers le_rfl (fun _ _ h => h) rfl rfl fun m =>
      sent_update (Channel.sent_close _) m

/-! ## Where the frames of a receiver come from -/

structure Fresh (r : IoRegistry) (n : ℕ) : Prop where
  subscribers : ∀ s sub, r.subscribers.lookup s = some sub → sub.sender < n
  deliveries : ∀ call d m, r.deliveries call = some d → d.target = some m → m < n
  notices : ∀ x ∈ r.notices, x.sender < n
  sent : ∀ m, n ≤ m → (r.receivers m).sent = []

theorem fresh_step (h : Fresh r r.nextReceiver) (e : Event) :
    Fresh (r.step e) (r.step e).nextReceiver := by
  have heff := effect_step r e
  refine ⟨fun s sub hs => ?_, fun call d m hd hm => ?_, fun x hx => ?_, fun m hm => ?_⟩
  · rcases heff.subscribers s sub hs with hold | ⟨a, -, rfl, hlt⟩
    · exact (h.subscribers s sub hold).trans_le heff.next_le
    · exact hlt
  · rcases heff.deliveries call d m hd hm with ⟨d₀, hd₀, hm₀, -⟩ | ⟨a, frame, -, hlook, -⟩
    · exact (h.deliveries call d₀ m hd₀ hm₀).trans_le heff.next_le
    · exact (h.subscribers _ _ hlook).trans_le heff.next_le
  · rcases heff.notices x hx with hold | ⟨-, hlook⟩
    · exact (h.notices x hold).trans_le heff.next_le
    · exact (h.subscribers _ _ hlook).trans_le heff.next_le
  · have hold := h.sent m (heff.next_le.trans hm)
    rcases heff.sent m with hsame | ⟨f, -, hsource⟩
    · rw [hsame, hold]
    · exfalso
      have hlt : m < r.nextReceiver := by
        rcases hsource with ⟨call, d, hd, ht, -⟩ | ⟨x, hx, rfl, -⟩
        · exact h.deliveries call d m hd ht
        · exact h.notices x hx
      exact absurd (heff.next_le.trans hm) (not_le.mpr hlt)

def Delivered (es : List Event) (s : String) (a : AgentId) (f : IoFrame) : Prop :=
  ∃ call frame, .deliverFromAgent call a frame ∈ es ∧ frame.streamId = s ∧
    f = { frame with agentId := a.text }

def ClosedBy (start : IoRegistry) (es : List Event) (s : String) (a : AgentId) (f : IoFrame) :
    Prop :=
  ∃ before e after reason, es = before ++ e :: after ∧
    closing (run step start before) e = some (a, reason) ∧ f = closeNotice s a reason

theorem Delivered.snoc (h : Delivered es s a f) (e : Event) : Delivered (es ++ [e]) s a f := by
  obtain ⟨call, frame, hmem, hs, hf⟩ := h
  exact ⟨call, frame, mem_append_left _ hmem, hs, hf⟩

theorem ClosedBy.snoc {start : IoRegistry} (h : ClosedBy start es s a f) (e : Event) :
    ClosedBy start (es ++ [e]) s a f := by
  obtain ⟨before, x, after, reason, rfl, hclosing, hf⟩ := h
  exact ⟨before, x, after ++ [e], reason, by simp, hclosing, hf⟩

structure Bound (start : IoRegistry) (es : List Event) (n : ℕ) (s : String) (a : AgentId)
    (r : IoRegistry) : Prop where
  handedOut : n < r.nextReceiver
  subscribers : ∀ x sub, r.subscribers.lookup x = some sub → sub.sender = n →
    x = s ∧ sub.agentId = a
  deliveries : ∀ call d, r.deliveries call = some d → d.target = some n →
    Delivered es s a d.frame
  notices : ∀ x ∈ r.notices, x.sender = n → ClosedBy start es s a x.frame
  sent : ∀ f ∈ (r.receivers n).sent, Delivered es s a f ∨ ClosedBy start es s a f

theorem bound_step {start : IoRegistry} (h : Bound start es n s a (run step start es)) (e : Event) :
    Bound start (es ++ [e]) n s a (run step start (es ++ [e])) := by
  have heff := effect_step (run step start es) e
  rw [run_snoc]
  generalize hr : run step start es = r at h heff ⊢
  refine ⟨h.handedOut.trans_le heff.next_le, fun x sub hx hn => ?_, fun call d hd hn => ?_,
    fun x hx hn => ?_, fun f hf => ?_⟩
  · rcases heff.subscribers x sub hx with hold | ⟨b, -, rfl, -⟩
    · exact h.subscribers x sub hold hn
    -- A new subscription gets a number that was not handed out yet.
    · exact absurd hn h.handedOut.ne'
  · rcases heff.deliveries call d n hd hn with ⟨d₀, hd₀, hn₀, hf⟩ | ⟨b, frame, rfl, hlook, hf⟩
    · rw [← hf]
      exact (h.deliveries call d₀ hd₀ hn₀).snoc e
    -- A delivery finds its target in the map, under the stream and agent it is bound to.
    · obtain ⟨hs, rfl⟩ := h.subscribers _ _ hlook rfl
      exact ⟨call, frame, by simp, hs, hf⟩
  · rcases heff.notices x hx with hold | ⟨hclosing, hlook⟩
    · exact (h.notices x hold hn).snoc e
    · have hbound : x.streamId = s ∧ x.agentId = a := h.subscribers _ _ hlook hn
      obtain ⟨hs, ha⟩ := hbound
      refine ⟨es, e, [], x.reason, rfl, ?_, ?_⟩
      · rw [hr, hclosing, ha]
      · rw [Notice.frame, hs, ha]
  · have hold : ∀ f ∈ (r.receivers n).sent,
        Delivered (es ++ [e]) s a f ∨ ClosedBy start (es ++ [e]) s a f :=
      fun f hf => (h.sent f hf).imp (·.snoc e) (·.snoc e)
    rcases heff.sent n with hsame | ⟨g, happ, hsource⟩
    · rw [hsame] at hf
      exact hold f hf
    · rw [happ] at hf
      rcases mem_append.mp hf with hmem | hlast
      · exact hold f hmem
      · obtain rfl := mem_singleton.mp hlast
        rcases hsource with ⟨call, d, hd, ht, rfl⟩ | ⟨x, hx, hn, rfl⟩
        · exact .inl ((h.deliveries call d hd ht).snoc e)
        · exact .inr ((h.notices x hx hn).snoc e)

theorem bound_run {start : IoRegistry} (h : Bound start [] n s a start) (es : List Event) :
    Bound start es n s a (run step start es) := by
  induction es using reverseRecOn with
  | nil => exact h
  | append_singleton es e ih => exact bound_step ih e

theorem nextReceiver_subscribeStream (r : IoRegistry) (s : String) (a : AgentId) :
    (r.subscribeStream s a).nextReceiver = r.nextReceiver + 1 := by
  unfold subscribeStream
  simp only
  split
  · rfl
  · split
    · rfl
    · split
      · rfl
      · split
        · split
          · rfl
          · simp [pruneClosedIoSubscribers]
        · split <;> rfl

theorem bound_subscribeStream (h : Fresh r r.nextReceiver) (s : String) (a : AgentId) :
    Bound (r.step (.subscribeStream s a)) [] r.nextReceiver s a
      (r.step (.subscribeStream s a)) := by
  have heff := effect_step r (.subscribeStream s a)
  have hnext : r.nextReceiver < (r.step (.subscribeStream s a)).nextReceiver := by
    rw [step, nextReceiver_subscribeStream]
    exact Nat.lt_succ_self _
  refine ⟨hnext, fun x sub hx hn => ?_, fun call d hd hn => ?_, fun x hx hn => ?_, fun f hf => ?_⟩
  · rcases heff.subscribers x sub hx with hold | ⟨b, heq, rfl, -⟩
    · exact absurd hn (h.subscribers x sub hold).ne
    · cases heq
      exact ⟨rfl, rfl⟩
  · rcases heff.deliveries call d _ hd hn with ⟨d₀, hd₀, hn₀, -⟩ | ⟨b, frame, heq, -⟩
    · exact absurd (h.deliveries call d₀ _ hd₀ hn₀) (lt_irrefl _)
    · cases heq
  · rcases heff.notices x hx with hold | ⟨hclosing, -⟩
    · exact absurd hn (h.notices x hold).ne
    · cases hclosing
  · rcases heff.sent r.nextReceiver with hsame | ⟨g, -, hsource⟩
    · rw [hsame, h.sent _ le_rfl] at hf
      cases hf
    · rcases hsource with ⟨call, d, hd, ht, -⟩ | ⟨x, hx, hn, -⟩
      · exact absurd (h.deliveries call d _ hd ht) (lt_irrefl _)
      · exact absurd hn (h.notices x hx).ne

theorem fresh_run (es : List Event) :
    Fresh (run step init es) (run step init es).nextReceiver := by
  have hstep : ∀ r e, Fresh r r.nextReceiver → Fresh (step r e) (step r e).nextReceiver :=
    fun _ e h => fresh_step h e
  have hinit : Fresh init init.nextReceiver := by
    refine ⟨fun s sub h => ?_, fun _ _ _ h => (nomatch h), fun _ h => (nomatch h),
      fun _ _ => rfl⟩
    simp [init] at h
  exact run_induct (P := fun r : IoRegistry => Fresh r r.nextReceiver) hstep hinit es

/-! ## The owner of a live stream -/

theorem lookup_subscribeStream_of_ne (hlook : r.subscribers.lookup s = some sub)
    (hopen : r.isOpen sub = true) (hne : sub.agentId ≠ a) :
    (r.subscribeStream s a).subscribers.lookup s = some sub := by
  have hpruned : (pruneClosedIoSubscribers
      { r with nextReceiver := r.nextReceiver + 1 }).subscribers.lookup s = some sub :=
    lookup_prune.mpr ⟨hlook, hopen⟩
  unfold subscribeStream
  simp only
  split
  · exact hlook
  · split
    · exact hlook
    · split
      · exact hlook
      · simp only [hpruned]
        rw [if_pos hne]
        exact hpruned

theorem owner_step {sub' : IoSubscriber} (hlook : r.subscribers.lookup s = some sub)
    (hopen : r.isOpen sub = true) (hlook' : (r.step e).subscribers.lookup s = some sub') :
    sub'.agentId = sub.agentId := by
  rcases (effect_step r e).subscribers s sub' hlook' with hold | ⟨a, rfl, rfl, -⟩
  · rw [hlook] at hold
    rw [some.inj hold]
  · by_contra hne
    have hkept := lookup_subscribeStream_of_ne (a := a) hlook hopen (Ne.symm hne)
    rw [step, hkept] at hlook'
    exact hne (by rw [some.inj hlook'])

/-! ## The number of subscribers -/

theorem len_prune_le (r : IoRegistry) :
    (pruneClosedIoSubscribers r).subscribers.len ≤ r.subscribers.len :=
  len_retain_le _ _

theorem len_subscribeStream_le (h : r.subscribers.len ≤ maxActiveIoStreams) (s : String)
    (a : AgentId) : (r.subscribeStream s a).subscribers.len ≤ maxActiveIoStreams := by
  have hprune := (len_prune_le { r with nextReceiver := r.nextReceiver + 1 }).trans h
  unfold subscribeStream
  simp only
  split
  · exact h
  · split
    · exact h
    · split
      · exact h
      · split
        · rename_i existing hlook
          split
          · exact hprune
          · rw [notifySubscriber_subscribers]
            have hmem := lookup_isSome.mp (by rw [hlook]; rfl)
            rw [len_insert_of_mem _ hmem]
            exact hprune
        · split
          · exact hprune
          · rename_i hroom
            exact (len_insert_le _ _ _).trans (not_le.mp hroom)

theorem len_stepDelivery_le (r : IoRegistry) (call : ℕ) (step : DeliverStep) :
    (r.stepDelivery call step).subscribers.len ≤ r.subscribers.len := by
  unfold stepDelivery
  split
  · exact le_rfl
  · split
    · split <;> exact le_rfl
    · split
      · exact le_rfl
      · split <;> exact le_rfl
    · exact le_rfl
    · split
      · exact len_prune_le r
      · exact le_rfl
    · exact len_prune_le r
    · exact le_rfl

theorem len_step_le (h : r.subscribers.len ≤ maxActiveIoStreams) (e : Event) :
    (r.step e).subscribers.len ≤ maxActiveIoStreams := by
  cases e with
  | registerAgent =>
    simp only [step, registerAgent]
    split
    · split
      · exact h
      · split
        · exact h
        · exact (len_retain_le _ _).trans h
    · exact h
  | unregisterAgent =>
    simp only [step, unregisterAgent]
    split
    · exact (len_retain_le _ _).trans h
    · exact h
  | disconnectMark =>
    simp only [step]
    split <;> exact h
  | disconnectTake =>
    simp only [step]
    split
    · exact h
    · exact (len_retain_le _ _).trans h
  | subscribeStream s a => exact len_subscribeStream_le h s a
  | unsubscribeStream =>
    simp only [step, unsubscribeStream, notifySubscriber_subscribers]
    exact (len_erase_le _ _).trans ((len_prune_le r).trans h)
  | sendToAgent =>
    simp only [step, sendToAgent]
    split_ifs <;> exact h
  | deliverFromAgent =>
    simp only [step, deliverFromAgent]
    split <;> exact h
  | deliverStep call step => exact (len_stepDelivery_le r call step).trans h
  | notify =>
    simp only [step, notify]
    split
    · split <;> exact h
    · exact h
  | connect | sendStep | recvAgent | closeAgent | recv | closeReceiver => exact h

theorem len_run_le (es : List Event) :
    (run step init es).subscribers.len ≤ maxActiveIoStreams := by
  have hstep : ∀ r e, r.subscribers.len ≤ maxActiveIoStreams →
      (step r e).subscribers.len ≤ maxActiveIoStreams := fun _ e h => len_step_le h e
  exact run_induct (P := fun r : IoRegistry => r.subscribers.len ≤ maxActiveIoStreams) hstep
    (Nat.zero_le _) es

/-! ## Isolation -/

/-- In every run, what a receiver gets was delivered by its agent on its stream after the
subscription, or is a close notice of a step that took the agent's subscribers; a stream
whose receiver is open keeps its agent as long as it is subscribed; and the number of
subscribers is bounded. -/
theorem agents_isolated (es : List Event) :
    (∀ pre s a post, es = pre ++ .subscribeStream s a :: post →
      ∀ f ∈ ((run step init es).receivers (run step init pre).nextReceiver).sent,
        Delivered post s a f ∨
          ClosedBy (run step init (pre ++ [.subscribeStream s a])) post s a f) ∧
    (∀ pre e post s sub sub', es = pre ++ e :: post →
      (run step init pre).subscribers.lookup s = some sub →
      (run step init pre).isOpen sub = true →
      (run step init (pre ++ [e])).subscribers.lookup s = some sub' →
      sub'.agentId = sub.agentId) ∧
    (run step init es).subscribers.len ≤ 1024 := by
  refine ⟨fun pre s a post hes f hf => ?_, fun pre e post s sub sub' _ hlook hopen hlook' => ?_,
    len_run_le es⟩
  · have hbound := bound_run (bound_subscribeStream (fresh_run pre) s a) post
    have hrun : run step init es =
        run step (step (run step init pre) (.subscribeStream s a)) post := by
      rw [hes, run_append, run_cons]
    rw [run_snoc]
    rw [hrun] at hf
    exact hbound.sent f hf
  · rw [run_snoc] at hlook'
    exact owner_step hlook hopen hlook'

def sampleAgent : AgentId := ⟨"00000000-0000-0000-0000-0000000000a1", canonical_nil⟩

def sampleEvents : List Event :=
  [.connect 0 sampleAgent, .registerAgent sampleAgent 0, .subscribeStream "s" sampleAgent,
    .deliverFromAgent 0 sampleAgent ⟨"s", 7, "", some (.data [1, 2])⟩, .deliverStep 0 .poll,
    .deliverStep 0 .send, .unregisterAgent sampleAgent 0,
    .notify ⟨"s", 0, sampleAgent, "Agent IO stream disconnected"⟩]

theorem agents_isolated_sample :
    ((run step init sampleEvents).receivers 0).sent.length = 2 ∧
    ∀ f ∈ ((run step init sampleEvents).receivers 0).sent,
      Delivered (sampleEvents.drop 3) "s" sampleAgent f ∨
        ClosedBy (run step init (sampleEvents.take 3)) (sampleEvents.drop 3) "s" sampleAgent f := by
  refine ⟨by decide +kernel, ?_⟩
  exact (agents_isolated sampleEvents).1 (sampleEvents.take 2) "s" sampleAgent
    (sampleEvents.drop 3) rfl

end XLStatus.Grpc.IoRegistry
