import XLStatus.Grpc.TaskResponsesDefs

/-! Every waiter in the map has a receiver that is not dropped and has nothing placed in it, so a
delivery places its result in exactly one receiver. A receiver that is dropped takes its own
entry only; a cancel takes the entry of its task id, whoever registered it. -/

namespace XLStatus.Grpc.TaskResponseRegistry

open Shared Transition Function AList

variable {r : TaskResponseRegistry} {a : AgentId} {taskId : String} {result : TaskResult} {n : ℕ}

structure Consistent (r : TaskResponseRegistry) : Prop where
  waiting : ∀ taskId entry, r.pending.lookup taskId = some entry →
    r.receivers entry.registration = some ⟨taskId, entry.agentId, .waiting⟩
  live : ∀ n receiver, r.receivers n = some receiver → receiver.phase ≠ .dropped →
    (r.channels n).closed = false
  unsent : ∀ taskId entry, r.pending.lookup taskId = some entry →
    (r.channels entry.registration).sent = []
  fresh : ∀ n, r.registrations ≤ n → r.receivers n = none ∧ r.channels n = .new 1
  bounded : r.pending.len ≤ maxPendingTaskWaiters

theorem consistent_init : Consistent init where
  waiting _ _ h := by cases h
  live _ _ h := by cases h
  unsent _ _ h := by cases h
  fresh _ _ := ⟨rfl, rfl⟩
  bounded := Nat.zero_le _

theorem Consistent.open_of_lookup (h : Consistent r) {entry : PendingTaskResponse}
    (hentry : r.pending.lookup taskId = some entry) :
    (r.channels entry.registration).closed = false :=
  h.live _ _ (h.waiting _ _ hentry) nofun

theorem Consistent.lt_of_receiver (h : Consistent r) {receiver : TaskResponseReceiver}
    (hreceiver : r.receivers n = some receiver) : n < r.registrations := by
  refine lt_of_not_ge fun hge => ?_
  rw [(h.fresh _ hge).1] at hreceiver
  cases hreceiver

theorem Consistent.lt_of_lookup (h : Consistent r) {entry : PendingTaskResponse}
    (hentry : r.pending.lookup taskId = some entry) : entry.registration < r.registrations :=
  h.lt_of_receiver (h.waiting _ _ hentry)

theorem Consistent.key_eq (h : Consistent r) {entry : PendingTaskResponse} {id : String}
    {receiver : TaskResponseReceiver} (hentry : r.pending.lookup id = some entry)
    (hreceiver : r.receivers entry.registration = some receiver) :
    id = receiver.taskId ∧ receiver.phase = .waiting := by
  rw [h.waiting _ _ hentry] at hreceiver
  cases hreceiver
  exact ⟨rfl, rfl⟩

theorem Consistent.prune (h : Consistent r) : pruneClosedTaskWaiters r = r := by
  have hall : r.pending.retain (fun _ entry => !(r.channels entry.registration).closed) =
      r.pending := by
    refine ext (List.filter_eq_self.mpr fun e he => ?_)
    exact congrArg (!·) (h.open_of_lookup (mem_lookup_iff.mpr he))
  unfold pruneClosedTaskWaiters
  rw [hall]

/-! ## What the calls do -/

def issue (r : TaskResponseRegistry) (taskId : String) (a : AgentId) : TaskResponseRegistry :=
  { r with
    receivers := Function.update r.receivers r.registrations (some ⟨taskId, a, .waiting⟩)
    registrations := r.registrations + 1 }

theorem consistent_issue (h : Consistent r) (taskId : String) (a : AgentId) :
    Consistent (r.issue taskId a) where
  waiting id entry hentry := by
    have hne := (h.lt_of_lookup hentry).ne
    exact (update_of_ne hne _ _).trans (h.waiting id entry hentry)
  live m receiver hreceiver hphase := by
    rcases eq_or_ne m r.registrations with rfl | hm
    · show (r.channels r.registrations).closed = false
      rw [(h.fresh _ le_rfl).2]
      rfl
    · exact h.live m receiver ((update_of_ne hm _ _).symm.trans hreceiver) hphase
  unsent := h.unsent
  fresh m hm := by
    have hold := h.fresh m ((Nat.le_succ _).trans hm)
    have hne : m ≠ r.registrations := (Nat.lt_of_succ_le hm).ne'
    exact ⟨(update_of_ne hne _ _).trans hold.1, hold.2⟩
  bounded := h.bounded

theorem register_cases (h : Consistent r) (taskId : String) (a : AgentId) :
    r.register taskId a = r.issue taskId a ∨
      (r.canInsert taskId a = true ∧ r.register taskId a =
        { r.issue taskId a with pending := r.pending.insert taskId ⟨a, r.registrations⟩ }) := by
  have hregister : r.register taskId a = if validTaskId taskId then
      if (pruneClosedTaskWaiters (r.issue taskId a)).canInsert taskId a then
        { pruneClosedTaskWaiters (r.issue taskId a) with
          pending := (pruneClosedTaskWaiters (r.issue taskId a)).pending.insert taskId
            ⟨a, r.registrations⟩ }
      else pruneClosedTaskWaiters (r.issue taskId a)
    else r.issue taskId a := rfl
  rw [hregister, (consistent_issue h taskId a).prune]
  split
  · split
    · rename_i hinsert
      exact .inr ⟨hinsert, rfl⟩
    · exact .inl rfl
  · exact .inl rfl

theorem deliver_cases (h : Consistent r) (a : AgentId) (taskId : String) (result : TaskResult) :
    r.deliver a taskId result = (false, r) ∨
      ∃ entry, r.pending.lookup taskId = some entry ∧ entry.agentId = a ∧
        r.deliver a taskId result = (true, { r with
          pending := r.pending.erase taskId
          channels := Function.update r.channels entry.registration
            ((r.channels entry.registration).send { result with agentId := a.text }) }) := by
  unfold deliver
  simp only [h.prune]
  split
  · exact .inl rfl
  · split
    · exact .inl rfl
    · rename_i entry hentry
      split
      · exact .inl rfl
      · rename_i hagent
        refine .inr ⟨entry, hentry, not_not.mp hagent, ?_⟩
        unfold send
        rw [if_neg (by simp [h.open_of_lookup hentry])]

theorem lookup_cancel (h : Consistent r) (taskId id : String) :
    (r.cancel taskId).pending.lookup id = if id = taskId then none else r.pending.lookup id := by
  unfold cancel
  rw [h.prune]
  exact lookup_erase_eq _ _ _

theorem lookup_drop {id : String} {entry : PendingTaskResponse}
    (hentry : r.pending.lookup id = some entry) (hne : entry.registration ≠ n) :
    (r.drop n).pending.lookup id = some entry := by
  unfold drop
  split
  · rename_i taskId a _
    by_cases howns : r.ownsRegistration taskId n = true
    · have hid : id ≠ taskId := by
        rintro rfl
        unfold ownsRegistration at howns
        rw [hentry] at howns
        exact hne (beq_iff_eq.mp howns)
      rw [if_pos howns]
      exact (lookup_erase_ne hid).trans hentry
    · rw [if_neg howns]
      exact hentry
  · exact hentry

/-! ## What a step keeps -/

theorem Consistent.of_pending (h : Consistent r) {pending : HashMap String PendingTaskResponse}
    (hsub : ∀ id entry, pending.lookup id = some entry → r.pending.lookup id = some entry)
    (hlen : pending.len ≤ r.pending.len) : Consistent { r with pending } where
  waiting id entry hentry := h.waiting id entry (hsub id entry hentry)
  live := h.live
  unsent id entry hentry := h.unsent id entry (hsub id entry hentry)
  fresh := h.fresh
  bounded := hlen.trans h.bounded

theorem Consistent.erase (h : Consistent r) (taskId : String) :
    Consistent { r with pending := r.pending.erase taskId } := by
  refine h.of_pending (fun id entry hentry => ?_) (len_erase_le _ _)
  rw [lookup_erase_eq] at hentry
  split at hentry
  · cases hentry
  · exact hentry

theorem Consistent.of_channel (h : Consistent r) {c : Channel TaskResult}
    (hn : n < r.registrations)
    (hopen : ∀ receiver, r.receivers n = some receiver → receiver.phase ≠ .dropped →
      c.closed = false)
    (hsent : ∀ id entry, r.pending.lookup id = some entry → entry.registration = n →
      c.sent = []) : Consistent { r with channels := Function.update r.channels n c } where
  waiting := h.waiting
  live m receiver hreceiver hphase := by
    show (Function.update r.channels n c m).closed = false
    rcases eq_or_ne m n with rfl | hm
    · rw [update_self]
      exact hopen receiver hreceiver hphase
    · rw [update_of_ne hm]
      exact h.live m receiver hreceiver hphase
  unsent id entry hentry := by
    show (Function.update r.channels n c entry.registration).sent = []
    rcases eq_or_ne entry.registration n with hm | hm
    · rw [hm, update_self]
      exact hsent id entry hentry hm
    · rw [update_of_ne hm]
      exact h.unsent id entry hentry
  fresh m hm := by
    have hne : m ≠ n := fun heq => absurd hm (heq ▸ hn).not_ge
    have hold := h.fresh m hm
    exact ⟨hold.1, (update_of_ne hne _ _).trans hold.2⟩
  bounded := h.bounded

theorem Consistent.of_phase (h : Consistent r) {receiver receiver' : TaskResponseReceiver}
    (hreceiver : r.receivers n = some receiver) (hphase : receiver.phase ≠ .dropped)
    (hnone : ∀ id entry, r.pending.lookup id = some entry → entry.registration ≠ n) :
    Consistent { r with receivers := Function.update r.receivers n (some receiver') } where
  waiting id entry hentry :=
    (update_of_ne (hnone id entry hentry) _ _).trans (h.waiting id entry hentry)
  live m other hother hdropped := by
    rcases eq_or_ne m n with rfl | hm
    · exact h.live m receiver hreceiver hphase
    · exact h.live m other ((update_of_ne hm _ _).symm.trans hother) hdropped
  unsent := h.unsent
  fresh m hm := by
    have hne : m ≠ n := fun heq => absurd hm (heq ▸ h.lt_of_receiver hreceiver).not_ge
    have hold := h.fresh m hm
    exact ⟨(update_of_ne hne _ _).trans hold.1, hold.2⟩
  bounded := h.bounded

theorem consistent_register (h : Consistent r) (taskId : String) (a : AgentId) :
    Consistent (r.register taskId a) := by
  have hissue := consistent_issue h taskId a
  rcases register_cases h taskId a with heq | ⟨hinsert, heq⟩ <;> rw [heq]
  · exact hissue
  · refine ⟨fun id entry hentry => ?_, hissue.live, fun id entry hentry => ?_, hissue.fresh, ?_⟩
    · rw [lookup_insert_eq] at hentry
      split at hentry
      · rename_i hid
        cases hentry
        rw [hid]
        exact update_self _ _ _
      · exact hissue.waiting id entry hentry
    · rw [lookup_insert_eq] at hentry
      split at hentry
      · cases hentry
        show (r.channels r.registrations).sent = []
        rw [(h.fresh _ le_rfl).2]
        rfl
      · exact h.unsent id entry hentry
    · unfold canInsert at hinsert
      split at hinsert
      · rename_i existing hexisting
        show (r.pending.insert taskId _).len ≤ _
        rw [len_insert_of_mem _ (lookup_isSome.mp (hexisting ▸ rfl))]
        exact h.bounded
      · exact (len_insert_le _ _ _).trans (of_decide_eq_true hinsert)

theorem consistent_deliver (h : Consistent r) (a : AgentId) (taskId : String)
    (result : TaskResult) : Consistent (r.deliver a taskId result).2 := by
  rcases deliver_cases h a taskId result with heq | ⟨entry, hentry, -, heq⟩ <;> rw [heq]
  · exact h
  · have hopen := h.open_of_lookup hentry
    refine (h.erase taskId).of_channel (h.lt_of_lookup hentry) (fun _ _ _ => hopen) ?_
    -- The entry that was served is the only one with this registration, and it is gone.
    intro id other hother hsame
    rw [lookup_erase_eq] at hother
    split at hother
    · cases hother
    · rename_i hid
      exact absurd (h.key_eq hother (hsame ▸ h.waiting _ _ hentry)).1 hid

theorem consistent_recv (h : Consistent r) (n : ℕ) : Consistent (r.recv n) := by
  unfold recv
  split
  · rename_i hreceiver
    refine h.of_channel (h.lt_of_receiver hreceiver) (fun receiver hr hphase => ?_) ?_
    · have hopen := h.live n receiver hr hphase
      unfold Channel.recv
      split <;> exact hopen
    · intro id entry hentry hn
      rw [Channel.sent_recv, ← hn]
      exact h.unsent id entry hentry
  · exact h

theorem consistent_drop (h : Consistent r) (n : ℕ) : Consistent (r.drop n) := by
  unfold drop
  split
  · rename_i taskId a hreceiver
    by_cases howns : r.ownsRegistration taskId n = true
    · rw [if_pos howns]
      refine (h.erase taskId).of_phase hreceiver nofun fun id entry hentry hn => ?_
      rw [lookup_erase_eq] at hentry
      split at hentry
      · cases hentry
      · rename_i hid
        exact hid (h.key_eq hentry (hn ▸ hreceiver)).1
    · rw [if_neg howns]
      refine h.of_phase hreceiver nofun fun id entry hentry hn => howns ?_
      obtain ⟨rfl, -⟩ := h.key_eq hentry (hn ▸ hreceiver)
      unfold ownsRegistration
      rw [hentry]
      exact beq_iff_eq.mpr hn
  · exact h

theorem consistent_dropFields (h : Consistent r) (n : ℕ) : Consistent (r.dropFields n) := by
  unfold dropFields
  split
  · rename_i taskId a hreceiver
    have hnone : ∀ id entry, r.pending.lookup id = some entry → entry.registration ≠ n := by
      intro id entry hentry hn
      cases (h.key_eq hentry (hn ▸ hreceiver)).2
    refine (h.of_phase hreceiver nofun hnone).of_channel (h.lt_of_receiver hreceiver) ?_ ?_
    · intro receiver hr hphase
      cases (update_self n _ _).symm.trans hr
      exact absurd rfl hphase
    · intro id entry hentry hn
      exact absurd hn (hnone id entry hentry)
  · exact h

theorem consistent_step (h : Consistent r) (e : Event) : Consistent (r.step e) := by
  cases e with
  | register taskId a => exact consistent_register h taskId a
  | deliver a taskId result => exact consistent_deliver h a taskId result
  | cancel =>
    simp only [step]
    split
    · rename_i receiver _
      unfold cancel
      rw [h.prune]
      exact h.erase receiver.taskId
    · exact h
  | poll n => exact consistent_recv h n
  | drop n => exact consistent_drop h n
  | dropFields n => exact consistent_dropFields h n

/-! ## Who obtains a result -/

def Waits (r : TaskResponseRegistry) (n : ℕ) (taskId : String) (a : AgentId) : Prop :=
  r.receivers n = some ⟨taskId, a, .waiting⟩

def Obtains (r : TaskResponseRegistry) (e : Event) (n : ℕ) (result : TaskResult) : Prop :=
  ((r.step e).channels n).sent = (r.channels n).sent ++ [result]

theorem sent_step (h : Consistent r) (e : Event) (n : ℕ) :
    ((r.step e).channels n).sent = (r.channels n).sent ∨
      ∃ a taskId result, e = .deliver a taskId result ∧ r.Waits n taskId a ∧
        (r.deliver a taskId result).1 = true ∧ (r.channels n).sent = [] ∧
        ((r.step e).channels n).sent = [{ result with agentId := a.text }] := by
  cases e with
  | register taskId a =>
    left
    simp only [step]
    rcases register_cases h taskId a with heq | ⟨-, heq⟩ <;> rw [heq] <;> rfl
  | deliver a taskId result =>
    simp only [step]
    rcases deliver_cases h a taskId result with heq | ⟨entry, hentry, rfl, heq⟩ <;> rw [heq]
    · exact .inl rfl
    · rcases eq_or_ne n entry.registration with rfl | hn
      · have hunsent := h.unsent _ _ hentry
        refine .inr ⟨_, taskId, result, rfl, h.waiting _ _ hentry, congrArg Prod.fst heq,
          hunsent, ?_⟩
        show (Function.update r.channels entry.registration _ entry.registration).sent = _
        rw [update_self, Channel.sent_send, hunsent]
        rfl
      · exact .inl (congrArg Channel.sent (update_of_ne hn _ _))
  | cancel =>
    left
    simp only [step]
    split <;> rfl
  | poll =>
    left
    simp only [step, recv]
    split
    · exact sent_update (Channel.sent_recv _) n
    · rfl
  | drop =>
    left
    simp only [step, drop]
    split <;> rfl
  | dropFields =>
    left
    simp only [step, dropFields]
    split
    · exact sent_update (Channel.sent_close _) n
    · rfl

theorem length_sent_step (h : Consistent r) (hone : ∀ n, (r.channels n).sent.length ≤ 1)
    (e : Event) (n : ℕ) : ((r.step e).channels n).sent.length ≤ 1 := by
  rcases sent_step h e n with hsame | ⟨a, taskId, result, -, -, -, -, hsent⟩
  · rw [hsame]
    exact hone n
  · rw [hsent]
    exact le_rfl

theorem deliver_of_obtains (h : Consistent r) {e : Event} (hobtains : r.Obtains e n result) :
    ∃ a taskId sent, e = .deliver a taskId sent ∧ r.Waits n taskId a ∧
      (r.deliver a taskId sent).1 = true ∧ result = { sent with agentId := a.text } := by
  unfold Obtains at hobtains
  rcases sent_step h e n with hsame | ⟨a, taskId, sent, he, hwaits, htrue, hempty, hsent⟩
  · rw [hsame] at hobtains
    exact absurd hobtains.symm (by simp)
  · rw [hsent, hempty, List.nil_append] at hobtains
    exact ⟨a, taskId, sent, he, hwaits, htrue, (List.cons.inj hobtains).1.symm⟩

theorem deliver_iff (h : Consistent r) (a : AgentId) (taskId : String) (result : TaskResult) :
    (r.deliver a taskId result).1 = true ↔ ∃! n, r.Waits n taskId a ∧
      r.Obtains (.deliver a taskId result) n { result with agentId := a.text } := by
  constructor
  · intro htrue
    rcases deliver_cases h a taskId result with heq | ⟨entry, hentry, rfl, heq⟩
    · rw [heq] at htrue
      cases htrue
    · have hchannel (m : ℕ) : (r.step (.deliver entry.agentId taskId result)).channels m =
          Function.update r.channels entry.registration
            ((r.channels entry.registration).send _) m :=
        congrArg (fun p : Bool × TaskResponseRegistry => p.2.channels m) heq
      refine ⟨entry.registration, ⟨h.waiting _ _ hentry, ?_⟩, fun m hm => by_contra fun hne => ?_⟩
      · show ((r.step _).channels _).sent = _
        rw [hchannel, update_self]
        rfl
      · have hobtains : ((r.step _).channels m).sent = _ := hm.2
        rw [hchannel, update_of_ne hne] at hobtains
        exact absurd hobtains.symm (by simp)
  · rintro ⟨n, ⟨-, hobtains⟩, -⟩
    obtain ⟨b, id, sent, he, -, htrue, -⟩ := deliver_of_obtains h hobtains
    cases he
    exact htrue

/-- What is expected of a step: a delivery succeeds exactly if one receiver that waits for it
obtains the result; a receiver obtains one result at most, of the agent it was registered for;
the end of an older registration leaves a newer one in the map; the map stays within its limit. -/
structure RightStep (r : TaskResponseRegistry) (e : Event) : Prop where
  delivered : ∀ a taskId result, e = .deliver a taskId result →
    ((r.deliver a taskId result).1 = true ↔ ∃! n, r.Waits n taskId a ∧
      r.Obtains e n { result with agentId := a.text })
  once : ∀ n, ((r.step e).channels n).sent.length ≤ 1
  own : ∀ n result, r.Obtains e n result → ∃ a taskId sent, e = .deliver a taskId sent ∧
    r.Waits n taskId a ∧ (r.deliver a taskId sent).1 = true ∧
    result = { sent with agentId := a.text }
  newer : ∀ n, e = .drop n ∨ e = .cancel n → ∀ taskId entry,
    r.pending.lookup taskId = some entry → n < entry.registration →
      (r.step e).pending.lookup taskId = some entry
  bounded : (r.step e).pending.len ≤ maxPendingTaskWaiters

def cancelsNewer (r : TaskResponseRegistry) : Event → Bool
  | .cancel n => (r.receivers n).any fun receiver =>
      (r.pending.lookup receiver.taskId).any fun entry => n < entry.registration
  | _ => false

theorem rightStep_iff (h : Consistent r) (hone : ∀ n, (r.channels n).sent.length ≤ 1)
    (e : Event) : r.RightStep e ↔ r.cancelsNewer e = false := by
  constructor
  · intro hright
    cases e with
    | cancel n =>
      refine Bool.eq_false_iff.mpr fun hnewer => ?_
      simp only [cancelsNewer, Option.any_eq_true, decide_eq_true_eq] at hnewer
      obtain ⟨receiver, hreceiver, entry, hentry, hlt⟩ := hnewer
      have hkept := hright.newer n (.inr rfl) _ _ hentry hlt
      simp only [step, hreceiver] at hkept
      rw [lookup_cancel h, if_pos rfl] at hkept
      cases hkept
    | register | deliver | poll | drop | dropFields => rfl
  · intro hnewer
    refine ⟨?_, length_sent_step h hone e, fun _ _ => deliver_of_obtains h, ?_,
      (consistent_step h e).bounded⟩
    · rintro a taskId result rfl
      exact deliver_iff h a taskId result
    · rintro n (rfl | rfl) taskId entry hentry hlt
      · exact lookup_drop hentry hlt.ne'
      · simp only [step]
        split
        · rename_i receiver hreceiver
          rw [lookup_cancel h, if_neg ?_]
          · exact hentry
          · rintro rfl
            simp [cancelsNewer, hreceiver, hentry, hlt] at hnewer
        · exact hentry

/-- Every step of a run is as expected exactly if no cancel of the run is made for a registration
that a newer one of its task id has replaced in the map. -/
theorem responses_right_iff (es : List Event) :
    Meets step RightStep init es ↔ Meets step (fun r e => r.cancelsNewer e = false) init es := by
  refine meets_congr (P := fun r => Consistent r ∧ ∀ n, (r.channels n).sent.length ≤ 1) ?_ ?_ ?_ es
  · rintro r e - ⟨h, hone⟩
    exact ⟨consistent_step h e, length_sent_step h hone e⟩
  · rintro r e ⟨h, hone⟩
    exact rightStep_iff h hone e
  · exact ⟨consistent_init, fun _ => Nat.zero_le 1⟩

/-! Two registrations of one task id. -/

namespace Replaced

def agent : AgentId := ⟨"00000000-0000-4000-8000-000000000001", canonical_one⟩

def reply : TaskResult := ⟨"task-1", 1, 0, "", "", "", 0, 0, ""⟩

def registrations : List Event := [.register "task-1" agent, .register "task-1" agent]

end Replaced

theorem responses_right_replaced : Meets step RightStep init
    (Replaced.registrations ++
      [.drop 0, .dropFields 0, .deliver Replaced.agent "task-1" Replaced.reply, .poll 1]) :=
  (responses_right_iff _).mpr (by decide +kernel)

theorem cancel_takes_newer :
    (run step init Replaced.registrations).poll 0 = .ready (.error ()) ∧
    ¬ Meets step RightStep init (Replaced.registrations ++ [.cancel 0]) ∧
    (run step init (Replaced.registrations ++ [.cancel 0])).Waits 1 "task-1" Replaced.agent ∧
    ((run step init (Replaced.registrations ++ [.cancel 0])).deliver Replaced.agent "task-1"
      Replaced.reply).1 = false := by
  refine ⟨by decide +kernel, fun hmeets => ?_, by unfold Waits; decide +kernel, by decide +kernel⟩
  have hright := (meets_append.mp hmeets).2.1
  have hkept := hright.newer 0 (.inr rfl) "task-1" ⟨Replaced.agent, 1⟩ (by decide +kernel)
    (by decide)
  exact absurd hkept (by decide +kernel)

end XLStatus.Grpc.TaskResponseRegistry
