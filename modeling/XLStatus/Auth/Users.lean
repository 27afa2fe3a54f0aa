import XLStatus.Auth.UsersDefs

/-! When there is always an administrator: the last-admin checks are separate from the
writes they guard, so they hold as long as what a request has read still holds when it
writes. -/

namespace XLStatus.Auth.Users

open Shared Transition List Function

namespace Table

variable {users : Table} {id : UserId}

def otherAdmins (users : Table) (id : UserId) : ℕ :=
  users.rows.countP fun row => row.role.isAdmin && row.id ≠ id

theorem countAdmins_le_otherAdmins (users : Table) (id : UserId) :
    users.countAdmins ≤ users.otherAdmins id + 1 := by
  have hone : users.rows.countP (fun row => !decide (row.id ≠ id)) ≤ 1 := by
    have hcount := nodup_iff_count_le_one.mp users.nodup id
    rw [count, countP_map] at hcount
    refine le_trans (countP_mono_left fun row _ h => ?_) hcount
    simpa using h
  have hsplit := countP_eq_countP_filter_add users.rows (·.role.isAdmin)
    fun row => decide (row.id ≠ id)
  rw [countP_filter] at hsplit
  have htarget : (users.rows.filter fun row => !decide (row.id ≠ id)).countP (·.role.isAdmin) ≤
      1 := by
    rw [countP_eq_length_filter] at hone
    exact countP_le_length.trans hone
  unfold countAdmins otherAdmins
  omega

theorem countAdmins_eq_otherAdmins
    (h : ∀ row, users.findById id = some row → row.role.isAdmin = false) :
    users.countAdmins = users.otherAdmins id := by
  refine countP_congr fun row hrow => ?_
  by_cases hid : row.id = id
  · have hfound : users.findById id = some row :=
      List.find?_eq_some_of_nodup_map users.nodup hrow hid
    simp [h row hfound]
  · simp [hid]

theorem otherAdmins_le_updateRole (role : UserRole) :
    users.otherAdmins id ≤ (users.updateRole id role).countAdmins := by
  unfold otherAdmins countAdmins updateRole update
  simp only [countP_map]
  refine countP_mono_left fun row _ h => ?_
  obtain ⟨hadmin, hne⟩ := Bool.and_eq_true_iff.mp h
  have hne : row.id ≠ id := of_decide_eq_true hne
  simpa [hne] using hadmin

theorem countAdmins_le_updateRole_admin :
    users.countAdmins ≤ (users.updateRole id .admin).countAdmins := by
  unfold countAdmins updateRole update
  simp only [countP_map]
  refine countP_mono_left fun row _ h => ?_
  simp only [comp]
  split
  · rfl
  · exact h

theorem countAdmins_resetPassword : (users.resetPassword id).countAdmins = users.countAdmins := by
  unfold countAdmins resetPassword update
  simp only [countP_map]
  refine countP_congr fun row _ => ?_
  simp only [comp]
  split <;> rfl

theorem otherAdmins_eq_delete : (users.delete id).countAdmins = users.otherAdmins id := by
  unfold countAdmins delete otherAdmins
  rw [countP_filter]

end Table

def Phase.Checked : Phase → Prop
  | .updateRole existing next counted => existing.role.isAdmin = true → next.isAdmin = false →
      ∃ n, counted = some n ∧ 2 ≤ n
  | .revokeForDelete existing counted | .delete existing counted =>
      existing.role.isAdmin = true → ∃ n, counted = some n ∧ 2 ≤ n
  | _ => True

theorem checked_afterRole (call : Call) : call.afterRole.phase.Checked := by
  unfold Call.afterRole
  split
  · trivial
  · split <;> trivial

theorem checked_found (call : Call) (existing : UserRow) :
    (call.found existing).phase.Checked := by
  unfold Call.found
  split
  · exact checked_afterRole call
  · split
    · trivial
    · split
      · split <;> trivial
      · rename_i hdemotes
        intro hadmin hnext
        simp [hadmin, hnext] at hdemotes
  · split
    · trivial
    · rename_i hmember
      exact fun hadmin => absurd hadmin hmember

theorem checked_answered {users : Table} {call : Call} (h : call.phase.Checked) :
    (answered users call).2.phase.Checked := by
  unfold answered
  split
  · split
    · trivial
    · exact checked_found _ _
  · split
    · trivial
    · rename_i hcount
      exact fun _ _ => ⟨_, rfl, not_le.mp hcount⟩
  · simp only
    split
    · trivial
    · split
      · trivial
      · exact checked_afterRole call
  · exact checked_afterRole call
  · simp only
    split <;> trivial
  · trivial
  · split <;> trivial
  · split
    · trivial
    · rename_i hcount
      exact fun _ => ⟨_, rfl, not_le.mp hcount⟩
  · rename_i existing counted hphase
    rw [hphase] at h
    exact h
  · split <;> trivial
  · exact h

def readsHold (users : Table) (target : UserId) (existing : UserRow) (counted : Option ℕ) : Bool :=
  ((users.findById target).map fun row => decide (row.role = existing.role)).getD true &&
    (counted.map fun n => decide (n ≤ users.countAdmins)).getD true

def freshWrite (st : System) : Event → Bool
  | .step call _ => match st.calls call with
    | some c => match c.phase with
      | .updateRole existing _ counted => readsHold st.users c.target existing counted
      | .delete existing counted => readsHold st.users c.target existing counted
      | _ => true
    | none => true
  | _ => true

theorem one_le_otherAdmins {users : Table} {target : UserId} {existing : UserRow}
    {counted : Option ℕ} (hfresh : readsHold users target existing counted = true)
    (hchecked : existing.role.isAdmin = true → ∃ n, counted = some n ∧ 2 ≤ n)
    (h : 1 ≤ users.countAdmins) : 1 ≤ users.otherAdmins target := by
  obtain ⟨hrole, hcount⟩ := Bool.and_eq_true_iff.mp hfresh
  cases hadmin : existing.role.isAdmin with
  | true =>
    obtain ⟨n, rfl, hn⟩ := hchecked hadmin
    have hle : n ≤ users.countAdmins := by simpa using hcount
    have hothers := users.countAdmins_le_otherAdmins target
    omega
  | false =>
    rw [← Table.countAdmins_eq_otherAdmins]
    · exact h
    · intro row hrow
      have hsame : row.role = existing.role := by simpa [hrow] using hrole
      rw [hsame, hadmin]

structure Inv (st : System) : Prop where
  admin : 1 ≤ st.users.countAdmins
  checked : ∀ call c, st.calls call = some c → c.phase.Checked

theorem admin_answered {users : Table} {c : Call} (h : 1 ≤ users.countAdmins)
    (hchecked : c.phase.Checked)
    (hfresh : ∀ existing counted, (∃ next, c.phase = .updateRole existing next counted) ∨
      c.phase = .delete existing counted → readsHold users c.target existing counted = true) :
    1 ≤ (answered users c).1.countAdmins := by
  unfold answered
  split
  case h_3 existing next counted hphase =>
    have hupdated : 1 ≤ (users.updateRole c.target next).countAdmins := by
      cases next with
      | admin => exact h.trans Table.countAdmins_le_updateRole_admin
      | member =>
        rw [hphase] at hchecked
        have hothers := one_le_otherAdmins (hfresh _ _ (.inl ⟨_, hphase⟩))
          (fun hadmin => hchecked hadmin rfl) h
        exact hothers.trans (Table.otherAdmins_le_updateRole _)
    simp only
    split
    · exact hupdated
    · split <;> exact hupdated
  case h_5 =>
    have hreset : 1 ≤ (users.resetPassword c.target).countAdmins := by
      rwa [Table.countAdmins_resetPassword]
    simp only
    split <;> exact hreset
  case h_10 existing counted hphase =>
    split
    · rw [hphase] at hchecked
      rw [Table.otherAdmins_eq_delete]
      exact one_le_otherAdmins (hfresh _ _ (.inr hphase)) hchecked h
    · exact h
  all_goals first | exact h | split <;> exact h

theorem inv_update {st : System} (h : Inv st) (call : ℕ) {next : Option Call}
    (hnext : ∀ c, next = some c → c.phase.Checked) {users : Table}
    (husers : 1 ≤ users.countAdmins) :
    Inv ⟨users, Function.update st.calls call next⟩ := by
  refine ⟨husers, fun call' c hc => ?_⟩
  by_cases heq : call' = call
  · subst heq
    simp only [update_self] at hc
    exact hnext c hc
  · simp only [update_of_ne heq] at hc
    exact h.checked call' c hc

theorem phase_authorize {users : Table} {actor : UserId} {isPat : Bool}
    {totp : Except AppError Unit} {id : String} {command : Command} {call : Call}
    (h : authorize users actor isPat totp id command = .ok call) : call.phase = .find := by
  simp only [authorize, Checked.bind_eq_ok] at h
  obtain ⟨row, -, -, -, -, -, -, -, target, -, h⟩ := h
  cases command with
  | update =>
    obtain rfl := Checked.pure_eq_ok.mp h
    rfl
  | delete =>
    obtain ⟨-, -, h⟩ := Checked.bind_eq_ok.mp h
    obtain rfl := Checked.pure_eq_ok.mp h
    rfl

theorem inv_step {st : System} (h : Inv st) {e : Event} (hfresh : freshWrite st e = true) :
    Inv (st.step e) := by
  cases e with
  | request call =>
    simp only [System.step]
    split
    · rename_i started _ hstarted
      refine inv_update h call (fun c hc => ?_) h.admin
      cases hc
      rw [phase_authorize hstarted]
      trivial
    · exact h
  | step call reply =>
    simp only [System.step]
    cases hcall : st.calls call with
    | none => exact h
    | some c =>
      have hchecked := h.checked call c hcall
      have hadmin : 1 ≤ (answered st.users c).1.countAdmins := by
        refine admin_answered h.admin hchecked fun existing counted hphase => ?_
        simp only [freshWrite, hcall] at hfresh
        rcases hphase with ⟨next, hphase⟩ | hphase
        · simpa only [hphase] using hfresh
        · simpa only [hphase] using hfresh
      have hfailed : ∀ e c', some (c.fail e) = some c' → c'.phase.Checked := by
        rintro e c' hc'
        cases hc'
        trivial
      simp only
      cases reply with
      | done =>
        refine inv_update h call (fun c' hc' => ?_) hadmin
        cases hc'
        exact checked_answered hchecked
      | failed => exact inv_update h call (hfailed _) h.admin
      | lost => exact inv_update h call (hfailed _) hadmin
  | drop call => exact inv_update h call (fun c hc => by cases hc) h.admin

def HasAdmin (users : Table) : Prop := ∃ row ∈ users.rows, row.role = .admin

theorem hasAdmin_iff {users : Table} : HasAdmin users ↔ 1 ≤ users.countAdmins := by
  have hrole : ∀ role : UserRole, role.isAdmin = true ↔ role = .admin := by
    intro role
    cases role <;> simp [UserRole.isAdmin]
  rw [HasAdmin, Table.countAdmins, Nat.one_le_iff_ne_zero, ← Nat.pos_iff_ne_zero,
    countP_pos_iff]
  simp only [hrole]

namespace Sample

def alice : UserId := ⟨"0190a6f4-2b1c-7c3d-8e4f-00000000000a", canonical_v7a⟩
def bob : UserId := ⟨"0190a6f4-2b1c-7c3d-8e4f-00000000000b", canonical_v7b⟩

def users : Table := ⟨[⟨alice, .admin, 0⟩, ⟨bob, .admin, 0⟩], by decide⟩

def demote (call : ℕ) (actor target : UserId) : Event :=
  .request call actor false (.ok ()) target.text (.update (some "member") none)

def crossed : List Event :=
  [demote 0 alice bob, demote 1 bob alice, .step 0 .done, .step 1 .done, .step 0 .done,
    .step 1 .done, .step 0 .done, .step 1 .done]

def inTurn : List Event :=
  [demote 0 alice bob, .step 0 .done, .step 0 .done, .step 0 .done, .step 0 .done, .step 0 .done,
    demote 1 bob alice, .step 1 .done]

end Sample

theorem concurrent_demotions_leave_no_admin :
    HasAdmin Sample.users ∧
      ¬ HasAdmin (run System.step (.init Sample.users) Sample.crossed).users := by
  rw [hasAdmin_iff, hasAdmin_iff]
  decide +kernel

/-- In every run in which the reads of a request still hold when it writes, somebody has the
admin role in every state reached. -/
theorem admin_remains (users : Table) (hadmin : HasAdmin users) (es : List Event)
    (hfresh : Meets System.step (fun st e => freshWrite st e) (.init users) es) :
    HasAdmin (run System.step (.init users) es).users := by
  have hinit : Inv (.init users) :=
    ⟨hasAdmin_iff.mp hadmin, fun call c hc => by cases hc⟩
  have hstep : ∀ st e, freshWrite st e = true → Inv st → Inv (st.step e) :=
    fun st e hfresh h => inv_step h hfresh
  exact hasAdmin_iff.mpr (run_induct_of_meets hstep hinit hfresh).admin

theorem admin_remains_inTurn :
    (run System.step (.init Sample.users) Sample.inTurn).users.countAdmins = 1 ∧
      HasAdmin (run System.step (.init Sample.users) Sample.inTurn).users := by
  refine ⟨by decide +kernel, ?_⟩
  exact admin_remains Sample.users ⟨⟨Sample.alice, .admin, 0⟩, by decide, rfl⟩ Sample.inTurn
    (by decide +kernel)

end XLStatus.Auth.Users
