import XLStatus.Auth.RbacDefs

/-! What a personal access token of a user without the admin role can be granted. -/

namespace XLStatus.Auth.Rbac

open Shared Checked Option Text

def Accepted (scope : String) : Prop := validatePatScopes [scope] false = .ok ()

instance (scope : String) : Decidable (Accepted scope) :=
  inferInstanceAs (Decidable (validatePatScopes [scope] false = .ok ()))

def Covers (stored required : String) : Prop :=
  stored = required ∨
    ∃ ns action, splitOnce required ':' = some (ns, action) ∧ stored = ns ++ ":*"

def InNamespace (scope ns : String) : Prop :=
  ∃ action, splitOnce scope ':' = some (ns, action)

variable {scope ns : String} {scopes : List String}

theorem InNamespace.eq {ns' : String} (h : InNamespace scope ns) (h' : InNamespace scope ns') :
    ns = ns' := by
  obtain ⟨action, h⟩ := h
  obtain ⟨action', h'⟩ := h'
  rw [h] at h'
  exact (Prod.mk.inj (some.inj h')).1

theorem validatePatScopes_singleton {isAdmin : Bool} :
    validatePatScopes [scope] isAdmin = .ok () ↔
      len scope ≤ patRuntimeMaxScopeBytes ∧ validatePatScope isAdmin scope = .ok () := by
  simp only [validatePatScopes, validatePatScopeResourceLimits, bind_eq_ok, ensure_eq_ok,
    forM_eq_ok, List.mem_singleton, forall_eq, decide_eq_true_eq]
  constructor
  · rintro ⟨-, ⟨-, -, -, -, hlen⟩, hscope⟩
    exact ⟨hlen, hscope⟩
  · rintro ⟨hlen, hscope⟩
    exact ⟨(), ⟨(), by simp, (), by simp [patRuntimeMaxScopes], hlen⟩, hscope⟩

theorem splitOnce_wildcard {stored : String} :
    splitOnce stored ':' = some (ns, "*") ↔ stored = ns ++ ":*" ∧ ':' ∉ ns.toList := by
  rw [splitOnce_eq_some, and_congr_left_iff]
  intro _
  rw [← String.toList_inj, String.toList_append]
  rfl

theorem patScopeGrants_iff {stored required : String} :
    patScopeGrants stored required false = true ↔ Accepted stored ∧ Covers stored required := by
  have hok : (validatePatScopes [stored] false).isOk = true ↔ Accepted stored := by
    unfold Accepted
    cases validatePatScopes [stored] false <;> simp [Except.isOk, Except.toBool]
  have hstar : Accepted stored → stored ≠ "*" := by
    rintro h rfl
    exact absurd h (by decide +kernel)
  unfold patScopeGrants Covers
  by_cases hacc : Accepted stored
  · simp only [hok.mpr hacc, hstar hacc, hacc, decide_false, Bool.not_true, Bool.or_self,
      Bool.false_eq_true, if_false, true_and]
    by_cases heq : stored = required
    · simp [heq]
    · simp only [heq, if_false, false_or]
      constructor
      · intro h
        split at h
        · cases h
        · rename_i ns action hstored
          split at h
          · cases h
          · rename_i haction
            cases hreq : splitOnce required ':' with
            | none => simp [hreq] at h
            | some p =>
              obtain ⟨ns', action'⟩ := p
              simp only [hreq, map_some, getD_some, beq_iff_eq] at h
              rw [not_not.mp haction, ← h] at hstored
              exact ⟨ns', action', rfl, (splitOnce_wildcard.mp hstored).1⟩
      · rintro ⟨ns, action, hreq, hstored⟩
        have hns : ':' ∉ ns.toList := (splitOnce_eq_some.mp hreq).2
        simp [splitOnce_wildcard.mpr ⟨hstored, hns⟩, hreq]
  · have hno : (validatePatScopes [stored] false).isOk = false :=
      Bool.eq_false_iff.mpr fun h => hacc (hok.mp h)
    simp [hno, hacc]

def namespaces (scopes : List String) : List String :=
  scopes.filterMap fun scope => (splitOnce scope ':').map (·.1)

theorem hasNamespace_iff :
    hasNamespace scopes ns = true ↔ ns ∈ namespaces scopes := by
  simp only [hasNamespace, namespaces, List.any_eq_true, List.mem_filterMap]
  refine exists_congr fun scope => and_congr_right fun _ => ?_
  cases splitOnce scope ':' with
  | none => simp
  | some => simp

theorem mem_namespaces (h : scope ∈ scopes) (hns : InNamespace scope ns) :
    ns ∈ namespaces scopes := by
  obtain ⟨action, hsplit⟩ := hns
  exact List.mem_filterMap.mpr ⟨scope, h, by simp [hsplit]⟩

def openNamespaces : List String := ["service", "alert", "notification"]

theorem mem_openNamespaces (hknown : ns ∈ namespaces knownScopes)
    (hdenied : ns ∉ namespaces nonAdminPatDeniedScopes) (hadmin : ns ≠ "admin") :
    ns ∈ openNamespaces := by
  revert ns
  decide +kernel

theorem not_mem_denied_of_open (h : ns ∈ openNamespaces) :
    ns ∉ namespaces nonAdminPatDeniedScopes ∧ ns ≠ "admin" := by
  revert ns
  decide +kernel

theorem inNamespace_admin : InNamespace "admin:*" "admin" := ⟨"*", by decide +kernel⟩

theorem accepted_cases (h : Accepted scope) :
    scope ≠ "admin:*" ∧ ∃ ns action, splitOnce scope ':' = some (ns, action) ∧
      (action = "*" ∧ ns ∈ namespaces knownScopes ∧ ns ∉ namespaces nonAdminPatDeniedScopes ∨
        action ≠ "*" ∧ scope ∈ knownScopes) := by
  have hscope := (validatePatScopes_singleton.mp h).2
  unfold validatePatScope at hscope
  split at hscope
  · cases hscope
  · split at hscope
    · simp [ensure] at hscope
    · rename_i hadmin
      refine ⟨hadmin, ?_⟩
      split at hscope
      · cases hscope
      · split at hscope
        · rename_i ns action hsplit
          refine ⟨ns, action, hsplit, ?_⟩
          split at hscope
          · cases hscope
          · split at hscope
            · rename_i haction
              split at hscope
              · cases hscope
              · rename_i hknown
                rw [← hasNamespace_iff, ← hasNamespace_iff]
                have hdenied := ensure_eq_ok.mp hscope
                rw [Bool.false_or, Bool.not_eq_true'] at hdenied
                rw [Bool.not_eq_true, Bool.not_eq_false'] at hknown
                exact .inl ⟨haction, hknown, Bool.eq_false_iff.mp hdenied⟩
            · rename_i haction
              exact .inr ⟨haction, List.contains_iff_mem.mp (ensure_eq_ok.mp hscope)⟩
        · cases hscope

theorem open_of_accepted_wildcard (hns : ':' ∉ ns.toList) (h : Accepted (ns ++ ":*")) :
    ns ∈ openNamespaces := by
  have hsplit : splitOnce (ns ++ ":*") ':' = some (ns, "*") :=
    splitOnce_wildcard.mpr ⟨rfl, hns⟩
  obtain ⟨hadmin, ns', action, hsplit', hcases⟩ := accepted_cases h
  obtain ⟨rfl, rfl⟩ := Prod.mk.inj (some.inj (hsplit.symm.trans hsplit'))
  rcases hcases with ⟨-, hknown, hdenied⟩ | ⟨haction, -⟩
  · refine mem_openNamespaces hknown hdenied ?_
    rintro rfl
    exact hadmin rfl
  · exact absurd rfl haction

theorem validatePatScope_of_open (hns : InNamespace scope ns) (h : ns ∈ openNamespaces) :
    validatePatScope false scope = validatePatScope true scope := by
  obtain ⟨hdenied, hadmin⟩ := not_mem_denied_of_open h
  have hneAdmin : scope ≠ "admin:*" := by
    rintro rfl
    exact hadmin (hns.eq inNamespace_admin)
  have hnotDenied : scope ∉ nonAdminPatDeniedScopes := fun hmem =>
    hdenied (mem_namespaces hmem hns)
  have hopen : namespaceContainsNonAdminDeniedScope ns = false := by
    rw [Bool.eq_false_iff]
    exact fun hmem => hdenied (hasNamespace_iff.mp hmem)
  obtain ⟨action, hsplit⟩ := hns
  simp [validatePatScope, hneAdmin, hnotDenied, hsplit, hopen]

theorem not_accepted_admin (h : Accepted scope) : ¬ InNamespace scope "admin" := by
  rintro ⟨action, hsplit⟩
  have honly : ∀ s ∈ knownScopes, (splitOnce s ':').map (·.1) = some "admin" →
      s = "admin:*" := by
    decide +kernel
  obtain ⟨hadmin, ns, action', hsplit', hcases⟩ := accepted_cases h
  obtain ⟨rfl, rfl⟩ := Prod.mk.inj (some.inj (hsplit.symm.trans hsplit'))
  rcases hcases with ⟨rfl, -⟩ | ⟨-, hknown⟩
  · exact hadmin (splitOnce_wildcard.mp hsplit).1
  · refine hadmin (honly scope hknown ?_)
    rw [hsplit]
    rfl

def ReservedToAdmins (scope : String) : Prop :=
  validatePatScopes [scope] true = .ok () ∧ ¬ Accepted scope

def ServerScoped (scope : String) : Prop :=
  ∃ ns ∈ serverScopedPatNamespaces, InNamespace scope ns

def HasAllowlist (session : AuthSession) : Prop :=
  ∃ ids, session.serverIds = some ids ∧ ids ≠ [] ∧
    ∀ id, id ∉ ids → canAccessServer session id = false

/-- A token is confined at a scope: the scope is granted only through an accepted element
of the stored list, no refused or admin scope is granted, and a token that passes the checks
at run time and grants a server-scoped permission has an allowlist. -/
structure Confined (refused : String → Prop) (session : AuthSession) (required : String) :
    Prop where
  covered : hasScope session required = true →
    ∃ stored ∈ session.scopes, Accepted stored ∧ Covers stored required
  notRefused : hasScope session required = true → ¬ refused required
  notAdmin : hasScope session required = true → ¬ InNamespace required "admin"
  allowlist : validatePatRuntime session.scopes false session.serverIds = .ok () →
    hasScope session required = true → ServerScoped required → HasAllowlist session

section Member

variable {session : AuthSession} {required : String}

def CoveredByWildcard (session : AuthSession) (required : String) : Prop :=
  ∃ ns, InNamespace required ns ∧ ns ++ ":*" ∈ session.scopes ∧ Accepted (ns ++ ":*")

theorem hasScope_of_namespace (hkind : session.authKind = .personalAccessToken)
    (hrole : session.role = .member) (h : ':' ∈ required.toList) :
    hasScope session required = true ↔
      ∃ stored ∈ session.scopes, Accepted stored ∧ Covers stored required := by
  unfold hasScope
  rw [hkind, hrole]
  cases hsplit : splitOnce required ':' with
  | none => exact absurd h (splitOnce_eq_none.mp hsplit)
  | some => simp only [UserRole.isAdmin, List.any_eq_true, patScopeGrants_iff]

theorem hasScope_of_no_namespace (hkind : session.authKind = .personalAccessToken)
    (h : ':' ∉ required.toList) :
    hasScope session required = true ↔ required ∈ session.scopes := by
  unfold hasScope
  rw [hkind, splitOnce_eq_none.mpr h]
  simp

theorem accepted_or_wildcard
    (h : ∃ stored ∈ session.scopes, Accepted stored ∧ Covers stored required) :
    Accepted required ∨ CoveredByWildcard session required := by
  obtain ⟨stored, hmem, hacc, rfl | ⟨ns, action, hsplit, rfl⟩⟩ := h
  · exact .inl hacc
  · exact .inr ⟨ns, ⟨action, hsplit⟩, hmem, hacc⟩

theorem CoveredByWildcard.open_namespace (h : CoveredByWildcard session required) :
    ∃ ns ∈ openNamespaces, InNamespace required ns := by
  obtain ⟨ns, ⟨action, hsplit⟩, -, hacc⟩ := h
  exact ⟨ns, open_of_accepted_wildcard (splitOnce_eq_some.mp hsplit).2 hacc, action, hsplit⟩

theorem not_reserved_of_covered
    (h : ∃ stored ∈ session.scopes, Accepted stored ∧ Covers stored required) :
    ¬ ReservedToAdmins required := by
  rintro ⟨hadmin, hmember⟩
  rcases accepted_or_wildcard h with hacc | hwild
  · exact hmember hacc
  · obtain ⟨ns, hopen, hns⟩ := hwild.open_namespace
    obtain ⟨hlen, hscope⟩ := validatePatScopes_singleton.mp hadmin
    rw [← validatePatScope_of_open hns hopen] at hscope
    exact hmember (validatePatScopes_singleton.mpr ⟨hlen, hscope⟩)

theorem not_admin_of_covered
    (h : ∃ stored ∈ session.scopes, Accepted stored ∧ Covers stored required) :
    ¬ InNamespace required "admin" := by
  rcases accepted_or_wildcard h with hacc | hwild
  · exact not_accepted_admin hacc
  · obtain ⟨ns, hopen, hns⟩ := hwild.open_namespace
    exact fun hadmin => (not_mem_denied_of_open hopen).2 (hns.eq hadmin)

theorem hasAllowlist_of_covered
    (hruntime : validatePatRuntime session.scopes false session.serverIds = .ok ())
    (h : ∃ stored ∈ session.scopes, Accepted stored ∧ Covers stored required)
    (hscoped : ServerScoped required) : HasAllowlist session := by
  obtain ⟨ns, hns, action, hsplit⟩ := hscoped
  obtain ⟨stored, hmem, -, hcovers⟩ := h
  -- The element that covers the scope is in the same namespace.
  have hstored : InNamespace stored ns := by
    rcases hcovers with rfl | ⟨ns', action', hsplit', rfl⟩
    · exact ⟨action, hsplit⟩
    · obtain ⟨rfl, -⟩ := Prod.mk.inj (some.inj (hsplit.symm.trans hsplit'))
      exact ⟨"*", splitOnce_wildcard.mpr ⟨rfl, (splitOnce_eq_some.mp hsplit).2⟩⟩
  have hrequires : patScopesRequireServerAllowlist session.scopes = true := by
    obtain ⟨action', hsplit'⟩ := hstored
    refine List.any_eq_true.mpr ⟨stored, hmem, ?_⟩
    simpa [hsplit'] using hns
  simp only [validatePatRuntime, bind_eq_ok, ensure_eq_ok] at hruntime
  obtain ⟨-, -, -, -, hlist⟩ := hruntime
  cases hids : session.serverIds with
  | none => simp [hrequires, hids] at hlist
  | some ids =>
    refine ⟨ids, hids, ?_, fun id hid => ?_⟩
    · rintro rfl
      simp [hrequires, hids] at hlist
    · simp only [canAccessServer, hids, List.any_eq_false, beq_iff_eq]
      rintro x hx rfl
      exact hid hx

theorem not_accepted_of_no_namespace (h : ':' ∉ required.toList) : ¬ Accepted required := by
  intro hacc
  obtain ⟨-, ns, action, hsplit, -⟩ := accepted_cases hacc
  rw [splitOnce_eq_none.mpr h] at hsplit
  cases hsplit

theorem not_covered_of_no_namespace (h : ':' ∉ required.toList) :
    ¬ ∃ stored ∈ session.scopes, Accepted stored ∧ Covers stored required := by
  intro hcov
  rcases accepted_or_wildcard hcov with hacc | ⟨ns, ⟨action, hsplit⟩, -⟩
  · exact not_accepted_of_no_namespace h hacc
  · rw [splitOnce_eq_none.mpr h] at hsplit
    cases hsplit

theorem confined_iff_of_reserved {refused : String → Prop}
    (hkind : session.authKind = .personalAccessToken) (hrole : session.role = .member) :
    Confined refused session required ↔
      (':' ∈ required.toList ∨ required ∉ session.scopes) ∧
        (hasScope session required = true → ¬ refused required) := by
  by_cases hns : ':' ∈ required.toList
  · have hscope := hasScope_of_namespace hkind hrole hns
    refine ⟨fun h => ⟨.inl hns, h.notRefused⟩, fun h => ⟨hscope.mp, h.2, fun hhas => ?_, ?_⟩⟩
    · exact not_admin_of_covered (hscope.mp hhas)
    · exact fun hruntime hhas => hasAllowlist_of_covered hruntime (hscope.mp hhas)
  · have hscope := hasScope_of_no_namespace hkind hns
    constructor
    · refine fun h => ⟨.inr fun hmem => ?_, h.notRefused⟩
      exact not_covered_of_no_namespace hns (h.covered (hscope.mpr hmem))
    · rintro ⟨hor, hrefused⟩
      have hno : hasScope session required ≠ true := fun hhas =>
        hor.elim hns fun hmem => hmem (hscope.mp hhas)
      exact ⟨fun h => absurd h hno, hrefused, fun h => absurd h hno, fun _ h => absurd h hno⟩

end Member

namespace Sample

def session (scopes : List String) (serverIds : Option (List String)) : AuthSession where
  sessionId := "0190a6f4-2b1c-7c3d-8e4f-000000000001"
  userId := ⟨"0190a6f4-2b1c-7c3d-8e4f-5a6b7c8d9e0f", canonical_v7⟩
  username := "member"
  role := .member
  csrfToken := ""
  authKind := .personalAccessToken
  scopes
  serverIds
  patId := some "0190a6f4-2b1c-7c3d-8e4f-000000000001"

end Sample

end XLStatus.Auth.Rbac
