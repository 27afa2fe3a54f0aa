import XLStatus.Maintenance.RestoreDefs

/-! The restore replaces the content of the tables as a whole or not at all. The connection is
as it was before exactly when every statement that opened something was followed by the one
that closes it. -/

namespace XLStatus.Maintenance

open Checked Statements List

variable {V : Type} {file : RestoreFile V} {schema : Schema} {old : Content V}
  {foreignKeyIssues : Content V → ℕ}

structure Store.Clean (d : Store V) : Prop where
  transaction : d.transaction = none
  attached : d.attached = false
  foreignKeys : d.foreignKeys = true

def restored (file : RestoreFile V) (schema : Schema) (old : Content V) : Content V := fun name =>
  if name ∈ schema.tables.map (·.name) then file.content name else old name

/-- Every statement that opened something and was executed is followed by the execution of the
one that closes it; a failure of SQLite itself can have rolled the transaction back. -/
structure CleanedUp (trace : List (Statement × Answer)) : Prop where
  foreignKeys : Executed .foreignKeysOff trace → Executed .foreignKeysOn trace
  attached : Executed .attach trace → Executed .detach trace
  transaction : Executed .beginImmediate trace →
    Executed .commit trace ∨ Executed .rollback trace ∨ RolledBack trace

/-! ## The content -/

theorem exists_table_of_validate (h : validateRestoreCandidate schema file = .ok schema)
    {table : TableSchema} (htable : table ∈ schema.tables) :
    ∃ t ∈ file.schema, t.name = table.name ∧ t.columns = table.columns := by
  simp only [validateRestoreCandidate, ensureSchemaCompatible, bind_eq_ok, forM_eq_ok] at h
  obtain ⟨-, -, -, -, -, hcompatible, -⟩ := h
  have hc := hcompatible table htable
  simp only [require_eq_ok, ensure_eq_ok, beq_iff_eq] at hc
  obtain ⟨t, hfind, hcolumns⟩ := hc
  exact ⟨t, mem_of_find?_eq_some hfind, by simpa using find?_some hfind, hcolumns⟩

theorem selectColumns_eq_self {columns : List String} {row : List (String × V)}
    (hnodup : columns.Nodup) (h : row.map Prod.fst = columns) : selectColumns columns row = row := by
  subst h
  unfold selectColumns
  induction row with
  | nil => rfl
  | cons entry row ih =>
    obtain ⟨column, value⟩ := entry
    rw [map_cons, nodup_cons] at hnodup
    have hrest : (row.map Prod.fst).filterMap (fun c =>
        (((column, value) :: row).lookup c).map (c, ·)) =
        (row.map Prod.fst).filterMap (fun c => (row.lookup c).map (c, ·)) := by
      refine filterMap_congr fun c hc => ?_
      have hne : (c == column) = false := by
        rw [beq_eq_false_iff_ne]
        exact fun heq => hnodup.1 (heq ▸ hc)
      simp only [lookup_cons, hne]
    rw [map_cons, filterMap_cons, hrest, ih hnodup.2]
    simp

def writeOf (file : RestoreFile V) : Statement → Content V → Content V
  | .deleteFrom table => deleteRows table
  | .insertFrom table => insertRows file table
  | _ => id

def contentAfter (file : RestoreFile V) (old : Content V) (done : List Statement) : Content V :=
  done.foldl (fun content s => writeOf file s content) old

theorem contentAfter_append (as bs : List Statement) :
    contentAfter file old (as ++ bs) = contentAfter file (contentAfter file old as) bs :=
  foldl_append

theorem contentAfter_deletes (names : List String) (name : String) :
    contentAfter file old (names.map .deleteFrom) name = if name ∈ names then [] else old name := by
  induction names generalizing old with
  | nil => rfl
  | cons n names ih =>
    have hrec := @ih (deleteRows n old)
    simp only [contentAfter, map_cons, foldl_cons, writeOf] at hrec ⊢
    rw [hrec]
    by_cases hname : name = n
    · simp [hname, deleteRows]
    · simp [hname, deleteRows]

theorem contentAfter_inserts {tables : List TableSchema} (hnodup : (tables.map (·.name)).Nodup)
    (hrows : ∀ table ∈ tables, (file.content table.name).map (selectColumns table.columns) =
      file.content table.name) (name : String) :
    contentAfter file old (tables.map .insertFrom) name =
      if name ∈ tables.map (·.name) then old name ++ file.content name else old name := by
  induction tables generalizing old with
  | nil => rfl
  | cons table tables ih =>
    rw [map_cons, nodup_cons] at hnodup
    have hrec := @ih (insertRows file table old) hnodup.2
      fun t ht => hrows t (mem_cons_of_mem _ ht)
    simp only [contentAfter, map_cons, foldl_cons, writeOf] at hrec ⊢
    rw [hrec]
    by_cases hname : name = table.name
    · subst hname
      simp [hnodup.1, insertRows, hrows table mem_cons_self]
    · simp [hname, insertRows]

theorem contentAfter_statements (h : validateRestoreCandidate schema file = .ok schema) :
    contentAfter file old (statements schema) = restored file schema old := by
  have hrows : ∀ table ∈ schema.tables,
      (file.content table.name).map (selectColumns table.columns) = file.content table.name := by
    intro table htable
    obtain ⟨t, ht, hname, hcolumns⟩ := exists_table_of_validate h htable
    obtain ⟨hnodup, hwf⟩ := file.wellFormed t ht
    rw [hname, hcolumns] at hwf
    rw [hcolumns] at hnodup
    calc (file.content table.name).map (selectColumns table.columns)
        = (file.content table.name).map id := map_congr_left fun row hrow =>
          selectColumns_eq_self hnodup (hwf row hrow)
      _ = file.content table.name := map_id _
  have hdeletes : schema.tables.reverse.map (fun table => Statement.deleteFrom table.name) =
      (schema.tables.reverse.map (·.name)).map .deleteFrom := by
    rw [map_map]
    rfl
  funext name
  have hcheck : ∀ content : Content V,
      contentAfter file content [.foreignKeyCheck] = content := fun _ => rfl
  have hopen : contentAfter file old
      [.trustedSchemaOff, .foreignKeysOff, .attach, .beginImmediate] = old := rfl
  rw [statements, writes, contentAfter_append, contentAfter_append, contentAfter_append, hopen,
    hcheck, contentAfter_inserts schema.nodup hrows, hdeletes, contentAfter_deletes]
  by_cases hname : name ∈ schema.tables.map (·.name)
  · simp [restored, hname]
  · simp [restored, hname]

/-! ## Up to the commit -/

def storeAfter (file : RestoreFile V) (old : Content V) (done : List Statement) : Store V where
  committed := old
  foreignKeys := .foreignKeysOff ∉ done
  attached := .attach ∈ done
  transaction := if .beginImmediate ∈ done then some (contentAfter file old done) else none

variable {done : List Statement} {σ : RestoreSession V}

theorem perform_storeAfter (h : validateRestoreCandidate schema file = .ok schema)
    {rest : List Statement} {s : Statement} (hsplit : done ++ s :: rest = statements schema) :
    perform file s (storeAfter file old done) = some (storeAfter file old (done ++ [s])) := by
  -- the four statements that open the restore, then those inside the transaction
  rcases done with _ | ⟨s₁, _ | ⟨s₂, _ | ⟨s₃, _ | ⟨s₄, done⟩⟩⟩⟩
  · obtain ⟨rfl, -⟩ := List.cons.inj hsplit
    rfl
  · simp only [statements, cons_append, nil_append, List.cons.injEq] at hsplit
    obtain ⟨rfl, rfl, -⟩ := hsplit
    rfl
  · simp only [statements, cons_append, nil_append, List.cons.injEq] at hsplit
    obtain ⟨rfl, rfl, rfl, -⟩ := hsplit
    rfl
  · simp only [statements, cons_append, nil_append, List.cons.injEq] at hsplit
    obtain ⟨rfl, rfl, rfl, rfl, -⟩ := hsplit
    rfl
  · simp only [statements, cons_append, nil_append, List.cons.injEq] at hsplit
    obtain ⟨rfl, rfl, rfl, rfl, hwrites⟩ := hsplit
    have hs : s ∈ writes schema := by
      rw [← hwrites]
      simp
    have hafter : ∀ s, contentAfter file old (.trustedSchemaOff :: .foreignKeysOff :: .attach ::
        .beginImmediate :: (done ++ [s])) = writeOf file s (contentAfter file old
          (.trustedSchemaOff :: .foreignKeysOff :: .attach :: .beginImmediate :: done)) :=
      fun s => contentAfter_append
        (.trustedSchemaOff :: .foreignKeysOff :: .attach :: .beginImmediate :: done) [s]
    simp only [writes, mem_append, mem_map, mem_reverse, mem_singleton] at hs
    obtain (⟨table, -, rfl⟩ | ⟨table, htable, rfl⟩) | rfl := hs
    · simp [perform, storeAfter, Store.write, hafter, writeOf]
    · have hcolumns : file.hasColumns table = true := by
        obtain ⟨t, ht, hname, hcols⟩ := exists_table_of_validate h htable
        exact any_eq_true.mpr ⟨t, ht, by simp [hname, hcols]⟩
      simp [perform, storeAfter, Store.write, hafter, writeOf, hcolumns]
    · simp [perform, storeAfter, hafter, writeOf]

structure Tracks (file : RestoreFile V) (schema : Schema) (old : Content V)
    (σ : RestoreSession V) : Prop where
  foreignKeys : σ.store.foreignKeys = true ↔ ¬ Executed .foreignKeysOff σ.trace
  attached : σ.store.attached = true ↔ Executed .attach σ.trace
  transaction : σ.store.transaction = none ↔ (Executed .beginImmediate σ.trace →
    Executed .commit σ.trace ∨ Executed .rollback σ.trace ∨ RolledBack σ.trace)
  unchecked : σ.store.transaction ≠ none → σ.store.foreignKeys = false
  noCleanup : ∀ s ∈ [Statement.detach, .foreignKeysOn], ¬ Executed s σ.trace
  content : σ.store.committed = old ∨ σ.store.committed = restored file schema old

theorem notMem_statements :
    ∀ s ∈ [Statement.commit, .rollback, .detach, .foreignKeysOn], s ∉ statements schema := by
  simp [statements, writes]

theorem foreignKeysOff_mem_of_begin_mem (h : done <+: statements schema)
    (hbegin : .beginImmediate ∈ done) : Statement.foreignKeysOff ∈ done := by
  obtain ⟨rest, hrest⟩ := h
  rcases done with _ | ⟨s₁, _ | ⟨s₂, done⟩⟩
  · cases hbegin
  · simp only [statements, cons_append, nil_append, List.cons.injEq] at hrest
    simp [hrest.1] at hbegin
  · simp only [statements, cons_append, nil_append, List.cons.injEq] at hrest
    simp [hrest.2.1]

section Track

variable {σ : RestoreSession V} {done : List Statement} (hdone : done <+: statements schema)
  (hexecuted : ∀ s, Executed s σ.trace ↔ s ∈ done)

include hdone hexecuted

theorem not_executed_of_prefix :
    ∀ s ∈ [Statement.commit, .rollback, .detach, .foreignKeysOn], ¬ Executed s σ.trace :=
  fun s hs h => notMem_statements s hs (hdone.subset ((hexecuted s).mp h))

theorem Tracks.of_storeAfter (hstore : σ.store = storeAfter file old done)
    (hrolled : ¬ RolledBack σ.trace) : Tracks file schema old σ where
  foreignKeys := by simp [hstore, storeAfter, hexecuted]
  attached := by simp [hstore, storeAfter, hexecuted]
  transaction := by
    have hclose : ∀ s ∈ [Statement.commit, .rollback], s ∉ done := fun s hs hmem =>
      notMem_statements s (by simp at hs ⊢; tauto) (hdone.subset hmem)
    simp [hstore, storeAfter, hexecuted, hrolled, hclose]
  unchecked := by
    intro hopen
    have hbegin : Statement.beginImmediate ∈ done := by
      by_contra hbegin
      simp [hstore, storeAfter, hbegin] at hopen
    simp [hstore, storeAfter, foreignKeysOff_mem_of_begin_mem hdone hbegin]
  noCleanup s hs := not_executed_of_prefix hdone hexecuted s
    (mem_cons_of_mem _ (mem_cons_of_mem _ hs))
  content := .inl (by rw [hstore]; rfl)

theorem Tracks.of_rollback
    (hstore : σ.store = { storeAfter file old done with transaction := none })
    (hrolled : RolledBack σ.trace) : Tracks file schema old σ where
  foreignKeys := by simp [hstore, storeAfter, hexecuted]
  attached := by simp [hstore, storeAfter, hexecuted]
  transaction := by simp [hstore, hrolled]
  unchecked := by simp [hstore]
  noCleanup s hs := not_executed_of_prefix hdone hexecuted s
    (mem_cons_of_mem _ (mem_cons_of_mem _ hs))
  content := .inl (by rw [hstore]; rfl)

end Track

def Reached (file : RestoreFile V) (schema : Schema) (old : Content V) (rest : List Statement)
    (σ : RestoreSession V) : Prop :=
  ∃ done, done ++ rest = statements schema ∧ σ.store = storeAfter file old done ∧
    σ.trace = done.map (·, .ok) ∧ σ.dropped = false

theorem reached_step (h : validateRestoreCandidate schema file = .ok schema) (s : Statement)
    (rest : List Statement) (σ : RestoreSession V)
    (hσ : Reached file schema old (s :: rest) σ) :
    if ((sqlite file).execute s σ).1 then
      Reached file schema old rest ((sqlite file).execute s σ).2
    else Tracks file schema old ((sqlite file).execute s σ).2 := by
  obtain ⟨done, hsplit, hstore, htrace, hdropped⟩ := hσ
  obtain ⟨a, answers, hexecute⟩ := execute_of_not_dropped (sqlite file) hdropped s
  have hperform : (sqlite file).perform s σ.store = some (storeAfter file old (done ++ [s])) := by
    rw [hstore]
    exact perform_storeAfter h hsplit
  have hdone : done <+: statements schema := ⟨_, hsplit⟩
  have hdone' : done ++ [s] <+: statements schema := ⟨rest, by simpa using hsplit⟩
  rw [hexecute, hperform, htrace]
  cases a with
  | ok =>
    refine ⟨done ++ [s], by simpa using hsplit, ?_, by simp, rfl⟩
    simp [Server.after, Answer.executed, hperform]
  | error rollsBack =>
    cases rollsBack with
    | false =>
      refine Tracks.of_storeAfter hdone (fun s' => by simp [Answer.executed]) ?_ ?_
      · simpa [Server.after, Answer.executed, Answer.rollsBack] using hstore
      · simp [Answer.rollsBack]
    | true =>
      refine Tracks.of_rollback hdone (fun s' => by simp [Answer.executed]) ?_ ?_
      · simp [Server.after, Answer.executed, Answer.rollsBack, sqlite, hstore]
      · simp [Answer.rollsBack]
  | dropped executed =>
    cases executed with
    | false =>
      refine Tracks.of_storeAfter hdone (fun s' => by simp [Answer.executed]) ?_ ?_
      · simpa [Server.after, Answer.executed, Answer.rollsBack] using hstore
      · simp [Answer.rollsBack]
    | true =>
      refine Tracks.of_storeAfter hdone' (fun s' => by simp [Answer.executed]) ?_ ?_
      · simp [Server.after, Answer.executed, hperform]
      · simp [Answer.rollsBack]

theorem commit_step (h : validateRestoreCandidate schema file = .ok schema)
    (hσ : Reached file schema old [] σ) :
    Tracks file schema old ((sqlite file).execute .commit σ).2 := by
  obtain ⟨done, hsplit, hstore, htrace, hdropped⟩ := hσ
  obtain ⟨a, answers, hexecute⟩ := execute_of_not_dropped (sqlite file) hdropped .commit
  rw [append_nil] at hsplit
  subst hsplit
  have hmem : ∀ s ∈ [Statement.foreignKeysOff, .attach, .beginImmediate], s ∈ statements schema := by
    simp [statements]
  have hopen : storeAfter file old (statements schema) =
      ⟨old, false, true, some (restored file schema old)⟩ := by
    simp [storeAfter, contentAfter_statements h, hmem]
  have hperform : (sqlite file).perform .commit σ.store =
      some ⟨restored file schema old, false, true, none⟩ := by
    rw [hstore, hopen]
    rfl
  rw [hexecute, htrace]
  cases hexecuted : a.executed with
  | true =>
    have hafter : (sqlite file).after .commit a σ.store =
        ⟨restored file schema old, false, true, none⟩ := by
      simp [Server.after, hexecuted, hperform]
    rw [hafter]
    refine ⟨?_, ?_, ?_, ?_, ?_, .inr rfl⟩
    · simp [hmem]
    · simp [hmem]
    · simp [hexecuted]
    · simp
    · intro s hs
      have hs' : s ∉ statements schema :=
        notMem_statements s (mem_cons_of_mem _ (mem_cons_of_mem _ hs))
      have hne : s ≠ .commit := by
        rintro rfl
        simp at hs
      simp [hs', hne]
  | false =>
    cases hrolled : a.rollsBack with
    | false =>
      refine Tracks.of_storeAfter (prefix_refl _) (fun s => by simp [hexecuted]) ?_ ?_
      · simpa [Server.after, hexecuted, hrolled] using hstore
      · simp [hrolled]
    | true =>
      refine Tracks.of_rollback (prefix_refl _) (fun s => by simp [hexecuted]) ?_ ?_
      · simp [Server.after, hexecuted, hrolled, sqlite, hstore]
      · simp [hrolled]

theorem restoreBody_tracks (h : validateRestoreCandidate schema file = .ok schema)
    (foreignKeyIssues : Content V → ℕ) (hσ : Reached file schema old (statements schema) σ) :
    Tracks file schema old (restoreBody file foreignKeyIssues schema σ).2 := by
  have hall := executeAll_induct (reached_step h) hσ
  unfold restoreBody
  cases hrun : (sqlite file).executeAll (statements schema) σ with
  | mk ok σ' =>
    rw [hrun] at hall
    cases ok with
    | false => exact hall
    | true =>
      have hreached : Reached file schema old [] σ' := hall
      dsimp only
      split
      · obtain ⟨done, hsplit, hstore, htrace, -⟩ := hreached
        have hdone : done <+: statements schema := ⟨_, hsplit⟩
        refine Tracks.of_storeAfter hdone (fun s => ?_) hstore ?_
        · simp [htrace]
        · simp [htrace]
      · have htracks := commit_step h hreached
        cases hcommit : (sqlite file).execute .commit σ' with
        | mk ok =>
          rw [hcommit] at htracks
          cases ok with
          | false => exact htracks
          | true => exact htracks

/-! ## Cleaning up -/

theorem Tracks.rollback (h : Tracks file schema old σ) :
    Tracks file schema old ((sqlite file).execute .rollback σ).2 := by
  cases hdropped : σ.dropped with
  | true => rwa [execute_of_dropped (sqlite file) hdropped]
  | false =>
    obtain ⟨a, htrace, heffect⟩ := execute_effect (sqlite file) hdropped .rollback
    generalize (sqlite file).execute .rollback σ = r at htrace heffect ⊢
    have hperform : ((sqlite file).perform .rollback σ.store).getD σ.store =
        { σ.store with transaction := none } := by
      obtain ⟨committed, foreignKeys, attached, transaction⟩ := σ.store
      cases transaction with
      | none => rfl
      | some => rfl
    have hstore : (r.2.store = { σ.store with transaction := none } ∧
          (a.executed = true ∨ a.rollsBack = true)) ∨
        (r.2.store = σ.store ∧ a.executed = false ∧ a.rollsBack = false) := by
      obtain ⟨hx, -, hs⟩ | ⟨-, hr, hs⟩ | ⟨hx, hr, hs⟩ := heffect
      · exact .inl ⟨hs.trans hperform, .inl hx⟩
      · exact .inl ⟨hs, .inr hr⟩
      · exact .inr ⟨hs, hx, hr⟩
    have hcleanup : ∀ s ∈ [Statement.detach, .foreignKeysOn], ¬ Executed s r.2.trace := by
      intro s hs
      have hne : s ≠ .rollback := by
        rintro rfl
        simp at hs
      simp [htrace, h.noCleanup s hs, hne]
    obtain ⟨hstore, hclosed⟩ | ⟨hstore, hexecuted, hrolled⟩ := hstore
    · refine ⟨?_, ?_, ?_, by simp [hstore], hcleanup, by simpa [hstore] using h.content⟩
      · simpa [hstore, htrace] using h.foreignKeys
      · simpa [hstore, htrace] using h.attached
      · have hend : Executed .rollback r.2.trace ∨ RolledBack r.2.trace := by
          simp only [htrace, executed_append, executed_singleton, rolledBack_append,
            rolledBack_singleton, true_and]
          tauto
        simp only [hstore, true_iff]
        exact fun _ => .inr hend
    · refine ⟨?_, ?_, ?_, by simpa [hstore] using h.unchecked, hcleanup,
        by simpa [hstore] using h.content⟩
      · simpa [hstore, htrace] using h.foreignKeys
      · simpa [hstore, htrace] using h.attached
      · simpa [hstore, htrace, hexecuted, hrolled] using h.transaction

structure Detached (file : RestoreFile V) (schema : Schema) (old : Content V)
    (σ : RestoreSession V) : Prop where
  foreignKeys : σ.store.foreignKeys = true ↔ ¬ Executed .foreignKeysOff σ.trace
  attached : σ.store.transaction = none →
    (σ.store.attached = false ↔ (Executed .attach σ.trace → Executed .detach σ.trace))
  transaction : σ.store.transaction = none ↔ (Executed .beginImmediate σ.trace →
    Executed .commit σ.trace ∨ Executed .rollback σ.trace ∨ RolledBack σ.trace)
  unchecked : σ.store.transaction ≠ none → σ.store.foreignKeys = false
  noPragma : ¬ Executed .foreignKeysOn σ.trace
  content : σ.store.committed = old ∨ σ.store.committed = restored file schema old

theorem Tracks.detach (h : Tracks file schema old σ) :
    Detached file schema old ((sqlite file).execute .detach σ).2 := by
  have hattach : σ.store.attached = false ↔ ¬ Executed .attach σ.trace := by
    rw [← h.attached, Bool.not_eq_true]
  have hdetach : ¬ Executed .detach σ.trace := h.noCleanup .detach (by simp)
  have hpragma : ¬ Executed .foreignKeysOn σ.trace := h.noCleanup .foreignKeysOn (by simp)
  cases hdropped : σ.dropped with
  | true =>
    rw [execute_of_dropped (sqlite file) hdropped]
    exact ⟨h.foreignKeys, fun _ => by simp [hattach, hdetach], h.transaction, h.unchecked, hpragma,
      h.content⟩
  | false =>
    obtain ⟨a, htrace, heffect⟩ := execute_effect (sqlite file) hdropped .detach
    generalize (sqlite file).execute .detach σ = r at htrace heffect ⊢
    obtain ⟨hx, hr, hs⟩ | ⟨hx, hr, hs⟩ | ⟨hx, hr, hs⟩ := heffect
    · -- inside a transaction DETACH is refused
      cases hopen : σ.store.transaction with
      | some =>
        have hstore : r.2.store = σ.store := by
          rw [hs]
          simp [sqlite, perform, hopen]
        refine ⟨?_, ?_, ?_, by simpa [hstore] using h.unchecked, by simp [htrace, hpragma],
          by simpa [hstore] using h.content⟩
        · simpa [hstore, htrace] using h.foreignKeys
        · simp [hstore, hopen]
        · simpa [hstore, htrace, hr] using h.transaction
      | none =>
        have hstore : r.2.store = { σ.store with attached := false } := by
          cases hattached : σ.store.attached with
          | true => simp [hs, sqlite, perform, hopen, hattached]
          | false =>
            have hrefused : (sqlite file).perform .detach σ.store = none := by
              simp [sqlite, perform, hattached]
            rw [hs, hrefused, Option.getD_none, ← hattached]
        refine ⟨?_, ?_, ?_, by simp [hstore, hopen], by simp [htrace, hpragma],
          by simpa [hstore] using h.content⟩
        · simpa [hstore, htrace] using h.foreignKeys
        · simp [hstore, htrace, hx]
        · simpa [hstore, htrace, hr] using h.transaction
    · have hstore : r.2.store = { σ.store with transaction := none } := hs
      refine ⟨?_, ?_, ?_, by simp [hstore], by simp [htrace, hpragma],
        by simpa [hstore] using h.content⟩
      · simpa [hstore, htrace] using h.foreignKeys
      · simp [hstore, htrace, hx, hattach, hdetach]
      · simp [hstore, htrace, hr]
    · refine ⟨?_, ?_, ?_, by simpa [hs] using h.unchecked, by simp [htrace, hpragma],
        by simpa [hs] using h.content⟩
      · simpa [hs, htrace] using h.foreignKeys
      · simp [hs, htrace, hx, hattach, hdetach]
      · simpa [hs, htrace, hr] using h.transaction

theorem Detached.clean_iff (h : Detached file schema old σ) :
    σ.store.Clean ↔ CleanedUp σ.trace := by
  constructor
  · rintro ⟨htransaction, hattached, hforeignKeys⟩
    exact ⟨fun hoff => absurd hoff (h.foreignKeys.mp hforeignKeys),
      (h.attached htransaction).mp hattached, h.transaction.mp htransaction⟩
  · rintro ⟨hforeignKeys, hattached, htransaction⟩
    have hclosed := h.transaction.mpr htransaction
    exact ⟨hclosed, (h.attached hclosed).mpr hattached,
      h.foreignKeys.mpr fun hoff => h.noPragma (hforeignKeys hoff)⟩

theorem Detached.foreignKeysOn (h : Detached file schema old σ) :
    (((sqlite file).execute .foreignKeysOn σ).2.store.Clean ↔
      CleanedUp ((sqlite file).execute .foreignKeysOn σ).2.trace) ∧
    (((sqlite file).execute .foreignKeysOn σ).2.store.committed = old ∨
      ((sqlite file).execute .foreignKeysOn σ).2.store.committed = restored file schema old) := by
  cases hdropped : σ.dropped with
  | true =>
    rw [execute_of_dropped (sqlite file) hdropped]
    exact ⟨h.clean_iff, h.content⟩
  | false =>
    obtain ⟨a, htrace, heffect⟩ := execute_effect (sqlite file) hdropped .foreignKeysOn
    generalize (sqlite file).execute .foreignKeysOn σ = r at htrace heffect ⊢
    obtain ⟨hx, hr, hs⟩ | ⟨hx, hr, hs⟩ | ⟨hx, hr, hs⟩ := heffect
    · have hstore : r.2.store = σ.store.setForeignKeys true := hs
      cases hopen : σ.store.transaction with
      | some =>
        -- the pragma does nothing, and nothing ends the transaction any more
        rw [Store.setForeignKeys, hopen, Option.isSome_some, if_pos rfl] at hstore
        refine ⟨⟨fun hclean => ?_, fun hclean => ?_⟩, by simpa [hstore] using h.content⟩
        · have hnone := hclean.transaction
          rw [hstore, hopen] at hnone
          cases hnone
        · have hnone : σ.store.transaction = none :=
            h.transaction.mpr (by simpa [htrace, hr] using hclean.transaction)
          rw [hopen] at hnone
          cases hnone
      | none =>
        rw [Store.setForeignKeys, hopen, Option.isSome_none, if_neg Bool.false_ne_true] at hstore
        refine ⟨⟨fun hclean => ?_, fun hclean => ?_⟩, by simpa [hstore] using h.content⟩
        · refine ⟨fun _ => by simp [htrace, hx], ?_, ?_⟩
          · have hattached := (h.attached hopen).mp (by simpa [hstore] using hclean.attached)
            simpa [htrace] using hattached
          · simpa [htrace, hr] using h.transaction.mp hopen
        · refine ⟨by simp [hstore], ?_, by simp [hstore]⟩
          have hattached := (h.attached hopen).mpr (by simpa [htrace] using hclean.attached)
          simpa [hstore] using hattached
    · have hstore : r.2.store = { σ.store with transaction := none } := hs
      cases hopen : σ.store.transaction with
      | some =>
        have hoff : σ.store.foreignKeys = false := h.unchecked (by simp [hopen])
        refine ⟨⟨fun hclean => ?_, fun hclean => ?_⟩, by simpa [hstore] using h.content⟩
        · have hon := hclean.foreignKeys
          rw [hstore, hoff] at hon
          cases hon
        · have hexecuted : Executed .foreignKeysOff σ.trace := by
            by_contra hnot
            rw [h.foreignKeys.mpr hnot] at hoff
            cases hoff
          have hon := hclean.foreignKeys (by simp [htrace, hexecuted])
          simp [htrace, hx, h.noPragma] at hon
      | none =>
        have hdetached : Detached file schema old r.2 :=
          ⟨by simpa [hstore, htrace] using h.foreignKeys,
            fun _ => by simpa [hstore, htrace] using h.attached hopen,
            by simp [hstore, htrace, hr], by simp [hstore],
            by simp [htrace, hx, h.noPragma], by simpa [hstore] using h.content⟩
        exact ⟨hdetached.clean_iff, hdetached.content⟩
    · have hdetached : Detached file schema old r.2 :=
        ⟨by simpa [hs, htrace] using h.foreignKeys, by simpa [hs, htrace] using h.attached,
          by simpa [hs, htrace, hr] using h.transaction, by simpa [hs] using h.unchecked,
          by simp [htrace, hx, h.noPragma], by simpa [hs] using h.content⟩
      exact ⟨hdetached.clean_iff, hdetached.content⟩

def usersSchema : Schema := ⟨[⟨"users", ["id"]⟩], by decide⟩

def usersBackup : RestoreFile String where
  integrityCheck := ["ok"]
  objects := [("table", "users", "CREATE TABLE users (id TEXT PRIMARY KEY)")]
  schema := usersSchema.tables
  content name := if name = "users" then [[("id", "restored")]] else []
  wellFormed := by simp [usersSchema]

def usersStore : Store String where
  committed name := if name = "users" then [[("id", "live")]] else []
  foreignKeys := true
  attached := false
  transaction := none

end XLStatus.Maintenance
