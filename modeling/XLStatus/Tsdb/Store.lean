import XLStatus.Alerts.Window
import XLStatus.Tsdb.StoreDefs

/-! What is kept of each series, a batch of samples against the samples one by one, and the
answers of the store in the states that its operations reach. -/

namespace XLStatus.Tsdb

open Shared List AList
open Auth (DateTime seconds timestamp)
open Alerts (Value)
open SortedMap (retained insertEntry retained_retained retained_insertEntry_retained)
open Transition (run run_induct)

variable {F : Type}

/-! ## What is kept of a series -/

theorem entries_compactSeries (entries : Entries F) (cutoff : DateTime) :
    (compactSeries entries cutoff).1.entries =
      retained cutoff maxSamplesPerAgent entries.entries := by
  unfold compactSeries
  dsimp only
  change _ = (entries.splitOff cutoff).entries.take maxSamplesPerAgent
  split_ifs with h
  · rw [SortedMap.entries_popFirst_iterate, Nat.sub_sub_self (le_of_lt h)]
  · exact (take_of_length_le (not_lt.mp h)).symm

def kept (cutoff : DateTime) (entries : Option (Entries F)) : Option (Entries F) :=
  (entries.map fun m => (compactSeries m cutoff).1).filter fun m => !m.isEmpty

def entriesOf (entries : Option (Entries F)) : List (DateTime × Value F) :=
  (entries.map (·.entries)).getD []

theorem entriesOf_kept (cutoff : DateTime) (entries : Option (Entries F)) :
    entriesOf (kept cutoff entries) = retained cutoff maxSamplesPerAgent (entriesOf entries) := by
  cases entries with
  | none => exact (SortedMap.retained_nil cutoff _).symm
  | some m =>
    change entriesOf (Option.filter _ (some (compactSeries m cutoff).1)) = _
    rw [show entriesOf (some m) = m.entries from rfl, ← entries_compactSeries, Option.filter_some]
    cases h : (compactSeries m cutoff).1.isEmpty with
    | false => rfl
    | true => exact (List.isEmpty_iff.mp h).symm

variable {cutoff : DateTime}

theorem ne_nil_of_kept {entries : Option (Entries F)} {m : Entries F}
    (h : kept cutoff entries = some m) : m.entries ≠ [] ∧ m.len ≤ maxSamplesPerAgent := by
  have hentries := entriesOf_kept cutoff entries
  rw [h] at hentries
  constructor
  · have hne := (Option.filter_eq_some_iff.mp h).2
    intro hnil
    simp [SortedMap.isEmpty, hnil] at hne
  · change m.entries.length ≤ _
    rw [show m.entries = entriesOf (some m) from rfl, hentries]
    exact length_take_le _ _

theorem kept_congr {x y : Option (Entries F)}
    (h : entriesOf (kept cutoff x) = entriesOf (kept cutoff y)) :
    kept cutoff x = kept cutoff y := by
  cases hx : kept cutoff x with
  | none =>
    cases hy : kept cutoff y with
    | none => rfl
    | some =>
      rw [hx, hy] at h
      exact absurd h.symm (ne_nil_of_kept hy).1
  | some =>
    cases hy : kept cutoff y with
    | none =>
      rw [hx, hy] at h
      exact absurd h (ne_nil_of_kept hx).1
    | some =>
      rw [hx, hy] at h
      exact congrArg some (SortedMap.ext_entries h)

theorem kept_kept (cutoff : DateTime) (x : Option (Entries F)) :
    kept cutoff (kept cutoff x) = kept cutoff x := by
  apply kept_congr
  rw [entriesOf_kept, entriesOf_kept, retained_retained _ _ le_rfl le_rfl]

theorem lookup_compactAgent (series : HashMap AgentId (Entries F)) (a b : AgentId)
    (cutoff : DateTime) :
    (compactAgent series a cutoff).1.lookup b =
      if b = a then kept cutoff (series.lookup a) else series.lookup b := by
  unfold compactAgent
  cases h : series.lookup a with
  | none =>
    change series.lookup b = if b = a then none else _
    split_ifs with hb
    · exact hb ▸ h
    · rfl
  | some m =>
    unfold kept
    rw [Option.map_some, Option.filter_some]
    cases hempty : (compactSeries m cutoff).1.isEmpty with
    | false =>
      dsimp only
      rw [hempty]
      exact lookup_insert_eq _ _ _ _
    | true =>
      dsimp only
      rw [hempty]
      exact lookup_erase_eq _ _ _

theorem lookup_compactAll (state : InMemoryState F) (cutoff : DateTime) (b : AgentId) :
    (compactAll state cutoff).1.series.lookup b = kept cutoff (state.series.lookup b) := by
  change AList.lookup b (retain _ _) = _
  rw [lookup_retain, lookup_mapVal]
  rfl

/-! ## Samples one by one and in a batch -/

def put (entries : Option (Entries F)) (sample : MetricSample F) : Option (Entries F) :=
  some ((entries.getD .empty).insert sample.sampleAt sample.fieldsJson)

theorem entriesOf_put (x : Option (Entries F)) (sample : MetricSample F) :
    entriesOf (put x sample) = insertEntry sample.sampleAt sample.fieldsJson (entriesOf x) := by
  cases x <;> rfl

theorem kept_put_kept (cutoff : DateTime) (x : Option (Entries F)) (sample : MetricSample F) :
    kept cutoff (put (kept cutoff x) sample) = kept cutoff (put x sample) := by
  apply kept_congr
  rw [entriesOf_kept, entriesOf_kept, entriesOf_put, entriesOf_put, entriesOf_kept,
    retained_insertEntry_retained]

theorem lookup_insertSample (series : HashMap AgentId (Entries F)) (sample : MetricSample F)
    (b : AgentId) :
    (insertSample series sample).lookup b =
      if b = sample.agentId then put (series.lookup b) sample else series.lookup b := by
  unfold insertSample put
  rw [lookup_insert_eq]
  split_ifs with h
  · rw [h]
  · rfl

def putAll (b : AgentId) (f : Option (Entries F) → Option (Entries F))
    (samples : List (MetricSample F)) (x : Option (Entries F)) : Option (Entries F) :=
  samples.foldl (fun x sample => if b = sample.agentId then f (put x sample) else x) x

theorem lookup_foldl_insertSample (b : AgentId) (samples : List (MetricSample F))
    (series : HashMap AgentId (Entries F)) :
    (samples.foldl insertSample series).lookup b = putAll b id samples (series.lookup b) := by
  induction samples generalizing series with
  | nil => rfl
  | cons sample samples ih =>
    rw [foldl_cons, ih, lookup_insertSample]
    rfl

theorem lookup_foldl_compactAgent (cutoff : DateTime) (b : AgentId) (agents : List AgentId)
    (series : HashMap AgentId (Entries F)) :
    (agents.foldl (fun series a => (compactAgent series a cutoff).1) series).lookup b =
      if b ∈ agents then kept cutoff (series.lookup b) else series.lookup b := by
  induction agents generalizing series with
  | nil => rfl
  | cons a agents ih =>
    rw [foldl_cons, ih, lookup_compactAgent]
    by_cases hb : b = a
    · subst hb
      rw [if_pos rfl, kept_kept, ite_self, if_pos mem_cons_self]
    · rw [if_neg hb]
      simp only [mem_cons, hb, false_or]

theorem putAll_kept (cutoff : DateTime) (b : AgentId) (samples : List (MetricSample F))
    (x : Option (Entries F)) :
    putAll b (kept cutoff) samples x =
      if b ∈ samples.map (·.agentId) then kept cutoff (putAll b id samples x)
      else putAll b id samples x := by
  induction samples using reverseRecOn with
  | nil => rfl
  | append_singleton samples sample ih =>
    have hsnoc : ∀ f, putAll b f (samples ++ [sample]) x =
        if b = sample.agentId then f (put (putAll b f samples x) sample)
        else putAll b f samples x := by
      intro f
      exact foldl_append ..
    rw [hsnoc, hsnoc, ih]
    by_cases hb : b = sample.agentId
    · have hmem : b ∈ (samples ++ [sample]).map (·.agentId) := by simp [hb]
      rw [if_pos hb, if_pos hb, if_pos hmem]
      split_ifs
      · exact kept_put_kept cutoff _ sample
      · rfl
    · have hmem : b ∈ (samples ++ [sample]).map (·.agentId) ↔ b ∈ samples.map (·.agentId) := by
        simp [hb]
      rw [if_neg hb, if_neg hb]
      simp only [hmem]

structure Same (s t : InMemoryState F) : Prop where
  retention : s.retention = t.retention
  series : ∀ b, s.series.lookup b = t.series.lookup b

section Batch

variable (rt : Runtime F) (now : DateTime)

def written (state : InMemoryState F) (sample : MetricSample F) : InMemoryState F :=
  { state with
    series := (compactAgent (insertSample state.series sample) sample.agentId
      (cutoffForRetention now state.retention)).1 }

theorem write_of_valid {sample : MetricSample F} (h : validateSample rt sample now = .ok ())
    (state : InMemoryState F) : write rt now sample state = (.ok (), written now state sample) := by
  unfold write
  rw [h]
  rfl

theorem lookup_written (state : InMemoryState F) (sample : MetricSample F) (b : AgentId) :
    (written now state sample).series.lookup b =
      if b = sample.agentId then
        kept (cutoffForRetention now state.retention) (put (state.series.lookup b) sample)
      else state.series.lookup b := by
  unfold written
  rw [lookup_compactAgent, lookup_insertSample, lookup_insertSample, if_pos rfl]
  split_ifs with h
  · rw [h]
  · rfl

variable {samples : List (MetricSample F)}

theorem writeEach_of_valid (h : ∀ sample ∈ samples, validateSample rt sample now = .ok ())
    (state : InMemoryState F) :
    writeEach rt now samples state = (.ok (), samples.foldl (written now) state) := by
  induction samples generalizing state with
  | nil => rfl
  | cons sample samples ih =>
    unfold writeEach
    rw [write_of_valid rt now (h sample mem_cons_self)]
    exact ih (fun s hs => h s (mem_cons_of_mem sample hs)) _

theorem retention_foldl_written (samples : List (MetricSample F)) (state : InMemoryState F) :
    (samples.foldl (written now) state).retention = state.retention := by
  induction samples generalizing state with
  | nil => rfl
  | cons sample samples ih => exact ih _

theorem lookup_foldl_written (b : AgentId) (samples : List (MetricSample F))
    (state : InMemoryState F) :
    (samples.foldl (written now) state).series.lookup b =
      putAll b (kept (cutoffForRetention now state.retention)) samples
        (state.series.lookup b) := by
  induction samples generalizing state with
  | nil => rfl
  | cons sample samples ih =>
    rw [foldl_cons, ih, lookup_written]
    rfl

def batched (state : InMemoryState F) (samples : List (MetricSample F)) : InMemoryState F :=
  { state with
    series := (samples.map (·.agentId)).dedup.foldl
      (fun series a => (compactAgent series a (cutoffForRetention now state.retention)).1)
      (samples.foldl insertSample state.series) }

theorem forM_validateSample :
    (samples.forM fun sample => validateSample rt sample now) = .ok () ↔
      ∀ sample ∈ samples, validateSample rt sample now = .ok () :=
  Checked.forM_eq_ok

theorem writeBatch_of_valid (hlen : samples.length ≤ maxBatchSamples)
    (h : ∀ sample ∈ samples, validateSample rt sample now = .ok ()) (state : InMemoryState F) :
    writeBatch rt now samples state = (.ok samples.length, batched now state samples) := by
  unfold writeBatch
  rw [if_neg (not_lt.mpr hlen), (forM_validateSample rt now).mpr h]
  rfl

theorem lookup_batched (b : AgentId) (samples : List (MetricSample F)) (state : InMemoryState F) :
    (batched now state samples).series.lookup b =
      putAll b (kept (cutoffForRetention now state.retention)) samples
        (state.series.lookup b) := by
  unfold batched
  rw [lookup_foldl_compactAgent, lookup_foldl_insertSample, putAll_kept]
  simp only [mem_dedup]

theorem writeBatch_of_invalid (h : ∃ sample ∈ samples, validateSample rt sample now ≠ .ok ())
    (state : InMemoryState F) :
    ∃ e, writeBatch rt now samples state = (.error e, state) := by
  unfold writeBatch
  split_ifs
  · exact ⟨_, rfl⟩
  · cases hall : samples.forM fun sample => validateSample rt sample now with
    | error e => exact ⟨e, rfl⟩
    | ok =>
      obtain ⟨sample, hmem, hinvalid⟩ := h
      exact absurd ((forM_validateSample rt now).mp hall sample hmem) hinvalid

/-- A batch within the limit is its samples one by one, or fails without a trace. -/
theorem writeBatch_is_fold (state : InMemoryState F) (samples : List (MetricSample F)) :
    ((∀ sample ∈ samples, validateSample rt sample now = .ok ()) →
      samples.length ≤ maxBatchSamples →
      (writeEach rt now samples state).1 = .ok () ∧
        (writeBatch rt now samples state).1 = .ok samples.length ∧
        Same (writeBatch rt now samples state).2 (writeEach rt now samples state).2) ∧
    ((∃ sample ∈ samples, validateSample rt sample now ≠ .ok ()) →
      ∃ e, writeBatch rt now samples state = (.error e, state)) := by
  refine ⟨?_, fun h => writeBatch_of_invalid rt now h state⟩
  intro h hlen
  rw [writeEach_of_valid rt now h, writeBatch_of_valid rt now hlen h]
  refine ⟨rfl, rfl, (retention_foldl_written now samples state).symm, ?_⟩
  intro b
  rw [lookup_batched, lookup_foldl_written]

end Batch

/-! ## The answers of the store -/

inductive Operation (F : Type) where
  | write (sample : MetricSample F)
  | writeBatch (samples : List (MetricSample F))
  | setRetention (retention : ℤ)
  | clampRetention (retention : ℤ)
  | compact

section Reads

variable (rt : Runtime F)

def step (state : InMemoryState F) (op : DateTime × Operation F) : InMemoryState F :=
  match op with
  | (now, .write sample) => (write rt now sample state).2
  | (now, .writeBatch samples) => (writeBatch rt now samples state).2
  | (now, .setRetention retention) => (setRetention now retention state).2
  | (now, .clampRetention retention) => (setRetentionOf now retention state).1
  | (now, .compact) => (compact now state).1

def WithinCap (state : InMemoryState F) : Prop :=
  ∀ a m, state.series.lookup a = some m → m.entries ≠ [] ∧ m.len ≤ maxSamplesPerAgent

theorem WithinCap.of_lookup {state next : InMemoryState F} (h : WithinCap state)
    (hnext : ∀ a, next.series.lookup a = state.series.lookup a ∨
      ∃ cutoff x, next.series.lookup a = kept cutoff x) : WithinCap next := by
  intro a m hm
  rcases hnext a with hsame | ⟨cutoff, x, hkept⟩
  · exact h a m (hsame ▸ hm)
  · exact ne_nil_of_kept (hkept ▸ hm)

theorem putAll_kept_cases (cutoff : DateTime) (b : AgentId) (samples : List (MetricSample F))
    (x : Option (Entries F)) :
    putAll b (kept cutoff) samples x = x ∨
      ∃ y, putAll b (kept cutoff) samples x = kept cutoff y := by
  rw [putAll_kept]
  split_ifs with h
  · exact .inr ⟨_, rfl⟩
  · refine .inl ?_
    induction samples with
    | nil => rfl
    | cons sample samples ih =>
      rw [map_cons, mem_cons, not_or] at h
      change putAll b id samples (if b = sample.agentId then _ else x) = x
      rw [if_neg h.1]
      exact ih h.2

theorem step_lookup (state : InMemoryState F) (op : DateTime × Operation F) (a : AgentId) :
    (step rt state op).series.lookup a = state.series.lookup a ∨
      ∃ cutoff x, (step rt state op).series.lookup a = kept cutoff x := by
  obtain ⟨now, op⟩ := op
  cases op with
  | write sample =>
    cases h : validateSample rt sample now with
    | error =>
      refine .inl ?_
      change (write rt now sample state).2.series.lookup a = _
      unfold write
      rw [h]
    | ok =>
      have hstep : step rt state (now, .write sample) = written now state sample :=
        congrArg Prod.snd (write_of_valid rt now h state)
      rw [hstep, lookup_written]
      split_ifs
      · exact .inr ⟨_, _, rfl⟩
      · exact .inl rfl
  | writeBatch samples =>
    by_cases hlen : samples.length ≤ maxBatchSamples
    · by_cases h : ∀ sample ∈ samples, validateSample rt sample now = .ok ()
      · have hstep : step rt state (now, .writeBatch samples) = batched now state samples :=
          congrArg Prod.snd (writeBatch_of_valid rt now hlen h state)
        rw [hstep, lookup_batched]
        rcases putAll_kept_cases (cutoffForRetention now state.retention) a samples
          (state.series.lookup a) with hx | ⟨y, hy⟩
        · exact .inl hx
        · exact .inr ⟨_, y, hy⟩
      · push Not at h
        obtain ⟨e, he⟩ := writeBatch_of_invalid rt now h state
        exact .inl (congrArg (fun r => r.2.series.lookup a) he)
    · refine .inl ?_
      change (writeBatch rt now samples state).2.series.lookup a = _
      unfold writeBatch
      rw [if_pos (not_le.mp hlen)]
  | setRetention retention =>
    change (setRetention now retention state).2.series.lookup a = _ ∨
      ∃ cutoff x, (setRetention now retention state).2.series.lookup a = kept cutoff x
    unfold setRetention
    split_ifs
    · exact .inl rfl
    · exact .inl rfl
    · exact .inr ⟨_, _, lookup_compactAll _ _ a⟩
  | clampRetention => exact .inr ⟨_, _, lookup_compactAll _ _ a⟩
  | compact => exact .inr ⟨_, _, lookup_compactAll _ _ a⟩

theorem withinCap_run (retention : ℤ) (ops : List (DateTime × Operation F)) :
    WithinCap (run (step rt) (withRetention retention) ops) := by
  refine run_induct (fun state op h => h.of_lookup (step_lookup rt state op)) ?_ ops
  intro a m hm
  exact absurd hm (by simp [withRetention])

end Reads

section Answers

variable (now : DateTime) (state : InMemoryState F)

def unbounded (a : AgentId) : List (MetricSample F) :=
  match state.series.lookup a with
  | some entries => samplesOf a (entries.range (cutoffForRetention now state.retention))
  | none => []

variable {a : AgentId} {t : DateTime}

theorem mem_unbounded {sample : MetricSample F} :
    sample ∈ unbounded now state a ↔ sample.agentId = a ∧
      (sample.sampleAt, sample.fieldsJson) ∈ entriesOf (state.series.lookup a) ∧
      cutoffForRetention now state.retention ≤ sample.sampleAt := by
  unfold unbounded samplesOf
  cases state.series.lookup a with
  | none => simp [entriesOf]
  | some =>
    rw [mem_map]
    constructor
    · rintro ⟨e, he, rfl⟩
      exact ⟨rfl, SortedMap.mem_range.mp he⟩
    · rintro ⟨rfl, he⟩
      exact ⟨_, SortedMap.mem_range.mpr he, rfl⟩

theorem sorted_unbounded (a : AgentId) :
    (unbounded now state a).Pairwise fun s t => s.sampleAt < t.sampleAt := by
  unfold unbounded
  cases state.series.lookup a with
  | none => exact List.Pairwise.nil
  | some m => exact pairwise_map.mpr (m.sorted_range _)

theorem query_eq (a : AgentId) (range : QueryRange) :
    (query now a range state).samples = (unbounded now state a).filter fun s =>
      decide (cutoffForRetention now range.toChronoDuration ≤ s.sampleAt) := by
  unfold query unbounded
  cases state.series.lookup a with
  | none => rfl
  | some m =>
    change samplesOf a (m.range (max _ _)) = _
    rw [SortedMap.range_max]
    unfold samplesOf
    rw [filter_map]
    rfl

theorem latest_eq (a : AgentId) : latest now a state = (unbounded now state a).getLast? := by
  unfold latest unbounded
  cases state.series.lookup a with
  | none => rfl
  | some =>
    unfold samplesOf
    rw [getLast?_map, SortedMap.getLast?_range]
    rfl

theorem mem_listAgents :
    a ∈ listAgents now state ↔ unbounded now state a ≠ [] := by
  have hlast : ∀ m : Entries F, (m.last.any fun e =>
      decide (cutoffForRetention now state.retention ≤ e.1)) = true ↔
        samplesOf a (m.range (cutoffForRetention now state.retention)) ≠ [] := by
    intro m
    unfold samplesOf
    rw [ne_eq, map_eq_nil_iff, ← getLast?_eq_none_iff, SortedMap.getLast?_range]
    cases m.last <;> simp
  unfold listAgents unbounded
  rw [mem_map]
  constructor
  · rintro ⟨⟨b, m⟩, hmem, rfl⟩
    obtain ⟨hentry, hany⟩ := mem_filter.mp hmem
    rw [mem_lookup_iff.mpr hentry]
    exact (hlast m).mp hany
  · intro h
    cases hm : state.series.lookup a with
    | none => simp [hm] at h
    | some m =>
      rw [hm] at h
      exact ⟨⟨a, m⟩, mem_filter.mpr ⟨mem_lookup_iff.mp hm, (hlast m).mpr h⟩, rfl⟩

theorem mem_exportSamples {sample : MetricSample F} :
    sample ∈ exportSamples now state ↔ sample ∈ unbounded now state sample.agentId := by
  unfold exportSamples
  rw [mem_mergeSort, mem_flatMap]
  unfold unbounded
  constructor
  · rintro ⟨⟨a, m⟩, hentry, hmem⟩
    obtain ⟨e, he, rfl⟩ := mem_map.mp hmem
    rw [show state.series.lookup a = some m from mem_lookup_iff.mpr hentry]
    exact hmem
  · intro h
    cases hm : state.series.lookup sample.agentId with
    | none => simp [hm] at h
    | some m =>
      rw [hm] at h
      exact ⟨⟨_, m⟩, mem_lookup_iff.mp hm, h⟩

theorem nodup_exportSamples : (exportSamples now state).Nodup := by
  unfold exportSamples
  rw [(mergeSort_perm _ _).nodup_iff, nodup_flatMap]
  constructor
  · intro e _
    refine pairwise_map.mpr ((e.2.sorted_range _).imp ?_)
    intro x y hlt heq
    exact absurd (congrArg MetricSample.sampleAt heq) (ne_of_lt hlt)
  · refine (nodupKeys_iff_pairwise.mp state.series.nodupKeys).imp ?_
    intro e e' hne sample hmem hmem'
    obtain ⟨x, _, rfl⟩ := mem_map.mp hmem
    obtain ⟨y, _, heq⟩ := mem_map.mp hmem'
    exact hne (congrArg MetricSample.agentId heq).symm

theorem exportOrder_total (s t : MetricSample F) : (exportOrder s t || exportOrder t s) = true := by
  unfold exportOrder
  by_cases h : s.agentId = t.agentId
  · simpa [h] using Int.le_total s.sampleAt t.sampleAt
  · simpa [h, Ne.symm h] using String.le_total s.agentId.text t.agentId.text

theorem exportOrder_trans (s t u : MetricSample F) (hst : exportOrder s t = true)
    (htu : exportOrder t u = true) : exportOrder s u = true := by
  unfold exportOrder at *
  by_cases h : s.agentId = t.agentId
  · rw [if_pos h, decide_eq_true_iff] at hst
    by_cases h' : t.agentId = u.agentId
    · rw [if_pos h', decide_eq_true_iff] at htu
      rw [if_pos (h.trans h'), decide_eq_true_iff]
      exact Int.le_trans hst htu
    · rw [h, if_neg h']
      rwa [if_neg h'] at htu
  · rw [if_neg h, decide_eq_true_iff] at hst
    by_cases h' : t.agentId = u.agentId
    · rw [← h', if_neg h, decide_eq_true_iff]
      exact hst
    · rw [if_neg h', decide_eq_true_iff] at htu
      have hne : s.agentId ≠ u.agentId := by
        intro heq
        rw [← heq] at htu
        exact h (AgentId.ext_text (String.le_antisymm hst htu))
      rw [if_neg hne, decide_eq_true_iff]
      exact String.le_trans hst htu

theorem sorted_exportSamples :
    (exportSamples now state).Pairwise fun s t => exportOrder s t = true :=
  @List.pairwise_mergeSort (MetricSample F) exportOrder exportOrder_trans exportOrder_total _

variable {now state}

theorem eq_of_mem_unbounded {s t : MetricSample F} (hs : s ∈ unbounded now state a)
    (ht : t ∈ unbounded now state a) (h : s.sampleAt = t.sampleAt) : s = t := by
  have hsorted := sorted_unbounded now state a
  have hne : (unbounded now state a).Pairwise fun s t => s.sampleAt ≠ t.sampleAt :=
    hsorted.imp fun hlt => ne_of_lt hlt
  exact inj_on_of_nodup_map (pairwise_map.mpr hne) hs ht h

theorem exportSamples_congr {next : InMemoryState F}
    (h : ∀ a, unbounded now next a = unbounded now state a) :
    exportSamples now next = exportSamples now state := by
  have hmem : ∀ s, s ∈ exportSamples now next ↔ s ∈ exportSamples now state := by
    intro s
    rw [mem_exportSamples, mem_exportSamples, h]
  refine Perm.eq_of_pairwise ?_ (sorted_exportSamples now next)
    (sorted_exportSamples now state) ((perm_ext_iff_of_nodup (nodup_exportSamples now next)
      (nodup_exportSamples now state)).mpr hmem)
  intro s t hs ht hst hts
  have hs' := (mem_exportSamples now state).mp ((hmem s).mp hs)
  have ht' := (mem_exportSamples now state).mp ht
  unfold exportOrder at hst hts
  by_cases hagent : s.agentId = t.agentId
  · rw [if_pos hagent, decide_eq_true_iff] at hst
    rw [if_pos hagent.symm, decide_eq_true_iff] at hts
    exact eq_of_mem_unbounded (hagent ▸ hs') ht' (Int.le_antisymm hst hts)
  · rw [if_neg hagent, decide_eq_true_iff] at hst
    rw [if_neg (Ne.symm hagent), decide_eq_true_iff] at hts
    exact absurd (AgentId.ext_text (String.le_antisymm hst hts)) hagent

theorem cutoffForRetention_mono (h : t ≤ now) (retention : ℤ) :
    cutoffForRetention t retention ≤ cutoffForRetention now retention :=
  max_le_max (sub_le_sub_right h _) le_rfl

theorem unbounded_eq (a : AgentId) :
    unbounded now state a = samplesOf a ((entriesOf (state.series.lookup a)).takeWhile fun e =>
      decide (cutoffForRetention now state.retention ≤ e.1)).reverse := by
  unfold unbounded
  cases state.series.lookup a <;> rfl

theorem unbounded_compact (hcap : WithinCap state) (ht : t ≤ now) (a : AgentId) :
    unbounded now (compact t state).1 a = unbounded now state a := by
  have hlen : (entriesOf (state.series.lookup a)).length ≤ maxSamplesPerAgent := by
    cases hm : state.series.lookup a with
    | none => exact Nat.zero_le _
    | some m => exact (hcap a m hm).2
  have hlookup : (compact t state).1.series.lookup a =
      kept (cutoffForRetention t state.retention) (state.series.lookup a) :=
    lookup_compactAll state _ a
  rw [unbounded_eq, unbounded_eq, hlookup, entriesOf_kept]
  change samplesOf a (takeWhile
    (fun e => decide (cutoffForRetention now state.retention ≤ e.1)) _).reverse = _
  have hkept : (retained (cutoffForRetention t state.retention) maxSamplesPerAgent
      (entriesOf (state.series.lookup a))).length ≤ maxSamplesPerAgent := length_take_le _ _
  rw [SortedMap.takeWhile_eq_retained _ maxSamplesPerAgent hkept,
    SortedMap.takeWhile_eq_retained _ maxSamplesPerAgent hlen,
    retained_retained _ _ (cutoffForRetention_mono ht _) le_rfl]

end Answers

theorem reads_agree (rt : Runtime F) (retention : ℤ) (ops : List (DateTime × Operation F)) :
    let state := run (step rt) (withRetention retention) ops
    WithinCap state ∧ ∀ now : DateTime,
      (∀ a range, (query now a range state).samples = (unbounded now state a).filter (fun s =>
          decide (cutoffForRetention now range.toChronoDuration ≤ s.sampleAt)) ∧
        (query now a range state).samples.Pairwise fun s t => s.sampleAt < t.sampleAt) ∧
      (∀ a, latest now a state = (unbounded now state a).getLast?) ∧
      (∀ a, a ∈ listAgents now state ↔ unbounded now state a ≠ []) ∧
      (∀ s, s ∈ exportSamples now state ↔ ∃ a, s ∈ unbounded now state a) ∧
      (exportSamples now state).Nodup ∧
      ∀ t ≤ now, (∀ a range, query now a range (compact t state).1 = query now a range state) ∧
        (∀ a, latest now a (compact t state).1 = latest now a state) ∧
        (∀ a, a ∈ listAgents now (compact t state).1 ↔ a ∈ listAgents now state) ∧
        exportSamples now (compact t state).1 = exportSamples now state := by
  intro state
  have hcap : WithinCap state := withinCap_run rt retention ops
  refine ⟨hcap, fun now => ⟨fun a range => ⟨query_eq now state a range, ?_⟩, latest_eq now state,
    fun a => mem_listAgents now state, fun s => ?_, nodup_exportSamples now state, ?_⟩⟩
  · rw [query_eq]
    exact (sorted_unbounded now state a).filter _
  · rw [mem_exportSamples]
    exact ⟨fun h => ⟨_, h⟩, fun ⟨a, h⟩ => ((mem_unbounded now state).mp h).1 ▸ h⟩
  · intro t ht
    have hsame := unbounded_compact hcap ht
    refine ⟨fun a range => ?_, fun a => ?_, fun a => ?_, exportSamples_congr hsame⟩
    · have hsamples : (query now a range (compact t state).1).samples =
          (query now a range state).samples := by
        rw [query_eq, query_eq, hsame a]
      exact congrArg (MetricSeries.mk a) hsamples
    · rw [latest_eq, latest_eq, hsame a]
    · rw [mem_listAgents, mem_listAgents, hsame a]

namespace StoreSample

def runtime : Runtime ℚ where
  float := Alerts.WindowSample.float
  toRfc3339 _ := ""

def sample : MetricSample ℚ :=
  ⟨⟨"00000000-0000-4000-8000-000000000001", canonical_one⟩, seconds 5, .null⟩

def init : InMemoryState ℚ := withRetention (days 30)

theorem valid_sample : validateSample runtime sample (seconds 10) = .ok () := rfl

end StoreSample

open StoreSample in
theorem writeBatch_above_limit :
    (∀ s ∈ replicate 256001 sample, validateSample runtime s (seconds 10) = .ok ()) ∧
      (writeEach runtime (seconds 10) (replicate 256001 sample) init).1 = .ok () ∧
      latest (seconds 10) sample.agentId
        (writeEach runtime (seconds 10) (replicate 256001 sample) init).2 = some sample ∧
      (writeBatch runtime (seconds 10) (replicate 256001 sample) init).1 ≠ .ok 256001 ∧
      latest (seconds 10) sample.agentId
        (writeBatch runtime (seconds 10) (replicate 256001 sample) init).2 = none := by
  have hvalid : ∀ s ∈ replicate 256001 sample,
      validateSample runtime s (seconds 10) = .ok () := by
    intro s hs
    rw [eq_of_mem_replicate hs]
    exact valid_sample
  have hbatch : ∃ e, writeBatch runtime (seconds 10) (replicate 256001 sample) init =
      (.error e, init) := by
    unfold writeBatch
    rw [length_replicate, if_pos (by decide)]
    exact ⟨_, rfl⟩
  obtain ⟨e, he⟩ := hbatch
  have hfix : written (seconds 10) (written (seconds 10) init sample) sample =
      written (seconds 10) init sample := by rfl
  have hfold : ∀ n, (replicate n sample).foldl (written (seconds 10))
      (written (seconds 10) init sample) = written (seconds 10) init sample := by
    intro n
    induction n with
    | zero => rfl
    | succ n ih => rw [replicate_succ, foldl_cons, hfix, ih]
  rw [writeEach_of_valid runtime (seconds 10) hvalid, he, replicate_succ, foldl_cons,
    hfold]
  exact ⟨hvalid, rfl, rfl, nofun, rfl⟩

end XLStatus.Tsdb
