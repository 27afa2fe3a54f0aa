import XLStatus.Tasks.TargetsDefs

/-! The resolution of a selector is the set the selector describes. -/

namespace XLStatus.Tasks

open Auth Shared List
open Agent (Json)

variable {rt : Runtime} {db : Tables} {selector : ServerSelector} {mode : CoverMode}
  {owner ownerUserId : String} {source : Option String} {id : String}

section Selection

variable (rt : Runtime) (db : Tables) (selector : ServerSelector)

/-- A tag the selector lists. An entry of the map lists its key, or with a value both the
value and the pair; a blank tag is none. -/
def ListsTag (tag : String) : Prop :=
  (∃ name ∈ selector.tagNames, normalizeTagFilter rt name = some tag) ∨
    ∃ key value, selector.tags.lookup key = some value ∧ tag ∈ pairFilters rt key value

def CarriesTags (agent : AgentRow) : Prop :=
  ∀ tag, ListsTag rt selector tag → tag ∈ agentTags rt agent.selectorRecord

def ListsGroup (group : ServerGroup) : Prop :=
  ∃ text ∈ selector.groupIds, bindId db.backend text = some group.id

def Includes (owner : String) (source : Option String) (id : String) : Prop :=
  (selector.sourceServer = true ∧ source = some id) ∨ id ∈ selector.serverIds ∨
    ∃ group ∈ db.serverGroups, ListsGroup db selector group ∧ group.ownerUserId = owner ∧
      ∃ sgm ∈ db.serverGroupMembers, sgm.groupId = group.id ∧ sgm.agentId = id

open scoped Classical in
def Described (mode : CoverMode) (included : Prop) (agent : AgentRow) : Prop :=
  if selector.hasIncludeSelector then included ∧ CarriesTags rt selector agent
  else if ∃ tag, ListsTag rt selector tag then CarriesTags rt selector agent
  else mode ≠ .specific

def Selects (mode : CoverMode) (owner : String) (source : Option String) (id : String) : Prop :=
  id ∉ selector.excludeServerIds ∧ ∃ agent ∈ db.agents, agent.id = id ∧
    agent.ownerUserId = owner ∧ agent.revoked = false ∧
    Described rt selector mode (Includes db selector owner source id) agent

end Selection

theorem mem_normalizedSelectorTags {tag : String} :
    tag ∈ normalizedSelectorTags rt selector ↔ ListsTag rt selector tag := by
  unfold normalizedSelectorTags ListsTag
  rw [mem_eraseDups, mem_append, mem_filterMap, mem_flatMap]
  refine or_congr Iff.rfl ?_
  constructor
  · rintro ⟨⟨key, value⟩, hentry, htag⟩
    exact ⟨key, value, AList.mem_lookup_iff.mpr hentry, htag⟩
  · rintro ⟨key, value, hlookup, htag⟩
    exact ⟨⟨key, value⟩, AList.mem_lookup_iff.mp hlookup, htag⟩

theorem agentMatchesTagFilters_iff {agent : AgentRow} :
    agentMatchesTagFilters rt agent.selectorRecord (normalizedSelectorTags rt selector) = true ↔
      CarriesTags rt selector agent := by
  unfold agentMatchesTagFilters CarriesTags
  simp only [all_eq_true, decide_eq_true_eq, mem_normalizedSelectorTags]

theorem listOwnedAgentRecords_of_bindId (h : bindId db.backend ownerUserId = some owner) :
    ∃ rows : List AgentRow,
      listOwnedAgentRecords db ownerUserId = .ok (rows.map AgentRow.selectorRecord) ∧
      ∀ agent, agent ∈ rows ↔
        agent ∈ db.agents ∧ agent.ownerUserId = owner ∧ agent.revoked = false := by
  refine ⟨(db.agents.filter fun row => row.ownerUserId = owner && !row.revoked).mergeSort
    fun a b => a.createdAt ≤ b.createdAt, by simp only [listOwnedAgentRecords, h], fun agent => ?_⟩
  simp [mem_mergeSort]

theorem mem_selectGroupMembers {groupId : String} :
    id ∈ selectGroupMembers db owner groupId ↔
      (∃ group ∈ db.serverGroups, group.id = groupId ∧ group.ownerUserId = owner ∧
        ∃ sgm ∈ db.serverGroupMembers, sgm.groupId = group.id ∧ sgm.agentId = id) ∧
      ∃ agent ∈ db.agents, agent.id = id ∧ agent.ownerUserId = owner ∧ agent.revoked = false := by
  unfold selectGroupMembers
  simp only [mem_flatMap, mem_mergeSort, mem_filter, mem_map,
    Bool.and_eq_true, decide_eq_true_eq, Bool.not_eq_true']
  constructor
  · rintro ⟨sgm, hsgm, sg, ⟨hsg, ⟨hjoin, hid⟩, howner⟩, a, ⟨ha, ⟨haid, haowner⟩, hlive⟩, rfl⟩
    exact ⟨⟨sg, hsg, hid, howner, sgm, hsgm, hjoin.symm, rfl⟩, a, ha, haid, haowner, hlive⟩
  · rintro ⟨⟨sg, hsg, hid, howner, sgm, hsgm, hjoin, rfl⟩, a, ha, haid, haowner, hlive⟩
    exact ⟨sgm, hsgm, sg, ⟨hsg, ⟨hjoin.symm, hid⟩, howner⟩, a, ⟨ha, ⟨haid, haowner⟩, hlive⟩, rfl⟩

theorem listGroupAgentIds_of_bindId (h : bindId db.backend ownerUserId = some owner)
    (groupIds : List String) :
    ∃ ids, listGroupAgentIds db ownerUserId groupIds = .ok ids ∧ ∀ id, id ∈ ids ↔
      ∃ text ∈ groupIds, ∃ groupId, bindId db.backend text = some groupId ∧
        id ∈ selectGroupMembers db owner groupId := by
  unfold listGroupAgentIds
  cases groupIds with
  | nil => exact ⟨[], rfl, by simp⟩
  | cons text =>
    refine ⟨_, by simp only [isEmpty_cons, h]; rfl, fun id => ?_⟩
    rw [mem_flatMap]
    refine exists_congr fun text => and_congr_right fun _ => ?_
    cases bindId db.backend text with
    | none => simp
    | some => simp

theorem nodup_eraseDups {α : Type} [BEq α] [LawfulBEq α] : ∀ l : List α, l.eraseDups.Nodup
  | [] => nodup_nil
  | a :: l => by
    rw [eraseDups_cons, nodup_cons]
    exact ⟨by simp [mem_eraseDups], nodup_eraseDups (l.filter fun b => !b == a)⟩
termination_by l => l.length
decreasing_by exact Nat.lt_succ_of_le (length_filter_le _ _)

theorem mem_applyTagFilters {rows : List AgentRow} (hsub : rows ⊆ db.agents)
    {candidates : List String} (hcandidates : selector.hasIncludeSelector = false → candidates = [])
    {agent : AgentRow} (hagent : agent ∈ rows) :
    agent.id ∈ applyTagFilters rt (rows.map AgentRow.selectorRecord) selector mode candidates ↔
      Described rt selector mode (agent.id ∈ candidates) agent := by
  have hmatched : agent.id ∈ ((rows.map AgentRow.selectorRecord).filter
      (agentMatchesTagFilters rt · (normalizedSelectorTags rt selector))).map (·.id) ↔
      CarriesTags rt selector agent := by
    rw [← agentMatchesTagFilters_iff, mem_map]
    constructor
    · rintro ⟨record, hrecord, hid⟩
      obtain ⟨hmem, hmatch⟩ := mem_filter.mp hrecord
      obtain ⟨agent', hagent', rfl⟩ := mem_map.mp hmem
      obtain rfl : agent' = agent :=
        inj_on_of_nodup_map db.primaryKey (hsub hagent') (hsub hagent) hid
      exact hmatch
    · intro hmatch
      exact ⟨agent.selectorRecord,
        mem_filter.mpr ⟨mem_map_of_mem hagent, hmatch⟩, rfl⟩
  have hrecord : agent.id ∈ (rows.map AgentRow.selectorRecord).map (·.id) :=
    mem_map_of_mem (mem_map_of_mem hagent)
  have htags : (normalizedSelectorTags rt selector).isEmpty = true ↔
      ¬ ∃ tag, ListsTag rt selector tag := by
    simp [List.isEmpty_iff, eq_nil_iff_forall_not_mem, mem_normalizedSelectorTags]
  unfold applyTagFilters Described
  by_cases htag : ∃ tag, ListsTag rt selector tag
  · have hsome : (normalizedSelectorTags rt selector).isEmpty = false :=
      Bool.eq_false_iff.mpr fun hempty => htags.mp hempty htag
    simp only [hsome, Bool.not_false, if_true, if_pos htag]
    cases hinclude : selector.hasIncludeSelector with
    | true => simp only [if_true, mem_filter, decide_eq_true_eq, hmatched]
    | false =>
      simp only [Bool.false_eq_true, if_false, hcandidates hinclude, nil_append,
        (rt.iterate_perm _).mem_iff, mem_dedup, hmatched]
  · have hcarries : CarriesTags rt selector agent := fun tag hlists => absurd ⟨tag, hlists⟩ htag
    simp only [htags.mpr htag, Bool.not_true, Bool.false_eq_true, if_false, if_neg htag]
    cases hinclude : selector.hasIncludeSelector with
    | true => simp [hcarries]
    | false =>
      cases mode with
      | all => simpa [hcandidates hinclude] using hrecord
      | any => simpa [hcandidates hinclude] using hrecord
      | specific => simp [hcandidates hinclude]

theorem mem_candidates {rows : List AgentRow} {grouped : List String}
    (hrows : ∀ agent, agent ∈ rows ↔
      agent ∈ db.agents ∧ agent.ownerUserId = owner ∧ agent.revoked = false)
    (hgrouped : ∀ id, id ∈ grouped ↔ ∃ text ∈ selector.groupIds, ∃ groupId,
      bindId db.backend text = some groupId ∧ id ∈ selectGroupMembers db owner groupId)
    {agent : AgentRow} (hagent : agent ∈ rows) :
    agent.id ∈ (if selector.sourceServer then
        source.toList.filter (· ∈ (rows.map AgentRow.selectorRecord).map (·.id)) else []) ++
      selector.serverIds.filter (· ∈ (rows.map AgentRow.selectorRecord).map (·.id)) ++ grouped ↔
      Includes db selector owner source agent.id := by
  have howned : agent.id ∈ (rows.map AgentRow.selectorRecord).map (·.id) :=
    mem_map_of_mem (mem_map_of_mem hagent)
  rw [mem_append, mem_append, or_assoc]
  refine or_congr ?_ (or_congr ?_ ?_)
  · cases selector.sourceServer with
    | true => simp only [if_true, mem_filter, howned, decide_true, and_true, true_and,
        Option.mem_toList]
    | false => simp
  · simp only [mem_filter, howned, decide_true, and_true]
  · rw [hgrouped]
    constructor
    · rintro ⟨text, htext, groupId, hbind, hmem⟩
      obtain ⟨⟨group, hgroup, rfl, howner, hmember⟩, -⟩ := mem_selectGroupMembers.mp hmem
      exact ⟨group, hgroup, ⟨text, htext, hbind⟩, howner, hmember⟩
    · rintro ⟨group, hgroup, ⟨text, htext, hbind⟩, howner, hmember⟩
      obtain ⟨hdb, hlive⟩ := (hrows agent).mp hagent
      exact ⟨text, htext, group.id, hbind, mem_selectGroupMembers.mpr
        ⟨⟨group, hgroup, rfl, howner, hmember⟩, agent, hdb, rfl, hlive⟩⟩

theorem resolveServerIds_of_bindId (rt : Runtime) (selector : ServerSelector) (mode : CoverMode)
    (source : Option String) (h : bindId db.backend ownerUserId = some owner) :
    ∃ resolved : List String,
      resolveServerIds rt db selector mode ownerUserId source =
        .ok (if mode = .any then resolved.take 1 else resolved) ∧
      resolved.Nodup ∧ ∀ id, id ∈ resolved ↔ Selects rt db selector mode owner source id := by
  obtain ⟨rows, hrecords, hrows⟩ := listOwnedAgentRecords_of_bindId h
  obtain ⟨grouped, hgroups, hgrouped⟩ := listGroupAgentIds_of_bindId h selector.groupIds
  refine ⟨_, by simp only [resolveServerIds, hrecords, hgroups]; rfl, nodup_eraseDups _,
    fun id => ?_⟩
  have hnone : selector.hasIncludeSelector = false →
      (if selector.sourceServer then
        source.toList.filter (· ∈ (rows.map AgentRow.selectorRecord).map (·.id)) else []) ++
      selector.serverIds.filter (· ∈ (rows.map AgentRow.selectorRecord).map (·.id)) ++
        grouped = [] := by
    intro hinclude
    simp only [ServerSelector.hasIncludeSelector, Bool.or_eq_false_iff, Bool.not_eq_false',
      List.isEmpty_iff] at hinclude
    obtain ⟨⟨hsource, hserverIds⟩, hgroupIds⟩ := hinclude
    have hgrouped' : grouped = [] := by
      rw [eq_nil_iff_forall_not_mem]
      intro id hid
      simpa [hgroupIds] using (hgrouped id).mp hid
    simp [hsource, hserverIds, hgrouped']
  have hdescribed : ∀ agent ∈ rows, agent.id ∈ applyTagFilters rt
      (rows.map AgentRow.selectorRecord) selector mode _ ↔ _ := fun agent hagent =>
    mem_applyTagFilters (fun a ha => ((hrows a).mp ha).1) hnone hagent
  rw [mem_eraseDups, mem_filter]
  simp only [Bool.not_or, Bool.not_not, Bool.and_eq_true, Bool.not_eq_true', contains_eq_mem,
    decide_eq_false_iff_not, decide_eq_true_eq]
  constructor
  · rintro ⟨hmem, hexcluded, howned⟩
    obtain ⟨record, hrecord, rfl⟩ := mem_map.mp howned
    obtain ⟨agent, hagent, rfl⟩ := mem_map.mp hrecord
    obtain ⟨hdb, howner, hlive⟩ := (hrows agent).mp hagent
    refine ⟨hexcluded, agent, hdb, rfl, howner, hlive, ?_⟩
    have hdesc := (hdescribed agent hagent).mp hmem
    rwa [mem_candidates hrows hgrouped hagent] at hdesc
  · rintro ⟨hexcluded, agent, hdb, rfl, howner, hlive, hdesc⟩
    have hagent : agent ∈ rows := (hrows agent).mpr ⟨hdb, howner, hlive⟩
    refine ⟨(hdescribed agent hagent).mpr ?_, hexcluded,
      mem_map_of_mem (mem_map_of_mem hagent)⟩
    rwa [mem_candidates hrows hgrouped hagent]

/-- The resolved identifiers are the ones the selector describes, each once; for `Any` one of
them. -/
theorem resolveServerIds_eq_selection (rt : Runtime) (db : Tables) (selector : ServerSelector)
    (mode : CoverMode) (ownerUserId : String) (source : Option String) :
    match bindId db.backend ownerUserId with
    | none => resolveServerIds rt db selector mode ownerUserId source = .error .uuid
    | some owner => ∃ ids, resolveServerIds rt db selector mode ownerUserId source = .ok ids ∧
        ids.Nodup ∧
        (mode ≠ .any → ∀ id, id ∈ ids ↔ Selects rt db selector mode owner source id) ∧
        (mode = .any →
          (∃ id, ids = [id] ∧ Selects rt db selector mode owner source id) ∨
          (ids = [] ∧ ∀ id, ¬ Selects rt db selector mode owner source id)) := by
  cases hbind : bindId db.backend ownerUserId with
  | none =>
    simp only [resolveServerIds, listOwnedAgentRecords, hbind]
    rfl
  | some owner =>
    obtain ⟨resolved, hresolve, hnodup, hmem⟩ :=
      resolveServerIds_of_bindId rt selector mode source hbind
    refine ⟨_, hresolve, ?_, fun hmode => ?_, fun hmode => ?_⟩
    · split
      · exact hnodup.sublist (take_sublist _ _)
      · exact hnodup
    · rw [if_neg hmode]
      exact hmem
    · rw [if_pos hmode]
      cases resolved with
      | nil => exact .inr ⟨rfl, fun id hid => by simpa using (hmem id).mpr hid⟩
      | cons id rest => exact .inl ⟨id, rfl, (hmem id).mp mem_cons_self⟩

def foreignGroup : Tables where
  backend := .sqlite
  agents := [⟨"agent", "web", "owner", false, 0, none, none, none⟩]
  primaryKey := by simp
  serverGroups := [⟨"group", "other"⟩]
  serverGroupMembers := [⟨"group", "agent", 0⟩]

def plainRuntime : Runtime := ⟨fun _ => none, fun s => s, dedup, fun _ => Perm.refl _⟩

theorem resolveServerIds_foreign_group :
    (∃ agent ∈ foreignGroup.agents, agent.id = "agent" ∧ agent.ownerUserId = "owner" ∧
      agent.revoked = false) ∧
    (∃ group ∈ foreignGroup.serverGroups,
      ListsGroup foreignGroup { groupIds := ["group"] } group ∧
      ∃ sgm ∈ foreignGroup.serverGroupMembers, sgm.groupId = group.id ∧ sgm.agentId = "agent") ∧
    resolveServerIds plainRuntime foreignGroup { groupIds := ["group"] } .specific "owner" none =
      .ok [] := by
  refine ⟨by simp [foreignGroup], by simp [foreignGroup, ListsGroup, bindId], ?_⟩
  simp [resolveServerIds, listOwnedAgentRecords, listGroupAgentIds, selectGroupMembers,
    foreignGroup, bindId, applyTagFilters, normalizedSelectorTags, bind, Except.bind, pure,
    Except.pure]

end XLStatus.Tasks
