import XLStatus.Agent.ConfigDefs
import XLStatus.Web.Security

/-! The browser's cache of server lists. The lists of a page are in its memory, and a copy of each in
the session storage outlives a reload; a storage call that fails is ignored. -/

namespace XLStatus.Web.ServerCache

open Transition Option
open Agent (Json)
open Function (update)

def serverCacheMaxAgeMs : ℤ := 10 * 60000
def serverCacheMaxRows : ℕ := 500
def serverCacheMaxJsonLength : ℕ := 2 * 1024 * 1024

structure Snapshot where
  cachedAt : ℤ
  servers : List Json

structure StoredSnapshot extends Snapshot where
  version : ℤ
  scope : JsString

/-- `JSON`. A text gives a record when it is an object in which `cachedAt` is a number and `servers`
an array; `stringify` may throw. -/
structure JsonApi where
  stringify : StoredSnapshot → Option JsString
  parse : JsString → Option StoredSnapshot
  parse_stringify : ∀ stored raw, stringify stored = some raw → parse raw = some stored

def member (fields : List (String × Json)) (name : String) : Option Json :=
  (fields.find? (·.1 == name)).map (·.2)

def isString (value : Option Json) : Bool := (value.bind Json.asStr).isSome

def tagsValid : Option Json → Bool
  | none | some .null => true
  | some (.array tags) => tags.all fun tag => isString (some tag)
  | _ => false

def isServerRow : Json → Bool
  | .object row => tagsValid (member row "tags") && isString (member row "id")
    && isString (member row "name") && isString (member row "status")
  | _ => false

def isFresh (now cachedAt : ℤ) : Bool :=
  0 < cachedAt ∧ cachedAt ≤ now + 30000 ∧ now - cachedAt ≤ serverCacheMaxAgeMs

/-- `sessionStorage` is indexed by the scope of its key, and a scope whose key cannot be built is one
whose storage calls fail. `latest` is the list of the last accepted write since the last clear;
`inStep` says that no write or removal has left an older text behind. -/
structure Cache where
  clock : ℤ
  memorySnapshots : JsString → Option Snapshot
  hydratedScopes : JsString → Bool
  cacheGeneration : ℕ
  sessionStorage : JsString → Option JsString
  latest : JsString → Option (List Json)
  inStep : JsString → Bool

def Cache.start (clock : ℤ) : Cache :=
  ⟨clock, fun _ => none, fun _ => false, 0, fun _ => none, fun _ => none, fun _ => true⟩

/-- A call of the storage comes with whether it is done or throws; a null scope reads as the empty
one does. -/
inductive Event where
  | pass (time : ℕ)
  | read (scope : JsString) (got removed : Bool)
  | write (scope : JsString) (servers : List Json) (expectedGeneration : Option ℕ) (done : Bool)
  | clear (scope : JsString) (invalidatePendingWrites removed : Bool)
  | clearAll (removed : JsString → Bool)
  | reload

variable (api : JsonApi)

def parseSnapshot (now : ℤ) (raw scope : JsString) : Option Snapshot :=
  if raw = [] ∨ raw.length > serverCacheMaxJsonLength then none
  else (api.parse raw).bind fun parsed =>
    if parsed.version ≠ 1 ∨ parsed.scope ≠ scope ∨ !isFresh now parsed.cachedAt
        ∨ parsed.servers.length > serverCacheMaxRows ∨ !parsed.servers.all isServerRow then none
    else some parsed.toSnapshot

def removeStoredSnapshot (c : Cache) (scope : JsString) (removed : Bool) : Cache :=
  if removed then { c with sessionStorage := update c.sessionStorage scope none } else c

def hydrate (c : Cache) (scope : JsString) (got removed : Bool) : Option Snapshot × Cache :=
  let c := { c with hydratedScopes := update c.hydratedScopes scope true }
  match if got then c.sessionStorage scope else none with
  | none | some [] => (none, c)
  | some raw => match parseSnapshot api c.clock raw scope with
    | none => (none, removeStoredSnapshot c scope removed)
    | some m => (some m, { c with memorySnapshots := update c.memorySnapshots scope (some m) })

def readCachedServerList (c : Cache) (scope : JsString) (got removed : Bool) :
    Option Snapshot × Cache :=
  if scope = [] then (none, c)
  else match c.memorySnapshots scope with
  | some m =>
    if isFresh c.clock m.cachedAt then (some m, c)
    else
      let c := { c with memorySnapshots := update c.memorySnapshots scope none }
      let c := removeStoredSnapshot c scope removed
      if c.hydratedScopes scope then (none, c) else hydrate api c scope got removed
  | none => if c.hydratedScopes scope then (none, c) else hydrate api c scope got removed

def writeCachedServerList (c : Cache) (scope : JsString) (servers : List Json)
    (expectedGeneration : Option ℕ) (done : Bool) : Cache :=
  if expectedGeneration.getD c.cacheGeneration ≠ c.cacheGeneration then c
  else if servers.length > serverCacheMaxRows ∨ !servers.all isServerRow then c
  else
    let snapshot : Snapshot := ⟨c.clock, servers⟩
    let raw := (api.stringify ⟨snapshot, 1, scope⟩).filter fun raw =>
      done && raw.length ≤ serverCacheMaxJsonLength
    { c with
      memorySnapshots := update c.memorySnapshots scope (some snapshot)
      hydratedScopes := update c.hydratedScopes scope true
      sessionStorage := update c.sessionStorage scope (raw <|> c.sessionStorage scope)
      latest := update c.latest scope (some servers)
      inStep := update c.inStep scope (raw.isSome || (c.sessionStorage scope).isNone) }

def clearCachedServerList (c : Cache) (scope : JsString)
    (invalidatePendingWrites removed : Bool) : Cache :=
  removeStoredSnapshot
    { c with
      cacheGeneration := c.cacheGeneration + if invalidatePendingWrites then 1 else 0
      memorySnapshots := update c.memorySnapshots scope none
      hydratedScopes := update c.hydratedScopes scope false
      latest := update c.latest scope none
      inStep := update c.inStep scope (removed || (c.sessionStorage scope).isNone) } scope removed

/-- The loop over the keys may end early: `removed` says which scopes it has come to. -/
def clearAllCachedServerLists (c : Cache) (removed : JsString → Bool) : Cache :=
  { c with
    cacheGeneration := c.cacheGeneration + 1
    memorySnapshots := fun _ => none
    hydratedScopes := fun _ => false
    sessionStorage := fun scope => if removed scope then none else c.sessionStorage scope
    latest := fun _ => none
    inStep := fun scope => removed scope || (c.sessionStorage scope).isNone }

def step (c : Cache) : Event → Cache
  | .pass time => { c with clock := c.clock + time }
  | .read scope got removed => (readCachedServerList api c scope got removed).2
  | .write scope servers expectedGeneration done =>
    writeCachedServerList api c scope servers expectedGeneration done
  | .clear scope invalidatePendingWrites removed =>
    clearCachedServerList c scope invalidatePendingWrites removed
  | .clearAll removed => clearAllCachedServerLists c removed
  | .reload =>
    { c with memorySnapshots := fun _ => none, hydratedScopes := fun _ => false, cacheGeneration := 0 }

/-- A read gives the list of the last write that counts, and an overtaken write does nothing. -/
def Right (c : Cache) : Event → Prop
  | .read scope got removed => ∀ m, (readCachedServerList api c scope got removed).1 = some m →
    c.latest scope = some m.servers
  | .write scope servers expectedGeneration done => ∀ g ∈ expectedGeneration,
    g < c.cacheGeneration → step api c (.write scope servers (some g) done) = c
  | _ => True

/-- A read that goes to the storage, where a write or a removal has failed, does not find an older
list there that is still fresh. -/
def FindsNoOlder (c : Cache) : Event → Prop
  | .read scope got _ => scope ≠ [] → c.hydratedScopes scope = false → got = true →
    c.inStep scope = false → ∀ raw ∈ c.sessionStorage scope,
    ∀ m ∈ parseSnapshot api c.clock raw scope, c.latest scope = some m.servers
  | _ => True

structure Coherent (c : Cache) : Prop where
  hydrated : ∀ scope m, c.memorySnapshots scope = some m → c.hydratedScopes scope = true
  memory : ∀ scope m, c.memorySnapshots scope = some m → c.latest scope = some m.servers
  stored : ∀ scope raw parsed, c.inStep scope = true → c.sessionStorage scope = some raw →
    api.parse raw = some parsed → c.latest scope = some parsed.servers

structure Forgets (c c' : Cache) : Prop where
  latest : c'.latest = c.latest
  inStep : c'.inStep = c.inStep
  memory : ∀ scope m, c'.memorySnapshots scope = some m →
    c.memorySnapshots scope = some m ∧ (c.hydratedScopes scope = true → c'.hydratedScopes scope = true)
  storage : ∀ scope raw, c'.sessionStorage scope = some raw → c.sessionStorage scope = some raw

variable {api} {c c' : Cache}

theorem Coherent.of_forgets (h : Coherent api c) (hf : Forgets c c') : Coherent api c' where
  hydrated scope m hm := (hf.memory scope m hm).2 (h.hydrated scope m (hf.memory scope m hm).1)
  memory scope m hm := hf.latest ▸ h.memory scope m (hf.memory scope m hm).1
  stored scope raw parsed hin hraw hparse :=
    hf.latest ▸ h.stored scope raw parsed (hf.inStep ▸ hin) (hf.storage scope raw hraw) hparse

theorem forgets_removeStoredSnapshot (hf : Forgets c c') (scope : JsString) (removed : Bool) :
    Forgets c (removeStoredSnapshot c' scope removed) := by
  cases removed with
  | false => exact hf
  | true =>
    refine ⟨hf.latest, hf.inStep, hf.memory, fun other raw hraw => hf.storage other raw ?_⟩
    simp only [removeStoredSnapshot, if_true, Function.update_apply] at hraw
    split_ifs at hraw
    exact hraw

variable {scope raw : JsString} {m : Snapshot} {got : Bool}

theorem servers_of_parseSnapshot {now : ℤ} (h : parseSnapshot api now raw scope = some m) :
    raw ≠ [] ∧ ∃ parsed, api.parse raw = some parsed ∧ parsed.servers = m.servers := by
  unfold parseSnapshot at h
  split_ifs at h with hraw
  obtain ⟨parsed, hparsed, hm⟩ := bind_eq_some_iff.mp h
  split_ifs at hm
  exact ⟨fun he => hraw (.inl he), parsed, hparsed, by rw [← some.inj hm]⟩

theorem forgets_hydrated (c : Cache) (scope : JsString) :
    Forgets c { c with hydratedScopes := update c.hydratedScopes scope true } := by
  refine ⟨rfl, rfl, fun other m hm => ⟨hm, fun hother => ?_⟩, fun _ _ => id⟩
  simp only [Function.update_apply]
  split_ifs
  · rfl
  · exact hother

theorem hydrate_of_parse (hraw : c.sessionStorage scope = some raw)
    (hparse : parseSnapshot api c.clock raw scope = some m) (removed : Bool) :
    hydrate api c scope true removed = (some m, { c with
      hydratedScopes := update c.hydratedScopes scope true
      memorySnapshots := update c.memorySnapshots scope (some m) }) := by
  obtain ⟨u, raw, rfl⟩ := List.exists_cons_of_ne_nil (servers_of_parseSnapshot hparse).1
  simp only [hydrate, if_true, hraw, hparse]

theorem hydrate_of_none (hnone : ∀ raw, got = true → c.sessionStorage scope = some raw →
      parseSnapshot api c.clock raw scope = none) (removed : Bool) :
    (hydrate api c scope got removed).1 = none ∧
      Forgets c (hydrate api c scope got removed).2 := by
  have hforget := forgets_hydrated c scope
  unfold hydrate
  dsimp only
  split
  · exact ⟨rfl, hforget⟩
  · exact ⟨rfl, hforget⟩
  · rename_i raw _ hraw
    split_ifs at hraw with hgot
    rw [hnone raw hgot hraw]
    exact ⟨rfl, forgets_removeStoredSnapshot hforget scope removed⟩

theorem readCachedServerList_of_not_hydrated (h : Coherent api c) (hscope : scope ≠ [])
    (hhyd : c.hydratedScopes scope = false) (got removed : Bool) :
    readCachedServerList api c scope got removed = hydrate api c scope got removed := by
  have hmem : c.memorySnapshots scope = none :=
    eq_none_iff_forall_ne_some.mpr fun m hm => by simp [h.hydrated scope m hm] at hhyd
  rw [readCachedServerList, if_neg hscope, hmem, hhyd]
  rfl

theorem readCachedServerList_of_hydrated {removed : Bool}
    (hhyd : scope = [] ∨ c.hydratedScopes scope = true) :
    Forgets c (readCachedServerList api c scope got removed).2 ∧
      ∀ m, (readCachedServerList api c scope got removed).1 = some m →
        c.memorySnapshots scope = some m := by
  have hsame : Forgets c c := ⟨rfl, rfl, fun _ _ hm => ⟨hm, id⟩, fun _ _ => id⟩
  unfold readCachedServerList
  by_cases hscope : scope = []
  · rw [if_pos hscope]
    exact ⟨hsame, fun _ hm => nomatch hm⟩
  have hhyd := hhyd.resolve_left hscope
  rw [if_neg hscope]
  cases hmem : c.memorySnapshots scope with
  | none =>
    rw [if_pos hhyd]
    exact ⟨hsame, fun _ hm => nomatch hm⟩
  | some m =>
    by_cases hfresh : isFresh c.clock m.cachedAt = true
    · simp only [hfresh, if_true]
      exact ⟨hsame, fun _ hm => hm⟩
    · have hforget : Forgets c
          { c with memorySnapshots := update c.memorySnapshots scope none } := by
        refine ⟨rfl, rfl, fun other n hn => ⟨?_, id⟩, fun _ _ => id⟩
        simp only [Function.update_apply] at hn
        split_ifs at hn
        exact hn
      have hkept : (removeStoredSnapshot
          { c with memorySnapshots := update c.memorySnapshots scope none } scope removed).hydratedScopes scope = true := by
        cases removed <;> exact hhyd
      simp only [hfresh, hkept, if_true]
      exact ⟨forgets_removeStoredSnapshot hforget scope removed, fun _ hm => nomatch hm⟩

theorem readCachedServerList_cases (h : Coherent api c) (scope : JsString) (got removed : Bool) :
    (Forgets c (readCachedServerList api c scope got removed).2 ∧
      ∀ m, (readCachedServerList api c scope got removed).1 = some m →
        c.memorySnapshots scope = some m) ∨
    ∃ raw m, scope ≠ [] ∧ c.hydratedScopes scope = false ∧ got = true ∧
      c.sessionStorage scope = some raw ∧ parseSnapshot api c.clock raw scope = some m ∧
      readCachedServerList api c scope got removed = (some m, { c with
        hydratedScopes := update c.hydratedScopes scope true
        memorySnapshots := update c.memorySnapshots scope (some m) }) := by
  by_cases hhyd : scope = [] ∨ c.hydratedScopes scope = true
  · exact .inl (readCachedServerList_of_hydrated hhyd)
  obtain ⟨hscope, hnot⟩ := not_or.mp hhyd
  have hnot := Bool.eq_false_of_not_eq_true hnot
  rw [readCachedServerList_of_not_hydrated h hscope hnot]
  by_cases hfound : ∃ raw m, got = true ∧ c.sessionStorage scope = some raw ∧
      parseSnapshot api c.clock raw scope = some m
  · obtain ⟨raw, m, rfl, hraw, hparse⟩ := hfound
    exact .inr ⟨raw, m, hscope, hnot, rfl, hraw, hparse, hydrate_of_parse hraw hparse removed⟩
  · have hparse : ∀ raw, got = true → c.sessionStorage scope = some raw →
        parseSnapshot api c.clock raw scope = none := fun raw hgot hraw =>
      eq_none_iff_forall_ne_some.mpr fun m hm => hfound ⟨raw, m, hgot, hraw, hm⟩
    obtain ⟨hnone, hforget⟩ := hydrate_of_none hparse removed
    refine .inl ⟨hforget, fun m hm => ?_⟩
    rw [hnone] at hm
    cases hm

theorem coherent_write (h : Coherent api c) (scope : JsString) (servers : List Json)
    (expectedGeneration : Option ℕ) (done : Bool) :
    Coherent api (writeCachedServerList api c scope servers expectedGeneration done) := by
  unfold writeCachedServerList
  split_ifs
  · exact h
  · exact h
  · refine ⟨fun other m => ?_, fun other m => ?_, fun other raw parsed => ?_⟩ <;>
      by_cases ho : other = scope
    · exact fun _ => by rw [ho]; exact Function.update_self ..
    · simpa only [Function.update_of_ne ho] using h.hydrated other m
    · subst ho
      simp only [Function.update_self]
      exact fun hm => by rw [← some.inj hm]
    · simpa only [Function.update_of_ne ho] using h.memory other m
    · subst ho
      simp only [Function.update_self]
      intro hin hraw hparse
      -- a text that is in step is the one just stored
      cases hnew : (api.stringify ⟨⟨c.clock, servers⟩, 1, other⟩).filter fun raw =>
          done && raw.length ≤ serverCacheMaxJsonLength with
      | none =>
        rw [hnew, isSome_none, Bool.false_or, isNone_iff_eq_none] at hin
        rw [hnew, hin] at hraw
        cases hraw
      | some text =>
        rw [hnew] at hraw
        cases hraw
        have := api.parse_stringify _ _ (filter_eq_some_iff.mp hnew).1
        rw [← some.inj (this.symm.trans hparse)]
    · simpa only [Function.update_of_ne ho] using h.stored other raw parsed

theorem coherent_clear (h : Coherent api c) (scope : JsString)
    (invalidatePendingWrites removed : Bool) :
    Coherent api (clearCachedServerList c scope invalidatePendingWrites removed) := by
  refine ⟨fun other m hm => ?_, fun other m hm => ?_, fun other raw parsed hin hraw => ?_⟩ <;>
    by_cases ho : other = scope <;> cases removed <;>
    simp_all [clearCachedServerList, removeStoredSnapshot]
  all_goals first
    | exact h.hydrated other m hm
    | exact h.memory other m hm
    | exact h.stored other raw parsed hin hraw

theorem coherent_clearAll (removed : JsString → Bool) :
    Coherent api (clearAllCachedServerLists c removed) := by
  refine ⟨fun _ _ hm => (nomatch hm), fun _ _ hm => (nomatch hm),
    fun scope raw parsed hin hraw _ => ?_⟩
  cases hr : removed scope <;> simp_all [clearAllCachedServerLists]

theorem coherent_step (c : Cache) (e : Event) (hright : Right api c e) (h : Coherent api c) :
    Coherent api (step api c e) := by
  cases e with
  | pass => exact h.of_forgets ⟨rfl, rfl, fun _ _ hm => ⟨hm, id⟩, fun _ _ => id⟩
  | read scope got removed =>
    obtain ⟨hforget, -⟩ | ⟨raw, m, -, -, -, -, -, heq⟩ :=
      readCachedServerList_cases h scope got removed
    · exact h.of_forgets hforget
    · have hm := hright m (by rw [heq])
      have hh := h.of_forgets (forgets_hydrated c scope)
      simp only [step, heq]
      refine ⟨fun other n hn => ?_, fun other n hn => ?_, hh.stored⟩ <;>
        by_cases ho : other = scope
      · rw [ho]
        exact Function.update_self ..
      · exact hh.hydrated other n ((Function.update_of_ne ho ..).symm.trans hn)
      · subst ho
        simp only [Function.update_self, some.injEq] at hn
        rw [← hn, hm]
      · exact hh.memory other n ((Function.update_of_ne ho ..).symm.trans hn)
  | write scope servers g done => exact coherent_write h scope servers g done
  | clear scope invalidate removed => exact coherent_clear h scope invalidate removed
  | clearAll removed => exact coherent_clearAll removed
  | reload =>
    exact h.of_forgets ⟨rfl, rfl, fun _ _ hm => (nomatch hm), fun _ _ => id⟩

theorem right_iff (h : Coherent api c) (e : Event) : Right api c e ↔ FindsNoOlder api c e := by
  cases e with
  | read scope got removed =>
    constructor
    · intro hright hscope hhyd hgot _ raw hraw m hm
      subst hgot
      refine hright m ?_
      rw [readCachedServerList_of_not_hydrated h hscope hhyd, hydrate_of_parse hraw hm]
    · intro hfinds m hread
      obtain ⟨-, hmem⟩ | ⟨raw, n, hscope, hhyd, hgot, hraw, hparse, heq⟩ :=
        readCachedServerList_cases h scope got removed
      · exact h.memory scope m (hmem m hread)
      · rw [heq] at hread
        cases hread
        cases hin : c.inStep scope with
        | false => exact hfinds hscope hhyd hgot hin raw hraw m hparse
        | true =>
          obtain ⟨-, parsed, hparsed, hservers⟩ := servers_of_parseSnapshot hparse
          exact hservers ▸ h.stored scope raw parsed hin hraw hparsed
  | write scope servers g =>
    refine iff_of_true (fun g _ hlt => ?_) trivial
    exact if_pos (by simpa using hlt.ne)
  | pass | clear | clearAll | reload => exact Iff.rfl

/-- On every run the reads are right exactly if none finds an older list where a storage call has
failed. -/
theorem server_cache_current_iff (api : JsonApi) (clock : ℤ) (es : List Event) :
    Meets (step api) (Right api) (.start clock) es ↔
      Meets (step api) (FindsNoOlder api) (.start clock) es := by
  have hstart : Coherent api (.start clock) :=
    ⟨fun _ _ hm => (nomatch hm), fun _ _ hm => (nomatch hm), fun _ _ _ _ hraw => nomatch hraw⟩
  exact meets_congr coherent_step (fun _ e h => right_iff h e) hstart es

def emptyListText : JsString :=
  js "\x7b\"version\":1,\"scope\":\"u\",\"cachedAt\":1,\"servers\":[]\x7d"

def emptyListJson : JsonApi where
  stringify s := if s.servers.isEmpty ∧ s.cachedAt = 1 ∧ s.version = 1 ∧ s.scope = js "u"
    then some emptyListText else none
  parse raw := if raw = emptyListText then some ⟨⟨1, []⟩, 1, js "u"⟩ else none
  parse_stringify := by
    rintro ⟨⟨cachedAt, servers⟩, version, scope⟩ raw h
    split_ifs at h with hs
    obtain ⟨hnil, rfl, rfl, rfl⟩ := hs
    obtain rfl : servers = [] := List.isEmpty_iff.mp hnil
    rw [← some.inj h, if_pos rfl]

theorem refused_write_brings_back_older_list :
    ¬ Meets (step emptyListJson) (Right emptyListJson) (.start 1)
      [.write (js "u") [] none true,
        .write (js "u") [.object [("id", .string "a"), ("name", .string "a"),
          ("status", .string "online")]] none false,
        .reload, .read (js "u") true true] := by
  rintro ⟨-, -, -, hright, -⟩
  have hlatest := hright ⟨1, []⟩ rfl
  have hlength := congrArg (fun latest => latest.map List.length) hlatest
  exact absurd hlength (by decide)

end XLStatus.Web.ServerCache
