import Mathlib.Data.List.Sort
import Mathlib.Data.String.Basic
import Mathlib.Logic.Relation
import XLStatus.Lib.Checked
import XLStatus.Lib.JsonText

/-! The script that imports an SQLite database into PostgreSQL: the order of the tables, and the
text that `\copy` reads. -/

namespace XLStatus.Scripts

open Checked List

def xlstatusTables : List String :=
  ["agent_ip_events", "agents", "alert_events", "alert_rules", "audit_logs", "ddns_configs",
    "ddns_history", "enrollment_tokens", "nat_mappings", "nat_tunnels", "nat_usage_windows",
    "notification_group_members", "notification_groups", "notifications", "oauth_accounts",
    "personal_access_tokens", "server_group_members", "server_groups", "server_owner_transfers",
    "servers", "service_history", "service_results", "service_servers", "services", "sessions",
    "system_settings", "task_runs", "tasks", "temporary_transfer_tokens", "transfers", "users",
    "waf_bans", "waf_events", "xlstatus_metric_retention_policies"]

def isIdentifier (name : String) : Bool :=
  match name.toList with
  | [] => false
  | c :: rest => (c.isAlpha || c == '_') && rest.length ≤ 62 &&
    rest.all fun c => c.isAlphanum || c == '_'

/-- What the script uses of Python: `repr` and `strip().lower()` of a text, `str` of a float, and
the strict decoding of bytes. -/
structure Python (Float : Type) where
  repr : String → String
  stripLower : String → String
  strFloat : Float → String
  decode : List UInt8 → Except String String

section Python

variable {F : Type} (py : Python F)

def validateIdentifier (kind name : String) : Except String Unit :=
  ensure (isIdentifier name) ("invalid SQL " ++ kind ++ ": " ++ py.repr name)

def validateTableName (table : String) : Except String Unit := do
  validateIdentifier py "table name" table
  ensure (table ∈ xlstatusTables) ("table is not in XLStatus allowlist: " ++ py.repr table)

/-! ## The order of the tables -/

def dependencies (foreignKeys : List (String × String)) (tables : List String) (table : String) :
    List String :=
  ((foreignKeys.filter fun (child, parent) =>
    child = table ∧ child ∈ tables ∧ parent ∈ tables ∧ child ≠ parent).map Prod.snd).dedup.mergeSort

structure Search where
  visiting : List String
  visited : List String
  ordered : List String

/-- A recursion deeper than the fuel is given up. -/
def visit (parents : String → List String) : ℕ → String → Search → Option Search
  | 0, _, _ => none
  | fuel + 1, table, s =>
    if table ∈ s.visited then some s
    else if table ∈ s.visiting then some s
    else do
      let s ← (parents table).foldlM (fun s parent => visit parents fuel parent s)
        { s with visiting := table :: s.visiting }
      some ⟨s.visiting.erase table, table :: s.visited, s.ordered ++ [table]⟩

def orderedTables (foreignKeys : List (String × String)) (tables : List String) :
    Except String (List String) := do
  tables.forM (validateTableName py)
  let parents := dependencies foreignKeys tables
  let s ← require (tables.mergeSort.foldlM
    (fun s table => visit parents (tables.length + 1) table s) ⟨[], [], []⟩) "recursion limit"
  pure s.ordered

end Python

section Search

variable {parents : String → List String} {tables : List String}

structure Search.Good (parents : String → List String) (tables : List String) (s : Search) :
    Prop where
  visited : s.visited.Perm s.ordered
  nodup : (s.visiting ++ s.ordered).Nodup
  subset : s.visiting ++ s.ordered ⊆ tables
  before : (∀ t, ¬ Relation.TransGen (fun a b => b ∈ parents a) t t) →
    ∀ l a r, s.ordered = l ++ a :: r → parents a ⊆ l

structure Search.Extends (s s' : Search) : Prop where
  visiting : s'.visiting = s.visiting
  ordered : s.ordered <+: s'.ordered

theorem Search.Extends.trans {s s' s'' : Search} (h : s.Extends s') (h' : s'.Extends s'') :
    s.Extends s'' := ⟨h'.visiting.trans h.visiting, h.ordered.trans h'.ordered⟩

def VisitsAll (parents : String → List String) (tables : List String) (fuel : ℕ) (s : Search)
    (ts : List String) : Prop :=
  ∃ s', ts.foldlM (fun s t => visit parents fuel t s) s = some s' ∧ s'.Good parents tables ∧
    s.Extends s' ∧ ∀ t ∈ ts, t ∈ s'.ordered ∨ t ∈ s.visiting

theorem visitsAll_of_visit (fuel : ℕ) {s : Search} (hs : s.Good parents tables)
    (ts : List String) (hvisit : ∀ s' : Search, s'.Good parents tables →
      s'.visiting = s.visiting → ∀ t ∈ ts, ∃ s'', visit parents fuel t s' = some s'' ∧
        s''.Good parents tables ∧ s'.Extends s'' ∧ (t ∈ s''.ordered ∨ t ∈ s'.visiting)) :
    VisitsAll parents tables fuel s ts := by
  induction ts generalizing s with
  | nil => exact ⟨s, rfl, hs, ⟨rfl, prefix_rfl⟩, fun t ht => absurd ht not_mem_nil⟩
  | cons t ts ih =>
    obtain ⟨s', hs', hgood', hext', ht⟩ := hvisit s hs rfl t mem_cons_self
    obtain ⟨s'', hs'', hgood'', hext'', hts⟩ := ih hgood' fun σ hσ hvisiting u hu =>
      hvisit σ hσ (hvisiting.trans hext'.visiting) u (mem_cons_of_mem t hu)
    refine ⟨s'', ?_, hgood'', hext'.trans hext'', fun u hu => ?_⟩
    · rw [foldlM_cons, hs']
      exact hs''
    · rcases mem_cons.mp hu with rfl | hu
      · exact ht.imp_left fun h => hext''.ordered.subset h
      · exact (hts u hu).imp_right fun h => hext'.visiting ▸ h

theorem visit_spec (hparents : ∀ t, parents t ⊆ tables) {fuel : ℕ} {s : Search} {table : String}
    (hs : s.Good parents tables) (htable : table ∈ tables)
    (hfuel : tables.length < fuel + s.visiting.length)
    (hreach : ∀ v ∈ s.visiting, Relation.TransGen (fun a b => b ∈ parents a) v table) :
    ∃ s', visit parents fuel table s = some s' ∧ s'.Good parents tables ∧ s.Extends s' ∧
      (table ∈ s'.ordered ∨ table ∈ s.visiting) := by
  induction fuel generalizing s table with
  | zero =>
    have hle := ((nodup_append'.mp hs.nodup).1.subperm fun t ht =>
      hs.subset (mem_append_left _ ht)).length_le
    omega
  | succ fuel ih =>
    unfold visit
    split_ifs with hvisited hvisiting
    · exact ⟨s, rfl, hs, ⟨rfl, prefix_rfl⟩, .inl (hs.visited.subset hvisited)⟩
    · exact ⟨s, rfl, hs, ⟨rfl, prefix_rfl⟩, .inr hvisiting⟩
    have hfresh : table ∉ s.visiting ++ s.ordered := fun h =>
      (mem_append.mp h).elim hvisiting fun h => hvisited (hs.visited.symm.subset h)
    have hentered : Search.Good parents tables { s with visiting := table :: s.visiting } :=
      ⟨hs.visited, nodup_cons.mpr ⟨hfresh, hs.nodup⟩,
        cons_subset.mpr ⟨htable, hs.subset⟩, hs.before⟩
    obtain ⟨s', hfold, hs', hext, hordered⟩ := visitsAll_of_visit fuel hentered (parents table)
      fun σ hσ hvisiting p hp => by
        refine ih hσ (hparents table hp) ?_ fun v hv => ?_
        · rw [hvisiting, length_cons]
          omega
        · rcases mem_cons.mp (hvisiting ▸ hv) with rfl | hv
          · exact .single hp
          · exact (hreach v hv).tail hp
    have hstack : s'.visiting = table :: s.visiting := hext.visiting
    have hnodup : (table :: s.visiting ++ s'.ordered).Nodup := hstack ▸ hs'.nodup
    have hsubset : table :: s.visiting ++ s'.ordered ⊆ tables := hstack ▸ hs'.subset
    rw [hfold]
    refine ⟨_, rfl, ⟨?_, ?_, ?_, fun hacyclic l a r heq => ?_⟩, ⟨?_, ?_⟩, .inl ?_⟩
    · exact (hs'.visited.cons table).trans (perm_append_singleton _ _).symm
    · simp only [hstack, erase_cons_head]
      rw [← append_assoc]
      exact (perm_append_singleton table _).nodup_iff.mpr hnodup
    · simp only [hstack, erase_cons_head]
      rw [← append_assoc]
      exact List.Subset.trans (perm_append_singleton table _).subset hsubset
    · rcases eq_nil_or_concat r with rfl | ⟨r, b, rfl⟩
      · obtain ⟨rfl, ha⟩ := append_inj' heq rfl
        obtain rfl := head_eq_of_cons_eq ha
        intro p hp
        -- a parent that is being visited would close a cycle
        refine (hordered p hp).resolve_right fun hv => hacyclic p ?_
        rcases mem_cons.mp hv with rfl | hv
        · exact .single hp
        · exact (hreach p hv).tail hp
      · rw [concat_eq_append, ← cons_append, ← append_assoc] at heq
        exact hs'.before hacyclic l a r (append_inj' heq rfl).1
    · simp only [hstack, erase_cons_head]
    · exact hext.ordered.trans (prefix_append _ _)
    · exact mem_append_right _ mem_cons_self

end Search

/-- The foreign keys that count: between two tables of the set, and no self references. -/
def References (foreignKeys : List (String × String)) (tables : List String)
    (child parent : String) : Prop :=
  (child, parent) ∈ foreignKeys ∧ child ∈ tables ∧ parent ∈ tables ∧ child ≠ parent

theorem mem_dependencies {foreignKeys : List (String × String)} {tables : List String}
    {child parent : String} :
    parent ∈ dependencies foreignKeys tables child ↔
      References foreignKeys tables child parent := by
  simp only [dependencies, mem_mergeSort, mem_dedup, mem_map, mem_filter,
    decide_eq_true_eq, References]
  constructor
  · rintro ⟨⟨_, _⟩, ⟨hmem, rfl, hrest⟩, rfl⟩
    exact ⟨hmem, hrest⟩
  · rintro ⟨hmem, hrest⟩
    exact ⟨_, ⟨hmem, rfl, hrest⟩, rfl⟩

theorem validateTableName_eq_ok {F : Type} (py : Python F) {table : String} :
    validateTableName py table = .ok () ↔ table ∈ xlstatusTables := by
  have hidentifier : xlstatusTables.all isIdentifier = true := by decide +kernel
  unfold validateTableName validateIdentifier
  constructor
  · intro h
    obtain ⟨-, -, h⟩ := bind_eq_ok.mp h
    simpa using ensure_eq_ok.mp h
  · intro h
    rw [ensure, if_pos (all_eq_true.mp hidentifier table h)]
    exact if_pos (decide_eq_true h)

def InOrder (foreignKeys : List (String × String)) (tables ordered : List String) : Prop :=
  ordered.Nodup ∧ (∀ t, t ∈ ordered ↔ t ∈ tables) ∧
    ((∀ t, ¬ Relation.TransGen (References foreignKeys tables) t t) →
      ∀ child parent, References foreignKeys tables child parent →
        ∃ l m r, ordered = l ++ parent :: m ++ child :: r)

theorem exists_inOrder (foreignKeys : List (String × String)) (tables : List String) :
    ∃ s, tables.mergeSort.foldlM (fun s table =>
        visit (dependencies foreignKeys tables) (tables.length + 1) table s) ⟨[], [], []⟩ = some s ∧
      InOrder foreignKeys tables s.ordered := by
  have hparents : ∀ t, dependencies foreignKeys tables t ⊆ tables := fun t p hp =>
    (mem_dependencies.mp hp).2.2.1
  have hrel : (fun a b => b ∈ dependencies foreignKeys tables a) = References foreignKeys tables :=
    funext fun _ => funext fun _ => propext mem_dependencies
  have hstart : Search.Good (dependencies foreignKeys tables) tables ⟨[], [], []⟩ :=
    ⟨.nil, nodup_nil, nil_subset _, fun _ l a r h => by simp at h⟩
  obtain ⟨s, hfold, hs, hext, hall⟩ :=
    visitsAll_of_visit (tables.length + 1) hstart tables.mergeSort fun σ hσ hvisiting t ht => by
      have hvisiting : σ.visiting = [] := hvisiting
      refine visit_spec hparents hσ (mem_mergeSort.mp ht) (by omega) fun v hv => ?_
      exact absurd (hvisiting ▸ hv) not_mem_nil
  have hmem : ∀ t, t ∈ s.ordered ↔ t ∈ tables := fun t =>
    ⟨fun ht => hs.subset (mem_append_right _ ht), fun ht =>
      (hall t (mem_mergeSort.mpr ht)).resolve_right not_mem_nil⟩
  refine ⟨s, hfold, (nodup_append'.mp hs.nodup).2.1, hmem, fun hacyclic c p href => ?_⟩
  obtain ⟨l, r, heq⟩ := append_of_mem ((hmem c).mpr href.2.1)
  obtain ⟨l', m, rfl⟩ := append_of_mem
    (hs.before (hrel ▸ hacyclic) l c r heq (mem_dependencies.mpr href))
  exact ⟨l', m, r, heq⟩

theorem ordered_tables_respect_references {F : Type} (py : Python F)
    (foreignKeys : List (String × String)) (tables : List String) :
    (if ∀ t ∈ tables, t ∈ xlstatusTables then
      ∃ ordered, orderedTables py foreignKeys tables = .ok ordered ∧
        InOrder foreignKeys tables ordered
    else ∃ e, orderedTables py foreignKeys tables = .error e) := by
  obtain ⟨s, hfold, hordered⟩ := exists_inOrder foreignKeys tables
  have hchecks : tables.forM (validateTableName py) = .ok () ↔ ∀ t ∈ tables, t ∈ xlstatusTables :=
    forM_eq_ok.trans (forall₂_congr fun t _ => validateTableName_eq_ok py)
  unfold orderedTables
  split_ifs with htables
  · rw [hchecks.mpr htables]
    simp only [hfold]
    exact ⟨_, rfl, hordered⟩
  · cases hresult : tables.forM (validateTableName py) with
    | error e => exact ⟨e, rfl⟩
    | ok u => exact absurd (hchecks.mp hresult) htables


/-! ## The rows of a table -/

inductive SqliteValue (Float : Type) where
  | null
  | integer (n : ℤ)
  | real (x : Float)
  | text (s : String)
  | blob (bytes : List UInt8)

structure Column where
  name : String
  dataType : String
  udtName : String
  nullable : String

section Rows

variable {F : Type} (py : Python F)

def convertText (column : Column) (text : String) : Option String :=
  let isBoolean := column.dataType = "boolean" ∨ column.udtName = "bool"
  if isBoolean ∧ py.stripLower text ∈ ["1", "t", "true", "y", "yes", "on"] then some "true"
  else if isBoolean ∧ py.stripLower text ∈ ["0", "f", "false", "n", "no", "off"] then some "false"
  else if text = "" ∧ column.nullable = "YES" ∧
      column.udtName ∈ ["uuid", "timestamptz", "timestamp"] then none
  else some text

def convert (column : Column) : SqliteValue F → Except String (Option String)
  | .null => .ok none
  | .integer n =>
    if column.dataType = "boolean" ∨ column.udtName = "bool" then
      .ok (some (if n ≠ 0 then "true" else "false"))
    else .ok (some (toString n))
  | .real x => .ok (convertText py column (py.strFloat x))
  | .text s => .ok (convertText py column s)
  | .blob bytes => do return convertText py column (← py.decode bytes)

def copyTextEscapes : List (Char × Char) :=
  [('\\', '\\'), ('\x08', 'b'), ('\x0c', 'f'), ('\n', 'n'), ('\r', 'r'), ('\t', 't'), ('\x0b', 'v')]

def encodeChar (c : Char) : List Char :=
  match copyTextEscapes.lookup c with
  | some escape => ['\\', escape]
  | none => [c]

def encodeCopyText : Option String → List Char
  | none => ['\\', 'N']
  | some s => s.toList.flatMap encodeChar

def copyLine (row : List (Option String)) : List Char :=
  ['\t'].intercalate (row.map encodeCopyText) ++ ['\n']

def qident (name : String) : Except String (List Char) := do
  validateIdentifier py "identifier" name
  return '"' :: name.toList.flatMap (fun c => if c = '"' then ['"', '"'] else [c]) ++ ['"']

def copyHeader (table : String) (columns : List Column) : Except String (List Char) := do
  let quoted ← qident py table
  let names ← columns.mapM fun column => qident py column.name
  return "\\copy ".toList ++ quoted ++ " (".toList ++ ", ".toList.intercalate names ++
    ") FROM STDIN WITH (FORMAT text, NULL '\\N')\n".toList

def convertRow (columns : List Column) (row : String → SqliteValue F) :
    Except String (List (Option String)) :=
  columns.mapM fun column => convert py column (row column.name)

def streamTable (table : String) (columns : List Column) (rows : List (String → SqliteValue F)) :
    Except String (List Char × ℕ) := do
  let header ← copyHeader py table columns
  if rows = [] then return ([], 0)
  let converted ← rows.mapM (convertRow py columns)
  return (header ++ converted.flatMap copyLine ++ ['\\', '.', '\n'], rows.length)

end Rows

/-! ## How PostgreSQL reads them -/

def escapedChar : Char → Char
  | 'b' => '\x08'
  | 'f' => '\x0c'
  | 'n' => '\n'
  | 'r' => '\r'
  | 't' => '\t'
  | 'v' => '\x0b'
  | c => c

def digitsValue (base : ℕ) (digits : List Char) : UInt8 :=
  UInt8.ofNat (digits.foldl (fun n c => base * n + (JsonText.hexValue c).getD 0) 0)

/-- The bytes of a field: a backslash stands before one to three octal digits, before `x` and one
or two hexadecimal ones, or before a character. -/
def unescape : List Char → List UInt8
  | [] => []
  | c :: rest =>
    if c = '\\' then match rest with
      | [] => String.utf8EncodeChar c
      | e :: rest =>
        let octal := (e :: rest.take 2).takeWhile fun d => '0' ≤ d ∧ d ≤ '7'
        let hex := (rest.take 2).takeWhile Text.isAsciiHexDigit
        if octal ≠ [] then digitsValue 8 octal :: unescape (rest.drop (octal.length - 1))
        else if e = 'x' ∧ hex ≠ [] then digitsValue 16 hex :: unescape (rest.drop hex.length)
        else String.utf8EncodeChar (escapedChar e) ++ unescape rest
    else String.utf8EncodeChar c ++ unescape rest
termination_by l => l.length

def decodeField (raw : List Char) : Option (List UInt8) :=
  if raw = ['\\', 'N'] then none else some (unescape raw)

def decodeRow (columns : ℕ) (raw : List (List Char)) : Option (List (Option (List UInt8))) :=
  if columns = 0 then if raw = [[]] then some [] else none
  else if raw.length = columns then some (raw.map decodeField) else none

/-- The rows up to the end of the data, and what follows it. -/
def readCopy (columns : ℕ) : List Char → List (List Char) → List Char →
    Option (List (List (Option (List UInt8))) × List Char)
  | [], _, _ => none
  | c :: rest, fields, raw =>
    if c = '\\' then match rest with
      | [] => none
      | '.' :: rest => if fields = [] ∧ raw = [] ∧ rest.head? = some '\n' then some ([], rest.tail)
        else none
      | e :: rest => readCopy columns rest fields (raw ++ [c, e])
    else if c = '\t' then readCopy columns rest (fields ++ [raw]) []
    else if c = '\n' then
      (decodeRow columns (fields ++ [raw])).bind fun row =>
        (readCopy columns rest [] []).map (Prod.map (row :: ·) id)
    else if c = '\r' ∨ c = '\x00' then none
    else readCopy columns rest fields (raw ++ [c])

theorem encodeChar_cases (c : Char) :
    (∃ e, encodeChar c = ['\\', e] ∧ escapedChar e = c ∧ e ≠ '.' ∧ e ≠ 'x' ∧
      ¬ ('0' ≤ e ∧ e ≤ '7')) ∨
    encodeChar c = [c] ∧ c ≠ '\\' ∧ c ≠ '\t' ∧ c ≠ '\n' ∧ c ≠ '\r' := by
  have hpairs : ∀ x ∈ copyTextEscapes, escapedChar x.2 = x.1 ∧ x.2 ≠ '.' ∧ x.2 ≠ 'x' ∧
      ¬ ('0' ≤ x.2 ∧ x.2 ≤ '7') := by decide
  unfold encodeChar
  cases hlookup : copyTextEscapes.lookup c with
  | some e =>
    obtain ⟨l, r, hsplit, -⟩ := List.lookup_eq_some_iff.mp hlookup
    exact .inl ⟨e, rfl, hpairs (c, e) (hsplit ▸ List.mem_append_right l List.mem_cons_self)⟩
  | none =>
    have hne : ∀ x ∈ copyTextEscapes, c ≠ x.1 := by simpa using List.lookup_eq_none_iff.mp hlookup
    exact .inr ⟨rfl, hne ('\\', '\\') (by decide), hne ('\t', 't') (by decide),
      hne ('\n', 'n') (by decide), hne ('\r', 'r') (by decide)⟩

theorem readCopy_escape (columns : ℕ) {e : Char} (he : e ≠ '.') (rest : List Char)
    (fields : List (List Char)) (raw : List Char) :
    readCopy columns ('\\' :: e :: rest) fields raw =
      readCopy columns rest fields (raw ++ ['\\', e]) := by
  simp [readCopy]

theorem readCopy_newline (columns : ℕ) (rest : List Char) (fields : List (List Char))
    (raw : List Char) :
    readCopy columns ('\n' :: rest) fields raw =
      (decodeRow columns (fields ++ [raw])).bind fun row =>
        (readCopy columns rest [] []).map (Prod.map (row :: ·) id) := by
  rw [readCopy.eq_def]
  simp

theorem readCopy_encodeCopyText (columns : ℕ) {value : Option String}
    (hvalue : ∀ s ∈ value, '\x00' ∉ s.toList) (rest : List Char) (fields : List (List Char)) :
    readCopy columns (encodeCopyText value ++ rest) fields [] =
      readCopy columns rest fields (encodeCopyText value) := by
  cases value with
  | none => exact readCopy_escape columns (by decide) rest fields []
  | some s =>
    suffices h : ∀ l : List Char, '\x00' ∉ l → ∀ raw,
        readCopy columns (l.flatMap encodeChar ++ rest) fields raw =
          readCopy columns rest fields (raw ++ l.flatMap encodeChar) from
      h s.toList (hvalue s rfl) []
    intro l hl raw
    induction l generalizing raw with
    | nil => simp
    | cons c l ih =>
      obtain ⟨hc, hl⟩ := not_or.mp (mt List.mem_cons.mpr hl)
      rw [List.flatMap_cons, List.append_assoc, ← List.append_assoc raw, ← ih hl]
      obtain ⟨e, henc, -, hdot, -⟩ | ⟨henc, hback, htab, hline, hreturn⟩ := encodeChar_cases c
      · rw [henc]
        exact readCopy_escape columns hdot _ fields raw
      · rw [henc, List.singleton_append, readCopy.eq_def]
        simp [hback, htab, hline, hreturn, Ne.symm hc]

theorem unescape_encodeChars (l : List Char) :
    unescape (l.flatMap encodeChar) = l.flatMap String.utf8EncodeChar := by
  induction l with
  | nil => simp [unescape]
  | cons c l ih =>
    rw [List.flatMap_cons, List.flatMap_cons, ← ih]
    obtain ⟨e, henc, hescaped, -, hx, hoctal⟩ | ⟨henc, hback, -⟩ := encodeChar_cases c
    · rw [henc, List.cons_append, List.singleton_append, unescape]
      simp [hescaped, hx, hoctal]
    · rw [henc, List.singleton_append, unescape.eq_def]
      exact if_neg hback

theorem decodeField_encodeCopyText (value : Option String) :
    decodeField (encodeCopyText value) = value.map Text.bytes := by
  cases value with
  | none => rfl
  | some s =>
    refine (if_neg fun h => ?_).trans (congrArg some (unescape_encodeChars s.toList))
    have hbytes : Text.bytes s = Text.bytes "N" := by
      rw [Text.bytes, ← unescape_encodeChars, show s.toList.flatMap encodeChar = _ from h]
      simp [unescape, escapedChar, Text.bytes]
    rw [Text.bytes_inj.mp hbytes] at h
    exact absurd h (by decide)

theorem readCopy_copyLine {row : List (Option String)}
    (hrow : ∀ value ∈ row, ∀ s ∈ value, '\x00' ∉ s.toList) (rest : List Char) :
    readCopy row.length (copyLine row ++ rest) [] [] =
      (readCopy row.length rest [] []).map
        (Prod.map (row.map (Option.map Text.bytes) :: ·) id) := by
  suffices h : ∀ columns value values, (∀ v ∈ value :: values, ∀ s ∈ v, '\x00' ∉ s.toList) →
      ∀ fields, readCopy columns (copyLine (value :: values) ++ rest) fields [] =
        (decodeRow columns (fields ++ (value :: values).map encodeCopyText)).bind fun row =>
          (readCopy columns rest [] []).map (Prod.map (row :: ·) id) by
    cases row with
    | nil => exact readCopy_newline 0 rest [] []
    | cons =>
      have hdecoded : decodeField ∘ encodeCopyText = Option.map Text.bytes :=
        funext decodeField_encodeCopyText
      rw [h _ _ _ hrow, List.nil_append, decodeRow, if_neg (by simp), if_pos (by simp),
        List.map_map, hdecoded]
      rfl
  intro columns value values hvalues fields
  obtain ⟨hvalue, hvalues⟩ := List.forall_mem_cons.mp hvalues
  induction values generalizing value fields with
  | nil =>
    simp only [copyLine, List.map_cons, List.map_nil, List.intercalate_singleton,
      List.append_assoc]
    rw [readCopy_encodeCopyText columns hvalue]
    exact readCopy_newline columns rest fields _
  | cons next values ih =>
    obtain ⟨hnext, hvalues⟩ := List.forall_mem_cons.mp hvalues
    have hline : copyLine (value :: next :: values) =
        encodeCopyText value ++ '\t' :: copyLine (next :: values) := by
      simp [copyLine, List.intercalate_cons_cons]
    have htab : readCopy columns ('\t' :: (copyLine (next :: values) ++ rest)) fields
        (encodeCopyText value) = readCopy columns (copyLine (next :: values) ++ rest)
          (fields ++ [encodeCopyText value]) [] := by
      rw [readCopy.eq_def]
      simp
    rw [hline, List.append_assoc, readCopy_encodeCopyText columns hvalue, List.cons_append, htab,
      ih next (List.forall_mem_cons.mpr ⟨hnext, hvalues⟩) _ hnext hvalues, List.append_assoc]
    rfl

theorem readCopy_rows {columns : ℕ} {rows : List (List (Option String))}
    (hlength : ∀ row ∈ rows, row.length = columns)
    (hnul : ∀ row ∈ rows, ∀ value ∈ row, ∀ s ∈ value, '\x00' ∉ s.toList) (rest : List Char) :
    readCopy columns (rows.flatMap copyLine ++ '\\' :: '.' :: '\n' :: rest) [] [] =
      some (rows.map fun row => row.map (Option.map Text.bytes), rest) := by
  induction rows with
  | nil => rfl
  | cons row rows ih =>
    obtain ⟨hrow, hnul⟩ := List.forall_mem_cons.mp hnul
    obtain ⟨rfl, hlength⟩ := List.forall_mem_cons.mp hlength
    rw [List.flatMap_cons, List.append_assoc, readCopy_copyLine hrow, ih hlength hnul]
    rfl

/-- Of a table whose rows are converted, `\copy` reads the converted rows and no more. -/
theorem import_preserves_rows {F : Type} (py : Python F) (table : String) (columns : List Column)
    (rows : List (String → SqliteValue F)) (header : List Char)
    (hheader : copyHeader py table columns = .ok header) (converted : List (List (Option String)))
    (hconverted : rows.mapM (convertRow py columns) = .ok converted)
    (hnul : ∀ row ∈ converted, ∀ value ∈ row, ∀ s ∈ value, '\x00' ∉ s.toList) :
    ∃ data, streamTable py table columns rows =
        .ok (if rows = [] then [] else header ++ data, converted.length) ∧
      ∀ rest, readCopy columns.length (data ++ rest) [] [] =
        some (converted.map fun row => row.map (Option.map Text.bytes), rest) := by
  have hforall := mapM_eq_ok.mp hconverted
  refine ⟨converted.flatMap copyLine ++ ['\\', '.', '\n'], ?_, fun rest => ?_⟩
  · unfold streamTable
    rw [hheader, hconverted, ← hforall.length_eq]
    by_cases hrows : rows = []
    · rw [hrows]
      rfl
    · simp [hrows, bind, Except.bind, pure, Except.pure]
  · rw [List.append_assoc]
    refine readCopy_rows (fun row hrow => ?_) hnul rest
    obtain ⟨source, -, h⟩ := exists_of_mem_mapM hconverted hrow
    exact (mapM_eq_ok.mp h).length_eq.symm

namespace Sample

def py : Python Unit := ⟨id, id, fun _ => "0.0", fun _ => .error "'utf-8' codec can't decode"⟩

def columns : List Column := [⟨"username", "text", "text", "NO"⟩, ⟨"email", "text", "text", "YES"⟩]

def row : String → SqliteValue Unit := fun name =>
  if name = "email" then .null else .text "a\tb\\N"

end Sample

theorem import_preserves_rows_sample :
    ∃ data, streamTable Sample.py "users" Sample.columns [Sample.row] =
        .ok ("\\copy \"users\" (\"username\", \"email\") ".toList ++
          "FROM STDIN WITH (FORMAT text, NULL '\\N')\n".toList ++ data, 1) ∧
      readCopy 2 data [] [] = some ([[some (Text.bytes "a\tb\\N"), none]], []) := by
  obtain ⟨data, hstream, hread⟩ := import_preserves_rows Sample.py "users" Sample.columns
    [Sample.row] _ rfl [[some "a\tb\\N", none]] rfl (by simp)
  refine ⟨data, hstream, ?_⟩
  have hread := hread []
  rwa [append_nil] at hread

end XLStatus.Scripts
