import XLStatus.Lib.FsPath

/-! Directory trees with symbolic links. An object is named by its canonical path, the
names from the root down to it; `resolve` walks a path as the kernel does, following at
most so many links. -/

namespace XLStatus

open List Option Function

open FsPath (Component)

inductive Node where
  | dir
  | file (data : List UInt8)
  | symlink (target : String)
  deriving DecidableEq, Repr

def validName (name : String) : Bool :=
  name != "" && name != "." && name != ".." && !name.toList.contains '/' &&
    !name.toList.contains '\x00'

/-- Every object but the root lies in a directory under a proper name. -/
structure FileTree where
  node : List String → Option Node
  root_dir : node [] = some .dir
  parent_dir : ∀ path name n, node (path ++ [name]) = some n → node path = some .dir
  names : ∀ path name n, node (path ++ [name]) = some n → validName name = true

namespace FileTree

variable {n : Node} {rest obj cur cur' c d p : List String} {comp : Component} {name : String}
  {path path' : List Component} {links : ℕ}
  {follow' : List String → List Component → Option (List String)}

theorem mem_of_lookup {entries : List (List String × Node)} {path : List String}
    (h : entries.lookup path = some n) : (path, n) ∈ entries := by
  obtain ⟨before, after, rfl, -⟩ := lookup_eq_some_iff.mp h
  simp

def ofEntries (entries : List (List String × Node)) (hroot : entries.lookup [] = some .dir)
    (hentries : ∀ e ∈ entries, e.1 = [] ∨
      (entries.lookup e.1.dropLast = some .dir ∧ e.1.getLast?.any validName = true)) :
    FileTree where
  node := fun path => entries.lookup path
  root_dir := hroot
  parent_dir := by
    intro path name n h
    rcases hentries _ (mem_of_lookup h) with hnil | ⟨hdir, -⟩
    · simp at hnil
    · simpa using hdir
  names := by
    intro path name n h
    rcases hentries _ (mem_of_lookup h) with hnil | ⟨-, hname⟩
    · simp at hnil
    · simpa using hname

variable {t t' : FileTree} {follow : List String → List Component → Option (List String)}

def walk (t : FileTree) (follow : List String → List Component → Option (List String)) :
    List String → List Component → Option (List String)
  | cur, [] => some cur
  | _, .rootDir :: rest => walk t follow [] rest
  | cur, .curDir :: rest => if t.node cur = some .dir then walk t follow cur rest else none
  | cur, .parentDir :: rest =>
    if t.node cur = some .dir then walk t follow cur.dropLast rest else none
  | cur, .normal name :: rest =>
    match t.node (cur ++ [name]) with
    | none => none
    | some (.symlink target) => follow cur (FsPath.rawComponents target ++ rest)
    | some _ => walk t follow (cur ++ [name]) rest

/-- Resolution of a path from a directory, with a number of links to follow. -/
def resolve (t : FileTree) : ℕ → List String → List Component → Option (List String)
  | 0 => walk t fun _ _ => none
  | links + 1 => walk t (resolve t links)

def maxSymlinks : ℕ := 40

def canonicalize (t : FileTree) (path : List Component) : Option (List String) :=
  t.resolve maxSymlinks [] path

def tryExists (t : FileTree) (path : List Component) : Bool := (t.canonicalize path).isSome

def literal (path : List String) : List Component := .rootDir :: path.map .normal

theorem node_of_isPrefix {path : List String} (hne : rest ≠ [])
    (h : t.node (path ++ rest) = some n) : t.node path = some .dir := by
  induction rest using reverseRecOn generalizing n with
  | nil => exact absurd rfl hne
  | append_singleton rest name ih =>
    rw [← append_assoc] at h
    have hdir := t.parent_dir _ _ _ h
    by_cases hrest : rest = []
    · rwa [hrest, append_nil] at hdir
    · exact ih hrest hdir

theorem isSome_of_isPrefix {path : List String} (hpre : path <+: obj)
    (h : (t.node obj).isSome = true) : (t.node path).isSome = true := by
  obtain ⟨rest, rfl⟩ := hpre
  by_cases hrest : rest = []
  · rwa [hrest, append_nil] at h
  · obtain ⟨n, hn⟩ := isSome_iff_exists.mp h
    rw [node_of_isPrefix hrest hn]
    rfl

theorem validName_of_mem {path : List String} (h : (t.node path).isSome = true) :
    ∀ name ∈ path, validName name = true := by
  induction path using reverseRecOn with
  | nil => exact fun name hname => absurd hname not_mem_nil
  | append_singleton path last ih =>
    obtain ⟨n, hn⟩ := isSome_iff_exists.mp h
    intro name hname
    rcases mem_append.mp hname with hmem | hlast
    · exact ih (isSome_of_isPrefix (prefix_append _ _) h) name hmem
    · rw [mem_singleton.mp hlast]
      exact t.names _ _ _ hn

def Solid (t : FileTree) (path : List String) : Prop :=
  ∃ n, t.node path = some n ∧ ∀ target, n ≠ .symlink target

theorem solid_of_dir {path : List String} (h : t.node path = some .dir) : t.Solid path :=
  ⟨.dir, h, fun _ h => nomatch h⟩

theorem dir_dropLast {path : List String} (h : t.node path = some .dir) :
    t.node path.dropLast = some .dir := by
  obtain rfl | ⟨path, name, rfl⟩ := eq_nil_or_concat' path
  · exact t.root_dir
  · rw [dropLast_concat]
    exact t.parent_dir _ _ _ h

inductive Move (t : FileTree) : List String → Component → List String → Prop where
  | rootDir (cur : List String) : Move t cur .rootDir []
  | curDir {cur : List String} (h : t.node cur = some .dir) : Move t cur .curDir cur
  | parentDir {cur : List String} (h : t.node cur = some .dir) : Move t cur .parentDir cur.dropLast
  | normal {cur : List String} {name : String} (h : t.Solid (cur ++ [name])) :
      Move t cur (.normal name) (cur ++ [name])

theorem Move.solid (h : t.Move cur comp cur') :
    t.Solid cur' := by
  cases h with
  | rootDir => exact solid_of_dir t.root_dir
  | curDir hdir => exact solid_of_dir hdir
  | parentDir hdir => exact solid_of_dir (dir_dropLast hdir)
  | normal hsolid => exact hsolid

theorem walk_of_move (h : t.Move cur comp cur') (rest : List Component) :
    t.walk follow cur (comp :: rest) = t.walk follow cur' rest := by
  cases h with
  | rootDir => rfl
  | curDir hdir => simp only [walk, hdir, if_true]
  | parentDir hdir => simp only [walk, hdir, if_true]
  | normal hsolid =>
    obtain ⟨n, hn, hlink⟩ := hsolid
    simp only [walk, hn]

theorem walk_of_link {target : String} (h : t.node (cur ++ [name]) = some (.symlink target))
    (rest : List Component) :
    t.walk follow cur (.normal name :: rest) =
      follow cur (FsPath.rawComponents target ++ rest) := by
  simp only [walk, h]

theorem walk_cons {rest : List Component} (h : t.walk follow cur (comp :: rest) = some c) :
    (∃ cur', t.Move cur comp cur' ∧ t.walk follow cur' rest = some c) ∨
      ∃ name target, comp = .normal name ∧ t.node (cur ++ [name]) = some (.symlink target) ∧
        follow cur (FsPath.rawComponents target ++ rest) = some c := by
  have hmove : ∀ cur', t.Move cur comp cur' →
      ∃ cur', t.Move cur comp cur' ∧ t.walk follow cur' rest = some c :=
    fun cur' hmove => ⟨cur', hmove, (walk_of_move hmove rest).symm.trans h⟩
  cases comp with
  | rootDir => exact .inl (hmove _ (.rootDir cur))
  | curDir =>
    simp only [walk] at h
    split at h
    · rename_i hdir
      exact .inl (hmove _ (.curDir hdir))
    · cases h
  | parentDir =>
    simp only [walk] at h
    split at h
    · rename_i hdir
      exact .inl (hmove _ (.parentDir hdir))
    · cases h
  | normal name =>
    cases hn : t.node (cur ++ [name]) with
    | none => simp [walk, hn] at h
    | some n =>
      cases n with
      | symlink target => exact .inr ⟨name, target, rfl, hn, (walk_of_link hn rest).symm.trans h⟩
      | dir => exact .inl (hmove _ (.normal ⟨_, hn, nofun⟩))
      | file => exact .inl (hmove _ (.normal ⟨_, hn, nofun⟩))

theorem solid_walk (hfollow : ∀ cur path c, t.node cur = some .dir → follow cur path = some c →
      t.Solid c) (hcur : t.Solid cur) (h : t.walk follow cur path = some c) : t.Solid c := by
  induction path generalizing cur with
  | nil =>
    cases h
    exact hcur
  | cons comp rest ih =>
    obtain ⟨cur', hmove, h⟩ | ⟨name, target, rfl, hlink, h⟩ := walk_cons h
    · exact ih hmove.solid h
    · exact hfollow _ _ _ (t.parent_dir _ _ _ hlink) h

theorem solid_resolve (hcur : t.Solid cur) (h : t.resolve links cur path = some c) : t.Solid c := by
  induction links generalizing cur path c with
  | zero => exact solid_walk (fun _ _ _ _ h => by cases h) hcur h
  | succ links ih => exact solid_walk (fun _ _ _ hdir => ih (solid_of_dir hdir)) hcur h

theorem solid_canonicalize (h : t.canonicalize path = some c) :
    t.Solid c := solid_resolve (solid_of_dir t.root_dir) h

theorem walk_append
    (hfollow : ∀ cur path, follow cur path = some c → follow' cur (path ++ path') = some d)
    (hrest : t.walk follow' c path' = some d) (h : t.walk follow cur path = some c) :
    t.walk follow' cur (path ++ path') = some d := by
  induction path generalizing cur with
  | nil =>
    cases h
    exact hrest
  | cons comp rest ih =>
    rw [cons_append]
    obtain ⟨cur', hmove, h⟩ | ⟨name, target, rfl, hlink, h⟩ := walk_cons h
    · rw [walk_of_move hmove]
      exact ih h
    · rw [walk_of_link hlink, ← append_assoc]
      exact hfollow _ _ h

theorem resolve_append (hrest : ∀ follow, t.walk follow c path' = some d)
    (h : t.resolve links cur path = some c) :
    t.resolve links cur (path ++ path') = some d := by
  induction links generalizing cur path with
  | zero => exact walk_append (fun _ _ h => by cases h) (hrest _) h
  | succ links ih => exact walk_append (fun _ _ => ih) (hrest _) h

def Extends (t t' : FileTree) : Prop := ∀ path n, t.node path = some n → t'.node path = some n

theorem Extends.refl (t : FileTree) : t.Extends t := fun _ _ h => h

theorem Extends.trans {t₁ t₂ t₃ : FileTree} (h₁ : t₁.Extends t₂) (h₂ : t₂.Extends t₃) :
    t₁.Extends t₃ := fun path n h => h₂ path n (h₁ path n h)

theorem Move.mono (hext : t.Extends t') (h : t.Move cur comp cur') : t'.Move cur comp cur' := by
  cases h with
  | rootDir => exact .rootDir cur
  | curDir hdir => exact .curDir (hext _ _ hdir)
  | parentDir hdir => exact .parentDir (hext _ _ hdir)
  | normal hsolid =>
    obtain ⟨n, hn, hlink⟩ := hsolid
    exact .normal ⟨n, hext _ _ hn, hlink⟩

theorem walk_mono (hext : t.Extends t') (hfollow : ∀ cur path c, follow cur path = some c → follow'
      cur path = some c) (h : t.walk follow cur path = some c) :
    t'.walk follow' cur path = some c := by
  induction path generalizing cur with
  | nil => exact h
  | cons comp rest ih =>
    obtain ⟨cur', hmove, h⟩ | ⟨name, target, rfl, hlink, h⟩ := walk_cons h
    · rw [walk_of_move (hmove.mono hext)]
      exact ih h
    -- The rest of the walk is left to `follow`, which has less fuel for links.
    · rw [walk_of_link (hext _ _ hlink)]
      exact hfollow _ _ _ h

theorem resolve_mono (hext : t.Extends t') (h : t.resolve links cur path = some c) :
    t'.resolve links cur path = some c := by
  induction links generalizing cur path c with
  | zero => exact walk_mono hext (fun _ _ _ h => by cases h) h
  | succ links ih => exact walk_mono hext (fun _ _ _ => ih) h

theorem canonicalize_mono (hext : t.Extends t') (h : t.canonicalize path = some c) :
    t'.canonicalize path = some c := resolve_mono hext h

theorem walk_normals (h : ∀ pre, pre <+: rest → pre ≠ [] → t.Solid (cur ++ pre)) :
    t.walk follow cur (rest.map .normal ++ path) = t.walk follow (cur ++ rest) path := by
  induction rest generalizing cur with
  | nil => rw [append_nil, map_nil, nil_append]
  | cons name rest ih =>
    have hmove : t.Move cur (.normal name) (cur ++ [name]) :=
      .normal (h [name] ⟨rest, rfl⟩ (cons_ne_nil _ _))
    rw [map_cons, cons_append, walk_of_move hmove, ih]
    · rw [append_assoc, singleton_append]
    · intro pre hpre _
      have := h (name :: pre) (prefix_cons_inj _ |>.mpr hpre) (cons_ne_nil _ _)
      rwa [append_assoc, singleton_append]

theorem canonicalize_literal (h : t.node obj = some .dir) (path : List Component) :
    t.canonicalize (literal obj ++ path) = t.resolve maxSymlinks obj path := by
  have hsolid : ∀ pre, pre <+: obj → pre ≠ [] → t.Solid ([] ++ pre) := by
    rintro pre ⟨rest, rfl⟩ -
    by_cases hrest : rest = []
    · rw [hrest, append_nil] at h
      exact solid_of_dir h
    · exact solid_of_dir (node_of_isPrefix hrest h)
  have hlit : literal obj ++ path = .rootDir :: (obj.map .normal ++ path) := rfl
  rw [hlit]
  exact walk_normals hsolid

def put (t : FileTree) (path : List String) (name : String) (n : Node) : FileTree :=
  if h : t.node path = some .dir ∧ validName name = true ∧ t.node (path ++ [name]) ≠ some .dir then
    { node := Function.update t.node (path ++ [name]) (some n)
      root_dir := by
        rw [update_of_ne (by simp)]
        exact t.root_dir
      parent_dir := by
        intro p x m hm
        by_cases heq : p ++ [x] = path ++ [name]
        · obtain rfl : p = path := append_inj_left' heq rfl
          rw [update_of_ne (by simp)]
          exact h.1
        · rw [update_of_ne heq] at hm
          have hdir := t.parent_dir p x m hm
          have hne : p ≠ path ++ [name] := fun hp => h.2.2 (hp ▸ hdir)
          rwa [update_of_ne hne]
      names := by
        intro p x m hm
        by_cases heq : p ++ [x] = path ++ [name]
        · obtain rfl : x = name := singleton_inj.mp (append_inj_right' heq rfl)
          exact h.2.1
        · rw [update_of_ne heq] at hm
          exact t.names p x m hm }
  else t

def remove (t : FileTree) (path : List String) : FileTree :=
  if h : path ≠ [] then
    { node := fun p => if path <+: p then none else t.node p
      root_dir := by
        rw [if_neg (by simpa using h)]
        exact t.root_dir
      parent_dir := by
        intro p x m hm
        split at hm
        · cases hm
        · rename_i hpre
          rw [if_neg fun hp => hpre (hp.trans (prefix_append _ _))]
          exact t.parent_dir p x m hm
      names := by
        intro p x m hm
        split at hm
        · cases hm
        · exact t.names p x m hm }
  else t

def createDirAll : FileTree → List String → List String → Option FileTree
  | t, _, [] => some t
  | t, cur, name :: rest =>
    match t.node (cur ++ [name]) with
    | some .dir => createDirAll t (cur ++ [name]) rest
    | none => createDirAll (t.put cur name .dir) (cur ++ [name]) rest
    | some _ => none

theorem extends_put {path : List String} (h : t.node (path ++ [name]) = none) :
    t.Extends (t.put path name n) := by
  intro p m hm
  unfold put
  split
  · have hne : p ≠ path ++ [name] := by
      rintro rfl
      rw [h] at hm
      cases hm
    exact (update_of_ne hne _ _).trans hm
  · exact hm

theorem extends_createDirAll (h : t.createDirAll cur rest = some t') :
    t.Extends t' := by
  induction rest generalizing t cur with
  | nil =>
    obtain rfl := some.inj h
    exact .refl t
  | cons name rest ih =>
    simp only [createDirAll] at h
    split at h
    · exact ih h
    · rename_i hnone
      exact (extends_put hnone).trans (ih h)
    · cases h

theorem node_put {path : List String} (hdir : t.node path = some .dir)
    (hname : validName name = true) (hold : t.node (path ++ [name]) ≠ some .dir) :
    (t.put path name n).node = Function.update t.node (path ++ [name]) (some n) := by
  unfold put
  rw [dif_pos ⟨hdir, hname, hold⟩]

theorem node_put_cases (path : List String) (name : String) (n : Node) (p : List String) :
    (t.put path name n).node p = t.node p ∨
      (p = path ++ [name] ∧ (t.put path name n).node p = some n) := by
  unfold put
  split
  · by_cases hp : p = path ++ [name]
    · subst hp
      exact .inr ⟨rfl, update_self _ _ _⟩
    · exact .inl (update_of_ne hp _ _)
  · exact .inl rfl

theorem node_remove_of_not_prefix {path : List String} (h : ¬ path <+: p) :
    (t.remove path).node p = t.node p := by
  unfold remove
  split
  · exact if_neg h
  · rfl

theorem node_remove_of_prefix {path : List String} (hne : path ≠ []) (h : path <+: p) :
    (t.remove path).node p = none := by
  unfold remove
  rw [dif_pos hne]
  exact if_pos h

theorem node_createDirAll (h : t.createDirAll cur rest = some t') (hp : t'.node p ≠ t.node p) :
    t.node p = none ∧ t'.node p = some .dir ∧ cur <+: p ∧ p <+: cur ++ rest := by
  induction rest generalizing t cur with
  | nil =>
    cases h
    exact absurd rfl hp
  | cons name rest ih =>
    have hlonger : cur ++ name :: rest = cur ++ [name] ++ rest := by simp
    simp only [createDirAll] at h
    split at h
    · obtain ⟨hnone, hnew, hcur, hle⟩ := ih h hp
      exact ⟨hnone, hnew, (prefix_append _ _).trans hcur, hlonger ▸ hle⟩
    · rename_i hmissing
      rcases node_put_cases (t := t) cur name .dir p with hput | ⟨rfl, hput⟩
      · rw [← hput] at hp ⊢
        obtain ⟨hnone, hnew, hcur, hle⟩ := ih h hp
        exact ⟨hnone, hnew, (prefix_append _ _).trans hcur, hlonger ▸ hle⟩
      · refine ⟨hmissing, extends_createDirAll h _ _ hput, prefix_append _ _, ?_⟩
        rw [hlonger]
        exact prefix_append _ _
    · cases h

theorem dir_createDirAll (hcur : t.node cur = some .dir)
    (hnames : ∀ name ∈ rest, validName name = true) (h : t.createDirAll cur rest = some t') :
    t'.node (cur ++ rest) = some .dir := by
  induction rest generalizing t cur with
  | nil =>
    cases h
    rwa [append_nil]
  | cons name rest ih =>
    rw [forall_mem_cons] at hnames
    rw [append_cons]
    simp only [createDirAll] at h
    split at h
    · rename_i hdir
      exact ih hdir hnames.2 h
    · rename_i hmissing
      refine ih ?_ hnames.2 h
      rw [node_put hcur hnames.1 (by simp [hmissing]), update_self]
    · cases h

end FileTree
end XLStatus
