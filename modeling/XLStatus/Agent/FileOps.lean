import XLStatus.Agent.FileOpsDefs
import XLStatus.Agent.Files

/-! The sandbox of the file operations: what a call acts on and what it changes lies under
the allowed roots as they resolve, apart from the roots it creates. -/

namespace XLStatus.Agent.Files

open FsPath (Component)
open Checked List Option

variable {t t' : FileTree}

/-! ## Names of a path -/

theorem mem_splitOn {c : Char} {l piece : List Char} (h : piece ∈ l.splitOn c) :
    c ∉ piece ∧ ∀ x ∈ piece, x ∈ l := by
  induction l generalizing piece with
  | nil =>
    obtain rfl : piece = [] := by simpa using h
    simp
  | cons x l ih =>
    rw [splitOn_cons_eq_if_modifyHead] at h
    split at h
    · rcases mem_cons.mp h with rfl | h
      · simp
      · exact ⟨(ih h).1, fun y hy => mem_cons_of_mem x ((ih h).2 y hy)⟩
    · rename_i hx
      obtain ⟨first, rest, hsplit⟩ := exists_cons_of_ne_nil (splitOn_ne_nil c l)
      rw [hsplit, modifyHead_cons] at h
      rcases mem_cons.mp h with rfl | h
      · obtain ⟨hc, hmem⟩ := ih (hsplit ▸ mem_cons_self)
        refine ⟨fun h => ?_, fun y hy => ?_⟩
        · rcases mem_cons.mp h with rfl | h
          · simp at hx
          · exact hc h
        · rcases mem_cons.mp hy with rfl | hy
          · exact mem_cons_self
          · exact mem_cons_of_mem x (hmem y hy)
      · obtain ⟨hc, hmem⟩ := ih (hsplit ▸ mem_cons_of_mem first h)
        exact ⟨hc, fun y hy => mem_cons_of_mem x (hmem y hy)⟩

variable {name path root : String} {ancestor : List Component}
  {canonical names c roots obj obj' p : List String} {cs : List (List String)} {α β : Type}
  {data : List UInt8} {op : FileOp} {createDirs : Bool}

theorem validName_of_mem_components {text : String} (hnul : '\x00' ∉ text.toList)
    (h : Component.normal name ∈ FsPath.components text) : validName name = true := by
  have hpart : ∀ part ∈ FsPath.parts text, FsPath.component? part = some (.normal name) →
      validName name = true := by
    intro part hmem hcomponent
    obtain ⟨piece, hpiece, rfl⟩ := List.mem_map.mp hmem
    obtain ⟨hslash, hsub⟩ := mem_splitOn hpiece
    unfold FsPath.component? at hcomponent
    split_ifs at hcomponent with hempty hdots
    · cases hcomponent
    · cases hcomponent
      rw [not_or] at hempty
      simp only [validName, Bool.and_eq_true, bne_iff_ne, Bool.not_eq_true', String.toList_ofList,
        contains_eq_mem, decide_eq_false_iff_not]
      exact ⟨⟨⟨⟨hempty.1, hempty.2⟩, hdots⟩, hslash⟩, fun hmem => hnul (hsub _ hmem)⟩
  unfold FsPath.components at h
  split at h
  · rcases mem_cons.mp h with h | h
    · cases h
    · obtain ⟨part, hmem, hcomponent⟩ := mem_filterMap.mp h
      exact hpart part hmem hcomponent
  · split at h
    · rename_i rest hparts
      rcases mem_cons.mp h with h | h
      · cases h
      · obtain ⟨part, hmem, hcomponent⟩ := mem_filterMap.mp h
        exact hpart part (hparts ▸ mem_cons_of_mem _ hmem) hcomponent
    · obtain ⟨part, hmem, hcomponent⟩ := mem_filterMap.mp h
      exact hpart part hmem hcomponent

theorem validateAbsolutePath_ok {text : String} (h : validateAbsolutePath path = .ok text) :
    '\x00' ∉ text.toList := by
  simp only [validateAbsolutePath, bind_eq_ok, ensure_eq_ok, pure_eq_ok] at h
  obtain ⟨_, hnul, _, -, rfl⟩ := h
  intro hmem
  simp only [Text.trim, String.toList_ofList] at hmem
  have hmem := dropWhile_sublist _ |>.subset (mem_reverse.mp hmem)
  have hmem := dropWhile_sublist _ |>.subset (mem_reverse.mp hmem)
  simp [hmem] at hnul

/-! ## Creating the missing roots -/

def UnderRoot (t : FileTree) (allowedRoots : List String) (obj : List String) : Prop :=
  ∃ root ∈ allowedRoots, ∃ c, Resolved t root c ∧ c <+: obj

/-- The object is a directory that was made for an allowed root that did not resolve: the
root itself or a directory it lies in. -/
def MissingRootPart (t t' : FileTree) (allowedRoots : List String) (obj : List String) : Prop :=
  t.node obj = none ∧ t'.node obj = some .dir ∧
    ∃ root ∈ allowedRoots, (∀ c, ¬ Resolved t root c) ∧ ∃ c, Resolved t' root c ∧ obj <+: c

theorem existingAncestor_eq_some {reversed : List Component}
    (h : existingAncestor t reversed = some (ancestor, canonical)) :
    t.canonicalize ancestor = some canonical ∧
      ∃ rest, rest ≠ [] ∧ reversed.reverse = ancestor ++ rest := by
  induction reversed with
  | nil => cases h
  | cons last reversed ih =>
    simp only [existingAncestor] at h
    split at h
    · rename_i c hc
      obtain ⟨rfl, rfl⟩ := Prod.mk.inj (some.inj h)
      exact ⟨hc, [last], cons_ne_nil _ _, reverse_cons⟩
    · obtain ⟨hc, rest, -, hrest⟩ := ih h
      refine ⟨hc, rest ++ [last], by simp, ?_⟩
      rw [reverse_cons, hrest, append_assoc]

theorem walk_literal_dir (h : t.node (c ++ names) = some .dir)
    (follow : List String → List Component → Option (List String)) :
    t.walk follow c (names.map .normal) = some (c ++ names) := by
  have hsolid : ∀ pre, pre <+: names → pre ≠ [] → t.Solid (c ++ pre) := by
    rintro pre ⟨rest, rfl⟩ -
    by_cases hrest : rest = []
    · rw [hrest, append_nil] at h
      exact FileTree.solid_of_dir h
    · rw [← append_assoc] at h
      exact FileTree.solid_of_dir (FileTree.node_of_isPrefix hrest h)
  have hwalk : t.walk follow c (names.map .normal ++ []) = t.walk follow (c ++ names) [] :=
    FileTree.walk_normals hsolid
  rwa [append_nil] at hwalk

theorem rawComponents_eq (text : String) :
    FsPath.rawComponents text = FsPath.components text ∨
      FsPath.rawComponents text = FsPath.components text ++ [.curDir] := by
  unfold FsPath.rawComponents
  split
  · exact .inr rfl
  · exact .inr rfl
  · exact .inl rfl

theorem canonicalize_rawComponents {text : String}
    (hcanon : t.canonicalize ancestor = some canonical)
    (hsplit : FsPath.components text = ancestor ++ names.map .normal)
    (hdir : t.node (canonical ++ names) = some .dir) :
    t.canonicalize (FsPath.rawComponents text) = some (canonical ++ names) := by
  have hnames := walk_literal_dir hdir
  have hcurDir : ∀ follow, t.walk follow canonical (names.map .normal ++ [.curDir]) =
      some (canonical ++ names) := by
    intro follow
    refine FileTree.walk_append ?_ ?_ (hnames fun _ _ => none)
    · rintro cur path ⟨⟩
    · simp [FileTree.walk, hdir]
  rcases rawComponents_eq text with hraw | hraw
  · rw [hraw, hsplit]
    exact FileTree.resolve_append hnames hcanon
  · rw [hraw, hsplit, append_assoc]
    exact FileTree.resolve_append hcurDir hcanon

theorem createMissingRoot_ok {text : String} (htext : validateAbsolutePath root = .ok text)
    (hparent : (FsPath.parent (FsPath.components text)).isSome = true)
    (h : createMissingRoot t text = .ok t') :
    t' = t ∨ (∀ c, ¬ Resolved t root c) ∧ ∃ c, Resolved t' root c ∧
      ∀ p, t'.node p ≠ t.node p → t.node p = none ∧ t'.node p = some .dir ∧ p <+: c := by
  have hext := extends_createMissingRoot h
  unfold createMissingRoot at h
  split at h
  · exact .inl (Except.ok.inj h).symm
  · rename_i hmissing
    simp only [bind_eq_ok, require_eq_ok] at h
    obtain ⟨⟨ancestor, canonical⟩, hancestor, relative, hrelative, hcreate⟩ := h
    obtain ⟨hcanon, rest, hrest, hsplit⟩ := existingAncestor_eq_some hancestor
    rw [reverse_reverse] at hsplit
    rw [hsplit, drop_left, normalNames_eq_some] at hrelative
    subst hrelative
    -- All names of the new directories are proper.
    have hvalid : ∀ name ∈ canonical ++ relative, validName name = true := by
      intro name hname
      rcases mem_append.mp hname with hname | hname
      · obtain ⟨n, hn, -⟩ := FileTree.solid_canonicalize hcanon
        exact FileTree.validName_of_mem (by rw [hn]; rfl) name hname
      · refine validName_of_mem_components (validateAbsolutePath_ok htext) ?_
        rw [hsplit]
        exact mem_append_right _ (List.mem_map_of_mem hname)
    have hdir : t'.node ([] ++ (canonical ++ relative)) = some .dir :=
      FileTree.dir_createDirAll t.root_dir hvalid hcreate
    refine .inr ⟨?_, canonical ++ relative, ⟨?_, text, htext, hparent, ?_⟩, fun p hp => ?_⟩
    · rintro c ⟨-, text', htext', -, hresolves⟩
      obtain rfl := Except.ok.inj (htext.symm.trans htext')
      rw [FileTree.tryExists, hresolves] at hmissing
      exact hmissing rfl
    · intro hnil
      simp only [append_eq_nil_iff] at hnil
      simp [hnil.2] at hrest
    · exact canonicalize_rawComponents (FileTree.canonicalize_mono hext hcanon) hsplit hdir
    · obtain ⟨hnone, hnew, -, hle⟩ := FileTree.node_createDirAll hcreate hp
      exact ⟨hnone, hnew, hle⟩

theorem canonicalAllowedRoot_changes {create : Bool} {result : Except String (List String)}
    (h : canonicalAllowedRoot create t root = (result, t')) :
    t.Extends t' ∧ ∀ p, t'.node p ≠ t.node p → MissingRootPart t t' [root] p := by
  have hsame : t = t' → t.Extends t' ∧
      ∀ p, t'.node p ≠ t.node p → MissingRootPart t t' [root] p := by
    rintro rfl
    exact ⟨.refl t, fun p hp => absurd rfl hp⟩
  unfold canonicalAllowedRoot at h
  split at h
  · exact hsame (Prod.mk.inj h).2
  · rename_i text htext
    split at h
    · exact hsame (Prod.mk.inj h).2
    · rename_i hparent
      split at h
      · exact hsame (Prod.mk.inj h).2
      · rename_i t₁ ht₁
        have ht' : t₁ = t' := by
          split at h <;> exact (Prod.mk.inj h).2
        subst ht'
        cases create with
        | false => exact hsame (Except.ok.inj ht₁)
        | true =>
          rw [if_pos rfl] at ht₁
          have hsome : (FsPath.parent (FsPath.components text)).isSome = true := by
            simpa [isSome_iff_ne_none] using hparent
          obtain rfl | ⟨hmissing, c, hresolved, hchanges⟩ := createMissingRoot_ok htext hsome ht₁
          · exact hsame rfl
          · refine ⟨extends_createMissingRoot ht₁, fun p hp => ?_⟩
            obtain ⟨hnone, hdir, hle⟩ := hchanges p hp
            exact ⟨hnone, hdir, root, mem_singleton_self root, hmissing, c, hresolved, hle⟩

theorem canonicalRootsFrom_changes {create : Bool} {result : Except String (List (List String))}
    (h : canonicalRootsFrom create t roots = (result, t')) :
    t.Extends t' ∧ ∀ p, t'.node p ≠ t.node p → MissingRootPart t t' roots p := by
  induction roots generalizing t result with
  | nil =>
    obtain ⟨-, rfl⟩ := Prod.mk.inj h
    exact ⟨.refl t, fun p hp => absurd rfl hp⟩
  | cons root rest ih =>
    rcases hroot : canonicalAllowedRoot create t root with ⟨first, t₁⟩
    obtain ⟨hext, hfirst⟩ := canonicalAllowedRoot_changes hroot
    have hrest : t₁.Extends t' ∧ ∀ p, t'.node p ≠ t₁.node p → MissingRootPart t₁ t' rest p := by
      cases first with
      | error =>
        simp only [canonicalRootsFrom, hroot] at h
        obtain ⟨-, rfl⟩ := Prod.mk.inj h
        exact ⟨.refl _, fun p hp => absurd rfl hp⟩
      | ok =>
        simp only [canonicalRootsFrom, hroot] at h
        split at h <;> rename_i hfrom <;> obtain ⟨-, rfl⟩ := Prod.mk.inj h <;> exact ih hfrom
    obtain ⟨hext', hrest⟩ := hrest
    refine ⟨hext.trans hext', fun p hp => ?_⟩
    by_cases hp₁ : t₁.node p = t.node p
    · -- Created for a later root, which did not resolve before either.
      rw [← hp₁] at hp
      obtain ⟨hnone, hdir, r, hr, hmissing, c, hresolved, hle⟩ := hrest p hp
      exact ⟨hp₁ ▸ hnone, hdir, r, mem_cons_of_mem root hr,
        fun c hc => hmissing c (hc.mono hext), c, hresolved, hle⟩
    · obtain ⟨hnone, hdir, r, hr, hmissing, c, hresolved, hle⟩ := hfirst p hp₁
      obtain rfl := mem_singleton.mp hr
      exact ⟨hnone, hext' p _ hdir, r, mem_cons_self, hmissing, c, hresolved.mono hext', hle⟩

theorem canonicalAllowedRoots_changes {create : Bool} {result : Except String (List (List String))}
    (h : canonicalAllowedRoots create t roots = (result, t')) :
    t.Extends t' ∧ ∀ p, t'.node p ≠ t.node p → MissingRootPart t t' roots p := by
  unfold canonicalAllowedRoots at h
  split at h
  · obtain ⟨-, rfl⟩ := Prod.mk.inj h
    exact ⟨.refl t, fun p hp => absurd rfl hp⟩
  · exact canonicalRootsFrom_changes h

theorem underRoot_of_underAllowedRoots {allowedRoots : List String}
    (hcs : Forall₂ (Resolved t) allowedRoots cs) (h : underAllowedRoots obj cs = true) :
    UnderRoot t allowedRoots obj := by
  obtain ⟨c, hc, hle⟩ := underAllowedRoots_iff.mp h
  obtain ⟨i, hi, rfl⟩ := getElem_of_mem hc
  have hi' : i < allowedRoots.length := hcs.length_eq ▸ hi
  exact ⟨allowedRoots[i], getElem_mem hi', cs[i], hcs.get hi' hi, hle⟩

/-! ## Effects of the operations -/

@[elab_as_elim]
theorem attempt_induct {motive : Except String β × FileTree → Prop} {x : Except String α}
    {f : α → Except String β × FileTree} (herror : ∀ e, motive (.error e, t))
    (hok : ∀ a, x = .ok a → motive (f a)) :
    motive (attempt t x f) := by
  cases x with
  | error e => exact herror e
  | ok a => exact hok a rfl

theorem openDirNoFollow_ok {cur path : List String} (hcur : t.node cur = some .dir)
    (h : openDirNoFollow t cur path = .ok ()) : t.node (cur ++ path) = some .dir := by
  induction path generalizing cur with
  | nil => rwa [append_nil]
  | cons name rest ih =>
    rw [openDirNoFollow] at h
    split_ifs at h with hdir
    rw [append_cons]
    exact ih hdir h

theorem splitLast_ok {path parent : List String} (h : splitLast path = .ok (parent, name)) :
    path = parent ++ [name] := by
  unfold splitLast at h
  split at h
  · cases h
  · rename_i last hlast
    obtain ⟨rfl, rfl⟩ := Prod.mk.inj (Except.ok.inj h)
    exact (dropLast_append_getLast? _ hlast).symm

def OnlyBelow (obj : List String) (t t' : FileTree) : Prop :=
  ∀ p, t'.node p ≠ t.node p → obj <+: p

theorem OnlyBelow.refl (obj : List String) (t : FileTree) : OnlyBelow obj t t :=
  fun _ hp => absurd rfl hp

theorem OnlyBelow.trans {t₁ t₂ t₃ : FileTree} (h₁ : OnlyBelow obj t₁ t₂)
    (h₂ : OnlyBelow obj t₂ t₃) : OnlyBelow obj t₁ t₃ := by
  intro p hp
  by_cases heq : t₂.node p = t₁.node p
  · exact h₂ p (heq ▸ hp)
  · exact h₁ p heq

theorem OnlyBelow.mono (h : OnlyBelow obj' t t') (hle : obj <+: obj') :
    OnlyBelow obj t t' := fun p hp => hle.trans (h p hp)

theorem onlyBelow_remove (obj : List String) (t : FileTree) : OnlyBelow obj t (t.remove obj) := by
  intro p hp
  by_contra hnot
  exact hp (FileTree.node_remove_of_not_prefix hnot)

theorem onlyBelow_removeEntries
    {removeDir : FileTree → List String → Except String Unit × FileTree}
    (hremove : ∀ t path, OnlyBelow path t (removeDir t path).2) (path names : List String)
    (t : FileTree) : OnlyBelow path t (removeEntries removeDir path names t).2 := by
  induction names generalizing t with
  | nil => exact .refl path t
  | cons name rest ih =>
    have hfirst : ∀ r : Except String Unit × FileTree, OnlyBelow path t r.2 →
        OnlyBelow path t
          (attempt r.2 r.1 fun _ => removeEntries removeDir path rest r.2).2 := by
      intro r hr
      refine attempt_induct (motive := fun r => OnlyBelow path t r.2) (fun _ => hr) fun _ _ => ?_
      exact hr.trans (ih r.2)
    have hbelow : path <+: path ++ [name] := prefix_append _ _
    refine hfirst _ ?_
    split
    · exact .refl path t
    · exact (hremove t _).mono hbelow
    · exact (onlyBelow_remove _ t).mono hbelow

variable (k : Kernel)

structure RemovesBelow (path : List String) (t : FileTree) (r : Except String Unit × FileTree) :
    Prop where
  below : OnlyBelow path t r.2
  gone : path ≠ [] → r.1 = .ok () → ∀ p, path <+: p → r.2.node p = none

theorem removesBelow_error {path : List String} {e : String} (h : OnlyBelow path t t') :
    RemovesBelow path t (.error e, t') := ⟨h, fun _ h => nomatch h⟩

theorem removesBelow_unlinkChildDir (path : List String) (h : OnlyBelow path t t') :
    RemovesBelow path t (unlinkChildDir k t' path) := by
  unfold unlinkChildDir
  split
  · exact ⟨h.trans (onlyBelow_remove path t'),
      fun hne _ p hp => FileTree.node_remove_of_prefix hne hp⟩
  · exact removesBelow_error h

theorem removesBelow_removeDirAllAt (n : ℕ) (t : FileTree) (path : List String) :
    RemovesBelow path t (removeDirAllAt k n t path) := by
  induction n generalizing t path with
  | zero => exact removesBelow_error (.refl path t)
  | succ n ih =>
    rw [removeDirAllAt]
    refine attempt_induct (fun e => removesBelow_error (.refl path t)) fun names _ => ?_
    have hentries := onlyBelow_removeEntries (fun t path => (ih t path).below) path names t
    exact attempt_induct (fun e => removesBelow_error hentries)
      fun _ _ => removesBelow_unlinkChildDir k path hentries

/-! ## The sandbox -/

def FileOp.prepared (t : FileTree) (allowedRoots : List String) : FileOp → FileTree
  | .write _ data mode _ => match ensureWriteBoundsAndMode data mode with
    | .ok _ => (canonicalAllowedRoots true t allowedRoots).2
    | .error _ => t
  | _ => t

/-- What a reply says was done, to which object of the tree, and the tree after it. -/
def FileOp.ActsOn (t t' : FileTree) (obj : List String) : FileOp → Reply → Prop
  | .list _, .entries entries =>
    t.node obj = some .dir ∧ ∀ e ∈ entries, fileEntry k t obj e.name = .ok e
  | .read _ offset length, .data data =>
    ∃ content maxRead, t.node obj = some (.file content) ∧ boundedReadLength length = .ok maxRead ∧
      data = (content.drop offset.toNat).take maxRead.toNat
  | .write _ data _ _, .written bytes => t'.node obj = some (.file data) ∧ bytes = data.length
  | .delete _ recursive, .deleted =>
    (t.node obj).isSome = true ∧ (∀ p, t'.node p = if obj <+: p then none else t.node p) ∧
      (recursive = false → ∀ p, obj <+: p → p ≠ obj → t.node p = none)
  | _, _ => False

theorem underRoot_of_resolveExistingPath {allowedRoots : List String}
    (hcs : (canonicalAllowedRoots false t allowedRoots).1 = .ok cs)
    (h : resolveExistingPath t path cs = .ok obj) :
    UnderRoot t allowedRoots obj := by
  obtain ⟨-, hresolved, hsame, -⟩ := canonicalAllowedRoots_ok (Prod.ext hcs rfl)
  rw [hsame rfl] at hresolved
  exact underRoot_of_underAllowedRoots hresolved (resolveExistingPath_ok h)

theorem mapM_eq_ok {f : α → Except String β} {l : List α} {bs : List β} (h : l.mapM f = .ok bs) :
    ∀ b ∈ bs, ∃ a ∈ l, f a = .ok b := by
  induction l generalizing bs with
  | nil =>
    obtain rfl : bs = [] := by simpa [pure, Except.pure] using h.symm
    simp
  | cons a l ih =>
    simp only [mapM_cons, bind_eq_ok, pure_eq_ok] at h
    obtain ⟨b, hb, bs, hbs, rfl⟩ := h
    rintro b' hb'
    rcases mem_cons.mp hb' with rfl | hb'
    · exact ⟨a, mem_cons_self, hb⟩
    · obtain ⟨a', ha', hab⟩ := ih hbs b' hb'
      exact ⟨a', mem_cons_of_mem a ha', hab⟩

theorem fileEntry_name {path : List String} {e : FileEntry} (h : fileEntry k t path name = .ok e) :
    e.name = name := by
  simp only [fileEntry, bind_eq_ok, require_eq_ok] at h
  obtain ⟨node, -, h⟩ := h
  cases node <;> (obtain rfl := Except.ok.inj h; rfl)

theorem listFiles_ok {allowedRoots : List String} {entries : List FileEntry}
    (h : listFiles k t path allowedRoots = .ok entries) :
    ∃ obj, UnderRoot t allowedRoots obj ∧ t.node obj = some .dir ∧
      ∀ e ∈ entries, fileEntry k t obj e.name = .ok e := by
  simp only [listFiles, bind_eq_ok, pure_eq_ok] at h
  obtain ⟨cs, hcs, obj, hobj, _, hopen, names, -, found, hfound, rfl⟩ := h
  refine ⟨obj, underRoot_of_resolveExistingPath hcs hobj, ?_, fun e he => ?_⟩
  · exact openDirNoFollow_ok t.root_dir hopen
  · obtain ⟨name, -, hname⟩ := mapM_eq_ok hfound e (mem_mergeSort.mp he)
    rwa [fileEntry_name k hname]

theorem openFileRead_ok {path : List String} {content : List UInt8}
    (h : openFileRead t path = .ok content) : t.node path = some (.file content) := by
  simp only [openFileRead, bind_eq_ok] at h
  obtain ⟨⟨parent, name⟩, hsplit, _, -, h⟩ := h
  rw [splitLast_ok hsplit]
  split at h
  · cases h
  · rename_i hnode
    rw [hnode, Except.ok.inj h]
  · cases h

theorem readFile_ok {offset length : UInt64} {allowedRoots : List String}
    (h : readFile t path offset length allowedRoots = .ok data) :
    ∃ obj, UnderRoot t allowedRoots obj ∧ ∃ content maxRead, t.node obj = some (.file content) ∧
      boundedReadLength length = .ok maxRead ∧
      data = (content.drop offset.toNat).take maxRead.toNat := by
  simp only [readFile, bind_eq_ok, ensure_eq_ok, pure_eq_ok] at h
  obtain ⟨maxRead, hmax, cs, hcs, obj, hobj, content, hcontent, _, -, rfl⟩ := h
  exact ⟨obj, underRoot_of_resolveExistingPath hcs hobj, content, maxRead,
    openFileRead_ok hcontent, hmax, rfl⟩

/-- A call stays in the sandbox: on success it acts on an object under a root, and whether it
succeeds or not it changes nothing but objects under the roots and roots that are missing. -/
structure Sandboxed {α : Type} (reply : α → Reply) (t prepared : FileTree)
    (allowedRoots : List String) (op : FileOp) (r : Except String α × FileTree) : Prop where
  acts : ∀ a, r.1 = .ok a →
    ∃ obj, UnderRoot prepared allowedRoots obj ∧ op.ActsOn k prepared r.2 obj (reply a)
  changes : ∀ p, r.2.node p ≠ t.node p →
    UnderRoot prepared allowedRoots p ∨ MissingRootPart t prepared allowedRoots p

variable {k} {allowedRoots : List String}

theorem UnderRoot.mono (h : UnderRoot t allowedRoots obj) (hle : obj <+: obj') :
    UnderRoot t allowedRoots obj' := by
  obtain ⟨root, hroot, c, hc, hobj⟩ := h
  exact ⟨root, hroot, c, hc, hobj.trans hle⟩

theorem sandboxed_refused {reply : α → Reply} (e : String) :
    Sandboxed k reply t t allowedRoots op (.error e, t) where
  acts _ h := nomatch h
  changes _ hp := absurd rfl hp

theorem node_below_of_children (h : ∀ name, t.node (obj ++ [name]) = none) (hle : obj <+: p)
    (hne : p ≠ obj) : t.node p = none := by
  obtain ⟨rest, rfl⟩ := hle
  obtain ⟨name, rest, rfl⟩ := exists_cons_of_ne_nil fun hrest : rest = [] =>
    hne (by rw [hrest, append_nil])
  have hchild : obj ++ [name] <+: obj ++ name :: rest := ⟨rest, by simp⟩
  by_contra hsome
  have := FileTree.isSome_of_isPrefix hchild (isSome_iff_ne_none.mpr hsome)
  rw [h name] at this
  cases this

theorem node_children_of_not_dir (h : t.node obj ≠ some .dir) (name : String) :
    t.node (obj ++ [name]) = none := by
  by_contra hsome
  obtain ⟨n, hn⟩ := ne_none_iff_exists'.mp hsome
  exact h (t.parent_dir _ _ _ hn)

theorem sandboxed_of_removesBelow {recursive : Bool} {r : Except String Unit × FileTree}
    (message : String → String) (hunder : UnderRoot t allowedRoots obj) (hne : obj ≠ [])
    (hsome : (t.node obj).isSome = true) (hr : RemovesBelow obj t r)
    (hchildren : r.1 = .ok () → recursive = false → ∀ name, t.node (obj ++ [name]) = none) :
    Sandboxed k (fun _ : Unit => .deleted) t t allowedRoots (.delete path recursive)
      (r.1.mapError message, r.2) where
  acts _ h := by
    have hok : r.1 = .ok () := mapError_eq_ok.mp h
    refine ⟨obj, hunder, hsome, fun p => ?_,
      fun hrec p => node_below_of_children (hchildren hok hrec)⟩
    split_ifs with hp
    · exact hr.gone hne hok p hp
    · by_contra hdiff
      exact hp (hr.below p hdiff)
  changes p hp := .inl (hunder.mono (hr.below p hp))

theorem sandboxed_deletePath (t : FileTree) (path : String) (recursive : Bool) :
    Sandboxed k (fun _ : Unit => .deleted) t t allowedRoots (.delete path recursive)
      (deletePath k t path recursive allowedRoots) := by
  unfold deletePath
  refine attempt_induct sandboxed_refused fun cs hcs => ?_
  refine attempt_induct sandboxed_refused fun obj hobj => ?_
  refine attempt_induct sandboxed_refused fun _ _ => ?_
  obtain ⟨-, hresolved, hsame, -⟩ := canonicalAllowedRoots_ok (Prod.ext hcs rfl)
  rw [hsame rfl] at hresolved
  have hunder := underRoot_of_underAllowedRoots hresolved (deleteTarget_ok hobj)
  have hne : obj ≠ [] := by
    simp only [deleteTarget, bind_eq_ok, pure_eq_ok] at hobj
    obtain ⟨_, -, _, -, _, -, _, -, _, -, rfl⟩ := hobj
    simp
  split
  · exact sandboxed_refused _
  · rename_i hdir
    have hsome : (t.node obj).isSome = true := by rw [hdir]; rfl
    cases recursive with
    | true =>
      exact sandboxed_of_removesBelow _ hunder hne hsome
        (removesBelow_removeDirAllAt k k.descriptors t obj) fun _ h => nomatch h
    | false =>
      refine sandboxed_of_removesBelow _ hunder hne hsome
        (removesBelow_unlinkChildDir k obj (.refl obj t)) fun hok _ => ?_
      refine k.isEmpty_spec t obj ?_
      simp only [Bool.false_eq_true, if_false, unlinkChildDir] at hok
      split at hok
      · assumption
      · cases hok
  · rename_i n hn hnode
    have hremoved : RemovesBelow obj t (.ok (), t.remove obj) :=
      ⟨onlyBelow_remove obj t, fun hne _ p hp => FileTree.node_remove_of_prefix hne hp⟩
    refine sandboxed_of_removesBelow id hunder hne (by rw [hnode]; rfl) hremoved
      fun _ _ => node_children_of_not_dir ?_
    rw [hnode]
    exact fun h => hn (some.inj h)

/-! A write: the target is an object that exists or the path below one, which lies under a
root in either case. -/

theorem resolveWriteTarget_cases {target : List Component}
    (h : resolveWriteTarget t path cs = .ok target) :
    (∃ c, t.canonicalize (FsPath.rawComponents path) = some c ∧ target = FileTree.literal c) ∨
      ∃ ancestor c rest, t.canonicalize ancestor = some c ∧ underAllowedRoots c cs = true ∧
        rest ≠ [] ∧ FsPath.components path = ancestor ++ rest ∧
        target = FileTree.literal c ++ rest := by
  unfold resolveWriteTarget ensureUnderAllowedRoots at h
  split at h
  · rename_i c hc
    simp only [bind_eq_ok, ensure_eq_ok, pure_eq_ok] at h
    obtain ⟨_, -, rfl⟩ := h
    exact .inl ⟨c, hc, rfl⟩
  · simp only [bind_eq_ok, require_eq_ok, ensure_eq_ok, pure_eq_ok] at h
    obtain ⟨⟨ancestor, c⟩, hancestor, _, hunder, _, -, rfl⟩ := h
    obtain ⟨hc, rest, hrest, hsplit⟩ := existingAncestor_eq_some hancestor
    rw [reverse_reverse] at hsplit
    refine .inr ⟨ancestor, c, rest, hc, hunder, hrest, hsplit, ?_⟩
    rw [hsplit, drop_left]

theorem isSome_canonicalize {path : List Component} (h : t.canonicalize path = some c) :
    (t.node c).isSome = true := by
  obtain ⟨n, hn, -⟩ := FileTree.solid_canonicalize h
  rw [hn]
  rfl

theorem validName_of_resolveWriteTarget (hnul : '\x00' ∉ path.toList)
    (h : resolveWriteTarget t path cs = .ok (FileTree.literal names)) :
    ∀ name ∈ names, validName name = true := by
  obtain ⟨c, hc, htarget⟩ | ⟨ancestor, c, rest, hc, -, -, hsplit, htarget⟩ :=
    resolveWriteTarget_cases h
  · have hnames : names = c := by
      have := (List.cons.inj htarget).2
      exact map_injective_iff.mpr (fun _ _ h => Component.normal.inj h) this
    rw [hnames]
    exact FileTree.validName_of_mem (isSome_canonicalize hc)
  · intro name hname
    have hnames : names.map Component.normal = c.map Component.normal ++ rest :=
      (List.cons.inj htarget).2
    have hmem : Component.normal name ∈ c.map Component.normal ++ rest :=
      hnames ▸ List.mem_map_of_mem hname
    rcases mem_append.mp hmem with hmem | hmem
    · obtain ⟨name', hname', heq⟩ := List.mem_map.mp hmem
      obtain rfl := Component.normal.inj heq
      exact FileTree.validName_of_mem (isSome_canonicalize hc) name' hname'
    · refine validName_of_mem_components hnul ?_
      rw [hsplit]
      exact mem_append_right _ hmem

theorem createParentDirs_changes {target : List Component}
    (htarget : resolveWriteTarget t path cs = .ok target)
    (h : createParentDirs t createDirs target = .ok t') (hp : t'.node p ≠ t.node p) :
    underAllowedRoots p cs = true := by
  unfold createParentDirs at h
  split at h
  · rename_i parent hparent
    rw [require_eq_ok, bind_eq_some_iff] at h
    obtain ⟨names, hnames, hcreate⟩ := h
    obtain rfl := absoluteNormalComponents_eq_some.mp hnames
    obtain ⟨hnone, -, -, hle⟩ := FileTree.node_createDirAll hcreate hp
    rw [nil_append] at hle
    have hparent' : target.dropLast = FileTree.literal names := by
      unfold FsPath.parent at hparent
      split at hparent <;> first | cases hparent | exact some.inj hparent
    have hmissing : ∀ c, (t.node c).isSome = true → ¬ p <+: c := by
      intro c hc hpc
      have := FileTree.isSome_of_isPrefix hpc hc
      rw [hnone] at this
      cases this
    obtain ⟨c, hc, rfl⟩ | ⟨ancestor, c, rest, hc, hunder, hrest, -, rfl⟩ :=
      resolveWriteTarget_cases htarget
    · refine absurd (hle.trans ?_) (hmissing c (isSome_canonicalize hc))
      exact literal_prefix (hparent' ▸ dropLast_prefix _)
    · have hcnames : c <+: names := by
        refine literal_prefix ?_
        rw [← hparent', dropLast_append_of_ne_nil hrest]
        exact prefix_append _ _
      rcases prefix_or_prefix_of_prefix hle hcnames with hpc | hcp
      · exact absurd hpc (hmissing c (isSome_canonicalize hc))
      · exact underAllowedRoots_of_isPrefix hunder hcp
  · obtain rfl := Except.ok.inj h
    exact absurd rfl hp

theorem createFileNoSymlink_ok {target : List Component} {parent : List String}
    (h : createFileNoSymlink t target = .ok (parent, name)) :
    target = FileTree.literal (parent ++ [name]) ∧ t.node parent = some .dir ∧
      t.node (parent ++ [name]) ≠ some .dir := by
  simp only [createFileNoSymlink, bind_eq_ok, require_eq_ok, mapError_eq_ok] at h
  obtain ⟨parts, hparts, ⟨parent', name'⟩, hsplit, _, hopen, h⟩ := h
  have hfound : (parent', name') = (parent, name) ∧ t.node (parent' ++ [name']) ≠ some .dir := by
    split at h
    · rename_i hnode
      exact ⟨Except.ok.inj h, by simp [hnode]⟩
    · rename_i hnode
      exact ⟨Except.ok.inj h, by simp [hnode]⟩
    · cases h
  obtain ⟨heq, hdir⟩ := hfound
  obtain ⟨rfl, rfl⟩ := Prod.mk.inj heq
  refine ⟨?_, openDirNoFollow_ok t.root_dir hopen, hdir⟩
  rw [← splitLast_ok hsplit]
  exact absoluteNormalComponents_eq_some.mp hparts

theorem sandboxed_writeUnderRoots {t₀ : FileTree} {mode : Option UInt32}
    (hprepared : ∀ p, t.node p ≠ t₀.node p → MissingRootPart t₀ t allowedRoots p)
    (hcs : Forall₂ (Resolved t) allowedRoots cs) :
    Sandboxed k .written t₀ t allowedRoots (.write path data mode createDirs)
      (writeUnderRoots t path data createDirs cs) := by
  -- What differs from the prepared tree is under a root, the rest was made for a root.
  have hchanges : ∀ t' : FileTree,
      (∀ p, t'.node p ≠ t.node p → underAllowedRoots p cs = true) → ∀ p, t'.node p ≠ t₀.node p →
        UnderRoot t allowedRoots p ∨ MissingRootPart t₀ t allowedRoots p := by
    intro t' ht' p hp
    by_cases heq : t'.node p = t.node p
    · exact .inr (hprepared p (heq ▸ hp))
    · exact .inl (underRoot_of_underAllowedRoots hcs (ht' p heq))
  have hrefused : ∀ (t' : FileTree),
      (∀ p, t'.node p ≠ t.node p → underAllowedRoots p cs = true) → ∀ e : String,
        Sandboxed k .written t₀ t allowedRoots (.write path data mode createDirs)
          (.error e, t') :=
    fun t' ht' e => ⟨(fun _ h => nomatch h), hchanges t' ht'⟩
  have hsame : ∀ p, t.node p ≠ t.node p → underAllowedRoots p cs = true :=
    fun p hp => absurd rfl hp
  unfold writeUnderRoots
  refine attempt_induct (hrefused t hsame) fun text htext => ?_
  refine attempt_induct (hrefused t hsame) fun target htarget => ?_
  refine attempt_induct (hrefused t hsame) fun t₁ ht₁ => ?_
  have hdirs : ∀ p, t₁.node p ≠ t.node p → underAllowedRoots p cs = true :=
    fun p => createParentDirs_changes htarget ht₁
  refine attempt_induct (hrefused t₁ hdirs) fun target' htarget' => ?_
  refine attempt_induct (hrefused t₁ hdirs) fun ⟨parent, name⟩ hfile => ?_
  obtain ⟨rfl, hparent, hold⟩ := createFileNoSymlink_ok hfile
  obtain ⟨root, hroot, hle⟩ := resolveWriteTarget_ok htarget'
  have hunder : underAllowedRoots (parent ++ [name]) cs = true :=
    underAllowedRoots_iff.mpr ⟨root, hroot, literal_prefix hle⟩
  have hname := validName_of_resolveWriteTarget (validateAbsolutePath_ok htext) htarget' name
    (mem_append_right _ mem_cons_self)
  refine ⟨fun n hn => ⟨parent ++ [name], underRoot_of_underAllowedRoots hcs hunder, ?_, ?_⟩,
    hchanges _ fun p hp => ?_⟩
  · simp only [FileTree.node_put hparent hname hold, Function.update_self]
  · exact (Except.ok.inj hn).symm
  · rcases FileTree.node_put_cases parent name (.file data) p with hput | ⟨rfl, -⟩
    · exact hdirs p (hput ▸ hp)
    · exact hunder

theorem sandboxed_writeFile (t : FileTree) (path : String) (data : List UInt8)
    (mode : Option UInt32) (createDirs : Bool) :
    Sandboxed k .written t (FileOp.prepared t allowedRoots (.write path data mode createDirs))
      allowedRoots (.write path data mode createDirs)
      (writeFile t path data mode createDirs allowedRoots) := by
  unfold writeFile
  cases hbounds : ensureWriteBoundsAndMode data mode with
  | error e =>
    simp only [FileOp.prepared, hbounds]
    exact sandboxed_refused e
  | ok =>
    simp only [FileOp.prepared, hbounds, attempt]
    rcases hroots : canonicalAllowedRoots true t allowedRoots with ⟨result, t₁⟩
    obtain ⟨-, hprepared⟩ := canonicalAllowedRoots_changes hroots
    cases result with
    | error => exact ⟨(fun _ h => nomatch h), fun p hp => .inr (hprepared p hp)⟩
    | ok =>
      obtain ⟨-, hcs, -⟩ := canonicalAllowedRoots_ok hroots
      exact sandboxed_writeUnderRoots hprepared hcs

theorem Sandboxed.map {reply : α → Reply} {prepared : FileTree} {r : Except String α × FileTree}
    (h : Sandboxed k reply t prepared allowedRoots op r) :
    Sandboxed k id t prepared allowedRoots op (r.1.map reply, r.2) where
  acts a ha := by
    cases hr : r.1 with
    | error => simp [hr, Except.map] at ha
    | ok b =>
      obtain rfl : reply b = a := by simpa [hr, Except.map] using ha
      exact h.acts b hr
  changes := h.changes

theorem file_sandbox (k : Kernel) (t : FileTree) (allowedRoots : List String) (op : FileOp) :
    (∀ reply, (op.run k t allowedRoots).1 = .ok reply →
      ∃ obj, UnderRoot (op.prepared t allowedRoots) allowedRoots obj ∧
        op.ActsOn k (op.prepared t allowedRoots) (op.run k t allowedRoots).2 obj reply) ∧
      ∀ p, (op.run k t allowedRoots).2.node p ≠ t.node p →
        UnderRoot (op.prepared t allowedRoots) allowedRoots p ∨
          MissingRootPart t (op.prepared t allowedRoots) allowedRoots p := by
  have hsandboxed : Sandboxed k id t (op.prepared t allowedRoots) allowedRoots op
      (op.run k t allowedRoots) := by
    cases op with
    | list path =>
      refine Sandboxed.map (r := (listFiles k t path allowedRoots, t))
        ⟨fun entries h => ?_, fun p hp => absurd rfl hp⟩
      exact listFiles_ok k h
    | read path offset length =>
      refine Sandboxed.map (r := (readFile t path offset length allowedRoots, t))
        ⟨fun data h => ?_, fun p hp => absurd rfl hp⟩
      exact readFile_ok h
    | write path data mode createDirs => exact (sandboxed_writeFile t path data mode createDirs).map
    | delete path recursive => exact (sandboxed_deletePath t path recursive).map
  exact ⟨hsandboxed.acts, hsandboxed.changes⟩

end XLStatus.Agent.Files
