import XLStatus.Agent.Config
import XLStatus.Agent.FilesDefs

/-! What the file operations reach. The roots are resolved through symbolic links when
they are used, while an update compares them as they are written: a root that is a link
inside an old root may lead anywhere. -/

namespace XLStatus.Agent.Files

open FsPath (Component)
open Checked List Option

variable {t t' : FileTree}

/-! ## Resolved roots -/

def Resolved (t : FileTree) (root : String) (c : List String) : Prop :=
  c ≠ [] ∧ ∃ text, validateAbsolutePath root = .ok text ∧
    (FsPath.parent (FsPath.components text)).isSome = true ∧
    t.canonicalize (FsPath.rawComponents text) = some c

variable {root : String} {c path names obj allowedRoots : List String}
  {cs roots : List (List String)}

theorem Resolved.mono (hext : t.Extends t') (h : Resolved t root c) : Resolved t' root c := by
  obtain ⟨hne, text, htext, hparent, hcanon⟩ := h
  exact ⟨hne, text, htext, hparent, FileTree.canonicalize_mono hext hcanon⟩

theorem extends_createMissingRoot (h : createMissingRoot t root = .ok t') :
    t.Extends t' := by
  unfold createMissingRoot at h
  split at h
  · obtain rfl := Except.ok.inj h
    exact .refl t
  · simp only [bind_eq_ok, require_eq_ok] at h
    obtain ⟨_, -, relative, -, hcreate⟩ := h
    exact FileTree.extends_createDirAll hcreate

theorem canonicalAllowedRoot_ok {create : Bool}
    (h : canonicalAllowedRoot create t root = (.ok c, t')) :
    t.Extends t' ∧ Resolved t' root c ∧ (create = false → t' = t) := by
  unfold canonicalAllowedRoot at h
  split at h
  · simp at h
  · rename_i text htext
    split at h
    · simp at h
    · rename_i hparent
      split at h
      · simp at h
      · rename_i t₁ ht₁
        have hext : t.Extends t₁ := by
          cases create with
          | false =>
            obtain rfl := Except.ok.inj ht₁
            exact .refl t
          | true => exact extends_createMissingRoot ht₁
        split at h
        · simp at h
        · simp at h
        · rename_i canonical hne hcanon
          obtain ⟨hc, rfl⟩ := Prod.mk.inj h
          obtain rfl := Except.ok.inj hc
          refine ⟨hext, ⟨fun hnil => hne hnil, text, htext, ?_, hcanon⟩, ?_⟩
          · simpa [isSome_iff_ne_none] using hparent
          · rintro rfl
            exact (Except.ok.inj ht₁).symm

theorem canonicalAllowedRoot_of_resolved (create : Bool) (h : Resolved t root c) :
    canonicalAllowedRoot create t root = (.ok c, t) := by
  obtain ⟨hne, text, htext, hparent, hcanon⟩ := h
  have hexists : t.tryExists (FsPath.rawComponents text) = true := by
    rw [FileTree.tryExists, hcanon]
    rfl
  have hprepared : (if create = true then createMissingRoot t text else .ok t) = .ok t := by
    cases create with
    | false => rfl
    | true =>
      rw [if_pos rfl, createMissingRoot, if_pos hexists]
  unfold canonicalAllowedRoot
  simp only [htext, isNone_eq_false_iff.mpr hparent, Bool.false_eq_true, if_false,
    hprepared, hcanon]

theorem canonicalRootsFrom_ok {create : Bool} {roots : List String}
    (h : canonicalRootsFrom create t roots = (.ok cs, t')) :
    t.Extends t' ∧ Forall₂ (Resolved t') roots cs ∧ (create = false → t' = t) := by
  induction roots generalizing t cs with
  | nil =>
    obtain ⟨hcs, rfl⟩ := Prod.mk.inj h
    obtain rfl := Except.ok.inj hcs
    exact ⟨.refl t, .nil, fun _ => rfl⟩
  | cons root rest ih =>
    simp only [canonicalRootsFrom] at h
    split at h
    · simp at h
    · rename_i canonical t₁ hroot
      split at h
      · simp at h
      · rename_i cs' t₂ hrest
        obtain ⟨hcs, rfl⟩ := Prod.mk.inj h
        obtain rfl := Except.ok.inj hcs
        obtain ⟨hext, hresolved, hsame⟩ := canonicalAllowedRoot_ok hroot
        obtain ⟨hext', hresolved', hsame'⟩ := ih hrest
        refine ⟨hext.trans hext', .cons (hresolved.mono hext') hresolved', fun hcreate => ?_⟩
        rw [hsame' hcreate, hsame hcreate]

theorem canonicalRootsFrom_of_resolved (create : Bool) {roots : List String}
    (h : Forall₂ (Resolved t) roots cs) :
    canonicalRootsFrom create t roots = (.ok cs, t) := by
  induction h with
  | nil => rfl
  | cons hroot _ ih =>
    simp only [canonicalRootsFrom, canonicalAllowedRoot_of_resolved create hroot, ih]

theorem canonicalAllowedRoots_ok {create : Bool} {roots : List String}
    (h : canonicalAllowedRoots create t roots = (.ok cs, t')) :
    t.Extends t' ∧ Forall₂ (Resolved t') roots cs ∧ (create = false → t' = t) ∧
      ∀ again, canonicalAllowedRoots again t' roots = (.ok cs, t') := by
  unfold canonicalAllowedRoots at h ⊢
  split at h
  · simp at h
  · rename_i hempty
    obtain ⟨hext, hresolved, hsame⟩ := canonicalRootsFrom_ok h
    refine ⟨hext, hresolved, hsame, fun again => ?_⟩
    rw [if_neg hempty, canonicalRootsFrom_of_resolved again hresolved]

/-! ## Targets lie under the roots -/

theorem underAllowedRoots_iff :
    underAllowedRoots path roots = true ↔ ∃ root ∈ roots, root <+: path := by
  simp [underAllowedRoots, List.any_eq_true]

theorem underAllowedRoots_of_isPrefix {path' : List String}
    (h : underAllowedRoots path roots = true) (hpre : path <+: path') :
    underAllowedRoots path' roots = true := by
  obtain ⟨root, hroot, hp⟩ := underAllowedRoots_iff.mp h
  exact underAllowedRoots_iff.mpr ⟨root, hroot, hp.trans hpre⟩

theorem normalNames_eq_some {path : List Component} :
    normalNames path = some names ↔ path = names.map .normal := by
  induction path generalizing names with
  | nil => cases names <;> simp [normalNames]
  | cons component rest ih =>
    cases component with
    | normal => cases names <;> simp [normalNames, ih, and_comm]
    | rootDir => cases names <;> simp [normalNames]
    | curDir => cases names <;> simp [normalNames]
    | parentDir => cases names <;> simp [normalNames]

theorem absoluteNormalComponents_eq_some {path : List Component} :
    absoluteNormalComponents path = some names ↔ path = FileTree.literal names := by
  unfold absoluteNormalComponents FileTree.literal
  split
  · simp [normalNames_eq_some]
  · rename_i hroot
    simp only [reduceCtorEq, false_iff]
    exact fun h => hroot _ h

theorem literal_prefix {a b : List String} (h : FileTree.literal a <+: FileTree.literal b) :
    a <+: b := by
  have hmap := (cons_prefix_cons.mp h).2
  obtain ⟨rest, hrest⟩ := hmap
  have hlen : a.length ≤ b.length := by
    have := congrArg length hrest
    simp only [length_append, length_map] at this
    omega
  have htake : (b.take a.length).map Component.normal = a.map Component.normal := by
    rw [map_take, ← hrest, take_left' (by simp)]
  have hinj : Function.Injective Component.normal := fun _ _ h => Component.normal.inj h
  rw [← map_injective_iff.mpr hinj htake]
  exact take_prefix _ _

theorem resolveExistingPath_ok {path : String} (h : resolveExistingPath t path roots = .ok obj) :
    underAllowedRoots obj roots = true := by
  unfold resolveExistingPath ensureUnderAllowedRoots at h
  simp only [bind_eq_ok, require_eq_ok, ensure_eq_ok, pure_eq_ok] at h
  obtain ⟨_, -, canonical, -, _, hunder, rfl⟩ := h
  exact hunder

theorem resolveWriteTarget_ok {path : String} {target : List Component}
    (h : resolveWriteTarget t path roots = .ok target) :
    ∃ root ∈ roots, FileTree.literal root <+: target := by
  unfold resolveWriteTarget ensureUnderAllowedRoots at h
  split at h
  · simp only [bind_eq_ok, ensure_eq_ok, pure_eq_ok] at h
    obtain ⟨_, hunder, rfl⟩ := h
    obtain ⟨root, hroot, rest, hrest⟩ := underAllowedRoots_iff.mp hunder
    refine ⟨root, hroot, rest.map .normal, ?_⟩
    rw [← hrest]
    simp [FileTree.literal]
  · simp only [bind_eq_ok, require_eq_ok, ensure_eq_ok, pure_eq_ok] at h
    obtain ⟨_, -, _, -, _, hany, rfl⟩ := h
    obtain ⟨root, hroot, hpre⟩ := List.any_eq_true.mp hany
    exact ⟨root, hroot, FsPath.startsWith_iff.mp hpre⟩

theorem writeTarget_ok {path : String} {createDirs : Bool}
    (h : writeTarget t path createDirs roots = .ok obj) :
    underAllowedRoots obj roots = true := by
  unfold writeTarget at h
  simp only [bind_eq_ok, require_eq_ok] at h
  obtain ⟨_, -, _, -, t₁, -, target, htarget, hobj⟩ := h
  obtain rfl := absoluteNormalComponents_eq_some.mp hobj
  obtain ⟨root, hroot, hpre⟩ := resolveWriteTarget_ok htarget
  exact underAllowedRoots_iff.mpr ⟨root, hroot, literal_prefix hpre⟩

theorem deleteTarget_ok {path : String} (h : deleteTarget t path roots = .ok obj) :
    underAllowedRoots obj roots = true := by
  unfold deleteTarget ensureUnderAllowedRoots at h
  simp only [bind_eq_ok, require_eq_ok, ensure_eq_ok, pure_eq_ok] at h
  obtain ⟨_, -, _, -, name, -, parent, -, _, hunder, rfl⟩ := h
  exact underAllowedRoots_of_isPrefix hunder (prefix_append _ _)

theorem target_under {op : FileOp} (h : op.target t allowedRoots = .ok obj) :
    ∃ cs t', canonicalAllowedRoots true t allowedRoots = (.ok cs, t') ∧
      underAllowedRoots obj cs = true := by
  have hfound : ∀ cs, (canonicalAllowedRoots false t allowedRoots).1 = .ok cs →
      canonicalAllowedRoots true t allowedRoots = (.ok cs, t) := by
    intro cs hcs
    obtain ⟨-, -, hsame, hagain⟩ := canonicalAllowedRoots_ok (Prod.ext hcs rfl)
    rw [hsame rfl] at hagain
    exact hagain true
  cases op with
  | list =>
    obtain ⟨cs, hcs, hpath⟩ := bind_eq_ok.mp h
    exact ⟨cs, t, hfound cs hcs, resolveExistingPath_ok hpath⟩
  | read =>
    obtain ⟨_, -, hrest⟩ := bind_eq_ok.mp h
    obtain ⟨cs, hcs, hpath⟩ := bind_eq_ok.mp hrest
    exact ⟨cs, t, hfound cs hcs, resolveExistingPath_ok hpath⟩
  | write =>
    obtain ⟨_, -, hrest⟩ := bind_eq_ok.mp h
    obtain ⟨cs, hcs, hpath⟩ := bind_eq_ok.mp hrest
    exact ⟨cs, _, Prod.ext hcs rfl, writeTarget_ok hpath⟩
  | delete =>
    obtain ⟨cs, hcs, hpath⟩ := bind_eq_ok.mp h
    exact ⟨cs, t, hfound cs hcs, deleteTarget_ok hpath⟩

/-! ## Everything under a root is reached -/

def pathText (obj : List String) : String :=
  String.ofList (['/'].intercalate ([] :: (obj.map String.toList ++ [['.']])))

theorem parts_pathText (h : ∀ name ∈ obj, validName name = true) :
    FsPath.parts (pathText obj) = "" :: (obj ++ ["."]) := by
  have hslash : ∀ l ∈ [] :: (obj.map String.toList ++ [['.']]), '/' ∉ l := by
    intro l hl
    simp only [mem_cons, mem_append, List.mem_map, not_mem_nil, or_false] at hl
    rcases hl with rfl | ⟨name, hname, rfl⟩ | rfl
    · exact not_mem_nil
    · have := h name hname
      simp [validName] at this
      exact this.1.2
    · decide
  rw [FsPath.parts, pathText, String.toList_ofList,
    splitOn_intercalate '/' hslash (cons_ne_nil _ _)]
  simp

theorem toList_pathText (obj : List String) :
    (pathText obj).toList = (obj.flatMap fun name => '/' :: name.toList) ++ ['/', '.'] := by
  have key : ∀ l : List Char, ['/'].intercalate (l :: (obj.map String.toList ++ [['.']])) =
      l ++ ((obj.flatMap fun name => '/' :: name.toList) ++ ['/', '.']) := by
    induction obj with
    | nil =>
      intro l
      simp [intercalate]
    | cons name obj ih =>
      intro l
      have hstep : ['/'].intercalate (l :: ((name :: obj).map String.toList ++ [['.']])) =
          l ++ '/' :: ['/'].intercalate (name.toList :: (obj.map String.toList ++ [['.']])) := by
        simp [intercalate]
      rw [hstep, ih]
      simp
  rw [pathText, String.toList_ofList, key, nil_append]

theorem validateAbsolutePath_pathText (hne : obj ≠ []) (h : ∀ name ∈ obj, validName name = true) :
    validateAbsolutePath (pathText obj) = .ok (pathText obj) := by
  obtain ⟨first, rest, rfl⟩ := exists_cons_of_ne_nil hne
  have hlist : (pathText (first :: rest)).toList = '/' ::
      ((first.toList ++ rest.flatMap fun name => '/' :: name.toList) ++ ['/'] ++ ['.']) := by
    rw [toList_pathText]
    simp
  have htrim := Text.trim_eq_self hlist (by decide) (by decide)
  have hnul : (pathText (first :: rest)).toList.contains '\x00' = false := by
    rw [toList_pathText]
    simp only [contains_eq_mem, decide_eq_false_iff_not, mem_append, mem_flatMap,
      not_or]
    refine ⟨?_, by decide⟩
    rintro ⟨name, hname, hmem⟩
    have hvalid := h name hname
    simp [validName] at hvalid
    rcases mem_cons.mp hmem with heq | hmem
    · exact absurd heq (by decide)
    · exact hvalid.2 hmem
  have habs : FsPath.isAbsolute (pathText (first :: rest)) = true := by
    rw [FsPath.isAbsolute, hlist]
    rfl
  unfold validateAbsolutePath
  rw [htrim, hnul, habs]
  rfl

theorem components_pathText (hne : obj ≠ []) (h : ∀ name ∈ obj, validName name = true) :
    FsPath.components (pathText obj) = FileTree.literal obj := by
  obtain ⟨first, rest, rfl⟩ := exists_cons_of_ne_nil hne
  have habs : FsPath.isAbsolute (pathText (first :: rest)) = true := by
    rw [FsPath.isAbsolute, toList_pathText]
    rfl
  have hnames : ∀ names : List String, (∀ name ∈ names, validName name = true) →
      names.filterMap FsPath.component? = names.map Component.normal := by
    intro names hvalid
    rw [← filterMap_eq_map]
    refine filterMap_congr fun name hname => ?_
    have := hvalid name hname
    simp only [validName, Bool.and_eq_true, bne_iff_ne] at this
    simp [FsPath.component?, this.1.1.1.1, this.1.1.1.2, this.1.1.2]
  rw [FsPath.components, if_pos habs, parts_pathText h]
  have hempty : FsPath.component? "" = none := by decide
  have hdot : FsPath.component? "." = none := by decide
  rw [filterMap_cons_none hempty, filterMap_append, hnames _ h]
  simp [hdot, FileTree.literal]

theorem deleteTarget_pathText {name : String} (hobj : (t.node (path ++ [name])).isSome = true)
    (hunder : underAllowedRoots path roots = true) :
    deleteTarget t (pathText (path ++ [name])) roots = .ok (path ++ [name]) := by
  have hvalid := FileTree.validName_of_mem hobj
  have hne : path ++ [name] ≠ [] := by simp
  obtain ⟨n, hn⟩ := isSome_iff_exists.mp hobj
  have hdir := t.parent_dir _ _ _ hn
  have hlit : FileTree.literal (path ++ [name]) = FileTree.literal path ++ [.normal name] := by
    simp [FileTree.literal]
  have hparent : FsPath.parent (FileTree.literal (path ++ [name])) =
      some (FileTree.literal path) := by
    rw [hlit]
    simp [FsPath.parent]
  have hname : FsPath.fileName (FileTree.literal (path ++ [name])) = some name := by
    rw [hlit]
    simp [FsPath.fileName]
  have hcanon : t.canonicalize (FileTree.literal path) = some path := by
    have := FileTree.canonicalize_literal hdir []
    rw [append_nil] at this
    exact this
  unfold deleteTarget ensureUnderAllowedRoots
  simp only [bind_eq_ok, require_eq_ok, ensure_eq_ok, pure_eq_ok]
  refine ⟨_, validateAbsolutePath_pathText hne hvalid, FileTree.literal path, ?_, name, ?_,
    path, hcanon, (), hunder, rfl⟩
  · rw [components_pathText hne hvalid, hparent]
  · rw [components_pathText hne hvalid, hname]

theorem reaches_iff :
    Reaches t allowedRoots obj ↔ (t.node obj).isSome = true ∧
      ∃ cs t', canonicalAllowedRoots true t allowedRoots = (.ok cs, t') ∧
        underAllowedRoots obj cs = true := by
  constructor
  · rintro ⟨hobj, ⟨op, hop⟩ | ⟨cs, t', hroots, op, hop⟩⟩
    · exact ⟨hobj, target_under hop⟩
    · obtain ⟨cs', t'', hroots', hunder⟩ := target_under hop
      obtain ⟨-, -, -, hagain⟩ := canonicalAllowedRoots_ok hroots
      have hsame := hagain true
      rw [hroots'] at hsame
      obtain rfl := Except.ok.inj (Prod.mk.inj hsame).1
      exact ⟨hobj, cs', t', hroots, hunder⟩
  · rintro ⟨hobj, cs, t', hroots, hunder⟩
    obtain ⟨hext, hresolved, -, hagain⟩ := canonicalAllowedRoots_ok hroots
    refine ⟨hobj, .inr ⟨cs, t', hroots, ?_⟩⟩
    obtain ⟨c, hc, rest, rfl⟩ := underAllowedRoots_iff.mp hunder
    have hobj' : (t'.node (c ++ rest)).isSome = true := by
      obtain ⟨n, hn⟩ := isSome_iff_exists.mp hobj
      rw [hext _ _ hn]
      rfl
    induction rest using reverseRecOn with
    | nil =>
      -- the root itself, listed under the name it has in the configuration
      obtain ⟨i, hi, hget⟩ := getElem_of_mem hc
      have hi' : i < allowedRoots.length := hresolved.length_eq ▸ hi
      obtain ⟨-, text, htext, -, hcanon⟩ := hresolved.get hi' hi
      refine ⟨.list allowedRoots[i], ?_⟩
      rw [append_nil] at hunder ⊢
      refine bind_eq_ok.mpr ⟨cs, by rw [hagain false], ?_⟩
      unfold resolveExistingPath ensureUnderAllowedRoots
      simp only [bind_eq_ok, require_eq_ok, ensure_eq_ok, pure_eq_ok]
      refine ⟨text, htext, c, ?_, (), hunder, rfl⟩
      rw [← hget]
      exact hcanon
    | append_singleton rest name =>
      rw [← append_assoc] at hobj' ⊢
      refine ⟨.delete (pathText (c ++ rest ++ [name])) false, ?_⟩
      have hparent : underAllowedRoots (c ++ rest) cs = true :=
        underAllowedRoots_iff.mpr ⟨c, hc, prefix_append _ _⟩
      exact bind_eq_ok.mpr ⟨cs, by rw [hagain false], deleteTarget_pathText hobj' hparent⟩

/-! ## Updates -/

theorem reaches_le_iff {old new : List String} :
    (∀ obj, Reaches t new obj → Reaches t old obj) ↔
      ∀ cs, (canonicalAllowedRoots true t new).1 = .ok cs → ∀ c ∈ cs,
        (t.node c).isSome = true →
          ∃ os, (canonicalAllowedRoots true t old).1 = .ok os ∧ underAllowedRoots c os = true := by
  constructor
  · intro h cs hcs c hc hexists
    have hself : underAllowedRoots c cs = true :=
      underAllowedRoots_iff.mpr ⟨c, hc, prefix_rfl⟩
    have hreach := h c (reaches_iff.mpr ⟨hexists, cs, _, Prod.ext hcs rfl, hself⟩)
    obtain ⟨-, os, t', hos, hunder⟩ := reaches_iff.mp hreach
    exact ⟨os, by rw [hos], hunder⟩
  · intro h obj hreach
    obtain ⟨hobj, cs, t', hcs, hunder⟩ := reaches_iff.mp hreach
    obtain ⟨c, hc, hpre⟩ := underAllowedRoots_iff.mp hunder
    have hexists := FileTree.isSome_of_isPrefix hpre hobj
    obtain ⟨os, hos, hcos⟩ := h cs (by rw [hcs]) c hc hexists
    exact reaches_iff.mpr ⟨hobj, os, _, Prod.ext hos rfl, underAllowedRoots_of_isPrefix hcos hpre⟩

/-! Two trees that differ in one object of the workspace: a directory, or a link that
leads out of it. -/

namespace Sample

def treeWith (subdir : Node) : List (List String × Node) :=
  [([], .dir), (["srv"], .dir), (["srv", "xlstatus"], .dir),
    (["srv", "xlstatus", "workspace"], .dir),
    (["srv", "xlstatus", "workspace", "subdir"], subdir),
    (["secret"], .dir), (["secret", "key"], .file [42])]

def plainTree : FileTree := .ofEntries (treeWith .dir) (by decide) (by decide)

def linkTree : FileTree := .ofEntries (treeWith (.symlink "/secret")) (by decide) (by decide)

theorem values :
    updateRoots Agent.Sample.parsers Agent.Sample.narrow =
        some ["/srv/xlstatus/workspace/subdir"] ∧
      (canonicalAllowedRoots true plainTree ["/srv/xlstatus/workspace/subdir"]).1 =
        .ok [["srv", "xlstatus", "workspace", "subdir"]] ∧
      (canonicalAllowedRoots true plainTree Agent.Sample.loaded.config.fileAllowedRoots).1 =
        .ok [["srv", "xlstatus", "workspace"]] ∧
      (canonicalAllowedRoots true linkTree Agent.Sample.loaded.config.fileAllowedRoots).1 =
        .ok [["srv", "xlstatus", "workspace"]] := by
  decide +kernel

end Sample

/-- An accepted update reaches no more than the roots before it exactly when each root
it brings, once resolved, lies under an old root as that resolves. -/
theorem accepted_update_reaches_le_iff (parsers : Parsers) (io : FsOutcome) (s : RuntimeContext)
    (update : ConfigUpdate) (t : FileTree)
    (haccepted : (applyRemoteConfig parsers io s update).1 = .ok ()) :
    (∀ obj, Reaches t (applyRemoteConfig parsers io s update).2.config.fileAllowedRoots obj →
        Reaches t s.config.fileAllowedRoots obj) ↔
      ∀ roots, updateRoots parsers update = some roots →
        ∀ cs, (canonicalAllowedRoots true t roots).1 = .ok cs → ∀ c ∈ cs,
          (t.node c).isSome = true →
            ∃ os, (canonicalAllowedRoots true t s.config.fileAllowedRoots).1 = .ok os ∧
              underAllowedRoots c os = true := by
  rcases applyRemoteConfig_cases parsers io s update with
    ⟨⟨e, herror⟩, -⟩ | ⟨object, disk, current, hparse, -, hpatched, -, houtcome⟩
  · rw [herror] at haccepted
    cases haccepted
  · have hconfig : (applyRemoteConfig parsers io s update).2.config = current := by
      rcases houtcome with ⟨-, hconfig⟩ | ⟨e, herror, -⟩
      · exact hconfig
      · rw [herror] at haccepted
        cases haccepted
    have hroots : updateRoots parsers update = requestedRoots object := by
      rw [updateRoots, hparse]
    rw [hconfig, hpatched.roots_eq, hroots]
    cases hreq : requestedRoots object with
    | none => simp
    | some roots =>
      simp only [getD_some, some.injEq, forall_eq']
      exact reaches_le_iff

theorem accepted_update_reaches_le_iff_plain :
    (applyRemoteConfig Agent.Sample.parsers Agent.Sample.io Agent.Sample.loaded
        Agent.Sample.narrow).1 = .ok () ∧
    ∀ obj, Reaches Sample.plainTree (applyRemoteConfig Agent.Sample.parsers Agent.Sample.io
        Agent.Sample.loaded Agent.Sample.narrow).2.config.fileAllowedRoots obj →
      Reaches Sample.plainTree Agent.Sample.loaded.config.fileAllowedRoots obj := by
  refine ⟨Agent.Sample.narrow_accepted, ?_⟩
  refine (accepted_update_reaches_le_iff Agent.Sample.parsers Agent.Sample.io Agent.Sample.loaded
    Agent.Sample.narrow Sample.plainTree Agent.Sample.narrow_accepted).mpr ?_
  intro roots hroots cs hcs c hc _
  obtain ⟨hnew, hres, hold, -⟩ := Sample.values
  obtain rfl := some.inj (hroots.symm.trans hnew)
  obtain rfl := Except.ok.inj (hcs.symm.trans hres)
  rw [mem_singleton.mp hc]
  exact ⟨_, hold, by decide⟩

theorem link_root_reaches_outside :
    (applyRemoteConfig Agent.Sample.parsers Agent.Sample.io Agent.Sample.loaded
        Agent.Sample.narrow).1 = .ok () ∧
      Reaches Sample.linkTree (applyRemoteConfig Agent.Sample.parsers Agent.Sample.io
        Agent.Sample.loaded Agent.Sample.narrow).2.config.fileAllowedRoots ["secret", "key"] ∧
      ¬ Reaches Sample.linkTree Agent.Sample.loaded.config.fileAllowedRoots ["secret", "key"] := by
  refine ⟨Agent.Sample.narrow_accepted,
    ⟨by decide, .inl ⟨.read "/secret/key" 0 0, by decide +kernel⟩⟩, fun h => ?_⟩
  obtain ⟨-, cs, t', hcs, hunder⟩ := reaches_iff.mp h
  obtain ⟨-, -, -, hres⟩ := Sample.values
  rw [hcs] at hres
  obtain rfl := Except.ok.inj hres
  exact absurd hunder (by decide)

end XLStatus.Agent.Files
