import Mathlib.Tactic

/-! Paths as the standard library of the source reads them: a text is split at its
slashes, and paths are compared component by component. -/

namespace XLStatus.FsPath

inductive Component where
  | rootDir
  | curDir
  | parentDir
  | normal (name : String)
  deriving DecidableEq, Repr

def isAbsolute (s : String) : Bool := s.toList.head? == some '/'

def parts (s : String) : List String := (s.toList.splitOn '/').map String.ofList

def component? (part : String) : Option Component :=
  if part = "" ∨ part = "." then none
  else if part = ".." then some .parentDir
  else some (.normal part)

def components (s : String) : List Component :=
  if isAbsolute s then .rootDir :: (parts s).filterMap component?
  else match parts s with
    | "." :: rest => .curDir :: rest.filterMap component?
    | ps => ps.filterMap component?

def rawComponents (s : String) : List Component :=
  match (parts s).getLast? with
  | some "" | some "." => components s ++ [.curDir]
  | _ => components s

def startsWith (path base : List Component) : Bool := base.isPrefixOf path

def parent (path : List Component) : Option (List Component) :=
  match path.getLast? with
  | none | some .rootDir => none
  | some _ => some path.dropLast

def parentText (s : String) : String :=
  let skipped := fun part => part == "" || part == "."
  let kept := (((parts s).reverse.dropWhile skipped).drop 1).dropWhile skipped
  if kept = [] then "/" else "/".intercalate kept.reverse

def fileName (path : List Component) : Option String :=
  match path.getLast? with
  | some (.normal name) => some name
  | _ => none

variable {path base : List Component} {as bs : List (List Component)}

theorem startsWith_iff :
    startsWith path base = true ↔ base <+: path := List.isPrefixOf_iff_prefix

def Under (bases : List (List Component)) (path : List Component) : Prop :=
  ∃ base ∈ bases, base <+: path

instance (bases : List (List Component)) (path : List Component) : Decidable (Under bases path) :=
  inferInstanceAs (Decidable (∃ base ∈ bases, base <+: path))

theorem Under.trans (h : ∀ a ∈ as, Under bs a) (hp : Under as path) : Under bs path := by
  obtain ⟨a, ha, hap⟩ := hp
  obtain ⟨b, hb, hba⟩ := h a ha
  exact ⟨b, hb, hba.trans hap⟩

theorem under_of_mem {bases : List (List Component)} (h : base ∈ bases) :
    Under bases base := ⟨base, h, List.prefix_rfl⟩

theorem under_le_iff :
    (∀ path, Under as path → Under bs path) ↔ ∀ a ∈ as, Under bs a :=
  ⟨fun h a ha => h a (under_of_mem ha), fun h _ hp => hp.trans h⟩

end XLStatus.FsPath
