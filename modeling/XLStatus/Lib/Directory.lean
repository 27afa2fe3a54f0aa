import Mathlib.Tactic

/-! Calls on a directory that may fail. What the calls before a failing one did stays done,
and a failing call may itself leave something behind. -/

namespace XLStatus

open Function

/-- A call on a state: it succeeds or ends with an error, in a state of its own either way. -/
abbrev Attempt (σ : Type*) := σ → Except String Unit × σ

namespace Attempt

variable {σ : Type*} {m cleanup : Attempt σ} {rest : List (Attempt σ)} {s s' : σ} {e : String}

def all : List (Attempt σ) → Attempt σ
  | [], s => (.ok (), s)
  | call :: rest, s => match call s with
    | (.ok (), s') => all rest s'
    | (.error e, s') => (.error e, s')

def failing (fault : Option String) (m : Attempt σ) : Attempt σ := fun s =>
  match fault with
  | some e => (.error e, s)
  | none => m s

def onError (m cleanup : Attempt σ) : Attempt σ := fun s =>
  match m s with
  | (.ok (), s') => (.ok (), s')
  | (.error e, s') => (.error e, (cleanup s').2)

@[simp] theorem all_nil : all [] s = (.ok (), s) := rfl

theorem all_cons_of_ok (h : m s = (.ok (), s')) : all (m :: rest) s = all rest s' := by
  simp only [all, h]

theorem all_cons_of_error (h : m s = (.error e, s')) : all (m :: rest) s = (.error e, s') := by
  simp only [all, h]

@[simp] theorem failing_none : failing none m = m := rfl

@[simp] theorem failing_some : failing (some e) m s = (.error e, s) := rfl

theorem onError_of_ok (h : m s = (.ok (), s')) : onError m cleanup s = (.ok (), s') := by
  simp only [onError, h]

theorem onError_of_error (h : m s = (.error e, s')) :
    onError m cleanup s = (.error e, (cleanup s').2) := by
  simp only [onError, h]

end Attempt

inductive DirEntry where
  | file (data : ByteArray) (mode : ℕ)
  | symlink (target : String)
  | dir

def DirEntry.isSymlink : DirEntry → Bool
  | .symlink _ => true
  | _ => false

abbrev Directory := String → Option DirEntry

namespace Directory

def alreadyExists : String := "File exists (os error 17)"
def notFound : String := "No such file or directory (os error 2)"
def isADirectory : String := "Is a directory (os error 21)"

def createNew (name : String) (mode : ℕ) : Attempt Directory := fun d =>
  if (d name).isSome then (.error alreadyExists, d)
  else (.ok (), Function.update d name (some (.file .empty mode)))

def setPermissions (name : String) (mode : ℕ) : Attempt Directory := fun d =>
  match d name with
  | none => (.error notFound, d)
  | some (.file data _) => (.ok (), Function.update d name (some (.file data mode)))
  | some _ => (.ok (), d)

def append (name : String) (data : ByteArray) (d : Directory) : Directory :=
  match d name with
  | some (.file old mode) => Function.update d name (some (.file (old ++ data) mode))
  | _ => d

def writeAll (fault : Option String) (written : ℕ) (name : String) (data : ByteArray) :
    Attempt Directory := fun d =>
  match fault with
  | some e => (.error e, d.append name (data.extract 0 written))
  | none => (.ok (), d.append name data)

def syncAll : Attempt Directory := fun d => (.ok (), d)

def rename (source target : String) : Attempt Directory := fun d =>
  match d source, d target with
  | none, _ => (.error notFound, d)
  | _, some .dir => (.error isADirectory, d)
  | some entry, _ => (.ok (), Function.update (Function.update d target (some entry)) source none)

def removeFile (name : String) : Attempt Directory := fun d =>
  match d name with
  | none => (.error notFound, d)
  | some .dir => (.error isADirectory, d)
  | some _ => (.ok (), Function.update d name none)

def contents (follow : String → Option ByteArray) (d : Directory) (name : String) :
    Option ByteArray :=
  match d name with
  | some (.file data _) => some data
  | some (.symlink target) => follow target
  | _ => none

variable {d : Directory} {name source target : String}

theorem createNew_of_unused (h : d name = none) (mode : ℕ) :
    createNew name mode d = (.ok (), Function.update d name (some (.file .empty mode))) := by
  simp [createNew, h]

theorem createNew_of_used (h : d name ≠ none) (mode : ℕ) :
    createNew name mode d = (.error alreadyExists, d) := by
  simp [createNew, Option.isSome_iff_ne_none, h]

@[simp] theorem syncAll_eq : syncAll d = (.ok (), d) := rfl

theorem append_update (old data : ByteArray) (mode : ℕ) :
    append name data (Function.update d name (some (.file old mode))) =
      Function.update d name (some (.file (old ++ data) mode)) := by
  simp [append]

theorem setPermissions_update (data : ByteArray) (mode mode' : ℕ) :
    setPermissions name mode' (Function.update d name (some (.file data mode))) =
      (.ok (), Function.update d name (some (.file data mode'))) := by
  simp [setPermissions]

theorem rename_update (hne : source ≠ target) (hunused : d source = none)
    (htarget : d target ≠ some .dir) (data : ByteArray) (mode : ℕ) :
    rename source target (Function.update d source (some (.file data mode))) =
      (.ok (), Function.update d target (some (.file data mode))) := by
  have hold : Function.update (Function.update (Function.update d source
      (some (.file data mode))) target (some (.file data mode))) source none =
      Function.update d target (some (.file data mode)) := by
    rw [update_comm hne.symm, update_idem, ← hunused, update_eq_self]
  simp only [rename, update_self, update_of_ne hne.symm]
  rw [hold]

theorem removeFile_update (hunused : d name = none) (data : ByteArray) (mode : ℕ) :
    (removeFile name (Function.update d name (some (.file data mode)))).2 = d := by
  simp only [removeFile, update_self, update_idem]
  rw [← hunused, update_eq_self]

theorem removeFile_of_ne (hne : source ≠ name) : (removeFile name d).2 source = d source := by
  unfold removeFile
  split
  · rfl
  · rfl
  · exact update_of_ne hne ..

theorem removeFile_of_unused (h : d name = none) : (removeFile name d).2 = d := by
  simp only [removeFile, h]

theorem ne_none_of_removeFile (h : (removeFile name d).2 source ≠ none) : d source ≠ none := by
  by_cases hname : source = name
  · subst hname
    unfold removeFile at h
    split at h
    · exact h
    · exact h
    · exact absurd (update_self ..) h
  · rwa [removeFile_of_ne hname] at h

theorem ne_none_of_update {entry : Option DirEntry} (htarget : d target ≠ none)
    (h : Function.update d target entry name ≠ none) : d name ≠ none := by
  by_cases hname : name = target
  · rwa [hname]
  · rwa [update_of_ne hname] at h

theorem contents_update (follow : String → Option ByteArray) (data : ByteArray) (mode : ℕ) :
    contents follow (Function.update d name (some (.file data mode))) name = some data := by
  simp [contents]

theorem contents_congr (follow : String → Option ByteArray) {d' : Directory}
    (h : d' name = d name) : contents follow d' name = contents follow d name := by
  simp only [contents, h]

end Directory

end XLStatus
