import XLStatus.Agent.FilesDefs

/-! The agent's file operations with what they return and what they do to the tree. A path
that was let through is walked again from the root without following a link. -/

namespace XLStatus.Agent.Files

open FsPath (Component)
open Checked

def maxDirectoryEntries : ℕ := 10000

structure Stat where
  size : UInt64
  mode : UInt32
  modifiedAt : ℤ
  deriving DecidableEq

/-- What the operations ask the kernel beside the tree: the names in a directory, whether a
directory is empty, the metadata of an object, and how many directories can be open. -/
structure Kernel where
  readDir : FileTree → List String → Except String (List String)
  isEmpty : FileTree → List String → Bool
  isEmpty_spec : ∀ t path, isEmpty t path = true → ∀ name, t.node (path ++ [name]) = none
  stat : FileTree → List String → Stat
  descriptors : ℕ

inductive FileType where
  | file
  | dir
  | symlink
  deriving DecidableEq, Repr

structure FileEntry where
  name : String
  fileType : FileType
  size : UInt64
  mode : UInt32
  modifiedAt : ℤ
  symlinkTarget : Option String
  deriving DecidableEq

inductive Reply where
  | entries (entries : List FileEntry)
  | data (data : List UInt8)
  | written (bytes : ℕ)
  | deleted
  deriving DecidableEq

def attempt {α β : Type} (t : FileTree) (x : Except String α)
    (f : α → Except String β × FileTree) : Except String β × FileTree :=
  match x with
  | .error e => (.error e, t)
  | .ok a => f a

def openDirNoFollow (t : FileTree) : List String → List String → Except String Unit
  | _, [] => .ok ()
  | cur, name :: rest =>
    if t.node (cur ++ [name]) = some .dir then openDirNoFollow t (cur ++ [name]) rest
    else .error "Failed to open parent directory"

def splitLast (path : List String) : Except String (List String × String) :=
  match path.getLast? with
  | none => .error "Path has no file name"
  | some name => .ok (path.dropLast, name)

section Operations

variable (k : Kernel)

def readDirNames (t : FileTree) (path : List String) : Except String (List String) := do
  let names ← k.readDir t path
  ensure (names.length ≤ maxDirectoryEntries)
    ("Directory contains more than " ++ toString maxDirectoryEntries ++ " entries")
  return names

def fileEntry (t : FileTree) (path : List String) (name : String) : Except String FileEntry := do
  let node ← require (t.node (path ++ [name])) "Failed to read metadata"
  let stat := k.stat t (path ++ [name])
  let (fileType, symlinkTarget) := match node with
    | .symlink target => (FileType.symlink, some target)
    | .dir => (.dir, none)
    | .file _ => (.file, none)
  return ⟨name, fileType, stat.size, stat.mode, stat.modifiedAt, symlinkTarget⟩

def listFiles (t : FileTree) (path : String) (allowedRoots : List String) :
    Except String (List FileEntry) := do
  let roots ← (canonicalAllowedRoots false t allowedRoots).1
  let path ← resolveExistingPath t path roots
  openDirNoFollow t [] path
  let names ← (readDirNames k t path).mapError fun _ => "Failed to read directory"
  let entries ← names.mapM (fileEntry k t path)
  return entries.mergeSort fun a b => a.name ≤ b.name

def openFileRead (t : FileTree) (path : List String) : Except String (List UInt8) := do
  let (parent, name) ← splitLast path
  openDirNoFollow t [] parent
  match t.node (parent ++ [name]) with
  | none => .error "Failed to stat file"
  | some (.file data) => .ok data
  | some _ => .error "Path is not a regular file"

def readFile (t : FileTree) (path : String) (offset length : UInt64)
    (allowedRoots : List String) : Except String (List UInt8) := do
  let maxRead ← boundedReadLength length
  let roots ← (canonicalAllowedRoots false t allowedRoots).1
  let path ← resolveExistingPath t path roots
  let data ← openFileRead t path
  ensure (offset.toNat < 2 ^ 63) "Failed to seek"
  return (data.drop offset.toNat).take maxRead.toNat

def createFileNoSymlink (t : FileTree) (path : List Component) :
    Except String (List String × String) := do
  let parts ← require (absoluteNormalComponents path) "Failed to create file"
  let (parent, name) ← (splitLast parts).mapError fun _ => "Failed to create file"
  (openDirNoFollow t [] parent).mapError fun _ => "Failed to create file"
  match t.node (parent ++ [name]) with
  | none | some (.file _) => .ok (parent, name)
  | some _ => .error "Failed to create file"

def writeUnderRoots (t : FileTree) (path : String) (data : List UInt8) (createDirs : Bool)
    (roots : List (List String)) : Except String ℕ × FileTree :=
  attempt t (validateAbsolutePath path) fun path =>
  attempt t (resolveWriteTarget t path roots) fun target =>
  attempt t (createParentDirs t createDirs target) fun t =>
  attempt t (resolveWriteTarget t path roots) fun target =>
  attempt t (createFileNoSymlink t target) fun (parent, name) =>
  (.ok data.length, t.put parent name (.file data))

def writeFile (t : FileTree) (path : String) (data : List UInt8) (mode : Option UInt32)
    (createDirs : Bool) (allowedRoots : List String) : Except String ℕ × FileTree :=
  attempt t (ensureWriteBoundsAndMode data mode) fun _ =>
  let (roots, t) := canonicalAllowedRoots true t allowedRoots
  attempt t roots (writeUnderRoots t path data createDirs)

def removeEntries (removeDir : FileTree → List String → Except String Unit × FileTree)
    (path : List String) : List String → FileTree → Except String Unit × FileTree
  | [], t => (.ok (), t)
  | name :: rest, t =>
    let removed : Except String Unit × FileTree := match t.node (path ++ [name]) with
      | none => (.error "Failed to read metadata", t)
      | some .dir => removeDir t (path ++ [name])
      | some _ => (.ok (), t.remove (path ++ [name]))
    attempt removed.2 removed.1 fun _ => removeEntries removeDir path rest removed.2

def unlinkChildDir (t : FileTree) (path : List String) : Except String Unit × FileTree :=
  if k.isEmpty t path then (.ok (), t.remove path) else (.error "Failed to unlink path", t)

def removeDirAllAt : ℕ → FileTree → List String → Except String Unit × FileTree
  | 0, t, _ => (.error "Failed to open parent directory", t)
  | descriptors + 1, t, path =>
    attempt t (readDirNames k t path) fun names =>
    let removed := removeEntries (removeDirAllAt descriptors) path names t
    attempt removed.2 removed.1 fun _ => unlinkChildDir k removed.2 path

def deletePath (t : FileTree) (path : String) (recursive : Bool) (allowedRoots : List String) :
    Except String Unit × FileTree :=
  attempt t (canonicalAllowedRoots false t allowedRoots).1 fun roots =>
  attempt t (deleteTarget t path roots) fun stablePath =>
  attempt t (openDirNoFollow t [] stablePath.dropLast) fun _ =>
  match t.node stablePath with
  | none => (.error "Failed to read metadata", t)
  | some .dir =>
    let removed := if recursive then removeDirAllAt k k.descriptors t stablePath
      else unlinkChildDir k t stablePath
    (removed.1.mapError fun _ =>
      if recursive then "Failed to delete directory"
      else "Failed to delete directory (not empty?)", removed.2)
  | some _ => (.ok (), t.remove stablePath)

def FileOp.run (t : FileTree) (allowedRoots : List String) :
    FileOp → Except String Reply × FileTree
  | .list path => ((listFiles k t path allowedRoots).map .entries, t)
  | .read path offset length => ((readFile t path offset length allowedRoots).map .data, t)
  | .write path data mode createDirs =>
    let (result, t) := writeFile t path data mode createDirs allowedRoots
    (result.map .written, t)
  | .delete path recursive =>
    let (result, t) := deletePath k t path recursive allowedRoots
    (result.map fun _ => .deleted, t)

end Operations

end XLStatus.Agent.Files
