import XLStatus.Lib.Checked
import XLStatus.Lib.FileTree
import XLStatus.Lib.Text

/-! The agent's file operations up to the object they are let through to: the allowed
roots and the requested path are resolved through symbolic links, and the result has to
lie under a root. A path is carried as its trimmed text. -/

namespace XLStatus.Agent.Files

open FsPath (Component)
open Checked

def hardMaxFileReadBytes : UInt64 := 100 * 1024 * 1024
def defaultFileReadMaxBytes : UInt64 := 2 * 1024 * 1024
def hardMaxFileWriteBytes : ℕ := 100 * 1024 * 1024
def filePermissionBitsMask : UInt32 := 0o777

def validateAbsolutePath (path : String) : Except String String := do
  ensure (!path.toList.contains '\x00') "Path contains NUL byte"
  ensure (FsPath.isAbsolute (Text.trim path)) "Path must be absolute"
  return Text.trim path

def normalNames : List Component → Option (List String)
  | [] => some []
  | .normal name :: rest => (normalNames rest).map (name :: ·)
  | _ :: _ => none

def existingAncestor (t : FileTree) : List Component → Option (List Component × List String)
  | [] => none
  | _ :: rest =>
    match t.canonicalize rest.reverse with
    | some canonical => some (rest.reverse, canonical)
    | none => existingAncestor t rest

def createMissingRoot (t : FileTree) (root : String) : Except String FileTree :=
  if t.tryExists (FsPath.rawComponents root) then .ok t
  else do
    let (ancestor, canonicalAncestor) ← require
      (existingAncestor t (FsPath.components root).reverse) "Allowed root has no existing parent"
    let relative ← require
      (normalNames ((FsPath.components root).drop ancestor.length))
      ("Failed to create allowed root " ++ root)
    require (t.createDirAll [] (canonicalAncestor ++ relative))
      ("Failed to create allowed root " ++ root)

def canonicalAllowedRoot (createMissing : Bool) (t : FileTree) (root : String) :
    Except String (List String) × FileTree :=
  match validateAbsolutePath root with
  | .error e => (.error e, t)
  | .ok root =>
    if (FsPath.parent (FsPath.components root)).isNone then
      (.error "Filesystem root cannot be used as an allowed file root", t)
    else match if createMissing then createMissingRoot t root else .ok t with
      | .error e => (.error e, t)
      | .ok t' =>
        match t'.canonicalize (FsPath.rawComponents root) with
        | none => (.error ("Allowed root " ++ root ++ " does not exist"), t')
        | some [] => (.error "Filesystem root cannot be used as an allowed file root", t')
        | some canonical => (.ok canonical, t')

def canonicalRootsFrom (createMissing : Bool) :
    FileTree → List String → Except String (List (List String)) × FileTree
  | t, [] => (.ok [], t)
  | t, root :: rest =>
    match canonicalAllowedRoot createMissing t root with
    | (.error e, t') => (.error e, t')
    | (.ok canonical, t') =>
      match canonicalRootsFrom createMissing t' rest with
      | (.error e, t'') => (.error e, t'')
      | (.ok roots, t'') => (.ok (canonical :: roots), t'')

def canonicalAllowedRoots (createMissing : Bool) (t : FileTree) (allowedRoots : List String) :
    Except String (List (List String)) × FileTree :=
  if allowedRoots.isEmpty then (.error "no allowed file roots configured", t)
  else canonicalRootsFrom createMissing t allowedRoots

def underAllowedRoots (path : List String) (allowedRoots : List (List String)) : Bool :=
  allowedRoots.any fun root => root.isPrefixOf path

def ensureUnderAllowedRoots (path : List String) (allowedRoots : List (List String)) :
    Except String Unit :=
  ensure (underAllowedRoots path allowedRoots) "Path is outside configured allowed file roots"

def resolveExistingPath (t : FileTree) (path : String) (allowedRoots : List (List String)) :
    Except String (List String) := do
  let path ← validateAbsolutePath path
  let canonical ← require (t.canonicalize (FsPath.rawComponents path))
    ("Path " ++ path ++ " does not exist")
  ensureUnderAllowedRoots canonical allowedRoots
  return canonical

def resolveWriteTarget (t : FileTree) (path : String) (allowedRoots : List (List String)) :
    Except String (List Component) :=
  match t.canonicalize (FsPath.rawComponents path) with
  | some canonical => do
    ensureUnderAllowedRoots canonical allowedRoots
    return FileTree.literal canonical
  | none => do
    let (ancestor, canonicalAncestor) ← require
      (existingAncestor t (FsPath.components path).reverse) "Path has no existing parent"
    ensureUnderAllowedRoots canonicalAncestor allowedRoots
    let target := FileTree.literal canonicalAncestor ++
      (FsPath.components path).drop ancestor.length
    ensure (allowedRoots.any fun root => FsPath.startsWith target (FileTree.literal root))
      "Path is outside configured allowed file roots"
    return target

def absoluteNormalComponents (path : List Component) : Option (List String) :=
  match path with
  | .rootDir :: rest => normalNames rest
  | _ => none

inductive FileOp where
  | list (path : String)
  | read (path : String) (offset length : UInt64)
  | write (path : String) (data : List UInt8) (mode : Option UInt32) (createDirs : Bool)
  | delete (path : String) (recursive : Bool)

def boundedReadLength (length : UInt64) : Except String UInt64 :=
  if length = 0 then .ok defaultFileReadMaxBytes
  else if length > hardMaxFileReadBytes then
    .error ("File read length exceeds maximum allowed size of " ++
      toString hardMaxFileReadBytes ++ " bytes")
  else .ok length

def ensureWriteBoundsAndMode (data : List UInt8) (mode : Option UInt32) : Except String Unit := do
  ensure (!(data.length > hardMaxFileWriteBytes))
    ("File write data exceeds maximum allowed size of " ++ toString hardMaxFileWriteBytes ++
      " bytes")
  ensure (mode.all fun mode => mode &&& ~~~filePermissionBitsMask == 0)
    "File mode must only contain permission bits (0o777)"

def deleteTarget (t : FileTree) (path : String) (roots : List (List String)) :
    Except String (List String) := do
  let rawPath ← validateAbsolutePath path
  let parent ← require (FsPath.parent (FsPath.components rawPath)) "Cannot delete root directory"
  let fileName ← require (FsPath.fileName (FsPath.components rawPath)) "Path has no file name"
  let canonicalParent ← require (t.canonicalize parent)
    ("Parent " ++ FsPath.parentText rawPath ++ " does not exist")
  ensureUnderAllowedRoots canonicalParent roots
  return canonicalParent ++ [fileName]

def createParentDirs (t : FileTree) (createDirs : Bool) (target : List Component) :
    Except String FileTree :=
  match createDirs, FsPath.parent target with
  | true, some parent =>
    require ((absoluteNormalComponents parent).bind (t.createDirAll []))
      "Failed to create parent directories"
  | _, _ => .ok t

def writeTarget (t : FileTree) (path : String) (createDirs : Bool) (roots : List (List String)) :
    Except String (List String) := do
  let path ← validateAbsolutePath path
  let target ← resolveWriteTarget t path roots
  let t ← createParentDirs t createDirs target
  let target ← resolveWriteTarget t path roots
  require (absoluteNormalComponents target) "Failed to create file"

def FileOp.target (t : FileTree) (allowedRoots : List String) : FileOp → Except String (List String)
  | .list path => do
    let roots ← (canonicalAllowedRoots false t allowedRoots).1
    resolveExistingPath t path roots
  | .read path _ length => do
    let _ ← boundedReadLength length
    let roots ← (canonicalAllowedRoots false t allowedRoots).1
    resolveExistingPath t path roots
  | .write path data mode createDirs => do
    ensureWriteBoundsAndMode data mode
    let prepared := canonicalAllowedRoots true t allowedRoots
    let roots ← prepared.1
    writeTarget prepared.2 path createDirs roots
  | .delete path _ => do
    let roots ← (canonicalAllowedRoots false t allowedRoots).1
    deleteTarget t path roots

/-- An object of the tree that some operation gets to, in the tree as it is or once a
write has created the allowed roots that are missing. -/
def Reaches (t : FileTree) (allowedRoots : List String) (obj : List String) : Prop :=
  (t.node obj).isSome = true ∧
    ((∃ op, FileOp.target t allowedRoots op = .ok obj) ∨
      ∃ roots t', canonicalAllowedRoots true t allowedRoots = (.ok roots, t') ∧
        ∃ op, FileOp.target t' allowedRoots op = .ok obj)

end XLStatus.Agent.Files
