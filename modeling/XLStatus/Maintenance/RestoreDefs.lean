import XLStatus.Auth.ChallengeDefs
import XLStatus.Lib.Checked
import XLStatus.Lib.Statements

/-! Restoring a SQLite backup: the checks on the uploaded file, and the statements that replace
the content of the tables on a connection of the pool. -/

namespace XLStatus.Maintenance

open Auth (AppError)
open Checked Statements

structure TableSchema where
  name : String
  columns : List String
  deriving DecidableEq

structure Schema where
  tables : List TableSchema
  nodup : (tables.map (·.name)).Nodup
  deriving DecidableEq

section

variable {V : Type}

abbrev Content (V : Type) := String → List (List (String × V))

/-- An uploaded file: the answers of the integrity check, the objects of its `sqlite_master`
with their types, names and definitions, and its tables. -/
structure RestoreFile (V : Type) where
  integrityCheck : List String
  objects : List (String × String × String)
  schema : List TableSchema
  content : Content V
  wellFormed : ∀ table ∈ schema, table.columns.Nodup ∧
    ∀ row ∈ content table.name, row.map Prod.fst = table.columns

def ensureNoUntrustedSqliteObjects (objects : List (String × String × String)) :
    Except AppError Unit :=
  objects.forM fun (objectType, name, sql) => do
    ensure (objectType == "table" || objectType == "index")
      (.badRequest ("backup contains unsupported SQLite " ++ objectType ++ " '" ++ name ++ "'"))
    ensure (!decide ("CREATE VIRTUAL TABLE".toList <:+: sql.toList.map Char.toUpper))
      (.badRequest ("backup contains unsupported virtual table '" ++ name ++ "'"))

def ensureSchemaCompatible (currentSchema restoreSchema : List TableSchema) :
    Except AppError Unit :=
  currentSchema.forM fun currentTable => do
    let restoreTable ← require (restoreSchema.find? (·.name = currentTable.name))
      (.badRequest ("backup is missing table " ++ currentTable.name))
    ensure (restoreTable.columns == currentTable.columns)
      (.badRequest ("backup table " ++ currentTable.name ++
        " schema does not match current database"))

def validateRestoreCandidate (currentSchema : Schema) (file : RestoreFile V) :
    Except AppError Schema := do
  ensure (!(file.integrityCheck.isEmpty || file.integrityCheck.any (· != "ok")))
    (.badRequest ("SQLite integrity check failed: " ++
      file.integrityCheck.head?.getD "empty result"))
  ensureNoUntrustedSqliteObjects file.objects
  ensureSchemaCompatible currentSchema.tables file.schema
  return currentSchema

/-- The database, and the state of the connection: whether it enforces foreign keys, whether
the restore file is attached, and the content inside an open transaction. -/
structure Store (V : Type) where
  committed : Content V
  foreignKeys : Bool
  attached : Bool
  transaction : Option (Content V)

inductive Statement where
  | trustedSchemaOff
  | foreignKeysOff
  | attach
  | beginImmediate
  | deleteFrom (table : String)
  | insertFrom (table : TableSchema)
  | foreignKeyCheck
  | commit
  | rollback
  | detach
  | foreignKeysOn
  deriving DecidableEq

def Store.write (d : Store V) (f : Content V → Content V) : Store V :=
  match d.transaction with
  | some content => { d with transaction := some (f content) }
  | none => { d with committed := f d.committed }

def Store.setForeignKeys (d : Store V) (on : Bool) : Store V :=
  if d.transaction.isSome then d else { d with foreignKeys := on }

def deleteRows (table : String) (content : Content V) : Content V :=
  Function.update content table []

def selectColumns (columns : List String) (row : List (String × V)) : List (String × V) :=
  columns.filterMap fun column => (row.lookup column).map (column, ·)

def insertRows (file : RestoreFile V) (table : TableSchema) (content : Content V) : Content V :=
  Function.update content table.name
    (content table.name ++ (file.content table.name).map (selectColumns table.columns))

def RestoreFile.hasColumns (file : RestoreFile V) (table : TableSchema) : Bool :=
  file.schema.any fun t => t.name == table.name && table.columns.all (t.columns.contains ·)

def perform (file : RestoreFile V) : Statement → Store V → Option (Store V)
  | .trustedSchemaOff, d | .foreignKeyCheck, d => some d
  | .foreignKeysOff, d => some (d.setForeignKeys false)
  | .foreignKeysOn, d => some (d.setForeignKeys true)
  | .attach, d => if d.attached then none else some { d with attached := true }
  | .detach, d =>
    if d.attached && d.transaction.isNone then some { d with attached := false } else none
  | .beginImmediate, d => match d.transaction with
    | some _ => none
    | none => some { d with transaction := some d.committed }
  | .commit, d => d.transaction.map fun content =>
    { d with committed := content, transaction := none }
  | .rollback, d => d.transaction.map fun _ => { d with transaction := none }
  | .deleteFrom table, d => some (d.write (deleteRows table))
  | .insertFrom table, d =>
    if d.attached && file.hasColumns table then some (d.write (insertRows file table)) else none

def sqlite (file : RestoreFile V) : Server Statement (Store V) where
  perform := perform file
  rollback d := { d with transaction := none }

abbrev RestoreSession (V : Type) := Session Statement (Store V)

def writes (schema : Schema) : List Statement :=
  schema.tables.reverse.map (fun table => .deleteFrom table.name) ++
    schema.tables.map .insertFrom ++ [.foreignKeyCheck]

def statements (schema : Schema) : List Statement :=
  [.trustedSchemaOff, .foreignKeysOff, .attach, .beginImmediate] ++ writes schema

section

variable (file : RestoreFile V) (foreignKeyIssues : Content V → ℕ) (schema : Schema)

def restoreBody (σ : RestoreSession V) : Except AppError Unit × RestoreSession V :=
  match (sqlite file).executeAll (statements schema) σ with
  | (false, σ) => (.error (.database "statement failed"), σ)
  | (true, σ) =>
    let issues := foreignKeyIssues (σ.store.transaction.getD σ.store.committed)
    if issues ≠ 0 then
      (.error (.badRequest ("restored database failed foreign key check: " ++ toString issues ++
        " issue(s)")), σ)
    else match (sqlite file).execute .commit σ with
      | (false, σ) => (.error (.database "statement failed"), σ)
      | (true, σ) => (.ok (), σ)

def applySqliteRestore (σ : RestoreSession V) :
    Option (Except AppError Unit) × RestoreSession V :=
  let (result, σ) := restoreBody file foreignKeyIssues schema σ
  let σ := match result with
    | .error _ => ((sqlite file).execute .rollback σ).2
    | .ok _ => σ
  let (detached, σ) := (sqlite file).execute .detach σ
  let (_, σ) := (sqlite file).execute .foreignKeysOn σ
  if σ.dropped then (none, σ)
  else match result with
    | .error e => (some (.error e), σ)
    | .ok _ =>
      if detached then (some (.ok ()), σ) else (some (.error (.database "statement failed")), σ)

end

end

end XLStatus.Maintenance
