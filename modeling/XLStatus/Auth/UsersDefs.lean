import XLStatus.Auth.ChallengeDefs
import XLStatus.Lib.Checked

/-! The administration of users: the table with its role column, and the requests that
change roles or delete users, cut at their repository calls. -/

namespace XLStatus.Auth.Users

open Shared Checked

def authMinPasswordBytes : ℕ := 8
def authMaxPasswordBytes : ℕ := 1024
def authMaxRoleBytes : ℕ := 32
def authUuidTextLen : ℕ := 36

structure UserRow where
  id : UserId
  role : UserRole
  tokenVersion : ℤ
  deriving DecidableEq

structure Table where
  rows : List UserRow
  nodup : (rows.map (·.id)).Nodup

namespace Table

def findById (users : Table) (id : UserId) : Option UserRow := users.rows.find? (·.id == id)

def countAdmins (users : Table) : ℕ := users.rows.countP (·.role.isAdmin)

def update (users : Table) (id : UserId) (f : UserRow → UserRow) (hf : ∀ row, (f row).id = row.id) :
    Table where
  rows := users.rows.map fun row => if row.id = id then f row else row
  nodup := by
    have hids : (users.rows.map fun row => if row.id = id then f row else row).map (·.id) =
        users.rows.map (·.id) := by
      rw [List.map_map]
      refine List.map_congr_left fun row _ => ?_
      simp only [Function.comp]
      split
      · exact hf row
      · rfl
    rw [hids]
    exact users.nodup

def updateRole (users : Table) (id : UserId) (role : UserRole) : Table :=
  users.update id (fun row => { row with role }) fun _ => rfl

def resetPassword (users : Table) (id : UserId) : Table :=
  users.update id (fun row => { row with tokenVersion := row.tokenVersion + 1 }) fun _ => rfl

def delete (users : Table) (id : UserId) : Table where
  rows := users.rows.filter (·.id ≠ id)
  nodup := users.nodup.sublist (List.filter_sublist.map _)

end Table

def normalizeRequiredAuthText (value : String) (maxBytes : ℕ) (field : String) :
    Except AppError String := do
  let value := Text.trim value
  ensure (!value.isEmpty) (.badRequest (field ++ " is required"))
  ensure (Text.len value ≤ maxBytes)
    (.badRequest (field ++ " must be at most " ++ toString maxBytes ++ " bytes"))
  return value

def parseRole (s : String) : Except String UserRole :=
  if s = "admin" then .ok .admin
  else if s = "member" then .ok .member
  else .error ("Invalid role: " ++ s)

def normalizeRole (value : String) : Except AppError UserRole := do
  let value ← normalizeRequiredAuthText value authMaxRoleBytes "role"
  (parseRole value).mapError .badRequest

def normalizeNewPassword (value : String) : Except AppError String := do
  ensure (Text.len value ≤ authMaxPasswordBytes)
    (.badRequest ("password must be at most " ++ toString authMaxPasswordBytes ++ " bytes"))
  ensure (!(Text.trim value).isEmpty) (.badRequest "password is required")
  ensure (authMinPasswordBytes ≤ Text.len value)
    (.badRequest ("password must be at least " ++ toString authMinPasswordBytes ++ " bytes"))
  return value

def parseUserId (id : String) : Except AppError UserId := do
  ensure (Text.len id = authUuidTextLen) (.badRequest "user id must be a canonical UUID")
  let parsed ← require (parseUuid id) (.badRequest "user id must be a canonical UUID")
  ensure (parsed.1 == id) (.badRequest "user id must be a canonical UUID")
  return ⟨parsed.1, canonical_parsed parsed⟩

inductive Command where
  | update (role password : Option String)
  | delete

inductive Phase where
  | find
  | countForRole (existing : UserRow) (next : UserRole)
  | updateRole (existing : UserRow) (next : UserRole) (counted : Option ℕ)
  | revokeAfterRole
  | resetPassword
  | revokeAfterPassword
  | reload
  | countForDelete (existing : UserRow)
  | revokeForDelete (existing : UserRow) (counted : Option ℕ)
  | delete (existing : UserRow) (counted : Option ℕ)
  | done (result : Except AppError (Option UserRow))

structure Call where
  actor : UserId
  target : UserId
  command : Command
  phase : Phase

namespace Call

def goTo (call : Call) (phase : Phase) : Call := { call with phase }

def fail (call : Call) (error : AppError) : Call := call.goTo (.done (.error error))

def notFound (call : Call) : Call := call.fail (.notFound "user not found")

def password : Command → Option String
  | .update _ password => password
  | .delete => none

def afterRole (call : Call) : Call :=
  match password call.command with
  | none => call.goTo .reload
  | some value => match normalizeNewPassword value with
    | .error e => call.fail e
    | .ok _ => call.goTo .resetPassword

def found (call : Call) (existing : UserRow) : Call :=
  match call.command with
  | .update none _ => call.afterRole
  | .update (some role) _ => match normalizeRole role with
    | .error e => call.fail e
    | .ok next =>
      if existing.role.isAdmin && !next.isAdmin then
        if existing.id = call.actor then
          call.fail (.badRequest "cannot demote your own admin account")
        else call.goTo (.countForRole existing next)
      else call.goTo (.updateRole existing next none)
  | .delete =>
    if existing.role.isAdmin then call.goTo (.countForDelete existing)
    else call.goTo (.revokeForDelete existing none)

end Call

structure System where
  users : Table
  calls : ℕ → Option Call

def System.init (users : Table) : System := ⟨users, fun _ => none⟩

inductive Reply where
  | done
  | failed (error : String)
  | lost (error : String)

def answered (users : Table) (call : Call) : Table × Call :=
  match call.phase with
  | .find => match users.findById call.target with
    | none => (users, call.notFound)
    | some existing => (users, call.found existing)
  | .countForRole existing next =>
    if users.countAdmins ≤ 1 then
      (users, call.fail (.badRequest "cannot demote the last admin user"))
    else (users, call.goTo (.updateRole existing next (some users.countAdmins)))
  | .updateRole existing next _ =>
    let users' := users.updateRole call.target next
    match users'.findById call.target with
    | none => (users', call.notFound)
    | some _ =>
      if existing.role ≠ next then (users', call.goTo .revokeAfterRole)
      else (users', call.afterRole)
  | .revokeAfterRole => (users, call.afterRole)
  | .resetPassword =>
    let users' := users.resetPassword call.target
    match users'.findById call.target with
    | none => (users', call.notFound)
    | some _ => (users', call.goTo .revokeAfterPassword)
  | .revokeAfterPassword => (users, call.goTo .reload)
  | .reload => match users.findById call.target with
    | none => (users, call.notFound)
    | some updated => (users, call.goTo (.done (.ok (some updated))))
  | .countForDelete existing =>
    if users.countAdmins ≤ 1 then
      (users, call.fail (.badRequest "cannot delete the last admin user"))
    else (users, call.goTo (.revokeForDelete existing (some users.countAdmins)))
  | .revokeForDelete existing counted => (users, call.goTo (.delete existing counted))
  | .delete _ _ =>
    if (users.findById call.target).isSome then
      (users.delete call.target, call.goTo (.done (.ok none)))
    else (users, call.notFound)
  | .done _ => (users, call)

inductive Event where
  | request (call : ℕ) (actor : UserId) (isPat : Bool) (totp : Except AppError Unit) (id : String)
      (command : Command)
  | step (call : ℕ) (reply : Reply)
  | drop (call : ℕ)

/-- What a request checks before its first repository call: the admin role as the middleware
has read it, the cookie session, the one-time code and the identifier in its path. -/
def authorize (users : Table) (actor : UserId) (isPat : Bool) (totp : Except AppError Unit)
    (id : String) (command : Command) : Except AppError Call := do
  let row ← require (users.findById actor) (.unauthorized "Unauthorized")
  ensure row.role.isAdmin (.forbidden "Admin role required")
  ensure (!isPat) (.forbidden "Cookie session required")
  totp
  let target ← parseUserId id
  match command with
  | .delete => ensure (target ≠ actor) (.badRequest "cannot delete your own account")
  | .update _ _ => .ok ()
  return ⟨actor, target, command, .find⟩

def System.step (st : System) : Event → System
  | .request call actor isPat totp id command =>
    match st.calls call, authorize st.users actor isPat totp id command with
    | none, .ok started => { st with calls := Function.update st.calls call (some started) }
    | _, _ => st
  | .step call reply => match st.calls call with
    | none => st
    | some c =>
      let (users, next) := answered st.users c
      match reply with
      | .done => ⟨users, Function.update st.calls call (some next)⟩
      | .failed e => { st with calls := Function.update st.calls call (some (c.fail (.database e))) }
      | .lost e => ⟨users, Function.update st.calls call (some (c.fail (.database e)))⟩
  | .drop call => { st with calls := Function.update st.calls call none }

end XLStatus.Auth.Users
