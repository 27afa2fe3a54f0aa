import XLStatus.Lib.Checked
import XLStatus.Shared.Ids

/-! The scopes of sessions and personal access tokens. -/

namespace XLStatus.Auth

open Shared Checked Text

inductive AuthKind where
  | session
  | personalAccessToken
  deriving DecidableEq, Repr

structure AuthSession where
  sessionId : String
  userId : UserId
  username : String
  role : UserRole
  csrfToken : String
  authKind : AuthKind
  scopes : List String
  serverIds : Option (List String)
  patId : Option String
  deriving DecidableEq

namespace Rbac

def knownScopes : List String :=
  ["inventory:read", "inventory:delete", "server:read", "server:write", "server:delete",
    "server:exec", "service:read", "service:write", "service:delete", "alert:read", "alert:write",
    "alert:delete", "task:read", "task:write", "task:delete", "task:exec", "ddns:read",
    "ddns:write", "ddns:delete", "nat:read", "nat:write", "nat:delete", "notification:read",
    "notification:write", "notification:delete", "transfer:read", "transfer:write", "admin:*"]

def nonAdminPatDeniedScopes : List String :=
  ["inventory:delete", "server:write", "server:delete", "server:exec", "task:write",
    "task:delete", "task:exec", "ddns:write", "ddns:delete", "nat:write", "nat:delete",
    "transfer:write"]

def serverScopedPatNamespaces : List String :=
  ["server", "service", "alert", "task", "nat", "transfer"]

def patRuntimeMaxScopes : ℕ := 64
def patRuntimeMaxScopeBytes : ℕ := 128
def patRuntimeMaxServerIds : ℕ := 64
def patRuntimeMaxServerIdBytes : ℕ := 64

def hasNamespace (scopes : List String) (ns : String) : Bool :=
  scopes.any fun scope =>
    ((splitOnce scope ':').map fun (scopeNamespace, _) => scopeNamespace == ns).getD false

def knownScopeNamespace (ns : String) : Bool := hasNamespace knownScopes ns

def namespaceContainsNonAdminDeniedScope (ns : String) : Bool :=
  hasNamespace nonAdminPatDeniedScopes ns

def validatePatScope (isAdmin : Bool) (scope : String) : Except String Unit :=
  if scope = "*" then .error "wildcard '*' is not allowed in PAT scopes"
  else if scope = "admin:*" then ensure isAdmin "admin:* scope requires admin role"
  else if !isAdmin && nonAdminPatDeniedScopes.contains scope then
    .error ("scope " ++ scope ++ " requires admin role")
  else match splitOnce scope ':' with
    | some (ns, action) =>
      if ns.isEmpty || action.isEmpty then .error ("invalid scope format: " ++ scope)
      else if action = "*" then
        if !knownScopeNamespace ns then .error ("unknown scope namespace: " ++ ns)
        else ensure (isAdmin || !namespaceContainsNonAdminDeniedScope ns)
          ("scope " ++ scope ++ " includes admin-only permissions")
      else ensure (knownScopes.contains scope) ("unknown scope: " ++ scope)
    | none => .error ("scope '" ++ scope ++ "' must use 'namespace:action' format")

def validatePatScopeResourceLimits (scopes : List String) : Except String Unit := do
  ensure (!scopes.isEmpty) "scopes must not be empty"
  ensure (scopes.length ≤ patRuntimeMaxScopes)
    ("scopes must contain at most " ++ toString patRuntimeMaxScopes ++ " items")
  scopes.forM fun scope => ensure (len scope ≤ patRuntimeMaxScopeBytes)
    ("scope must be at most " ++ toString patRuntimeMaxScopeBytes ++ " bytes")

def validatePatScopes (scopes : List String) (isAdmin : Bool) : Except String Unit := do
  validatePatScopeResourceLimits scopes
  scopes.forM (validatePatScope isAdmin)

def validateServerId (id : String) : Except String Unit := do
  ensure (len id ≤ patRuntimeMaxServerIdBytes)
    ("server id in allowlist must be at most " ++ toString patRuntimeMaxServerIdBytes ++ " bytes")
  let parsed ← require (parseUuid id) ("invalid server id in allowlist: " ++ id)
  ensure (parsed.1 == id) ("server id in allowlist must be a canonical UUID: " ++ id)

def validateServerIds (serverIds : Option (List String)) : Except String Unit :=
  match serverIds with
  | none => .ok ()
  | some ids => do
    ensure (ids.length ≤ patRuntimeMaxServerIds)
      ("server allowlist must contain at most " ++ toString patRuntimeMaxServerIds ++ " items")
    ids.forM validateServerId

def validatePatPolicyResourceLimits (scopes : List String) (serverIds : Option (List String)) :
    Except String Unit := do
  validatePatScopeResourceLimits scopes
  validateServerIds serverIds

def patScopeGrants (storedScope requiredScope : String) (isAdmin : Bool) : Bool :=
  if storedScope = "*" || !(validatePatScopes [storedScope] isAdmin).isOk then false
  else if storedScope = requiredScope then true
  else match splitOnce storedScope ':' with
    | none => false
    | some (storedNamespace, storedAction) =>
      if storedAction ≠ "*" then false
      else ((splitOnce requiredScope ':').map fun (requiredNamespace, _) =>
        requiredNamespace == storedNamespace).getD false

def patScopesRequireServerAllowlist (scopes : List String) : Bool :=
  scopes.any fun scope =>
    ((splitOnce scope ':').map fun (ns, _) => serverScopedPatNamespaces.contains ns).getD
      false

def validatePatRuntime (scopes : List String) (isAdmin : Bool)
    (serverIds : Option (List String)) : Except String Unit := do
  validatePatScopes scopes isAdmin
  validateServerIds serverIds
  ensure (!(!isAdmin && patScopesRequireServerAllowlist scopes &&
    (serverIds.map fun ids => ids.isEmpty).getD true))
    "non-admin PATs with server-scoped permissions require a non-empty server allowlist"

def memberCookieScopeAllowed (requiredScope : String) : Bool :=
  ["inventory:read", "server:read", "service:read", "alert:read", "task:read", "ddns:read",
    "nat:read", "notification:read", "transfer:read"].contains requiredScope

def hasScope (session : AuthSession) (requiredScope : String) : Bool :=
  match session.authKind with
  | .session => session.role.isAdmin || memberCookieScopeAllowed requiredScope
  | .personalAccessToken => match splitOnce requiredScope ':' with
    | none => session.scopes.any (· == requiredScope)
    | some _ => session.scopes.any fun s => patScopeGrants s requiredScope session.role.isAdmin

def canAccessServer (session : AuthSession) (serverId : String) : Bool :=
  match session.serverIds with
  | none => true
  | some ids => ids.any (· == serverId)

end Rbac

end XLStatus.Auth
