import XLStatus.Lib.HashMap
import XLStatus.Lib.Transition
import XLStatus.Shared.Ids

/-! The agent challenge endpoints. A signed request is answered with a random
nonce, which the agent signs in turn to obtain a token; one store holds both the
nonces that are still open and the requests that have been answered. -/

namespace XLStatus.Auth

open Shared

/-! Instants are nanoseconds since the epoch; `timestamp` is the whole seconds. -/

abbrev DateTime := ℤ

def seconds (n : ℤ) : ℤ := n * 1000000000

def timestamp (t : DateTime) : ℤ := t / 1000000000

inductive AppError where
  | database (message : String)
  | unauthorized (message : String)
  | forbidden (message : String)
  | badRequest (message : String)
  | tooManyRequests (message : String)
  | notFound (message : String)
  deriving DecidableEq, Repr

def challengeTtlSeconds : ℤ := 60
def maxPendingChallenges : ℕ := 4096
def maxPendingChallengesPerAgent : ℕ := 16
def nonceHexLen : ℕ := 64
def signatureHexLen : ℕ := 128
def challengeRequestClockSkewSeconds : ℤ := 120
def requestChallengeKeyPrefix : String := "request"
def challengeRecordsPerRequest : ℕ := 2
def maxChallengeRecordsPerAgent : ℕ := maxPendingChallengesPerAgent * challengeRecordsPerRequest

structure GetJwtChallengeRequest where
  agentId : String
  requestNonce : String
  requestTimestamp : ℤ
  signature : String
  deriving DecidableEq, Repr

structure GetJwtChallengeResponse where
  nonce : String
  expiresIn : ℤ
  deriving DecidableEq, Repr

structure GetJwtRequest where
  agentId : String
  nonce : String
  signature : String
  deriving DecidableEq, Repr

structure Agent where
  publicKey : String
  revokedAt : Option DateTime
  deriving DecidableEq, Repr

abbrev ChallengeStore := HashMap String DateTime

def parseAgentId (agentId : String) : Except AppError AgentId :=
  if h : isCanonicalUuid agentId = true then .ok ⟨agentId, h⟩
  else .error (.badRequest "agent_id must be a canonical UUID")

def challengeKey (agentId : AgentId) (nonce : String) : String := agentId.text ++ ":" ++ nonce

def requestChallengeKey (agentId : AgentId) (requestNonce : String) : String :=
  requestChallengeKeyPrefix ++ ":" ++ agentId.text ++ ":" ++ requestNonce

def pruneExpiredChallenges (challenges : ChallengeStore) (now : DateTime) : ChallengeStore :=
  challenges.retain fun _ expiresAt => expiresAt > now

def pendingChallengesForAgent (challenges : ChallengeStore) (agentId : AgentId) : ℕ :=
  (challenges.keys.filter fun key => Text.startsWith key (agentId.text ++ ":")).length

def isAgentKey (agentId : AgentId) (key : String) : Bool :=
  Text.startsWith key (agentId.text ++ ":") ||
    Text.startsWith key (requestChallengeKeyPrefix ++ ":" ++ agentId.text ++ ":")

def challengeRecordsForAgent (challenges : ChallengeStore) (agentId : AgentId) : ℕ :=
  (challenges.keys.filter (isAgentKey agentId)).length

def purgeAgentJwtChallenges (challenges : ChallengeStore) (agentId : AgentId) : ChallengeStore :=
  challenges.retain fun key _ => !isAgentKey agentId key

def validNonceShape (nonce : String) : Bool :=
  Text.len nonce == nonceHexLen && nonce.toList.all Text.isAsciiHexDigit

def validSignatureShape (signature : String) : Bool :=
  Text.len signature == signatureHexLen && signature.toList.all Text.isAsciiHexDigit

def validateChallengeRequestShape (req : GetJwtChallengeRequest) : Except AppError Unit :=
  if !validNonceShape req.requestNonce then
    .error (.unauthorized "JWT challenge request is invalid")
  else if !validSignatureShape req.signature then
    .error (.unauthorized "Agent signature verification failed")
  else .ok ()

def validateChallengeRequestTimestamp (requestTimestamp : ℤ) (now : DateTime) :
    Except AppError Unit :=
  if requestTimestamp < timestamp now - challengeRequestClockSkewSeconds ∨
      requestTimestamp > timestamp now + challengeRequestClockSkewSeconds then
    .error (.unauthorized "JWT challenge request expired")
  else .ok ()

def challengeRequestSignaturePayload (agentId : AgentId) (requestNonce : String)
    (requestTimestamp : ℤ) : String :=
  "xlstatus-agent-jwt-challenge:" ++ agentId.text ++ ":" ++ requestNonce ++ ":" ++
    toString requestTimestamp

/-- The Ed25519 implementation: which byte strings are public keys, and which
signatures a key accepts on a message. -/
structure Ed25519 where
  validKey : List UInt8 → Bool
  verify : List UInt8 → String → List UInt8 → Bool

def hexValue (c : Char) : Option UInt8 :=
  if '0' ≤ c ∧ c ≤ '9' then some (c.val - 48).toUInt8
  else if 'a' ≤ c ∧ c ≤ 'f' then some (c.val - 87).toUInt8
  else if 'A' ≤ c ∧ c ≤ 'F' then some (c.val - 55).toUInt8
  else none

def hexDecode : List Char → Option (List UInt8)
  | [] => some []
  | [_] => none
  | a :: b :: rest => do
    let hi ← hexValue a
    let lo ← hexValue b
    let bytes ← hexDecode rest
    some ((hi * 16 + lo) :: bytes)

def verifyAgentSignature (ed : Ed25519) (publicKey nonce signature : String) :
    Except AppError Unit :=
  match hexDecode publicKey.toList with
  | none => .error (.badRequest "Agent public key is not Ed25519 hex")
  | some key =>
    if key.length ≠ 32 then .error (.badRequest "Agent public key must be 32 bytes")
    else if !ed.validKey key then .error (.badRequest "Agent public key is invalid")
    else match hexDecode signature.toList with
      | none => .error (.badRequest "Agent signature is not hex")
      | some sig =>
        if sig.length ≠ 64 then .error (.badRequest "Agent signature must be 64 bytes")
        else if ed.verify key nonce sig then .ok ()
        else .error (.unauthorized "Agent signature verification failed")

def checkChallengeRequest (ed : Ed25519) (findById : AgentId → Option Agent)
    (req : GetJwtChallengeRequest) (validateAt : DateTime) : Except AppError AgentId := do
  let agentId ← parseAgentId req.agentId
  match findById agentId with
  | none => .error (.badRequest "Agent not found")
  | some agent =>
    if agent.revokedAt.isSome then .error (.unauthorized "Agent has been revoked")
    else do
      validateChallengeRequestShape req
      validateChallengeRequestTimestamp req.requestTimestamp validateAt
      verifyAgentSignature ed agent.publicKey
        (challengeRequestSignaturePayload agentId req.requestNonce req.requestTimestamp)
        req.signature
      return agentId

def reserveChallenge (agentId : AgentId) (req : GetJwtChallengeRequest) (now : DateTime)
    (nonce : String) (store : ChallengeStore) :
    Except AppError GetJwtChallengeResponse × ChallengeStore :=
  let challenges := pruneExpiredChallenges store now
  let requestKey := requestChallengeKey agentId req.requestNonce
  if requestKey ∈ challenges then
    (.error (.unauthorized "JWT challenge request already used"), challenges)
  else if challenges.len + challengeRecordsPerRequest > maxPendingChallenges ∨
      pendingChallengesForAgent challenges agentId ≥ maxPendingChallengesPerAgent ∨
      challengeRecordsForAgent challenges agentId + challengeRecordsPerRequest >
        maxChallengeRecordsPerAgent then
    (.error (.forbidden "too many pending JWT challenges"), challenges)
  else
    let expiresAt := now + seconds challengeTtlSeconds
    (.ok ⟨nonce, challengeTtlSeconds⟩,
      (challenges.insert requestKey expiresAt).insert (challengeKey agentId nonce) expiresAt)

def getAgentJwtChallenge (ed : Ed25519) (findById : AgentId → Option Agent)
    (req : GetJwtChallengeRequest) (validateAt now : DateTime) (nonce : String)
    (store : ChallengeStore) : Except AppError GetJwtChallengeResponse × ChallengeStore :=
  match checkChallengeRequest ed findById req validateAt with
  | .error e => (.error e, store)
  | .ok agentId => reserveChallenge agentId req now nonce store

/-! ## The token request

The nonce is looked up under the read lock, and consumed under the write lock once
the row and the signature have been checked; other requests run between the two. -/

structure FoundChallenge where
  req : GetJwtRequest
  agentId : AgentId
  expiresAt : DateTime
  deriving DecidableEq

def FoundChallenge.key (c : FoundChallenge) : String := challengeKey c.agentId c.req.nonce

def findChallenge (req : GetJwtRequest) (store : ChallengeStore) :
    Except AppError FoundChallenge := do
  let agentId ← parseAgentId req.agentId
  if !validNonceShape req.nonce then .error (.unauthorized "JWT challenge not found")
  else if !validSignatureShape req.signature then
    .error (.unauthorized "Agent signature verification failed")
  else match store.lookup (challengeKey agentId req.nonce) with
    | none => .error (.unauthorized "JWT challenge not found")
    | some expiresAt => .ok ⟨req, agentId, expiresAt⟩

def checkChallenge (ed : Ed25519) (findById : AgentId → Option Agent) (c : FoundChallenge)
    (now : DateTime) (store : ChallengeStore) : Except AppError Unit × ChallengeStore :=
  if c.expiresAt < now then
    (.error (.unauthorized "JWT challenge expired"), store.erase c.key)
  else match findById c.agentId with
    | none => (.error (.badRequest "Agent not found"), store)
    | some agent =>
      if agent.revokedAt.isSome then (.error (.unauthorized "Agent has been revoked"), store)
      else (verifyAgentSignature ed agent.publicKey c.req.nonce c.req.signature, store)

def consumeAgentJwtChallenge (c : FoundChallenge) (now : DateTime) (store : ChallengeStore) :
    Except AppError Unit × ChallengeStore :=
  match store.lookup c.key with
  | none => (.error (.unauthorized "JWT challenge not found"), store)
  | some expiresAt =>
    if expiresAt = c.expiresAt then
      if expiresAt < now then
        (.error (.unauthorized "JWT challenge expired"), store.erase c.key)
      else (.ok (), store.erase c.key)
    else (.error (.unauthorized "JWT challenge not found"), store)

inductive JwtCall where
  | found (c : FoundChallenge)
  | verified (c : FoundChallenge)
  deriving DecidableEq

/-! ## The endpoints together

The rows of the agents, the store and the requests in flight, with the clock and
a log of the answers. A purge is only called after the row was revoked or
deleted, and an identifier is never used for a second agent. -/

structure System where
  agents : AgentId → Option Agent
  deleted : AgentId → Bool
  challenges : ChallengeStore
  calls : ℕ → Option JwtCall
  clock : DateTime
  answered : List (GetJwtChallengeRequest × DateTime)
  issued : List (FoundChallenge × DateTime)

def System.init : System where
  agents := fun _ => none
  deleted := fun _ => false
  challenges := ∅
  calls := fun _ => none
  clock := 0
  answered := []
  issued := []

inductive Event where
  | createAgent (agentId : AgentId) (publicKey : String)
  | revokeAgent (agentId : AgentId) (at_ : DateTime)
  | deleteAgent (agentId : AgentId)
  | purgeAgentJwtChallenges (agentId : AgentId)
  | getAgentJwtChallenge (req : GetJwtChallengeRequest) (validateAt now : DateTime) (nonce : String)
  | findChallenge (call : ℕ) (req : GetJwtRequest)
  | checkChallenge (call : ℕ) (now : DateTime)
  | consumeAgentJwtChallenge (call : ℕ) (now : DateTime)

def System.gone (s : System) (agentId : AgentId) : Bool :=
  match s.agents agentId with
  | none => s.deleted agentId
  | some agent => agent.revokedAt.isSome

def System.step (ed : Ed25519) (s : System) : Event → System
  | .createAgent a publicKey =>
    if s.agents a = none ∧ s.deleted a = false then
      { s with agents := Function.update s.agents a (some ⟨publicKey, none⟩) }
    else s
  | .revokeAgent a t =>
    match s.agents a with
    | some ⟨publicKey, none⟩ =>
      { s with agents := Function.update s.agents a (some ⟨publicKey, some t⟩) }
    | _ => s
  | .deleteAgent a =>
    { s with
      agents := Function.update s.agents a none
      deleted := Function.update s.deleted a true }
  | .purgeAgentJwtChallenges a =>
    if s.gone a then { s with challenges := Auth.purgeAgentJwtChallenges s.challenges a } else s
  | .getAgentJwtChallenge req validateAt now nonce =>
    if s.clock ≤ validateAt ∧ validateAt ≤ now then
      match Auth.getAgentJwtChallenge ed s.agents req validateAt now nonce s.challenges with
      | (.ok _, challenges) =>
        { s with challenges, clock := now, answered := s.answered ++ [(req, now)] }
      | (.error _, challenges) => { s with challenges, clock := now }
    else s
  | .findChallenge call req =>
    match Auth.findChallenge req s.challenges with
    | .ok c => { s with calls := Function.update s.calls call (some (.found c)) }
    | .error _ => s
  | .checkChallenge call now =>
    match s.calls call with
    | some (.found c) =>
      if s.clock ≤ now then
        match Auth.checkChallenge ed s.agents c now s.challenges with
        | (.ok _, challenges) =>
          { s with challenges, clock := now
                   calls := Function.update s.calls call (some (.verified c)) }
        | (.error _, challenges) =>
          { s with challenges, clock := now, calls := Function.update s.calls call none }
      else s
    | _ => s
  | .consumeAgentJwtChallenge call now =>
    match s.calls call with
    | some (.verified c) =>
      if s.clock ≤ now then
        match Auth.consumeAgentJwtChallenge c now s.challenges with
        | (.ok _, challenges) =>
          { s with challenges, clock := now, calls := Function.update s.calls call none
                   issued := s.issued ++ [(c, now)] }
        | (.error _, challenges) =>
          { s with challenges, clock := now, calls := Function.update s.calls call none }
      else s
    | _ => s

end XLStatus.Auth
