import XLStatus.Auth.ChallengeDefs
import XLStatus.Auth.Token

/-! One-time codes: their verification against a secret, and the protected section that
consumes them. Failed and used codes are rows of `waf_events`. -/

namespace XLStatus.Auth

open Shared

def base32Alphabet : List UInt8 := Text.bytes "ABCDEFGHIJKLMNOPQRSTUVWXYZ234567"
def totpStepSeconds : ℤ := 30
def totpDigits : ℕ := 6
def totpWindow : ℤ := 1

abbrev HmacSha1 := List UInt8 → List UInt8 → Fin 20 → UInt8

def toBeBytes (n : UInt64) : List UInt8 :=
  ([56, 48, 40, 32, 24, 16, 8, 0] : List UInt64).map fun shift => (n >>> shift).toUInt8

def totpAt (hmac : HmacSha1) (secret : List UInt8) (counter : UInt64) : UInt32 :=
  let digest := hmac secret (toBeBytes counter)
  let offset := digest 19 &&& 0x0f
  -- The offset is at most 15.
  let byte (i : ℕ) : UInt32 := (digest (Fin.ofNat 20 (offset.toNat + i))).toUInt32
  let binary := ((byte 0 &&& 0x7f) <<< 24) ||| (byte 1 <<< 16) ||| (byte 2 <<< 8) ||| byte 3
  binary % 1000000

def formatTotp (value : UInt32) : String := Text.padZero totpDigits value.toNat

structure Base32State where
  buffer : UInt32
  bitsLeft : ℕ
  out : List UInt8

def base32Step (s : Base32State) (byte : UInt8) : Option Base32State :=
  if byte = 0x3d ∨ byte = 0x20 ∨ byte = 0x2d then some s
  else
    let upper := if 0x61 ≤ byte ∧ byte ≤ 0x7a then byte - 0x61 + 0x41 else byte
    match base32Alphabet.findIdx? (· == upper) with
    | none => none
    | some index =>
      let buffer := (s.buffer <<< 5) ||| UInt32.ofNat index
      let bitsLeft := s.bitsLeft + 5
      if bitsLeft ≥ 8 then
        some ⟨buffer, bitsLeft - 8, s.out ++ [(buffer >>> UInt32.ofNat (bitsLeft - 8)).toUInt8]⟩
      else some ⟨buffer, bitsLeft, s.out⟩

def base32Decode (value : String) : Option (List UInt8) := do
  let s ← (Text.bytes value).foldlM base32Step ⟨0, 0, []⟩
  if s.out.isEmpty then none else some s.out

def matchCandidate (hmac : HmacSha1) (secretBytes : List UInt8) (normalized : String)
    (matchedStep : Option ℤ) (candidate : ℤ) : Option ℤ :=
  if candidate < 0 then matchedStep
  else if constantTimeEq
      (Text.bytes (formatTotp (totpAt hmac secretBytes (UInt64.ofNat candidate.toNat))))
      (Text.bytes normalized) then some candidate
  else matchedStep

def verifyTotpCodeStep (hmac : HmacSha1) (secret code : String) (now : DateTime) : Option ℤ :=
  let normalized := String.ofList ((Text.trim code).toList.filter (· != ' '))
  if Text.len normalized ≠ totpDigits ∨
      !(Text.bytes normalized).all (fun b => 0x30 ≤ b ∧ b ≤ 0x39) then none
  else match base32Decode secret with
    | none => none
    | some secretBytes =>
      let counter := timestamp now / totpStepSeconds
      [counter - totpWindow, counter, counter + totpWindow].foldl
        (matchCandidate hmac secretBytes normalized) none

def loginFailureThreshold : ℕ := 5
def loginFailureWindowMinutes : ℤ := 15
def totpReplayHorizonMinutes : ℤ := 3

def minutes (n : ℤ) : ℤ := seconds (n * 60)

/-- SQLite keeps the RFC 3339 text of an instant, which orders as the instants do;
PostgreSQL keeps microseconds. -/
inductive DatabaseBackend where
  | sqlite
  | postgres
  deriving DecidableEq, Repr

def DatabaseBackend.stored : DatabaseBackend → DateTime → DateTime
  | .sqlite, t => t
  | .postgres, t => t / 1000 * 1000

structure WafEvent where
  ip : String
  username : Option String
  outcome : String
  reason : Option String
  createdAt : DateTime
  deriving DecidableEq, Repr

abbrev WafEvents := List WafEvent

inductive TotpVerificationError where
  | rateLimited
  | invalidCode
  | database (message : String)
  deriving DecidableEq, Repr

inductive Insert where
  | done
  | failed (error : String)
  | lost (error : String)
  deriving DecidableEq, Repr

structure TotpIo where
  countError : Option String
  replayError : Option String
  insert : Insert
  deriving DecidableEq, Repr

/-- A call: what it is given, the caller's clock reading, and the later reading under which
it records its event. Instants have their seconds in an `i64`. -/
structure TotpCall where
  userId : UserId
  secret : String
  code : String
  now : DateTime
  recordedAt : DateTime
  io : TotpIo
  timestamp_now : timestamp now < 2 ^ 63

def recordedUsername (username : Option String) : Option String :=
  (username.map fun value => String.ofList ((Text.trim value).toList.take 255)).filter
    (!·.isEmpty)

section Calls

variable (db : DatabaseBackend) (hmac : HmacSha1) (sha256 : Sha256)

def recordWafEvent (events : WafEvents) (ip : String) (username : Option String)
    (outcome : String) (reason : Option String) (now : DateTime) (insert : Insert) :
    Except TotpVerificationError Unit × WafEvents :=
  let event : WafEvent := ⟨ip, recordedUsername username, outcome, reason, db.stored now⟩
  match insert with
  | .done => (.ok (), events ++ [event])
  | .failed error => (.error (.database error), events)
  | .lost error => (.error (.database error), events ++ [event])

def isRecentFailure (userKey : String) (since : DateTime) (e : WafEvent) : Bool :=
  e.username == some userKey && e.outcome == "totp_failed" && db.stored since ≤ e.createdAt

def countRecentUserTotpFailures (events : WafEvents) (userKey : String) (since : DateTime) : ℕ :=
  events.countP (isRecentFailure db userKey since)

def usedStep (stepPrefix : String) (e : WafEvent) : Option ℤ :=
  e.reason.bind fun reason => (Text.stripPrefix reason stepPrefix).bind Text.parseInt64

def isTotpStepReplayed (events : WafEvents) (userKey stepPrefix : String) (matchedStep : ℤ)
    (since : DateTime) : Bool :=
  (events.filter fun e => e.username == some userKey && e.outcome == "totp_used" &&
    db.stored since ≤ e.createdAt).any fun e =>
      ((usedStep stepPrefix e).map fun used => decide (used ≥ matchedStep)).getD false

def totpStepPrefix (secret : String) : String :=
  "step:" ++ String.ofList ((hashToken sha256 secret).toList.take 16) ++ ":"

def verifyAndConsumeUserTotp (events : WafEvents) (call : TotpCall) :
    Except TotpVerificationError Unit × WafEvents :=
  let userKey := call.userId.text
  let record (outcome reason : String) :=
    recordWafEvent db events "totp" (some userKey) outcome (some reason) call.recordedAt
      call.io.insert
  let recordThen (outcome reason : String) (error : TotpVerificationError) :=
    let (result, events') := record outcome reason
    (result.bind fun _ => .error error, events')
  match call.io.countError with
  | some error => (.error (.database error), events)
  | none =>
    let since := call.now - minutes loginFailureWindowMinutes
    if countRecentUserTotpFailures db events userKey since ≥ loginFailureThreshold then
      recordThen "totp_blocked" "too many failed totp attempts" .rateLimited
    else match verifyTotpCodeStep hmac call.secret call.code call.now with
      | none => recordThen "totp_failed" "invalid totp" .invalidCode
      | some matchedStep => match call.io.replayError with
        | some error => (.error (.database error), events)
        | none =>
          let stepPrefix := totpStepPrefix sha256 call.secret
          let replaySince := call.now - minutes totpReplayHorizonMinutes
          if isTotpStepReplayed db events userKey stepPrefix matchedStep replaySince then
            recordThen "totp_failed" "replayed totp" .invalidCode
          else record "totp_used" (stepPrefix ++ toString matchedStep)

def totpStep (events : WafEvents) (call : TotpCall) : WafEvents :=
  (verifyAndConsumeUserTotp db hmac sha256 events call).2

def isAccepted (events : WafEvents) (call : TotpCall) : Bool :=
  (verifyAndConsumeUserTotp db hmac sha256 events call).1.isOk

def accepted : WafEvents → List TotpCall → List TotpCall
  | _, [] => []
  | events, call :: calls =>
    if isAccepted db hmac sha256 events call then
      call :: accepted (totpStep db hmac sha256 events call) calls
    else accepted (totpStep db hmac sha256 events call) calls

end Calls

end XLStatus.Auth
