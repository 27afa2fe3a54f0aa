import XLStatus.Auth.LoginDefs
import XLStatus.Auth.Totp

/-! The TOTP settings of a user: the requests that set up a secret, enable it by a code and
disable it again, cut at their repository calls. A code is verified against the secret that
was read, the flag is set on whatever secret is stored by then. -/

namespace XLStatus.Auth.TotpSettings

open Shared Checked Transition List
open Users (Reply)
open Login (normalizeTotpCode)

/-- The encryption of secrets: under a fresh nonce, and back if a text is encrypted at all. -/
structure Secrets where
  encrypt : String → String → Except String String
  decryptIfNeeded : String → Except String String

structure Config where
  secret : Option String
  enabled : Bool

def decryptOptionalSecret (secrets : Secrets) : Option String → Except String (Option String)
  | none => .ok none
  | some stored => (secrets.decryptIfNeeded stored).map some

inductive Command where
  | setup (code : Option String)
  | enable (code : Option String)
  | disable (code : Option String)

inductive Response where
  | setup (secret : String) (enabled : Bool)
  | status (enabled setupPending : Bool)

inductive Phase where
  | totpConfig
  | verify (secret code : String)
  | setTotpSecret
  | setTotpEnabled (verified : String)
  | disableTotp
  | done (result : Except AppError Response)

structure Call where
  command : Command
  phase : Phase

def requiredCode (code : Option String) (missing : String) : Except AppError String := do
  require (← code.mapM normalizeTotpCode) (.badRequest missing)

def mapTotpEndpointError : TotpVerificationError → AppError
  | .rateLimited => .tooManyRequests "Too many failed TOTP attempts"
  | .invalidCode => .badRequest "Invalid TOTP code"
  | .database e => .database e

def afterConfig (command : Command) (secret : Option String) (enabled : Bool) :
    Except AppError Phase :=
  match command with
  | .setup code =>
    if enabled then do
      let secret ← require secret (.badRequest "TOTP secret is missing")
      return .verify secret (← requiredCode code "Current TOTP code is required")
    else .ok .setTotpSecret
  | .enable code => do
    let secret ← require secret (.badRequest "TOTP setup has not been started")
    return .verify secret (← requiredCode code "TOTP code is required")
  | .disable code =>
    if enabled then do
      let secret ← require secret (.badRequest "TOTP secret is missing")
      return .verify secret (← requiredCode code "TOTP code is required")
    else .ok .disableTotp

def afterVerify (command : Command) (secret : String) : Phase :=
  match command with
  | .setup _ => .setTotpSecret
  | .enable _ => .setTotpEnabled secret
  | .disable _ => .disableTotp

structure System where
  config : Config
  events : WafEvents
  calls : ℕ → Option Call
  /-- The verifications of enabling requests in which a code was accepted. -/
  proven : List TotpCall

/-- How a call ends and what it is given on the way: two readings of the clock, a new secret
and a nonce. -/
structure Io where
  reply : Reply
  totp : TotpIo
  now : DateTime
  later : DateTime
  newSecret : String
  nonce : String
  timestamp_now : timestamp now < 2 ^ 63

inductive Event where
  | request (call : ℕ) (isPat : Bool) (command : Command)
  | step (call : ℕ) (io : Io)
  | drop (call : ℕ)

section Steps

variable (db : DatabaseBackend) (hmac : HmacSha1) (sha256 : Sha256) (secrets : Secrets)
  (user : UserId)

def System.setPhase (st : System) (call : ℕ) (c : Call) (phase : Phase) : System :=
  { st with calls := Function.update st.calls call (some { c with phase }) }

def fail (e : String) : Phase := .done (.error (.database e))

def System.write (st : System) (call : ℕ) (c : Call) (reply : Reply) (config : Config)
    (response : Response) : System :=
  match reply with
  | .done => { st with config }.setPhase call c (.done (.ok response))
  | .failed e => st.setPhase call c (fail e)
  | .lost e => { st with config }.setPhase call c (fail e)

def System.verify (st : System) (call : ℕ) (c : Call) (totp : TotpCall) : System :=
  let (result, events) := verifyAndConsumeUserTotp db hmac sha256 st.events totp
  match result with
  | .ok () =>
    let proven := match c.command with
      | .enable _ => totp :: st.proven
      | _ => st.proven
    { st with events, proven }.setPhase call c (afterVerify c.command totp.secret)
  | .error e => { st with events }.setPhase call c (.done (.error (mapTotpEndpointError e)))

def System.callStep (st : System) (call : ℕ) (c : Call) (io : Io) : System :=
  match c.phase with
  | .totpConfig => match io.reply with
    | .failed e | .lost e => st.setPhase call c (fail e)
    | .done => match decryptOptionalSecret secrets st.config.secret with
      | .error e => st.setPhase call c (fail e)
      | .ok secret => match afterConfig c.command secret st.config.enabled with
        | .error e => st.setPhase call c (.done (.error e))
        | .ok phase => st.setPhase call c phase
  | .verify secret code =>
    st.verify db hmac sha256 call c ⟨user, secret, code, io.now, io.later, io.totp, io.timestamp_now⟩
  | .setTotpSecret => match secrets.encrypt io.nonce io.newSecret with
    | .error e => st.setPhase call c (fail e)
    | .ok stored => st.write call c io.reply ⟨some stored, false⟩ (.setup io.newSecret false)
  | .setTotpEnabled _ =>
    st.write call c io.reply { st.config with enabled := true } (.status true false)
  | .disableTotp => st.write call c io.reply ⟨none, false⟩ (.status false false)
  | .done _ => st

def System.step (st : System) : Event → System
  | .request call isPat command =>
    match st.calls call with
    | some _ => st
    | none =>
      let phase : Phase :=
        if isPat then .done (.error (.forbidden "Cookie session required")) else .totpConfig
      st.setPhase call ⟨command, phase⟩ phase
  | .step call io => match st.calls call with
    | none => st
    | some c => st.callStep db hmac sha256 secrets user call c io
  | .drop call => { st with calls := Function.update st.calls call none }

end Steps

def System.init (config : Config) (events : WafEvents) : System :=
  ⟨config, events, fun _ => none, []⟩

def SecretProven (hmac : HmacSha1) (secrets : Secrets) (user : UserId) (st : System) : Prop :=
  ∃ call ∈ st.proven, call.userId = user ∧
    (∃ m, verifyTotpCodeStep hmac call.secret call.code call.now = some m) ∧
    decryptOptionalSecret secrets st.config.secret = .ok (some call.secret)

def stillStored (secrets : Secrets) (st : System) : Event → Bool
  | .step call _ => match st.calls call with
    | some c => match c.phase with
      | .setTotpEnabled verified =>
        match decryptOptionalSecret secrets st.config.secret with
        | .ok (some secret) => secret == verified
        | _ => false
      | _ => true
    | none => true
  | _ => true

section Runs

variable (db : DatabaseBackend) (hmac : HmacSha1) (sha256 : Sha256) (secrets : Secrets)
  (user : UserId)

structure Inv (st : System) : Prop where
  accepted : ∀ call ∈ st.proven, call.userId = user ∧
    ∃ m, verifyTotpCodeStep hmac call.secret call.code call.now = some m
  verified : ∀ i c secret, st.calls i = some c → c.phase = .setTotpEnabled secret →
    ∃ call ∈ st.proven, call.secret = secret
  enabled : st.config.enabled = true → SecretProven hmac secrets user st

variable {hmac secrets user} {st : System} (h : Inv hmac secrets user st)
include h

theorem inv_setPhase (call : ℕ) (c : Call) {phase : Phase}
    (hphase : ∀ secret, phase = .setTotpEnabled secret → ∃ call ∈ st.proven, call.secret = secret) :
    Inv hmac secrets user (st.setPhase call c phase) := by
  refine ⟨h.accepted, fun i c' secret hc hp => ?_, h.enabled⟩
  by_cases hi : i = call
  · subst hi
    simp only [System.setPhase, Function.update_self, Option.some.injEq] at hc
    subst hc
    exact hphase secret hp
  · simp only [System.setPhase, Function.update_of_ne hi] at hc
    exact h.verified i c' secret hc hp

theorem inv_setPhase_done (call : ℕ) (c : Call) (result : Except AppError Response) :
    Inv hmac secrets user (st.setPhase call c (.done result)) :=
  inv_setPhase h call c fun _ hp => by cases hp

theorem inv_write (call : ℕ) (c : Call) (reply : Reply) {config : Config}
    (hconfig : config.enabled = true → SecretProven hmac secrets user { st with config })
    (response : Response) : Inv hmac secrets user (st.write call c reply config response) := by
  have hwritten : Inv hmac secrets user { st with config } := ⟨h.accepted, h.verified, hconfig⟩
  cases reply with
  | done => exact inv_setPhase_done hwritten call c _
  | failed => exact inv_setPhase_done h call c _
  | lost => exact inv_setPhase_done hwritten call c _

theorem inv_verify (call : ℕ) (c : Call) {totp : TotpCall} (huser : totp.userId = user) :
    Inv hmac secrets user (st.verify db hmac sha256 call c totp) := by
  have hevents : ∀ events, Inv hmac secrets user { st with events } := fun events =>
    ⟨h.accepted, h.verified, h.enabled⟩
  unfold System.verify
  cases hresult : verifyAndConsumeUserTotp db hmac sha256 st.events totp with
  | mk result events =>
    cases result with
    | error => exact inv_setPhase_done (hevents events) call c _
    | ok =>
      cases hcommand : c.command with
      | setup => exact inv_setPhase (hevents events) call c fun _ hp => by cases hp
      | disable => exact inv_setPhase (hevents events) call c fun _ hp => by cases hp
      | enable =>
        have hok : isAccepted db hmac sha256 st.events totp = true := by
          rw [isAccepted, hresult]
          rfl
        obtain ⟨m, hm, -⟩ := of_isAccepted hok
        -- The accepted call is on record when the request goes on to set the flag.
        have hproven : Inv hmac secrets user { st with events, proven := totp :: st.proven } := by
          refine ⟨forall_mem_cons.mpr ⟨⟨huser, m, hm⟩, h.accepted⟩,
            fun i c' secret hc hp => ?_, fun henabled => ?_⟩
          · obtain ⟨call', hcall', hs⟩ := h.verified i c' secret hc hp
            exact ⟨call', mem_cons_of_mem totp hcall', hs⟩
          · obtain ⟨call', hcall', hs⟩ := h.enabled henabled
            exact ⟨call', mem_cons_of_mem totp hcall', hs⟩
        refine inv_setPhase hproven call c fun secret hp => ?_
        obtain rfl := Phase.setTotpEnabled.inj hp
        exact ⟨totp, mem_cons_self, rfl⟩

omit h in
theorem afterConfig_ne_setTotpEnabled {command : Command} {secret : Option String} {enabled : Bool}
    {phase : Phase} (hphase : afterConfig command secret enabled = .ok phase) (verified : String) :
    phase ≠ .setTotpEnabled verified := by
  have hverify : ∀ (e : AppError) (code : Except AppError String),
      (do let secret ← require secret e; return Phase.verify secret (← code)) = .ok phase →
        phase ≠ .setTotpEnabled verified := by
    intro e code hok
    obtain ⟨s, -, hok⟩ := bind_eq_ok.mp hok
    obtain ⟨t, -, hok⟩ := bind_eq_ok.mp hok
    obtain rfl := pure_eq_ok.mp hok
    nofun
  cases command with
  | enable => exact hverify _ _ hphase
  | setup =>
    simp only [afterConfig] at hphase
    split_ifs at hphase
    · exact hverify _ _ hphase
    · obtain rfl := Except.ok.inj hphase
      nofun
  | disable =>
    simp only [afterConfig] at hphase
    split_ifs at hphase
    · exact hverify _ _ hphase
    · obtain rfl := Except.ok.inj hphase
      nofun

theorem inv_step {e : Event} (hstored : stillStored secrets st e = true) :
    Inv hmac secrets user (st.step db hmac sha256 secrets user e) := by
  cases e with
  | request call =>
    simp only [System.step]
    split
    · exact h
    · refine inv_setPhase h call _ fun _ hp => ?_
      split at hp <;> cases hp
  | drop call =>
    refine ⟨h.accepted, fun i c secret hc hp => ?_, h.enabled⟩
    by_cases hi : i = call
    · subst hi
      simp [System.step] at hc
    · simp only [System.step, Function.update_of_ne hi] at hc
      exact h.verified i c secret hc hp
  | step call io =>
    simp only [System.step]
    cases hc : st.calls call with
    | none => exact h
    | some c =>
      dsimp only
      unfold System.callStep
      split
      case h_1 =>
        split
        · exact inv_setPhase_done h call c _
        · exact inv_setPhase_done h call c _
        · split
          · exact inv_setPhase_done h call c _
          · split
            · exact inv_setPhase_done h call c _
            · rename_i hafter
              exact inv_setPhase h call c fun verified hp =>
                absurd hp (afterConfig_ne_setTotpEnabled hafter verified)
      case h_2 => exact inv_verify db sha256 h call c rfl
      case h_3 =>
        split
        · exact inv_setPhase_done h call c _
        · exact inv_write h call c io.reply (fun henabled => by cases henabled) _
      case h_4 verified hphase =>
        refine inv_write h call c io.reply (fun _ => ?_) _
        obtain ⟨totp, htotp, rfl⟩ := h.verified call c verified hc hphase
        obtain ⟨huser, hm⟩ := h.accepted totp htotp
        refine ⟨totp, htotp, huser, hm, ?_⟩
        simp only [stillStored, hc, hphase] at hstored
        split at hstored
        · rename_i hsecret
          rw [← beq_iff_eq.mp hstored]
          exact hsecret
        · cases hstored
      case h_5 => exact inv_write h call c io.reply (fun henabled => by cases henabled) _
      case h_6 => exact h

end Runs

/-- In every run in which a secret is enabled while it is the one that a code was verified
against, an enabled secret is a proven one in every state reached. -/
theorem enabled_secret_proven (db : DatabaseBackend) (hmac : HmacSha1) (sha256 : Sha256)
    (secrets : Secrets) (user : UserId) (config : Config) (events : WafEvents)
    (hdisabled : config.enabled = false) (es : List Event)
    (hstored : Meets (System.step db hmac sha256 secrets user)
      (fun st e => stillStored secrets st e) (.init config events) es) :
    (run (System.step db hmac sha256 secrets user) (.init config events) es).config.enabled =
        true →
      SecretProven hmac secrets user
        (run (System.step db hmac sha256 secrets user) (.init config events) es) := by
  have hinit : Inv hmac secrets user (.init config events) := by
    refine ⟨forall_mem_nil _, fun i c secret hc => ?_, fun henabled => ?_⟩
    · cases hc
    · exact absurd (hdisabled.symm.trans henabled) Bool.false_ne_true
  have hstep : ∀ st e, stillStored secrets st e = true → Inv hmac secrets user st →
      Inv hmac secrets user (st.step db hmac sha256 secrets user e) :=
    fun st e he h => inv_step db sha256 h he
  exact (run_induct_of_meets hstep hinit hstored).enabled

namespace Sample

open Auth.Sample (userId hmac sha256)

def secrets : Secrets where
  encrypt nonce secret := .ok ("enc:v1:" ++ nonce ++ ":" ++ secret)
  decryptIfNeeded stored := .ok ((Text.stripPrefix stored "enc:v1:n:").getD stored)

def io (second : ℤ) (newSecret : String) (h : timestamp (seconds second) < 2 ^ 63) : Io :=
  ⟨.done, ⟨none, none, .done⟩, seconds second, seconds (second + 1), newSecret, "n", h⟩

theorem timestamp_step : timestamp (seconds 59) < 2 ^ 63 := by decide

def step (call : ℕ) (newSecret : String) : Event := .step call (io 59 newSecret timestamp_step)

def verified : List Event :=
  [.request 0 false (.setup none), step 0 "", step 0 Auth.Sample.secret,
    .request 1 false (.enable (some "287082")), step 1 "", step 1 ""]

def replaced : List Event :=
  verified ++ [.request 2 false (.setup none), step 2 "", step 2 "MFRGGZDFMZTWQ2LK", step 1 ""]

def enabled : List Event := verified ++ [step 1 ""]

def run (es : List Event) : System :=
  Transition.run (System.step .sqlite hmac sha256 secrets userId) (.init ⟨none, false⟩ []) es

end Sample

theorem unproven_secret_enabled :
    (Sample.run Sample.replaced).config.enabled = true ∧
      ¬ SecretProven Auth.Sample.hmac Sample.secrets Auth.Sample.userId
        (Sample.run Sample.replaced) := by
  have hproven : (Sample.run Sample.replaced).proven.map (·.secret) = [Auth.Sample.secret] := by
    decide +kernel
  have hstored : (Sample.run Sample.replaced).config.secret = some "enc:v1:n:MFRGGZDFMZTWQ2LK" := by
    decide +kernel
  refine ⟨by decide +kernel, ?_⟩
  rintro ⟨call, hcall, -, -, hdecrypted⟩
  have hsecret : call.secret = Auth.Sample.secret := by
    have hmem := mem_map_of_mem (f := (·.secret)) hcall
    rw [hproven] at hmem
    exact mem_singleton.mp hmem
  rw [hstored, hsecret] at hdecrypted
  have hne : "MFRGGZDFMZTWQ2LK" ≠ Auth.Sample.secret := by decide
  exact hne (Option.some.inj (Except.ok.inj hdecrypted))

theorem enabled_secret_proven_enabled :
    (Sample.run Sample.enabled).config.enabled = true ∧
      SecretProven Auth.Sample.hmac Sample.secrets Auth.Sample.userId
        (Sample.run Sample.enabled) := by
  have henabled : (Sample.run Sample.enabled).config.enabled = true := by decide +kernel
  refine ⟨henabled, ?_⟩
  exact enabled_secret_proven .sqlite Auth.Sample.hmac Auth.Sample.sha256 Sample.secrets
    Auth.Sample.userId ⟨none, false⟩ [] rfl Sample.enabled (by decide +kernel) henabled

end XLStatus.Auth.TotpSettings
