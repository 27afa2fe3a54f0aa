import XLStatus.Auth.MiddlewareDefs
import XLStatus.Lib.JsonText

/-! The state that accompanies a login or a binding at an OAuth provider: written and signed by
the server when the flow starts, read back when the provider calls back. -/

namespace XLStatus.Auth.OAuth

open Shared Checked JsonText List String
open Auth.Middleware (HmacSha256 isHexText)
open Text (len bytes)

def oauthMaxProviderIdBytes : ℕ := 64
def oauthMaxStateBytes : ℕ := 4096
def oauthMaxReturnToBytes : ℕ := 1024

inductive OAuthFlow where
  | login
  | bind
  deriving DecidableEq, Repr

def OAuthFlow.text : OAuthFlow → String
  | .login => "login"
  | .bind => "bind"

structure OAuthState where
  provider : String
  flow : OAuthFlow
  userId : Option String
  returnTo : String
  nonce : String
  exp : ℤ
  deriving DecidableEq

/-! ## Starting a flow -/

def isProviderIdChar (c : Char) : Bool :=
  c.isAlphanum || c == '-' || c == '_' || c == '.'

def normalizeOauthProviderId (value : String) : Except AppError String := do
  let value := Text.trim value
  ensure (value ≠ "") (.badRequest "OAuth provider is required")
  ensure (len value ≤ oauthMaxProviderIdBytes) (.badRequest ("OAuth provider must be at most " ++
    toString oauthMaxProviderIdBytes ++ " bytes"))
  ensure (value.toList.all isProviderIdChar)
    (.badRequest "OAuth provider contains invalid characters")
  pure value

structure Provider where
  id : String
  named : ∃ path, normalizeOauthProviderId path = .ok id

def isAsciiControl (c : Char) : Bool := c.toNat ≤ 0x1f || c.toNat == 0x7f

def validLocalReturnTo (value : String) : Bool :=
  Text.startsWith value "/" && !Text.startsWith value "//" &&
    decide (len value ≤ oauthMaxReturnToBytes) && !value.toList.contains '\\' &&
    !value.toList.any isAsciiControl

def sanitizeReturnTo (value : Option String) : String :=
  (value.filter validLocalReturnTo).getD "/dashboard"

def newState (provider : Provider) (flow : OAuthFlow) (userId : Option UserId)
    (returnTo : Option String) (random : Fin 16 → UInt8) (now : DateTime) : OAuthState where
  provider := provider.id
  flow := flow
  userId := userId.map (·.text)
  returnTo := sanitizeReturnTo returnTo
  nonce := hexEncode (ofFn random)
  exp := timestamp (now + seconds (10 * 60))

def startOauthLogin (provider : Provider) (returnTo : Option String) (random : Fin 16 → UInt8)
    (now : DateTime) : OAuthState := newState provider .login none returnTo random now

def startOauthBind (provider : Provider) (user : UserId) (returnTo : Option String)
    (random : Fin 16 → UInt8) (now : DateTime) : OAuthState :=
  newState provider .bind (some user) returnTo random now

/-! ## The text of a state -/

def stateJson (state : OAuthState) : String :=
  "\x7b\"provider\":" ++ stringJson state.provider ++ ",\"flow\":" ++ stringJson state.flow.text ++
    ",\"user_id\":" ++ (state.userId.map stringJson).getD "null" ++
    ",\"return_to\":" ++ stringJson state.returnTo ++ ",\"nonce\":" ++ stringJson state.nonce ++
    ",\"exp\":" ++ toString state.exp ++ "\x7d"

def hexDecode : List Char → Option (List UInt8)
  | [] => some []
  | [_] => none
  | a :: b :: l => do
    let high ← JsonText.hexValue a
    let low ← JsonText.hexValue b
    let rest ← hexDecode l
    some (UInt8.ofNat (16 * high + low) :: rest)

/-- The digest, the text of an error of `hex`, and how `serde_json` reads a payload. -/
structure Codec where
  hmac : HmacSha256
  hexError : String → String
  fromSlice : List UInt8 → Except String OAuthState

def signState (codec : Codec) (secret : String) (payload : List UInt8) : String :=
  hexEncode (ofFn (codec.hmac (bytes secret) payload))

def encodeState (codec : Codec) (secret : String) (state : OAuthState) : String :=
  let payloadHex := hexEncode (bytes (stateJson state))
  payloadHex ++ "." ++ signState codec secret (bytes payloadHex)

def ensureOauthTextSize (value : String) (minBytes maxBytes : ℕ) (field : String) :
    Except AppError Unit :=
  ensure (decide (minBytes ≤ len value) && decide (len value ≤ maxBytes))
    (.badRequest (field ++ " must be between " ++ toString minBytes ++ " and " ++
      toString maxBytes ++ " bytes"))

def decodeState (codec : Codec) (secret encoded : String) (now : DateTime) :
    Except AppError OAuthState := do
  ensureOauthTextSize encoded 1 oauthMaxStateBytes "OAuth state"
  let (payloadHex, signature) ← require (Text.splitOnce encoded '.')
    (.badRequest "OAuth state is invalid")
  ensure (!(decide (len payloadHex > oauthMaxStateBytes) || len signature != 64))
    (.badRequest "OAuth state is invalid")
  ensure (isHexText payloadHex && isHexText signature) (.badRequest "OAuth state is invalid")
  let expected := signState codec secret (bytes payloadHex)
  ensure (constantTimeEq (bytes signature) (bytes expected))
    (.badRequest "OAuth state signature is invalid")
  let payload ← require (hexDecode payloadHex.toList)
    (.badRequest ("OAuth state payload is invalid: " ++ codec.hexError payloadHex))
  let state ← (codec.fromSlice payload).mapError fun e =>
    .badRequest ("OAuth state payload is invalid: " ++ e)
  ensure (!decide (state.exp < timestamp now)) (.badRequest "OAuth state has expired")
  pure state

/-! ## Sizes -/

theorem hexDigit_spec (n : UInt8) :
    ∀ c ∈ [hexDigit (n / 16), hexDigit (n % 16)],
      c.toNat < 128 ∧ Text.isAsciiHexDigit c = true := by
  have hall : ∀ k < 16, (Nat.digitChar k).toNat < 128 ∧
      Text.isAsciiHexDigit (Nat.digitChar k) = true := by decide
  have hlt := n.toNat_lt
  have hdiv : (n / 16).toNat < 16 := by
    change n.toNat / 16 < 16
    omega
  have hmod : (n % 16).toNat < 16 := Nat.mod_lt _ (by decide)
  intro c hc
  rcases mem_cons.mp hc with rfl | hc
  · exact hall _ hdiv
  · rw [mem_singleton.mp hc]
    exact hall _ hmod

theorem mem_hexEncode {l : List UInt8} {c : Char} (h : c ∈ (hexEncode l).toList) :
    c.toNat < 128 ∧ Text.isAsciiHexDigit c = true := by
  unfold hexEncode at h
  rw [toList_ofList, mem_flatMap] at h
  obtain ⟨b, -, hc⟩ := h
  exact hexDigit_spec b c hc

theorem hexDecode_hexEncode (l : List UInt8) : hexDecode (hexEncode l).toList = some l := by
  have hvalue : ∀ k < 16, JsonText.hexValue (Nat.digitChar k) = some k := by decide
  unfold hexEncode
  rw [toList_ofList]
  induction l with
  | nil => rfl
  | cons b l ih =>
    have hlt := b.toNat_lt
    have hhigh : JsonText.hexValue (hexDigit (b / 16)) = some (b.toNat / 16) :=
      hvalue (b.toNat / 16) (by omega)
    have hlow : JsonText.hexValue (hexDigit (b % 16)) = some (b.toNat % 16) :=
      hvalue (b.toNat % 16) (Nat.mod_lt _ (by decide))
    have hbyte : UInt8.ofNat (16 * (b.toNat / 16) + b.toNat % 16) = b := by
      rw [Nat.div_add_mod, UInt8.ofNat_toNat]
    rw [flatMap_cons, cons_append, cons_append, nil_append]
    unfold hexDecode
    rw [hhigh, hlow, ih]
    change some (UInt8.ofNat (16 * (b.toNat / 16) + b.toNat % 16) :: l) = _
    rw [hbyte]

theorem len_hexEncode (l : List UInt8) : len (hexEncode l) = 2 * l.length := by
  rw [len_of_ascii fun c hc => (mem_hexEncode hc).1]
  unfold hexEncode
  rw [toList_ofList, length_flatMap]
  simp [mul_comm]

theorem isHexText_hexEncode (l : List UInt8) : isHexText (hexEncode l) = true :=
  all_eq_true.mpr fun _ hc => (mem_hexEncode hc).2

theorem len_encodeState (codec : Codec) (secret : String) (state : OAuthState) :
    len (encodeState codec secret state) = 2 * len (stateJson state) + 65 := by
  unfold encodeState signState
  dsimp only
  rw [len_append, len_append, len_hexEncode, len_hexEncode, Text.length_bytes, length_ofFn]
  rfl

/-! ## Reading a state back -/

theorem decodeState_encodeState (codec : Codec) (secret : String) {state : OAuthState}
    {now : DateTime} (hread : codec.fromSlice (bytes (stateJson state)) = .ok state)
    (hsize : len (encodeState codec secret state) ≤ oauthMaxStateBytes)
    (hexp : timestamp now ≤ state.exp) :
    decodeState codec secret (encodeState codec secret state) now = .ok state := by
  have hlen := len_encodeState codec secret state
  have hsplit : Text.splitOnce (encodeState codec secret state) '.' =
      some (hexEncode (bytes (stateJson state)),
        signState codec secret (bytes (hexEncode (bytes (stateJson state))))) := by
    refine Text.splitOnce_eq_some.mpr ⟨?_, fun hdot => ?_⟩
    · unfold encodeState
      rw [toList_append, toList_append, List.append_assoc]
      rfl
    · exact absurd (mem_hexEncode hdot).2 (by decide)
  have hhex : len (hexEncode (bytes (stateJson state))) ≤ oauthMaxStateBytes := by
    rw [len_hexEncode, Text.length_bytes]
    omega
  have hsignature : len (signState codec secret (bytes (hexEncode (bytes (stateJson state))))) =
      64 := by
    unfold signState
    rw [len_hexEncode, length_ofFn]
  unfold decodeState
  refine bind_eq_ok.mpr ⟨(), ensure_eq_ok.mpr ?_, bind_eq_ok.mpr ⟨_, require_eq_ok.mpr hsplit, ?_⟩⟩
  · rw [Bool.and_eq_true, decide_eq_true_iff, decide_eq_true_iff]
    exact ⟨by omega, hsize⟩
  · dsimp only
    refine bind_eq_ok.mpr ⟨(), ensure_eq_ok.mpr ?_, bind_eq_ok.mpr ⟨(), ensure_eq_ok.mpr ?_,
      bind_eq_ok.mpr ⟨(), ensure_eq_ok.mpr (constantTimeEq_iff.mpr rfl), bind_eq_ok.mpr
        ⟨_, require_eq_ok.mpr (hexDecode_hexEncode _), bind_eq_ok.mpr ⟨state, ?_, ?_⟩⟩⟩⟩⟩
    · simp [not_lt.mpr hhex, hsignature]
    · rw [isHexText_hexEncode, Bool.true_and]
      exact isHexText_hexEncode _
    · rw [hread]
      rfl
    · refine bind_eq_ok.mpr ⟨(), ensure_eq_ok.mpr ?_, rfl⟩
      simpa using hexp

theorem decodeState_of_large (codec : Codec) (secret : String) {encoded : String}
    (hsize : oauthMaxStateBytes < len encoded) (now : DateTime) :
    decodeState codec secret encoded now =
      .error (.badRequest "OAuth state must be between 1 and 4096 bytes") := by
  have hlarge :
      (decide (1 ≤ len encoded) && decide (len encoded ≤ oauthMaxStateBytes)) = false := by
    rw [decide_eq_false (not_le.mpr hsize), Bool.and_false]
  unfold decodeState ensureOauthTextSize
  rw [hlarge]
  rfl

/-! ## The states that are issued -/

theorem provider_chars (provider : Provider) {c : Char} (h : c ∈ provider.id.toList) :
    isProviderIdChar c = true := by
  obtain ⟨path, hpath⟩ := provider.named
  obtain ⟨-, -, hrest⟩ := bind_eq_ok.mp hpath
  obtain ⟨-, -, hrest⟩ := bind_eq_ok.mp hrest
  obtain ⟨_, hall, hvalue⟩ := bind_eq_ok.mp hrest
  have hid : Text.trim path = provider.id := pure_eq_ok.mp hvalue
  exact all_eq_true.mp (ensure_eq_ok.mp hall) c (hid ▸ h)

/-- A path on the same host: one slash in front, no backslash and no control character. -/
structure LocalPath (s : String) : Prop where
  slash : Text.startsWith s "/" = true
  single : Text.startsWith s "//" = false
  backslash : '\\' ∉ s.toList
  control : ∀ c ∈ s.toList, isAsciiControl c = false

theorem localPath_sanitizeReturnTo (value : Option String) :
    LocalPath (sanitizeReturnTo value) := by
  unfold sanitizeReturnTo
  cases h : value.filter validLocalReturnTo with
  | none =>
    have hplain : "/dashboard".toList.all (fun c => !isAsciiControl c) = true := by decide
    refine ⟨by decide, by decide, by decide, fun c hc => ?_⟩
    exact Bool.not_eq_true' _ |>.mp (all_eq_true.mp hplain c hc)
  | some =>
    have hvalid := (Option.filter_eq_some_iff.mp h).2
    simp only [validLocalReturnTo, Bool.and_eq_true, Bool.not_eq_true', contains_eq_mem,
      decide_eq_false_iff_not, any_eq_false, Bool.not_eq_true] at hvalid
    obtain ⟨⟨⟨⟨hslash, hsingle⟩, -⟩, hbackslash⟩, hcontrol⟩ := hvalid
    exact ⟨hslash, hsingle, hbackslash, hcontrol⟩

theorem LocalPath.quotes {s : String} (h : LocalPath s) :
    ∀ c ∈ s.toList, NeedsEscape c → c = '"' := by
  rintro c hc (hquote | rfl | hlow)
  · exact hquote
  · exact absurd hc h.backslash
  · have hcontrol := h.control c hc
    simp [isAsciiControl, Nat.le_of_lt_succ hlow] at hcontrol

theorem len_stringJson_userId (user : UserId) : len (stringJson user.text) = 38 := by
  have hchars : ∀ c ∈ user.text.toList, (c == '-' || Text.isLowerHexDigit c) = true := by
    intro c hc
    have hcanonical := user.canonical
    unfold isCanonicalUuid at hcanonical
    rw [Bool.and_eq_true] at hcanonical
    obtain ⟨i, hi⟩ := List.mem_iff_getElem?.mp hc
    have hi' := List.all_eq_true.mp hcanonical.2 (c, i) (List.mk_mem_zipIdx_iff_getElem?.mpr hi)
    dsimp only at hi'
    split_ifs at hi'
    · rw [hi', Bool.true_or]
    · rw [hi', Bool.or_true]
  have hlength : user.text.toList.length = 36 := by
    obtain ⟨c, l, d, htext, hlen, -, -⟩ := exists_of_isCanonicalUuid user.canonical
    simp [htext, hlen]
  have hascii : ∀ c ∈ user.text.toList, c.toNat < 128 := by
    intro c hc
    have h := hchars c hc
    simp only [Bool.or_eq_true, beq_iff_eq, Text.isLowerHexDigit, Bool.and_eq_true,
      decide_eq_true_eq, Char.le_def, UInt32.le_iff_toNat_le] at h
    rcases h with rfl | h | h
    · decide
    · exact lt_of_le_of_lt h.2 (by decide)
    · exact lt_of_le_of_lt h.2 (by decide)
  have hplain : ∀ c ∈ user.text.toList, ¬ NeedsEscape c := fun c hc =>
    not_needsEscape_of (p := fun c => c == '-' || Text.isLowerHexDigit c) (by decide) (by decide)
      (by decide) (hchars c hc)
  rw [len_stringJson_of_plain hplain, len_of_ascii hascii, hlength]

def issued (provider : Provider) (user : Option UserId) (returnTo : Option String)
    (random : Fin 16 → UInt8) (now : DateTime) : OAuthState :=
  match user with
  | none => startOauthLogin provider returnTo random now
  | some user => startOauthBind provider user returnTo random now

def room : Option UserId → ℕ
  | none => 1905
  | some _ => 1872

section Issued

variable (provider : Provider) (user : Option UserId) (returnTo : Option String)
  (random : Fin 16 → UInt8) (now : DateTime)

theorem len_stateJson_issued :
    len (stateJson (issued provider user returnTo random now)) + room user = 2015 +
      (len provider.id + (len (sanitizeReturnTo returnTo) +
        (sanitizeReturnTo returnTo).toList.count '"') +
        len (toString (timestamp (now + seconds (10 * 60))))) := by
  have hprovider : len (stringJson provider.id) = len provider.id + 2 :=
    len_stringJson_of_plain fun c hc =>
      not_needsEscape_of (by decide) (by decide) (by decide) (provider_chars provider hc)
  have hreturn := len_stringJson_of_quotes (localPath_sanitizeReturnTo returnTo).quotes
  have hnonce : len (stringJson (hexEncode (ofFn random))) = 34 := by
    rw [len_stringJson_of_plain fun c hc => not_needsEscape_of (by decide) (by decide) (by decide)
      (mem_hexEncode hc).2, len_hexEncode, length_ofFn]
  have hopen : len "\x7b\"provider\":" = 12 := by decide +kernel
  have hflow : len ",\"flow\":" = 8 := by decide +kernel
  have huser : len ",\"user_id\":" = 11 := by decide +kernel
  have hto : len ",\"return_to\":" = 13 := by decide +kernel
  have hrandom : len ",\"nonce\":" = 9 := by decide +kernel
  have hexp : len ",\"exp\":" = 7 := by decide +kernel
  have hclose : len "\x7d" = 1 := by decide +kernel
  have happend : ∀ {s t : String} {m n : ℕ}, len s = m → len t = n → len (s ++ t) = m + n := by
    rintro s t m n rfl rfl
    exact len_append s t
  -- the parts in the order in which they are written
  have hparts : ∀ (flow : OAuthFlow) (id : Option String) {m n : ℕ},
      len (stringJson flow.text) = m → len ((id.map stringJson).getD "null") = n →
      len (stateJson ⟨provider.id, flow, id, sanitizeReturnTo returnTo,
        hexEncode (ofFn random), timestamp (now + seconds (10 * 60))⟩) = _ :=
    fun _ _ _ _ hm hn =>
    happend (happend (happend (happend (happend (happend (happend (happend (happend (happend
      (happend (happend hopen hprovider) hflow) hm) huser) hn) hto) hreturn) hrandom) hnonce) hexp)
      rfl) hclose
  cases user with
  | none =>
    have hlogin : len (stringJson (OAuthFlow.text .login)) = 7 := by decide +kernel
    have hnull : len "null" = 4 := by decide +kernel
    refine (congrArg (· + 1905) (hparts .login none hlogin hnull)).trans ?_
    ring
  | some user =>
    have hbind : len (stringJson (OAuthFlow.text .bind)) = 6 := by decide +kernel
    refine (congrArg (· + 1872) (hparts .bind (some user.text) hbind
      (len_stringJson_userId user))).trans ?_
    ring

theorem decodeState_issued_of_large (codec : Codec) (secret : String)
    (h : room user < len provider.id + (len (sanitizeReturnTo returnTo) +
      (sanitizeReturnTo returnTo).toList.count '"') +
      len (toString (timestamp (now + seconds (10 * 60))))) (later : DateTime) :
    decodeState codec secret
        (encodeState codec secret (issued provider user returnTo random now)) later =
      .error (.badRequest "OAuth state must be between 1 and 4096 bytes") := by
  have hjson := len_stateJson_issued provider user returnTo random now
  refine decodeState_of_large codec secret ?_ later
  rw [len_encodeState]
  have hmax : oauthMaxStateBytes = 4096 := rfl
  omega

/-- A state is read back until it expires exactly when its parts fit, and always leads back to a
local path. -/
theorem issued_accepted_iff (codec : Codec) (secret : String)
    (hread : codec.fromSlice (bytes (stateJson (issued provider user returnTo random now))) =
      .ok (issued provider user returnTo random now)) :
    ((∀ later, timestamp later ≤ (issued provider user returnTo random now).exp →
        decodeState codec secret
            (encodeState codec secret (issued provider user returnTo random now)) later =
          .ok (issued provider user returnTo random now)) ↔
      len provider.id + (len (sanitizeReturnTo returnTo) +
        (sanitizeReturnTo returnTo).toList.count '"') +
        len (toString (timestamp (now + seconds (10 * 60)))) ≤ room user) ∧
    LocalPath (issued provider user returnTo random now).returnTo := by
  refine ⟨⟨fun h => ?_, fun hroom later hlater => ?_⟩, ?_⟩
  · by_contra hroom
    have hexp : timestamp (seconds (issued provider user returnTo random now).exp) =
        (issued provider user returnTo random now).exp := Int.mul_ediv_cancel _ (by decide)
    have haccepted := h _ (le_of_eq hexp)
    rw [decodeState_issued_of_large provider user returnTo random now codec secret
      (not_le.mp hroom)] at haccepted
    cases haccepted
  · refine decodeState_encodeState codec secret hread ?_ hlater
    have hjson := len_stateJson_issued provider user returnTo random now
    have hmax : oauthMaxStateBytes = 4096 := rfl
    rw [len_encodeState]
    omega
  · cases user <;> exact localPath_sanitizeReturnTo returnTo

end Issued

namespace Sample

theorem named_oidc : normalizeOauthProviderId "oidc" = .ok "oidc" := by decide +kernel

def oidc : Provider := ⟨"oidc", "oidc", named_oidc⟩

def quotes : String := ofList ('/' :: List.replicate 1023 '"')

theorem toList_quotes : quotes.toList = '/' :: List.replicate 1023 '"' := toList_ofList

theorem mem_quotes {c : Char} (h : c ∈ quotes.toList) : c = '/' ∨ c = '"' := by
  rw [toList_quotes, List.mem_cons] at h
  exact h.imp_right List.eq_of_mem_replicate

theorem len_quotes : len quotes = 1024 ∧ quotes.toList.count '"' = 1023 := by
  have hascii : ∀ c ∈ quotes.toList, c.toNat < 128 := by
    intro c hc
    rcases mem_quotes hc with rfl | rfl <;> decide
  rw [len_of_ascii hascii, toList_quotes, length_cons, List.length_replicate,
    count_cons_of_ne (by decide), count_replicate_self]
  exact ⟨rfl, rfl⟩

theorem valid_quotes : validLocalReturnTo quotes = true := by
  have hcontrol : quotes.toList.any isAsciiControl = false := by
    refine any_eq_false.mpr fun c hc => ?_
    rcases mem_quotes hc with rfl | rfl <;> decide
  have hbackslash : '\\' ∉ quotes.toList := fun hc => by
    rcases mem_quotes hc with h | h <;> cases h
  unfold validLocalReturnTo
  rw [len_quotes.1, hcontrol, contains_eq_mem, decide_eq_false hbackslash]
  unfold Text.startsWith
  rw [toList_quotes]
  rfl

def login (returnTo : String) : OAuthState :=
  issued oidc none (some returnTo) (fun _ => 0) (seconds 1700000000)

def codec (state : OAuthState) : Codec where
  hmac _ _ _ := 0
  hexError _ := ""
  fromSlice _ := .ok state

end Sample

open Sample in
theorem issued_accepted_sample :
    decodeState (codec (login "/servers")) "secret"
        (encodeState (codec (login "/servers")) "secret" (login "/servers"))
        (seconds 1700000600) = .ok (login "/servers") := by
  refine (issued_accepted_iff oidc none (some "/servers") (fun _ => 0) (seconds 1700000000)
    (codec (login "/servers")) "secret" rfl).1.mpr ?_ _ ?_
  · decide +kernel
  · decide +kernel

open Sample in
theorem quotes_not_accepted :
    validLocalReturnTo quotes = true ∧
      decodeState (codec (login quotes)) "secret"
        (encodeState (codec (login quotes)) "secret" (login quotes)) (seconds 1700000000) =
        .error (.badRequest "OAuth state must be between 1 and 4096 bytes") := by
  have hsame : sanitizeReturnTo (some quotes) = quotes := by
    unfold sanitizeReturnTo
    rw [Option.filter_some, if_pos valid_quotes, Option.getD_some]
  have hlarge (now : DateTime) : room none < len oidc.id + (len (sanitizeReturnTo (some quotes)) +
      (sanitizeReturnTo (some quotes)).toList.count '"') +
      len (toString (timestamp (now + seconds (10 * 60)))) := by
    rw [hsame, len_quotes.1, len_quotes.2]
    exact Nat.lt_add_right _ (by decide +kernel)
  have hrefused := decodeState_issued_of_large oidc none (some quotes) (fun _ => 0)
    (seconds 1700000000) (codec (login quotes)) "secret" (hlarge _) (seconds 1700000000)
  exact ⟨valid_quotes, hrefused⟩

end XLStatus.Auth.OAuth
