import XLStatus.Auth.OAuthState
import XLStatus.Lib.JsonLex

/-! Secrets in the database. A column holds a secret encrypted or as plain text, and its text tells
which; the migration encrypts what is still stored as plain text. -/

namespace XLStatus.Secrets

open Auth (hexEncode)
open Auth.OAuth (hexDecode hexDecode_hexEncode len_hexEncode mem_hexEncode)
open Checked JsonText List Option
open Text (len bytes)

def secretPrefix : String := "xlsec:v1:"
def nonceLen : ℕ := 12
def tagLen : ℕ := 16
def nonceHexLen : ℕ := nonceLen * 2
def minCiphertextHexLen : ℕ := tagLen * 2
def maxSecretPlaintextBytes : ℕ := 16 * 1024
def maxCiphertextHexLen : ℕ := (maxSecretPlaintextBytes + tagLen) * 2
def maxEncryptedSecretBytes : ℕ := len secretPrefix + nonceHexLen + 1 + maxCiphertextHexLen
def secretSettingValueJsonMaxBytes : ℕ := 64 * 1024

/-- AES-256-GCM under one key, with the associated data that the server uses. -/
structure Aead where
  sealInPlace : List UInt8 → List UInt8 → List UInt8
  openInPlace : List UInt8 → List UInt8 → Option (List UInt8)
  length_seal : ∀ nonce plaintext, (sealInPlace nonce plaintext).length = plaintext.length + tagLen
  length_open : ∀ nonce ciphertext plaintext, openInPlace nonce ciphertext = some plaintext →
    ciphertext.length = plaintext.length + tagLen

abbrev Nonce := Fin nonceLen → UInt8

def isEncryptedSecret (value : String) : Bool := Text.startsWith value secretPrefix

section

variable (aead : Aead)

def encrypt (nonce : Option Nonce) (plaintext : String) : Except String String := do
  ensure (!decide (len plaintext > maxSecretPlaintextBytes))
    "secret value exceeds maximum allowed size"
  let nonce ← require nonce "failed to generate secret nonce"
  return secretPrefix ++ (hexEncode (ofFn nonce) ++ ":" ++
    hexEncode (aead.sealInPlace (ofFn nonce) (bytes plaintext)))

def decrypt (encrypted : String) : Except String String := do
  ensure (!decide (len encrypted > maxEncryptedSecretBytes))
    "encrypted secret exceeds maximum allowed size"
  let payload ← require (Text.stripPrefix encrypted secretPrefix) "secret is not encrypted"
  let (nonceHex, ciphertextHex) ← require (Text.splitOnce payload ':')
    "encrypted secret payload is malformed"
  ensure (len nonceHex == nonceHexLen) "encrypted secret nonce has invalid length"
  ensure (!(decide (len ciphertextHex < minCiphertextHexLen) ||
      decide (len ciphertextHex > maxCiphertextHexLen) || len ciphertextHex % 2 != 0))
    "encrypted secret ciphertext has invalid length"
  let nonce ← require (hexDecode nonceHex.toList) "encrypted secret nonce is not valid hex"
  let ciphertext ← require (hexDecode ciphertextHex.toList)
    "encrypted secret ciphertext is not valid hex"
  let plaintext ← require (aead.openInPlace nonce ciphertext) "failed to decrypt secret"
  require (String.fromUTF8? plaintext.toByteArray) "decrypted secret is not valid UTF-8"

end

section

variable (crypto : Option Aead)

def activeCrypto : Except String Aead :=
  require crypto "secret encryption has not been initialized"

def encryptSecret (nonce : Option Nonce) (value : String) : Except String String := do
  encrypt (← activeCrypto crypto) nonce value

def decryptSecretIfNeeded (value : String) : Except String String :=
  if isEncryptedSecret value then do decrypt (← activeCrypto crypto) value
  else if len value > maxSecretPlaintextBytes then
    .error "secret value exceeds maximum allowed size"
  else .ok value

def encryptOptionalSecret (nonce : Option Nonce) : Option String → Except String (Option String)
  | none => .ok none
  | some value =>
    if Text.trim value = "" ∨ isEncryptedSecret value then .ok (some value)
    else some <$> encryptSecret crypto nonce value

def decryptOptionalSecret : Option String → Except String (Option String)
  | none => .ok none
  | some value => some <$> decryptSecretIfNeeded crypto value

/-! ## The migration -/

structure DdnsSecretColumns where
  apiToken : Option String
  apiKey : Option String
  apiSecret : Option String
  webhookUrl : Option String
  deriving DecidableEq

def DdnsSecretColumns.encrypted (random : String → Option Nonce) (current : DdnsSecretColumns) :
    Except String DdnsSecretColumns := do
  return {
    apiToken := ← encryptOptionalSecret crypto (random "api_token") current.apiToken
    apiKey := ← encryptOptionalSecret crypto (random "api_key") current.apiKey
    apiSecret := ← encryptOptionalSecret crypto (random "api_secret") current.apiSecret
    webhookUrl := ← encryptOptionalSecret crypto (random "webhook_url") current.webhookUrl }

structure Io where
  random : String → String → Option Nonce
  fetchError : Option String
  updateError : String → Option String

def migrateEach {V : Type} (io : Io) (change : String → V → Except String (Option V)) :
    List (Σ _ : String, V) → HashMap String V → Except String ℕ × HashMap String V
  | [], table => (.ok 0, table)
  | row :: rows, table => match change row.1 row.2 with
    | .error e => (.error e, table)
    | .ok none => migrateEach io change rows table
    | .ok (some value) => match io.updateError row.1 with
      | some e => (.error e, table)
      | none =>
        let result := migrateEach io change rows (table.insert row.1 value)
        (result.1.map (· + 1), result.2)

def migrateTable {V : Type} (io : Io) (selected : V → Bool)
    (change : String → V → Except String (Option V)) (table : HashMap String V) :
    Except String ℕ × HashMap String V :=
  match io.fetchError with
  | some e => (.error e, table)
  | none => migrateEach io change (table.entries.filter fun row => selected row.2) table

def ddnsChange (io : Io) (id : String) (current : DdnsSecretColumns) :
    Except String (Option DdnsSecretColumns) := do
  let encrypted ← current.encrypted crypto (io.random id)
  return if encrypted ≠ current then some encrypted else none

def secretKeys : List String := ["geoip_ipinfo_token", "cloudflared_token"]

def parseMigratableSecretSetting (valueJson : String) : Option String :=
  if len valueJson > secretSettingValueJsonMaxBytes then none
  else (JsonLex.readString valueJson).filter fun value =>
    decide (len value ≤ maxSecretPlaintextBytes)

def settingChange (io : Io) (key valueJson : String) :
    Except String (Option String) :=
  if key ∉ secretKeys then .ok none
  else match parseMigratableSecretSetting valueJson with
    | none => .ok none
    | some value =>
      if Text.trim value = "" ∨ isEncryptedSecret value then .ok none
      else (fun encrypted => some (stringJson encrypted)) <$>
        encryptSecret crypto (io.random key "value_json") value

def totpSelected : Option String → Bool
  | none => false
  | some secret => secret.toList.any (· != ' ')

def totpChange (io : Io) (id : String) : Option String → Except String (Option (Option String))
  | none => .ok none
  | some secret =>
    if isEncryptedSecret secret then .ok none
    else (fun encrypted => some (some encrypted)) <$>
      encryptSecret crypto (io.random id "totp_secret") secret

structure Tables where
  ddnsConfigs : HashMap String DdnsSecretColumns
  systemSettings : HashMap String String
  users : HashMap String (Option String)

def migrateDdnsSecrets (io : Io) (table : HashMap String DdnsSecretColumns) :
    Except String ℕ × HashMap String DdnsSecretColumns :=
  migrateTable io (fun _ => true) (ddnsChange crypto io) table

def migrateSettingSecrets (io : Io) (table : HashMap String String) :
    Except String ℕ × HashMap String String :=
  migrateTable io (fun _ => true) (settingChange crypto io) table

def migrateTotpSecrets (io : Io) (table : HashMap String (Option String)) :
    Except String ℕ × HashMap String (Option String) :=
  migrateTable io totpSelected (totpChange crypto io) table

def migratePlaintextSecrets (ddnsIo settingIo totpIo : Io) (tables : Tables) :
    Except String ℕ × Tables :=
  let ddns := migrateDdnsSecrets crypto ddnsIo tables.ddnsConfigs
  let tables := { tables with ddnsConfigs := ddns.2 }
  match ddns.1 with
  | .error e => (.error e, tables)
  | .ok ddnsChanged =>
    let settings := migrateSettingSecrets crypto settingIo tables.systemSettings
    let tables := { tables with systemSettings := settings.2 }
    match settings.1 with
    | .error e => (.error e, tables)
    | .ok settingsChanged =>
      let totp := migrateTotpSecrets crypto totpIo tables.users
      (totp.1.map (ddnsChanged + settingsChanged + ·), { tables with users := totp.2 })

end

/-! ## Reading a secret back -/

theorem isEncryptedSecret_append (payload : String) :
    isEncryptedSecret (secretPrefix ++ payload) = true := by
  rw [isEncryptedSecret, Text.startsWith_iff, String.toList_append]
  exact prefix_append _ _

variable {value : String} {crypto : Option Aead}

theorem isEncryptedSecret_of_encryptSecret (crypto : Option Aead) {nonce : Option Nonce}
    {encrypted : String} (h : encryptSecret crypto nonce value = .ok encrypted) :
    isEncryptedSecret encrypted = true := by
  simp only [encryptSecret, encrypt, bind_eq_ok, pure_eq_ok] at h
  obtain ⟨aead, -, -, -, nonce, -, rfl⟩ := h
  exact isEncryptedSecret_append _

theorem encryptOptionalSecret_idem {crypto' : Option Aead} {nonce nonce' : Option Nonce}
    {value stored : Option String} (h : encryptOptionalSecret crypto nonce value = .ok stored) :
    encryptOptionalSecret crypto' nonce' stored = .ok stored := by
  cases value with
  | none => rw [← Except.ok.inj h, encryptOptionalSecret]
  | some =>
    rw [encryptOptionalSecret] at h
    split_ifs at h with hkept
    · rw [← Except.ok.inj h, encryptOptionalSecret, if_pos hkept]
    · obtain ⟨encrypted, hencrypted, rfl⟩ := map_eq_ok.mp h
      rw [encryptOptionalSecret, if_pos (.inr (isEncryptedSecret_of_encryptSecret _ hencrypted))]

theorem decryptSecretIfNeeded_of_encrypted {aead : Aead} (h : isEncryptedSecret value = true) :
    decryptSecretIfNeeded (some aead) value = decrypt aead value := by
  simp only [decryptSecretIfNeeded, h, if_true]
  exact pure_bind aead fun aead => decrypt aead value

theorem fromUTF8?_bytes (s : String) : String.fromUTF8? (bytes s).toByteArray = some s := by
  rw [Text.toByteArray_bytes, String.fromUTF8?, dif_pos s.isValidUTF8]
  rfl

theorem decrypt_encrypt {aead : Aead} {nonce : Nonce} (hopen : aead.openInPlace (ofFn nonce)
      (aead.sealInPlace (ofFn nonce) (bytes value)) = some (bytes value))
    (hsize : len value ≤ maxSecretPlaintextBytes) :
    encrypt aead (some nonce) value >>= decrypt aead = .ok value := by
  have hciphertext : len (hexEncode (aead.sealInPlace (ofFn nonce) (bytes value))) =
      2 * (len value + tagLen) := by
    rw [len_hexEncode, aead.length_seal, Text.length_bytes]
  have hnonce : len (hexEncode (ofFn nonce)) = nonceHexLen := by
    rw [len_hexEncode, length_ofFn]
    rfl
  have hsplit : Text.splitOnce (hexEncode (ofFn nonce) ++ ":" ++
      hexEncode (aead.sealInPlace (ofFn nonce) (bytes value))) ':' =
        some (hexEncode (ofFn nonce),
          hexEncode (aead.sealInPlace (ofFn nonce) (bytes value))) := by
    refine Text.splitOnce_eq_some.mpr ⟨?_, fun hcolon => ?_⟩
    · rw [String.toList_append, String.toList_append, append_assoc]
      rfl
    · exact absurd (mem_hexEncode hcolon).2 (by decide)
  unfold maxSecretPlaintextBytes at hsize
  refine bind_eq_ok.mpr ⟨_, bind_eq_ok.mpr ⟨(), ensure_eq_ok.mpr ?_, rfl⟩, ?_⟩
  · rw [Bool.not_eq_true', decide_eq_false_iff_not]
    exact not_lt.mpr hsize
  refine bind_eq_ok.mpr ⟨(), ensure_eq_ok.mpr ?_, bind_eq_ok.mpr ⟨_, require_eq_ok.mpr
    (Text.stripPrefix_append _ _), bind_eq_ok.mpr ⟨_, require_eq_ok.mpr hsplit, ?_⟩⟩⟩
  · rw [Bool.not_eq_true', decide_eq_false_iff_not, len_append, len_append, len_append, hnonce,
      hciphertext]
    have hcolon : len ":" = 1 := rfl
    simp only [maxEncryptedSecretBytes, maxCiphertextHexLen, maxSecretPlaintextBytes, hcolon]
    omega
  refine bind_eq_ok.mpr ⟨(), ensure_eq_ok.mpr (beq_iff_eq.mpr hnonce), bind_eq_ok.mpr ⟨(),
    ensure_eq_ok.mpr ?_, ?_⟩⟩
  · simp only [hciphertext, minCiphertextHexLen, maxCiphertextHexLen, maxSecretPlaintextBytes]
    simp only [Bool.not_eq_true', Bool.or_eq_false_iff, decide_eq_false_iff_not,
      bne_eq_false_iff_eq]
    omega
  refine bind_eq_ok.mpr ⟨_, require_eq_ok.mpr (hexDecode_hexEncode _), bind_eq_ok.mpr ⟨_,
    require_eq_ok.mpr (hexDecode_hexEncode _), bind_eq_ok.mpr ⟨_, require_eq_ok.mpr hopen, ?_⟩⟩⟩
  exact require_eq_ok.mpr (fromUTF8?_bytes value)

theorem length_hexDecode {l : List Char} {decoded : List UInt8} (h : hexDecode l = some decoded) :
    l.length = 2 * decoded.length := by
  fun_induction hexDecode l generalizing decoded with
  | case1 =>
    rw [← some.inj h]
    rfl
  | case2 => cases h
  | case3 a b l ih =>
    simp only [bind_eq_bind, bind_eq_some_iff, some.injEq] at h
    obtain ⟨high, -, low, -, rest, hrest, rfl⟩ := h
    have hlength := ih hrest
    simp only [length_cons]
    omega

theorem length_toList_le (s : String) : s.toList.length ≤ len s := by
  rw [← Text.length_bytes, bytes, length_flatMap]
  refine (length_map _).symm.le.trans (length_le_sum_of_one_le _ fun n hn => ?_)
  obtain ⟨c, -, rfl⟩ := List.mem_map.mp hn
  rw [String.length_utf8EncodeChar]
  exact c.utf8Size_pos

theorem decrypt_ne_self (aead : Aead) (value : String) : decrypt aead value ≠ .ok value := by
  intro h
  simp only [decrypt, bind_eq_ok, require_eq_ok, Prod.exists] at h
  obtain ⟨-, -, payload, hpayload, nonceHex, ciphertextHex, hsplit, -, -, -, -, nonce, -,
    ciphertext, hciphertext, plaintext, hopen, hutf8⟩ := h
  have hlong : 2 * ciphertext.length ≤ value.toList.length := by
    rw [Text.stripPrefix_eq_some.mp hpayload, String.toList_append,
      (Text.splitOnce_eq_some.mp hsplit).1, ← length_hexDecode hciphertext]
    simp only [length_append, length_cons]
    omega
  have hshort : plaintext.length = len value := by
    unfold String.fromUTF8? at hutf8
    split_ifs at hutf8
    rw [← some.inj hutf8]
    exact (size_toByteArray).symm
  have hle := length_toList_le value
  have htag := aead.length_open _ _ _ hopen
  have hpos : 0 < tagLen := by decide
  omega

/-! ## The migration has nothing left to do -/

section Migration

variable {V : Type} {io : Io} {change : String → V → Except String (Option V)}

variable {table : HashMap String V} {n : ℕ}

theorem migrateEach_of_unchanged {rows : List (Σ _ : String, V)}
    (h : ∀ row ∈ rows, change row.1 row.2 = .ok none) :
    migrateEach io change rows table = (.ok 0, table) := by
  induction rows with
  | nil => rfl
  | cons row rows ih =>
    rw [migrateEach, h row mem_cons_self]
    exact ih fun row hrow => h row (mem_cons_of_mem _ hrow)

theorem settled_of_migrateEach (Settled : String → V → Prop) (hsettled : ∀ key value changed, change
      key value = .ok changed → Settled key (changed.getD value)) {rows : List (Σ _ : String, V)}
      (hrows : ∀ key value, table.lookup key = some value → Settled key value ∨ (⟨key, value⟩ : Σ _
      : String, V) ∈ rows) (hok : (migrateEach io change rows table).1 = .ok n) {key : String}
    {value : V} (hvalue : (migrateEach io change rows table).2.lookup key = some value) :
    Settled key value := by
  induction rows generalizing table n with
  | nil => exact (hrows key value hvalue).resolve_right not_mem_nil
  | cons row rows ih =>
    unfold migrateEach at hok hvalue
    cases hchange : change row.1 row.2 with
    | error =>
      rw [hchange] at hok
      cases hok
    | ok changed =>
      have hrow := hsettled _ _ _ hchange
      rw [hchange] at hok hvalue
      cases changed with
      | none =>
        refine ih (fun key value h => (hrows key value h).elim .inl fun hmem => ?_) hok hvalue
        rcases mem_cons.mp hmem with rfl | hmem
        · exact .inl hrow
        · exact .inr hmem
      | some =>
        cases hupdate : io.updateError row.1 with
        | some =>
          simp only [hupdate] at hok
          cases hok
        | none =>
          simp only [hupdate] at hok hvalue
          obtain ⟨m, hm, -⟩ := map_eq_ok.mp hok
          refine ih (fun key value h => ?_) hm hvalue
          rw [AList.lookup_insert_eq] at h
          split_ifs at h with hkey
          · rw [hkey, ← some.inj h]
            exact .inl hrow
          · refine (hrows key value h).imp_right fun hmem => ?_
            refine (mem_cons.mp hmem).resolve_left ?_
            rintro rfl
            exact hkey rfl

theorem migrateTable_again (changeBy : Io → String → V → Except String (Option V))
    {selected : V → Bool} (hagain : ∀ io io' key value changed, changeBy io key value = .ok changed
      → changeBy io' key (changed.getD value) = .ok none)
    (hok : (migrateTable io selected (changeBy io) table).1 = .ok n) (io' : Io) :
    let again := migrateTable io' selected (changeBy io')
      (migrateTable io selected (changeBy io) table).2
    again.2 = (migrateTable io selected (changeBy io) table).2 ∧
      (io'.fetchError = none → again.1 = .ok 0) := by
  unfold migrateTable at hok ⊢
  cases hfetch : io.fetchError with
  | some =>
    simp only [hfetch] at hok
    cases hok
  | none =>
    simp only [hfetch] at hok ⊢
    cases io'.fetchError with
    | some => exact ⟨rfl, fun h => absurd h (Option.some_ne_none _)⟩
    | none =>
      simp only
      rw [migrateEach_of_unchanged fun row hrow => ?_]
      · exact ⟨rfl, fun _ => rfl⟩
      · obtain ⟨hmem, hselected⟩ := mem_filter.mp hrow
        refine settled_of_migrateEach (fun key value => selected value = true →
          changeBy io' key value = .ok none) (fun key value changed h _ => hagain _ _ _ _ _ h)
          (fun key value h => ?_) hok (AList.mem_lookup_iff.mpr hmem) hselected
        cases hselected : selected value with
        | false => exact .inl fun h => absurd h Bool.false_ne_true
        | true => exact .inr (mem_filter.mpr ⟨AList.mem_lookup_iff.mp h, hselected⟩)

end Migration

section Changes

variable {crypto : Option Aead} {io io' : Io} {key : String}

variable {current : DdnsSecretColumns}

theorem encrypted_idem {random random' : String → Option Nonce} {stored : DdnsSecretColumns}
    (h : current.encrypted crypto random = .ok stored) :
    stored.encrypted crypto random' = .ok stored := by
  simp only [DdnsSecretColumns.encrypted, bind_eq_ok, pure_eq_ok] at h
  obtain ⟨apiToken, htoken, apiKey, hkey, apiSecret, hsecret, webhookUrl, hurl, rfl⟩ := h
  simp only [DdnsSecretColumns.encrypted, encryptOptionalSecret_idem htoken,
    encryptOptionalSecret_idem hkey, encryptOptionalSecret_idem hsecret,
    encryptOptionalSecret_idem hurl]
  rfl

theorem ddnsChange_again {changed : Option DdnsSecretColumns}
    (h : ddnsChange crypto io key current = .ok changed) :
    ddnsChange crypto io' key (changed.getD current) = .ok none := by
  obtain ⟨encrypted, hencrypted, hchanged⟩ := bind_eq_ok.mp h
  have hvalue : changed.getD current = encrypted := by
    rw [← pure_eq_ok.mp hchanged]
    split_ifs with hne
    · rfl
    · exact (not_not.mp hne).symm
  rw [hvalue, ddnsChange, encrypted_idem hencrypted]
  exact congrArg Except.ok (if_neg fun hne => hne rfl)

theorem settingChange_again {valueJson : String} {changed : Option String}
    (h : settingChange crypto io key valueJson = .ok changed) :
    settingChange crypto io' key (changed.getD valueJson) = .ok none := by
  unfold settingChange at h ⊢
  by_cases hkey : key ∉ secretKeys
  · exact if_pos hkey
  rw [if_neg hkey] at h ⊢
  split at h
  · rename_i hparse
    rw [← Except.ok.inj h, getD_none, hparse]
  · rename_i value hparse
    split_ifs at h with hkept
    · rw [← Except.ok.inj h, getD_none, hparse]
      exact if_pos hkept
    · obtain ⟨encrypted, hencrypted, rfl⟩ := map_eq_ok.mp h
      rw [getD_some]
      cases hparse : parseMigratableSecretSetting (stringJson encrypted) with
      | none => rfl
      | some =>
        unfold parseMigratableSecretSetting at hparse
        split_ifs at hparse
        rw [JsonLex.readString_stringJson] at hparse
        rw [← some.inj (filter_eq_some_iff.mp hparse).1]
        exact if_pos (.inr (isEncryptedSecret_of_encryptSecret _ hencrypted))

theorem totpChange_again {secret : Option String} {changed : Option (Option String)}
    (h : totpChange crypto io key secret = .ok changed) :
    totpChange crypto io' key (changed.getD secret) = .ok none := by
  cases secret with
  | none =>
    rw [← Except.ok.inj h]
    rfl
  | some =>
    rw [totpChange] at h
    split_ifs at h with hencrypted
    · rw [← Except.ok.inj h]
      exact if_pos hencrypted
    · obtain ⟨encrypted, hok, rfl⟩ := map_eq_ok.mp h
      exact if_pos (isEncryptedSecret_of_encryptSecret _ hok)

end Changes

theorem migratePlaintextSecrets_again {ddnsIo settingIo totpIo : Io} {tables tables' : Tables}
    {n : ℕ} (h : migratePlaintextSecrets crypto ddnsIo settingIo totpIo tables = (.ok n, tables'))
    (ddnsIo' settingIo' totpIo' : Io) :
    let again := migratePlaintextSecrets crypto ddnsIo' settingIo' totpIo' tables'
    again.2 = tables' ∧ (ddnsIo'.fetchError = none → settingIo'.fetchError = none →
      totpIo'.fetchError = none → again.1 = .ok 0) := by
  unfold migratePlaintextSecrets at h ⊢
  cases hddns : (migrateDdnsSecrets crypto ddnsIo tables.ddnsConfigs).1 with
  | error =>
    simp only [hddns] at h
    cases h
  | ok =>
    simp only [hddns] at h
    cases hsettings : (migrateSettingSecrets crypto settingIo tables.systemSettings).1 with
    | error =>
      simp only [hsettings] at h
      cases h
    | ok =>
      simp only [hsettings] at h
      obtain ⟨htotp, rfl⟩ := Prod.mk.inj h
      obtain ⟨totpChanged, htotp, -⟩ := map_eq_ok.mp htotp
      have hagain₁ := migrateTable_again (ddnsChange crypto)
        (fun _ _ _ _ _ h => ddnsChange_again h) hddns ddnsIo'
      have hagain₂ := migrateTable_again (settingChange crypto)
        (fun _ _ _ _ _ h => settingChange_again h) hsettings settingIo'
      have hagain₃ := migrateTable_again (totpChange crypto)
        (fun _ _ _ _ _ h => totpChange_again h) htotp totpIo'
      simp only [migrateDdnsSecrets, migrateSettingSecrets, migrateTotpSecrets] at *
      rw [hagain₁.1]
      split
      · rename_i e he
        refine ⟨rfl, fun hfetch => ?_⟩
        cases he.symm.trans (hagain₁.2 hfetch)
      · rename_i a ha
        rw [hagain₂.1]
        split
        · rename_i e he
          refine ⟨rfl, fun _ hfetch => ?_⟩
          cases he.symm.trans (hagain₂.2 hfetch)
        · rename_i b hb
          refine ⟨by rw [hagain₃.1], fun hfetch₁ hfetch₂ hfetch₃ => ?_⟩
          cases ha.symm.trans (hagain₁.2 hfetch₁)
          cases hb.symm.trans (hagain₂.2 hfetch₂)
          rw [hagain₃.2 hfetch₃]
          rfl

/-- A secret within the limit is read back, an encrypted column is not encrypted again and a
second migration changes nothing, exactly when the secret does not begin as encrypted ones do. -/
theorem secrets_round_trip_iff (aead : Aead) (nonce : Nonce) (value : Option String)
    (hsize : ∀ s ∈ value, len s ≤ maxSecretPlaintextBytes)
    (hopen : ∀ s ∈ value, aead.openInPlace (ofFn nonce)
      (aead.sealInPlace (ofFn nonce) (bytes s)) = some (bytes s)) :
    (encryptOptionalSecret (some aead) (some nonce) value >>= decryptOptionalSecret (some aead) =
        .ok value ∧
      (∀ stored nonce', encryptOptionalSecret (some aead) (some nonce) value = .ok stored →
        encryptOptionalSecret (some aead) nonce' stored = .ok stored) ∧
      ∀ ddnsIo settingIo totpIo tables n tables', migratePlaintextSecrets (some aead)
          ddnsIo settingIo totpIo tables = (.ok n, tables') →
        ∀ ddnsIo' settingIo' totpIo',
          let again := migratePlaintextSecrets (some aead) ddnsIo' settingIo' totpIo' tables'
          again.2 = tables' ∧ (ddnsIo'.fetchError = none → settingIo'.fetchError = none →
            totpIo'.fetchError = none → again.1 = .ok 0)) ↔
      ∀ s ∈ value, isEncryptedSecret s = false := by
  rw [and_iff_left ⟨fun _ _ h => encryptOptionalSecret_idem h, fun _ _ _ _ _ _ h =>
    migratePlaintextSecrets_again h⟩]
  cases value with
  | none => exact ⟨fun _ _ h => (nomatch h), fun _ => rfl⟩
  | some s =>
    have hs := hsize s rfl
    constructor
    · intro h s' hs'
      obtain rfl := some.inj hs'
      rw [Bool.eq_false_iff]
      intro hencrypted
      rw [encryptOptionalSecret, if_pos (.inr hencrypted)] at h
      obtain ⟨decrypted, hdecrypted, heq⟩ := map_eq_ok.mp h
      obtain rfl := some.inj heq
      rw [decryptSecretIfNeeded_of_encrypted hencrypted] at hdecrypted
      exact decrypt_ne_self aead _ hdecrypted
    · intro h
      have hplain : isEncryptedSecret s = false := h s rfl
      rw [encryptOptionalSecret]
      split_ifs with hkept
      · have hread : decryptSecretIfNeeded (some aead) s = .ok s := by
          rw [decryptSecretIfNeeded, hplain, if_neg Bool.false_ne_true, if_neg (not_lt.mpr hs)]
        exact map_eq_ok.mpr ⟨s, hread, rfl⟩
      · obtain ⟨encrypted, hencrypted, hdecrypted⟩ :=
          bind_eq_ok.mp (decrypt_encrypt (hopen s rfl) hs)
        have hmarked := isEncryptedSecret_of_encryptSecret (some aead) hencrypted
        refine bind_eq_ok.mpr ⟨some encrypted, map_eq_ok.mpr ⟨encrypted, hencrypted, rfl⟩,
          map_eq_ok.mpr ⟨s, ?_, rfl⟩⟩
        exact (decryptSecretIfNeeded_of_encrypted hmarked).trans hdecrypted

namespace Sample

def nonce : Nonce := fun i => UInt8.ofNat i.1

def sealedValue : List UInt8 :=
  [62, 60, 107, 140, 38, 82, 25, 162, 125, 62, 247, 151, 194, 138, 79, 8, 28, 94, 142, 211, 28, 35,
    204, 233, 156, 135, 190, 37]

def aead : Aead where
  sealInPlace n p := if p = bytes "secret-value" ∧ n = ofFn nonce then sealedValue
    else p ++ replicate tagLen 0
  openInPlace n c := if c = sealedValue ∧ n = ofFn nonce then some (bytes "secret-value")
    else none
  length_seal n p := by
    split_ifs with h
    · rw [h.1]
      decide
    · simp
  length_open n c p h := by
    split_ifs at h with hc
    rw [hc.1, ← some.inj h]
    decide

end Sample

theorem secrets_round_trip_sample :
    encryptOptionalSecret (some Sample.aead) (some Sample.nonce) (some "secret-value") >>=
      decryptOptionalSecret (some Sample.aead) = .ok (some "secret-value") :=
  ((secrets_round_trip_iff Sample.aead Sample.nonce (some "secret-value")
    (fun s hs => by obtain rfl := some.inj hs; decide)
    (fun s hs => by obtain rfl := some.inj hs; decide)).mpr
    (fun s hs => by obtain rfl := some.inj hs; decide)).1

theorem marked_secret_is_lost :
    encryptOptionalSecret (some Sample.aead) (some Sample.nonce) (some "xlsec:v1:token") =
        .ok (some "xlsec:v1:token") ∧
      decryptOptionalSecret (some Sample.aead) (some "xlsec:v1:token") =
        .error "encrypted secret payload is malformed" := by
  constructor <;> rfl

end XLStatus.Secrets
