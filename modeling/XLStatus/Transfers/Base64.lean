import XLStatus.Lib.Checked
import XLStatus.Lib.Text

/-! The agent's base64 encoder and the server's decoder. -/

namespace XLStatus.Transfers

open Checked List Text String

def base64Alphabet : List Char :=
  "ABCDEFGHIJKLMNOPQRSTUVWXYZabcdefghijklmnopqrstuvwxyz0123456789+/".toList

def base64Char (n shift : UInt32) : Char :=
  base64Alphabet.getD ((n >>> shift) &&& 0x3f).toNat '='

def base64Chars : List UInt8 → List Char
  | a :: b :: c :: rest =>
    let n := (a.toUInt32 <<< 16) ||| (b.toUInt32 <<< 8) ||| c.toUInt32
    base64Char n 18 :: base64Char n 12 :: base64Char n 6 :: base64Char n 0 :: base64Chars rest
  | [a, b] =>
    let n := (a.toUInt32 <<< 16) ||| (b.toUInt32 <<< 8)
    [base64Char n 18, base64Char n 12, base64Char n 6, '=']
  | [a] =>
    let n := a.toUInt32 <<< 16
    [base64Char n 18, base64Char n 12, '=', '=']
  | [] => []

def base64Encode (data : List UInt8) : String := ofList (base64Chars data)

def base64EncodedLen (decodedLen : ℕ) : ℕ :=
  decodedLen / 3 * 4 + if decodedLen % 3 = 0 then 0 else 4

def base64Value (b : UInt8) : Except String (UInt8 × ℕ) :=
  if 0x41 ≤ b ∧ b ≤ 0x5a then .ok (b - 0x41, 0)
  else if 0x61 ≤ b ∧ b ≤ 0x7a then .ok (b - 0x61 + 26, 0)
  else if 0x30 ≤ b ∧ b ≤ 0x39 then .ok (b - 0x30 + 52, 0)
  else if b = 0x2b then .ok (62, 0)
  else if b = 0x2f then .ok (63, 0)
  else if b = 0x3d then .ok (0, 1)
  else .error ("invalid base64 byte: " ++ toString b)

def base64Bytes (v₀ v₁ v₂ v₃ : UInt8) (padding : ℕ) : List UInt8 :=
  let n := (v₀.toUInt32 <<< 18) ||| (v₁.toUInt32 <<< 12) ||| (v₂.toUInt32 <<< 6) ||| v₃.toUInt32
  ((n >>> 16) &&& 0xff).toUInt8 ::
    ((if padding < 2 then [((n >>> 8) &&& 0xff).toUInt8] else []) ++
      (if padding < 1 then [(n &&& 0xff).toUInt8] else []))

def base64DecodeChunks : List UInt8 → Except String (List UInt8)
  | a :: b :: c :: d :: rest => do
    let (v₀, p₀) ← base64Value a
    let (v₁, p₁) ← base64Value b
    let (v₂, p₂) ← base64Value c
    let (v₃, p₃) ← base64Value d
    let out ← base64DecodeChunks rest
    return base64Bytes v₀ v₁ v₂ v₃ (p₀ + p₁ + p₂ + p₃) ++ out
  | _ => .ok []

def base64Decode (input : String) : Except String (List UInt8) :=
  if len input % 4 ≠ 0 then .error "length is not a multiple of 4"
  else base64DecodeChunks (Text.bytes input)

def base64Byte (c : Char) : UInt8 := c.val.toUInt8

theorem base64Alphabet_spec : ∀ i : Fin 64,
    utf8EncodeChar (base64Alphabet.getD i '=') = [base64Byte (base64Alphabet.getD i '=')] ∧
      base64Value (base64Byte (base64Alphabet.getD i '=')) = .ok (UInt8.ofNat i, 0) ∧
      isWhitespace (base64Alphabet.getD i '=') = false := by
  decide +kernel

theorem shiftLeft_or {a b i : ℕ} (h : b < 2 ^ i) : a <<< i ||| b = a * 2 ^ i + b := by
  rw [← Nat.shiftLeft_add_eq_or_of_lt h, Nat.shiftLeft_eq]

variable {i n : UInt32} {v₁ v₂ v₃ : UInt8}

theorem toNat_shiftLeft {a : UInt8} (h : i.toNat ≤ 18) :
    (a.toUInt32 <<< i).toNat = a.toNat <<< i.toNat := by
  have ha := a.toNat_lt
  have hi : i.toNat % 32 = i.toNat := Nat.mod_eq_of_lt (by omega)
  have hpow : 2 ^ i.toNat ≤ 2 ^ 18 := Nat.pow_le_pow_right (by decide) h
  rw [UInt32.toNat_shiftLeft, UInt8.toNat_toUInt32, hi]
  refine Nat.mod_eq_of_lt ?_
  rw [Nat.shiftLeft_eq]
  nlinarith

theorem toNat_octets (a b c : UInt8) :
    ((a.toUInt32 <<< 16) ||| (b.toUInt32 <<< 8) ||| c.toUInt32).toNat =
      a.toNat * 65536 + b.toNat * 256 + c.toNat := by
  have hb := b.toNat_lt
  have hc := c.toNat_lt
  rw [UInt32.toNat_or, UInt32.toNat_or, toNat_shiftLeft (by decide), toNat_shiftLeft (by decide),
    UInt8.toNat_toUInt32, Nat.or_assoc]
  have hlow : b.toNat <<< 8 ||| c.toNat = b.toNat * 2 ^ 8 + c.toNat := shiftLeft_or hc
  have hhigh : a.toNat <<< 16 ||| (b.toNat * 2 ^ 8 + c.toNat) =
      a.toNat * 2 ^ 16 + (b.toNat * 2 ^ 8 + c.toNat) := shiftLeft_or (by omega)
  change a.toNat <<< 16 ||| (b.toNat <<< 8 ||| c.toNat) = _
  rw [hlow, hhigh]
  omega

theorem toNat_sextets (v₀ : UInt8) (h₁ : v₁.toNat < 64) (h₂ : v₂.toNat < 64) (h₃ : v₃.toNat < 64) :
    ((v₀.toUInt32 <<< 18) ||| (v₁.toUInt32 <<< 12) ||| (v₂.toUInt32 <<< 6) |||
      v₃.toUInt32).toNat = v₀.toNat * 262144 + v₁.toNat * 4096 + v₂.toNat * 64 + v₃.toNat := by
  rw [UInt32.toNat_or, UInt32.toNat_or, UInt32.toNat_or, toNat_shiftLeft (by decide),
    toNat_shiftLeft (by decide), toNat_shiftLeft (by decide), UInt8.toNat_toUInt32,
    Nat.or_assoc, Nat.or_assoc]
  have hlow : v₂.toNat <<< 6 ||| v₃.toNat = v₂.toNat * 2 ^ 6 + v₃.toNat := shiftLeft_or h₃
  have hmid : v₁.toNat <<< 12 ||| (v₂.toNat * 2 ^ 6 + v₃.toNat) =
      v₁.toNat * 2 ^ 12 + (v₂.toNat * 2 ^ 6 + v₃.toNat) := shiftLeft_or (by omega)
  have hhigh : v₀.toNat <<< 18 ||| (v₁.toNat * 2 ^ 12 + (v₂.toNat * 2 ^ 6 + v₃.toNat)) =
      v₀.toNat * 2 ^ 18 + (v₁.toNat * 2 ^ 12 + (v₂.toNat * 2 ^ 6 + v₃.toNat)) :=
    shiftLeft_or (by omega)
  change v₀.toNat <<< 18 ||| (v₁.toNat <<< 12 ||| (v₂.toNat <<< 6 ||| v₃.toNat)) = _
  rw [hlow, hmid, hhigh]
  omega

theorem toNat_field {mask : UInt32} {width : ℕ} (hi : i.toNat ≤ 18)
    (hmask : mask.toNat = 2 ^ width - 1) :
    ((n >>> i) &&& mask).toNat = n.toNat / 2 ^ i.toNat % 2 ^ width := by
  have hmod : i.toNat % 32 = i.toNat := Nat.mod_eq_of_lt (by omega)
  rw [UInt32.toNat_and, UInt32.toNat_shiftRight, hmod, Nat.shiftRight_eq_div_pow, hmask,
    Nat.and_two_pow_sub_one_eq_mod]

theorem toUInt8_octet (h : i.toNat ≤ 18) :
    ((n >>> i) &&& 0xff).toUInt8 = UInt8.ofNat (n.toNat / 2 ^ i.toNat % 256) := by
  have hfield : ((n >>> i) &&& 0xff).toNat = n.toNat / 2 ^ i.toNat % 2 ^ 8 := toNat_field h rfl
  rw [← UInt8.toNat_inj, UInt32.toNat_toUInt8, hfield, UInt8.toNat_ofNat']
  rfl

theorem toUInt8_low (n : UInt32) : (n &&& 0xff).toUInt8 = UInt8.ofNat (n.toNat % 256) := by
  have hoctet := toUInt8_octet (n := n) (i := 0) (by decide)
  simpa using hoctet

theorem base64Char_spec (n : UInt32) (h : i.toNat ≤ 18) :
    utf8EncodeChar (base64Char n i) = [base64Byte (base64Char n i)] ∧
      base64Value (base64Byte (base64Char n i)) =
        .ok (UInt8.ofNat (n.toNat / 2 ^ i.toNat % 64), 0) ∧
      isWhitespace (base64Char n i) = false := by
  have hlt : n.toNat / 2 ^ i.toNat % 64 < 64 := Nat.mod_lt _ (by decide)
  have hchar : base64Char n i = base64Alphabet.getD (n.toNat / 2 ^ i.toNat % 64) '=' := by
    have hfield : ((n >>> i) &&& 0x3f).toNat = n.toNat / 2 ^ i.toNat % 2 ^ 6 := toNat_field h rfl
    rw [base64Char, hfield]
    rfl
  rw [hchar]
  exact base64Alphabet_spec ⟨_, hlt⟩

theorem base64Chars_single (data : List UInt8) : ∀ c ∈ base64Chars data,
    utf8EncodeChar c = [base64Byte c] ∧ isWhitespace c = false := by
  have hchar : ∀ (n : UInt32) {i : UInt32}, i.toNat ≤ 18 →
      utf8EncodeChar (base64Char n i) = [base64Byte (base64Char n i)] ∧
        isWhitespace (base64Char n i) = false :=
    fun n _ h => ⟨(base64Char_spec n h).1, (base64Char_spec n h).2.2⟩
  have hpad : utf8EncodeChar '=' = [base64Byte '='] ∧ isWhitespace '=' = false := by
    decide
  fun_induction base64Chars data with
  | case1 a b c rest n ih =>
    simp only [forall_mem_cons]
    exact ⟨hchar n (by decide), hchar n (by decide), hchar n (by decide), hchar n (by decide), ih⟩
  | case2 a b n =>
    simp only [forall_mem_cons]
    exact ⟨hchar n (by decide), hchar n (by decide), hchar n (by decide), hpad, by simp⟩
  | case3 a n =>
    simp only [forall_mem_cons]
    exact ⟨hchar n (by decide), hchar n (by decide), hpad, hpad, by simp⟩
  | case4 => simp

theorem length_base64Chars (data : List UInt8) :
    (base64Chars data).length = base64EncodedLen data.length := by
  fun_induction base64Chars data with
  | case1 a b c rest n ih =>
    simp only [length_cons, ih, base64EncodedLen]
    split_ifs <;> omega
  | case2 => simp [base64EncodedLen]
  | case3 => simp [base64EncodedLen]
  | case4 => rfl

theorem bytes_base64Encode (data : List UInt8) :
    Text.bytes (base64Encode data) = (base64Chars data).map base64Byte := by
  rw [Text.bytes, base64Encode, toList_ofList, map_eq_flatMap]
  exact flatMap_congr fun c hc => (base64Chars_single data c hc).1

theorem len_base64Encode (data : List UInt8) :
    len (base64Encode data) = base64EncodedLen data.length := by
  rw [← length_bytes, bytes_base64Encode, List.length_map, length_base64Chars]

theorem trim_base64Encode (data : List UInt8) :
    Text.trim (base64Encode data) = base64Encode data := by
  refine trim_of_forall fun c hc => ?_
  rw [base64Encode, toList_ofList] at hc
  exact (base64Chars_single data c hc).2

def octets (n padding : ℕ) : List UInt8 :=
  UInt8.ofNat (n / 65536) :: ((if padding < 2 then [UInt8.ofNat (n / 256 % 256)] else []) ++
    (if padding < 1 then [UInt8.ofNat (n % 256)] else []))

theorem base64Bytes_eq {v₀ : UInt8} (h₀ : v₀.toNat < 64) (h₁ : v₁.toNat < 64) (h₂ : v₂.toNat < 64)
    (h₃ : v₃.toNat < 64) (padding : ℕ) :
    base64Bytes v₀ v₁ v₂ v₃ padding =
      octets (v₀.toNat * 262144 + v₁.toNat * 4096 + v₂.toNat * 64 + v₃.toNat) padding := by
  have hn := toNat_sextets v₀ h₁ h₂ h₃
  unfold base64Bytes
  generalize (v₀.toUInt32 <<< 18) ||| (v₁.toUInt32 <<< 12) ||| (v₂.toUInt32 <<< 6) |||
    v₃.toUInt32 = n at hn
  have hhigh : n.toNat / 2 ^ 16 % 256 = n.toNat / 65536 := Nat.mod_eq_of_lt (by omega)
  simp only [toUInt8_octet (n := n) (i := 16) (by decide),
    toUInt8_octet (n := n) (i := 8) (by decide), toUInt8_low, octets, ← hn]
  rw [show (16 : UInt32).toNat = 16 from rfl, hhigh]
  rfl

theorem base64Bytes_sextets {n : ℕ} (hn : n < 2 ^ 24) (padding : ℕ) :
    base64Bytes (UInt8.ofNat (n / 2 ^ 18 % 64)) (UInt8.ofNat (n / 2 ^ 12 % 64))
        (UInt8.ofNat (n / 2 ^ 6 % 64)) (UInt8.ofNat (n / 2 ^ 0 % 64)) padding =
      octets n padding := by
  have hvalue : ∀ m, (UInt8.ofNat (m % 64)).toNat = m % 64 := by
    intro m
    rw [UInt8.toNat_ofNat', Nat.mod_eq_of_lt (by omega)]
  rw [base64Bytes_eq (by rw [hvalue]; omega) (by rw [hvalue]; omega) (by rw [hvalue]; omega)
    (by rw [hvalue]; omega), hvalue, hvalue, hvalue, hvalue]
  congr 1
  omega

theorem octets_eq (a b c : UInt8) (padding : ℕ) :
    octets (a.toNat * 65536 + b.toNat * 256 + c.toNat) padding =
      a :: ((if padding < 2 then [b] else []) ++ (if padding < 1 then [c] else [])) := by
  have ha := a.toNat_lt
  have hb := b.toNat_lt
  have hc := c.toNat_lt
  have h₀ : (a.toNat * 65536 + b.toNat * 256 + c.toNat) / 65536 = a.toNat := by omega
  have h₁ : (a.toNat * 65536 + b.toNat * 256 + c.toNat) / 256 % 256 = b.toNat := by omega
  have h₂ : (a.toNat * 65536 + b.toNat * 256 + c.toNat) % 256 = c.toNat := by omega
  rw [octets, h₀, h₁, h₂, UInt8.ofNat_toNat, UInt8.ofNat_toNat, UInt8.ofNat_toNat]

theorem base64Bytes_octets (a b c : UInt8)
    (hn : n.toNat = a.toNat * 65536 + b.toNat * 256 + c.toNat) (padding : ℕ) :
    base64Bytes (UInt8.ofNat (n.toNat / 2 ^ 18 % 64)) (UInt8.ofNat (n.toNat / 2 ^ 12 % 64))
        (UInt8.ofNat (n.toNat / 2 ^ 6 % 64)) (UInt8.ofNat (n.toNat / 2 ^ 0 % 64)) padding =
      a :: ((if padding < 2 then [b] else []) ++ (if padding < 1 then [c] else [])) := by
  have ha := a.toNat_lt
  have hb := b.toNat_lt
  have hc := c.toNat_lt
  rw [base64Bytes_sextets (by omega), hn, octets_eq]

theorem base64DecodeChunks_base64Chars (data : List UInt8) :
    base64DecodeChunks ((base64Chars data).map base64Byte) = .ok data := by
  have hchar : ∀ (n i : UInt32), i.toNat ≤ 18 →
      base64Value (base64Byte (base64Char n i)) =
        .ok (UInt8.ofNat (n.toNat / 2 ^ i.toNat % 64), 0) :=
    fun n _ h => (base64Char_spec n h).2.1
  have hpad : base64Value (base64Byte '=') = .ok (0, 1) := by decide
  fun_induction base64Chars data with
  | case1 a b c rest n ih =>
    have hn : n.toNat = a.toNat * 65536 + b.toNat * 256 + c.toNat := toNat_octets a b c
    simp only [map_cons, base64DecodeChunks, hchar n 18 (by decide), hchar n 12 (by decide),
      hchar n 6 (by decide), hchar n 0 (by decide), ih]
    exact congrArg (fun l => Except.ok (l ++ rest)) (base64Bytes_octets a b c hn 0)
  | case2 a b n =>
    have hn : n.toNat = a.toNat * 65536 + b.toNat * 256 + (0 : UInt8).toNat := by
      rw [← toNat_octets a b 0]
      simp [n]
    have hzero : (0 : UInt8) = UInt8.ofNat (n.toNat / 2 ^ 0 % 64) := by
      rw [show n.toNat / 2 ^ 0 % 64 = 0 by rw [hn, UInt8.toNat_zero]; omega]
      rfl
    simp only [map_cons, map_nil, base64DecodeChunks, hchar n 18 (by decide),
      hchar n 12 (by decide), hchar n 6 (by decide), hpad]
    rw [hzero]
    exact congrArg (fun l => Except.ok (l ++ [])) (base64Bytes_octets a b 0 hn 1)
  | case3 a n =>
    have hn : n.toNat = a.toNat * 65536 + (0 : UInt8).toNat * 256 + (0 : UInt8).toNat := by
      rw [← toNat_octets a 0 0]
      simp [n]
    have hzero : n.toNat / 2 ^ 0 % 64 = 0 ∧ n.toNat / 2 ^ 6 % 64 = 0 := by
      rw [hn, UInt8.toNat_zero]
      omega
    have hgroup := base64Bytes_octets a 0 0 hn 2
    rw [hzero.1, hzero.2] at hgroup
    simp only [map_cons, map_nil, base64DecodeChunks, hchar n 18 (by decide),
      hchar n 12 (by decide), hpad]
    exact congrArg (fun l => Except.ok (l ++ [])) hgroup
  | case4 => rfl

theorem base64Decode_base64Encode (data : List UInt8) :
    base64Decode (base64Encode data) = .ok data := by
  have hlen : len (base64Encode data) % 4 = 0 := by
    rw [len_base64Encode, base64EncodedLen]
    split_ifs <;> omega
  rw [base64Decode, if_neg (by simp [hlen]), bytes_base64Encode, base64DecodeChunks_base64Chars]

/-- A slice of bytes; none is longer than `isize::MAX`. -/
abbrev ByteSlice := { data : List UInt8 // data.length < 2 ^ 63 }

def saturating (n : ℕ) : ℕ := min n (2 ^ 64 - 1)

def saturatingEncodedLen (decodedLen : ℕ) : ℕ :=
  saturating (saturating (decodedLen / 3 * 4) + if decodedLen % 3 = 0 then 0 else 4)

theorem saturatingEncodedLen_eq {n : ℕ} (h : n < 2 ^ 63) :
    saturatingEncodedLen n = base64EncodedLen n := by
  have hfull : saturating (n / 3 * 4) = n / 3 * 4 := min_eq_left (by omega)
  rw [saturatingEncodedLen, hfull]
  refine min_eq_left ?_
  split_ifs <;> omega

/-- The server decodes what the agent encodes, and knows its length beforehand. -/
theorem agent_and_server_agree_on_base64 (b : ByteSlice) :
    base64Decode (base64Encode b.1) = .ok b.1 ∧
      len (base64Encode b.1) = saturatingEncodedLen b.1.length := by
  refine ⟨base64Decode_base64Encode b.1, ?_⟩
  rw [len_base64Encode, saturatingEncodedLen_eq b.2]

end XLStatus.Transfers
