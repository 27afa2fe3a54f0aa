import Mathlib.Data.Nat.Digits.Lemmas
import XLStatus.Auth.TotpDefs
import XLStatus.Transfers.Base64

/-! The base32 of TOTP secrets. Both loops shift a 32-bit buffer and take groups of bits off its
pending end; what they have read is a number of which the groups are the digits. -/

namespace XLStatus.Auth

open List String

open Transfers (toNat_field shiftLeft_or)

def base32Char (index : ℕ) : Char := Char.ofNat (base32Alphabet.getD index 0).toNat

def emitGroups (buffer : UInt32) (bitsLeft : ℕ) (out : List Char) : ℕ × List Char :=
  if 5 ≤ bitsLeft then
    let index := ((buffer >>> UInt32.ofNat (bitsLeft - 5)) &&& 0x1f).toNat
    emitGroups buffer (bitsLeft - 5) (out ++ [base32Char index])
  else (bitsLeft, out)

structure Base32Writer where
  buffer : UInt32
  bitsLeft : ℕ
  out : List Char

def base32Push (s : Base32Writer) (byte : UInt8) : Base32Writer :=
  let buffer := (s.buffer <<< 8) ||| byte.toUInt32
  let (bitsLeft, out) := emitGroups buffer (s.bitsLeft + 8) s.out
  ⟨buffer, bitsLeft, out⟩

def base32Encode (bytes : List UInt8) : String :=
  let s := bytes.foldl base32Push ⟨0, 0, []⟩
  ofList (if s.bitsLeft > 0 then
    s.out ++ [base32Char ((s.buffer <<< UInt32.ofNat (5 - s.bitsLeft)) &&& 0x1f).toNat]
  else s.out)

/-- A number of `len` bits: digits of `w` bits each, and the last `k` bits of the buffer. -/
structure Split (w n len : ℕ) (buffer : UInt32) (k : ℕ) (digits : List ℕ) : Prop where
  value : n = Nat.ofDigits (2 ^ w) digits.reverse * 2 ^ k + buffer.toNat % 2 ^ k
  length : len = w * digits.length + k
  lt : ∀ d ∈ digits, d < 2 ^ w

theorem ofDigits_concat (b : ℕ) (l : List ℕ) (d : ℕ) :
    Nat.ofDigits b (l ++ [d]).reverse = Nat.ofDigits b l.reverse * b + d := by
  rw [reverse_append, reverse_singleton, singleton_append, Nat.ofDigits_cons]
  ring

section Split

variable {w n len k : ℕ} {buffer : UInt32} {digits : List ℕ}

theorem split_start (w : ℕ) : Split w 0 0 0 0 [] := ⟨rfl, rfl, fun _ h => absurd h not_mem_nil⟩

theorem toNat_shiftLeft_or {m : ℕ} (hm : m < 32) {x : UInt32} (hx : x.toNat < 2 ^ m) :
    ((buffer <<< UInt32.ofNat m) ||| x).toNat = buffer.toNat % 2 ^ (32 - m) * 2 ^ m + x.toNat := by
  have hshift : (UInt32.ofNat m).toNat % 32 = m := by
    rw [UInt32.toNat_ofNat', Nat.mod_mod_of_dvd _ (by decide)]
    exact Nat.mod_eq_of_lt hm
  have hwrap : buffer.toNat <<< m % 2 ^ 32 = (buffer.toNat % 2 ^ (32 - m)) <<< m := by
    rw [Nat.shiftLeft_eq, Nat.shiftLeft_eq, ← Nat.mul_mod_mul_right, ← pow_add,
      Nat.sub_add_cancel hm.le]
  rw [UInt32.toNat_or, UInt32.toNat_shiftLeft, hshift, hwrap, shiftLeft_or hx]

theorem Split.push (h : Split w n len buffer k digits) {m : ℕ} (hm : m < 32) (hk : k + m ≤ 32)
    {x : UInt32} (hx : x.toNat < 2 ^ m) :
    Split w (n * 2 ^ m + x.toNat) (len + m) ((buffer <<< UInt32.ofNat m) ||| x) (k + m)
      digits := by
  have hpending : buffer.toNat % 2 ^ (32 - m) % 2 ^ k = buffer.toNat % 2 ^ k :=
    Nat.mod_mod_of_dvd _ (pow_dvd_pow 2 (by omega))
  have hshifted : (buffer.toNat % 2 ^ (32 - m) * 2 ^ m + x.toNat) / 2 ^ m =
      buffer.toNat % 2 ^ (32 - m) := by
    rw [Nat.add_comm, Nat.add_mul_div_right _ _ (Nat.two_pow_pos m), Nat.div_eq_of_lt hx,
      Nat.zero_add]
  refine ⟨?_, by rw [h.length, Nat.add_assoc], h.lt⟩
  rw [toNat_shiftLeft_or hm hx, pow_add, mul_comm (2 ^ k), Nat.mod_mul, hshifted, hpending,
    Nat.mul_add_mod', Nat.mod_eq_of_lt hx, h.value]
  ring

theorem Split.take (h : Split w n len buffer k digits) (hk : w ≤ k) :
    Split w n len buffer (k - w) (digits ++ [buffer.toNat / 2 ^ (k - w) % 2 ^ w]) := by
  obtain ⟨j, rfl⟩ := Nat.exists_eq_add_of_le' hk
  rw [Nat.add_sub_cancel]
  refine ⟨?_, ?_, fun d hd => ?_⟩
  · rw [h.value, ofDigits_concat, pow_add, Nat.mod_mul]
    ring
  · rw [h.length, List.length_append, List.length_singleton]
    ring
  · rcases mem_append.mp hd with hd | hd
    · exact h.lt d hd
    · rw [mem_singleton.mp hd]
      exact Nat.mod_lt _ (Nat.two_pow_pos w)

end Split

theorem emitGroups_split {n len : ℕ} {buffer : UInt32} {k : ℕ} (hk : k ≤ 12) {digits : List ℕ}
    (h : Split 5 n len buffer k digits) :
    ∃ j < 5, ∃ digits', emitGroups buffer k (digits.map base32Char) =
      (j, digits'.map base32Char) ∧ Split 5 n len buffer j digits' := by
  induction k using Nat.strongRecOn generalizing digits with
  | ind k ih =>
    unfold emitGroups
    split_ifs with hfull
    · have hbits : (UInt32.ofNat (k - 5)).toNat = k - 5 := by
        rw [UInt32.toNat_ofNat', Nat.mod_eq_of_lt (by omega)]
      have hindex : ((buffer >>> UInt32.ofNat (k - 5)) &&& 0x1f).toNat =
          buffer.toNat / 2 ^ (UInt32.ofNat (k - 5)).toNat % 2 ^ 5 := toNat_field (by omega) rfl
      obtain ⟨j, hj, digits', hemit, hsplit⟩ := ih (k - 5) (by omega) (by omega) (h.take hfull)
      refine ⟨j, hj, digits', ?_, hsplit⟩
      rw [hindex, hbits, ← hemit, map_append]
      rfl
    · exact ⟨k, not_le.mp hfull, digits, rfl, h⟩

theorem base32Push_split (bytes : List UInt8) :
    ∃ buffer, ∃ k < 5, ∃ digits, bytes.foldl base32Push ⟨0, 0, []⟩ =
        ⟨buffer, k, digits.map base32Char⟩ ∧
      Split 5 (Nat.ofDigits 256 (bytes.map UInt8.toNat).reverse) (8 * bytes.length) buffer k
        digits := by
  induction bytes using reverseRecOn with
  | nil => exact ⟨0, 0, by decide, [], rfl, split_start 5⟩
  | append_singleton bytes byte ih =>
    obtain ⟨buffer, k, hk, digits, hstate, hsplit⟩ := ih
    have hpush := hsplit.push (m := 8) (by decide) (by omega) (x := byte.toUInt32) byte.toNat_lt
    obtain ⟨j, hj, digits', hemit, hsplit'⟩ := emitGroups_split (by omega) hpush
    refine ⟨(buffer <<< UInt32.ofNat 8) ||| byte.toUInt32, j, hj, digits', ?_, ?_⟩
    · rw [foldl_concat, hstate, base32Push]
      simp only
      rw [show (8 : UInt32) = UInt32.ofNat 8 from rfl, hemit]
    · rw [map_append, map_singleton, ofDigits_concat, List.length_append, mul_add]
      exact hsplit'

theorem base32Encode_split (bytes : List UInt8) :
    ∃ pad < 5, ∃ digits : List ℕ, base32Encode bytes = ofList (digits.map base32Char) ∧
      (∀ d ∈ digits, d < 32) ∧ 5 * digits.length = 8 * bytes.length + pad ∧
      Nat.ofDigits 32 digits.reverse =
        Nat.ofDigits 256 (bytes.map UInt8.toNat).reverse * 2 ^ pad := by
  obtain ⟨buffer, k, hk, digits, hstate, hsplit⟩ := base32Push_split bytes
  unfold base32Encode
  rw [hstate]
  simp only
  split_ifs with hpending
  · have hpush := hsplit.push (m := 5 - k) (by omega) (by omega) (x := 0) (Nat.two_pow_pos _)
    rw [Nat.add_sub_cancel' hk.le, UInt32.or_zero] at hpush
    have htake := hpush.take le_rfl
    rw [Nat.sub_self, pow_zero, Nat.div_one] at htake
    refine ⟨5 - k, by omega, _, ?_, htake.lt, htake.length.symm, ?_⟩
    · rw [map_append, UInt32.toNat_and, show (0x1f : UInt32).toNat = 2 ^ 5 - 1 from rfl,
        Nat.and_two_pow_sub_one_eq_mod]
      rfl
    · have hvalue := htake.value
      rw [pow_zero, Nat.mod_one, mul_one, add_zero] at hvalue
      exact hvalue.symm
  · obtain rfl : k = 0 := Nat.eq_zero_of_not_pos hpending
    refine ⟨0, by decide, digits, rfl, hsplit.lt, hsplit.length.symm, ?_⟩
    have hvalue := hsplit.value
    rw [pow_zero, Nat.mod_one, mul_one, add_zero] at hvalue
    rw [pow_zero, mul_one, hvalue]
    rfl

theorem base32Alphabet_spec : ∀ i : Fin 32, ∃ byte,
    utf8EncodeChar (base32Char i) = [byte] ∧ ¬ (byte = 0x3d ∨ byte = 0x20 ∨ byte = 0x2d) ∧
      ¬ (0x61 ≤ byte ∧ byte ≤ 0x7a) ∧ base32Alphabet.findIdx? (· == byte) = some i.1 := by
  intro i
  refine ⟨base32Alphabet.getD i 0, ?_⟩
  revert i
  decide +kernel

theorem base32Step_split {digits : List ℕ} (hdigits : ∀ d ∈ digits, d < 32) :
    ∃ buffer, ∃ k < 8, ∃ out, ((digits.map base32Char).flatMap utf8EncodeChar).foldlM
        base32Step ⟨0, 0, []⟩ = some ⟨buffer, k, out⟩ ∧
      Split 8 (Nat.ofDigits 32 digits.reverse) (5 * digits.length) buffer k
        (out.map UInt8.toNat) := by
  induction digits using reverseRecOn with
  | nil => exact ⟨0, 0, by decide, [], rfl, split_start 8⟩
  | append_singleton digits d ih =>
    obtain ⟨buffer, k, hk, out, hstate, hsplit⟩ :=
      ih fun d hd => hdigits d (mem_append_left _ hd)
    have hd : d < 32 := hdigits d mem_concat_self
    obtain ⟨byte, hbyte, hsep, hlower, hindex⟩ := base32Alphabet_spec ⟨d, hd⟩
    have hx : (UInt32.ofNat d).toNat = d := by
      rw [UInt32.toNat_ofNat', Nat.mod_eq_of_lt (by omega)]
    have hpush := hsplit.push (m := 5) (by decide) (by omega) (x := UInt32.ofNat d) (by omega)
    have hnumber : Nat.ofDigits 32 (digits ++ [d]).reverse =
        Nat.ofDigits 32 digits.reverse * 2 ^ 5 + (UInt32.ofNat d).toNat := by
      rw [hx, ofDigits_concat]
      rfl
    have hlength : 5 * (digits ++ [d]).length = 5 * digits.length + 5 := by
      rw [List.length_append, List.length_singleton, mul_add]
    rw [map_append, flatMap_append, foldlM_append, hstate, hnumber, hlength]
    simp only [map_cons, map_nil, flatMap_cons, flatMap_nil, append_nil,
      hbyte, Option.bind_eq_bind, Option.bind_some, foldlM_cons, foldlM_nil, base32Step,
      if_neg hsep, if_neg hlower, hindex]
    rw [show (5 : UInt32) = UInt32.ofNat 5 from rfl]
    split_ifs with hfull
    · have hbits : (UInt32.ofNat (k + 5 - 8)).toNat = k + 5 - 8 := by
        rw [UInt32.toNat_ofNat', Nat.mod_eq_of_lt (by omega)]
      refine ⟨_, k + 5 - 8, by omega, _, rfl, ?_⟩
      convert hpush.take hfull using 1
      rw [map_append, map_singleton, UInt32.toNat_toUInt8, UInt32.toNat_shiftRight, hbits,
        Nat.mod_eq_of_lt (by omega : k + 5 - 8 < 32), Nat.shiftRight_eq_div_pow]
    · exact ⟨_, k + 5, not_le.mp hfull, out, rfl, hpush⟩

theorem base32Decode_base32Encode {bytes : List UInt8} (h : bytes ≠ []) :
    base32Decode (base32Encode bytes) = some bytes := by
  obtain ⟨pad, hpad, digits, htext, hlt, hlength, hvalue⟩ := base32Encode_split bytes
  obtain ⟨buffer, k, hk, out, hstate, hsplit⟩ := base32Step_split hlt
  have hlen := hsplit.length
  rw [List.length_map] at hlen
  obtain rfl : k = pad := by omega
  have hnumber : Nat.ofDigits 256 (bytes.map UInt8.toNat).reverse =
      Nat.ofDigits 256 (out.map UInt8.toNat).reverse := by
    have hsame := hsplit.value
    rw [hvalue] at hsame
    have hdiv := congrArg (· / 2 ^ k) hsame
    simp only [Nat.mul_div_cancel _ (Nat.two_pow_pos k)] at hdiv
    rw [hdiv, Nat.mul_comm, Nat.mul_add_div (Nat.two_pow_pos k),
      Nat.div_eq_of_lt (Nat.mod_lt _ (Nat.two_pow_pos k)), add_zero]
    rfl
  have hbyte : ∀ l : List UInt8, ∀ d ∈ (l.map UInt8.toNat).reverse, d < 256 := by
    intro l d hd
    obtain ⟨b, -, rfl⟩ := mem_map.mp (mem_reverse.mp hd)
    exact b.toNat_lt
  have hout := Nat.ofDigits_inj_of_len_eq (by decide)
    (by simp only [length_reverse, List.length_map]; omega) (hbyte bytes) (hbyte out) hnumber
  obtain rfl : bytes = out :=
    map_injective_iff.mpr (fun _ _ => UInt8.toNat_inj.mp) (reverse_injective hout)
  rw [base32Decode, htext, Text.bytes, toList_ofList, hstate]
  simp [h]

def isSeparator (c : Char) : Bool := c == '=' || c == ' ' || c == '-'

def significant (s : String) : List Char :=
  (s.toList.filter fun c => !isSeparator c).map Char.toUpper

theorem base32Step_char (s : Base32State) (c : Char) :
    (utf8EncodeChar c).foldlM base32Step s =
      if isSeparator c then some s else (utf8EncodeChar c.toUpper).foldlM base32Step s := by
  have hascii : ∀ n < 128, let c := Char.ofNat n
      let byte := UInt8.ofNat n
      let upper := UInt8.ofNat c.toUpper.toNat
      utf8EncodeChar c = [byte] ∧ utf8EncodeChar c.toUpper = [upper] ∧
      (isSeparator c = true → byte = 0x3d ∨ byte = 0x20 ∨ byte = 0x2d) ∧
      (isSeparator c = false → ¬ (byte = 0x3d ∨ byte = 0x20 ∨ byte = 0x2d) ∧
        ¬ (upper = 0x3d ∨ upper = 0x20 ∨ upper = 0x2d) ∧ ¬ (0x61 ≤ upper ∧ upper ≤ 0x7a) ∧
        (if 0x61 ≤ byte ∧ byte ≤ 0x7a then byte - 0x61 + 0x41 else byte) = upper) := by
    decide +kernel
  by_cases hc : c.toNat < 128
  · obtain ⟨hbyte, hupper, hsep, hnot⟩ := hascii c.toNat hc
    rw [Char.ofNat_toNat] at hbyte hupper hsep hnot
    rw [hbyte, hupper]
    cases hcase : isSeparator c with
    | true => simp [base32Step, hsep hcase]
    | false =>
      obtain ⟨hbyte, hupper, hlower, heq⟩ := hnot hcase
      simp only [Bool.false_eq_true, if_false, foldlM_cons, foldlM_nil, base32Step,
        if_neg hbyte, if_neg hupper, if_neg hlower, heq]
  · have hne : ∀ d : Char, d.toNat < 128 → (c == d) = false := fun d hd =>
      beq_eq_false_iff_ne.mpr fun heq => hc (heq ▸ hd)
    have hsep : isSeparator c = false := by
      rw [isSeparator, hne _ (by decide), hne _ (by decide), hne _ (by decide)]
      rfl
    have hupper : c.toUpper = c := by
      delta Char.toUpper
      rw [dif_neg]
      rintro ⟨-, hle⟩
      exact hc (lt_of_le_of_lt (UInt32.le_iff_toNat_le.mp hle) (by decide))
    rw [hsep, hupper]
    rfl

theorem foldlM_significant (text : List Char) (s : Base32State) :
    (text.flatMap utf8EncodeChar).foldlM base32Step s =
      (((text.filter fun c => !isSeparator c).map Char.toUpper).flatMap
        utf8EncodeChar).foldlM base32Step s := by
  induction text generalizing s with
  | nil => rfl
  | cons c text ih =>
    rw [flatMap_cons, foldlM_append, base32Step_char]
    cases hsep : isSeparator c with
    | true => simpa [hsep] using ih s
    | false =>
      rw [filter_cons_of_pos (by simp [hsep]), map_cons, flatMap_cons,
        foldlM_append]
      exact congrArg (_ >>= ·) (funext ih)

theorem base32_round_trip :
    (∀ bytes : List UInt8, bytes ≠ [] → base32Decode (base32Encode bytes) = some bytes) ∧
      ∀ s t : String, significant s = significant t → base32Decode s = base32Decode t := by
  refine ⟨fun _ => base32Decode_base32Encode, fun s t h => ?_⟩
  have hfold := foldlM_significant s.toList ⟨0, 0, []⟩
  unfold significant at h
  rw [h, ← foldlM_significant] at hfold
  rw [base32Decode, base32Decode, Text.bytes, Text.bytes, hfold]

theorem base32_round_trip_sample : base32Decode (base32Encode [0x48, 0x69]) = some [0x48, 0x69] :=
  base32_round_trip.1 _ (by decide)

end XLStatus.Auth
