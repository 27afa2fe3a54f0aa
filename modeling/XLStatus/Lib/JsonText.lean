import XLStatus.Lib.Utf8

/-! The JSON text of strings. -/

namespace XLStatus.JsonText

open Utf8 List
open Text (len)

def hexDigit (n : ℕ) : Char := "0123456789abcdef".toList.getD n '0'

def hexValue (c : Char) : Option ℕ :=
  if '0' ≤ c ∧ c ≤ '9' then some (c.toNat - 48)
  else if 'a' ≤ c ∧ c ≤ 'f' then some (c.toNat - 87)
  else if 'A' ≤ c ∧ c ≤ 'F' then some (c.toNat - 55)
  else none

def escapeChar (c : Char) : List Char :=
  if c = '"' then ['\\', '"']
  else if c = '\\' then ['\\', '\\']
  else if 0x20 ≤ c.toNat then [c]
  else if c.toNat = 0x08 then ['\\', 'b']
  else if c.toNat = 0x09 then ['\\', 't']
  else if c.toNat = 0x0A then ['\\', 'n']
  else if c.toNat = 0x0C then ['\\', 'f']
  else if c.toNat = 0x0D then ['\\', 'r']
  else ['\\', 'u', '0', '0', hexDigit (c.toNat / 16), hexDigit (c.toNat % 16)]

def stringJson (s : String) : String := "\"" ++ String.ofList (s.toList.flatMap escapeChar) ++ "\""

def NeedsEscape (c : Char) : Prop := c = '"' ∨ c = '\\' ∨ c.toNat < 0x20

theorem utf8Size_hexDigit (n : ℕ) : (hexDigit n).utf8Size = 1 := by
  by_cases hn : n < 16
  · interval_cases n <;> rfl
  · have hdefault : hexDigit n = '0' := by
      unfold hexDigit
      rw [List.getD_eq_getElem?_getD, List.getElem?_eq_none (Nat.le_of_not_lt hn), Option.getD_none]
    rw [hdefault]
    rfl

theorem length_encode_escapeChar_le (c : Char) :
    (encode (escapeChar c)).length ≤ 6 * c.utf8Size := by
  have hpos := utf8Size_pos c
  have hmany : 6 ≤ 6 * c.utf8Size := by omega
  unfold escapeChar
  split_ifs
  · exact le_trans (by decide) hmany
  · exact le_trans (by decide) hmany
  · rw [encode_cons, encode_nil, List.append_nil, String.length_utf8EncodeChar]
    omega
  all_goals first
    | exact le_trans (by decide) hmany
    | skip
  rw [length_encode_eq_sum]
  simp only [List.map_cons, List.map_nil, List.sum_cons, List.sum_nil, utf8Size_hexDigit]
  exact le_trans (by decide) hmany

theorem length_encode_flatMap_escapeChar (cs : List Char) :
    (encode (cs.flatMap escapeChar)).length =
      (cs.map fun c => (encode (escapeChar c)).length).sum := by
  induction cs with
  | nil => rfl
  | cons c cs ih =>
    rw [List.flatMap_cons, encode_append, List.length_append, ih, List.map_cons, List.sum_cons]

theorem len_append (s t : String) : len (s ++ t) = len s + len t := String.utf8ByteSize_append

variable {c : Char} {s : String}

theorem utf8Size_of_ascii (h : c.toNat < 128) : c.utf8Size = 1 := by
  unfold Char.utf8Size
  rw [if_pos]
  exact UInt32.le_iff_toNat_le.mpr (Nat.le_of_lt_succ h)

theorem escapeChar_of_not (h : ¬ NeedsEscape c) : escapeChar c = [c] := by
  unfold NeedsEscape at h
  push Not at h
  unfold escapeChar
  rw [if_neg h.1, if_neg h.2.1, if_pos h.2.2]

theorem length_encode_escapeChar_of_needsEscape (h : NeedsEscape c) :
    c.utf8Size = 1 ∧ 2 ≤ (encode (escapeChar c)).length := by
  constructor
  · rcases h with rfl | rfl | h
    · rfl
    · rfl
    · exact utf8Size_of_ascii (h.trans (by decide))
  · rw [Utf8.length_encode_eq_sum]
    have hsizes : ∀ l : List Char, l.length ≤ (l.map Char.utf8Size).sum := by
      intro l
      induction l with
      | nil => exact le_rfl
      | cons a =>
        rw [List.map_cons, List.sum_cons, List.length_cons]
        have := Char.utf8Size_pos a
        omega
    refine le_trans ?_ (hsizes _)
    unfold escapeChar
    rcases h with rfl | rfl | h
    · decide
    · decide
    · split_ifs <;> first | decide | exact Nat.le_of_ble_eq_true rfl | omega

theorem len_stringJson (s : String) :
    len (stringJson s) = (encode (s.toList.flatMap escapeChar)).length + 2 := by
  unfold stringJson
  rw [len_append, len_append, Utf8.len_ofList (s.toList.flatMap escapeChar)]
  change 1 + _ + 1 = _
  omega

theorem len_stringJson_of_plain (h : ∀ c ∈ s.toList, ¬ NeedsEscape c) :
    len (stringJson s) = len s + 2 := by
  have hplain : s.toList.flatMap escapeChar = s.toList := by
    rw [List.flatMap_congr fun c hc => escapeChar_of_not (h c hc), List.flatMap_singleton']
  rw [len_stringJson, hplain, ← Utf8.len_ofList, String.ofList_toList]

theorem not_needsEscape_of {p : Char → Bool} (hquote : p '"' = false) (hbackslash : p '\\' = false)
    (hcontrol : ∀ n < 0x20, p (Char.ofNat n) = false) (h : p c = true) :
    ¬ NeedsEscape c := by
  rintro (rfl | rfl | hc)
  · rw [hquote] at h
    cases h
  · rw [hbackslash] at h
    cases h
  · have hp := hcontrol c.toNat hc
    rw [Char.ofNat_toNat, h] at hp
    cases hp

theorem len_stringJson_of_quotes (h : ∀ c ∈ s.toList, NeedsEscape c → c = '"') :
    len (stringJson s) = len s + s.toList.count '"' + 2 := by
  have hcount : ∀ cs : List Char, (∀ c ∈ cs, NeedsEscape c → c = '"') →
      (encode (cs.flatMap escapeChar)).length = (encode cs).length + cs.count '"' := by
    intro cs hcs
    induction cs with
    | nil => rfl
    | cons c cs ih =>
      rw [flatMap_cons, encode_append, length_append, encode_cons, length_append,
        ih fun d hd => hcs d (mem_cons_of_mem c hd), count_cons]
      by_cases hc : c = '"'
      · subst hc
        change 2 + _ = 1 + _ + (_ + 1)
        omega
      · have hplain : escapeChar c = [c] :=
          escapeChar_of_not fun hneeds => hc (hcs c mem_cons_self hneeds)
        rw [hplain, encode_cons, encode_nil, append_nil, beq_false_of_ne hc]
        simp only [Bool.false_eq_true, if_false]
        omega
  rw [len_stringJson, hcount s.toList h, ← Utf8.len_ofList, String.ofList_toList]

theorem len_of_ascii (h : ∀ c ∈ s.toList, c.toNat < 128) :
    len s = s.toList.length := by
  rw [← String.ofList_toList (s := s), Utf8.len_ofList, Utf8.length_encode_eq_sum,
    String.toList_ofList, map_congr_left fun c hc => utf8Size_of_ascii (h c hc),
    map_const', sum_replicate, smul_eq_mul, mul_one]

theorem len_toString (n : ℕ) : len (toString n) = (Nat.toDigits 10 n).length := by
  have hascii : ∀ c ∈ (toString n).toList, c.toNat < 128 := by
    intro c hc
    rw [Text.toList_toString] at hc
    have hdigit := Text.isDigit_of_mem_toDigits hc
    unfold Char.isDigit at hdigit
    rw [Bool.and_eq_true, decide_eq_true_iff, decide_eq_true_iff] at hdigit
    exact lt_of_le_of_lt (UInt32.le_iff_toNat_le.mp hdigit.2) (by decide)
  rw [len_of_ascii hascii, Text.toList_toString]

end XLStatus.JsonText
