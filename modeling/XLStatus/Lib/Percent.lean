import XLStatus.Lib.JsonText

/-! Percent-encoding of bytes with the unreserved characters kept. -/

namespace XLStatus.Percent

open List String

open JsonText (hexValue)

def isUnreserved (c : Char) : Bool := c.isAlphanum || c ∈ ['-', '_', '.', '~']

def upperHexDigit (n : ℕ) : Char := "0123456789ABCDEF".toList.getD n '0'

def encodeByte (b : UInt8) : List Char :=
  if b.toNat < 128 ∧ isUnreserved (Char.ofNat b.toNat) then [Char.ofNat b.toNat]
  else ['%', upperHexDigit (b.toNat / 16), upperHexDigit (b.toNat % 16)]

def decode : List Char → List UInt8
  | [] => []
  | '%' :: a :: b :: l => match hexValue a, hexValue b with
    | some high, some low => UInt8.ofNat (16 * high + low) :: decode l
    | _, _ => utf8EncodeChar '%' ++ decode (a :: b :: l)
  | c :: l => utf8EncodeChar c ++ decode l

inductive Encoded : List Char → Prop where
  | nil : Encoded []
  | plain {c : Char} {l : List Char} (h : isUnreserved c = true) (hl : Encoded l) : Encoded (c :: l)
  | triple {a b : Char} {l : List Char} (ha : Text.isAsciiHexDigit a = true)
      (hb : Text.isAsciiHexDigit b = true) (hl : Encoded l) : Encoded ('%' :: a :: b :: l)

theorem upperHexDigit_spec : ∀ k < 16, Text.isAsciiHexDigit (upperHexDigit k) = true ∧
    hexValue (upperHexDigit k) = some k := by
  decide

theorem encoded_flatMap_encodeByte (l : List UInt8) : Encoded (l.flatMap encodeByte) := by
  induction l with
  | nil => exact .nil
  | cons b l ih =>
    have hlt := b.toNat_lt
    rw [flatMap_cons]
    unfold encodeByte
    split_ifs with hplain
    · exact .plain hplain.2 ih
    · exact .triple (upperHexDigit_spec _ (by omega)).1 (upperHexDigit_spec _ (by omega)).1 ih

theorem decode_cons_of_ne {c : Char} (h : c ≠ '%') (l : List Char) :
    decode (c :: l) = utf8EncodeChar c ++ decode l := by
  rw [decode]
  intro a b rest heq
  exact absurd heq h

theorem utf8EncodeChar_ofNat {n : ℕ} (h : n < 128) :
    utf8EncodeChar (Char.ofNat n) = [UInt8.ofNat n] := by
  have hall : ∀ n < 128, utf8EncodeChar (Char.ofNat n) = [UInt8.ofNat n] := by decide +kernel
  exact hall n h

theorem decode_triple (b : UInt8) (l : List Char) :
    decode ('%' :: upperHexDigit (b.toNat / 16) :: upperHexDigit (b.toNat % 16) :: l) =
      b :: decode l := by
  have hlt := b.toNat_lt
  rw [decode, (upperHexDigit_spec _ (by omega)).2, (upperHexDigit_spec _ (by omega)).2]
  dsimp only
  rw [Nat.div_add_mod, UInt8.ofNat_toNat]

theorem decode_percent {l : List Char}
    (h : ∀ a b t, l = a :: b :: t → hexValue a = none ∨ hexValue b = none) :
    decode ('%' :: l) = utf8EncodeChar '%' ++ decode l := by
  match l, h with
  | [], _ => rfl
  | [_], _ => rfl
  | a :: b :: t, h =>
    rw [decode]
    rcases h a b t rfl with ha | hb
    · rw [ha]
    · rw [hb]
      cases hexValue a <;> rfl

theorem decode_encodeByte_append (b : UInt8) (l : List Char) :
    decode (encodeByte b ++ l) = b :: decode l := by
  unfold encodeByte
  split_ifs with hplain
  · have hne : Char.ofNat b.toNat ≠ '%' := by
      intro heq
      rw [heq] at hplain
      exact absurd hplain.2 (by decide)
    rw [singleton_append, decode_cons_of_ne hne, utf8EncodeChar_ofNat hplain.1,
      UInt8.ofNat_toNat, singleton_append]
  · exact decode_triple b l

theorem decode_flatMap_encodeByte (l : List UInt8) : decode (l.flatMap encodeByte) = l := by
  induction l with
  | nil => rfl
  | cons b l ih => rw [flatMap_cons, decode_encodeByte_append, ih]

theorem Encoded.mem {l : List Char} (h : Encoded l) {c : Char} (hc : c ∈ l) :
    isUnreserved c = true ∨ c = '%' ∨ Text.isAsciiHexDigit c = true := by
  induction h with
  | nil => cases hc
  | plain hplain hl ih =>
    rcases mem_cons.mp hc with rfl | hc
    · exact .inl hplain
    · exact ih hc
  | triple ha hb hl ih =>
    simp only [mem_cons] at hc
    rcases hc with rfl | rfl | rfl | hc
    · exact .inr (.inl rfl)
    · exact .inr (.inr ha)
    · exact .inr (.inr hb)
    · exact ih hc

end XLStatus.Percent
