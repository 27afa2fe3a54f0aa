import XLStatus.Lib.Text

/-! UTF-8: texts cut at a number of bytes, and bytes that need not be a text decoded with a
replacement character for each broken one. -/

namespace XLStatus.Utf8

open List String

def takeBytes : ℕ → List Char → List Char
  | _, [] => []
  | n, c :: cs => if c.utf8Size ≤ n then c :: takeBytes (n - c.utf8Size) cs else []

def truncate (s : String) (maxBytes : ℕ) : String := ofList (takeBytes maxBytes s.toList)

def encode (cs : List Char) : List UInt8 := cs.flatMap utf8EncodeChar

def isContinuation (b : UInt8) : Bool := 128 ≤ b.toNat && b.toNat < 192

def isSecond (first second : UInt8) : Bool :=
  isContinuation second &&
    match first.toNat with
    | 0xE0 => 0xA0 ≤ second.toNat
    | 0xED => second.toNat < 0xA0
    | 0xF0 => 0x90 ≤ second.toNat
    | 0xF4 => second.toNat < 0x90
    | _ => true

def brokenLength : List UInt8 → ℕ
  | a :: b :: rest =>
    if 0xE0 ≤ a.toNat && a.toNat ≤ 0xF4 && isSecond a b then
      match rest with
      | [] => 2
      | c :: _ => if 0xF0 ≤ a.toNat && isContinuation c then 3 else 2
    else 1
  | _ => 1

def decodeChar (l : List UInt8) : Option Char := l.toByteArray.utf8DecodeChar? 0

def replacement : Char := '�'

def decodeWithin : ℕ → List UInt8 → List Char
  | 0, _ => []
  | _ + 1, [] => []
  | fuel + 1, b :: l =>
    match decodeChar (b :: l) with
    | some c => c :: decodeWithin fuel ((b :: l).drop c.utf8Size)
    | none => replacement :: decodeWithin fuel ((b :: l).drop (brokenLength (b :: l)))

def decodeLossy (l : List UInt8) : List Char := decodeWithin l.length l

structure Pieces (s : String) (size : ℕ) where
  pieces : List (List UInt8)
  ne_nil : ∀ piece ∈ pieces, piece ≠ []
  length_le : ∀ piece ∈ pieces, piece.length ≤ size
  flatten_eq : pieces.flatten = Text.bytes s

def Pieces.bytewise (s : String) {size : ℕ} (h : 0 < size) : Pieces s size where
  pieces := (Text.bytes s).map ([·])
  ne_nil := by simp
  length_le := by
    intro piece hpiece
    obtain ⟨b, -, rfl⟩ := mem_map.mp hpiece
    exact h
  flatten_eq := by
    rw [← flatMap_def]
    exact flatMap_singleton' _

def fromUtf8Lossy (l : List UInt8) : String := ofList (decodeLossy l)

@[simp] theorem encode_nil : encode [] = [] := rfl

@[simp] theorem encode_cons (c : Char) (cs : List Char) :
    encode (c :: cs) = utf8EncodeChar c ++ encode cs := rfl

theorem encode_append (cs ds : List Char) : encode (cs ++ ds) = encode cs ++ encode ds :=
  flatMap_append

theorem encode_toList (s : String) : encode s.toList = Text.bytes s := rfl

theorem len_ofList (cs : List Char) : Text.len (ofList cs) = (encode cs).length := by
  rw [← Text.length_bytes, ← encode_toList, toList_ofList]

theorem utf8Size_pos (c : Char) : 0 < c.utf8Size := Char.utf8Size_pos c

theorem brokenLength_pos (l : List UInt8) : 0 < brokenLength l := by
  unfold brokenLength
  split
  · split
    · split
      · decide
      · split <;> decide
    · decide
  · decide

/-! ## Decoding step by step -/

theorem decodeChar_encode_append (c : Char) (l : List UInt8) :
    decodeChar (utf8EncodeChar c ++ l) = some c := by
  unfold decodeChar
  rw [List.toByteArray_append]
  exact ByteArray.utf8DecodeChar?_utf8EncodeChar_append

variable {l : List UInt8} {n k : ℕ} {b : UInt8} {cs : List Char} {pieces : List (List UInt8)}

theorem exists_of_decodeChar {c : Char} (h : decodeChar l = some c) :
    ∃ rest, l = utf8EncodeChar c ++ rest := by
  obtain ⟨rest, hrest⟩ := ByteArray.exists_of_utf8DecodeChar?_eq_some h
  refine ⟨rest.data.toList, ?_⟩
  have hdata := congrArg (fun b : ByteArray => b.data.toList) hrest
  simpa using hdata

theorem decodeWithin_eq {m : ℕ} (hn : l.length ≤ n) (hm : l.length ≤ m) :
    decodeWithin n l = decodeWithin m l := by
  induction n generalizing l m with
  | zero =>
    cases l with
    | nil => cases m <;> rfl
    | cons => cases hn
  | succ n ih =>
    cases l with
    | nil => cases m <;> rfl
    | cons b l =>
      cases m with
      | zero => cases hm
      | succ =>
        have hdrop {k : ℕ} (hk : 0 < k) : ((b :: l).drop k).length ≤ l.length := by
          rw [length_drop, length_cons]
          omega
        unfold decodeWithin
        split
        · rw [ih ((hdrop (utf8Size_pos _)).trans (Nat.le_of_succ_le_succ hn))
            ((hdrop (utf8Size_pos _)).trans (Nat.le_of_succ_le_succ hm))]
        · rw [ih ((hdrop (brokenLength_pos _)).trans (Nat.le_of_succ_le_succ hn))
            ((hdrop (brokenLength_pos _)).trans (Nat.le_of_succ_le_succ hm))]

@[simp] theorem decodeLossy_nil : decodeLossy [] = [] := rfl

@[simp] theorem decodeLossy_encode_append (c : Char) (l : List UInt8) :
    decodeLossy (utf8EncodeChar c ++ l) = c :: decodeLossy l := by
  have hdecode := decodeChar_encode_append c l
  have hdrop : (utf8EncodeChar c ++ l).drop c.utf8Size = l :=
    drop_left' (length_utf8EncodeChar c)
  have hlength : l.length < (utf8EncodeChar c ++ l).length := by
    rw [List.length_append, length_utf8EncodeChar]
    exact Nat.lt_add_of_pos_left (utf8Size_pos c)
  unfold decodeLossy
  generalize utf8EncodeChar c ++ l = bytes at hdecode hdrop hlength
  cases bytes with
  | nil => cases hlength
  | cons =>
    rw [length_cons, decodeWithin, hdecode]
    dsimp only
    rw [hdrop, decodeWithin_eq (Nat.le_of_lt_succ hlength) le_rfl]

theorem decodeLossy_of_decodeChar_eq_none (hl : l ≠ []) (h : decodeChar l = none) :
    decodeLossy l = replacement :: decodeLossy (l.drop (brokenLength l)) := by
  cases l with
  | nil => exact absurd rfl hl
  | cons b l =>
    have hlength : ((b :: l).drop (brokenLength (b :: l))).length ≤ l.length := by
      have := brokenLength_pos (b :: l)
      rw [length_drop, length_cons]
      omega
    unfold decodeLossy
    rw [length_cons, decodeWithin, h]
    dsimp only
    rw [decodeWithin_eq hlength le_rfl]

theorem bytes_induct {P : List UInt8 → Prop} (nil : P [])
    (char : ∀ c l, P l → P (utf8EncodeChar c ++ l))
    (broken : ∀ l, l ≠ [] → decodeChar l = none → P (l.drop (brokenLength l)) → P l)
    (l : List UInt8) : P l := by
  induction hn : l.length using Nat.strong_induction_on generalizing l with
  | _ n ih =>
    subst hn
    cases hdecode : decodeChar l with
    | some c =>
      obtain ⟨rest, rfl⟩ := exists_of_decodeChar hdecode
      refine char c rest (ih rest.length ?_ rest rfl)
      rw [List.length_append, length_utf8EncodeChar]
      exact Nat.lt_add_of_pos_left (utf8Size_pos c)
    | none =>
      by_cases hl : l = []
      · exact hl ▸ nil
      · refine broken l hl hdecode (ih _ ?_ _ rfl)
        have hpos := brokenLength_pos l
        have hlength := length_pos_of_ne_nil hl
        rw [length_drop]
        omega

theorem decodeLossy_encode (cs : List Char) (l : List UInt8) :
    decodeLossy (encode cs ++ l) = cs ++ decodeLossy l := by
  induction cs with
  | nil => rfl
  | cons c cs ih =>
    rw [encode_cons, List.append_assoc, decodeLossy_encode_append, ih, cons_append]

theorem sum_map_decodeLossy_le (weight : Char → ℕ) (k : ℕ)
    (hchar : ∀ c, weight c ≤ k * c.utf8Size) (hreplacement : weight replacement ≤ k)
    (l : List UInt8) : ((decodeLossy l).map weight).sum ≤ k * l.length := by
  induction l using bytes_induct with
  | nil => exact le_rfl
  | char c =>
    have := hchar c
    rw [decodeLossy_encode_append, map_cons, sum_cons, List.length_append,
      length_utf8EncodeChar, Nat.mul_add]
    omega
  | broken l hl hdecode =>
    have hrest : (l.drop (brokenLength l)).length + 1 ≤ l.length := by
      have hpos := brokenLength_pos l
      have hlength := length_pos_of_ne_nil hl
      rw [length_drop]
      omega
    have hbound := Nat.mul_le_mul_left k hrest
    rw [Nat.mul_add, Nat.mul_one] at hbound
    rw [decodeLossy_of_decodeChar_eq_none hl hdecode, map_cons, sum_cons]
    omega

theorem length_encode_eq_sum (cs : List Char) : (encode cs).length = (cs.map Char.utf8Size).sum := by
  induction cs with
  | nil => rfl
  | cons c cs ih =>
    rw [encode_cons, List.length_append, length_utf8EncodeChar, ih, map_cons,
      sum_cons]

theorem fromUtf8Lossy_bytes (s : String) : fromUtf8Lossy (Text.bytes s) = s := by
  have h := decodeLossy_encode s.toList []
  rw [append_nil, decodeLossy_nil, append_nil, encode_toList] at h
  unfold fromUtf8Lossy
  rw [h, ofList_toList]

/-! ## Characters that are cut -/

theorem toNat_ofNat_of_lt (h : n < 256) : (UInt8.ofNat n).toNat = n := by
  rw [UInt8.toNat_ofNat']
  exact Nat.mod_eq_of_lt h

theorem isContinuation_ofNat (n : ℕ) : isContinuation (UInt8.ofNat (n % 64 + 128)) = true := by
  unfold isContinuation
  rw [toNat_ofNat_of_lt (by omega), Bool.and_eq_true, decide_eq_true_eq, decide_eq_true_eq]
  omega

theorem encodeChar_cases (c : Char) :
    (∃ a, utf8EncodeChar c = [a] ∧ a.toNat < 128) ∨
    (∃ a b, utf8EncodeChar c = [a, b] ∧ 192 ≤ a.toNat ∧ isContinuation b = true) ∨
    (∃ a b d, utf8EncodeChar c = [a, b, d] ∧ 0xE0 ≤ a.toNat ∧ a.toNat < 0xF0 ∧
      isSecond a b = true ∧ isContinuation d = true) ∨
    (∃ a b d e, utf8EncodeChar c = [a, b, d, e] ∧ 0xF0 ≤ a.toNat ∧ a.toNat ≤ 0xF4 ∧
      isSecond a b = true ∧ isContinuation d = true ∧ isContinuation e = true) := by
  have hvalid : c.val.toNat < 0xD800 ∨ 0xDFFF < c.val.toNat ∧ c.val.toNat < 0x110000 := c.valid
  unfold utf8EncodeChar
  dsimp only
  generalize c.val.toNat = v at hvalid
  split
  · exact .inl ⟨_, rfl, by rw [toNat_ofNat_of_lt] <;> omega⟩
  · split
    · refine .inr (.inl ⟨_, _, rfl, ?_, isContinuation_ofNat _⟩)
      rw [toNat_ofNat_of_lt] <;> omega
    · have hsecond {first second : ℕ} (hfirst : first < 256) (h : second < 64)
          (hE0 : first = 0xE0 → 32 ≤ second) (hED : first = 0xED → second < 32)
          (hF0 : first = 0xF0 → 16 ≤ second) (hF4 : first = 0xF4 → second < 16) :
          isSecond (UInt8.ofNat first) (UInt8.ofNat (second + 128)) = true := by
        unfold isSecond isContinuation
        rw [toNat_ofNat_of_lt hfirst, toNat_ofNat_of_lt (by omega)]
        split <;> simp only [Bool.and_eq_true, decide_eq_true_eq, and_true] <;> omega
      split
      · refine .inr (.inr (.inl ⟨_, _, _, rfl, ?_, ?_, ?_, isContinuation_ofNat _⟩))
        · rw [toNat_ofNat_of_lt] <;> omega
        · rw [toNat_ofNat_of_lt] <;> omega
        · exact hsecond (by omega) (by omega) (by omega) (by omega) (by omega) (by omega)
      · refine .inr (.inr (.inr ⟨_, _, _, _, rfl, ?_, ?_, ?_, isContinuation_ofNat _,
          isContinuation_ofNat _⟩))
        · rw [toNat_ofNat_of_lt] <;> omega
        · rw [toNat_ofNat_of_lt] <;> omega
        · exact hsecond (by omega) (by omega) (by omega) (by omega) (by omega) (by omega)

theorem isContinuation_of_isSecond {a : UInt8} (h : isSecond a b = true) :
    isContinuation b = true := (Bool.and_eq_true_iff.mp h).1

theorem exists_encodeChar (c : Char) :
    ∃ b tail, utf8EncodeChar c = b :: tail ∧ isContinuation b = false ∧
      ∀ b' ∈ tail, isContinuation b' = true := by
  have hfirst {b : UInt8} (h : b.toNat < 128 ∨ 192 ≤ b.toNat) : isContinuation b = false := by
    unfold isContinuation
    rw [Bool.and_eq_false_iff, decide_eq_false_iff_not, decide_eq_false_iff_not]
    omega
  obtain ⟨a, hc, ha⟩ | ⟨a, b, hc, ha, hb⟩ | ⟨a, b, d, hc, ha, -, hb, hd⟩ |
    ⟨a, b, d, e, hc, ha, -, hb, hd, he⟩ := encodeChar_cases c
  · exact ⟨a, [], hc, hfirst (.inl ha), forall_mem_nil _⟩
  · exact ⟨a, [b], hc, hfirst (.inr ha), by simpa using hb⟩
  · have hb := isContinuation_of_isSecond hb
    exact ⟨a, [b, d], hc, hfirst (by omega), by simp [hb, hd]⟩
  · have hb := isContinuation_of_isSecond hb
    exact ⟨a, [b, d, e], hc, hfirst (by omega), by simp [hb, hd, he]⟩

theorem brokenLength_take (c : Char) (hpos : 0 < k) (hk : k < (utf8EncodeChar c).length) :
    brokenLength ((utf8EncodeChar c).take k) = k := by
  obtain ⟨a, hc, ha⟩ | ⟨a, b, hc, ha, hb⟩ | ⟨a, b, d, hc, ha, ha', hb, hd⟩ |
    ⟨a, b, d, e, hc, ha, ha', hb, hd, he⟩ := encodeChar_cases c
  · rw [hc, List.length_singleton] at hk
    omega
  · rw [hc, length_cons, List.length_singleton] at hk
    obtain rfl : k = 1 := by omega
    rw [hc]
    rfl
  · have hlead : a.toNat ≤ 0xF4 := by omega
    rw [hc] at hk ⊢
    obtain rfl | rfl : k = 1 ∨ k = 2 := by simp at hk; omega
    · rfl
    · simp [brokenLength, ha, hlead, hb]
  · have hlead : 0xE0 ≤ a.toNat := by omega
    rw [hc] at hk ⊢
    obtain rfl | rfl | rfl : k = 1 ∨ k = 2 ∨ k = 3 := by simp at hk; omega
    · rfl
    · simp [brokenLength, hlead, ha', hb]
    · simp [brokenLength, hlead, ha, ha', hb, hd]

theorem decodeChar_take (c : Char) (hk : k < (utf8EncodeChar c).length) :
    decodeChar ((utf8EncodeChar c).take k) = none := by
  cases hdecode : decodeChar ((utf8EncodeChar c).take k) with
  | none => rfl
  | some d =>
    obtain ⟨rest, hrest⟩ := exists_of_decodeChar hdecode
    have hc : utf8EncodeChar c ++ [] =
        utf8EncodeChar d ++ (rest ++ (utf8EncodeChar c).drop k) := by
      rw [← List.append_assoc, ← hrest, take_append_drop, append_nil]
    have hsame : c = d := by
      have h := decodeChar_encode_append c []
      rw [hc, decodeChar_encode_append] at h
      exact (Option.some.inj h).symm
    subst hsame
    have hlength := congrArg List.length hrest
    rw [length_take, List.length_append] at hlength
    omega

theorem decodeLossy_take_encodeChar (c : Char) (hpos : 0 < k) (hk : k < (utf8EncodeChar c).length) :
    decodeLossy ((utf8EncodeChar c).take k) = [replacement] := by
  have hlength : ((utf8EncodeChar c).take k).length = k := length_take_of_le hk.le
  have hne : (utf8EncodeChar c).take k ≠ [] := by
    rw [ne_eq, ← List.length_eq_zero_iff, hlength]
    omega
  rw [decodeLossy_of_decodeChar_eq_none hne (decodeChar_take c hk), brokenLength_take c hpos hk,
    drop_eq_nil_of_le hlength.le, decodeLossy_nil]

theorem length_encode_takeBytes_le (n : ℕ) (cs : List Char) :
    (encode (takeBytes n cs)).length ≤ n := by
  induction cs generalizing n with
  | nil => exact Nat.zero_le n
  | cons c cs ih =>
    unfold takeBytes
    split
    · rename_i hsize
      have := ih (n - c.utf8Size)
      rw [encode_cons, List.length_append, length_utf8EncodeChar]
      omega
    · exact Nat.zero_le n

theorem decodeLossy_take_encode (hn : n < (encode cs).length) :
    decodeLossy ((encode cs).take n) =
      takeBytes n cs ++ if (encode (takeBytes n cs)).length = n then [] else [replacement] := by
  induction cs generalizing n with
  | nil => cases hn
  | cons c cs ih =>
    rw [encode_cons] at hn ⊢
    unfold takeBytes
    have hsize := length_utf8EncodeChar c
    split
    · rename_i hle
      rw [List.length_append, hsize] at hn
      have hrest : n - c.utf8Size < (encode cs).length := by omega
      rw [take_append, take_of_length_le (hsize.trans_le hle), hsize,
        decodeLossy_encode_append, ih hrest, cons_append]
      have hiff : (encode (c :: takeBytes (n - c.utf8Size) cs)).length = n ↔
          (encode (takeBytes (n - c.utf8Size) cs)).length = n - c.utf8Size := by
        rw [encode_cons, List.length_append, hsize]
        omega
      simp only [hiff]
    · rename_i hlt
      have hk : n < (utf8EncodeChar c).length := by omega
      rw [take_append_of_le_length hk.le, encode_nil, length_nil, nil_append]
      split
      · rename_i hzero
        rw [← hzero, take_zero, decodeLossy_nil]
      · rename_i hne
        exact decodeLossy_take_encodeChar c (by omega) hk

theorem lt_length_encode_takeBytes (hn : n < (encode cs).length) :
    n < (encode (takeBytes n cs)).length + 4 := by
  induction cs generalizing n with
  | nil => cases hn
  | cons c cs ih =>
    have hsize := Char.utf8Size_le_four c
    unfold takeBytes
    split
    · rw [encode_cons, List.length_append, length_utf8EncodeChar] at hn ⊢
      have := ih (n := n - c.utf8Size) (by omega)
      omega
    · omega

section Truncate

variable {s : String} {n : ℕ}

theorem len_truncate_le (s : String) (n : ℕ) : Text.len (truncate s n) ≤ n := by
  unfold truncate
  rw [len_ofList]
  exact length_encode_takeBytes_le n s.toList

theorem lt_len_truncate (h : n < Text.len s) : n < Text.len (truncate s n) + 4 := by
  unfold truncate
  rw [len_ofList]
  exact lt_length_encode_takeBytes (by rwa [encode_toList, Text.length_bytes])

theorem fromUtf8Lossy_take_of_le (h : Text.len s ≤ n) :
    fromUtf8Lossy ((Text.bytes s).take n) = s := by
  rw [take_of_length_le (by rwa [Text.length_bytes]), fromUtf8Lossy_bytes]

theorem len_fromUtf8Lossy_take (h : n < Text.len s) :
    Text.len (fromUtf8Lossy ((Text.bytes s).take n)) =
      Text.len (truncate s n) + if Text.len (truncate s n) = n then 0 else 3 := by
  have hlength : n < (encode s.toList).length := by
    rwa [encode_toList, Text.length_bytes]
  have hdecode := decodeLossy_take_encode hlength
  rw [encode_toList] at hdecode
  unfold fromUtf8Lossy truncate
  rw [hdecode, len_ofList, len_ofList, encode_append, List.length_append]
  split <;> rfl

end Truncate

/-! ## Texts split into pieces of bytes -/

def starts (l : List UInt8) : ℕ := l.countP fun b => !isContinuation b

theorem starts_append (l m : List UInt8) : starts (l ++ m) = starts l + starts m :=
  countP_append

theorem starts_eq_zero (h : ∀ b ∈ l, isContinuation b = true) : starts l = 0 := by
  unfold starts
  rw [countP_eq_zero]
  intro b hb
  simp [h b hb]

theorem starts_cons_le (b : UInt8) (h : ∀ b ∈ l, isContinuation b = true) :
    starts (b :: l) ≤ 1 := by
  have htail := starts_eq_zero h
  unfold starts at htail ⊢
  rw [countP_cons, htail]
  split <;> decide

theorem starts_encode (cs : List Char) : starts (encode cs) = cs.length := by
  induction cs with
  | nil => rfl
  | cons c cs ih =>
    obtain ⟨b, tail, hc, hb, htail⟩ := exists_encodeChar c
    have hone : starts (b :: tail) = 1 := by
      have hzero := starts_eq_zero htail
      unfold starts at hzero ⊢
      rw [countP_cons, hzero, hb]
      rfl
    rw [encode_cons, starts_append, ih, hc, hone, length_cons, Nat.add_comm]

theorem starts_take_brokenLength_le (l : List UInt8) : starts (l.take (brokenLength l)) ≤ 1 := by
  unfold brokenLength
  split
  · rename_i a b rest
    split
    · rename_i h
      have hb : isContinuation b = true :=
        isContinuation_of_isSecond (Bool.and_eq_true_iff.mp h).2
      split
      · exact starts_cons_le a (by simpa using hb)
      · rename_i c rest
        split
        · rename_i hc
          have hc : isContinuation c = true := (Bool.and_eq_true_iff.mp hc).2
          exact starts_cons_le a (by simp [hb, hc])
        · exact starts_cons_le a (by simpa using hb)
    · exact starts_cons_le a (forall_mem_nil _)
  · exact (countP_le_length).trans (length_take_le _ _)

theorem starts_le_length_decodeLossy (l : List UInt8) : starts l ≤ (decodeLossy l).length := by
  induction l using bytes_induct with
  | nil => exact le_rfl
  | char c =>
    have hone : starts (utf8EncodeChar c) = 1 := by
      simpa using starts_encode [c]
    rw [decodeLossy_encode_append, starts_append, length_cons, hone]
    omega
  | broken l hl hdecode =>
    have hsplit := starts_append (l.take (brokenLength l)) (l.drop (brokenLength l))
    have hbroken := starts_take_brokenLength_le l
    rw [take_append_drop] at hsplit
    rw [decodeLossy_of_decodeChar_eq_none hl hdecode, length_cons]
    omega

theorem starts_lt_length_decodeLossy (hb : isContinuation b = true) (l : List UInt8) :
    starts (b :: l) < (decodeLossy (b :: l)).length := by
  have hdecode : decodeChar (b :: l) = none := by
    cases h : decodeChar (b :: l) with
    | none => rfl
    | some c =>
      obtain ⟨rest, hrest⟩ := exists_of_decodeChar h
      obtain ⟨b', tail, hc, hb', -⟩ := exists_encodeChar c
      rw [hc, cons_append, List.cons.injEq] at hrest
      rw [hrest.1, hb'] at hb
      cases hb
  have hbroken : brokenLength (b :: l) = 1 := by
    unfold isContinuation at hb
    rw [Bool.and_eq_true, decide_eq_true_eq, decide_eq_true_eq] at hb
    have hlead : ¬ 0xE0 ≤ b.toNat := by omega
    unfold brokenLength
    split
    · rename_i heq
      cases heq
      simp [hlead]
    · rfl
  have hstarts : starts (b :: l) = starts l := by
    unfold starts
    rw [countP_cons, hb]
    rfl
  rw [decodeLossy_of_decodeChar_eq_none (cons_ne_nil b l) hdecode, hbroken, length_cons,
    hstarts]
  exact Nat.lt_succ_of_le (starts_le_length_decodeLossy l)

theorem exists_of_append_eq_encode {m : List UInt8} (h : l ++ m = encode cs)
    (hm : ∀ b ∈ m.head?, isContinuation b = false) :
    ∃ cs₁ cs₂, cs = cs₁ ++ cs₂ ∧ l = encode cs₁ ∧ m = encode cs₂ := by
  induction cs generalizing l with
  | nil =>
    obtain ⟨rfl, rfl⟩ := append_eq_nil_iff.mp h
    exact ⟨[], [], rfl, rfl, rfl⟩
  | cons c cs ih =>
    rw [encode_cons] at h
    obtain ⟨rest, hc, hrest⟩ | ⟨rest, hl, hrest⟩ := append_eq_append_iff.mp h
    · -- the split is at the beginning of the character, or at its end
      cases l with
      | nil => exact ⟨[], c :: cs, rfl, rfl, h⟩
      | cons =>
        cases rest with
        | nil =>
          refine ⟨[c], cs, rfl, ?_, hrest⟩
          rw [encode_cons, encode_nil, hc, append_nil, append_nil]
        | cons b =>
          obtain ⟨a', tail, ha', -, htail⟩ := exists_encodeChar c
          rw [ha', cons_append, List.cons.injEq] at hc
          have hb : isContinuation b = true := htail b (hc.2 ▸ by simp)
          rw [hm b (by rw [hrest]; rfl)] at hb
          cases hb
    · obtain ⟨cs₁, cs₂, rfl, rfl, rfl⟩ := ih hrest.symm
      exact ⟨c :: cs₁, cs₂, rfl, hl, rfl⟩

theorem head?_flatten {p : UInt8 → Prop} (h : ∀ piece ∈ pieces, ∀ b ∈ piece.head?, p b) :
    ∀ b ∈ pieces.flatten.head?, p b := by
  induction pieces with
  | nil => exact fun b hb => by cases hb
  | cons piece pieces ih =>
    cases piece with
    | nil => exact ih fun piece hpiece => h piece (mem_cons_of_mem _ hpiece)
    | cons a piece => exact h (a :: piece) mem_cons_self

theorem starts_flatten_le (pieces : List (List UInt8)) :
    starts pieces.flatten ≤ (pieces.flatMap decodeLossy).length := by
  induction pieces with
  | nil => exact le_rfl
  | cons piece =>
    have := starts_le_length_decodeLossy piece
    rw [flatten_cons, starts_append, flatMap_cons, List.length_append]
    omega

theorem flatMap_decodeLossy_eq_iff (h : pieces.flatten = encode cs) :
    pieces.flatMap decodeLossy = cs ↔
      ∀ piece ∈ pieces, ∀ b ∈ piece.head?, isContinuation b = false := by
  constructor
  · intro hcs piece hpiece b hb
    obtain ⟨before, after, rfl⟩ := append_of_mem hpiece
    obtain ⟨l, rfl⟩ := head?_eq_some_iff.mp hb
    by_contra hcont
    have hlt := starts_lt_length_decodeLossy (Bool.not_eq_false _ ▸ hcont) l
    have hbefore := starts_flatten_le before
    have hafter := starts_flatten_le after
    have hstarts := starts_encode cs
    rw [← h, flatten_append, flatten_cons, starts_append, starts_append, ← hcs,
      flatMap_append, flatMap_cons, List.length_append, List.length_append] at hstarts
    omega
  · intro hheads
    induction pieces generalizing cs with
    | nil =>
      have hlength : cs.length = 0 := by
        rw [← starts_encode, ← h]
        rfl
      rw [eq_nil_of_length_eq_zero hlength]
      rfl
    | cons piece pieces ih =>
      have hrest := fun p hp => hheads p (mem_cons_of_mem piece hp)
      rw [flatten_cons] at h
      obtain ⟨cs₁, cs₂, rfl, rfl, hcs₂⟩ := exists_of_append_eq_encode h (head?_flatten hrest)
      have hpiece := decodeLossy_encode cs₁ []
      rw [append_nil, decodeLossy_nil, append_nil] at hpiece
      rw [flatMap_cons, ih hcs₂ hrest, hpiece]

end XLStatus.Utf8
