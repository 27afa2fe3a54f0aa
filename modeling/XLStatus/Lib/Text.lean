import Mathlib.Data.List.DropRight
import Mathlib.Tactic

/-! Text functions with the meaning the source's string type gives them: lengths
count UTF-8 bytes, and the character classes are the Unicode ones. -/

namespace XLStatus.Text

open List String

def len (s : String) : ℕ := s.utf8ByteSize

def startsWith (s pat : String) : Bool := pat.toList.isPrefixOf s.toList

def isControl (c : Char) : Bool := c.val ≤ 0x1f || (0x7f ≤ c.val && c.val ≤ 0x9f)

def isWhitespace (c : Char) : Bool :=
  (0x09 ≤ c.val && c.val ≤ 0x0d) || c.val == 0x20 || c.val == 0x85 || c.val == 0xa0
    || c.val == 0x1680 || (0x2000 ≤ c.val && c.val ≤ 0x200a) || c.val == 0x2028
    || c.val == 0x2029 || c.val == 0x202f || c.val == 0x205f || c.val == 0x3000

def trim (s : String) : String :=
  ofList ((s.toList.dropWhile isWhitespace).reverse.dropWhile isWhitespace).reverse

def isLowerHexDigit (c : Char) : Bool := ('0' ≤ c && c ≤ '9') || ('a' ≤ c && c ≤ 'f')

def isAsciiHexDigit (c : Char) : Bool := isLowerHexDigit c || ('A' ≤ c && c ≤ 'F')

def bytes (s : String) : List UInt8 := s.toList.flatMap utf8EncodeChar

def stripPrefix (s pat : String) : Option String :=
  if startsWith s pat then some (ofList (s.toList.drop pat.toList.length)) else none

def splitOnce (s : String) (c : Char) : Option (String × String) :=
  match s.toList.dropWhile (· != c) with
  | [] => none
  | _ :: rest => some (ofList (s.toList.takeWhile (· != c)), ofList rest)

def parseInt64 (s : String) : Option ℤ :=
  let (negative, digits) := match s.toList with
    | '-' :: digits => (true, digits)
    | '+' :: digits => (false, digits)
    | digits => (false, digits)
  let value : ℤ := Nat.ofDigitChars 10 digits 0
  let signed := if negative then -value else value
  if digits ≠ [] ∧ digits.all Char.isDigit ∧ -2 ^ 63 ≤ signed ∧ signed < 2 ^ 63 then some signed
  else none

def parseUsize (s : String) : Option ℕ :=
  let digits := match s.toList with
    | '+' :: digits => digits
    | digits => digits
  let value := Nat.ofDigitChars 10 digits 0
  if digits ≠ [] ∧ digits.all Char.isDigit ∧ value < 2 ^ 64 then some value else none

def parseUnsigned (w : ℕ) (s : String) : Option ℕ :=
  let digits := match s.toList with
    | '+' :: digits => digits
    | digits => digits
  let value := Nat.ofDigitChars 10 digits 0
  if digits ≠ [] ∧ digits.all Char.isDigit ∧ value < 2 ^ w then some value else none

def split (s : String) (c : Char) : List String := (s.toList.splitOn c).map ofList

def splitWhitespace (s : String) : List String :=
  ((s.toList.splitOnP isWhitespace).filter (· ≠ [])).map ofList

def padZero (width n : ℕ) : String :=
  ofList (List.replicate (width - (Nat.toDigits 10 n).length) '0' ++ Nat.toDigits 10 n)

variable {s pat : String} {c : Char} {n : ℕ}

theorem startsWith_iff : startsWith s pat = true ↔ pat.toList <+: s.toList :=
  isPrefixOf_iff_prefix

theorem stripPrefix_append (pat s : String) : stripPrefix (pat ++ s) pat = some s := by
  have hstarts : startsWith (pat ++ s) pat = true := by
    rw [startsWith_iff, toList_append]
    exact prefix_append _ _
  rw [stripPrefix, if_pos hstarts, toList_append, drop_left, ofList_toList]

theorem splitOnce_eq_some {a b : String} :
    splitOnce s c = some (a, b) ↔ s.toList = a.toList ++ c :: b.toList ∧ c ∉ a.toList := by
  unfold splitOnce
  constructor
  · intro h
    split at h
    · cases h
    · rename_i d rest hdrop
      obtain ⟨rfl, rfl⟩ := Prod.mk.inj (Option.some.inj h)
      simp only [toList_ofList]
      have hd : d = c := by
        have hne : s.toList.dropWhile (· != c) ≠ [] := by simp [hdrop]
        have := head_dropWhile_not (· != c) hne
        simpa [hdrop] using this
      refine ⟨?_, fun hmem => ?_⟩
      · have := List.takeWhile_append_dropWhile (p := (· != c)) (l := s.toList)
        rw [hdrop, hd] at this
        exact this.symm
      · simpa using mem_takeWhile_imp hmem
  · rintro ⟨hs, hc⟩
    have hall : ∀ d ∈ a.toList, (d != c) = true := by
      intro d hd
      rw [bne_iff_ne]
      rintro rfl
      exact hc hd
    have hdrop : s.toList.dropWhile (· != c) = c :: b.toList := by
      rw [hs, dropWhile_append_of_pos hall, dropWhile_cons_of_neg (by simp)]
    have htake : s.toList.takeWhile (· != c) = a.toList := by
      rw [hs, takeWhile_append_of_pos hall, takeWhile_cons_of_neg (by simp),
        append_nil]
    rw [hdrop, htake]
    simp

theorem splitOnce_eq_none : splitOnce s c = none ↔ c ∉ s.toList := by
  unfold splitOnce
  split
  · rename_i hdrop
    rw [dropWhile_eq_nil_iff] at hdrop
    exact iff_of_true rfl fun hmem => by simpa using hdrop c hmem
  · rename_i d rest hdrop
    have hc : c ∈ s.toList := by
      by_contra hmem
      have hnil : s.toList.dropWhile (· != c) = [] :=
        dropWhile_eq_nil_iff.mpr fun e he => by
          rw [bne_iff_ne]
          rintro rfl
          exact hmem he
      simp [hnil] at hdrop
    simp [hc]

theorem toList_toString (n : ℕ) : (toString n).toList = Nat.toDigits 10 n := by
  rw [Nat.toString_eq_repr, Nat.repr_eq_ofList_toDigits, toList_ofList]

theorem isDigit_of_mem_toDigits (h : c ∈ Nat.toDigits 10 n) :
    c.isDigit = true :=
  Nat.isDigit_of_mem_toDigits (by decide) (by decide) h

theorem parseInt64_toString (h : n < 2 ^ 63) : parseInt64 (toString n) = some (n : ℤ) := by
  have hdigit : ∀ c ∈ Nat.toDigits 10 n, c.isDigit = true := fun c hc => isDigit_of_mem_toDigits hc
  unfold parseInt64
  rw [toList_toString]
  -- A digit is no sign.
  have hsign : (match Nat.toDigits 10 n with
      | '-' :: digits => (true, digits)
      | '+' :: digits => (false, digits)
      | digits => (false, digits)) = (false, Nat.toDigits 10 n) := by
    split
    · rename_i heq
      have := hdigit '-' (by simp [heq])
      simp at this
    · rename_i heq
      have := hdigit '+' (by simp [heq])
      simp at this
    · rfl
  rw [hsign]
  simp only [Nat.ofDigitChars_ten_toDigits, Bool.false_eq_true, if_false]
  have hrange : -2 ^ 63 ≤ (n : ℤ) ∧ (n : ℤ) < 2 ^ 63 := by
    constructor <;> omega
  rw [if_pos ⟨Nat.toDigits_ne_nil, all_eq_true.mpr hdigit, hrange⟩]

theorem stripPrefix_eq_some {rest : String} :
    stripPrefix s pat = some rest ↔ s = pat ++ rest := by
  constructor
  · intro h
    unfold stripPrefix at h
    split at h
    · rename_i hstarts
      obtain ⟨t, ht⟩ := startsWith_iff.mp hstarts
      cases h
      rw [← toList_inj, toList_append, toList_ofList, ← ht, drop_left]
    · cases h
  · rintro rfl
    exact stripPrefix_append pat rest

theorem toByteArray_bytes (s : String) : (bytes s).toByteArray = s.toByteArray := by
  rw [← utf8Encode_toList, utf8Encode]
  rfl

theorem bytes_inj {t : String} : bytes s = bytes t ↔ s = t := by
  refine ⟨fun h => ?_, congrArg bytes⟩
  rw [← String.toByteArray_inj, ← toByteArray_bytes s, ← toByteArray_bytes t, h]

theorem length_bytes (s : String) : (bytes s).length = len s := by
  rw [len, utf8ByteSize, ← toByteArray_bytes, List.size_toByteArray]

theorem isWhitespace_of_isAlphanum (h : c.isAlphanum = true) :
    isWhitespace c = false := by
  delta Char.isAlphanum Char.isAlpha Char.isUpper Char.isLower Char.isDigit at h
  unfold isWhitespace
  simp only [UInt32.le_iff_toNat_le, Bool.or_eq_true, Bool.and_eq_true, decide_eq_true_eq,
    Bool.or_eq_false_iff, Bool.and_eq_false_iff, decide_eq_false_iff_not, beq_eq_false_iff_ne,
    ne_eq, ← UInt32.toNat_inj, UInt32.reduceToNat, Char.reduceVal, ge_iff_le] at h ⊢
  omega

theorem trim_trim (s : String) : trim (trim s) = trim s := by
  have key : ∀ l : List Char,
      (((l.dropWhile isWhitespace).rdropWhile isWhitespace).dropWhile isWhitespace).rdropWhile
        isWhitespace = (l.dropWhile isWhitespace).rdropWhile isWhitespace := by
    intro l
    have hhead : ((l.dropWhile isWhitespace).rdropWhile isWhitespace).dropWhile isWhitespace =
        (l.dropWhile isWhitespace).rdropWhile isWhitespace := by
      rw [dropWhile_eq_self_iff]
      intro hl
      have hpre := rdropWhile_prefix isWhitespace (l := l.dropWhile isWhitespace)
      rw [hpre.getElem hl]
      exact dropWhile_get_zero_not isWhitespace l _
    rw [hhead, rdropWhile_idempotent]
  have htrim : ∀ t, trim t =
      ofList ((t.toList.dropWhile isWhitespace).rdropWhile isWhitespace) := fun _ => rfl
  rw [htrim, htrim, toList_ofList, key]

theorem exists_append_trim (s : String) :
    ∃ before after, s.toList = before ++ (trim s).toList ++ after ∧
      (∀ c ∈ before, isWhitespace c = true) ∧ ∀ c ∈ after, isWhitespace c = true := by
  refine ⟨s.toList.takeWhile isWhitespace,
    ((s.toList.dropWhile isWhitespace).reverse.takeWhile isWhitespace).reverse, ?_,
    fun c hc => mem_takeWhile_imp hc,
    fun c hc => mem_takeWhile_imp (mem_reverse.mp hc)⟩
  rw [trim, toList_ofList, List.append_assoc, ← reverse_append,
    List.takeWhile_append_dropWhile, reverse_reverse, List.takeWhile_append_dropWhile]

theorem mem_of_mem_trim (h : c ∈ (trim s).toList) : c ∈ s.toList := by
  unfold trim at h
  rw [toList_ofList, mem_reverse] at h
  have hback := (dropWhile_suffix _).subset h
  exact (dropWhile_suffix _).subset (mem_reverse.mp hback)

theorem trim_of_forall (h : ∀ c ∈ s.toList, isWhitespace c = false) : trim s = s := by
  have hdrop : ∀ l : List Char, (∀ c ∈ l, isWhitespace c = false) →
      l.dropWhile isWhitespace = l := by
    intro l hl
    cases l with
    | nil => rfl
    | cons c => rw [dropWhile_cons_of_neg (by simp [hl c mem_cons_self])]
  rw [trim, hdrop _ h, hdrop _ fun c hc => h c (mem_reverse.mp hc), reverse_reverse,
    ofList_toList]

theorem trim_eq_self {a b : Char} {l : List Char} (hs : s.toList = a :: (l ++ [b]))
    (ha : isWhitespace a = false) (hb : isWhitespace b = false) : trim s = s := by
  have hfront : (a :: (l ++ [b])).dropWhile isWhitespace = a :: (l ++ [b]) :=
    dropWhile_cons_of_neg (by simp [ha])
  have hrev : (a :: (l ++ [b])).reverse = b :: (l.reverse ++ [a]) := by simp
  have hback : (b :: (l.reverse ++ [a])).dropWhile isWhitespace = b :: (l.reverse ++ [a]) :=
    dropWhile_cons_of_neg (by simp [hb])
  rw [trim, hs, hfront, hrev, hback, ← hrev, reverse_reverse, ← hs, ofList_toList]

end XLStatus.Text
