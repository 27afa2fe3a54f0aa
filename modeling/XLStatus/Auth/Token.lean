import XLStatus.Lib.Text

/-! Token hashes and the comparison of secrets. -/

namespace XLStatus.Auth

open List

abbrev Sha256 := List UInt8 → Fin 32 → UInt8

def hexDigit (n : UInt8) : Char := (Nat.digitChar n.toNat)

def hexEncode (bytes : List UInt8) : String :=
  String.ofList (bytes.flatMap fun b => [hexDigit (b / 16), hexDigit (b % 16)])

def hashToken (sha256 : Sha256) (token : String) : String :=
  hexEncode (ofFn (sha256 (Text.bytes token)))

def constantTimeEq (left right : List UInt8) : Bool :=
  if left.length ≠ right.length then false
  else (left.zip right).foldl (fun acc (a, b) => acc ||| (a ^^^ b)) 0 == 0

theorem foldl_difference_eq_zero_iff {l : List (UInt8 × UInt8)} {acc : UInt8} :
    l.foldl (fun acc (a, b) => acc ||| (a ^^^ b)) acc = 0 ↔ acc = 0 ∧ ∀ p ∈ l, p.1 = p.2 := by
  induction l generalizing acc with
  | nil => simp
  | cons p l ih =>
    rw [foldl_cons, ih, UInt8.or_eq_zero_iff, UInt8.xor_eq_zero_iff, forall_mem_cons,
      and_assoc]

theorem constantTimeEq_iff {left right : List UInt8} :
    constantTimeEq left right = true ↔ left = right := by
  unfold constantTimeEq
  split
  · rename_i hlen
    simp only [Bool.false_eq_true, false_iff]
    rintro rfl
    exact hlen rfl
  · rename_i hlen
    rw [beq_iff_eq, foldl_difference_eq_zero_iff]
    constructor
    · rintro ⟨-, hall⟩
      refine ext_getElem (not_not.mp hlen) fun i hl hr => ?_
      exact hall (left[i], right[i]) (mem_iff_getElem.mpr
        ⟨i, by simpa using ⟨hl, hr⟩, getElem_zip⟩)
    · rintro rfl
      refine ⟨rfl, fun p hp => ?_⟩
      obtain ⟨i, hi, rfl⟩ := getElem_of_mem hp
      simp

end XLStatus.Auth
