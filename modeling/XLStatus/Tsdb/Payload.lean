import XLStatus.Alerts.Window
import XLStatus.Lib.JsonText
import XLStatus.Tsdb.StoreDefs

/-! The size that the payload of a sample is taken to have, and the size of its JSON text. -/

namespace XLStatus.Tsdb

open Alerts (Value Num Float64)
open JsonText String
open Text (len)

variable {F : Type}

def numberText (ryu : F → String) : Num F → String
  | .posInt n => toString n.toNat
  | .negInt n => toString n.toInt
  | .float x => ryu x

mutual

def toJson (ryu : F → String) : Value F → String
  | .null => "null"
  | .bool b => if b then "true" else "false"
  | .number n => numberText ryu n
  | .string s => stringJson s
  | .array items => "[" ++ itemsJson ryu true items ++ "]"
  | .object map => "\x7b" ++ fieldsJson ryu true map ++ "\x7d"

def itemsJson (ryu : F → String) : Bool → List (Value F) → String
  | _, [] => ""
  | first, item :: items =>
    (if first then "" else ",") ++ toJson ryu item ++ itemsJson ryu false items

def fieldsJson (ryu : F → String) : Bool → List (String × Value F) → String
  | _, [] => ""
  | first, (k, v) :: map =>
    (if first then "" else ",") ++ stringJson k ++ ":" ++ toJson ryu v ++ fieldsJson ryu false map

end

mutual

def nestingDepth : Value F → ℕ
  | .array items => itemsDepth items
  | .object map => fieldsDepth map
  | _ => 0

def itemsDepth : List (Value F) → ℕ
  | [] => 0
  | item :: items => max (nestingDepth item + 1) (itemsDepth items)

def fieldsDepth : List (String × Value F) → ℕ
  | [] => 0
  | (_, v) :: map => max (nestingDepth v + 1) (fieldsDepth map)

end

mutual

def UsesOnly (p : Char → Prop) : Value F → Prop
  | .string s => ∀ c ∈ s.toList, p c
  | .array items => ItemsUseOnly p items
  | .object map => FieldsUseOnly p map
  | _ => True

def ItemsUseOnly (p : Char → Prop) : List (Value F) → Prop
  | [] => True
  | item :: items => UsesOnly p item ∧ ItemsUseOnly p items

def FieldsUseOnly (p : Char → Prop) : List (String × Value F) → Prop
  | [] => True
  | (k, v) :: map => (∀ c ∈ k.toList, p c) ∧ UsesOnly p v ∧ FieldsUseOnly p map

end

theorem len_toString_le {n : ℕ} (h : n < 2 ^ 64) : len (toString n) ≤ 20 := by
  rw [len_toString]
  exact Nat.toDigits_length 10 n 20 (by decide) (h.trans (by decide))

theorem len_toString_int_le {n : ℤ} (h : n.natAbs ≤ 2 ^ 63) : len (toString n) ≤ 20 := by
  cases n with
  | ofNat => exact len_toString_le (lt_of_le_of_lt h (by decide))
  | negSucc n =>
    have hlt : n + 1 < 10 ^ 19 := lt_of_le_of_lt h (by decide)
    change len ("-" ++ toString (n + 1)) ≤ 20
    rw [len_append, len_toString (n + 1)]
    have hdigits := Nat.toDigits_length 10 (n + 1) 19 (by decide) hlt
    change 1 + _ ≤ 20
    omega

section Bound

variable {f : Float64 F} {ryu : F → String}

def RyuBound (f : Float64 F) (ryu : F → String) : Prop :=
  ∀ x, f.isFinite x = true → len (ryu x) ≤ 24

theorem len_numberText_le (hryu : RyuBound f ryu) {n : Num F}
    (h : ((Value.number n).asF64 f).all f.isFinite = true) : len (numberText ryu n) ≤ 24 := by
  cases n with
  | posInt n => exact (len_toString_le n.toNat_lt).trans (by decide)
  | negInt n =>
    refine (len_toString_int_le ?_).trans (by decide)
    have hlow := n.le_toInt
    have hhigh := n.toInt_lt
    omega
  | float x => exact hryu x h

theorem addBytes_eq_ok {accumulated n total : ℕ} (h : addBytes accumulated n = .ok total) :
    total = accumulated + n ∧ total ≤ maxSamplePayloadBytes := by
  unfold addBytes at h
  split_ifs at h with hle
  cases h
  exact ⟨rfl, not_lt.mp hle⟩

mutual

theorem counted_walk (hryu : RyuBound f ryu) {p : Char → Prop} (hp : ∀ c, p c → ¬ NeedsEscape c)
    (value : Value F) {depth accumulated total : ℕ}
    (h : walk f value depth accumulated = .ok total) :
    depth + nestingDepth value ≤ maxSampleJsonDepth ∧ total ≤ maxSamplePayloadBytes ∧
      (UsesOnly p value → accumulated + len (toJson ryu value) ≤ total) := by
  unfold walk at h
  split_ifs at h with hdepth
  have hdepth := not_lt.mp hdepth
  cases value with
  | null =>
    obtain ⟨rfl, htotal⟩ := addBytes_eq_ok h
    exact ⟨hdepth, htotal, fun _ => le_rfl⟩
  | bool b =>
    obtain ⟨rfl, htotal⟩ := addBytes_eq_ok h
    refine ⟨hdepth, htotal, fun _ => ?_⟩
    cases b <;> exact le_rfl
  | number =>
    dsimp only at h
    split_ifs at h with hfinite
    obtain ⟨rfl, htotal⟩ := addBytes_eq_ok h
    exact ⟨hdepth, htotal, fun _ => Nat.add_le_add_left (len_numberText_le hryu hfinite) _⟩
  | string s =>
    obtain ⟨rfl, htotal⟩ := addBytes_eq_ok h
    refine ⟨hdepth, htotal, fun huses => ?_⟩
    have hplain : ∀ c ∈ s.toList, ¬ NeedsEscape c := fun c hc => hp c (by
      unfold UsesOnly at huses
      exact huses c hc)
    unfold toJson
    rw [len_stringJson_of_plain hplain]
  | array items =>
    obtain ⟨counted, hopen, hitems⟩ := Checked.bind_eq_ok.mp h
    obtain ⟨rfl, hcounted⟩ := addBytes_eq_ok hopen
    obtain ⟨hdeep, htotal, htext⟩ := counted_walkItems hryu hp items hdepth hcounted true hitems
    unfold nestingDepth UsesOnly toJson
    refine ⟨hdeep, htotal, fun huses => ?_⟩
    have hlen := htext huses
    rw [len_append, len_append]
    change accumulated + (1 + _ + 1) ≤ total
    omega
  | object map =>
    obtain ⟨counted, hopen, hfields⟩ := Checked.bind_eq_ok.mp h
    obtain ⟨rfl, hcounted⟩ := addBytes_eq_ok hopen
    obtain ⟨hdeep, htotal, htext⟩ := counted_walkFields hryu hp map hdepth hcounted true hfields
    unfold nestingDepth UsesOnly toJson
    refine ⟨hdeep, htotal, fun huses => ?_⟩
    have hlen := htext huses
    rw [len_append, len_append]
    change accumulated + (1 + _ + 1) ≤ total
    omega

theorem counted_walkItems (hryu : RyuBound f ryu) {p : Char → Prop}
    (hp : ∀ c, p c → ¬ NeedsEscape c) (items : List (Value F)) {depth accumulated total : ℕ}
    (hdepth : depth ≤ maxSampleJsonDepth) (hcounted : accumulated ≤ maxSamplePayloadBytes)
    (first : Bool) (h : walkItems f items depth accumulated = .ok total) :
    depth + itemsDepth items ≤ maxSampleJsonDepth ∧ total ≤ maxSamplePayloadBytes ∧
      (ItemsUseOnly p items → accumulated + len (itemsJson ryu first items) ≤ total) := by
  cases items with
  | nil =>
    unfold walkItems at h
    cases h
    exact ⟨hdepth, hcounted, fun _ => le_rfl⟩
  | cons item items =>
    unfold walkItems at h
    obtain ⟨comma, hcomma, h⟩ := Checked.bind_eq_ok.mp h
    obtain ⟨rfl, -⟩ := addBytes_eq_ok hcomma
    obtain ⟨counted, hitem, hrest⟩ := Checked.bind_eq_ok.mp h
    obtain ⟨hdeep, hle, htext⟩ := counted_walk hryu hp item hitem
    obtain ⟨hdeep', htotal, htext'⟩ := counted_walkItems hryu hp items hdepth hle false hrest
    unfold itemsDepth ItemsUseOnly itemsJson
    refine ⟨by omega, htotal, fun huses => ?_⟩
    have hlen := htext huses.1
    have hlen' := htext' huses.2
    have hseparator : len (if first then "" else ",") ≤ 1 := by cases first <;> decide
    rw [len_append, len_append]
    omega

theorem counted_walkFields (hryu : RyuBound f ryu) {p : Char → Prop}
    (hp : ∀ c, p c → ¬ NeedsEscape c) (map : List (String × Value F))
    {depth accumulated total : ℕ} (hdepth : depth ≤ maxSampleJsonDepth)
    (hcounted : accumulated ≤ maxSamplePayloadBytes) (first : Bool)
    (h : walkFields f map depth accumulated = .ok total) :
    depth + fieldsDepth map ≤ maxSampleJsonDepth ∧ total ≤ maxSamplePayloadBytes ∧
      (FieldsUseOnly p map → accumulated + len (fieldsJson ryu first map) ≤ total) := by
  cases map with
  | nil =>
    unfold walkFields at h
    cases h
    exact ⟨hdepth, hcounted, fun _ => le_rfl⟩
  | cons field map =>
    obtain ⟨k, v⟩ := field
    unfold walkFields at h
    obtain ⟨key, hkey, h⟩ := Checked.bind_eq_ok.mp h
    obtain ⟨rfl, -⟩ := addBytes_eq_ok hkey
    obtain ⟨counted, hvalue, hrest⟩ := Checked.bind_eq_ok.mp h
    obtain ⟨hdeep, hle, htext⟩ := counted_walk hryu hp v hvalue
    obtain ⟨hdeep', htotal, htext'⟩ := counted_walkFields hryu hp map hdepth hle false hrest
    unfold fieldsDepth FieldsUseOnly fieldsJson
    refine ⟨by omega, htotal, fun huses => ?_⟩
    have hlen := htext huses.2.1
    have hlen' := htext' huses.2.2
    have hseparator : len (if first then "" else ",") ≤ 1 := by cases first <;> decide
    rw [len_append, len_append, len_append, len_append,
      len_stringJson_of_plain fun c hc => hp c (huses.1 c hc)]
    change accumulated + (_ + (len k + 2) + 1 + _ + _) ≤ total
    omega

end

theorem len_toJson_replicate (ryu : F → String) {c : Char} (hc : NeedsEscape c) (n : ℕ) :
    len (ofList (List.replicate n c)) = n ∧
      2 * n + 2 ≤ len (toJson ryu (.string (ofList (List.replicate n c)))) := by
  obtain ⟨hone, htwo⟩ := length_encode_escapeChar_of_needsEscape hc
  constructor
  · rw [Utf8.len_ofList, Utf8.length_encode_eq_sum, List.map_replicate, List.sum_replicate, hone,
      smul_eq_mul, mul_one]
  · unfold toJson
    rw [len_stringJson, toList_ofList, length_encode_flatMap_escapeChar,
      List.map_replicate, List.sum_replicate, smul_eq_mul]
    have hmul := Nat.mul_le_mul_left n htwo
    omega

theorem validateSamplePayload_string (f : Float64 F) {s : String}
    (h : len s + 2 ≤ maxSamplePayloadBytes) :
    validateSamplePayload f (.string s) = .ok (len s + 2) := by
  unfold validateSamplePayload walk
  rw [if_neg (Nat.not_lt_zero _)]
  change addBytes 0 (len s + 2) = _
  unfold addBytes
  rw [Nat.zero_add, if_neg (not_lt.mpr h)]

/-- The depth of an accepted payload is bounded; the size of its text is for as long as its
strings have no character that JSON escapes. -/
theorem payload_bounded_iff (hryu : RyuBound f ryu) :
    (∀ value total, validateSamplePayload f value = .ok total → nestingDepth value ≤ 16) ∧
    ∀ p : Char → Prop,
      (∀ value total, UsesOnly p value → validateSamplePayload f value = .ok total →
        len (toJson ryu value) ≤ 64 * 1024) ↔ ∀ c, p c → ¬ NeedsEscape c := by
  constructor
  · intro value total h
    have hcounted := counted_walk hryu (fun c (hc : False) => hc.elim) value h
    rw [Nat.zero_add] at hcounted
    exact hcounted.1
  · intro p
    constructor
    · intro hall c hpc hc
      obtain ⟨hlen, hjson⟩ := len_toJson_replicate ryu hc 65534
      have hok := validateSamplePayload_string f (s := ofList (List.replicate 65534 c))
        (by rw [hlen]; decide)
      have huses : UsesOnly (F := F) p (.string (ofList (List.replicate 65534 c))) := by
        unfold UsesOnly
        rw [toList_ofList]
        intro d hd
        rwa [List.eq_of_mem_replicate hd]
      have hle := hall _ _ huses hok
      omega
    · intro hp value total huses h
      obtain ⟨-, htotal, htext⟩ := counted_walk hryu hp value h
      have hlen := htext huses
      rw [Nat.zero_add] at hlen
      exact hlen.trans htotal

end Bound

namespace PayloadSample

def ryu (_ : ℚ) : String := "0.0"

def quotes : Value ℚ := .string (ofList (List.replicate 65534 '"'))

end PayloadSample

open PayloadSample Alerts.WindowSample in
theorem payload_bounded_of_letters :
    RyuBound float ryu ∧ len (toJson ryu (.array [.string "ok", .null])) ≤ 64 * 1024 := by
  have hryu : RyuBound float ryu := fun _ _ => (by decide : len "0.0" ≤ 24)
  refine ⟨hryu, ((payload_bounded_iff hryu).2 fun c => c = 'o' ∨ c = 'k').mpr ?_ _ 12 ?_ rfl⟩
  · rintro c (rfl | rfl) <;> unfold NeedsEscape <;> decide
  · simp [UsesOnly, ItemsUseOnly]

open PayloadSample Alerts.WindowSample in
theorem quotes_above_limit :
    validateSamplePayload float quotes = .ok 65536 ∧ 131070 ≤ len (toJson ryu quotes) := by
  obtain ⟨hlen, hjson⟩ := len_toJson_replicate ryu (c := '"') (.inl rfl) 65534
  have hok := validateSamplePayload_string float (s := ofList (List.replicate 65534 '"'))
    (by rw [hlen]; decide)
  rw [hlen] at hok
  exact ⟨hok, hjson⟩

end XLStatus.Tsdb
