import XLStatus.Web.Security

/-! Redirect targets. The check for the login page looks at the path as it is written, a browser
follows it without its dot segments. -/

namespace XLStatus.Web

open Option

def utf16 (c : Char) : JsString :=
  if c.toNat < 0x10000 then [.ofNat c.toNat]
  else [.ofNat (0xd800 + (c.toNat - 0x10000) / 0x400), .ofNat (0xdc00 + (c.toNat - 0x10000) % 0x400)]

def hexOf (u : UInt16) : Option ℕ := JsonText.hexValue (Char.ofNat u.toNat)

def percentBytes : JsString → List UInt8
  | u :: a :: b :: rest => match hexOf a, hexOf b with
    | some high, some low =>
      if u = unit '%' then .ofNat (16 * high + low) :: percentBytes rest else []
    | _, _ => []
  | _ => []

def decodeWithin : ℕ → JsString → Option JsString
  | _, [] => some []
  | 0, _ => none
  | fuel + 1, u :: rest =>
    if u = unit '%' then (Utf8.decodeChar (percentBytes (u :: rest))).bind fun c =>
      (decodeWithin fuel ((u :: rest).drop (3 * c.utf8Size))).map (utf16 c ++ ·)
    else (decodeWithin fuel rest).map (u :: ·)

def decodeURIComponent (s : JsString) : Option JsString := decodeWithin s.length s

def scalars : JsString → List Char
  | [] => []
  | u :: rest =>
    if 0xd800 ≤ u ∧ u ≤ 0xdbff then match rest with
      | [] => [Utf8.replacement]
      | v :: rest =>
        if 0xdc00 ≤ v ∧ v ≤ 0xdfff then
          Char.ofNat (0x10000 + (u.toNat - 0xd800) * 0x400 + (v.toNat - 0xdc00)) :: scalars rest
        else Utf8.replacement :: scalars (v :: rest)
    else if 0xdc00 ≤ u ∧ u ≤ 0xdfff then Utf8.replacement :: scalars rest
    else Char.ofNat u.toNat :: scalars rest

def isSegment (names : List String) (segment : List Char) : Bool :=
  names.any fun name => segment.map Char.toLower == name.toList

def removeDots : List (List Char) → List (List Char) → List (List Char)
  | kept, [] => kept
  | kept, segment :: rest =>
    let last := if rest = [] then [[]] else []
    if isSegment ["..", "%2e.", ".%2e", "%2e%2e"] segment then
      removeDots (kept.dropLast ++ last) rest
    else if isSegment [".", "%2e"] segment then removeDots (kept ++ last) rest
    else removeDots (kept ++ [segment]) rest

def isPathEncoded (c : Char) : Bool :=
  c.toNat ≤ 0x20 || 0x7f ≤ c.toNat || "\"#<>?^\x60\x7b\x7d".toList.contains c

def encodePath (path : List Char) : List Char :=
  path.flatMap fun c => if isPathEncoded c then (String.utf8EncodeChar c).flatMap fun b =>
    ['%', Percent.upperHexDigit (b.toNat / 16), Percent.upperHexDigit (b.toNat % 16)] else [c]

def absolutePath (reference : JsString) : Option (List Char) :=
  let input := ((scalars reference).dropWhile (·.toNat ≤ 0x20)).rdropWhile (·.toNat ≤ 0x20)
  match input.filter fun c => !"\t\n\r".toList.contains c with
  | '/' :: rest =>
    if rest.head?.any (fun c => c == '/' || c == '\\') then none
    else some (rest.takeWhile fun c => c != '?' && c != '#')
  | _ => none

def followed (path : List Char) : List Char :=
  '/' :: ['/'].intercalate (removeDots [] (path.splitOnP fun c => c == '/' || c == '\\'))

structure Resolved where
  origin : JsString
  pathname : List Char
  deriving DecidableEq

def resolve (origin reference : JsString) : Option Resolved :=
  (absolutePath reference).map fun path => ⟨origin, encodePath (followed path)⟩

def isAuthPath (path : JsString) : Bool :=
  path = js "/login" ∨ js "/login/" <+: path ∨ path = js "/oauth/callback" ∨
    js "/oauth/callback/" <+: path

def internalOrigin : JsString := js "https://xlstatus.internal"

def isRootedPath (path : JsString) : Bool :=
  js "/" <+: path ∧ ¬ js "//" <+: path ∧ unit '\\' ∉ path ∧ !hasControlCharacters path

def sanitizeRedirectPath (toLowerCase : JsString → JsString) (value : Option JsString)
    (fallback : JsString) : JsString :=
  match value with
  | none => fallback
  | some value =>
    if value.length > 2048 ∨ value ≠ trim value ∨ !isRootedPath value then fallback
    else match decodeURIComponent (value.takeWhile fun u => u != unit '?' && u != unit '#'),
        resolve internalOrigin value with
      | some decoded, some parsed =>
        if !isRootedPath decoded ∨ parsed.origin ≠ internalOrigin ∨ ¬ ['/'] <+: parsed.pathname ∨
          ['/', '/'] <+: parsed.pathname ∨ '\\' ∈ parsed.pathname ∨
          isAuthPath (toLowerCase decoded) then fallback
        else value
      | _, _ => fallback

def percentDecoded (path : List Char) : JsString :=
  (Utf8.decodeLossy (Percent.decode path)).flatMap utf16

/-- A target on the origin, with one slash in front, that is no page of the login. -/
def LocalTarget (toLowerCase : JsString → JsString) (origin target : JsString) : Prop :=
  ∃ url, resolve origin target = some url ∧ url.origin = origin ∧
    ¬ ['/', '/'] <+: url.pathname ∧ isAuthPath (toLowerCase (percentDecoded url.pathname)) = false

theorem encodePath_cons_of_not {c : Char} (h : isPathEncoded c = false) (path : List Char) :
    encodePath (c :: path) = c :: encodePath path := by
  simp [encodePath, h]

theorem decode_encodePath_cons {c : Char} (h : isPathEncoded c = true) (path : List Char) :
    Percent.decode (encodePath (c :: path)) =
      String.utf8EncodeChar c ++ Percent.decode (encodePath path) := by
  rw [encodePath, List.flatMap_cons, if_pos h]
  induction String.utf8EncodeChar c with
  | nil => rfl
  | cons b bytes ih => exact (Percent.decode_triple b _).trans (congrArg _ ih)

theorem eq_cons_of_encodePath {path : List Char} {a : Char} {rest : List Char}
    (h : encodePath path = a :: rest) (ha : JsonText.hexValue a ≠ none) :
    ∃ tail, path = a :: tail ∧ encodePath tail = rest := by
  cases path with
  | nil => cases h
  | cons c path =>
    cases hc : isPathEncoded c with
    | false =>
      rw [encodePath_cons_of_not hc] at h
      obtain ⟨rfl, hrest⟩ := List.cons.inj h
      exact ⟨path, rfl, hrest⟩
    | true =>
      obtain ⟨b, bytes, hbytes⟩ := List.exists_cons_of_ne_nil (String.utf8EncodeChar_ne_nil (c := c))
      rw [encodePath, List.flatMap_cons, if_pos hc, hbytes] at h
      obtain rfl : '%' = a := (List.cons.inj h).1
      exact absurd rfl ha

theorem decode_encodePath (path : List Char) :
    Percent.decode (encodePath path) = Percent.decode path := by
  have hhex : ∀ c, isPathEncoded c = true → JsonText.hexValue c = none := by
    intro c hc
    by_cases hascii : c.toNat < 128
    · have hall : ∀ n < 128, isPathEncoded (Char.ofNat n) = true →
        JsonText.hexValue (Char.ofNat n) = none := by decide +kernel
      exact Char.ofNat_toNat c ▸ hall c.toNat hascii (by rwa [Char.ofNat_toNat])
    · have hgt : ∀ d : Char, d.toNat < 128 → ¬ c ≤ d := fun d hd h =>
        hascii (lt_of_le_of_lt (UInt32.le_iff_toNat_le.mp (Char.le_def.mp h)) hd)
      simp [JsonText.hexValue, hgt '9' (by decide), hgt 'f' (by decide), hgt 'F' (by decide)]
  induction hn : path.length using Nat.strongRecOn generalizing path with
  | ind n ih =>
    cases path with
    | nil => rfl
    | cons c path =>
      have hpath := ih path.length (by rw [← hn]; exact Nat.lt_succ_self _) path rfl
      cases hc : isPathEncoded c with
      | true =>
        have hne : c ≠ '%' := by
          rintro rfl
          exact absurd hc (by decide)
        rw [decode_encodePath_cons hc, hpath, Percent.decode_cons_of_ne hne]
      | false =>
        rw [encodePath_cons_of_not hc]
        by_cases hpercent : c = '%'
        · subst hpercent
          by_cases hdigits : ∃ a b t, path = a :: b :: t ∧ JsonText.hexValue a ≠ none ∧
              JsonText.hexValue b ≠ none
          · obtain ⟨a, b, t, rfl, ha, hb⟩ := hdigits
            have hplain : ∀ d, JsonText.hexValue d ≠ none → isPathEncoded d = false :=
              fun d hd => eq_false_of_ne_true fun h => hd (hhex d h)
            obtain ⟨high, hhigh⟩ := ne_none_iff_exists'.mp ha
            obtain ⟨low, hlow⟩ := ne_none_iff_exists'.mp hb
            rw [encodePath_cons_of_not (hplain a ha), encodePath_cons_of_not (hplain b hb),
              Percent.decode, Percent.decode, hhigh, hlow]
            exact congrArg _ (ih t.length (by rw [← hn]; simp; omega) t rfl)
          · rw [Percent.decode_percent, Percent.decode_percent, hpath]
            · rintro a b t rfl
              by_contra h
              exact hdigits ⟨a, b, t, rfl, not_or.mp h⟩
            · intro a b t heq
              by_contra h
              obtain ⟨ha, hb⟩ := not_or.mp h
              obtain ⟨tail, rfl, htail⟩ := eq_cons_of_encodePath heq ha
              obtain ⟨tail, rfl, -⟩ := eq_cons_of_encodePath htail hb
              exact hdigits ⟨a, b, tail, rfl, ha, hb⟩
        · rw [Percent.decode_cons_of_ne hpercent, Percent.decode_cons_of_ne hpercent, hpath]

end XLStatus.Web
