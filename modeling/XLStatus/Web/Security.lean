import XLStatus.Lib.Items
import XLStatus.Lib.Percent
import XLStatus.Lib.Transition

/-! The helpers of the web client for names, paths and shell arguments. A JavaScript string is the
list of its UTF-16 units; a regular expression with the `g` flag keeps where its next search
starts. -/

namespace XLStatus.Web

open List Option

open Transition (run)

abbrev JsString := List UInt16

def unit (c : Char) : UInt16 := UInt16.ofNat c.toNat

def js (s : String) : JsString := s.toList.map unit

def isControl (u : UInt16) : Bool := u ≤ 0x1f || (0x7f ≤ u && u ≤ 0x9f)

def isBidiOrZeroWidth (u : UInt16) : Bool :=
  (0x200b ≤ u && u ≤ 0x200f) || (0x202a ≤ u && u ≤ 0x202e) || (0x2066 ≤ u && u ≤ 0x2069)
    || u == 0xfeff

def isWhiteSpace (u : UInt16) : Bool :=
  (9 ≤ u && u ≤ 13) || u == 0x20 || u == 0xa0 || u == 0x1680 || (0x2000 ≤ u && u ≤ 0x200a)
    || u == 0x2028 || u == 0x2029 || u == 0x202f || u == 0x205f || u == 0x3000 || u == 0xfeff

def trim (s : JsString) : JsString := (s.dropWhile isWhiteSpace).rdropWhile isWhiteSpace

def hasControlCharacters (s : JsString) : Bool := s.any isControl

def lower (u : UInt16) : UInt16 := if 0x41 ≤ u ∧ u ≤ 0x5a then u + 0x20 else u

def isDotSegment (s : JsString) : Bool :=
  [".", "..", "%2e", "%2e.", ".%2e", "%2e%2e"].any fun segment => s.map lower == js segment

def cleaned (s : JsString) : JsString :=
  (s.filter fun u => !isControl u).filter fun u => !isBidiOrZeroWidth u

/-! ## Shell arguments -/

def isShellSpecial (u : UInt16) : Bool := (js "\\\"$\x60").contains u

def escapeShellDoubleQuoted : Option JsString → JsString
  | none => []
  | some v => (cleaned v).flatMap fun u => if isShellSpecial u then [unit '\\', u] else [u]

/-- What a POSIX shell reads up to a closing double quote; `none` if it meets an expansion. -/
def readDoubleQuoted : JsString → Option (JsString × JsString)
  | [] => none
  | u :: rest =>
    if u = unit '"' then some ([], rest)
    else if u = unit '$' ∨ u = unit '\x60' then none
    else if u = unit '\\' then match rest with
      | [] => none
      | v :: rest =>
        if isShellSpecial v then (readDoubleQuoted rest).map (Prod.map (v :: ·) id)
        else if v = unit '\n' then readDoubleQuoted rest
        else (readDoubleQuoted (v :: rest)).map (Prod.map (u :: ·) id)
    else (readDoubleQuoted rest).map (Prod.map (u :: ·) id)

theorem shell_quoting_exact (v rest : JsString) :
    readDoubleQuoted (escapeShellDoubleQuoted (some v) ++ unit '"' :: rest) =
      some (v.filter fun u => !isControl u && !isBidiOrZeroWidth u, rest) := by
  have hread : ∀ s : JsString, readDoubleQuoted
      ((s.flatMap fun u => if isShellSpecial u then [unit '\\', u] else [u]) ++ unit '"' :: rest) =
        some (s, rest) := by
    intro s
    induction s with
    | nil =>
      rw [List.flatMap_nil, List.nil_append, readDoubleQuoted.eq_def]
      exact if_pos rfl
    | cons u s ih =>
      rw [List.flatMap_cons, List.append_assoc]
      cases hspecial : isShellSpecial u with
      | true =>
        rw [if_pos rfl, List.cons_append, List.singleton_append, readDoubleQuoted.eq_def]
        simp only [hspecial, if_true, ih]
        rfl
      | false =>
        have hne : ∀ c ∈ "\\\"$\x60".toList, u ≠ unit c := by
          rintro c hc rfl
          exact Bool.false_ne_true (hspecial.symm.trans
            (contains_iff_mem.mpr (List.mem_map_of_mem hc)))
        rw [if_neg (by simp), singleton_append, readDoubleQuoted.eq_def]
        simp [ih, hne '\\' (by decide), hne '"' (by decide), hne '$' (by decide),
          hne '\x60' (by decide)]
  rw [escapeShellDoubleQuoted, hread, cleaned, List.filter_filter]
  simp only [Bool.and_comm]

/-! ## Identifiers in paths -/

def bidiTest (lastIndex : ℕ) (s : JsString) : Bool × ℕ :=
  match (s.drop lastIndex).findIdx? isBidiOrZeroWidth with
  | some i => (true, lastIndex + i + 1)
  | none => (false, 0)

def percentUtf8 (codePoint : ℕ) : JsString :=
  (String.utf8EncodeChar (Char.ofNat codePoint)).flatMap fun b =>
    [unit '%', unit (Percent.upperHexDigit (b.toNat / 16)),
      unit (Percent.upperHexDigit (b.toNat % 16))]

def isUriUnescaped (u : UInt16) : Bool :=
  (0x30 ≤ u && u ≤ 0x39) || (0x41 ≤ u && u ≤ 0x5a) || (0x61 ≤ u && u ≤ 0x7a)
    || (js "-_.!~*'()").contains u

def encodeURIComponent : JsString → Option JsString
  | [] => some []
  | u :: rest =>
    if isUriUnescaped u then (encodeURIComponent rest).map (u :: ·)
    else if 0xdc00 ≤ u ∧ u ≤ 0xdfff then none
    else if 0xd800 ≤ u ∧ u ≤ 0xdbff then match rest with
      | [] => none
      | v :: rest =>
        if 0xdc00 ≤ v ∧ v ≤ 0xdfff then (encodeURIComponent rest).map
          (percentUtf8 (0x10000 + (u.toNat - 0xd800) * 0x400 + (v.toNat - 0xdc00)) ++ ·)
        else none
    else (encodeURIComponent rest).map (percentUtf8 u.toNat ++ ·)

def invalid : JsString := js "_invalid_"

def encodePathSegment (lastIndex : ℕ) : Option JsString → Option JsString × ℕ
  | none => (some invalid, lastIndex)
  | some value =>
    let trimmed := trim value
    if trimmed = [] ∨ hasControlCharacters trimmed then (some invalid, lastIndex)
    else
      let (found, lastIndex) := bidiTest lastIndex trimmed
      if found ∨ isDotSegment trimmed then (some invalid, lastIndex)
      else match encodeURIComponent trimmed with
        | none => (none, lastIndex)
        | some encoded =>
          (some (if encoded = [] ∨ isDotSegment encoded then invalid else encoded), lastIndex)

structure Url where
  protocol : JsString
  origin : JsString
  hostname : JsString
  username : JsString
  password : JsString
  pathname : JsString
  search : JsString
  hash : JsString
  href : JsString

def Url.isHttp (url : Url) : Bool := url.protocol = js "http:" ∨ url.protocol = js "https:"

/-- `new URL(url, base)`, and the origin of the page if there is one. -/
structure Browser where
  newUrl : JsString → Option JsString → Option Url
  windowOrigin : Option JsString

section Browser

variable (b : Browser)

def sanitizeExternalHttpUrl (value : JsString) : Option JsString :=
  let trimmed := trim value
  if trimmed = [] ∨ trimmed.length > 2048 ∨ hasControlCharacters trimmed then none
  else if js "/" <+: trimmed then
    if js "//" <+: trimmed ∨ unit '\\' ∈ trimmed then none else some trimmed
  else (b.newUrl trimmed none).bind fun parsed =>
    if !parsed.isHttp ∨ parsed.hostname = [] ∨ parsed.username ≠ [] ∨ parsed.password ≠ [] then none
    else some trimmed

def effectiveOrigin (base runtimeOrigin : Option JsString) : Option JsString :=
  match base, (runtimeOrigin.map trim).filter (· ≠ []) with
  | some base, _ => (b.newUrl base none).map Url.origin
  | none, none => b.windowOrigin
  | none, some origin => (b.newUrl origin none).bind fun parsed =>
    if parsed.isHttp then some parsed.origin else b.windowOrigin

def resolveTrimmed (trimmed : JsString) (apiBaseUrl runtimeOrigin : Option JsString) :
    Option JsString :=
  let apiBaseUrl := apiBaseUrl.filter fun base => trim base ≠ []
  let base := apiBaseUrl.bind (sanitizeExternalHttpUrl b)
  if trimmed.any (fun u => isWhiteSpace u || u == unit '\\') ∨ js "//" <+: trimmed ∨
      (trimmed.splitOn (unit '/')).any (fun part =>
        isDotSegment (part.takeWhile fun u => u != unit '?' && u != unit '#')) ∨
      apiBaseUrl.isSome ∧ base = none then none
  else if js "/" <+: trimmed then
    (b.newUrl trimmed (some (js "https://xlstatus.invalid"))).bind fun parsed =>
      if parsed.origin ≠ js "https://xlstatus.invalid" then none
      else some (((base.map (·.rdropWhile (· == unit '/'))).getD []) ++
        parsed.pathname ++ parsed.search ++ parsed.hash)
  else (b.newUrl trimmed none).bind fun parsed =>
    if !parsed.isHttp ∨ parsed.username ≠ [] ∨ parsed.password ≠ [] ∨
      (effectiveOrigin b base runtimeOrigin).any (· ≠ parsed.origin) then none
    else some parsed.href

def resolveSafeApiUrl (lastIndex : ℕ) (rawUrl apiBaseUrl runtimeOrigin : Option JsString) :
    Option JsString × ℕ :=
  match rawUrl with
  | none => (none, lastIndex)
  | some rawUrl =>
    let trimmed := trim rawUrl
    if trimmed = [] ∨ trimmed.length > 2048 ∨ hasControlCharacters trimmed then (none, lastIndex)
    else
      let (found, lastIndex) := bidiTest lastIndex trimmed
      (if found then none else resolveTrimmed b trimmed apiBaseUrl runtimeOrigin, lastIndex)

inductive Call where
  | encodePathSegment (value : Option JsString)
  | resolveSafeApiUrl (rawUrl apiBaseUrl runtimeOrigin : Option JsString)
  | escapeShellDoubleQuoted (value : Option JsString)
  | sanitizeDownloadFilename (rawFilename fallback : Option JsString)

def lastIndexAfter (lastIndex : ℕ) : Call → ℕ
  | .encodePathSegment value => (encodePathSegment lastIndex value).2
  | .resolveSafeApiUrl rawUrl apiBaseUrl runtimeOrigin =>
    (resolveSafeApiUrl b lastIndex rawUrl apiBaseUrl runtimeOrigin).2
  | .escapeShellDoubleQuoted value => if value.getD [] = [] then lastIndex else 0
  | .sanitizeDownloadFilename rawFilename _ => if rawFilename = none then lastIndex else 0

/-- The call refuses bidirectional and zero-width characters in what it trims. -/
def Refuses (lastIndex : ℕ) : Call → Prop
  | .encodePathSegment (some value) => (trim value).any isBidiOrZeroWidth →
    (encodePathSegment lastIndex (some value)).1 = some invalid
  | .resolveSafeApiUrl (some rawUrl) apiBaseUrl runtimeOrigin =>
    (trim rawUrl).any isBidiOrZeroWidth →
      (resolveSafeApiUrl b lastIndex (some rawUrl) apiBaseUrl runtimeOrigin).1 = none
  | _ => True

/-- The search starts before one of the characters, or the argument is refused without it. -/
def Searched (lastIndex : ℕ) : Call → Prop
  | .encodePathSegment (some value) => (trim value).any isBidiOrZeroWidth →
    hasControlCharacters (trim value) ∨ ((trim value).drop lastIndex).any isBidiOrZeroWidth
  | .resolveSafeApiUrl (some rawUrl) apiBaseUrl runtimeOrigin =>
    (trim rawUrl).any isBidiOrZeroWidth →
      (trim rawUrl).length > 2048 ∨ hasControlCharacters (trim rawUrl) ∨
      ((trim rawUrl).drop lastIndex).any isBidiOrZeroWidth ∨
      resolveTrimmed b (trim rawUrl) apiBaseUrl runtimeOrigin = none
  | _ => True

end Browser

theorem bidiTest_fst (lastIndex : ℕ) (s : JsString) :
    (bidiTest lastIndex s).1 = (s.drop lastIndex).any isBidiOrZeroWidth := by
  unfold bidiTest
  cases h : (s.drop lastIndex).findIdx? isBidiOrZeroWidth with
  | none => exact (List.any_eq_false.mpr fun u hu => ne_true_of_eq_false
      (List.findIdx?_eq_none_iff.mp h u hu)).symm
  | some =>
    obtain ⟨hi, hfound, -⟩ := List.findIdx?_eq_some_iff_getElem.mp h
    exact (List.any_eq_true.mpr ⟨_, List.getElem_mem hi, hfound⟩).symm

variable {u : UInt16} {s : JsString} {p : UInt16 → Bool}

theorem encode_of_isBidiOrZeroWidth (h : isBidiOrZeroWidth u = true) :
    lower u = u ∧ isUriUnescaped u = false ∧ ¬ (0xd800 ≤ u ∧ u ≤ 0xdfff) ∧
      (percentUtf8 u.toNat).length = 9 ∧ unit '%' ∈ percentUtf8 u.toNat := by
  have hall : ∀ n ∈ [0x200b, 0x200c, 0x200d, 0x200e, 0x200f, 0x202a, 0x202b, 0x202c, 0x202d, 0x202e,
      0x2066, 0x2067, 0x2068, 0x2069, 0xfeff], lower (.ofNat n) = .ofNat n ∧
      isUriUnescaped (.ofNat n) = false ∧
      ¬ (0xd800 ≤ UInt16.ofNat n ∧ UInt16.ofNat n ≤ 0xdfff) ∧
      (percentUtf8 (UInt16.ofNat n).toNat).length = 9 ∧
      unit '%' ∈ percentUtf8 (UInt16.ofNat n).toNat := by decide +kernel
  rw [← UInt16.ofNat_toNat (x := u)]
  refine hall u.toNat ?_
  simp only [isBidiOrZeroWidth, Bool.or_eq_true, Bool.and_eq_true, decide_eq_true_eq,
    UInt16.le_iff_toNat_le, beq_iff_eq, ← UInt16.toNat_inj, UInt16.reduceToNat] at h
  simp only [List.mem_cons, List.not_mem_nil, or_false]
  omega

theorem of_isDotSegment (h : isDotSegment s = true) :
    s.length ≤ 6 ∧ s.any isBidiOrZeroWidth = false := by
  have hall : ∀ segment ∈ [".", "..", "%2e", "%2e.", ".%2e", "%2e%2e"], (js segment).length ≤ 6 ∧
      (js segment).any isBidiOrZeroWidth = false := by decide
  obtain ⟨segment, hsegment, heq⟩ := List.any_eq_true.mp h
  obtain ⟨hlength, hbidi⟩ := hall segment hsegment
  rw [← beq_iff_eq.mp heq] at hlength hbidi
  rw [List.length_map] at hlength
  refine ⟨hlength, List.any_eq_false.mpr fun u hu hbidi' => ?_⟩
  have hlower := List.any_eq_false.mp hbidi _ (List.mem_map_of_mem hu)
  rw [(encode_of_isBidiOrZeroWidth hbidi').1] at hlower
  exact hlower hbidi'

theorem length_encodeURIComponent {encoded : JsString} (h : encodeURIComponent s = some encoded)
    (hbidi : s.any isBidiOrZeroWidth) : 9 ≤ encoded.length ∧ unit '%' ∈ encoded := by
  have hgrow : ∀ (part : JsString) {tail : JsString}, 9 ≤ tail.length ∧ unit '%' ∈ tail →
      9 ≤ (part ++ tail).length ∧ unit '%' ∈ part ++ tail := fun part tail h =>
    ⟨h.1.trans (by simp), List.mem_append_right _ h.2⟩
  fun_induction encodeURIComponent s generalizing encoded with
  | case1 => simp at hbidi
  | case2 u rest hplain ih =>
    obtain ⟨tail, htail, rfl⟩ := Option.map_eq_some_iff.mp h
    rw [List.any_cons, Bool.or_eq_true] at hbidi
    refine hgrow [u] (ih htail (hbidi.resolve_left fun hu => ?_))
    exact Bool.false_ne_true ((encode_of_isBidiOrZeroWidth hu).2.1.symm.trans hplain)
  | case3 => cases h
  | case4 => cases h
  | case5 u hplain hlow hhigh v rest hpair ih =>
    obtain ⟨tail, htail, rfl⟩ := Option.map_eq_some_iff.mp h
    simp only [List.any_cons, Bool.or_eq_true] at hbidi
    refine hgrow _ (ih htail ((hbidi.resolve_left fun hu => ?_).resolve_left fun hv => ?_))
    · exact (encode_of_isBidiOrZeroWidth hu).2.2.1 ⟨hhigh.1, UInt16.le_trans hhigh.2 (by decide)⟩
    · exact (encode_of_isBidiOrZeroWidth hv).2.2.1 ⟨UInt16.le_trans (by decide) hpair.1, hpair.2⟩
  | case6 => cases h
  | case7 u rest hplain hlow hhigh ih =>
    obtain ⟨tail, htail, rfl⟩ := Option.map_eq_some_iff.mp h
    rw [List.any_cons, Bool.or_eq_true] at hbidi
    rcases hbidi with hu | hrest
    · obtain ⟨-, -, -, hlength, hmem⟩ := encode_of_isBidiOrZeroWidth hu
      exact ⟨by simp [hlength], List.mem_append_left _ hmem⟩
    · exact hgrow _ (ih htail hrest)

theorem bidi_refused_iff (b : Browser) (before : List Call) (call : Call) :
    Refuses b (run (lastIndexAfter b) 0 before) call ↔
      Searched b (run (lastIndexAfter b) 0 before) call := by
  generalize run (lastIndexAfter b) 0 before = lastIndex
  cases call with
  | encodePathSegment value =>
    cases value with
    | none => exact Iff.rfl
    | some value =>
      refine forall_congr' fun hbidi => ?_
      have hne : trim value ≠ [] := by
        intro h
        simp [h] at hbidi
      have hdots : isDotSegment (trim value) = false := eq_false_of_ne_true fun h =>
        Bool.false_ne_true ((of_isDotSegment h).2.symm.trans hbidi)
      cases hcontrol : hasControlCharacters (trim value) with
      | true => simp [encodePathSegment, hcontrol]
      | false =>
        rw [← bidiTest_fst]
        cases hfound : bidiTest lastIndex (trim value) with
        | mk found next =>
          cases found with
          | true => simp [encodePathSegment, hne, hcontrol, hfound]
          | false =>
            cases hencoded : encodeURIComponent (trim value) with
            | none => simp [encodePathSegment, hne, hcontrol, hfound, hdots, hencoded]
            | some encoded =>
              obtain ⟨hlength, hmem⟩ := length_encodeURIComponent hencoded hbidi
              have hlong : isDotSegment encoded = false := eq_false_of_ne_true fun h => by
                have := (of_isDotSegment h).1
                omega
              have hempty : encoded ≠ [] := List.ne_nil_of_mem hmem
              have hinvalid : encoded ≠ invalid := by
                rintro rfl
                exact absurd hmem (by decide)
              simp [encodePathSegment, hne, hcontrol, hfound, hdots, hencoded, hempty, hlong,
                hinvalid]
  | resolveSafeApiUrl rawUrl apiBaseUrl runtimeOrigin =>
    cases rawUrl with
    | none => exact Iff.rfl
    | some rawUrl =>
      refine forall_congr' fun hbidi => ?_
      have hne : trim rawUrl ≠ [] := by
        intro h
        simp [h] at hbidi
      rw [← bidiTest_fst]
      unfold resolveSafeApiUrl
      simp only [hne, false_or]
      split_ifs with hrefused hfound
      · exact iff_of_true rfl (hrefused.imp_right .inl)
      · exact iff_of_true rfl (.inr (.inr (.inl hfound)))
      · simp [not_or.mp hrefused, hfound]
  | escapeShellDoubleQuoted value => exact Iff.rfl
  | sanitizeDownloadFilename rawFilename fallback => exact Iff.rfl

theorem second_bidi_not_refused :
    (encodePathSegment (run (lastIndexAfter ⟨fun _ _ => none, none⟩) 0
      [.encodePathSegment (some (js "ab" ++ [0x200b]))]) (some [0x200b])).1 =
      some (js "%E2%80%8B") := by
  decide +kernel

/-! ## Names of downloads -/

def isSeparator (u : UInt16) : Bool := u == unit '/' || u == unit '\\'

def isReserved (u : UInt16) : Bool := (js "<>:\"/\\|?*").contains u

def isDot (u : UInt16) : Bool := u == unit '.'

def replaceReserved : JsString → JsString
  | [] => []
  | u :: rest =>
    if isReserved u then
      if rest.head?.any isReserved then replaceReserved rest else unit '_' :: replaceReserved rest
    else u :: replaceReserved rest

def basename (rawFilename : JsString) : JsString :=
  (((trim (cleaned rawFilename)).splitOnP isSeparator).filter (· ≠ [])).getLastD []

def undotted (rawFilename : JsString) : JsString :=
  ((replaceReserved (basename rawFilename)).dropWhile isDot).rdropWhile isDot

def sanitizedName (rawFilename : JsString) : Option JsString :=
  let sanitized := (trim (undotted rawFilename)).take 200
  if basename rawFilename = [] ∨ isDotSegment (basename rawFilename) ∨ sanitized = [] ∨
      isDotSegment sanitized then none
  else some sanitized

def sanitizeDownloadFilename (rawFilename fallback : Option JsString) : JsString :=
  let safeFallback := ((fallback.map trim).filter (· ≠ [])).getD (js "download")
  (rawFilename.bind sanitizedName).getD safeFallback

structure SafeName (name : JsString) : Prop where
  ne_nil : name ≠ []
  length_le : name.length ≤ 200
  plain : ∀ u ∈ name, isSeparator u = false ∧ isControl u = false ∧ isBidiOrZeroWidth u = false
  not_dotSegment : isDotSegment name = false
  head : ∀ u ∈ name.head?, isDot u = false
  last : ∀ u ∈ name.getLast?, isDot u = false ∧ isWhiteSpace u = false

/-- Trimming exposes a dot at one of the ends, or the cut ends in a dot or in white space. -/
def Exposed (name : JsString) : Prop :=
  (∃ u ∈ (trim name).head?, isDot u) ∨
    ∃ u ∈ ((trim name).take 200).getLast?, isDot u ∨ isWhiteSpace u

theorem dropWhile_eq_self (h : ∀ u ∈ s.head?, p u = false) :
    s.dropWhile p = s := by
  cases s with
  | nil => rfl
  | cons u => exact dropWhile_cons_of_neg (by simp [h u rfl])

theorem rdropWhile_eq_self (h : ∀ u ∈ s.getLast?, p u = false) : s.rdropWhile p = s :=
  rdropWhile_eq_self_iff.mpr fun hs => by simp [h _ (getLast?_eq_some_getLast hs)]

theorem mem_replaceReserved (h : u ∈ replaceReserved s) :
    isReserved u = false ∧ (u = unit '_' ∨ u ∈ s) := by
  induction s with
  | nil => cases h
  | cons v s ih =>
    unfold replaceReserved at h
    split_ifs at h with hv hnext
    · exact (ih h).imp_right (·.imp_right (mem_cons_of_mem v))
    · rcases mem_cons.mp h with rfl | h
      · exact ⟨by decide, .inl rfl⟩
      · exact (ih h).imp_right (·.imp_right (mem_cons_of_mem v))
    · rcases mem_cons.mp h with rfl | h
      · exact ⟨eq_false_of_ne_true hv, .inr mem_cons_self⟩
      · exact (ih h).imp_right (·.imp_right (mem_cons_of_mem v))

theorem replaceReserved_eq_self (h : ∀ u ∈ s, isReserved u = false) :
    replaceReserved s = s := by
  induction s with
  | nil => rfl
  | cons u s ih =>
    obtain ⟨hu, hs⟩ := forall_mem_cons.mp h
    rw [replaceReserved, if_neg (by simp [hu]), ih hs]

theorem head_trim : ∀ u ∈ (trim s).head?, isWhiteSpace u = false := by
  intro u hu
  obtain ⟨rest, hrest⟩ : trim s <+: s.dropWhile isWhiteSpace := rdropWhile_prefix _ _
  obtain ⟨tail, htail⟩ := head?_eq_some_iff.mp hu
  have hfront := head?_dropWhile_not isWhiteSpace s
  rwa [← hrest, htail] at hfront

theorem mem_of_mem_trim (h : u ∈ trim s) : u ∈ s :=
  (dropWhile_suffix isWhiteSpace).subset ((List.rdropWhile_prefix isWhiteSpace _).subset h)

theorem plain_of_mem_undotted {raw : JsString} (h : u ∈ undotted raw) :
    isReserved u = false ∧ isControl u = false ∧ isBidiOrZeroWidth u = false := by
  have hmem := (dropWhile_suffix isDot).subset ((List.rdropWhile_prefix isDot _).subset h)
  obtain ⟨hreserved, rfl | hu⟩ := mem_replaceReserved hmem
  · exact ⟨hreserved, by decide⟩
  · refine ⟨hreserved, ?_⟩
    rw [basename, getLastD_eq_getLast?] at hu
    cases hlast : (((trim (cleaned raw)).splitOnP isSeparator).filter (· ≠ [])).getLast? with
    | none =>
      rw [hlast] at hu
      cases hu
    | some =>
      rw [hlast, getD_some] at hu
      have hpart := mem_of_mem_filter (mem_of_getLast? hlast)
      have hclean := mem_of_mem_trim (Text.of_mem_splitOnP hpart hu).1
      simp only [cleaned, mem_filter, Bool.not_eq_true'] at hclean
      exact ⟨hclean.1.2, hclean.2⟩

theorem isSeparator_of_isReserved (h : isReserved u = false) :
    isSeparator u = false := by
  have hslash : u ≠ unit '/' := by
    rintro rfl
    exact absurd h (by decide)
  have hback : u ≠ unit '\\' := by
    rintro rfl
    exact absurd h (by decide)
  simp [isSeparator, hslash, hback]

theorem sanitizedName_eq_self {name : JsString} (h : SafeName name)
    (hreserved : ∀ u ∈ name, isReserved u = false)
    (hhead : ∀ u ∈ name.head?, isWhiteSpace u = false) : sanitizedName name = some name := by
  have htrim : trim name = name := by
    rw [trim, dropWhile_eq_self hhead, rdropWhile_eq_self fun u hu => (h.last u hu).2]
  have hclean : cleaned name = name := by
    rw [cleaned, List.filter_filter]
    exact filter_eq_self.mpr fun u hu => by simp [h.plain u hu]
  have hbase : basename name = name := by
    rw [basename, hclean, htrim, splitOnP_eq_singleton fun u hu => (h.plain u hu).1]
    simp [h.ne_nil]
  have hundotted : undotted name = name := by
    rw [undotted, hbase, replaceReserved_eq_self hreserved, dropWhile_eq_self h.head,
      rdropWhile_eq_self fun u hu => (h.last u hu).1]
  simp [sanitizedName, hbase, hundotted, htrim, take_of_length_le h.length_le, h.ne_nil,
    h.not_dotSegment]

end XLStatus.Web
