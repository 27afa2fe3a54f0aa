import XLStatus.Lib.Find
import XLStatus.Lib.IpText
import XLStatus.Services.HistoryDefs

/-! The addresses in the error text of a service result: what of them is shown. -/

namespace XLStatus.Services

open Find Net List String

def redactedUrlMarker : String := "[redacted]"
def redactedInternalUrlMarker : String := "[redacted-url]"

/-! ## Hosts -/

def isPublicServiceErrorIpv4 (v4 : Ipv4Addr) : Bool :=
  let sharedCgnat := v4.o0 == 100 && v4.o1 &&& 0b11000000 == 0b01000000
  let benchmark := v4.o0 == 198 && (v4.o1 == 18 || v4.o1 == 19)
  let ietfProtocol := v4.o0 == 192 && v4.o1 == 0 && v4.o2 == 0
  let reserved := decide (240 ≤ v4.o0)
  !(v4.isPrivate || v4.isLoopback || v4.isLinkLocal || v4.isBroadcast || v4.isDocumentation ||
    v4.isUnspecified || v4.isMulticast || sharedCgnat || benchmark || ietfProtocol || reserved)

def isPublicServiceErrorIp : IpAddr → Bool
  | .v4 v4 => isPublicServiceErrorIpv4 v4
  | .v6 v6 => match v6.toIpv4Mapped with
    | some mapped => isPublicServiceErrorIpv4 mapped
    | none =>
      let discardOnly := v6.s0 == 0x0100 && [v6.s1, v6.s2, v6.s3] == [0, 0, 0]
      let documentation := v6.s0 == 0x2001 && v6.s1 == 0x0db8
      !(v6.isLoopback || v6.isUnspecified || v6.isMulticast || v6.s0 &&& 0xfe00 == 0xfc00 ||
        v6.s0 &&& 0xffc0 == 0xfe80 || discardOnly || documentation)

def endsWith (s pat : String) : Bool := pat.toList.isSuffixOf s.toList

def isPublicServiceErrorHost (host : String) : Bool :=
  let normalized := ofList ((((host.toList.rdropWhile (· == '.')).dropWhile
    (· == '[')).rdropWhile (· == ']')).map Char.toLower)
  if normalized = "" || normalized = "localhost" || endsWith normalized ".localhost" ||
      normalized = "metadata.google.internal" || endsWith normalized ".internal" ||
      endsWith normalized ".local" then false
  else match IpAddr.parse normalized with
    | some ip => isPublicServiceErrorIp ip
    | none => true

/-! ## The redaction -/

structure Url where
  scheme : String
  username : String
  password : Option String
  host : Option String
  port : Option UInt16
  path : String
  query : Option String
  fragment : Option String

def authorityText (host : String) (port : Option UInt16) : String :=
  let cleanHost := ofList ((host.toList.dropWhile (· == '[')).rdropWhile (· == ']'))
  let formattedHost := if cleanHost.toList.contains ':' then "[" ++ cleanHost ++ "]" else cleanHost
  match port with
  | some port => formattedHost ++ ":" ++ toString port.toNat
  | none => formattedHost

def redactedUrl (scheme host : String) (port : Option UInt16) (path : String) : String :=
  scheme ++ "://" ++ authorityText host port ++ path

def urlPath (url : Url) : String :=
  let hasCredentials := url.username != "" || url.password.isSome
  if !hasCredentials && url.path == "/" && url.query.isNone && url.fragment.isNone then "/"
  else "/" ++ redactedUrlMarker

def redactSingleServiceErrorUrl (parse : String → Option Url) (candidate : String) : String :=
  match parse candidate with
  | none => redactedInternalUrlMarker
  | some url =>
    if url.scheme = "http" ∨ url.scheme = "https" then
      match url.host with
      | none => redactedInternalUrlMarker
      | some host =>
        if isPublicServiceErrorHost host then redactedUrl url.scheme host url.port (urlPath url)
        else redactedInternalUrlMarker
    else redactedInternalUrlMarker

def http : List Char := "http://".toList
def https : List Char := "https://".toList

def startsUrl (t : List Char) : Bool := http.isPrefixOf t || https.isPrefixOf t

def isDelimiter (c : Char) : Bool :=
  Text.isWhitespace c || c ∈ [')', '\x7d', '>', '"', '\'', ',', ';']

def piece (t : List Char) : List Char := t.takeWhile fun c => !isDelimiter c

def afterPiece (t : List Char) : List Char := t.dropWhile fun c => !isDelimiter c

theorem startsUrl_iff {t : List Char} : startsUrl t = true ↔ ∃ w ∈ [http, https], w <+: t := by
  simp [startsUrl]

theorem exists_cons_of_startsUrl {t : List Char} (h : startsUrl t = true) :
    ∃ rest, t = 'h' :: rest := by
  obtain ⟨w, hw, rest, rfl⟩ := startsUrl_iff.mp h
  simp only [List.mem_cons, List.not_mem_nil, or_false] at hw
  rcases hw with rfl | rfl <;> exact ⟨_, rfl⟩

theorem length_afterPiece_lt {rest before after : List Char}
    (h : findFirst startsUrl rest = some (before, after)) :
    (afterPiece after).length < rest.length := by
  obtain ⟨rfl, hstarts, -⟩ := findFirst_eq_some h
  obtain ⟨tail, rfl⟩ := exists_cons_of_startsUrl hstarts
  have hdrop : afterPiece ('h' :: tail) = afterPiece tail := rfl
  have hle : (afterPiece tail).length ≤ tail.length := (List.dropWhile_suffix _).length_le
  rw [hdrop, List.length_append, List.length_cons]
  omega

section Redact

variable (parse : String → Option Url)

def redactRest (rest : List Char) : List Char :=
  match _h : findFirst startsUrl rest with
  | none => rest
  | some (before, after) =>
    before ++ (redactSingleServiceErrorUrl parse (String.ofList (piece after))).toList ++
      redactRest (afterPiece after)
termination_by rest.length
decreasing_by exact length_afterPiece_lt _h

def redactServiceErrorUrls (input : String) : String := String.ofList (redactRest parse input.toList)

end Redact

def candidates (rest : List Char) : List (List Char) :=
  match _h : findFirst startsUrl rest with
  | none => []
  | some (_, after) => piece after :: candidates (afterPiece after)
termination_by rest.length
decreasing_by exact length_afterPiece_lt _h

/-! ## What may be shown -/

def StartsScheme (t : List Char) : Prop :=
  ∃ w ∈ [http, https], w <+: t.map Char.toLower

def Redacted (text : List Char) : Prop :=
  ∃ scheme host port path, (scheme = "http" ∨ scheme = "https") ∧
    isPublicServiceErrorHost host = true ∧ (path = "/" ∨ path = "/" ++ redactedUrlMarker) ∧
    text = (redactedUrl scheme host port path).toList

def OnlyRedacted (out : List Char) : Prop :=
  ∀ t, t <:+ out → StartsScheme t → Redacted (piece t)

def HostsParsed (parse : String → Option Url) : Prop :=
  ∀ text url host, parse text = some url → url.host = some host →
    ∀ c ∈ host.toList, c ≠ '/' ∧ Text.isControl c = false

def HostsUndivided (parse : String → Option Url) (rest : List Char) : Prop :=
  ∀ candidate ∈ candidates rest, ∀ url host, parse (String.ofList candidate) = some url →
    url.host = some host → ∀ c ∈ host.toList, isDelimiter c = false

theorem mem_schemes {p : List Char → Prop} (h : p http ∧ p https) {w : List Char}
    (hw : w ∈ [http, https]) : p w := by
  simp only [List.mem_cons, List.not_mem_nil, or_false] at hw
  rcases hw with rfl | rfl
  · exact h.1
  · exact h.2

theorem not_isDelimiter_of_mem {w : List Char} (hw : w ∈ [http, https]) {c : Char} (hc : c ∈ w) :
    isDelimiter c = false := by
  have hall : w.all (fun c => !isDelimiter c) = true :=
    mem_schemes (p := fun w => w.all (fun c => !isDelimiter c) = true) (by decide) hw
  exact Bool.not_eq_true' _ |>.mp (List.all_eq_true.mp hall c hc)

theorem toLower_cases (c : Char) : c.toLower = c ∨ c.isAlpha = true ∧ c.toLower.isAlpha = true := by
  unfold Char.toLower
  split_ifs with hupper
  · refine .inr ?_
    delta Char.isAlpha Char.isUpper Char.isLower
    simp only [UInt32.le_iff_toNat_le, UInt32.toNat_add,
      UInt32.reduceToNat, UInt32.reduceSub, Char.reduceVal, ge_iff_le, Bool.or_eq_true, Bool.and_eq_true,
      decide_eq_true_eq] at hupper ⊢
    omega
  · exact .inl rfl

theorem eq_of_toLower_eq {c d : Char} (hd : d.isAlpha = false) (h : c.toLower = d) : c = d := by
  rcases toLower_cases c with hsame | ⟨-, halpha⟩
  · rw [← hsame, h]
  · rw [h, hd] at halpha
    cases halpha

theorem not_isAlpha_of_isDelimiter {c : Char} (h : isDelimiter c = true) : c.isAlpha = false := by
  rw [Bool.eq_false_iff]
  intro halpha
  have halphanum : c.isAlphanum = true := by
    rw [Char.isAlphanum, halpha, Bool.true_or]
  unfold isDelimiter at h
  rw [Text.isWhitespace_of_isAlphanum halphanum, Bool.false_or, decide_eq_true_eq] at h
  have hall : [')', '\x7d', '>', '"', '\'', ',', ';'].all (fun c => !c.isAlpha) = true := by
    decide
  rw [Bool.not_eq_true' _ |>.mp (all_eq_true.mp hall c h)] at halpha
  cases halpha

theorem toLower_of_isDelimiter {c : Char} (h : isDelimiter c = true) : c.toLower = c := by
  rcases toLower_cases c with hsame | ⟨halpha, -⟩
  · exact hsame
  · rw [not_isAlpha_of_isDelimiter h] at halpha
    cases halpha

theorem head_of_scheme {w l : List Char} {c : Char} (hw : w ∈ [http, https]) (h : w <+: c :: l) :
    c = 'h' := by
  have hhead : w.head? = some 'h' := mem_schemes (p := fun w => w.head? = some 'h') (by decide) hw
  cases w with
  | nil => cases hhead
  | cons =>
    rw [← (cons_prefix_cons.mp h).1]
    exact Option.some.inj hhead

theorem suffix_of_letters {w v : List Char} (hw : w ∈ [http, https]) {letters : List Char}
    (hletters : letters.all (· != 'h') = true) {y : List Char} (hy : y <:+ letters ++ v)
    (h : w <+: y) : y <:+ v := by
  induction letters with
  | nil => exact hy
  | cons c letters ih =>
    rw [all_cons, Bool.and_eq_true, bne_iff_ne] at hletters
    rcases suffix_cons_iff.mp hy with rfl | hy
    · exact absurd (head_of_scheme hw h) hletters.1
    · exact ih hletters.2 hy

theorem prefix_of_delimited {w y out : List Char} (hw : w ∈ [http, https])
    (hout : ∀ c rest, out = c :: rest → isDelimiter c = true)
    (h : w <+: (y ++ out).map Char.toLower) : w <+: y.map Char.toLower := by
  rw [map_append] at h
  refine (mem_of_prefix_append h).resolve_right ?_
  rintro ⟨c, rest, hmap, hc⟩
  obtain ⟨d, tail, rfl, rfl, -⟩ := map_eq_cons_iff.mp hmap
  have hd := hout d tail rfl
  rw [toLower_of_isDelimiter hd] at hc
  rw [not_isDelimiter_of_mem hw (mem_of_mem_drop hc)] at hd
  cases hd

theorem eq_nil_of_scheme {p v x y w : List Char} (hp : p ∈ [http, https]) (hv : v.count '/' ≤ 1)
    (hxy : p ++ v = x ++ y) (hw : w ∈ [http, https]) (h : w <+: y) : x = [] := by
  have hcount : w.count '/' = 2 := mem_schemes (p := fun w => w.count '/' = 2) (by decide) hw
  obtain ⟨letters, rfl, hletters⟩ : ∃ letters, p = 'h' :: letters ∧
      letters.all (· != 'h') = true :=
    mem_schemes (p := fun p => ∃ letters, p = 'h' :: letters ∧ letters.all (· != 'h') = true)
      ⟨⟨_, rfl, by decide⟩, ⟨_, rfl, by decide⟩⟩ hp
  cases x with
  | nil => rfl
  | cons a x =>
    have hy : y <:+ letters ++ v := ⟨x, (List.cons.inj hxy).2.symm⟩
    have hle := h.sublist.count_le '/'
    have hyv := (suffix_of_letters hw hletters hy h).sublist.count_le '/'
    omega

theorem count_slash_map_toLower (l : List Char) :
    (l.map Char.toLower).count '/' ≤ l.count '/' := by
  unfold List.count
  rw [countP_map]
  refine countP_mono_left fun c _ hc => ?_
  exact beq_iff_eq.mpr (eq_of_toLower_eq (by decide) (beq_iff_eq.mp hc))

theorem piece_append {l out : List Char} (hl : ∀ c ∈ l, isDelimiter c = false)
    (hout : ∀ c rest, out = c :: rest → isDelimiter c = true) : piece (l ++ out) = l := by
  have hend : piece out = [] := by
    cases out with
    | nil => rfl
    | cons c rest =>
      unfold piece
      rw [takeWhile_cons, hout c rest rfl]
      rfl
  unfold piece at *
  rw [takeWhile_append_of_pos fun c hc => by rw [hl c hc]; rfl, hend, append_nil]

/-! ## One candidate -/

theorem mem_authorityText {host : String} {port : Option UInt16} {c : Char}
    (hc : c ∈ (authorityText host port).toList) :
    c ∈ host.toList ∨ c ∈ "[]:0123456789".toList := by
  have hdigit : ∀ n : ℕ, ∀ c ∈ (toString n).toList, c ∈ "[]:0123456789".toList := by
    intro n c hc
    rw [Text.toList_toString] at hc
    have hbounds := Text.isDigit_of_mem_toDigits hc
    have hall : (List.range 128).all (fun n => !(Char.ofNat n).isDigit ||
        "[]:0123456789".toList.contains (Char.ofNat n)) = true := by decide
    have hlt : c.toNat < 128 := by
      unfold Char.isDigit at hbounds
      simp only [UInt32.le_iff_toNat_le, Bool.and_eq_true, decide_eq_true_eq, UInt32.reduceToNat,
        Char.reduceVal] at hbounds
      exact lt_of_le_of_lt hbounds.2 (by decide)
    have hmem := all_eq_true.mp hall c.toNat (List.mem_range.mpr hlt)
    rw [Char.ofNat_toNat, hbounds, Bool.not_true, Bool.false_or] at hmem
    exact contains_iff_mem.mp hmem
  have hclean : ∀ c, c ∈ (host.toList.dropWhile (· == '[')).rdropWhile (· == ']') →
      c ∈ host.toList := by
    intro c hc
    exact (dropWhile_suffix _).subset ((List.rdropWhile_prefix _ _).subset hc)
  have hformatted : ∀ clean : String, (∀ c ∈ clean.toList, c ∈ host.toList) →
      ∀ c ∈ (if clean.toList.contains ':' then "[" ++ clean ++ "]" else clean).toList,
        c ∈ host.toList ∨ c ∈ "[]:0123456789".toList := by
    intro clean hhost c hc
    split_ifs at hc
    · simp only [toList_append, mem_append] at hc
      rcases hc with (hc | hc) | hc
      · exact .inr (by rw [mem_singleton.mp hc]; decide)
      · exact .inl (hhost c hc)
      · exact .inr (by rw [mem_singleton.mp hc]; decide)
    · exact .inl (hhost c hc)
  unfold authorityText at hc
  cases port with
  | none => exact hformatted _ (fun c hc => hclean c (by rwa [toList_ofList] at hc)) c hc
  | some =>
    simp only [toList_append, mem_append] at hc
    rcases hc with (hc | hc) | hc
    · exact hformatted _ (fun c hc => hclean c (by rwa [toList_ofList] at hc)) c hc
    · exact .inr (by rw [mem_singleton.mp hc]; decide)
    · exact .inr (hdigit _ c hc)

theorem mem_redactedUrl {p : Char → Bool} {scheme host path : String} {port : Option UInt16}
    (hscheme : scheme = "http" ∨ scheme = "https")
    (hpath : path = "/" ∨ path = "/" ++ redactedUrlMarker)
    (hp : "https:/[]:0123456789/[redacted]".toList.all p = true)
    (hhost : ∀ c ∈ host.toList, p c = true) {c : Char}
    (hc : c ∈ (redactedUrl scheme host port path).toList) : p c = true := by
  have hfixed : ∀ l : List Char, l.all ("https:/[]:0123456789/[redacted]".toList.contains ·) = true →
      ∀ c ∈ l, p c = true := fun l hl c hc =>
    all_eq_true.mp hp c (contains_iff_mem.mp (all_eq_true.mp hl c hc))
  unfold redactedUrl at hc
  simp only [toList_append, mem_append] at hc
  rcases hc with ((hc | hc) | hc) | hc
  · rcases hscheme with rfl | rfl
    · exact hfixed _ (by decide) c hc
    · exact hfixed _ (by decide) c hc
  · exact hfixed _ (by decide) c hc
  · rcases mem_authorityText hc with hc | hc
    · exact hhost c hc
    · exact hfixed _ (by decide) c hc
  · rcases hpath with rfl | rfl
    · exact hfixed _ (by decide) c hc
    · exact hfixed _ (by decide) c hc

theorem count_slash_redacted {host path : String} (port : Option UInt16)
    (hpath : path = "/" ∨ path = "/" ++ redactedUrlMarker) (hhost : ∀ c ∈ host.toList, c ≠ '/') :
    ((authorityText host port).toList ++ path.toList).count '/' ≤ 1 := by
  have hauthority : (authorityText host port).toList.count '/' = 0 := by
    refine count_eq_zero.mpr fun hslash => ?_
    rcases mem_authorityText hslash with h | h
    · exact hhost '/' h rfl
    · exact absurd h (by decide)
  rw [count_append, hauthority, Nat.zero_add]
  rcases hpath with rfl | rfl <;> decide

section Candidate

variable {parse : String → Option Url} (hparsed : HostsParsed parse)

theorem redactSingle_cases (candidate : String) :
    redactSingleServiceErrorUrl parse candidate = redactedInternalUrlMarker ∨
      ∃ url host, parse candidate = some url ∧ url.host = some host ∧
        (url.scheme = "http" ∨ url.scheme = "https") ∧ isPublicServiceErrorHost host = true ∧
        (urlPath url = "/" ∨ urlPath url = "/" ++ redactedUrlMarker) ∧
        redactSingleServiceErrorUrl parse candidate =
          redactedUrl url.scheme host url.port (urlPath url) := by
  cases hparse : parse candidate with
  | none => exact .inl (by rw [redactSingleServiceErrorUrl, hparse])
  | some url =>
    have hpath : urlPath url = "/" ∨ urlPath url = "/" ++ redactedUrlMarker := by
      unfold urlPath
      dsimp only
      split_ifs
      · exact .inl rfl
      · exact .inr rfl
    unfold redactSingleServiceErrorUrl
    rw [hparse]
    dsimp only
    split_ifs with hscheme
    · cases hhost : url.host with
      | none => exact .inl rfl
      | some host =>
        dsimp only
        split_ifs with hpublic
        · exact .inr ⟨url, host, rfl, hhost, hscheme, hpublic, hpath, rfl⟩
        · exact .inl rfl
    · exact .inl rfl

variable {candidate : String}

theorem head_redactSingle :
    ∃ c rest, (redactSingleServiceErrorUrl parse candidate).toList = c :: rest ∧
      (c = '[' ∨ c = 'h') := by
  rcases redactSingle_cases candidate with h | ⟨url, host, -, -, hscheme, -, -, h⟩
  · rw [h]
    exact ⟨_, _, rfl, .inl rfl⟩
  · rw [h, redactedUrl]
    simp only [toList_append, List.append_assoc]
    rcases hscheme with hscheme | hscheme <;> rw [hscheme] <;> exact ⟨_, _, rfl, .inr rfl⟩

include hparsed

theorem isControl_redactSingle {c : Char}
    (hc : c ∈ (redactSingleServiceErrorUrl parse candidate).toList) :
    Text.isControl c = false := by
  rcases redactSingle_cases candidate with h | ⟨url, host, hparse, hhost, hscheme, -, hpath, h⟩
  · rw [h] at hc
    have hall : redactedInternalUrlMarker.toList.all (fun c => !Text.isControl c) = true := by
      decide
    exact Bool.not_eq_true' _ |>.mp (all_eq_true.mp hall c hc)
  · rw [h] at hc
    refine Bool.not_eq_true' _ |>.mp (mem_redactedUrl (p := fun c => !Text.isControl c) hscheme
      hpath (by decide) (fun c hc => ?_) hc)
    rw [(hparsed candidate url host hparse hhost c hc).2, Bool.not_false]

theorem redacted_of_startsScheme
    (hundivided : ∀ url host, parse candidate = some url → url.host = some host →
      ∀ c ∈ host.toList, isDelimiter c = false) {x y out : List Char}
    (hxy : (redactSingleServiceErrorUrl parse candidate).toList = x ++ y) (hy : y ≠ [])
    (hout : ∀ c rest, out = c :: rest → isDelimiter c = true) (h : StartsScheme (y ++ out)) :
    Redacted (piece (y ++ out)) := by
  obtain ⟨w, hw, hpre⟩ := h
  have hwithin := prefix_of_delimited hw hout hpre
  rcases redactSingle_cases candidate with hmarker |
    ⟨url, host, hparse, hhost, hscheme, hpublic, hpath, hurl⟩
  · obtain ⟨c, y, rfl⟩ := exists_cons_of_ne_nil hy
    have hmem : c ∈ redactedInternalUrlMarker.toList := by
      rw [← hmarker, hxy]
      exact mem_append_right x mem_cons_self
    have hall : redactedInternalUrlMarker.toList.all (·.toLower != 'h') = true := by decide
    exact absurd (head_of_scheme hw hwithin)
      (bne_iff_ne.mp (all_eq_true.mp hall c hmem))
  · have hchars := hparsed candidate url host hparse hhost
    rw [hurl] at hxy
    obtain ⟨p, hp, hwhole⟩ : ∃ p ∈ [http, https],
        (redactedUrl url.scheme host url.port (urlPath url)).toList.map Char.toLower =
          p ++ ((authorityText host url.port).toList ++ (urlPath url).toList).map Char.toLower := by
      simp only [redactedUrl, toList_append, List.append_assoc, map_append]
      rcases hscheme with hscheme | hscheme <;> rw [hscheme]
      · exact ⟨http, mem_cons_self, rfl⟩
      · exact ⟨https, mem_cons_of_mem _ mem_cons_self, rfl⟩
    have hslash := (count_slash_map_toLower _).trans
      (count_slash_redacted url.port hpath fun c hc => (hchars c hc).1)
    rw [hxy, map_append] at hwhole
    obtain rfl := map_eq_nil_iff.mp (eq_nil_of_scheme hp hslash hwhole.symm hw hwithin)
    rw [nil_append] at hxy
    rw [← hxy, piece_append _ hout]
    · exact ⟨url.scheme, host, url.port, urlPath url, hscheme, hpublic, hpath, rfl⟩
    · intro c hc
      refine Bool.not_eq_true' _ |>.mp (mem_redactedUrl (p := fun c => !isDelimiter c) hscheme
        hpath (by decide) (fun c hc => ?_) hc)
      rw [hundivided url host hparse hhost c hc, Bool.not_false]

end Candidate

/-! ## The loop -/

theorem isDelimiter_of_afterPiece {t rest : List Char} {c : Char} (h : afterPiece t = c :: rest) :
    isDelimiter c = true := by
  have hhead := head?_dropWhile_not (fun c => !isDelimiter c) t
  unfold afterPiece at h
  rw [h] at hhead
  simpa using hhead

theorem suffix_append_cases {t a b : List Char} (h : t <:+ a ++ b) :
    t <:+ b ∨ ∃ x y, a = x ++ y ∧ y ≠ [] ∧ t = y ++ b := by
  rcases suffix_or_suffix_of_suffix h (suffix_append a b) with ht | ⟨y, rfl⟩
  · exact .inl ht
  · by_cases hy : y = []
    · exact .inl (by rw [hy, nil_append])
    · obtain ⟨x, hx⟩ := h
      rw [← List.append_assoc] at hx
      exact .inr ⟨x, y, (append_cancel_right hx).symm, hy, rfl⟩

section Loop

variable {parse : String → Option Url}

theorem head_redactRest {d : Char} {tail : List Char} (hd : isDelimiter d = true) :
    ∃ rest, redactRest parse (d :: tail) = d :: rest := by
  rw [redactRest]
  split
  · exact ⟨tail, rfl⟩
  · rename_i before after h
    obtain ⟨hsplit, hstarts, -⟩ := findFirst_eq_some h
    cases before with
    | nil =>
      obtain ⟨rest, rfl⟩ := exists_cons_of_startsUrl hstarts
      cases (List.cons.inj hsplit).1
      exact absurd hd (by decide)
    | cons =>
      cases (List.cons.inj hsplit).1
      exact ⟨_, by rw [cons_append, cons_append]⟩

theorem delimited_redactRest (t : List Char) (c : Char) (rest : List Char)
    (h : redactRest parse (afterPiece t) = c :: rest) : isDelimiter c = true := by
  cases hafter : afterPiece t with
  | nil =>
    rw [hafter, redactRest] at h
    cases h
  | cons d tail =>
    have hd := isDelimiter_of_afterPiece hafter
    obtain ⟨rest', hrest⟩ := @head_redactRest parse d tail hd
    rw [hafter, hrest] at h
    rwa [← (List.cons.inj h).1]

theorem not_startsScheme_before {rest before after x z tail : List Char} {c : Char}
    (hexact : ∀ t, t <:+ rest → StartsScheme t → startsUrl t = true)
    (h : findFirst startsUrl rest = some (before, after)) (hbefore : before = x ++ z)
    (hz : z ≠ []) (hc : c = '[' ∨ c = 'h') : ¬ StartsScheme (z ++ c :: tail) := by
  obtain ⟨hrest, -, hearlier⟩ := findFirst_eq_some h
  rintro ⟨w, hw, hpre⟩
  rw [map_append] at hpre
  rcases mem_of_prefix_append hpre with hwithin | ⟨d, rest', hmap, hd⟩
  · have hstarts : startsUrl (z ++ after) = true := by
      refine hexact (z ++ after) ⟨x, ?_⟩ ⟨w, hw, ?_⟩
      · rw [hrest, hbefore, List.append_assoc]
      · rw [map_append]
        exact hwithin.trans (prefix_append _ _)
    rw [hearlier x z hbefore hz] at hstarts
    cases hstarts
  · -- the first character of what a candidate becomes is not inside a scheme
    have htail : d ∈ w.tail := by
      obtain ⟨a, z, rfl⟩ := exists_cons_of_ne_nil hz
      rw [map_cons, length_cons, ← drop_tail] at hd
      exact mem_of_mem_drop hd
    have hletter : d = c := by
      have heq := (List.cons.inj hmap).1
      rcases hc with rfl | rfl
      · exact heq.symm
      · exact heq.symm
    have hnone : w.tail.all (fun d => d != '[' && d != 'h') = true :=
      mem_schemes (p := fun w => w.tail.all (fun d => d != '[' && d != 'h') = true) (by decide) hw
    have hne := all_eq_true.mp hnone d htail
    rw [hletter] at hne
    rcases hc with rfl | rfl <;> cases hne

theorem hostsUndivided_afterPiece {rest before after : List Char}
    (h : findFirst startsUrl rest = some (before, after)) (hhosts : HostsUndivided parse rest) :
    (∀ url host, parse (ofList (piece after)) = some url → url.host = some host →
      ∀ c ∈ host.toList, isDelimiter c = false) ∧ HostsUndivided parse (afterPiece after) := by
  have hcandidates : candidates rest = piece after :: candidates (afterPiece after) := by
    rw [candidates, h]
  unfold HostsUndivided at hhosts
  rw [hcandidates] at hhosts
  exact ⟨hhosts _ mem_cons_self, fun candidate hmem => hhosts candidate
    (mem_cons_of_mem _ hmem)⟩

theorem onlyRedacted_redactRest (hparsed : HostsParsed parse) {rest : List Char}
    (hexact : ∀ t, t <:+ rest → StartsScheme t → startsUrl t = true)
    (hhosts : HostsUndivided parse rest) : OnlyRedacted (redactRest parse rest) := by
  fun_induction redactRest parse rest with
  | case1 rest h =>
    intro t ht hscheme
    have hne : t ≠ [] := by
      rintro rfl
      obtain ⟨w, hw, hpre⟩ := hscheme
      exact mem_schemes (p := fun w => w ≠ []) (by decide) hw (prefix_nil.mp hpre)
    exact absurd (hexact t ht hscheme) (ne_true_of_eq_false (findFirst_eq_none h ht hne))
  | case2 rest before after h ih =>
    obtain ⟨hrest, -, -⟩ := findFirst_eq_some h
    obtain ⟨hundivided, hlater⟩ := hostsUndivided_afterPiece h hhosts
    have hsuffix : afterPiece after <:+ rest := by
      rw [hrest]
      exact (dropWhile_suffix _).trans (suffix_append _ _)
    intro t ht hscheme
    -- behind the candidate, in what it becomes, or in the text before it
    rcases suffix_append_cases ht with ht | ⟨x, y, hxy, hy, rfl⟩
    · exact ih (fun t ht => hexact t (ht.trans hsuffix)) hlater t ht hscheme
    · rcases suffix_append_cases ⟨x, hxy.symm⟩ with ⟨x', hx'⟩ | ⟨x', z, hbefore, hz, rfl⟩
      · exact redacted_of_startsScheme hparsed hundivided hx'.symm hy (delimited_redactRest after)
          hscheme
      · obtain ⟨c, tail, hhead, hc⟩ := @head_redactSingle parse (ofList (piece after))
        rw [hhead, List.append_assoc, cons_append] at hscheme
        exact absurd hscheme (not_startsScheme_before hexact h hbefore hz hc)

theorem mem_of_isControl (hparsed : HostsParsed parse) {rest : List Char} {c : Char}
    (hc : c ∈ redactRest parse rest) (hcontrol : Text.isControl c = true) : c ∈ rest := by
  fun_induction redactRest parse rest with
  | case1 rest h => exact hc
  | case2 rest before after h ih =>
    obtain ⟨rfl, -, -⟩ := findFirst_eq_some h
    simp only [mem_append] at hc
    rcases hc with (hc | hc) | hc
    · exact mem_append_left _ hc
    · rw [isControl_redactSingle hparsed hc] at hcontrol
      cases hcontrol
    · exact mem_append_right _ ((dropWhile_suffix _).subset (ih hc))

end Loop

end XLStatus.Services
