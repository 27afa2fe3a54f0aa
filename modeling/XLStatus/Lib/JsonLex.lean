import XLStatus.Lib.JsonText

/-! The tokens of a JSON text and the grammar of the tokens. A text may have holes in its string
literals; filling the holes with the body of a literal changes that literal only. -/

namespace XLStatus.JsonLex

open List Option

open JsonText (hexValue escapeChar hexDigit)

/-! ## Tokens -/

inductive Token (σ : Type*) where
  | punct (c : Char)
  | scalar (text : List Char)
  | string (value : σ)
  deriving DecidableEq

def Token.map {σ τ : Type*} (f : σ → τ) : Token σ → Token τ
  | .punct c => .punct c
  | .scalar text => .scalar text
  | .string value => .string (f value)

inductive Action (β : Type*) where
  | add (b : β)
  | close
  | punct (c : Char)
  | scalar (text : List Char)
  deriving DecidableEq

def assemble {β : Type*} : List β → List (Action β) → List (Token (List β))
  | _, [] => []
  | value, .add b :: l => assemble (value ++ [b]) l
  | value, .close :: l => .string value :: assemble [] l
  | value, .punct c :: l => .punct c :: assemble value l
  | value, .scalar text :: l => .scalar text :: assemble value l

/-- Where the reader stands: between tokens, in a number or a name, or in a literal and there
after a backslash, in the digits of an escape or after a high surrogate. -/
inductive Mode where
  | between
  | scalar (text : List Char)
  | string
  | escape
  | unicode (high : Option ℕ) (code digits : ℕ)
  | surrogate (high : ℕ)
  | surrogateEscape (high : ℕ)
  deriving DecidableEq

def isSpace (c : Char) : Bool := c ∈ [' ', '\t', '\n', '\r']
def isPunct (c : Char) : Bool := c ∈ ['\x7b', '\x7d', '[', ']', ':', ',']
def isScalarChar (c : Char) : Bool := c.isAlphanum || c ∈ ['+', '-', '.']

def simpleEscape : Char → Option Char
  | '"' => some '"'
  | '\\' => some '\\'
  | '/' => some '/'
  | 'b' => some (Char.ofNat 0x08)
  | 'f' => some (Char.ofNat 0x0C)
  | 'n' => some '\n'
  | 'r' => some '\r'
  | 't' => some '\t'
  | _ => none

def unicodeEnd : Option ℕ → ℕ → Option (Mode × List (Action Char))
  | none, code =>
    if 0xD800 ≤ code ∧ code < 0xDC00 then some (.surrogate code, [])
    else if 0xDC00 ≤ code ∧ code < 0xE000 then none
    else some (.string, [.add (Char.ofNat code)])
  | some high, code =>
    if 0xDC00 ≤ code ∧ code < 0xE000 then
      some (.string, [.add (Char.ofNat (0x10000 + (high - 0xD800) * 0x400 + (code - 0xDC00)))])
    else none

def readChar : Mode → Char → Option (Mode × List (Action Char))
  | .between, c =>
    if isSpace c then some (.between, [])
    else if isPunct c then some (.between, [.punct c])
    else if c = '"' then some (.string, [])
    else if isScalarChar c then some (.scalar [c], [])
    else none
  | .scalar text, c =>
    if isSpace c then some (.between, [.scalar text])
    else if isPunct c then some (.between, [.scalar text, .punct c])
    else if isScalarChar c then some (.scalar (text ++ [c]), [])
    else none
  | .string, c =>
    if c = '"' then some (.between, [.close])
    else if c = '\\' then some (.escape, [])
    else if c.toNat < 0x20 then none
    else some (.string, [.add c])
  | .escape, c =>
    if c = 'u' then some (.unicode none 0 0, [])
    else (simpleEscape c).map fun d => (.string, [.add d])
  | .unicode high code digits, c => (hexValue c).bind fun d =>
    if digits < 3 then some (.unicode high (16 * code + d) (digits + 1), [])
    else unicodeEnd high (16 * code + d)
  | .surrogate high, c => if c = '\\' then some (.surrogateEscape high, []) else none
  | .surrogateEscape high, c => if c = 'u' then some (.unicode (some high) 0 0, []) else none

section Run

variable {ι β : Type*}

def run (step : Mode → ι → Option (Mode × List (Action β))) :
    Mode → List ι → Option (Mode × List (Action β))
  | mode, [] => some (mode, [])
  | mode, s :: l => (step mode s).bind fun first =>
    (run step first.1 l).map fun rest => (rest.1, first.2 ++ rest.2)

variable {mode : Mode} {l m : List ι}

theorem run_append_eq_some {step : Mode → ι → Option (Mode × List (Action β))} {last : Mode}
    {actions : List (Action β)} :
    run step mode (l ++ m) = some (last, actions) ↔ ∃ mid first rest,
      run step mode l = some (mid, first) ∧ run step mid m = some (last, rest) ∧
        actions = first ++ rest := by
  induction l generalizing mode actions with
  | nil =>
    constructor
    · exact fun h => ⟨mode, [], actions, rfl, h, rfl⟩
    · rintro ⟨mid, first, rest, hfirst, hrest, rfl⟩
      obtain ⟨rfl, rfl⟩ := Prod.mk.inj (some.inj hfirst)
      exact hrest
  | cons s l ih =>
    simp only [cons_append, run, bind_eq_some_iff, map_eq_some_iff]
    constructor
    · rintro ⟨⟨next, now⟩, hstep, ⟨_, rest⟩, hrun, heq⟩
      obtain ⟨rfl, rfl⟩ := Prod.mk.inj heq
      obtain ⟨mid, first, tail, hfirst, htail, rfl⟩ := ih.mp hrun
      exact ⟨mid, now ++ first, tail, ⟨_, hstep, _, hfirst, rfl⟩, htail,
        (append_assoc _ _ _).symm⟩
    · rintro ⟨mid, first, tail, ⟨⟨next, now⟩, hstep, ⟨_, rest⟩, hfirst, heq⟩, htail, rfl⟩
      obtain ⟨rfl, rfl⟩ := Prod.mk.inj heq
      exact ⟨_, hstep, (last, rest ++ tail), ih.mpr ⟨_, _, _, hfirst, htail, rfl⟩,
        by rw [append_assoc]⟩

theorem run_append {step : Mode → ι → Option (Mode × List (Action β))} {mid last : Mode}
    {first rest : List (Action β)} (hl : run step mode l = some (mid, first))
    (hm : run step mid m = some (last, rest)) :
    run step mode (l ++ m) = some (last, first ++ rest) :=
  run_append_eq_some.mpr ⟨mid, first, rest, hl, hm, rfl⟩

def tokensOf (result : Option (Mode × List (Action β))) : Option (List (Token (List β))) :=
  result.bind fun r => if r.1 = .between then some (assemble [] r.2) else none

theorem tokensOf_eq_some {result : Option (Mode × List (Action β))}
    {tokens : List (Token (List β))} : tokensOf result = some tokens ↔
      ∃ actions, result = some (.between, actions) ∧ assemble [] actions = tokens := by
  unfold tokensOf
  rw [bind_eq_some_iff]
  constructor
  · rintro ⟨⟨mode, actions⟩, hresult, h⟩
    split_ifs at h with hmode
    dsimp only at hmode
    subst hmode
    exact ⟨actions, hresult, some.inj h⟩
  · rintro ⟨actions, hresult, rfl⟩
    exact ⟨_, hresult, if_pos rfl⟩

theorem assemble_append (value : List β) (l m : List (Action β)) :
    ∃ rest, assemble value (l ++ m) = assemble value l ++ assemble rest m := by
  induction l generalizing value with
  | nil => exact ⟨value, rfl⟩
  | cons a l ih =>
    cases a with
    | add => exact ih _
    | close =>
      obtain ⟨rest, hrest⟩ := ih []
      exact ⟨rest, congrArg _ hrest⟩
    | punct =>
      obtain ⟨rest, hrest⟩ := ih value
      exact ⟨rest, congrArg _ hrest⟩
    | scalar =>
      obtain ⟨rest, hrest⟩ := ih value
      exact ⟨rest, congrArg _ hrest⟩

theorem assemble_map_add (parts value : List β) (l : List (Action β)) :
    assemble value (parts.map .add ++ l) = assemble (value ++ parts) l := by
  induction parts generalizing value with
  | nil =>
    rw [append_nil]
    rfl
  | cons p parts ih =>
    change assemble (value ++ [p]) (parts.map .add ++ l) = _
    rw [ih, append_assoc, singleton_append]

end Run

def lex (text : List Char) : Option (List (Token (List Char))) :=
  tokensOf (run readChar .between (text ++ [' ']))

def readString (text : String) : Option String := match lex text.toList with
  | some [.string value] => some (String.ofList value)
  | _ => none

/-! ## Holes -/

section Holes

variable {α β γ : Type*}

def Action.subst (f : β → List γ) : Action β → List (Action γ)
  | .add b => (f b).map .add
  | .close => [.close]
  | .punct c => [.punct c]
  | .scalar text => [.scalar text]

theorem assemble_subst (f : β → List γ) (value : List β) (actions : List (Action β)) :
    assemble (value.flatMap f) (actions.flatMap (Action.subst f)) =
      (assemble value actions).map (Token.map fun value => value.flatMap f) := by
  induction actions generalizing value with
  | nil => rfl
  | cons a actions ih =>
    rw [flatMap_cons]
    cases a with
    | add b =>
      have hvalue : (value ++ [b]).flatMap f = value.flatMap f ++ f b := by simp
      change assemble (value.flatMap f) ((f b).map .add ++ _) = _
      rw [assemble_map_add, ← hvalue, ih]
      rfl
    | close => exact congrArg _ (ih [])
    | punct => exact congrArg _ (ih value)
    | scalar => exact congrArg _ (ih value)

def readSymbol (mode : Mode) : Char ⊕ α → Option (Mode × List (Action (Char ⊕ α)))
  | .inl c => (readChar mode c).map fun r => (r.1, r.2.flatMap (Action.subst fun c => [.inl c]))
  | .inr a => if mode = .string then some (.string, [.add (.inr a)]) else none

def lexHoles (text : List (Char ⊕ α)) : Option (List (Token (List (Char ⊕ α)))) :=
  tokensOf (run readSymbol .between (text ++ [.inl ' ']))

def fill (f : α → List Char) (text : List (Char ⊕ α)) : List Char :=
  text.flatMap (Sum.elim (fun c => [c]) f)

def Decodes (text value : List Char) : Prop :=
  run readChar .string text = some (.string, value.map .add)

theorem run_readSymbol_map_inl (mode : Mode) (text : List Char) :
    run readSymbol mode (text.map (Sum.inl : Char → Char ⊕ α)) =
      (run readChar mode text).map fun r =>
        (r.1, r.2.flatMap (Action.subst fun c => [.inl c])) := by
  induction text generalizing mode with
  | nil => rfl
  | cons c text ih =>
    rw [map_cons, run, run, readSymbol]
    cases readChar mode c with
    | none => rfl
    | some first =>
      dsimp only [map_some, bind_some]
      rw [ih]
      cases run readChar first.1 text with
      | none => rfl
      | some =>
        dsimp only [map_some]
        rw [flatMap_append]

theorem flatMap_subst_subst (f : α → List Char) (actions : List (Action Char)) :
    (actions.flatMap (Action.subst fun c => [(.inl c : Char ⊕ α)])).flatMap
      (Action.subst (Sum.elim (fun c => [c]) f)) = actions := by
  induction actions with
  | nil => rfl
  | cons a actions ih =>
    rw [flatMap_cons, flatMap_append, ih]
    cases a <;> rfl

variable {value body : α → List Char}

theorem run_fill {text : List (Char ⊕ α)} (hbody : ∀ a, .inr a ∈ text → Decodes (body a) (value a))
    {mode last : Mode} {actions : List (Action (Char ⊕ α))}
    (h : run readSymbol mode text = some (last, actions)) :
    run readChar mode (fill body text) =
      some (last, actions.flatMap (Action.subst (Sum.elim (fun c => [c]) value))) := by
  induction text generalizing mode actions with
  | nil =>
    obtain ⟨rfl, rfl⟩ := Prod.mk.inj (some.inj h)
    rfl
  | cons s text ih =>
    obtain ⟨⟨next, first⟩, hstep, ⟨_, rest⟩, hrest, heq⟩ := by
      simpa only [run, bind_eq_some_iff, map_eq_some_iff] using h
    obtain ⟨rfl, rfl⟩ := Prod.mk.inj heq
    have hrun := ih (fun a ha => hbody a (mem_cons_of_mem s ha)) hrest
    rw [fill, flatMap_cons, flatMap_append]
    refine run_append ?_ hrun
    cases s with
    | inl c =>
      obtain ⟨⟨_, now⟩, hread, heq⟩ := map_eq_some_iff.mp hstep
      obtain ⟨rfl, rfl⟩ := Prod.mk.inj heq
      rw [flatMap_subst_subst]
      change (readChar mode c).bind _ = _
      rw [hread]
      exact congrArg (fun l => some (_, l)) (append_nil _)
    | inr a =>
      unfold readSymbol at hstep
      split_ifs at hstep with hmode
      obtain ⟨rfl, rfl⟩ := Prod.mk.inj (some.inj hstep)
      subst hmode
      rw [flatMap_singleton]
      exact hbody a mem_cons_self

theorem lex_fill {text : List (Char ⊕ α)} {tokens : List (Token (List (Char ⊕ α)))}
    (hbody : ∀ a, .inr a ∈ text → Decodes (body a) (value a)) (h : lexHoles text = some tokens) :
    lex (fill body text) = some (tokens.map (Token.map (fill value))) := by
  obtain ⟨actions, hrun, rfl⟩ := tokensOf_eq_some.mp h
  have hholes : ∀ a, .inr a ∈ text ++ [.inl ' '] → Decodes (body a) (value a) := by
    intro a ha
    rcases mem_append.mp ha with ha | ha
    · exact hbody a ha
    · cases mem_singleton.mp ha
  have hfilled := run_fill hholes hrun
  refine tokensOf_eq_some.mpr ⟨_, ?_, assemble_subst _ [] actions⟩
  rw [← hfilled, fill, fill, flatMap_append]
  rfl

end Holes

/-! ## Bodies of literals -/

def Mode.inLiteral : Mode → Bool
  | .between | .scalar _ => false
  | _ => true

variable {actions : List (Action Char)} {next mode : Mode}

theorem unicodeEnd_inLiteral {high : Option ℕ} {code : ℕ}
    (h : unicodeEnd high code = some (next, actions)) :
    next.inLiteral = true ∧ ∃ value : List Char, actions = value.map .add := by
  cases high with
  | none =>
    rw [unicodeEnd] at h
    split_ifs at h <;> obtain ⟨rfl, rfl⟩ := Prod.mk.inj (some.inj h)
    · exact ⟨rfl, [], rfl⟩
    · exact ⟨rfl, [_], rfl⟩
  | some =>
    rw [unicodeEnd] at h
    split_ifs at h
    obtain ⟨rfl, rfl⟩ := Prod.mk.inj (some.inj h)
    exact ⟨rfl, [_], rfl⟩

theorem readChar_inLiteral {c : Char} (hmode : mode.inLiteral = true) (hc : c ≠ '"')
    (h : readChar mode c = some (next, actions)) :
    next.inLiteral = true ∧ ∃ value : List Char, actions = value.map .add := by
  cases mode with
  | between => cases hmode
  | scalar => cases hmode
  | string =>
    rw [readChar, if_neg hc] at h
    split_ifs at h <;> obtain ⟨rfl, rfl⟩ := Prod.mk.inj (Option.some.inj h)
    · exact ⟨rfl, [], rfl⟩
    · exact ⟨rfl, [c], rfl⟩
  | escape =>
    rw [readChar] at h
    split_ifs at h
    · obtain ⟨rfl, rfl⟩ := Prod.mk.inj (Option.some.inj h)
      exact ⟨rfl, [], rfl⟩
    · obtain ⟨d, -, heq⟩ := Option.map_eq_some_iff.mp h
      obtain ⟨rfl, rfl⟩ := Prod.mk.inj heq
      exact ⟨rfl, [d], rfl⟩
  | unicode =>
    obtain ⟨d, -, h⟩ := Option.bind_eq_some_iff.mp h
    split_ifs at h
    · obtain ⟨rfl, rfl⟩ := Prod.mk.inj (Option.some.inj h)
      exact ⟨rfl, [], rfl⟩
    · exact unicodeEnd_inLiteral h
  | surrogate =>
    rw [readChar] at h
    split_ifs at h
    obtain ⟨rfl, rfl⟩ := Prod.mk.inj (Option.some.inj h)
    exact ⟨rfl, [], rfl⟩
  | surrogateEscape =>
    rw [readChar] at h
    split_ifs at h
    obtain ⟨rfl, rfl⟩ := Prod.mk.inj (Option.some.inj h)
    exact ⟨rfl, [], rfl⟩

theorem run_inLiteral {last : Mode} {text : List Char} (hmode : mode.inLiteral = true)
    (hquote : '"' ∉ text) (h : run readChar mode text = some (last, actions)) :
    last.inLiteral = true ∧ ∃ value : List Char, actions = value.map .add := by
  induction text generalizing mode actions with
  | nil =>
    obtain ⟨rfl, rfl⟩ := Prod.mk.inj (some.inj h)
    exact ⟨hmode, [], rfl⟩
  | cons c text ih =>
    obtain ⟨⟨next, first⟩, hstep, ⟨_, rest⟩, hrest, heq⟩ := by
      simpa only [run, bind_eq_some_iff, map_eq_some_iff] using h
    obtain ⟨rfl, rfl⟩ := Prod.mk.inj heq
    rw [mem_cons, not_or] at hquote
    obtain ⟨hnext, now, rfl⟩ := readChar_inLiteral hmode (Ne.symm hquote.1) hstep
    obtain ⟨hlast, later, rfl⟩ := ih hnext hquote.2 hrest
    exact ⟨hlast, now ++ later, (map_append ..).symm⟩

theorem decodes_escapeChar (c : Char) : Decodes (escapeChar c) [c] := by
  have hcontrol : ∀ n < 0x20, run readChar .string (escapeChar (Char.ofNat n)) =
      some (.string, [.add (Char.ofNat n)]) := by decide
  by_cases hneeds : JsonText.NeedsEscape c
  · rcases hneeds with rfl | rfl | hc
    · rfl
    · rfl
    · have h := hcontrol c.toNat hc
      rwa [Char.ofNat_toNat] at h
  · rw [JsonText.escapeChar_of_not hneeds]
    unfold JsonText.NeedsEscape at hneeds
    push Not at hneeds
    rw [Decodes, run, readChar, if_neg hneeds.1, if_neg hneeds.2.1, if_neg (not_lt.mpr hneeds.2.2)]
    rfl

theorem decodes_flatMap_escapeChar (value : List Char) :
    Decodes (value.flatMap escapeChar) value := by
  induction value with
  | nil => rfl
  | cons c value ih => exact run_append (decodes_escapeChar c) ih

theorem readString_stringJson (s : String) : readString (JsonText.stringJson s) = some s := by
  have htext : (JsonText.stringJson s).toList ++ [' '] =
      ['"'] ++ (s.toList.flatMap escapeChar ++ ['"', ' ']) := by
    simp only [JsonText.stringJson, String.toList_append, String.toList_ofList, append_assoc]
    rfl
  have hopen : run readChar .between ['"'] = some (.string, []) := rfl
  have hclose : run readChar .string ['"', ' '] = some (.between, [.close]) := rfl
  have hrun := run_append hopen (run_append (decodes_flatMap_escapeChar s.toList) hclose)
  have hlex : lex (JsonText.stringJson s).toList = some [.string s.toList] := by
    rw [lex, htext]
    refine tokensOf_eq_some.mpr ⟨_, hrun, ?_⟩
    exact assemble_map_add s.toList [] [.close]
  rw [readString, hlex]
  exact congrArg some (String.ofList_toList)

theorem run_braces {last : Mode} {text : List Char}
    (h : run readChar mode ('\x7b' :: '\x7b' :: text) = some (last, actions)) :
    mode = .string ∨ [.punct '\x7b', .punct '\x7b'] <:+: actions := by
  obtain ⟨mid, first, rest, hfirst, -, rfl⟩ :=
    run_append_eq_some (l := ['\x7b', '\x7b']) |>.mp h
  cases mode with
  | string => exact .inl rfl
  | between =>
    obtain ⟨rfl, rfl⟩ := Prod.mk.inj (some.inj hfirst)
    exact .inr ⟨[], rest, rfl⟩
  | scalar text =>
    obtain ⟨rfl, rfl⟩ := Prod.mk.inj (some.inj hfirst)
    exact .inr ⟨[.scalar text], rest, rfl⟩
  | _ => cases hfirst

theorem eq_string_of_readChar (hmode : mode.inLiteral = true)
    (h : readChar mode '\x7d' = some (next, actions)) :
    mode = .string := by
  cases mode with
  | string => rfl
  | _ => cases hmode <;> cases h

/-! ## The grammar -/

def afterDigits : List Char → Option (List Char)
  | [] => none
  | c :: l => if c.isDigit then some (l.dropWhile Char.isDigit) else none

def afterInteger : List Char → Option (List Char)
  | '0' :: l => some l
  | l => afterDigits l

def afterFraction : List Char → Option (List Char)
  | '.' :: l => afterDigits l
  | l => some l

def afterSign : List Char → List Char
  | '+' :: l => l
  | '-' :: l => l
  | l => l

def afterExponent : List Char → Option (List Char)
  | 'e' :: l => afterDigits (afterSign l)
  | 'E' :: l => afterDigits (afterSign l)
  | l => some l

def isNumber (text : List Char) : Bool :=
  let digits := if text.head? = some '-' then text.tail else text
  ((afterInteger digits).bind afterFraction).bind afterExponent = some []

def isScalar (text : List Char) : Bool :=
  text = "true".toList || text = "false".toList || text = "null".toList || isNumber text

inductive Frame where
  | array
  | object
  deriving DecidableEq

inductive Phase where
  | value
  | firstItem
  | firstKey
  | key
  | colon
  | after
  deriving DecidableEq

section Grammar

variable {σ τ : Type*}

def parseValue (stack : List Frame) : Token Unit → Option (Phase × List Frame)
  | .string _ => some (.after, stack)
  | .scalar text => if isScalar text then some (.after, stack) else none
  | .punct '[' => some (.firstItem, .array :: stack)
  | .punct '\x7b' => some (.firstKey, .object :: stack)
  | .punct _ => none

def parseKey (stack : List Frame) : Token Unit → Option (Phase × List Frame)
  | .string _ => some (.colon, stack)
  | _ => none

def parseAfter : List Frame → Token Unit → Option (Phase × List Frame)
  | .array :: stack, .punct ',' => some (.value, .array :: stack)
  | .array :: stack, .punct ']' => some (.after, stack)
  | .object :: stack, .punct ',' => some (.key, .object :: stack)
  | .object :: stack, .punct '\x7d' => some (.after, stack)
  | _, _ => none

def parse : Phase × List Frame → Token Unit → Option (Phase × List Frame)
  | (.value, stack), t => parseValue stack t
  | (.firstItem, stack), t => (parseValue stack t).or
      (if t matches .punct ']' then some (.after, stack.tail) else none)
  | (.firstKey, stack), t => (parseKey stack t).or
      (if t matches .punct '\x7d' then some (.after, stack.tail) else none)
  | (.key, stack), t => parseKey stack t
  | (.colon, stack), t => if t matches .punct ':' then some (.value, stack) else none
  | (.after, stack), t => parseAfter stack t

def accepts (tokens : List (Token σ)) : Bool :=
  (tokens.map (Token.map fun _ => ())).foldlM parse (.value, []) = some (.after, [])

def Valid (text : List Char) : Prop := ∃ tokens, lex text = some tokens ∧ accepts tokens = true

instance (text : List Char) : Decidable (Valid text) :=
  decidable_of_iff ((lex text).any accepts = true) (Option.any_eq_true _ _)

theorem accepts_map (f : σ → τ) (tokens : List (Token σ)) :
    accepts (tokens.map (Token.map f)) = accepts tokens := by
  have hkind : ((Token.map fun _ => ()) ∘ Token.map f : Token σ → Token Unit) =
      Token.map fun _ => () := by
    funext t
    cases t <;> rfl
  unfold accepts
  rw [List.map_map, hkind]

theorem parse_brace_brace {state next : Phase × List Frame}
    (h : parse state (.punct '\x7b') = some next) :
    parse next (.punct '\x7b') = none := by
  obtain ⟨phase, stack⟩ := state
  cases phase with
  | value =>
    cases some.inj h
    rfl
  | firstItem =>
    cases some.inj h
    rfl
  | after => cases stack with
    | nil => cases h
    | cons frame stack => cases frame <;> cases h
  | _ => cases h

theorem not_infix_of_accepts {tokens : List (Token σ)} (h : accepts tokens = true) :
    ¬ [.punct '\x7b', .punct '\x7b'] <:+: tokens := by
  rintro ⟨before, after, rfl⟩
  have hrun := of_decide_eq_true h
  rw [append_assoc, map_append, foldlM_append] at hrun
  obtain ⟨mid, -, hmid⟩ := bind_eq_some_iff.mp hrun
  obtain ⟨next, hnext, hrest⟩ := bind_eq_some_iff.mp hmid
  obtain ⟨_, hlast, -⟩ := bind_eq_some_iff.mp hrest
  cases (parse_brace_brace hnext).symm.trans hlast

end Grammar

end XLStatus.JsonLex
