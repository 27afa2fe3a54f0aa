import XLStatus.Lib.JsonLex
import XLStatus.Notifications.Template

/-! JSON templates: the rendered text has the tokens of the template, and the values of the
message are parts of its string literals. -/

namespace XLStatus.Notifications

open Checked JsonLex JsonText Option
open Text (len)

def Segment.symbols (message : NotificationMessage) : Segment → List (Char ⊕ List Char)
  | .text chars => chars.map .inl
  | .placeholder key =>
    if (replacement message key).isSome then [.inr key]
    else (openMark ++ key ++ closeMark).map .inl

def templateSymbols (message : NotificationMessage) (template : String) :
    List (Char ⊕ List Char) :=
  (segments template.toList).flatMap (Segment.symbols message)

def placeholderValue (message : NotificationMessage) (key : List Char) : List Char :=
  ((replacement message key).getD "").toList

variable {message : NotificationMessage}

theorem escapeJsonTemplateValue_eq (value : String) :
    escapeJsonTemplateValue value = value.toList.flatMap escapeChar := by
  have hjson : (stringJson value).toList = '"' :: (value.toList.flatMap escapeChar ++ ['"']) := by
    simp [stringJson]
  unfold escapeJsonTemplateValue
  rw [hjson]
  exact List.dropLast_concat

theorem fill_symbols {f : List Char → List Char} {g : Segment → List Char}
    (htext : ∀ chars, g (.text chars) = chars)
    (hkey : ∀ key, g (.placeholder key) =
      if (replacement message key).isSome then f key else openMark ++ key ++ closeMark)
    (l : List Segment) : fill f (l.flatMap (Segment.symbols message)) = l.flatMap g := by
  have hplain : ∀ chars : List Char, fill f (chars.map .inl) = chars := by
    intro chars
    unfold fill
    rw [List.flatMap_map]
    exact List.flatMap_singleton' chars
  induction l with
  | nil => rfl
  | cons s l ih =>
    rw [List.flatMap_cons, List.flatMap_cons, ← ih]
    unfold fill
    rw [List.flatMap_append]
    congr 1
    cases s with
    | text chars => exact (hplain chars).trans (htext chars).symm
    | placeholder =>
      rw [hkey, Segment.symbols]
      split_ifs
      · exact List.flatMap_singleton ..
      · exact hplain _

theorem fill_source (template : String) :
    fill (fun key => openMark ++ key ++ closeMark) (templateSymbols message template) =
      template.toList := by
  refine (fill_symbols (fun _ => rfl) (fun key => ?_) _).trans
    (flatMap_source_segments template.toList)
  exact (ite_self _).symm

theorem fill_value (template : String) :
    fill (fun key => (placeholderValue message key).flatMap escapeChar)
        (templateSymbols message template) =
      (expansion message escapeJsonTemplateValue template).toList := by
  rw [expansion, String.toList_ofList]
  refine fill_symbols (fun _ => rfl) (fun key => ?_) _
  unfold placeholderValue
  dsimp only [Segment.expand]
  cases replacement message key with
  | none => rfl
  | some value => exact escapeJsonTemplateValue_eq value

theorem quote_not_mem_key {key : List Char} (hkeys : ∀ k ∈ message.metadata, '"' ∉ k.toList)
    (h : (replacement message key).isSome = true) : '"' ∉ key := by
  rw [← String.toList_ofList (l := key)]
  unfold replacement at h
  split at h
  case h_5 =>
    obtain ⟨value, hvalue⟩ := isSome_iff_exists.mp h
    obtain ⟨name, hname, hlookup⟩ := bind_eq_some_iff.mp hvalue
    rw [Text.stripPrefix_eq_some.mp hname, String.toList_append, List.mem_append]
    rintro (hpre | hpost)
    · exact absurd hpre (by decide)
    · exact hkeys name (AList.lookup_isSome.mp (isSome_iff_exists.mpr ⟨_, hlookup⟩)) hpost
  all_goals
    rename_i heq
    rw [heq]
    decide

variable {actions : List (Action Char)} {mode : Mode}

theorem run_placeholder {key : List Char} {last : Mode} (hquote : '"' ∉ key)
    (hrun : run readChar mode (openMark ++ key ++ closeMark) = some (last, actions))
    (hbraces : ¬ [.punct '\x7b', .punct '\x7b'] <:+: actions) :
    mode = .string ∧ last = .string ∧ ∃ value, Decodes (openMark ++ key ++ closeMark) value := by
  obtain rfl := (run_braces hrun).resolve_right hbraces
  have hopened : '"' ∉ openMark ++ key ++ ['\x7d'] := by
    simp only [List.mem_append, not_or]
    exact ⟨⟨by decide, hquote⟩, by decide⟩
  have hsplit : openMark ++ key ++ closeMark = openMark ++ key ++ ['\x7d'] ++ ['\x7d'] := by
    rw [List.append_assoc (openMark ++ key)]
    rfl
  have hwhole := hrun
  rw [hsplit] at hwhole
  obtain ⟨mid, first, rest, hfirst, hclose, rfl⟩ := run_append_eq_some.mp hwhole
  obtain ⟨hmid, value, rfl⟩ := run_inLiteral rfl hopened hfirst
  -- the last brace is read inside the literal
  obtain ⟨⟨next, now⟩, hstep, hend⟩ := bind_eq_some_iff.mp hclose
  obtain rfl := eq_string_of_readChar hmid hstep
  obtain ⟨rfl, rfl⟩ := Prod.mk.inj (some.inj hclose)
  refine ⟨rfl, rfl, value ++ ['\x7d'], ?_⟩
  rw [Decodes, hrun, List.map_append]
  rfl

theorem run_segment {s : Segment}
    (hquote : ∀ key, s = .placeholder key → (replacement message key).isSome = true → '"' ∉ key)
    {last : Mode} (hrun : run readChar mode s.source = some (last, actions))
    (hbraces : ¬ [.punct '\x7b', .punct '\x7b'] <:+: actions) :
    (∃ symbols, run readSymbol mode (s.symbols message) = some (last, symbols)) ∧
      ∀ key, .inr key ∈ s.symbols message →
        ∃ value, Decodes (openMark ++ key ++ closeMark) value := by
  have hplain : ∀ text : List Char, run readChar mode text = some (last, actions) →
      (∃ symbols, run readSymbol mode (text.map (Sum.inl : Char → Char ⊕ List Char)) =
        some (last, symbols)) ∧ ∀ key : List Char, .inr key ∈ text.map Sum.inl →
          ∃ value, Decodes (openMark ++ key ++ closeMark) value := by
    intro text htext
    refine ⟨⟨_, by rw [run_readSymbol_map_inl, htext, Option.map_some]⟩, fun key hkey => ?_⟩
    obtain ⟨c, -, hc⟩ := List.mem_map.mp hkey
    cases hc
  cases s with
  | text chars => exact hplain chars hrun
  | placeholder key =>
    rw [Segment.symbols]
    split_ifs with hsome
    · obtain ⟨rfl, rfl, hvalue⟩ := run_placeholder (hquote key rfl hsome) hrun hbraces
      refine ⟨⟨[.add (.inr key)], rfl⟩, fun other hother => ?_⟩
      cases List.mem_singleton.mp hother
      exact hvalue
    · exact hplain _ hrun

theorem run_symbols {l : List Segment}
    (hquote : ∀ key, .placeholder key ∈ l → (replacement message key).isSome = true → '"' ∉ key)
    {last : Mode} (hrun : run readChar mode (l.flatMap Segment.source) = some (last, actions))
    (hbraces : ¬ [.punct '\x7b', .punct '\x7b'] <:+: actions) :
    (∃ symbols, run readSymbol mode (l.flatMap (Segment.symbols message)) =
        some (last, symbols)) ∧
      ∀ key, .inr key ∈ l.flatMap (Segment.symbols message) →
        ∃ value, Decodes (openMark ++ key ++ closeMark) value := by
  induction l generalizing mode actions with
  | nil =>
    obtain ⟨rfl, rfl⟩ := Prod.mk.inj (some.inj hrun)
    exact ⟨⟨[], rfl⟩, fun key h => by cases h⟩
  | cons s l ih =>
    rw [List.flatMap_cons] at hrun
    obtain ⟨mid, first, rest, hfirst, hrest, rfl⟩ := run_append_eq_some.mp hrun
    obtain ⟨⟨now, hnow⟩, hkeys⟩ := run_segment
      (fun key hs => hquote key (List.mem_cons.mpr (.inl hs.symm))) hfirst
      fun h => hbraces (h.trans (List.prefix_append _ _).isInfix)
    obtain ⟨⟨later, hlater⟩, hothers⟩ := ih (fun key hmem => hquote key (List.mem_cons_of_mem s hmem))
      hrest fun h => hbraces (h.trans (List.suffix_append _ _).isInfix)
    rw [List.flatMap_cons]
    refine ⟨⟨now ++ later, run_append hnow hlater⟩, fun key hkey => ?_⟩
    exact (List.mem_append.mp hkey).elim (hkeys key) (hothers key)

theorem readChar_of_isWhitespace {c : Char} (hc : Text.isWhitespace c = true)
    {r : Mode × List (Action Char)} (h : readChar .between c = some r) : r = (.between, []) := by
  have hpunct : isPunct c = false := by
    rw [Bool.eq_false_iff]
    intro hmem
    unfold isPunct at hmem
    simp only [List.mem_cons, List.not_mem_nil, or_false, decide_eq_true_eq] at hmem
    rcases hmem with rfl | rfl | rfl | rfl | rfl | rfl <;> exact absurd hc (by decide)
  have hquote : c ≠ '"' := by
    rintro rfl
    exact absurd hc (by decide)
  have hscalar : isScalarChar c = false := by
    rw [Bool.eq_false_iff]
    intro hmem
    unfold isScalarChar at hmem
    simp only [List.mem_cons, List.not_mem_nil, or_false, decide_eq_true_eq,
      Bool.or_eq_true] at hmem
    rcases hmem with hmem | rfl | rfl | rfl
    · rw [Text.isWhitespace_of_isAlphanum hmem] at hc
      cases hc
    all_goals exact absurd hc (by decide)
  rw [readChar, if_neg (ne_true_of_eq_false hpunct), if_neg hquote,
    if_neg (ne_true_of_eq_false hscalar)] at h
  split_ifs at h
  exact (Option.some.inj h).symm

theorem not_valid_of_blank {template : String} (hblank : Text.trim template = "") :
    ¬ Valid template.toList := by
  obtain ⟨before, after, htext, hbefore, hafter⟩ := Text.exists_append_trim template
  have hspace : ∀ c ∈ template.toList ++ [' '], Text.isWhitespace c = true := by
    intro c hc
    rw [htext, hblank] at hc
    simp only [List.mem_append, List.mem_singleton] at hc
    rcases hc with ((hc | hc) | hc) | rfl
    · exact hbefore c hc
    · cases hc
    · exact hafter c hc
    · decide
  have hnone : ∀ (text : List Char) (last : Mode) (actions : List (Action Char)),
      (∀ c ∈ text, Text.isWhitespace c = true) →
      run readChar .between text = some (last, actions) → actions = [] := by
    intro text
    induction text with
    | nil =>
      intro last actions _ h
      exact (Prod.mk.inj (Option.some.inj h)).2.symm
    | cons c text ih =>
      intro last actions htext h
      obtain ⟨first, hstep, ⟨_, rest⟩, hrest, heq⟩ := by
        simpa only [run, Option.bind_eq_some_iff, Option.map_eq_some_iff] using h
      obtain rfl := readChar_of_isWhitespace (htext c List.mem_cons_self) hstep
      obtain ⟨rfl, rfl⟩ := Prod.mk.inj heq
      exact ih _ _ (fun d hd => htext d (List.mem_cons_of_mem c hd)) hrest
  rintro ⟨tokens, hlex, haccepts⟩
  obtain ⟨actions, hrun, rfl⟩ := tokensOf_eq_some.mp hlex
  rw [hnone _ _ _ hspace hrun] at haccepts
  exact absurd haccepts (by decide)

/-- A template that is valid JSON renders to JSON with the same tokens. In both, the literals are
those of the template with its placeholders as holes: in the template the holes have the text of
the placeholders, in the rendered text the values of the message. -/
theorem render_keeps_tokens (template : String) (message : NotificationMessage) {out : String}
    (hkeys : ∀ k ∈ message.metadata, '"' ∉ k.toList) (hvalid : Valid template.toList)
    (hout : renderTemplate template message = .ok out) :
    out = expansion message escapeJsonTemplateValue template ∧ Valid out.toList ∧
      ∃ (skeleton : List (Token (List (Char ⊕ List Char)))) (source : List Char → List Char),
        lexHoles (templateSymbols message template) = some skeleton ∧
        (∀ key, .inr key ∈ templateSymbols message template →
          Decodes (openMark ++ key ++ closeMark) (source key)) ∧
        lex template.toList = some (skeleton.map (Token.map (fill source))) ∧
        lex out.toList = some (skeleton.map (Token.map (fill (placeholderValue message)))) := by
  have hnonblank : Text.trim template ≠ "" := fun h => not_valid_of_blank h hvalid
  have hwhole : out = expansion message escapeJsonTemplateValue template := by
    rw [renderTemplate, if_neg hnonblank, renderValueTemplateLimitedWithEscaper_eq] at hout
    split_ifs at hout
    exact (Except.ok.inj hout).symm
  obtain ⟨tokens, hlex, haccepts⟩ := hvalid
  obtain ⟨actions, hrun, rfl⟩ := tokensOf_eq_some.mp hlex
  have hbraces : ¬ [.punct '\x7b', .punct '\x7b'] <:+: actions := by
    rintro ⟨before, after, rfl⟩
    refine not_infix_of_accepts haccepts ?_
    rw [List.append_assoc]
    obtain ⟨rest, hrest⟩ := assemble_append [] before ([.punct '\x7b', .punct '\x7b'] ++ after)
    rw [hrest]
    exact ⟨_, _, (List.append_assoc _ _ _)⟩
  have hdivided : template.toList ++ [' '] =
      (segments template.toList ++ [Segment.text [' ']]).flatMap Segment.source := by
    rw [List.flatMap_append, flatMap_source_segments]
    rfl
  rw [hdivided] at hrun
  obtain ⟨⟨symbols, hsymbols⟩, hdecodes⟩ := run_symbols
    (fun key _ hsome => quote_not_mem_key hkeys hsome) hrun hbraces
  have hholes : (segments template.toList ++ [Segment.text [' ']]).flatMap
      (Segment.symbols message) = templateSymbols message template ++ [.inl ' '] :=
    List.flatMap_append
  rw [hholes] at hsymbols hdecodes
  have hdecodes' : ∀ key, .inr key ∈ templateSymbols message template →
      ∃ value, Decodes (openMark ++ key ++ closeMark) value := fun key hkey =>
    hdecodes key (List.mem_append_left _ hkey)
  choose! source hsource using hdecodes'
  have hskeleton := tokensOf_eq_some.mpr ⟨symbols, hsymbols, rfl⟩
  have htemplate := lex_fill hsource hskeleton
  have hrendered := lex_fill (fun key _ => decodes_flatMap_escapeChar (placeholderValue message key))
    hskeleton
  rw [fill_source] at htemplate
  rw [fill_value, ← hwhole] at hrendered
  refine ⟨hwhole, ⟨_, hrendered, ?_⟩, _, source, hskeleton, hsource, htemplate, hrendered⟩
  rw [some.inj (hlex.symm.trans htemplate)] at haccepts
  rwa [accepts_map] at haccepts ⊢

def Sample.entry (title key value : String) : NotificationMessage where
  title := title
  message := ""
  severity := .info
  timestamp := ""
  metadata := AList.insert key value ∅

open Sample in
theorem render_keeps_tokens_sample :
    Valid "\x7b\"t\":\"a\\\"b: x\"\x7d".toList := by
  refine (render_keeps_tokens ("\x7b\"t\":\"\x7b\x7btitle\x7d\x7d: " ++
    "\x7b\x7bmetadata.k\x7d\x7d\"\x7d") (entry "a\"b" "k" "x") ?_ ?_ ?_).2.1
  · decide +kernel
  · decide +kernel
  · decide +kernel

open Sample in
theorem metadata_key_joins_literals :
    renderTemplate "[\"\x7b\x7bmetadata.\",\"\x7d\x7d\"]" (entry "" "\",\"" "x") = .ok "[\"x\"]" ∧
      lex "[\"\x7b\x7bmetadata.\",\"\x7d\x7d\"]".toList = some [.punct '[',
        .string "\x7b\x7bmetadata.".toList, .punct ',', .string "\x7d\x7d".toList, .punct ']'] ∧
      Valid "[\"\x7b\x7bmetadata.\",\"\x7d\x7d\"]".toList ∧
      lex "[\"x\"]".toList = some [.punct '[', .string ['x'], .punct ']'] := by
  refine ⟨?_, ?_, ?_, ?_⟩
  all_goals decide +kernel

end XLStatus.Notifications
