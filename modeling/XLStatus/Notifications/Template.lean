import XLStatus.Notifications.TemplateDefs

/-! The scan of a template against its division into text and placeholders, and the rendering of
URLs and forms. -/

namespace XLStatus.Notifications

open Checked Find JsonText Utf8 List String
open Text (len)

inductive Segment where
  | text (chars : List Char)
  | placeholder (key : List Char)

def segments (rest : List Char) : List Segment :=
  match _hopen : find openMark rest with
  | none => [.text rest]
  | some (before, afterOpen) =>
    match _hclose : find closeMark afterOpen with
    | none => [.text before, .text (openMark ++ afterOpen)]
    | some (key, after) => .text before :: .placeholder key :: segments after
termination_by rest.length
decreasing_by
  exact (length_lt_of_find (by decide) _hclose).trans (length_lt_of_find (by decide) _hopen)

def Segment.source : Segment → List Char
  | .text chars => chars
  | .placeholder key => openMark ++ key ++ closeMark

def Segment.expand (message : NotificationMessage) (escaper : String → List Char) :
    Segment → List Char
  | .text chars => chars
  | .placeholder key => ((replacement message key).map escaper).getD (openMark ++ key ++ closeMark)

def expansion (message : NotificationMessage) (escaper : String → List Char) (template : String) :
    String :=
  ofList ((segments template.toList).flatMap (Segment.expand message escaper))

theorem flatMap_source_segments (rest : List Char) :
    (segments rest).flatMap Segment.source = rest := by
  fun_induction segments rest with
  | case1 rest => simp [Segment.source]
  | case2 rest before afterOpen hopen =>
    rw [eq_append_of_find hopen]
    simp [Segment.source]
  | case3 rest before afterOpen hopen key after hclose ih =>
    rw [flatMap_cons, flatMap_cons, ih, eq_append_of_find hopen,
      eq_append_of_find hclose]
    simp [Segment.source]

section Bounded

variable (message : NotificationMessage) (maxBytes : ℕ) (field : String)
  (escaper : String → List Char)

def bounded (out : List Char) : Except String (List Char) :=
  if (encode out).length ≤ maxBytes then .ok out else .error (sizeError field 0 maxBytes)

theorem appendBounded_eq (out segment : List Char) :
    appendBounded out segment maxBytes field = bounded maxBytes field (out ++ segment) := by
  unfold appendBounded bounded
  rw [encode_append, List.length_append]
  split_ifs <;> first | rfl | omega

theorem bounded_bind {next : List Char → Except String (List Char)} {out segment whole : List Char}
    (hnext : ∀ out, next out = bounded maxBytes field (out ++ segment))
    (hwhole : whole = out ++ segment) :
    (bounded maxBytes field out >>= next) = bounded maxBytes field whole := by
  subst hwhole
  by_cases hout : (encode out).length ≤ maxBytes
  · rw [show bounded maxBytes field out = .ok out from if_pos hout]
    exact hnext out
  · have hmore : ¬ (encode (out ++ segment)).length ≤ maxBytes := by
      rw [encode_append, List.length_append]
      omega
    rw [show bounded maxBytes field out = .error _ from if_neg hout,
      show bounded maxBytes field (out ++ segment) = .error _ from if_neg hmore]
    rfl

theorem renderRest_eq (rendered rest : List Char) :
    renderRest message maxBytes field escaper rendered rest =
      bounded maxBytes field
        (rendered ++ (segments rest).flatMap (Segment.expand message escaper)) := by
  fun_induction segments rest generalizing rendered with
  | case1 rest hopen =>
    rw [renderRest, hopen]
    simp [appendBounded_eq, Segment.expand]
  | case2 rest before afterOpen hopen hclose =>
    rw [renderRest, hopen]
    simp only [appendBounded_eq]
    refine bounded_bind maxBytes field (fun out => ?_) (List.append_assoc _ _ _).symm
    rw [hclose]
    exact bounded_bind maxBytes field (fun out => rfl) (by simp [Segment.expand])
  | case3 rest before afterOpen hopen key after hclose ih =>
    rw [renderRest, hopen]
    simp only [appendBounded_eq]
    rw [flatMap_cons, flatMap_cons]
    refine bounded_bind maxBytes field (fun out => ?_) (List.append_assoc _ _ _).symm
    rw [hclose]
    dsimp only
    cases hvalue : replacement message key with
    | none =>
      refine bounded_bind maxBytes field ih ?_
      rw [List.append_assoc, Segment.expand, hvalue]
      rfl
    | some =>
      refine bounded_bind maxBytes field ih ?_
      rw [List.append_assoc, Segment.expand, hvalue]
      rfl

theorem renderValueTemplateLimitedWithEscaper_eq (template : String) :
    renderValueTemplateLimitedWithEscaper message maxBytes field escaper template =
      if len (expansion message escaper template) ≤ maxBytes then
        .ok (expansion message escaper template)
      else .error (sizeError field 0 maxBytes) := by
  unfold renderValueTemplateLimitedWithEscaper expansion
  rw [renderRest_eq, nil_append, len_ofList]
  unfold bounded
  split_ifs with hlen
  · have hsize : ensureTextSize (ofList ((segments template.toList).flatMap
        (Segment.expand message escaper))) 0 maxBytes field = .ok () := by
      unfold ensureTextSize
      rw [len_ofList, ensure_eq_ok]
      simpa using hlen
    change (ensureTextSize _ 0 maxBytes field >>= fun _ => pure _) = _
    rw [hsize]
    rfl
  · rfl

end Bounded

theorem renderMessage_eq (message : NotificationMessage) :
    renderMessage message =
      if len (messageJson message) ≤ notificationMaxRenderedBodyBytes then
        .ok (messageJson message)
      else .error
        (sizeError "notification rendered body" 0 notificationMaxRenderedBodyBytes) := by
  unfold renderMessage ensureTextSize ensure
  split_ifs <;> simp_all

def isDivider (c : Char) : Bool := c ∈ ['&', '=', '/', '?', '#', '@', ':']

theorem not_isDivider_of_encoded {l : List Char} (h : Percent.Encoded l) :
    l.filter isDivider = [] := by
  rw [filter_eq_nil_iff]
  intro c hc hdivider
  unfold isDivider at hdivider
  simp only [decide_eq_true_eq, mem_cons, not_mem_nil, or_false] at hdivider
  have hmem := h.mem hc
  rcases hdivider with rfl | rfl | rfl | rfl | rfl | rfl | rfl <;> revert hmem <;> decide

theorem filter_isDivider_expand (message : NotificationMessage) (s : Segment) :
    ((s.expand message escapeUrlComponentValue).filter isDivider).Sublist
      (s.source.filter isDivider) := by
  cases s with
  | text => exact Sublist.refl _
  | placeholder key =>
    dsimp only [Segment.expand]
    cases replacement message key with
    | none => exact Sublist.refl _
    | some value =>
      have hnone := not_isDivider_of_encoded
        (Percent.encoded_flatMap_encodeByte (Text.bytes value))
      rw [Option.map_some, Option.getD_some, escapeUrlComponentValue, hnone]
      exact nil_sublist _

/-- URLs, and forms whose template is not blank, are the whole text with every recognised
placeholder replaced by the percent-encoding of its value, and they fail exactly when that text is
above the limit. The form of a blank template is the JSON of the message. -/
theorem render_percent_encoded (template : String) (message : NotificationMessage) :
    renderUrlTemplate template message =
        (if len (expansion message escapeUrlComponentValue template) ≤
            notificationMaxRenderedUrlBytes then
          .ok (expansion message escapeUrlComponentValue template)
        else .error (sizeError "notification rendered url" 0 notificationMaxRenderedUrlBytes)) ∧
      renderFormTemplate template message =
        (if len (if Text.trim template = "" then messageJson message
            else expansion message escapeUrlComponentValue template) ≤
              notificationMaxRenderedBodyBytes then
          .ok (if Text.trim template = "" then messageJson message
            else expansion message escapeUrlComponentValue template)
        else .error
          (sizeError "notification rendered body" 0 notificationMaxRenderedBodyBytes)) ∧
      template = ofList ((segments template.toList).flatMap Segment.source) ∧
      (∀ value, Percent.Encoded (escapeUrlComponentValue value) ∧
        Percent.decode (escapeUrlComponentValue value) = Text.bytes value) ∧
      ((expansion message escapeUrlComponentValue template).toList.filter isDivider).Sublist
        (template.toList.filter isDivider) := by
  refine ⟨renderValueTemplateLimitedWithEscaper_eq message notificationMaxRenderedUrlBytes
    "notification rendered url" escapeUrlComponentValue template, ?_, ?_, fun value =>
    ⟨Percent.encoded_flatMap_encodeByte _, Percent.decode_flatMap_encodeByte _⟩, ?_⟩
  · unfold renderFormTemplate
    by_cases hblank : Text.trim template = ""
    · simp only [if_pos hblank]
      exact renderMessage_eq message
    · simp only [if_neg hblank]
      exact renderValueTemplateLimitedWithEscaper_eq message notificationMaxRenderedBodyBytes
        "notification rendered body" escapeUrlComponentValue template
  · rw [flatMap_source_segments, ofList_toList]
  · rw [expansion, toList_ofList]
    conv => enter [2]; rw [← flatMap_source_segments template.toList]
    rw [filter_flatMap, filter_flatMap]
    exact Sublist.flatMap_right _ fun s _ => filter_isDivider_expand message s

def Sample.ampersand : NotificationMessage where
  title := "&"
  message := ""
  severity := .info
  timestamp := ""
  metadata := ∅

open Sample in
theorem blank_form_is_json :
    renderFormTemplate " " ampersand = .ok ("\x7b\"title\":\"&\",\"message\":\"\"," ++
        "\"severity\":\"info\",\"timestamp\":\"\",\"metadata\":\x7b\x7d\x7d") ∧
      expansion ampersand escapeUrlComponentValue " " = " " := by
  constructor
  · decide +kernel
  · decide +kernel

end XLStatus.Notifications
