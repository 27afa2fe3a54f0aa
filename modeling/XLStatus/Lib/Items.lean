import XLStatus.Lib.Text

/-! Texts that list items between separators: the items of a text, and the text that lists
given items in its shortest form. -/

namespace XLStatus.Text

open List String

def items (sep : Char → Bool) (s : String) : List String :=
  ((s.toList.splitOnP sep).map fun item => trim (ofList item)).filter (· ≠ "")

structure IsItem (sep : Char → Bool) (item : String) : Prop where
  trimmed : trim item = item
  ne_empty : item ≠ ""
  no_sep : ∀ c ∈ item.toList, sep c = false

variable {s : String}

theorem trim_eq_self_iff :
    trim s = s ↔ (∀ c ∈ s.toList.head?, isWhitespace c = false) ∧
      ∀ c ∈ s.toList.getLast?, isWhitespace c = false := by
  have htrim : trim s = ofList ((s.toList.dropWhile isWhitespace).rdropWhile
      isWhitespace) := rfl
  have hhead : s.toList.dropWhile isWhitespace = s.toList ↔
      ∀ c ∈ s.toList.head?, isWhitespace c = false := by
    cases s.toList with
    | nil => simp
    | cons => rw [dropWhile_eq_self_iff]; simp
  have hlast : s.toList.rdropWhile isWhitespace = s.toList ↔
      ∀ c ∈ s.toList.getLast?, isWhitespace c = false := by
    rw [rdropWhile_eq_self_iff]
    constructor
    · intro h c hc
      obtain ⟨hne, rfl⟩ := mem_getLast?_eq_getLast hc
      simpa using h hne
    · intro h hne
      simpa using h _ (getLast?_eq_some_getLast hne)
  rw [← hhead, ← hlast]
  constructor
  · intro hs
    have hlist : (s.toList.dropWhile isWhitespace).rdropWhile isWhitespace = s.toList := by
      rw [htrim] at hs
      conv_rhs => rw [← hs, toList_ofList]
    -- neither of the two cuts can shorten the text
    have hdrop : s.toList.dropWhile isWhitespace = s.toList := by
      apply (dropWhile_suffix isWhitespace).eq_of_length_le
      calc s.toList.length
          = ((s.toList.dropWhile isWhitespace).rdropWhile isWhitespace).length := by rw [hlist]
        _ ≤ _ := (List.rdropWhile_prefix isWhitespace _).length_le
    rw [hdrop] at hlist
    exact ⟨hdrop, hlist⟩
  · rintro ⟨hdrop, hrdrop⟩
    rw [htrim, hdrop, hrdrop, ofList_toList]

theorem isWhitespace_of_trim_eq_empty (h : trim s = "") {c : Char} (hc : c ∈ s.toList) :
    isWhitespace c = true := by
  obtain ⟨before, after, hs, hbefore, hafter⟩ := exists_append_trim s
  rw [hs, h, mem_append, mem_append] at hc
  rcases hc with (hc | hc) | hc
  · exact hbefore c hc
  · simp at hc
  · exact hafter c hc

theorem len_trim_le (s : String) : len (trim s) ≤ len s := by
  obtain ⟨before, after, hs, -, -⟩ := exists_append_trim s
  have hsize : s = ofList before ++ trim s ++ ofList after := by
    apply toList_injective
    simpa using hs
  conv_rhs => rw [hsize]
  rw [len, len, utf8ByteSize_append, utf8ByteSize_append]
  omega

variable {sep : Char → Bool}

theorem of_mem_splitOnP {α : Type*} {sep : α → Bool} {l item : List α} (h : item ∈ l.splitOnP sep)
    {c : α} (hc : c ∈ item) : c ∈ l ∧ sep c = false := by
  induction l generalizing item with
  | nil =>
    rw [splitOnP_nil, mem_singleton] at h
    simp [h] at hc
  | cons d l ih =>
    rw [splitOnP_cons_eq_if_modifyHead] at h
    split at h
    · rcases mem_cons.mp h with rfl | h
      · simp at hc
      · exact (ih h hc).imp_left (mem_cons_of_mem d)
    · rename_i hd
      obtain ⟨first, rest, hsplit⟩ := exists_cons_of_ne_nil (splitOnP_ne_nil sep l)
      rw [hsplit, modifyHead_cons, mem_cons] at h
      rcases h with rfl | h
      · rcases mem_cons.mp hc with rfl | hc
        · exact ⟨mem_cons_self, by simpa using hd⟩
        · exact (ih (hsplit ▸ mem_cons_self) hc).imp_left (mem_cons_of_mem d)
      · exact (ih (hsplit ▸ mem_cons_of_mem first h) hc).imp_left (mem_cons_of_mem d)

theorem exists_mem_splitOnP {l : List Char} {c : Char} (hc : c ∈ l) (hsep : sep c = false) :
    ∃ item ∈ l.splitOnP sep, c ∈ item := by
  induction l with
  | nil => simp at hc
  | cons d l ih =>
    rw [splitOnP_cons_eq_if_modifyHead]
    split
    · rename_i hd
      rcases mem_cons.mp hc with rfl | hc
      · rw [hsep] at hd
        cases hd
      · obtain ⟨item, hitem, hmem⟩ := ih hc
        exact ⟨item, mem_cons_of_mem _ hitem, hmem⟩
    · obtain ⟨first, rest, hsplit⟩ := exists_cons_of_ne_nil (splitOnP_ne_nil sep l)
      rw [hsplit, modifyHead_cons]
      rcases mem_cons.mp hc with rfl | hc
      · exact ⟨c :: first, mem_cons_self, mem_cons_self⟩
      · obtain ⟨item, hitem, hmem⟩ := ih hc
        rw [hsplit, mem_cons] at hitem
        rcases hitem with rfl | hitem
        · exact ⟨d :: item, mem_cons_self, mem_cons_of_mem d hmem⟩
        · exact ⟨item, mem_cons_of_mem _ hitem, hmem⟩

theorem isItem_of_mem_items {item : String} (h : item ∈ items sep s) : IsItem sep item := by
  rw [items, mem_filter, mem_map] at h
  obtain ⟨⟨part, hpart, rfl⟩, hne⟩ := h
  refine ⟨trim_trim _, by simpa using hne, fun c hc => ?_⟩
  have hmem := mem_of_mem_trim hc
  rw [toList_ofList] at hmem
  exact (of_mem_splitOnP hpart hmem).2

theorem sep_or_isWhitespace_of_items_eq_nil (h : items sep s = []) {c : Char} (hc : c ∈ s.toList) :
    sep c = true ∨ isWhitespace c = true := by
  cases hsep : sep c with
  | true => exact Or.inl rfl
  | false =>
    obtain ⟨part, hpart, hmem⟩ := exists_mem_splitOnP hc hsep
    have hall := filter_eq_nil_iff.mp h _ (mem_map_of_mem hpart)
    have hempty : trim (ofList part) = "" := by simpa using hall
    exact Or.inr (isWhitespace_of_trim_eq_empty hempty (by simpa using hmem))

variable {c : Char} {es : List String}

theorem splitOnP_intercalate (hc : sep c = true) (hne : es ≠ [])
    (hes : ∀ e ∈ es, ∀ d ∈ e.toList, sep d = false) :
    ((singleton c).intercalate es).toList.splitOnP sep = es.map toList := by
  rw [toList_intercalate, toList_singleton]
  induction es with
  | nil => exact absurd rfl hne
  | cons e es ih =>
    cases es with
    | nil =>
      simpa using splitOnP_eq_singleton (hes e mem_cons_self)
    | cons e' es =>
      have hrest := ih (cons_ne_nil e' es) fun x hx => hes x (mem_cons_of_mem e hx)
      rw [map_cons, map_cons, List.intercalate_cons_cons, List.append_assoc,
        singleton_append, splitOnP_append_cons _ _ hc,
        splitOnP_eq_singleton (hes e mem_cons_self), ← map_cons, hrest]
      rfl

theorem split_intercalate (hne : es ≠ []) (hes : ∀ e ∈ es, c ∉ e.toList) :
    split ((singleton c).intercalate es) c = es := by
  rw [split, toList_intercalate, toList_singleton, splitOn_intercalate c _
    (by simpa using hne), List.map_map]
  · simp
  · intro l hl
    obtain ⟨e, he, rfl⟩ := mem_map.mp hl
    exact hes e he

theorem items_intercalate (hc : sep c = true) (hes : ∀ e ∈ es, IsItem sep e) :
    items sep ((singleton c).intercalate es) = es := by
  by_cases hne : es = []
  · subst hne
    simp [items, trim]
  · rw [items, splitOnP_intercalate hc hne fun e he => (hes e he).no_sep, List.map_map]
    have hmap : es.map ((fun item => trim (ofList item)) ∘ toList) = es := by
      conv_rhs => rw [← List.map_id es]
      apply map_congr_left
      intro e he
      simp [(hes e he).trimmed]
    rw [hmap, filter_eq_self]
    intro e he
    simpa using (hes e he).ne_empty

theorem trim_intercalate (hne : es ≠ []) (hes : ∀ e ∈ es, IsItem sep e) :
    trim ((singleton c).intercalate es) = (singleton c).intercalate es := by
  -- the first and the last character are those of items
  have hends : ∃ first ∈ es, ∃ last ∈ es,
      ((singleton c).intercalate es).toList.head? = first.toList.head? ∧
        ((singleton c).intercalate es).toList.getLast? = last.toList.getLast? := by
    induction es with
    | nil => exact absurd rfl hne
    | cons e es ih =>
      have hfirst : e.toList ≠ [] := by simpa using (hes e mem_cons_self).ne_empty
      cases es with
      | nil =>
        rw [String.intercalate_singleton]
        exact ⟨e, mem_cons_self, e, mem_cons_self, rfl, rfl⟩
      | cons e' es =>
        obtain ⟨-, -, last, hmem, -, hlast⟩ := ih (cons_ne_nil e' es) fun x hx =>
          hes x (mem_cons_of_mem e hx)
        have hne' : last.toList ≠ [] := by
          simpa using (hes last (mem_cons_of_mem e hmem)).ne_empty
        refine ⟨e, mem_cons_self, last, mem_cons_of_mem e hmem, ?_, ?_⟩
        · rw [String.intercalate_cons_cons, toList_append, toList_append,
            List.append_assoc, head?_append_of_ne_nil _ hfirst]
        · rw [String.intercalate_cons_cons, toList_append, getLast?_append, hlast,
            getLast?_eq_some_getLast hne', Option.some_or]
  obtain ⟨first, hfirst, last, hlast, hhead, hgetLast⟩ := hends
  rw [trim_eq_self_iff, hhead, hgetLast]
  exact ⟨(trim_eq_self_iff.mp (hes first hfirst).trimmed).1,
    (trim_eq_self_iff.mp (hes last hlast).trimmed).2⟩

theorem len_intercalate (hc : c.utf8Size = 1) (hne : es ≠ []) :
    len ((singleton c).intercalate es) + 1 = (es.map (len · + 1)).sum := by
  induction es with
  | nil => exact absurd rfl hne
  | cons e es ih =>
    cases es with
    | nil => simp [String.intercalate_singleton]
    | cons e' es =>
      have hrest := ih (cons_ne_nil e' es)
      simp only [len, String.intercalate_cons_cons, utf8ByteSize_append,
        utf8ByteSize_singleton, hc, map_cons, sum_cons] at hrest ⊢
      omega

theorem len_ofList_cons (d : Char) (l : List Char) :
    len (ofList (d :: l)) = d.utf8Size + len (ofList l) := by
  rw [← length_bytes, ← length_bytes]
  simp [bytes]

theorem sum_len_splitOnP (hsep : ∀ d, sep d = true → d.utf8Size = 1) (l : List Char) :
    ((l.splitOnP sep).map fun item => len (ofList item) + 1).sum =
      len (ofList l) + 1 := by
  induction l with
  | nil => simp
  | cons d l ih =>
    obtain ⟨first, rest, hsplit⟩ := exists_cons_of_ne_nil (splitOnP_ne_nil sep l)
    rw [splitOnP_cons_eq_if_modifyHead, len_ofList_cons]
    split
    · rename_i hd
      rw [map_cons, sum_cons, ih, hsep d hd]
      change 0 + 1 + _ = _
      omega
    · rw [hsplit, map_cons, sum_cons] at ih
      rw [hsplit, modifyHead_cons, map_cons, sum_cons, len_ofList_cons]
      omega

theorem len_intercalate_items_le (hc : c.utf8Size = 1) (hsep : ∀ d, sep d = true → d.utf8Size = 1)
    (hne : items sep s ≠ []) :
    len ((singleton c).intercalate (items sep s)) ≤ len s := by
  have hsum : ((items sep s).map (len · + 1)).sum ≤
      ((s.toList.splitOnP sep).map fun item => len (ofList item) + 1).sum := by
    rw [items]
    induction s.toList.splitOnP sep with
    | nil => simp
    | cons part =>
      have htrim := len_trim_le (ofList part)
      rw [map_cons, filter_cons, map_cons, sum_cons]
      split
      · rw [map_cons, sum_cons]
        omega
      · omega
  rw [sum_len_splitOnP hsep, ofList_toList, ← len_intercalate hc hne] at hsum
  omega

end XLStatus.Text
