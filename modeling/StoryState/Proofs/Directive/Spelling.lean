import StoryState.Directive.Basic
import StoryState.Text.Word
import StoryState.Proofs.Text.Digit
import StoryState.Proofs.Text.Segments

/-!
How the tags of directives are spelled. An attribute stands behind blanks and has its value in quotes
(`AttributeText`), a tag ends behind blanks (`EndText`), and each of these parts is read back whatever
follows. A scanner `Heeds` a name if it finds something only where a tag of that name opens, with
attributes or bare; tags of other names are overlooked by it.
-/

namespace StoryState.Directive

open StoryState.Text

/-! ### Characters -/

/-- No blank is part of a word. -/
theorem isWord_of_isBlank {c : Char} (h : isBlank c = true) : isWord c = false := by
  have hall : ∀ n ∈ pointsOf blankRanges, inRanges wordRanges n = false := by decide +kernel
  exact hall _ (mem_pointsOf h)

/-- A text of blanks. -/
def Blanks (s : List Char) : Prop := ∀ c ∈ s, isBlank c = true

/-- A text in which no tag and no entity begins. -/
def Unmarked (s : List Char) : Prop := ∀ c ∈ s, c ≠ '<' ∧ c ≠ '&'

/-- A name for a tag. -/
structure PlainName (tag : String) : Prop where
  ne_empty : tag ≠ ""
  word : ∀ c ∈ tag.toList, isWord c = true

theorem skipBlanks_append {gap s : List Char} (hgap : Blanks gap)
    (hs : ∀ c ∈ s.head?, isBlank c = false) : skipBlanks (gap ++ s) = s := by
  rw [skipBlanks, List.dropWhile_append_of_pos hgap]
  cases s with
  | nil => rfl
  | cons c s => simp [hs c (by simp)]

/-! ### Parts of a tag -/

/-- An attribute as it is written: its name behind blanks and its value in quotes, which holds no such
quote and in which no tag and no entity begins. -/
inductive AttributeText (quote : Char) (key value : String) : List Char → Prop
  | intro {gap : List Char} (ne_nil : gap ≠ []) (blanks : Blanks gap)
    (unquoted : quote ∉ value.toList) (unmarked : Unmarked value.toList) :
    AttributeText quote key value (gap ++ (key.toList ++ '=' :: quote :: (value.toList ++ [quote])))

/-- The end of a tag as it is written, behind blanks. -/
inductive EndText (mark : List Char) : List Char → Prop
  | intro {gap : List Char} (blanks : Blanks gap) : EndText mark (gap ++ mark)

-- Every other way to decide these goes through all characters there are.
instance (s : List Char) : Decidable (Blanks s) := List.decidableBAll _ s

instance (s : List Char) : Decidable (Unmarked s) := List.decidableBAll _ s

/-- A key with which an attribute can be found behind blanks. -/
def IsKey (key : String) : Prop := ∀ c ∈ key.toList, isBlank c = false ∧ c ≠ '<' ∧ c ≠ '&'

instance (key : String) : Decidable (IsKey key) := List.decidableBAll _ key.toList

/-- A tag as it is written, from its name on. -/
def opened (tag : String) (behind : List Char) : List Char := '<' :: (tag.toList ++ behind)

section Reading

/-- An attribute behind a space. -/
theorem AttributeText.spaced {quote : Char} {key value : String}
    (h : quote ∉ value.toList ∧ Unmarked value.toList) :
    AttributeText quote key value (' ' :: (key.toList ++ '=' :: quote :: (value.toList ++ [quote]))) :=
  @intro quote key value [' '] (by decide) (by decide) h.1 h.2

variable {quote : Char} {key value tag : String} {a e s rest : List Char}

@[simp]
theorem opening?_opened (tag : String) (s : List Char) : opening? tag (opened tag s) = some s :=
  dropLead?_eq_some_iff.2 rfl

theorem quoted?_append (h : quote ∉ value.toList) (rest : List Char) :
    quoted? quote (quote :: (value.toList ++ quote :: rest)) = some (value, rest) := by
  have hne : ∀ c ∈ value.toList, (decide (c ≠ quote)) = true := by
    intro c hc
    exact decide_eq_true fun hcq => h (hcq ▸ hc)
  have hlead : dropLead? [quote] (quote :: (value.toList ++ quote :: rest)) =
      some (value.toList ++ quote :: rest) := dropLead?_eq_some_iff.2 rfl
  rw [quoted?, hlead]
  simp only [List.dropWhile_append_of_pos hne, List.takeWhile_append_of_pos hne]
  simp

theorem attributeName?_append {gap : List Char} (hne : gap ≠ []) (hgap : Blanks gap)
    (hkey : IsKey key) (rest : List Char) :
    attributeName? key (gap ++ (key.toList ++ '=' :: rest)) = some rest := by
  obtain ⟨c, gap, rfl⟩ := List.exists_cons_of_ne_nil hne
  have hc : isBlank c = true := hgap c (by simp)
  have hskip : skipBlanks (gap ++ (key.toList ++ '=' :: rest)) = key.toList ++ '=' :: rest := by
    refine skipBlanks_append (fun d hd => hgap d (by simp [hd])) fun d hd => ?_
    cases hk : key.toList with
    | nil =>
      rw [hk] at hd
      obtain rfl : '=' = d := by simpa using hd
      rfl
    | cons k ks =>
      rw [hk] at hd
      obtain rfl : k = d := by simpa using hd
      exact (hkey k (by simp [hk])).1
  rw [attributeName?, List.cons_append, skipBlanks1?, if_pos hc, hskip]
  exact dropLead?_eq_some_iff.2 (by simp)

theorem quotedNonEmpty?_append (hquote : quote ∉ value.toList) (hvalue : value ≠ "")
    (rest : List Char) :
    quotedNonEmpty? quote (quote :: (value.toList ++ quote :: rest)) = some (value, rest) := by
  rw [quotedNonEmpty?, quoted?_append hquote]
  split
  · rename_i heq
    cases heq
    exact absurd rfl hvalue
  · rename_i heq
    cases heq
  · rename_i heq
    exact heq.symm

theorem AttributeText.name (h : AttributeText quote key value a) (hkey : IsKey key)
    (rest : List Char) :
    attributeName? key (a ++ rest) = some (quote :: (value.toList ++ quote :: rest)) := by
  obtain ⟨hne, hgap, -, -⟩ := h
  simpa using attributeName?_append hne hgap hkey (quote :: (value.toList ++ quote :: rest))

theorem AttributeText.reads (h : AttributeText '"' key value a) (hkey : IsKey key)
    (rest : List Char) : attribute? key (a ++ rest) = some (value, rest) := by
  rw [attribute?, h.name hkey]
  obtain ⟨-, -, hquote, -⟩ := h
  exact quoted?_append hquote rest

theorem AttributeText.readsNonEmpty (h : AttributeText '"' key value a) (hkey : IsKey key)
    (hvalue : value ≠ "") (rest : List Char) :
    attributeNonEmpty? key (a ++ rest) = some (value, rest) := by
  rw [attributeNonEmpty?, h.name hkey]
  obtain ⟨-, -, hquote, -⟩ := h
  exact quotedNonEmpty?_append hquote hvalue rest

theorem quoted?_of_ne {c : Char} (h : quote ≠ c) (s : List Char) : quoted? quote (c :: s) = none := by
  simp [quoted?, dropLead?, h]

theorem AttributeText.readsEither (h : AttributeText '\'' key value a) (hkey : IsKey key)
    (rest : List Char) : attributeEither? key quoted? (a ++ rest) = some (value, rest) := by
  rw [attributeEither?, h.name hkey]
  obtain ⟨-, -, hquote, -⟩ := h
  rw [Option.bind_some, quoted?_of_ne (by decide), Option.orElse_none]
  exact quoted?_append hquote rest

theorem AttributeText.readsEitherNonEmpty (h : AttributeText '\'' key value a) (hkey : IsKey key)
    (hvalue : value ≠ "") (rest : List Char) :
    attributeEither? key quotedNonEmpty? (a ++ rest) = some (value, rest) := by
  rw [attributeEither?, h.name hkey]
  obtain ⟨-, -, hquote, -⟩ := h
  have hdouble (s : List Char) : quotedNonEmpty? '"' ('\'' :: s) = none := by
    rw [quotedNonEmpty?, quoted?_of_ne (by decide)]
  rw [Option.bind_some, hdouble, Option.orElse_none]
  exact quotedNonEmpty?_append hquote hvalue rest

/-- A mark that begins with no blank. -/
def IsMark (mark : List Char) : Prop := ∃ m ms, mark = m :: ms ∧ isBlank m = false

theorem EndText.skip {mark : List Char} (h : EndText mark e) (hmark : IsMark mark)
    (rest : List Char) : skipBlanks (e ++ rest) = mark ++ rest := by
  obtain ⟨hgap⟩ := h
  obtain ⟨m, ms, rfl, hm⟩ := hmark
  rw [List.append_assoc]
  refine skipBlanks_append hgap fun c hc => ?_
  obtain rfl : m = c := by simpa using hc
  exact hm

theorem EndText.reads {mark : List Char} (h : EndText mark e) (hmark : IsMark mark)
    (rest : List Char) : tagEnd? mark (e ++ rest) = some rest := by
  rw [tagEnd?, h.skip hmark]
  exact dropLead?_eq_some_iff.2 rfl

/-- The end of a tag is no attribute. -/
theorem EndText.noAttribute {m : Char} {ms : List Char} (h : EndText (m :: ms) e)
    (hm : isBlank m = false) {k : Char} {ks : List Char} (hkey : key.toList = k :: ks) (hne : k ≠ m)
    (rest : List Char) : attributeName? key (e ++ rest) = none := by
  have hskip := h.skip ⟨m, ms, rfl, hm⟩ rest
  have hlead : dropLead? (key.toList ++ ['=']) (m :: ms ++ rest) = none := by
    simp [hkey, dropLead?, hne]
  cases he : e ++ rest with
  | nil => rfl
  | cons c s =>
    rw [attributeName?, skipBlanks1?]
    split
    · rename_i hc
      rw [he, skipBlanks, List.dropWhile_cons_of_pos hc] at hskip
      rw [skipBlanks, hskip]
      exact hlead
    · rfl

/-- The end of a tag whose other attributes are ignored, a slash before it. -/
theorem EndText.ignoring (h : EndText ['/', '>'] e) (rest : List Char) :
    ignoringEnd? tag (e ++ rest) = some rest := by
  obtain ⟨hgap⟩ := h
  rename_i gap
  have hne : ∀ c ∈ gap ++ ['/'], (decide (c ≠ '>')) = true := by
    intro c hc
    refine decide_eq_true fun hcm => ?_
    subst hcm
    rcases List.mem_append.1 hc with hc | hc
    · exact absurd (hgap _ hc) (by decide)
    · exact absurd hc (by decide)
  have htext : gap ++ ['/', '>'] ++ rest = (gap ++ ['/']) ++ '>' :: rest := by simp
  rw [htext, ignoringEnd?]
  simp only [List.dropWhile_append_of_pos hne, List.takeWhile_append_of_pos hne]
  simp

end Reading

/-! ### Tags that are overlooked -/

section Overlooking

variable {α : Type} {scan : Scanner α} {tag tag' : String} {bare bare' : Bool} {s t : List Char}

theorem unmarked_append : Unmarked (s ++ t) ↔ Unmarked s ∧ Unmarked t := List.forall_mem_append

theorem unmarked_cons {c : Char} : Unmarked (c :: s) ↔ (c ≠ '<' ∧ c ≠ '&') ∧ Unmarked s :=
  List.forall_mem_cons

theorem Blanks.unmarked (h : Blanks s) : Unmarked s := by
  refine fun c hc => ⟨?_, ?_⟩ <;> rintro rfl <;> exact absurd (h _ hc) (by decide)

theorem PlainName.unmarked (h : PlainName tag) : Unmarked tag.toList := by
  refine fun c hc => ⟨?_, ?_⟩ <;> rintro rfl <;> exact absurd (h.word _ hc) (by decide +kernel)

theorem AttributeText.unmarked {quote : Char} {key value : String}
    (h : AttributeText quote key value s) (hkey : IsKey key) (hquote : quote ≠ '<' ∧ quote ≠ '&') :
    Unmarked s := by
  obtain ⟨-, hgap, -, hvalue⟩ := h
  simp only [unmarked_append, unmarked_cons]
  exact ⟨hgap.unmarked, fun c hc => (hkey c hc).2, by decide, hquote, hvalue, hquote,
    fun c hc => nomatch hc⟩

theorem EndText.unmarked {mark : List Char} (h : EndText mark s) (hmark : Unmarked mark) :
    Unmarked s := by
  obtain ⟨hgap⟩ := h
  exact unmarked_append.2 ⟨hgap.unmarked, hmark⟩

/-- A scanner that finds something only where a tag begins. -/
def AtTags (scan : Scanner α) : Prop := ∀ c s, c ≠ '<' → scan (c :: s) = none

theorem AtTags.overlooks (h : AtTags scan) (hs : Unmarked s) : Overlooks scan s := by
  induction s with
  | nil => trivial
  | cons c s ih => exact ⟨fun rest => h c _ (hs c (by simp)).1, ih fun d hd => hs d (by simp [hd])⟩

/-- What stands behind the name of a tag: `>` if it is bare, a blank if attributes follow. -/
def Marks (bare : Bool) (c : Char) : Prop := if bare then c = '>' else isBlank c = true

/-- The scanner finds something only where a tag of this name opens, bare or with attributes. -/
def Heeds (scan : Scanner α) (tag : String) (bare : Bool) : Prop :=
  ∀ s, (∀ c t, s = opened tag (c :: t) → ¬Marks bare c) → scan s = none

theorem Heeds.atTags (h : Heeds scan tag bare) : AtTags scan := by
  refine fun c s hc => h _ fun d t heq => ?_
  injection heq with hcd
  exact absurd hcd hc

theorem Marks.isWord {c : Char} (h : Marks bare c) : isWord c = false := by
  cases bare with
  | true =>
    obtain rfl : c = '>' := h
    decide +kernel
  | false => exact isWord_of_isBlank h

theorem Marks.bare_eq {c : Char} (h : Marks bare c) (h' : Marks bare' c) : bare = bare' := by
  have hno : ¬isBlank '>' = true := by decide
  cases bare <;> cases bare' <;> simp only [Marks, if_true, Bool.false_eq_true, if_false] at h h'
  · rfl
  · exact absurd (h' ▸ h) hno
  · exact absurd (h ▸ h') hno
  · rfl

/-- A name ends at the first character that is not part of a word. -/
theorem eq_of_opened_eq {c d : Char} (htag : PlainName tag) (htag' : PlainName tag')
    (hc : isWord c = false) (hd : isWord d = false)
    (h : opened tag (c :: s) = opened tag' (d :: t)) : tag = tag' ∧ c = d := by
  have hlist : tag.toList ++ c :: s = tag'.toList ++ d :: t := List.tail_eq_of_cons_eq h
  have hname := congrArg (List.takeWhile Text.isWord) hlist
  have hrest := congrArg (List.dropWhile Text.isWord) hlist
  rw [List.takeWhile_append_of_pos htag.word, List.takeWhile_append_of_pos htag'.word] at hname
  rw [List.dropWhile_append_of_pos htag.word, List.dropWhile_append_of_pos htag'.word] at hrest
  simp only [List.takeWhile_cons, List.dropWhile_cons, hc, hd, Bool.false_eq_true, if_false,
    List.append_nil] at hname hrest
  exact ⟨String.toList_inj.1 hname, (List.cons.inj hrest).1⟩

/-- A tag is overlooked by a scanner that heeds another name, or the name in the other way. -/
theorem Heeds.overlooks_opened (h : Heeds scan tag bare) (htag : PlainName tag)
    (htag' : PlainName tag') {c : Char} (hc : Marks bare' c)
    (hother : tag' = tag → bare' ≠ bare) (ht : Overlooks scan (c :: t)) :
    Overlooks scan (opened tag' (c :: t)) := by
  refine ⟨fun rest => h _ fun d u heq hd => ?_, (h.atTags.overlooks htag'.unmarked).append ht⟩
  have heq : opened tag' (c :: (t ++ rest)) = opened tag (d :: u) := by
    simpa [opened] using heq
  obtain ⟨htags, rfl⟩ := eq_of_opened_eq htag' htag hc.isWord hd.isWord heq
  exact hother htags (hc.bare_eq hd)

theorem Heeds.overlooks_closing (h : Heeds scan tag bare) (htag : PlainName tag)
    (htag' : PlainName tag') : Overlooks scan (closing tag') := by
  have hmark : Unmarked ('/' :: (tag'.toList ++ ['>'])) := by
    rw [unmarked_cons, unmarked_append]
    exact ⟨by decide, htag'.unmarked, by simp [Unmarked]⟩
  refine ⟨fun rest => h _ fun d u heq hd => ?_, h.atTags.overlooks hmark⟩
  cases hname : tag.toList with
  | nil => exact htag.ne_empty (String.toList_eq_nil_iff.1 hname)
  | cons k ks =>
    have hk : isWord k = true := htag.word k (by simp [hname])
    rw [opened, hname] at heq
    injection heq with _ heq
    injection heq with hslash
    subst hslash
    exact absurd hk (by decide +kernel)

/-! ### Forms of tags -/

theorem heeds_attributes {next : List Char → Option (α × List Char)}
    (hnext : ∀ t, skipBlanks1? t = none → next t = none) :
    Heeds (fun s => (opening? tag s).bind next) tag false := by
  intro s h
  show (opening? tag s).bind next = none
  cases ho : opening? tag s with
  | none => rfl
  | some t =>
    refine hnext t ?_
    cases t with
    | nil => rfl
    | cons c t => exact if_neg (h c t (dropLead?_eq_some_iff.1 ho))

theorem attributeNonEmpty?_of_none {key : String} (h : skipBlanks1? s = none) :
    attributeNonEmpty? key s = none := by
  rw [attributeNonEmpty?, attributeName?, h]
  rfl

theorem Heeds.map {β : Type} {f : α × List Char → β × List Char} (h : Heeds scan tag bare) :
    Heeds (fun s => (scan s).map f) tag bare := by
  intro s hs
  show (scan s).map f = none
  rw [h s hs]
  rfl

theorem heeds_block : Heeds (block? tag) tag true := by
  intro s h
  cases ho : opening? tag s with
  | none => simp [block?, ho]
  | some t =>
    have hlead : dropLead? ['>'] t = none := by
      cases t with
      | nil => rfl
      | cons c t =>
        have hc : '>' ≠ c := fun hc => h c t (dropLead?_eq_some_iff.1 ho) hc.symm
        simp [dropLead?, hc]
    simp [block?, ho, hlead]

/-- The scanner for the closing of a tag. -/
def closer (tag : String) : Scanner Unit := fun s => (dropLead? (closing tag) s).map fun rest => ((), rest)

theorem atTags_closer (tag : String) : AtTags (closer tag) := by
  intro c s hc
  simp [closer, closing, dropLead?, hc.symm]

/-- The closing of a tag is no opening. -/
theorem overlooks_closer (htag' : PlainName tag') (ht : Overlooks (closer tag) t) :
    Overlooks (closer tag) (opened tag' t) := by
  refine ⟨fun rest => ?_, ((atTags_closer _).overlooks htag'.unmarked).append ht⟩
  cases hname : tag'.toList with
  | nil => exact absurd (String.toList_eq_nil_iff.1 hname) htag'.ne_empty
  | cons k ks =>
    have hk : isWord k = true := htag'.word k (by simp [hname])
    have hslash : '/' ≠ k := by
      rintro rfl
      exact absurd hk (by decide +kernel)
    simp [closer, closing, dropLead?, hslash]

/-- The content of a tag is what stands before its closing. -/
theorem content?_append (h : Overlooks (closer tag) s) (rest : List Char) :
    content? tag (s ++ (closing tag ++ rest)) = some (String.ofList s, rest) := by
  have hclosing : closing tag ≠ [] := by simp [closing]
  rw [content?, cutAt?_append hclosing h]
  rfl

theorem content?_of_unmarked {content : String} (h : Unmarked content.toList) (rest : List Char) :
    content? tag (content.toList ++ (closing tag ++ rest)) = some (content, rest) := by
  rw [content?_append ((atTags_closer _).overlooks h), String.ofList_toList]

theorem block?_opened {content : List Char} (h : Overlooks (closer tag) content) (rest : List Char) :
    block? tag (opened tag ('>' :: (content ++ (closing tag ++ rest)))) =
      some (String.ofList content, rest) := by
  have hlead : dropLead? ['>'] ('>' :: (content ++ (closing tag ++ rest))) =
      some (content ++ (closing tag ++ rest)) := dropLead?_eq_some_iff.2 rfl
  simp [block?, hlead, content?_append h]

end Overlooking

end StoryState.Directive
