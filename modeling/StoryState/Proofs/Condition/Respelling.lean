import StoryState.Proofs.Condition.Formula
import StoryState.Proofs.Text.Pieces
import StoryState.Proofs.Text.Segments

/-!
Words for signs. Text is spelled piece by piece (`Respells`) as long as no sign is torn, and a quoted text
stays as it is (`Becomes`); so a formula written with signs becomes one written with words, with other
blanks in it (`normalize_signs`), and a formula written with words stays (`normalize_words`).
-/

namespace StoryState.Condition

open StoryState.Text

/-! ### Between quoted texts -/

section Respells

variable {s s' t t' : List Char}

/-- The piece is spelled in this way, whatever follows. -/
def Respells (s s' : List Char) : Prop := ∀ rest, spellWords (s ++ rest) = s' ++ spellWords rest

theorem Respells.nil : Respells [] [] := fun _ => rfl

theorem Respells.append (hs : Respells s s') (ht : Respells t t') : Respells (s ++ t) (s' ++ t') := by
  intro rest
  rw [List.append_assoc, List.append_assoc, hs, ht]

/-- No sign begins with the character. -/
def isSignless (c : Char) : Bool := c ≠ '=' && c ≠ '!' && c ≠ '&' && c ≠ '|'

theorem spellNot_cons {c : Char} (h : c ≠ '!') (rest : List Char) :
    spellNot (c :: rest) = c :: spellNot rest := by
  rw [spellNot]
  · rintro _ rfl
    exact absurd rfl h
  · rintro rfl
    exact h rfl

theorem spellWords_eq (s : List Char) :
    spellWords s =
      spellNot (replaceAll ['|', '|'] " or ".toList (replaceAll ['&', '&'] " and ".toList
        (replaceAll ['!', '=', '='] "!=".toList (replaceAll ['=', '=', '='] "==".toList s)))) := rfl

theorem respells_of_signless {s : List Char} (h : s.all isSignless = true) : Respells s s := by
  induction s with
  | nil => exact .nil
  | cons c s ih =>
    obtain ⟨hc, hs⟩ := by simpa only [List.all_cons, Bool.and_eq_true] using h
    have hone : Respells [c] [c] := by
      intro rest
      simp only [isSignless, ne_eq, Bool.and_eq_true, decide_eq_true_eq] at hc
      obtain ⟨⟨⟨hequal, hnot⟩, hand⟩, hor⟩ := hc
      rw [List.singleton_append, spellWords_eq, replaceAll_cons hequal, replaceAll_cons hnot,
        replaceAll_cons hand, replaceAll_cons hor, spellNot_cons hnot, ← spellWords_eq]
      rfl
    exact hone.append (ih hs)

theorem respells_comparison_signs (c : Comparison) :
    Respells (Style.signs.comparison c) (Style.words.comparison c) := by
  intro rest
  cases c <;> rfl

theorem respells_comparison_words (c : Comparison) :
    Respells (Style.words.comparison c) (Style.words.comparison c) := by
  intro rest
  cases c <;> rfl

/-- A connective as a sign becomes a word with two blanks on both sides. -/
theorem respells_connective (op : BoolOp) :
    Respells (Style.signs.connective op) (' ' :: (Style.words.connective op ++ [' '])) := by
  intro rest
  cases op <;> rfl

theorem respells_not : Respells ['!', '('] " not (".toList := fun _ => rfl

end Respells

/-! ### Around quoted texts -/

section Becomes

variable {s s' t t' : List Char}

/-- What the rest of a text is spelled as, behind a stretch without a quoted text. -/
def spellBehind (plain rest : List Char) : List Char :=
  spellBetween plain.reverse (segments quotedText? rest)

/-- The piece becomes this, whatever stands before and behind it. -/
def Becomes (s s' : List Char) : Prop :=
  ∀ rest rest' : List Char,
    (∀ plain plain', Respells plain plain' → spellBehind plain rest = plain' ++ rest') →
    ∀ plain plain', Respells plain plain' → spellBehind plain (s ++ rest) = plain' ++ (s' ++ rest')

theorem Becomes.append (hs : Becomes s s') (ht : Becomes t t') : Becomes (s ++ t) (s' ++ t') := by
  intro rest rest' hrest
  rw [List.append_assoc, List.append_assoc]
  exact hs _ _ (ht rest rest' hrest)

/-- The character begins no quoted text. -/
def isUnquoted (c : Char) : Bool := c ≠ '"' && c ≠ '\''

theorem spellBehind_append (h : s.all isUnquoted = true) (plain rest : List Char) :
    spellBehind plain (s ++ rest) = spellBehind (plain ++ s) rest := by
  induction s generalizing plain with
  | nil => rw [List.nil_append, List.append_nil]
  | cons c s ih =>
    obtain ⟨hc, hs⟩ := by simpa only [List.all_cons, Bool.and_eq_true] using h
    have hnone : quotedText? (c :: (s ++ rest)) = none := by
      simp only [isUnquoted, ne_eq, Bool.and_eq_true, decide_eq_true_eq] at hc
      rw [quotedText?]
      · rintro _ ⟨rfl, -⟩
        exact hc.1 rfl
      · rintro _ ⟨rfl, -⟩
        exact hc.2 rfl
    have hstep : spellBehind plain (c :: (s ++ rest)) = spellBehind (plain ++ [c]) (s ++ rest) := by
      unfold spellBehind
      rw [segments_cons hnone, spellBetween, List.reverse_append]
      rfl
    rw [List.cons_append, hstep, ih hs, List.append_assoc]
    rfl

theorem Respells.becomes (hspelled : Respells s s') (hs : s.all isUnquoted = true) : Becomes s s' := by
  intro rest rest' hrest plain plain' hplain
  rw [spellBehind_append hs, hrest _ _ (hplain.append hspelled), List.append_assoc]

theorem becomes_of_finds (h : Finds quotedText? s ()) : Becomes s s := by
  intro rest rest' hrest plain plain' hplain
  have hstretch := hplain []
  have hbehind := hrest [] [] .nil
  unfold spellBehind at hbehind ⊢
  rw [List.append_nil] at hstretch
  rw [segments_found h, spellBetween, List.reverse_reverse, hstretch]
  have hnil : spellWords [] = [] := rfl
  rw [hnil, List.append_nil, List.append_assoc]
  exact congrArg (fun text => plain' ++ (s ++ text)) hbehind

theorem Becomes.eq (h : Becomes s s') : spellBetween [] (segments quotedText? s) = s' := by
  have hend := h [] [] fun plain plain' hplain => by
    have hstretch := hplain []
    rw [List.append_nil] at hstretch
    show spellWords plain.reverse.reverse = _
    rw [List.reverse_reverse, hstretch]
    rfl
  have htext := hend [] [] .nil
  rwa [List.append_nil, List.append_nil, List.nil_append] at htext

theorem Becomes.bracketed (h : Becomes s s') : Becomes (bracketed s) (bracketed s') :=
  ((respells_of_signless rfl).becomes rfl : Becomes ['('] ['(']).append
    (h.append ((respells_of_signless rfl).becomes rfl))

end Becomes

/-! ### Formulas -/

theorem quotedBody?_append (q : Quote) {body : List Char} (h : isQuotable q.char body = true)
    (rest : List Char) : quotedBody? q.char (body ++ q.char :: rest) = some rest := by
  induction body with
  | nil => cases q <;> rfl
  | cons c body ih =>
    obtain ⟨hc, hbody⟩ := by simpa only [isQuotable, List.all_cons, Bool.and_eq_true] using h
    simp only [List.contains_cons, Bool.not_eq_true', Bool.or_eq_false_iff, beq_eq_false_iff_ne] at hc
    rw [List.cons_append, quotedBody?, if_neg hc.1, if_neg hc.2.1, ih hbody]
    rintro d s rfl
    exact absurd rfl hc.2.1

/-- Operators as the words that the signs become. -/
def Style.respelled : Style where
  comparison := Style.words.comparison
  connective op := ' ' :: (Style.words.connective op ++ [' '])
  not := " not ".toList

theorem becomes_word {s : List Char} (h : ∀ c ∈ s, isWordChar c = true) : Becomes s s := by
  have hsignless : ∀ c, isWordChar c = true → isSignless c = true := by
    intro c hc
    simp only [isSignless, ne_eq, Bool.and_eq_true, decide_eq_true_eq]
    refine ⟨⟨⟨?_, ?_⟩, ?_⟩, ?_⟩ <;> rintro rfl <;> exact absurd hc (by decide)
  have hunquoted : ∀ c, isWordChar c = true → isUnquoted c = true := by
    intro c hc
    simp only [isUnquoted, ne_eq, Bool.and_eq_true, decide_eq_true_eq]
    refine ⟨?_, ?_⟩ <;> rintro rfl <;> exact absurd hc (by decide)
  exact (respells_of_signless (List.all_eq_true.2 fun c hc => hsignless c (h c hc))).becomes
    (List.all_eq_true.2 fun c hc => hunquoted c (h c hc))

theorem becomes_atom (a : Atom) : Becomes a.print a.print := by
  cases a with
  | name id => exact becomes_word (isName_iff.1 id.2).2.1
  | number n => exact becomes_word (wordChar_toDigits n)
  | quoted q body =>
    refine becomes_of_finds ⟨by simp [Atom.print], fun rest => ?_⟩
    have hbody := quotedBody?_append q body.2 rest
    cases q <;> simp [Atom.print, Quote.char, quotedText?] at hbody ⊢ <;> exact hbody

theorem becomes_signs (f : Formula) : Becomes (f.print .signs) (f.print .respelled) := by
  induction f with
  | atom a => exact becomes_atom a
  | compare c a b =>
    have hsign : Becomes (Style.signs.comparison c) (Style.words.comparison c) :=
      (respells_comparison_signs c).becomes (by cases c <;> decide)
    exact (becomes_atom a).append (hsign.append (becomes_atom b))
  | join op f g hf hg =>
    have hsign : Becomes (Style.signs.connective op) (Style.respelled.connective op) :=
      (respells_connective op).becomes (by cases op <;> decide)
    exact hf.bracketed.append (hsign.append hg.bracketed)
  | not f hf =>
    have hsign : Becomes ['!', '('] " not (".toList := respells_not.becomes rfl
    have hclose : Becomes [')'] [')'] := (respells_of_signless rfl).becomes rfl
    exact hsign.append (hf.append hclose)

theorem becomes_words (f : Formula) : Becomes (f.print .words) (f.print .words) := by
  induction f with
  | atom a => exact becomes_atom a
  | compare c a b =>
    have hsign : Becomes (Style.words.comparison c) (Style.words.comparison c) :=
      (respells_comparison_words c).becomes (by cases c <;> decide)
    exact (becomes_atom a).append (hsign.append (becomes_atom b))
  | join op f g hf hg =>
    have hword : Becomes (Style.words.connective op) (Style.words.connective op) :=
      (respells_of_signless (by cases op <;> decide)).becomes (by cases op <;> decide)
    exact hf.bracketed.append (hword.append hg.bracketed)
  | not f hf =>
    have hword : Becomes "not ".toList "not ".toList := (respells_of_signless rfl).becomes rfl
    exact hword.append hf.bracketed

/-! ### The ends of a text -/

/-- A condition may begin with the character: one of a word, a quote, a bracket or a sign. -/
def isHead (c : Char) : Bool := isWordChar c || ['"', '\'', '(', '!'].contains c

theorem isBlank_head {c : Char} (h : isHead c = true) : isBlank c = false := by
  simp only [isHead, List.contains_iff_mem, Bool.or_eq_true, List.mem_cons, List.not_mem_nil, or_false] at h
  rcases h with h | rfl | rfl | rfl | rfl
  · exact isBlank_wordChar h
  all_goals rfl

theorem ne_of_head {c d : Char} (h : isHead c = true) (hd : isHead d = false) : c ≠ d := by
  rintro rfl
  rw [h] at hd
  cases hd

/-- The text begins with such a character. -/
def Begins (s : List Char) : Prop := ∃ c r, s = c :: r ∧ isHead c = true

/-- The text ends with a character that is no blank. -/
def EndsFirm (s : List Char) : Prop := ∃ r c, s = r ++ [c] ∧ isBlank c = false

section Firm

variable {s : List Char}

theorem Begins.append (h : Begins s) (t : List Char) : Begins (s ++ t) := by
  obtain ⟨c, r, rfl, hc⟩ := h
  exact ⟨c, r ++ t, rfl, hc⟩

theorem EndsFirm.behind (h : EndsFirm s) (t : List Char) : EndsFirm (t ++ s) := by
  obtain ⟨r, c, rfl, hc⟩ := h
  exact ⟨t ++ r, c, (List.append_assoc ..).symm, hc⟩

theorem endsFirm_bracketed (s : List Char) : EndsFirm (bracketed s) := ⟨'(' :: s, ')', rfl, rfl⟩

theorem dropTrailingBlanks_of_endsFirm (h : EndsFirm s) : dropTrailingBlanks s = s := by
  obtain ⟨r, c, rfl, hc⟩ := h
  induction r with
  | nil => simp [dropTrailingBlanks, hc]
  | cons d r ih =>
    rw [List.cons_append, dropTrailingBlanks, ih]
    cases r <;> rfl

theorem strip_of_firm (hbegins : Begins s) (hends : EndsFirm s) : strip s = s := by
  obtain ⟨c, r, rfl, hc⟩ := hbegins
  rw [strip, skipBlanks, List.dropWhile_cons_of_neg (by simp [isBlank_head hc]),
    dropTrailingBlanks_of_endsFirm hends]

theorem strip_blank (s : List Char) : strip (' ' :: s) = strip s := rfl

theorem firm_of_word (hne : s ≠ []) (h : ∀ c ∈ s, isWordChar c = true) : Begins s ∧ EndsFirm s := by
  refine ⟨?_, ?_⟩
  · obtain ⟨c, r, rfl⟩ := List.exists_cons_of_ne_nil hne
    exact ⟨c, r, rfl, by simp [isHead, h c]⟩
  · exact ⟨s.dropLast, s.getLast hne, (List.dropLast_concat_getLast hne).symm,
      isBlank_wordChar (h _ (List.getLast_mem hne))⟩

end Firm

theorem firm_atom (a : Atom) : Begins a.print ∧ EndsFirm a.print := by
  cases a with
  | name id =>
    obtain ⟨⟨c, r, hid, -⟩, hword, -⟩ := isName_iff.1 id.2
    exact firm_of_word (by simp [Atom.print, hid]) hword
  | number n => exact firm_of_word Nat.toDigits_ne_nil (wordChar_toDigits n)
  | quoted q body => cases q <;> exact ⟨⟨_, _, rfl, rfl⟩, ⟨_ :: body, _, rfl, rfl⟩⟩

theorem begins_print {style : Style} (h : Begins style.not) (f : Formula) :
    Begins (f.print style) := by
  cases f with
  | atom a => exact (firm_atom a).1
  | compare c a b => exact (firm_atom a).1.append _
  | join op f g => exact ⟨'(', _, rfl, rfl⟩
  | not f => exact h.append _

theorem endsFirm_print (style : Style) (f : Formula) : EndsFirm (f.print style) := by
  cases f with
  | atom a => exact (firm_atom a).2
  | compare c a b => exact ((firm_atom b).2.behind _).behind _
  | join op f g => exact ((endsFirm_bracketed _).behind _).behind _
  | not f => exact (endsFirm_bracketed _).behind _

/-! ### The whole text -/

/-- The formula as it is written once words have replaced the signs. -/
def Formula.respelled : Formula → List Char
  | .not f => "not ".toList ++ bracketed (f.print .respelled)
  | f => f.print .respelled

theorem normalize_signs (f : Formula) : normalize (f.print .signs) = f.respelled := by
  rw [normalize, strip_of_firm (begins_print ⟨'!', [], rfl, rfl⟩ f) (endsFirm_print _ f),
    (becomes_signs f).eq]
  have hends := endsFirm_print .respelled f
  cases f with
  | atom a => exact strip_of_firm (firm_atom a).1 hends
  | compare c a b => exact strip_of_firm ((firm_atom a).1.append _) hends
  | join op f g => exact strip_of_firm ⟨'(', _, rfl, rfl⟩ hends
  | not f =>
    have hblank : (Formula.not f).print .respelled = ' ' :: (Formula.not f).respelled := rfl
    rw [hblank, strip_blank]
    exact strip_of_firm ⟨'n', _, rfl, rfl⟩ ((endsFirm_bracketed _).behind _)

theorem normalize_words (f : Formula) : normalize (f.print .words) = f.print .words := by
  have hfirm := strip_of_firm (begins_print ⟨'n', _, rfl, rfl⟩ f) (endsFirm_print .words f)
  rw [normalize, hfirm, (becomes_words f).eq, hfirm]

end StoryState.Condition
