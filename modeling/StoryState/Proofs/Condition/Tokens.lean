import StoryState.Proofs.Condition.Respelling

/-!
The tokens of a formula as it is written. Each piece is cut into its tokens in front of whatever may
follow it (`Tokenizes`), as long as there is room for its brackets; so a formula with words for operators
is cut into its tokens (`tokens?_print`).
-/

namespace StoryState.Condition

open StoryState.Text

/-! ### Pieces -/

section Tokenizes

variable {s s' : List Char} {ts ts' : List Token} {next next' : List Char → Prop} {depth depth' : Nat}

/-- In front of what may come next the text is cut into the tokens. Its brackets are nested no deeper
than `depth`. -/
def Tokenizes (next : List Char → Prop) (depth : Nat) (s : List Char) (ts : List Token) : Prop :=
  ∃ steps ≤ s.length, ∀ fuel opened rest, next rest → opened.length + depth ≤ bracketLimit →
    tokensFrom? (fuel + steps) opened false (s ++ rest) =
      (tokensFrom? fuel opened false rest).map (ts ++ ·)

/-- Anything may follow. -/
def Anything (_ : List Char) : Prop := True

/-- No word and no number goes on here. -/
def Ends (rest : List Char) : Prop := ∀ c, rest.head? = some c → c = ' ' ∨ c = ')'

theorem Tokenizes.append (hs : Tokenizes next depth s ts) (hs' : Tokenizes next' depth' s' ts')
    (hnext : ∀ rest, next' rest → next (s' ++ rest)) :
    Tokenizes next' (max depth depth') (s ++ s') (ts ++ ts') := by
  obtain ⟨steps, hsteps, hs⟩ := hs
  obtain ⟨steps', hsteps', hs'⟩ := hs'
  refine ⟨steps' + steps, by rw [List.length_append]; omega, fun fuel opened rest hrest hroom => ?_⟩
  rw [List.append_assoc, ← Nat.add_assoc, hs _ _ _ (hnext rest hrest) (by omega),
    hs' _ _ _ hrest (by omega), Option.map_map]
  simp only [Function.comp_def, List.append_assoc]

theorem Tokenizes.mono (hs : Tokenizes next depth s ts) (hdepth : depth ≤ depth') :
    Tokenizes next depth' s ts := by
  obtain ⟨steps, hsteps, hs⟩ := hs
  exact ⟨steps, hsteps, fun fuel opened rest hrest hroom => hs fuel opened rest hrest (by omega)⟩

theorem Tokenizes.along (hs : Tokenizes next depth s ts) (hnext : ∀ {rest}, next' rest → next rest) :
    Tokenizes next' depth s ts := by
  obtain ⟨steps, hsteps, hs⟩ := hs
  exact ⟨steps, hsteps, fun fuel opened rest hrest => hs fuel opened rest (hnext hrest)⟩

theorem Tokenizes.bracketed (hs : Tokenizes Ends depth s ts) :
    Tokenizes Anything (depth + 1) (bracketed s) (tokensInBrackets ts) := by
  obtain ⟨steps, hsteps, hs⟩ := hs
  refine ⟨steps + 2, by simp [Condition.bracketed]; omega, fun fuel opened rest _ hroom => ?_⟩
  have htext : Condition.bracketed s ++ rest = '(' :: (s ++ ')' :: rest) := by simp [Condition.bracketed]
  have hopen : tokensFrom? (fuel + (steps + 2)) opened false ('(' :: (s ++ ')' :: rest)) =
      (tokensFrom? (fuel + 1 + steps) (")" :: opened) false (s ++ ')' :: rest)).map (.mark "(" :: ·) := by
    have hfuel : fuel + (steps + 2) = fuel + 1 + steps + 1 := by omega
    rw [hfuel]
    show (if opened.length ≥ bracketLimit then none else _) = _
    rw [if_neg (by omega)]
  have hclose : tokensFrom? (fuel + 1) (")" :: opened) false (')' :: rest) =
      (tokensFrom? fuel opened false rest).map (.mark ")" :: ·) := rfl
  rw [htext, hopen, hs _ _ _ (by simp [Ends]) (by rw [List.length_cons]; omega), hclose]
  simp only [Option.map_map, Function.comp_def, tokensInBrackets, List.cons_append, List.append_assoc,
    List.nil_append]

end Tokenizes

/-! ### Operators -/

theorem tokenizes_comparison (c : Comparison) :
    Tokenizes Anything 0 (Style.words.comparison c) [.mark c.sign] := by
  refine ⟨3, by cases c <;> decide, fun fuel opened rest _ _ => ?_⟩
  cases opened <;> cases c <;> rfl

theorem tokenizes_connective (op : BoolOp) :
    Tokenizes Anything 0 (Style.words.connective op) [.keyword op.word] := by
  refine ⟨3, by cases op <;> decide, fun fuel opened rest _ _ => ?_⟩
  cases op <;> rfl

theorem tokenizes_blank : Tokenizes Anything 0 [' '] [] := by
  refine ⟨1, Nat.le_refl _, fun fuel opened rest _ _ => ?_⟩
  show tokensFrom? fuel opened false rest = _
  cases tokensFrom? fuel opened false rest <;> rfl

theorem tokenizes_not : Tokenizes Anything 0 "not ".toList [.keyword "not"] :=
  ⟨2, by decide, fun _ _ _ _ _ => rfl⟩

/-- The text has characters that a condition may have. -/
def isClean (s : List Char) : Bool := s.all fun c => c ≠ '\r' && c ≠ '\x00'

/-- The operators of a style are cut into their tokens. -/
structure Style.Legible (style : Style) : Prop where
  comparison (c : Comparison) : Tokenizes Anything 0 (style.comparison c) [.mark c.sign]
  spaced (c : Comparison) : ∃ r, style.comparison c = ' ' :: r
  connective (op : BoolOp) : Tokenizes Anything 0 (style.connective op) [.keyword op.word]
  not : Tokenizes Anything 0 style.not [.keyword "not"]
  clean (c : Comparison) (op : BoolOp) :
    isClean (style.comparison c) = true ∧ isClean (style.connective op) = true ∧ isClean style.not = true

theorem legible_words : Style.words.Legible where
  comparison := tokenizes_comparison
  spaced _ := ⟨_, rfl⟩
  connective := tokenizes_connective
  not := tokenizes_not
  clean c op := by cases c <;> cases op <;> decide

theorem legible_respelled : Style.respelled.Legible where
  comparison := tokenizes_comparison
  spaced _ := ⟨_, rfl⟩
  connective op :=
    tokenizes_blank.append ((tokenizes_connective op).append tokenizes_blank fun _ h => h) fun _ h => h
  not := tokenizes_blank.append tokenizes_not fun _ h => h
  clean c op := by cases c <;> cases op <;> decide

/-! ### Atoms -/

theorem takeWhile_of_ends {p : Char → Bool} {s rest : List Char} (hs : ∀ c ∈ s, p c = true)
    (hblank : p ' ' = false) (hclose : p ')' = false) (h : Ends rest) :
    (s ++ rest).takeWhile p = s ∧ (s ++ rest).dropWhile p = rest := by
  rw [List.takeWhile_append_of_pos hs, List.dropWhile_append_of_pos hs]
  cases rest with
  | nil => simp
  | cons c rest =>
    have hc : p c = false := by rcases h c rfl with rfl | rfl <;> assumption
    simp [hc]

theorem tokenAt?_name (id : { s : List Char // isName s = true }) {rest : List Char} (h : Ends rest) :
    tokenAt? (id ++ rest) = some (.name (String.ofList id), rest) := by
  obtain ⟨⟨c, r, hid, hstart⟩, hword, hkeyword⟩ := isName_iff.1 id.2
  have hascii : (id : List Char).all (·.toNat < 128) = true := by
    refine List.all_eq_true.2 fun d hd => ?_
    have := toNat_wordChar (hword d hd)
    simp only [decide_eq_true_eq]
    omega
  have htoken : wordToken? id = some (.name (String.ofList id)) := by
    rw [wordToken?, if_neg (by simpa using hkeyword), hascii, compatibilityForm, if_pos hascii]
    rfl
  have hat : tokenAt? (id ++ rest) = wordAt? (id ++ rest) := by
    rw [hid, List.cons_append, tokenAt?, if_pos (mayStartName_of_isAlpha hstart)]
  obtain ⟨htake, hdrop⟩ := takeWhile_of_ends (fun d hd => mayContinueName_wordChar (hword d hd)) rfl rfl h
  rw [hat, wordAt?, htake, hdrop, htoken]
  cases rest with
  | nil => rfl
  | cons d rest => rcases h d rfl with rfl | rfl <;> rfl

theorem digitRun?_append {s rest : List Char} (hs : Digits s) (h : Ends rest) :
    digitRun? isAsciiDigit (s ++ rest) = some (s, rest) := by
  induction s with
  | nil =>
    cases rest with
    | nil => rfl
    | cons d rest => rcases h d rfl with rfl | rfl <;> rfl
  | cons c s ih =>
    obtain ⟨hc, hs⟩ := Digits.cons_iff.1 hs
    have hne : c ≠ '_' := by
      rintro rfl
      exact absurd hc (by decide)
    rw [List.cons_append, digitRun?, if_pos hc, ih hs]
    · rfl
    · rintro rfl
      exact absurd rfl hne

theorem mayStartName_digit {c : Char} (h : isAsciiDigit c = true) : mayStartName c = false := by
  have hne : c ≠ '_' := by
    rintro rfl
    exact absurd h (by decide)
  have htoNat : c.toNat = c.val.toNat := rfl
  simp only [isAsciiDigit, Char.le_def, UInt32.le_iff_toNat_le, Bool.and_eq_true, decide_eq_true_eq] at h
  have : '9'.val.toNat = 57 := rfl
  have : 'A'.val.toNat = 65 := rfl
  have : 'a'.val.toNat = 97 := rfl
  simp only [mayStartName, Char.le_def, UInt32.le_iff_toNat_le, Bool.or_eq_false_iff, Bool.and_eq_false_iff,
    decide_eq_false_iff_not, beq_eq_false_iff_ne]
  exact ⟨⟨⟨.inl (by omega), .inl (by omega)⟩, hne⟩, by omega⟩

theorem noLeadingZero (n : Nat) :
    ((Nat.toDigits 10 n).head? = some '0' && (Nat.toDigits 10 n).any (· ≠ '0')) = false := by
  rcases Nat.eq_zero_or_pos n with rfl | hpos
  · rfl
  · obtain ⟨c, s, hdigits, hc⟩ := toDigits_cons hpos
    simp [hdigits, hc]

theorem decimalTail?_whole {n : Nat} (hn : (Nat.toDigits 10 n).length ≤ Number.digitLimit) {rest : List Char}
    (h : Ends rest) : decimalTail? (Nat.toDigits 10 n) rest = some (.number (.int n), rest) := by
  have hends : numberEnds rest = true := by
    cases rest with
    | nil => rfl
    | cons d rest => rcases h d rfl with rfl | rfl <;> rfl
  have hwhole : wholeOrFloat? (Nat.toDigits 10 n) [] false rest = some (.number (.int n), rest) := by
    rw [wholeOrFloat?, if_neg (by simp), noLeadingZero, if_neg (by simp), if_neg (by omega),
      readDigits_toDigits, ended?, if_pos hends]
  cases rest with
  | nil => exact hwhole
  | cons d rest => rcases h d rfl with rfl | rfl <;> exact hwhole

/-- Behind a zero nothing makes a number of another base. -/
theorem numberAt?_digits {c : Char} {s : List Char} (h : Digits (c :: s)) {rest : List Char} (hrest : Ends rest) :
    numberAt? (c :: s ++ rest) = (digitRun? isAsciiDigit (c :: s ++ rest)).bind fun (whole, rest) =>
      decimalTail? whole rest := by
  have hnext : ∀ d r, s ++ rest = d :: r → isAsciiDigit d = true ∨ d = ' ' ∨ d = ')' := by
    intro d r heq
    cases s with
    | nil =>
      rw [List.nil_append] at heq
      exact .inr (hrest d (by simp [heq]))
    | cons e s =>
      cases heq
      exact .inl (Digits.cons_iff.1 (Digits.cons_iff.1 h).2).1
  have hletter : ∀ d r, s ++ rest = d :: r → ∀ e ∈ ['x', 'X', 'o', 'O', 'b', 'B'], d ≠ e := by
    rintro d r heq e he rfl
    rcases hnext d r heq with hd | rfl | rfl
    · simp only [List.mem_cons, List.not_mem_nil, or_false] at he
      rcases he with rfl | rfl | rfl | rfl | rfl | rfl <;> exact absurd hd (by decide)
    · exact absurd he (by decide)
    · exact absurd he (by decide)
  rw [List.cons_append]
  generalize s ++ rest = t at hletter
  unfold numberAt?
  split
  · rename_i d r heq
    cases heq
    have hd := hletter d r rfl
    rw [if_neg, if_neg, if_neg]
    all_goals simp [hd]
  · rfl

theorem tokenAt?_number (n : { n : Nat // (Nat.toDigits 10 n).length ≤ Number.digitLimit })
    {rest : List Char} (h : Ends rest) :
    tokenAt? (Nat.toDigits 10 n ++ rest) = some (.number (.int n), rest) := by
  obtain ⟨c, s, hdigits⟩ := List.exists_cons_of_ne_nil (Nat.toDigits_ne_nil (n := n) (b := 10))
  have hall : Digits (Nat.toDigits 10 n) := Digits.toDigits
  have hrun := digitRun?_append hall h
  have htail := decimalTail?_whole n.2 h
  rw [hdigits] at hall hrun htail ⊢
  have hc := (Digits.cons_iff.1 hall).1
  have hstart : mayStartName c = false := mayStartName_digit hc
  have hat : tokenAt? (c :: s ++ rest) = numberAt? (c :: s ++ rest) := by
    rw [List.cons_append, tokenAt?, hstart, if_neg (by simp), if_pos hc]
  rw [hat, numberAt?_digits hall h, hrun, Option.bind_some]
  exact htail

theorem quotedBodyAt?_append (q : Quote) {body : List Char} (hbody : isQuotable q.char body = true)
    {rest : List Char} (h : Ends rest) :
    quotedBodyAt? (q.char :: (body ++ q.char :: rest)) = some (body, rest) := by
  have hshort : shortBody? q.char (body ++ q.char :: rest) = some (body, rest) := by
    clear h
    induction body with
    | nil => cases q <;> rfl
    | cons c body ih =>
      obtain ⟨hc, hbody⟩ := by simpa only [isQuotable, List.all_cons, Bool.and_eq_true] using hbody
      simp only [List.contains_cons, Bool.not_eq_true', Bool.or_eq_false_iff, beq_eq_false_iff_ne] at hc
      rw [List.cons_append, shortBody?, if_neg hc.1, if_neg (by simp [hc]), ih hbody]
      · rfl
      · rintro d s rfl
        exact absurd rfl hc.2.1
  have hlead : dropLead? [q.char, q.char] (body ++ q.char :: rest) = none := by
    cases body with
    | nil =>
      cases rest with
      | nil => cases q <;> rfl
      | cons d rest => rcases h d rfl with rfl | rfl <;> cases q <;> rfl
    | cons c body =>
      obtain ⟨hc, -⟩ := by simpa only [isQuotable, List.all_cons, Bool.and_eq_true] using hbody
      simp only [List.contains_cons, Bool.not_eq_true', Bool.or_eq_false_iff, beq_eq_false_iff_ne] at hc
      rw [List.cons_append, dropLead?, if_neg (Ne.symm hc.1)]
  rw [quotedBodyAt?, hlead]
  exact hshort

theorem tokenAt?_atom (a : Atom) {rest : List Char} (h : Ends rest) :
    tokenAt? (a.print ++ rest) = some (a.token, rest) := by
  cases a with
  | name id => exact tokenAt?_name id h
  | number n => exact tokenAt?_number n h
  | quoted q body =>
    have hbody := quotedBodyAt?_append q body.2 h
    have hat : tokenAt? (q.char :: (body ++ q.char :: rest)) =
        (quotedBodyAt? (q.char :: (body ++ q.char :: rest))).map fun (body, rest) =>
          (.quoted ⟨{}, body⟩, rest) := by
      cases q <;> rfl
    rw [Atom.print, List.cons_append, List.append_assoc, List.singleton_append, hat, hbody]
    rfl

theorem tokenizes_atom (a : Atom) : Tokenizes Ends 0 a.print [a.token] := by
  obtain ⟨c, r, ha, hc⟩ := (firm_atom a).1
  refine ⟨1, by rw [ha]; simp, fun fuel opened rest hrest _ => ?_⟩
  have hat := tokenAt?_atom a hrest
  rw [ha, List.cons_append] at hat ⊢
  have hgap : isGap c = false := by
    simp [isGap, ne_of_head hc (d := ' ') rfl, ne_of_head hc (d := '\t') rfl, ne_of_head hc (d := '\x0c') rfl]
  conv_lhs => unfold tokensFrom?
  simp only [hgap, hat, ne_of_head hc (d := '#') rfl, ne_of_head hc (d := '\n') rfl,
    ne_of_head hc (d := '\\') rfl, Bool.false_eq_true, if_false]
  cases a <;> rfl

theorem tokenizes_print {style : Style} (hstyle : style.Legible) (f : Formula) :
    Tokenizes Ends f.nesting (f.print style) f.tokens := by
  have hanything {rest : List Char} : Ends rest → Anything rest := fun _ => trivial
  induction f with
  | atom a => exact tokenizes_atom a
  | compare c a b =>
    have hsecond := (hstyle.comparison c).append (tokenizes_atom b) fun _ => hanything
    refine (tokenizes_atom a).append hsecond fun rest _ => ?_
    obtain ⟨r, hr⟩ := hstyle.spaced c
    simp [hr, Ends]
  | join op f g hf hg =>
    have hsecond := (hstyle.connective op).append hg.bracketed fun _ h => h
    have hboth := hf.bracketed.append hsecond fun _ h => h
    exact (hboth.mono (by simp only [Formula.nesting]; omega)).along hanything
  | not f hf =>
    have hboth := hstyle.not.append hf.bracketed fun _ h => h
    exact (hboth.mono (by simp only [Formula.nesting]; omega)).along hanything

/-! ### The whole text -/

theorem isClean_append {s t : List Char} : isClean (s ++ t) = (isClean s && isClean t) := List.all_append

theorem isClean_bracketed (s : List Char) : isClean (bracketed s) = isClean s := by
  rw [bracketed, ← List.singleton_append, isClean_append, isClean_append]
  show (true && (isClean s && true)) = _
  simp

theorem isClean_atom (a : Atom) : isClean a.print = true := by
  have hword {s : List Char} (hs : ∀ c ∈ s, isWordChar c = true) : isClean s = true := by
    refine List.all_eq_true.2 fun c hc => ?_
    simp only [ne_eq, Bool.and_eq_true, decide_eq_true_eq]
    refine ⟨?_, ?_⟩ <;> rintro rfl <;> exact absurd (hs _ hc) (by decide)
  cases a with
  | name id => exact hword (isName_iff.1 id.2).2.1
  | number n => exact hword (wordChar_toDigits n)
  | quoted q body =>
    have hbody : isClean body = true := by
      refine List.all_eq_true.2 fun c hc => ?_
      have hquotable := List.all_eq_true.1 body.2 c hc
      simp only [List.contains_cons, Bool.not_eq_true', Bool.or_eq_false_iff, beq_eq_false_iff_ne] at hquotable
      simp [hquotable]
    have hquote : isClean [q.char] = true := by cases q <;> decide
    rw [Atom.print, ← List.singleton_append, isClean_append, isClean_append, hquote, hbody]
    rfl

theorem isClean_print {style : Style} (hstyle : style.Legible) (f : Formula) :
    isClean (f.print style) = true := by
  have hclean (c : Comparison) (op : BoolOp) := hstyle.clean c op
  induction f with
  | atom a => exact isClean_atom a
  | compare c a b =>
    simp [Formula.print, isClean_append, isClean_atom, (hclean c .and).1]
  | join op f g hf hg =>
    simp [Formula.print, isClean_append, isClean_bracketed, hf, hg, (hclean .equal op).2.1]
  | not f hf =>
    simp [Formula.print, isClean_append, isClean_bracketed, hf, (hclean .equal .and).2.2]

theorem unifyLineBreaks_of_clean {s : List Char} (h : isClean s = true) : unifyLineBreaks s = s := by
  induction s with
  | nil => rfl
  | cons c s ih =>
    obtain ⟨hc, hs⟩ := by simpa only [isClean, List.all_cons, Bool.and_eq_true] using h
    simp only [ne_eq, decide_eq_true_eq] at hc
    rw [unifyLineBreaks, ih hs]
    · rintro _ rfl
      exact absurd rfl hc.1
    · rintro rfl
      exact absurd rfl hc.1

/-- A whole text is cut into its tokens. -/
theorem tokens?_of_tokenizes {s : List Char} {ts : List Token} {depth : Nat} (h : Tokenizes Ends depth s ts)
    (hdepth : depth ≤ bracketLimit) (hbegins : Begins s) (hclean : isClean s = true) :
    tokens? s = some ts := by
  have hnull : s.contains '\x00' = false := by
    rw [List.contains_eq_any_beq, List.any_eq_false]
    intro c hc
    have := List.all_eq_true.1 hclean c hc
    simp only [ne_eq, Bool.and_eq_true, decide_eq_true_eq] at this
    simpa using Ne.symm this.2
  obtain ⟨steps, hsteps, htokens⟩ := h
  obtain ⟨c, r, rfl, hc⟩ := hbegins
  have hindent : indentation 0 0 (c :: r) = (0, c :: r) := by
    unfold indentation
    split
    · rename_i heq
      cases heq
    · rename_i heq
      cases heq
      exact absurd hc (by decide)
    · rename_i heq
      cases heq
      simp [ne_of_head hc (d := ' ') rfl, ne_of_head hc (d := '\t') rfl, ne_of_head hc (d := '\x0c') rfl]
  have hfuel : ∃ fuel, 2 * (c :: r).length + 2 = fuel + 1 + steps + 1 :=
    ⟨2 * (c :: r).length - steps, by omega⟩
  obtain ⟨fuel, hfuel⟩ := hfuel
  have hstart : tokensFrom? (fuel + 1 + steps + 1) [] true (c :: r) =
      tokensFrom? (fuel + 1 + steps) [] false (c :: r) := by
    conv_lhs => unfold tokensFrom?
    simp only [if_true, hindent]
    split
    · rename_i heq
      cases heq
    · rename_i heq
      cases heq
      exact absurd hc (by decide)
    · rename_i heq
      cases heq
      exact absurd hc (by decide)
    · rfl
  have hall := htokens (fuel + 1) [] [] (by simp [Ends]) (by simpa using hdepth)
  rw [tokens?, hnull, unifyLineBreaks_of_clean hclean]
  simp only [Bool.false_eq_true, if_false]
  rw [hfuel, hstart]
  rw [List.append_nil] at hall
  rw [hall]
  simp [tokensFrom?]

theorem tokens?_words (f : Formula) (h : f.nesting ≤ bracketLimit) : tokens? (f.print .words) = some f.tokens :=
  tokens?_of_tokenizes (tokenizes_print legible_words f) h (begins_print ⟨'n', _, rfl, rfl⟩ f)
    (isClean_print legible_words f)

theorem tokens?_respelled (f : Formula) (h : f.nesting ≤ bracketLimit) : tokens? f.respelled = some f.tokens := by
  have hprint := tokenizes_print legible_respelled f
  have hclean := isClean_print legible_respelled f
  cases f with
  | atom a => exact tokens?_of_tokenizes hprint h (firm_atom a).1 hclean
  | compare c a b => exact tokens?_of_tokenizes hprint h ((firm_atom a).1.append _) hclean
  | join op f g => exact tokens?_of_tokenizes hprint h ⟨'(', _, rfl, rfl⟩ hclean
  | not f =>
    have hnot := tokenizes_not.append (tokenizes_print legible_respelled f).bracketed fun _ h => h
    have hends : Tokenizes Ends (f.nesting + 1) (Formula.not f).respelled (Formula.not f).tokens :=
      (hnot.mono (by omega)).along fun _ => trivial
    refine tokens?_of_tokenizes hends h ⟨'n', _, rfl, rfl⟩ ?_
    rw [Formula.respelled, isClean_append, isClean_bracketed, isClean_print legible_respelled f]
    rfl

theorem length_print (style : Style) (f : Formula) : 2 * f.nesting ≤ (f.print style).length := by
  induction f with
  | atom | compare => simp [Formula.nesting]
  | join op f g hf hg =>
    simp only [Formula.nesting, Formula.print, bracketed, List.length_append, List.length_cons, List.length_nil]
    omega
  | not f hf =>
    simp only [Formula.nesting, Formula.print, bracketed, List.length_append, List.length_cons, List.length_nil]
    omega

end StoryState.Condition
