import StoryState.Proofs.Condition.Tokens
import StoryState.Condition.Parser

/-!
The tokens of a formula are read to its expression (`expression_tokens`). Each level of the grammar reads
an operand and stops in front of what may follow it (`FollowsOperand`); how much fuel this takes grows
with the nesting of brackets only.
-/

namespace StoryState.Condition

/-! ### What stands around a formula -/

/-- What may follow a formula: nothing, or the end of brackets. -/
inductive Closes : List Token → Prop
  | nothing : Closes []
  | close (ts : List Token) : Closes (.mark ")" :: ts)

/-- What may follow what a connective joins. -/
inductive FollowsDemand : List Token → Prop
  | closes {ts : List Token} (h : Closes ts) : FollowsDemand ts
  | connective (op : BoolOp) (ts : List Token) : FollowsDemand (.keyword op.word :: ts)

/-- What may follow what is compared. -/
inductive FollowsOperand : List Token → Prop
  | demand {ts : List Token} (h : FollowsDemand ts) : FollowsOperand ts
  | comparison (c : Comparison) (ts : List Token) : FollowsOperand (.mark c.sign :: ts)

/-- How what is compared begins. -/
inductive StartsOperand : List Token → Prop
  | atom (a : Atom) {rest : List Token} (h : FollowsOperand rest) : StartsOperand (a.token :: rest)
  | opening (ts : List Token) : StartsOperand (.mark "(" :: ts)

/-- How a formula begins. -/
inductive Starts : List Token → Prop
  | operand {ts : List Token} (h : StartsOperand ts) : Starts ts
  | not (ts : List Token) : Starts (.keyword "not" :: ts)

section Around

variable {ts rest : List Token}

theorem FollowsOperand.noOperator (h : FollowsOperand rest) {ops : List (String × BinaryOp)}
    (hops : ops ∈ binaryLevels) : binaryOp? ops rest = none := by
  rcases h with ⟨⟨_ | _⟩ | ⟨op⟩⟩ | ⟨c⟩
  · rfl
  · have hclose : ∀ ops ∈ binaryLevels, ops.lookup ")" = none := by decide
    rw [binaryOp?, hclose ops hops]
    rfl
  · rfl
  · have hsign : ∀ ops ∈ binaryLevels, ops.lookup c.sign = none := by cases c <;> decide
    rw [binaryOp?, hsign ops hops]
    rfl

theorem FollowsOperand.noSign (h : FollowsOperand rest) {sign : String}
    (hsign : sign ∉ [")", "==", "!=", "<", "<=", ">", ">="]) : sign? sign rest = none := by
  rcases h with ⟨⟨_ | _⟩ | ⟨op⟩⟩ | ⟨c⟩
  · rfl
  · rw [sign?, if_neg fun heq => hsign (by simp [← heq])]
  · rfl
  · rw [sign?, if_neg fun heq => hsign (by rw [← heq]; cases c <;> decide)]

theorem FollowsOperand.literalsAt (h : FollowsOperand rest) : literalsAt rest = ([], rest) := by
  rcases h with ⟨⟨_ | _⟩ | ⟨op⟩⟩ | ⟨c⟩ <;> rfl

theorem FollowsOperand.trailers (h : FollowsOperand rest) (fuel : Nat) (e : Expr) :
    trailers (fuel + 1) e rest = some (e, rest) := by
  rcases h with ⟨⟨_ | _⟩ | ⟨op⟩⟩ | ⟨c⟩
  · rfl
  · rfl
  · rfl
  · cases c <;> rfl

theorem FollowsDemand.noComparison (h : FollowsDemand rest) : comparison? rest = none := by
  rcases h with ⟨_ | _⟩ | ⟨op⟩
  · rfl
  · rfl
  · cases op <;> rfl

theorem Closes.noWord (h : Closes rest) (word : String) : word? word rest = none := by
  cases h <;> rfl

theorem StartsOperand.noWord (h : StartsOperand ts) (word : String) : word? word ts = none := by
  rcases h with ⟨_ | _ | _⟩ | _ <;> rfl

theorem StartsOperand.noUnarySign (h : StartsOperand ts) : unarySign? ts = none := by
  rcases h with ⟨_ | _ | _⟩ | _ <;> rfl

theorem Starts.noWord (h : Starts ts) {word : String} (hword : word ≠ "not") : word? word ts = none := by
  rcases h with h | _
  · exact h.noWord word
  · exact if_neg (Ne.symm hword)

theorem Starts.noSign (h : Starts ts) {sign : String} (hsign : sign ≠ "(") : sign? sign ts = none := by
  rcases h with ⟨⟨_ | _ | _⟩ | _⟩ | _
  · rfl
  · rfl
  · rfl
  · exact if_neg (Ne.symm hsign)
  · rfl

/-- A name that begins a formula is not bound by it. -/
theorem Starts.unbound {id : String} : ¬ Starts (.name id :: .mark ":=" :: rest) := by
  generalize hts : Token.name id :: .mark ":=" :: rest = ts
  rintro (⟨a, hrest⟩ | _)
  · injection hts with _ hts
    subst hts
    have hsign : sign? ":=" (.mark ":=" :: rest) = none := hrest.noSign (by decide)
    cases hsign
  all_goals cases hts

end Around

/-! ### The levels of the grammar -/

/-- With so much fuel or more the tokens are read to `a`, up to the rest. -/
def ReadsTo {α : Type} (read : Nat → List Token → Option (α × List Token)) (least : Nat)
    (ts : List Token) (a : α) (rest : List Token) : Prop :=
  ∀ fuel, least ≤ fuel → read fuel ts = some (a, rest)

section Levels

variable {α : Type} {read : Nat → List Token → Option (α × List Token)} {a : α} {least more : Nat}
  {ts ts' rest : List Token} {e e' : Expr} {es : List Expr}

theorem ReadsTo.mono (h : ReadsTo read least ts a rest) (hmore : least ≤ more) : ReadsTo read more ts a rest :=
  fun fuel hfuel => h fuel (hmore.trans hfuel)

/-- A step takes one more. -/
theorem readsTo_succ (h : ∀ fuel, least ≤ fuel → read (fuel + 1) ts = some (a, rest)) :
    ReadsTo read (least + 1) ts a rest := by
  intro fuel hfuel
  cases fuel with
  | zero => omega
  | succ fuel => exact h fuel (by omega)

theorem ReadsTo.factor (h : ReadsTo primary least ts e rest) (hts : StartsOperand ts)
    (hrest : FollowsOperand rest) : ReadsTo factor (least + 2) ts e rest := by
  have hawaited : ReadsTo awaited (least + 1) ts e rest := readsTo_succ fun fuel hfuel => by
    rw [awaited, hts.noWord]
    exact h fuel hfuel
  refine readsTo_succ fun fuel hfuel => ?_
  simp [Condition.factor, hts.noUnarySign, hawaited fuel hfuel, hrest.noSign]

/-- What is compared, without infix operators on values. -/
def compared (fuel : Nat) (ts : List Token) : Parsed := binary fuel binaryLevels ts

theorem ReadsTo.compared (h : ReadsTo primary least ts e rest) (hts : StartsOperand ts)
    (hrest : FollowsOperand rest) : ReadsTo compared (least + 9) ts e rest := by
  have hlevels : ∀ levels : List (List (String × BinaryOp)), (∀ ops ∈ levels, ops ∈ binaryLevels) →
      ReadsTo (fun fuel => binary fuel levels) (least + 2 + levels.length + 1) ts e rest := by
    intro levels hlevels
    induction levels with
    | nil => exact readsTo_succ fun fuel hfuel => h.factor hts hrest fuel hfuel
    | cons ops tighter ih =>
      refine readsTo_succ fun fuel hfuel => ?_
      have hfirst : binary fuel tighter ts = some (e, rest) :=
        ih (fun ops hops => hlevels ops (by simp [hops])) fuel hfuel
      cases fuel with
      | zero => omega
      | succ fuel => simp [binary, hfirst, binaryTail, hrest.noOperator (hlevels ops (by simp))]
  exact hlevels binaryLevels fun _ h => h

/-! ### Comparisons -/

theorem moreCompared_stop (hrest : FollowsDemand rest) : ReadsTo moreCompared 1 rest [] rest :=
  readsTo_succ fun fuel _ => by rw [moreCompared, hrest.noComparison]

theorem moreCompared_next (c : Comparison) (h : ReadsTo compared least ts e rest) (hrest : FollowsDemand rest)
    (hleast : 0 < least) : ReadsTo moreCompared (least + 1) (.mark c.sign :: ts) [(c.op, e)] rest := by
  refine readsTo_succ fun fuel hfuel => ?_
  have hsign : comparison? (.mark c.sign :: ts) = some (c.op, ts) := by cases c <;> rfl
  have hread : binary fuel binaryLevels ts = some (e, rest) := h fuel hfuel
  simp [moreCompared, hsign, hread, moreCompared_stop hrest fuel (by omega)]

theorem ReadsTo.inversion {es : List (CompareOp × Expr)} (h : ReadsTo Condition.compared least ts e ts')
    (hmore : ReadsTo moreCompared least ts' es rest) (hts : StartsOperand ts) :
    ReadsTo inversion (least + 1) ts (if es.isEmpty then e else .compare e es) rest := by
  refine readsTo_succ fun fuel hfuel => ?_
  have hread : binary fuel binaryLevels ts = some (e, ts') := h fuel hfuel
  simp [Condition.inversion, hts.noWord, hread, hmore fuel hfuel]

theorem ReadsTo.not (h : ReadsTo Condition.inversion least ts e rest) :
    ReadsTo Condition.inversion (least + 1) (.keyword "not" :: ts) (.unary .not e) rest := by
  refine readsTo_succ fun fuel hfuel => ?_
  simp [Condition.inversion, word?, h fuel hfuel]

/-! ### Connectives -/

theorem moreDemands_stop (hrest : word? "and" rest = none) : ReadsTo moreDemands 1 rest [] rest :=
  readsTo_succ fun fuel _ => by rw [moreDemands, hrest]

theorem moreDemands_next (h : ReadsTo Condition.inversion least ts e rest) (hrest : word? "and" rest = none)
    (hleast : 0 < least) : ReadsTo moreDemands (least + 1) (.keyword "and" :: ts) [e] rest := by
  refine readsTo_succ fun fuel hfuel => ?_
  simp [moreDemands, word?, h fuel hfuel, moreDemands_stop hrest fuel (by omega)]

theorem ReadsTo.conjunction (h : ReadsTo Condition.inversion least ts e ts')
    (hmore : ReadsTo moreDemands least ts' es rest) :
    ReadsTo conjunction (least + 1) ts (if es.isEmpty then e else .boolean .and (e :: es)) rest := by
  refine readsTo_succ fun fuel hfuel => ?_
  simp [Condition.conjunction, h fuel hfuel, hmore fuel hfuel]

theorem moreAlternatives_stop (hrest : word? "or" rest = none) : ReadsTo moreAlternatives 1 rest [] rest :=
  readsTo_succ fun fuel _ => by rw [moreAlternatives, hrest]

theorem moreAlternatives_next (h : ReadsTo Condition.conjunction least ts e rest) (hrest : word? "or" rest = none)
    (hleast : 0 < least) : ReadsTo moreAlternatives (least + 1) (.keyword "or" :: ts) [e] rest := by
  refine readsTo_succ fun fuel hfuel => ?_
  simp [moreAlternatives, word?, h fuel hfuel, moreAlternatives_stop hrest fuel (by omega)]

theorem ReadsTo.disjunction (h : ReadsTo Condition.conjunction least ts e ts')
    (hmore : ReadsTo moreAlternatives least ts' es rest) :
    ReadsTo disjunction (least + 1) ts (if es.isEmpty then e else .boolean .or (e :: es)) rest := by
  refine readsTo_succ fun fuel hfuel => ?_
  simp [Condition.disjunction, h fuel hfuel, hmore fuel hfuel]

theorem ReadsTo.expression (h : ReadsTo Condition.disjunction least ts e rest) (hts : Starts ts)
    (hrest : Closes rest) : ReadsTo expression (least + 1) ts e rest := by
  refine readsTo_succ fun fuel hfuel => ?_
  simp [Condition.expression, hts.noWord, h fuel hfuel, hrest.noWord]

/-! ### Atoms and brackets -/

theorem readsTo_primary (h : ReadsTo atom least ts e rest) (hrest : FollowsOperand rest) (hleast : 0 < least) :
    ReadsTo primary (least + 1) ts e rest := by
  refine readsTo_succ fun fuel hfuel => ?_
  rw [primary, h fuel hfuel, Option.bind_eq_bind, Option.bind_some]
  cases fuel with
  | zero => omega
  | succ fuel => exact hrest.trailers fuel _

theorem unitChar_toNat (c : Char) : Json.unitChar c.toNat = c := by
  have hvalid : c.toNat < 0xd800 ∨ 0xdfff < c.toNat ∧ c.toNat < 0x110000 := c.valid
  rw [Json.unitChar, if_neg (by simp; omega), Char.ofNat_toNat]

theorem unescape?_of_quotable {quote : Char} {body : List Char} (h : isQuotable quote body = true) :
    unescape? false body.length body = some (body.map Char.toNat) := by
  induction body with
  | nil => rfl
  | cons c body ih =>
    obtain ⟨hc, hbody⟩ := by simpa only [isQuotable, List.all_cons, Bool.and_eq_true] using h
    simp only [List.contains_cons, Bool.not_eq_true', Bool.or_eq_false_iff, beq_eq_false_iff_ne] at hc
    rw [List.length_cons, unescape?, if_neg hc.2.1, ih hbody]
    rfl

theorem joinLiterals?_quotable {quote : Char} {body : List Char} (h : isQuotable quote body = true) :
    joinLiterals? [⟨{}, body⟩] = some (.text (String.ofList body)) := by
  have hpoints : QuotedLiteral.codePoints? ⟨{}, body⟩ = some (body.map Char.toNat) := unescape?_of_quotable h
  simp [joinLiterals?, hpoints, textOf, unitChar_toNat, Function.comp_def]

theorem readsTo_atom (a : Atom) (hrest : FollowsOperand rest) : ReadsTo atom 1 (a.token :: rest) a.expr rest := by
  refine readsTo_succ fun fuel _ => ?_
  cases a with
  | name | number => rfl
  | quoted q body =>
    have hliterals : literalsAt (.quoted ⟨{}, body⟩ :: rest) = ([⟨{}, body⟩], rest) := by
      rw [literalsAt, hrest.literalsAt]
    rw [Atom.token, atom, hliterals]
    simp [joinLiterals?_quotable body.2, Atom.expr]

theorem ReadsTo.bracketed (h : ReadsTo Condition.expression least ts e (.mark ")" :: rest)) (hts : Starts ts)
    (hstar : ∀ inner, e ≠ .starred inner) : ReadsTo atom (least + 4) (.mark "(" :: ts) e rest := by
  have hbound : ReadsTo bound (least + 1) ts e (.mark ")" :: rest) := by
    refine readsTo_succ fun fuel hfuel => ?_
    have hread := h fuel hfuel
    rw [bound]
    · simp [hread, sign?]
    · rintro id rest' rfl
      exact hts.unbound
  have hitem : ReadsTo item (least + 2) ts e (.mark ")" :: rest) := readsTo_succ fun fuel hfuel => by
    rw [item, hts.noSign (by decide)]
    exact hbound fuel hfuel
  have hinside : ReadsTo parenthesized (least + 3) ts e rest := by
    refine readsTo_succ fun fuel hfuel => ?_
    have hclauses : clauses fuel (.mark ")" :: rest) = none := by
      cases fuel <;> rfl
    rw [parenthesized, hts.noSign (by decide), hts.noWord (by decide)]
    dsimp only
    rw [hitem fuel hfuel, Option.bind_eq_bind, Option.bind_some]
    dsimp only
    rw [hclauses]
    cases e with
    | starred inner => exact absurd rfl (hstar inner)
    | _ => rfl
  exact readsTo_succ fun fuel hfuel => by
    rw [atom]
    exact hinside fuel hfuel

end Levels

/-! ### Formulas -/

theorem expr_ne_starred (f : Formula) (inner : Expr) : f.expr ≠ .starred inner := by
  rcases f with ⟨_ | _ | _⟩ | _ | _ | _ <;> exact Expr.noConfusion

theorem starts_tokens (f : Formula) {rest : List Token} (hrest : FollowsOperand rest) :
    Starts (f.tokens ++ rest) := by
  cases f with
  | atom a => exact .operand (.atom a hrest)
  | compare c a b => exact .operand (.atom a (.comparison c _))
  | join op f g => exact .operand (.opening _)
  | not f => exact .not _

/-- How much fuel is enough for a formula. -/
def Formula.cost (f : Formula) : Nat := 30 * f.nesting + 20

section Formulas

variable {least : Nat} {ts rest : List Token} {e : Expr}

/-- A comparison alone is a whole formula. -/
theorem readsTo_whole (h : ReadsTo inversion least ts e rest) (hleast : 0 < least) (hts : Starts ts)
    (hrest : Closes rest) : ReadsTo expression (least + 3) ts e rest := by
  have hconjunction : ReadsTo conjunction (least + 1) ts e rest :=
    h.conjunction ((moreDemands_stop (hrest.noWord _)).mono hleast)
  have hdisjunction : ReadsTo disjunction (least + 2) ts e rest :=
    hconjunction.disjunction ((moreAlternatives_stop (hrest.noWord _)).mono (by omega))
  exact hdisjunction.expression hts hrest

theorem readsTo_atom_compared (a : Atom) (hrest : FollowsOperand rest) :
    ReadsTo compared 11 (a.token :: rest) a.expr rest :=
  (readsTo_primary (readsTo_atom a hrest) hrest (by omega)).compared (.atom a hrest) hrest

/-- A formula in brackets is read as one operand. -/
theorem readsTo_bracketed {f : Formula}
    (hf : ∀ {rest}, Closes rest → ReadsTo expression f.cost (f.tokens ++ rest) f.expr rest)
    (hrest : FollowsDemand rest) :
    ReadsTo inversion (f.cost + 15) (tokensInBrackets f.tokens ++ rest) f.expr rest := by
  have htokens : tokensInBrackets f.tokens ++ rest = .mark "(" :: (f.tokens ++ .mark ")" :: rest) := by
    simp [tokensInBrackets]
  have hstarts := starts_tokens f (.demand (.closes (.close rest)))
  have hinside := (hf (.close rest)).bracketed hstarts (expr_ne_starred f)
  have hcompared := (readsTo_primary hinside (.demand hrest) (by omega)).compared (.opening _) (.demand hrest)
  rw [htokens]
  exact hcompared.inversion ((moreCompared_stop hrest).mono (by omega)) (.opening _)

/-- The tokens of a formula are read to its expression. -/
theorem expression_tokens (f : Formula) (hrest : Closes rest) :
    ReadsTo expression f.cost (f.tokens ++ rest) f.expr rest := by
  induction f generalizing rest with
  | atom a =>
    have hfollows : FollowsDemand rest := .closes hrest
    have hread : ReadsTo inversion 12 (a.token :: rest) a.expr rest :=
      (readsTo_atom_compared a (.demand hfollows)).inversion ((moreCompared_stop hfollows).mono (by omega))
        (.atom a (.demand hfollows))
    have hwhole := readsTo_whole hread (by omega) (.operand (.atom a (.demand hfollows))) hrest
    exact hwhole.mono (by simp [Formula.cost])
  | compare c a b =>
    have hfollows : FollowsDemand rest := .closes hrest
    have hfirst := readsTo_atom_compared a (.comparison c (b.token :: rest))
    have hsecond := moreCompared_next c (readsTo_atom_compared b (.demand hfollows)) hfollows (by omega)
    have hstarts : StartsOperand (a.token :: .mark c.sign :: b.token :: rest) := .atom a (.comparison c _)
    have hread : ReadsTo inversion 13 (a.token :: .mark c.sign :: b.token :: rest) _ rest :=
      (hfirst.mono (by omega)).inversion hsecond hstarts
    exact (readsTo_whole hread (by omega) (.operand hstarts) hrest).mono (by simp [Formula.cost])
  | join op f g hf hg =>
    have hstarts := starts_tokens (.join op f g) (.demand (.closes hrest))
    have htokens : (Formula.join op f g).tokens ++ rest =
        tokensInBrackets f.tokens ++ .keyword op.word :: (tokensInBrackets g.tokens ++ rest) := by
      simp [Formula.tokens]
    have hcost : (Formula.join op f g).cost = max f.cost g.cost + 30 := by
      simp only [Formula.cost, Formula.nesting]
      omega
    have hfirst := (readsTo_bracketed hf (.connective op (tokensInBrackets g.tokens ++ rest))).mono
      (Nat.add_le_add_right (Nat.le_max_left _ g.cost) 15)
    have hsecond := (readsTo_bracketed hg (.closes hrest)).mono
      (Nat.add_le_add_right (Nat.le_max_right f.cost _) 15)
    rw [htokens] at hstarts ⊢
    rw [hcost]
    cases op with
    | and =>
      have hmore := moreDemands_next hsecond (hrest.noWord _) (by omega)
      have hconjunction := (hfirst.mono (by omega)).conjunction hmore
      have hdisjunction := hconjunction.disjunction ((moreAlternatives_stop (hrest.noWord _)).mono (by omega))
      exact (hdisjunction.expression hstarts hrest).mono (by omega)
    | or =>
      have hleft := hfirst.conjunction ((moreDemands_stop rfl).mono (by omega))
      have hright := hsecond.conjunction ((moreDemands_stop (hrest.noWord _)).mono (by omega))
      have hmore := moreAlternatives_next hright (hrest.noWord _) (by omega)
      have hdisjunction := (hleft.mono (by omega)).disjunction hmore
      exact (hdisjunction.expression hstarts hrest).mono (by omega)
  | not f hf =>
    have hread := (readsTo_bracketed hf (.closes hrest)).not
    exact (readsTo_whole hread (by omega) (.not _) hrest).mono (by simp only [Formula.cost, Formula.nesting]; omega)

/-- A text with the tokens of a formula is read to its expression, if it is long enough for its
brackets. -/
theorem parse?_of_tokens {s : List Char} {f : Formula} (h : tokens? s = some f.tokens)
    (hlength : 2 * f.nesting ≤ s.length) : parse? s = some f.expr := by
  have hread := expression_tokens f .nothing (30 * s.length + 30) (by rw [Formula.cost]; omega)
  rw [List.append_nil] at hread
  simp [parse?, h, hread, moreExpressions, sign?, isLineEnds]

end Formulas

end StoryState.Condition
