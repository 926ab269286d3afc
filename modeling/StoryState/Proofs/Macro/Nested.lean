import StoryState.Proofs.Macro.Evaluation
import StoryState.Proofs.Text.Segments

/-!
Nested macros. A text of plain letters and well-nested macros (`Nested`) has a value that is found from
the inside out: a macro is replaced by the text of what the value of its body stands for. Rounds of
replacement know nothing of the nests. Each of them replaces the lowest level of every nest
(`Nested.round`), or fails sooner or later where the evaluation fails (`Doomed`); so as many rounds as
the nests are high come to the value (`State.replaceMacros_nested`).
-/

namespace StoryState

open StoryState.Text Macro

/-- The character opens or closes the body of a macro. -/
def isBrace (c : Char) : Bool := c = '\x7b' || c = '\x7d'

/-- The text has no braces. -/
def BraceFree (s : List Char) : Prop := ∀ c ∈ s, isBrace c = false

-- Every other way to decide this goes through all characters there are.
instance (s : List Char) : Decidable (BraceFree s) := List.decidableBAll _ s

theorem BraceFree.append {s t : List Char} (hs : BraceFree s) (ht : BraceFree t) : BraceFree (s ++ t) :=
  fun c hc => (List.mem_append.1 hc).elim (hs c) (ht c)

/-- A text of letters and well-nested macros. -/
inductive Nested where
  | nil
  | plain (letters : { s : List Char // BraceFree s }) (rest : Nested)
  | nest (body rest : Nested)

namespace Nested

/-- The text as it is written. -/
def text : Nested → List Char
  | nil => []
  | plain letters rest => letters ++ rest.text
  | nest body rest => '$' :: '\x7b' :: (body.text ++ '\x7d' :: rest.text)

/-- How deep macros are nested. -/
def height : Nested → Nat
  | nil => 0
  | plain _ rest => rest.height
  | nest body rest => max (body.height + 1) rest.height

/-- The text with every macro replaced by the text of what its body stands for, once the macros in
the body have been replaced. -/
def eval (textFor : List Char → Except Fault (List Char)) : Nested → Except Fault (List Char)
  | nil => .ok []
  | plain letters rest => do return letters ++ (← rest.eval textFor)
  | nest body rest => do
    let replaced ← textFor (← body.eval textFor)
    return replaced ++ (← rest.eval textFor)

/-- No body comes to the empty text when the text is evaluated, and no macro is replaced by a text with
braces. -/
def Clean (textFor : List Char → Except Fault (List Char)) : Nested → Prop
  | nil => True
  | plain _ rest => rest.Clean textFor
  | nest body rest => body.Clean textFor ∧ ∀ name, body.eval textFor = .ok name →
      name ≠ [] ∧ ∀ replaced, textFor name = .ok replaced → BraceFree replaced ∧ rest.Clean textFor

end Nested

/-- The text of what the body of a macro stands for in a state. -/
def State.macroText (s : State) (defaultId : Option String) (body : List Char) :
    Except Fault (List Char) := do
  let value ← (s.resolveMacro defaultId (String.ofList body)).result
  return (← value.format).toList

namespace Macro

/-! ### Where a macro is read -/

/-- A text does not begin with a brace that opens a body. -/
def Unopened (s : List Char) : Prop := s.head? ≠ some '\x7b'

/-- The first brace of the text opens the body of a macro. -/
def Leads (s : List Char) : Prop := ∃ before rest, BraceFree before ∧ s = before ++ '$' :: '\x7b' :: rest

theorem Leads.opened (s : List Char) : Leads ('$' :: '\x7b' :: s) := ⟨[], s, by simp [BraceFree], rfl⟩

theorem Leads.append {before s : List Char} (hbefore : BraceFree before) (h : Leads s) :
    Leads (before ++ s) := by
  obtain ⟨more, rest, hmore, rfl⟩ := h
  exact ⟨before ++ more, rest, hbefore.append hmore, by simp⟩

/-- What is read at the head of a macro is settled at the next brace. -/
theorem macro?_body {s : List Char} (hs : BraceFree s) {c : Char} (hc : isBrace c = true)
    (rest : List Char) :
    macro? ('$' :: '\x7b' :: (s ++ c :: rest)) =
      if s ≠ [] ∧ c = '\x7d' then some (s, rest) else none := by
  have htake : (s ++ c :: rest).takeWhile (fun c => c ≠ '\x7b' && c ≠ '\x7d') = s := by
    rw [List.takeWhile_append_of_pos, List.takeWhile_cons_of_neg, List.append_nil]
    · simpa [isBrace, ← or_iff_not_imp_left] using hc
    · intro d hd
      simpa [isBrace] using hs d hd
  unfold macro?
  simp only [dropLead?, if_true, Option.bind_eq_bind, Option.bind_some, htake, List.drop_left]
  by_cases hnil : s = []
  · simp [hnil]
  · by_cases hclose : c = '\x7d' <;> simp [hnil, hclose]

theorem finds_body {body : List Char} (hne : body ≠ []) (hbody : BraceFree body) :
    Finds macro? ('$' :: '\x7b' :: (body ++ ['\x7d'])) body where
  ne_nil := by simp
  reads rest := by
    have hread := macro?_body hbody (c := '\x7d') rfl rest
    rw [if_pos ⟨hne, rfl⟩] at hread
    simpa using hread

/-- A macro is not read before those in its body have been replaced. -/
theorem macro?_of_leads {s : List Char} (h : Leads s) : macro? ('$' :: '\x7b' :: s) = none := by
  obtain ⟨before, rest, hbefore, rfl⟩ := h
  have hread := macro?_body (hbefore.append (by decide : BraceFree ['$'])) (c := '\x7b') rfl rest
  rw [if_neg (by simp)] at hread
  simpa using hread

theorem macro?_of_unopened {c : Char} {s : List Char} (hs : Unopened s) : macro? (c :: s) = none := by
  have hlead : dropLead? ['$', '\x7b'] (c :: s) = none := by
    cases s with
    | nil => simp [dropLead?]
    | cons d s =>
      have hd : '\x7b' ≠ d := by
        rintro rfl
        exact hs rfl
      simp [dropLead?, hd]
  simp [macro?, hlead]

theorem macro?_of_ne {c : Char} (hc : c ≠ '$') (s : List Char) : macro? (c :: s) = none := by
  simp [macro?, dropLead?, Ne.symm hc]

/-! ### Rounds without a state -/

section Pass

variable {textFor : List Char → Except Fault (List Char)} {s t : List Char}

/-- One round of replacement. -/
def pass (textFor : List Char → Except Fault (List Char)) (s : List Char) : Except Fault (List Char) :=
  substituteM macro? (fun _ => textFor) s

/-- So many rounds of replacement. -/
def passes (textFor : List Char → Except Fault (List Char)) : Nat → List Char → Except Fault (List Char)
  | 0, s => .ok s
  | n + 1, s => pass textFor s >>= passes textFor n

theorem pass_plain {c : Char} (h : macro? (c :: s) = none) :
    pass textFor (c :: s) = (pass textFor s).map (c :: ·) := by
  unfold pass substituteM
  rw [segments_cons h, List.mapM_cons]
  cases (segments macro? s).mapM (m := Except Fault) _ <;> rfl

theorem pass_body {body : List Char} (hne : body ≠ []) (hbody : BraceFree body) (rest : List Char) :
    pass textFor ('$' :: '\x7b' :: (body ++ '\x7d' :: rest)) = do
      let replaced ← textFor body
      return replaced ++ (← pass textFor rest) := by
  have hcut : '$' :: '\x7b' :: (body ++ '\x7d' :: rest) =
      '$' :: '\x7b' :: (body ++ ['\x7d']) ++ rest := by simp
  unfold pass substituteM
  rw [hcut, segments_found (finds_body hne hbody), List.mapM_cons]
  dsimp only
  cases textFor body <;> cases (segments macro? rest).mapM (m := Except Fault) _ <;> rfl

theorem pass_letters (hs : BraceFree s) (ht : Unopened t) :
    pass textFor (s ++ t) = (pass textFor t).map (s ++ ·) := by
  induction s with
  | nil =>
    rw [List.nil_append]
    cases pass textFor t <;> rfl
  | cons c s ih =>
    have hnext : Unopened (s ++ t) := by
      cases s with
      | nil => exact ht
      | cons d s =>
        rintro ⟨rfl⟩
        exact absurd (hs '\x7b' (by simp)) (by simp [isBrace])
    rw [List.cons_append, pass_plain (macro?_of_unopened hnext), ih fun d hd => hs d (by simp [hd])]
    cases pass textFor t <;> rfl

/-- A macro with macros in its body waits for them. -/
theorem pass_opened (h : Leads s) :
    pass textFor ('$' :: '\x7b' :: s) = (pass textFor s).map ('$' :: '\x7b' :: ·) := by
  rw [pass_plain (macro?_of_leads h), pass_plain (macro?_of_ne (by decide) s)]
  cases pass textFor s <;> rfl

theorem pass_of_no_hits (h : (hits macro? s).isEmpty = true) : pass textFor s = .ok s := by
  induction s with
  | nil => rfl
  | cons c s ih =>
    cases hread : macro? (c :: s) with
    | some found => simp [hits, segments, segmentsFrom, hread] at h
    | none =>
      rw [hits, segments_cons hread] at h
      rw [pass_plain hread, ih h]
      rfl

theorem passes_of_no_hits (h : (hits macro? s).isEmpty = true) (n : Nat) :
    passes textFor n s = .ok s := by
  induction n with
  | zero => rfl
  | succ n ih =>
    rw [passes, pass_of_no_hits h]
    exact ih

end Pass

/-! ### One round -/

section Round

variable {textFor : List Char → Except Fault (List Char)}

theorem unopened_text (t : Nested) {rest : List Char} (hrest : Unopened rest) :
    Unopened (t.text ++ rest) := by
  induction t with
  | nil => exact hrest
  | plain letters t ih =>
    obtain ⟨_ | ⟨c, s⟩, hfree⟩ := letters
    · exact ih
    · rintro ⟨rfl⟩
      exact absurd (hfree '\x7b' (by simp)) (by simp [isBrace])
  | nest => simp [Unopened, Nested.text]

theorem leads_text {t : Nested} (h : t.height ≠ 0) (rest : List Char) : Leads (t.text ++ rest) := by
  induction t with
  | nil => exact absurd rfl h
  | plain letters t ih =>
    rw [Nested.text, List.append_assoc]
    exact (ih h).append letters.2
  | nest => exact .opened _

/-- A text without macros is its own value. -/
theorem eval_of_height_eq_zero (textFor : List Char → Except Fault (List Char)) {t : Nested}
    (h : t.height = 0) :
    BraceFree t.text ∧ t.eval textFor = .ok t.text := by
  induction t with
  | nil => exact ⟨by simp [BraceFree, Nested.text], rfl⟩
  | plain letters t ih =>
    obtain ⟨hfree, heval⟩ := ih h
    refine ⟨letters.2.append hfree, ?_⟩
    rw [Nested.eval, heval]
    rfl
  | nest => simp [Nested.height] at h

theorem eval_plain {letters : { s : List Char // BraceFree s }} {t : Nested} {out : List Char}
    (h : (Nested.plain letters t).eval textFor = .ok out) :
    ∃ behind, t.eval textFor = .ok behind ∧ out = letters ++ behind := by
  obtain ⟨behind, hbehind, hout⟩ := exists_of_bind_ok h
  exact ⟨behind, hbehind, (Except.ok.inj hout).symm⟩

theorem eval_nest {body t : Nested} {out : List Char}
    (h : (Nested.nest body t).eval textFor = .ok out) :
    ∃ name replaced behind, body.eval textFor = .ok name ∧ textFor name = .ok replaced ∧
      t.eval textFor = .ok behind ∧ out = replaced ++ behind := by
  obtain ⟨name, hname, h⟩ := exists_of_bind_ok h
  obtain ⟨replaced, hreplaced, h⟩ := exists_of_bind_ok h
  obtain ⟨behind, hbehind, hout⟩ := exists_of_bind_ok h
  exact ⟨name, replaced, behind, hname, hreplaced, hbehind, (Except.ok.inj hout).symm⟩

theorem clean_nest {body t : Nested} {name replaced : List Char} (hbody : body.Clean textFor)
    (hname : body.eval textFor = .ok name) (hne : name ≠ []) (hreplaced : textFor name = .ok replaced)
    (hfree : BraceFree replaced) (hclean : t.Clean textFor) : (Nested.nest body t).Clean textFor := by
  refine ⟨hbody, fun name' hname' => ?_⟩
  obtain rfl := Except.ok.inj (hname.symm.trans hname')
  refine ⟨hne, fun replaced' hreplaced' => ?_⟩
  obtain rfl := Except.ok.inj (hreplaced.symm.trans hreplaced')
  exact ⟨hfree, hclean⟩

/-- The text `t'` is what a round leaves of `t`, wherever it stands. -/
structure Round (textFor : List Char → Except Fault (List Char)) (t t' : Nested) : Prop where
  height : t'.height = t.height - 1
  clean : t'.Clean textFor
  eval : t'.eval textFor = t.eval textFor
  pass : ∀ rest, Unopened rest →
    pass textFor (t.text ++ rest) = (pass textFor rest).map (t'.text ++ ·)

/-- Of a text that has a value a round replaces the lowest level of every nest. -/
theorem exists_round {t : Nested} (hclean : t.Clean textFor) {out : List Char}
    (heval : t.eval textFor = .ok out) : ∃ t', Round textFor t t' := by
  induction t generalizing out with
  | nil =>
    refine ⟨.nil, rfl, trivial, rfl, fun rest _ => ?_⟩
    rw [Nested.text, List.nil_append]
    cases Macro.pass textFor rest <;> rfl
  | plain letters t ih =>
    obtain ⟨behind, hbehind, -⟩ := eval_plain heval
    obtain ⟨t', hround⟩ := ih hclean hbehind
    refine ⟨.plain letters t', hround.height, hround.clean, ?_, fun rest hrest => ?_⟩
    · rw [Nested.eval, Nested.eval, hround.eval]
    · rw [Nested.text, List.append_assoc, pass_letters letters.2 (unopened_text t hrest),
        hround.pass rest hrest]
      cases Macro.pass textFor rest <;> simp [Except.map, Nested.text]
  | nest body t ihbody ih =>
    obtain ⟨name, replaced, behind, hname, hreplaced, hbehind, -⟩ := eval_nest heval
    obtain ⟨hbody, hclean⟩ := hclean
    obtain ⟨hne, hclean⟩ := hclean name hname
    obtain ⟨hfree, hclean⟩ := hclean replaced hreplaced
    obtain ⟨t', hround⟩ := ih hclean hbehind
    have htext (rest : List Char) : (Nested.nest body t).text ++ rest =
        '$' :: '\x7b' :: (body.text ++ '\x7d' :: (t.text ++ rest)) := by simp [Nested.text]
    by_cases hzero : body.height = 0
    · obtain ⟨hbodyFree, hself⟩ := eval_of_height_eq_zero textFor hzero
      obtain rfl : body.text = name := Except.ok.inj (hself.symm.trans hname)
      refine ⟨.plain ⟨replaced, hfree⟩ t', ?_, hround.clean, ?_, fun rest hrest => ?_⟩
      · simp only [Nested.height, hround.height, hzero]
        omega
      · rw [Nested.eval, Nested.eval, hround.eval, hname]
        show _ = textFor body.text >>= _
        rw [hreplaced]
        rfl
      · rw [htext, pass_body hne hbodyFree, hreplaced, hround.pass rest hrest, Nested.text]
        cases Macro.pass textFor rest with
        | error e => rfl
        | ok _ => exact congrArg Except.ok (List.append_assoc ..).symm
    · obtain ⟨body', hlower⟩ := ihbody hbody hname
      have hname' := hlower.eval.trans hname
      refine ⟨.nest body' t', ?_, clean_nest hlower.clean hname' hne hreplaced hfree hround.clean, ?_,
        fun rest hrest => ?_⟩
      · simp only [Nested.height, hround.height, hlower.height]
        omega
      · simp [Nested.eval, hround.eval, hlower.eval]
      · rw [htext, pass_opened (leads_text hzero _), hlower.pass _ (by simp [Unopened]),
          pass_plain (macro?_of_ne (by decide) _), hround.pass rest hrest]
        cases Macro.pass textFor rest <;> simp [Except.map, Nested.text]

/-- As many rounds as the nests are high come to the value of a text. -/
theorem passes_eq_eval {t : Nested} (hclean : t.Clean textFor) {out : List Char}
    (heval : t.eval textFor = .ok out) {n : Nat} (hheight : t.height ≤ n) :
    passes textFor n t.text = .ok out := by
  induction n generalizing t with
  | zero =>
    have hself := (eval_of_height_eq_zero textFor (Nat.le_zero.1 hheight)).2
    exact hself.symm.trans heval
  | succ n ih =>
    obtain ⟨t', hround⟩ := exists_round hclean heval
    have hpass : pass textFor t.text = .ok t'.text := by
      have hend : pass textFor [] = .ok [] := rfl
      have hpass := hround.pass [] (by simp [Unopened])
      rw [hend, List.append_nil] at hpass
      exact hpass.trans (congrArg Except.ok (List.append_nil _))
    rw [passes, hpass]
    exact ih hround.clean (hround.eval.trans heval) (by rw [hround.height]; omega)

end Round

/-! ### Where the evaluation fails -/

section Doomed

variable {textFor : List Char → Except Fault (List Char)} {n : Nat} {s : List Char}

/-- Within `n` rounds a macro of the text cannot be replaced. What follows it may be anything. -/
inductive Doomed (textFor : List Char → Except Fault (List Char)) (n : Nat) : List Char → Prop
  | fails {body : Nested} {name : List Char} {fault : Fault} (clean : body.Clean textFor)
    (eval : body.eval textFor = .ok name) (ne : name ≠ []) (refused : textFor name = .error fault)
    (height : body.height < n) (rest : List Char) :
    Doomed textFor n ('$' :: '\x7b' :: (body.text ++ '\x7d' :: rest))
  | inside {s : List Char} : Doomed textFor n s → Doomed textFor n ('$' :: '\x7b' :: s)
  | behind {s : List Char} {t : Nested} {out : List Char} (clean : t.Clean textFor)
    (eval : t.eval textFor = .ok out) : Doomed textFor n s → Doomed textFor n (t.text ++ s)

theorem Doomed.mono {m : Nat} (h : Doomed textFor n s) (hnm : n ≤ m) : Doomed textFor m s := by
  induction h with
  | fails clean eval ne refused height rest =>
    exact .fails clean eval ne refused (height.trans_le hnm) rest
  | inside _ ih => exact .inside ih
  | behind clean eval _ ih => exact .behind clean eval ih

theorem Doomed.unopened (h : Doomed textFor n s) : Unopened s := by
  induction h with
  | fails | inside => simp [Unopened]
  | behind _ _ _ ih => exact unopened_text _ ih

theorem Doomed.leads (h : Doomed textFor n s) : Leads s := by
  induction h with
  | fails | inside => exact .opened _
  | @behind _ t _ _ _ _ ih =>
    by_cases hzero : t.height = 0
    · exact ih.append (eval_of_height_eq_zero textFor hzero).1
    · exact leads_text hzero _

/-- A round fails there, or leaves a text that is doomed to fail a round earlier. -/
theorem Doomed.round (h : Doomed textFor (n + 1) s) {s' : List Char}
    (hpass : pass textFor s = .ok s') : Doomed textFor n s' := by
  induction h generalizing s' with
  | @fails body name _ clean eval ne refused height rest =>
    by_cases hzero : body.height = 0
    · obtain ⟨hfree, hself⟩ := eval_of_height_eq_zero textFor hzero
      obtain rfl : body.text = name := Except.ok.inj (hself.symm.trans eval)
      rw [pass_body ne hfree, refused] at hpass
      cases hpass
    · obtain ⟨body', hlower⟩ := exists_round clean eval
      rw [pass_opened (leads_text hzero _), hlower.pass _ (by simp [Unopened]),
        pass_plain (macro?_of_ne (by decide) _)] at hpass
      cases hrest : pass textFor rest with
      | error e =>
        rw [hrest] at hpass
        cases hpass
      | ok rest' =>
        rw [hrest] at hpass
        cases hpass
        refine .fails hlower.clean (hlower.eval.trans eval) ne refused ?_ rest'
        rw [hlower.height]
        omega
  | @inside s hdoomed ih =>
    rw [pass_opened hdoomed.leads] at hpass
    cases hs : pass textFor s with
    | error e =>
      rw [hs] at hpass
      cases hpass
    | ok s' =>
      rw [hs] at hpass
      cases hpass
      exact .inside (ih hs)
  | @behind s t _ clean eval hdoomed ih =>
    obtain ⟨t', hround⟩ := exists_round clean eval
    rw [hround.pass s hdoomed.unopened] at hpass
    cases hs : pass textFor s with
    | error e =>
      rw [hs] at hpass
      cases hpass
    | ok s' =>
      rw [hs] at hpass
      cases hpass
      exact .behind hround.clean (hround.eval.trans eval) (ih hs)

theorem Doomed.ne_zero (h : Doomed textFor n s) : n ≠ 0 := by
  induction h with
  | fails clean eval ne refused height rest => omega
  | inside _ ih | behind _ _ _ ih => exact ih

theorem Doomed.passes (h : Doomed textFor n s) : ∃ fault, passes textFor n s = .error fault := by
  induction n generalizing s with
  | zero => exact absurd rfl h.ne_zero
  | succ n ih =>
    rw [Macro.passes]
    cases hpass : pass textFor s with
    | error fault => exact ⟨fault, rfl⟩
    | ok s' => exact ih (h.round hpass)

/-- A text whose evaluation fails is doomed, whatever follows it. -/
theorem doomed_of_eval {t : Nested} (hclean : t.Clean textFor) {fault : Fault}
    (heval : t.eval textFor = .error fault) (rest : List Char) :
    Doomed textFor t.height (t.text ++ rest) := by
  induction t generalizing fault rest with
  | nil => cases heval
  | plain letters t ih =>
    cases ht : t.eval textFor with
    | ok behind =>
      rw [Nested.eval, ht] at heval
      cases heval
    | error fault =>
      have hletters : (Nested.plain letters .nil).eval textFor = .ok (letters.1 ++ []) := rfl
      have hbefore : (Nested.plain letters .nil).Clean textFor := trivial
      simpa [Nested.text, Nested.height] using Doomed.behind hbefore hletters (ih hclean ht rest)
  | nest body t ihbody ih =>
    obtain ⟨hbody, hclean⟩ := hclean
    have htext : (Nested.nest body t).text ++ rest =
        '$' :: '\x7b' :: (body.text ++ '\x7d' :: (t.text ++ rest)) := by simp [Nested.text]
    rw [htext, Nested.height]
    cases hname : body.eval textFor with
    | error fault => exact .inside ((ihbody hbody hname _).mono (by omega))
    | ok name =>
      obtain ⟨hne, hclean⟩ := hclean name hname
      cases hreplaced : textFor name with
      | error fault => exact .fails hbody hname hne hreplaced (by omega) _
      | ok replaced =>
        obtain ⟨hfree, hclean⟩ := hclean replaced hreplaced
        cases ht : t.eval textFor with
        | ok behind =>
          rw [Nested.eval, hname] at heval
          replace heval : (textFor name >>= _) = _ := heval
          rw [hreplaced] at heval
          replace heval : (t.eval textFor >>= _) = _ := heval
          rw [ht] at heval
          cases heval
        | error fault =>
          -- The macro before what fails has a value, which is left behind in its place.
          have hnest : (Nested.nest body .nil).eval textFor = .ok (replaced ++ []) := by
            rw [Nested.eval, hname]
            show textFor name >>= _ = _
            rw [hreplaced]
            rfl
          have hbefore : (Nested.nest body .nil).Clean textFor :=
            clean_nest hbody hname hne hreplaced hfree trivial
          have hdoomed := Doomed.behind hbefore hnest (ih hclean ht rest)
          simpa [Nested.text] using hdoomed.mono (by omega)

end Doomed

/-! ### Rounds in a state -/

section Rounds

variable {s : State} {defaultId : Option String}

/-- What takes the place of a segment of a text. -/
def pieceOf {α : Type} (g : α → Except Fault (List Char)) : Segment α → Except Fault (List Char)
  | .plain c => pure [c]
  | .hit _ a => g a

/-- When a match is replaced without a change of the state, so is the text. -/
theorem run_substituteM {σ α : Type} {scan : Scanner α} {f : α → StepM σ (List Char)}
    {g : α → Except Fault (List Char)} {r : σ} (h : ∀ a, (f a).run r = (g a, r)) (s : List Char) :
    (substituteM scan (fun _ => f) s).run r = (substituteM scan (fun _ => g) s, r) := by
  unfold substituteM
  rw [run_bind, run_mapM (g := pieceOf g) (fun segment => by
      cases segment with
      | plain c => rfl
      | hit raw a => exact h a)]
  show _ = ((segments scan s).mapM (pieceOf g) >>= fun pieces => pure pieces.flatten, r)
  cases (segments scan s).mapM (pieceOf g) <;> rfl

/-- Without a hidden variable that expires nothing happens to a state that is read. -/
theorem gives_resolve_of_lasting {r : Reading}
    (lasting : ∀ e ∈ r.state.hidden, e.2.hasExpiration = false) (body : List Char) :
    Gives (resolve defaultId body) r fun _ r' => r' = r := by
  cases found : hiddenOf? r.state body with
  | none => exact gives_resolve_other found
  | some h =>
    have hlasts := lasting _ (Entries.mem_of_get? (get?_of_hiddenOf? found))
    refine gives_resolve_hidden found (gives_mono (sight_seeHidden _ h r) fun result r' hsight => ?_)
    cases hsight with
    | last expires =>
      rw [hlasts] at expires
      cases expires
    | _ => rfl

theorem run_replacement_of_lasting (lasting : ∀ e ∈ s.hidden, e.2.hasExpiration = false)
    (defaultId : Option String) (body : List Char) :
    (replacement defaultId body).run { state := s } = (s.macroText defaultId body, { state := s }) := by
  have hstate : ((resolve defaultId body).run { state := s }).2 = { state := s } :=
    gives_resolve_of_lasting lasting body
  have hresult : (s.resolveMacro defaultId (String.ofList body)).result =
      ((resolve defaultId body).run { state := s }).1 := by
    unfold State.resolveMacro State.see
    rw [String.toList_ofList]
    rfl
  unfold replacement State.macroText
  rw [run_bind, hstate, hresult]
  cases ((resolve defaultId body).run { state := s }).1 with
  | error e => rfl
  | ok value =>
    show ((liftM value.format >>= fun text => pure text.toList : ReadM _).run _) =
      (value.format >>= fun text => pure text.toList, _)
    rw [run_bind]
    cases value.format <;> rfl

theorem run_rounds {textFor : List Char → Except Fault (List Char)} {r : Reading}
    (h : ∀ body, (replacement defaultId body).run r = (textFor body, r)) (n : Nat) (s : List Char) :
    (rounds defaultId n s).run r = (passes textFor n s, r) := by
  induction n generalizing s with
  | zero => rfl
  | succ n ih =>
    unfold rounds
    split
    · rename_i hnone
      rw [passes_of_no_hits hnone]
      rfl
    · rw [run_bind, run_substituteM h, passes, pass]
      cases substituteM (m := Except Fault) macro? (fun _ => textFor) s with
      | error e => rfl
      | ok s' => exact ih s'

end Rounds

end Macro

/-- In a state whose hidden variables do not expire, replacing the macros of a text of well-nested macros
in as many rounds as the nests are high gives the value of the text, and fails just if the evaluation
fails. Which fault comes first depends on the order. -/
theorem State.replaceMacros_nested {s : State} (lasting : ∀ e ∈ s.hidden, e.2.hasExpiration = false)
    (defaultId : Option String) {t : Nested} (clean : t.Clean (s.macroText defaultId)) {depth : Nat}
    (height : t.height ≤ depth) :
    (s.replaceMacros defaultId (String.ofList t.text) depth).result.toOption =
      (t.eval (s.macroText defaultId)).toOption.map String.ofList := by
  have hrun := run_rounds (run_replacement_of_lasting lasting defaultId) depth t.text
  have hresult : (s.replaceMacros defaultId (String.ofList t.text) depth).result =
      (passes (s.macroText defaultId) depth t.text).map String.ofList := by
    unfold replaceMacros see
    rw [String.toList_ofList, run_bind, hrun]
    cases passes (s.macroText defaultId) depth t.text <;> rfl
  rw [hresult]
  cases heval : t.eval (s.macroText defaultId) with
  | ok out =>
    rw [passes_eq_eval clean heval height]
    rfl
  | error fault =>
    have hdoomed := doomed_of_eval clean heval []
    rw [List.append_nil] at hdoomed
    obtain ⟨fault', hfails⟩ := (hdoomed.mono height).passes
    rw [hfails]
    rfl

/-- Variables that name each other. -/
def pointing : State where
  vars :=
    [("level", ⟨.text "number", .int 3, false, none⟩), ("kind", ⟨.text "string", .text "evel", false, none⟩),
      ("other", ⟨.text "string", .text "kind", false, none⟩)]

/-- The text `a${l${kind}}b${${other}}`. -/
def pointingText : Nested :=
  .plain ⟨['a'], by decide⟩ <|
    .nest (.plain ⟨['l'], by decide⟩ (.nest (.plain ⟨"kind".toList, by decide⟩ .nil) .nil)) <|
      .plain ⟨['b'], by decide⟩ (.nest (.nest (.plain ⟨"other".toList, by decide⟩ .nil) .nil) .nil)

theorem clean_pointingText : pointingText.Clean (pointing.macroText none) := by
  have hlevel : pointing.macroText none "level".toList = .ok "3".toList := by decide +kernel
  have hkind : pointing.macroText none "kind".toList = .ok "evel".toList := by decide +kernel
  have hother : pointing.macroText none "other".toList = .ok "kind".toList := by decide +kernel
  unfold pointingText
  refine clean_nest ?_ (by decide +kernel) (by decide) hlevel (by decide) ?_
  · exact clean_nest trivial rfl (by decide) hkind (by decide) trivial
  · refine clean_nest ?_ (by decide +kernel) (by decide) hkind (by decide) trivial
    exact clean_nest trivial rfl (by decide) hother (by decide) trivial

theorem replaceMacros_nested_pointing :
    pointingText.Clean (pointing.macroText none) ∧ pointingText.height ≤ 2 ∧
      (pointing.replaceMacros none "a${l${kind}}b${${other}}" 2).result.toOption = some "a3bevel" := by
  have hheight : pointingText.height ≤ 2 := by decide
  have hnested := pointing.replaceMacros_nested (by decide) none clean_pointingText hheight
  have hvalue : pointingText.eval (pointing.macroText none) = .ok "a3bevel".toList := by decide +kernel
  refine ⟨clean_pointingText, hheight, ?_⟩
  rw [hvalue] at hnested
  exact hnested

end StoryState
