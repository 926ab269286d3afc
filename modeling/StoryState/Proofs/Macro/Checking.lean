import StoryState.Macro.Resolve
import StoryState.Proofs.State.Storable

/-!
When conditions are checked. A condition has an answer just if it is a text, or false or empty; a text
that fails in whatever way does not hold (`Condition.check_eq_true_iff`). The cases of a variable are
gone through up to the first one that is chosen, so a condition without an answer is met only if its turn
comes (`State.exists_firstCase_iff`). Records may hold conditions of any shape; which of those of a state
read from a record are checked, and what becomes of its cases, is `State.meets_conditions_iff`.
-/

namespace StoryState

/-! ### Conditions -/

namespace Condition

variable {c : Value} {values : Entries Value}

/-- A condition that has an answer: a text, or a value that is false or empty. -/
def HasAnswer (c : Value) : Prop := (∃ t, c = .text t) ∨ c.truthy = false

theorem exists_check_iff : (∃ b, check c values = .ok b) ↔ HasAnswer c := by
  cases c with
  | text t => exact iff_of_true ⟨_, rfl⟩ (.inl ⟨t, rfl⟩)
  | _ => 
    unfold check HasAnswer
    dsimp only
    split
    · rename_i htruthy
      exact iff_of_false (by simp) (by simp [htruthy])
    · rename_i htruthy
      exact iff_of_true ⟨_, rfl⟩ (.inr (by simpa using htruthy))

/-- A condition holds just if it is a text that can be read and whose expression comes to something
true. Everything else that has an answer does not hold. -/
theorem check_eq_true_iff : check c values = .ok true ↔
    ∃ t e o, c = .text t ∧ read t = .ok e ∧ e.eval (namesOf values) = some o ∧ o.truthy = true := by
  cases c with
  | text t =>
    have hholds : holds t values = true ↔
        ∃ e o, read t = .ok e ∧ e.eval (namesOf values) = some o ∧ o.truthy = true := by
      unfold holds
      cases read t with
      | error r => simp
      | ok e => cases h : e.eval (namesOf values) <;> simp [h]
    simpa [check] using hholds
  | _ => 
    unfold check
    dsimp only
    split <;> simp

end Condition

theorem State.exists_meets_iff {s : State} {c : Value} :
    (∃ b, s.meets c = .ok b) ↔ Condition.HasAnswer c := Condition.exists_check_iff

/-! ### Cases -/

namespace Branch

variable {s : State} {b : Branch} {bs : List Branch}

/-- The case is passed over: it has a condition, and that does not hold. -/
def Passed (s : State) (b : Branch) : Prop := ∃ c, b.condition = some c ∧ s.meets c = .ok false

/-- The case is chosen when its turn comes: it has no condition, or one that holds. -/
def Chosen (s : State) (b : Branch) : Prop := ∀ c, b.condition = some c → s.meets c = .ok true

/-- The case cannot be decided: its condition has no answer. -/
def Stuck (s : State) (b : Branch) : Prop := ∃ c e, b.condition = some c ∧ s.meets c = .error e

theorem Passed.not_chosen (h : b.Passed s) : ¬b.Chosen s := by
  obtain ⟨c, hc, hunmet⟩ := h
  intro hchosen
  rw [hchosen c hc] at hunmet
  cases hunmet

theorem Stuck.not_chosen (h : b.Stuck s) : ¬b.Chosen s := by
  obtain ⟨c, e, hc, hmeets⟩ := h
  intro hchosen
  rw [hchosen c hc] at hmeets
  cases hmeets

theorem Stuck.not_passed (h : b.Stuck s) : ¬b.Passed s := by
  obtain ⟨c, e, hc, hmeets⟩ := h
  rintro ⟨d, hd, hunmet⟩
  obtain rfl : c = d := Option.some.inj (hc.symm.trans hd)
  rw [hmeets] at hunmet
  cases hunmet

theorem Stuck.not_hasAnswer (h : b.Stuck s) :
    ¬∀ c, b.condition = some c → Condition.HasAnswer c := by
  obtain ⟨c, e, hc, hmeets⟩ := h
  intro hall
  obtain ⟨met, hmet⟩ := State.exists_meets_iff.2 (hall c hc)
  rw [hmeets] at hmet
  cases hmet

/-- A case is chosen, passed over, or stuck. -/
theorem cases_of (s : State) (b : Branch) : b.Chosen s ∨ b.Passed s ∨ b.Stuck s := by
  obtain ⟨value, condition⟩ := b
  cases condition with
  | none => exact .inl fun c hc => nomatch hc
  | some c =>
    cases hmeets : s.meets c with
    | error e => exact .inr (.inr ⟨c, e, rfl, hmeets⟩)
    | ok met =>
      cases met with
      | true =>
        refine .inl fun d hd => ?_
        rw [← Option.some.inj hd]
        exact hmeets
      | false => exact .inr (.inl ⟨c, rfl, hmeets⟩)

/-- The turn of the case comes: it stands behind cases that are passed over. -/
def ComesUp (s : State) (bs : List Branch) (b : Branch) : Prop :=
  ∃ before behind, bs = before ++ b :: behind ∧ ∀ p ∈ before, p.Passed s

theorem ComesUp.mem (h : b.ComesUp s bs) : b ∈ bs := by
  obtain ⟨before, behind, rfl, -⟩ := h
  simp

theorem comesUp_first (s : State) (b : Branch) (bs : List Branch) : b.ComesUp s (b :: bs) :=
  ⟨[], bs, rfl, by simp⟩

/-- Behind the first case the turn comes only if that is passed over. -/
theorem comesUp_cons_iff {first : Branch} :
    b.ComesUp s (first :: bs) ↔ b = first ∨ first.Passed s ∧ b.ComesUp s bs := by
  constructor
  · rintro ⟨_ | ⟨p, before⟩, behind, heq, hpassed⟩
    · exact .inl (List.cons.inj heq).1.symm
    · obtain ⟨rfl, rfl⟩ := List.cons.inj heq
      rw [List.forall_mem_cons] at hpassed
      exact .inr ⟨hpassed.1, before, behind, rfl, hpassed.2⟩
  · rintro (rfl | ⟨hfirst, before, behind, rfl, hpassed⟩)
    · exact comesUp_first s b bs
    · exact ⟨first :: before, behind, rfl, List.forall_mem_cons.2 ⟨hfirst, hpassed⟩⟩

theorem not_comesUp_nil : ¬b.ComesUp s [] := fun h => nomatch h.mem

end Branch

namespace State

variable {s : State} {fallback v : Value}

theorem firstCase_of_chosen {b : Branch} (h : b.Chosen s) (bs : List Branch) :
    s.firstCase fallback (b :: bs) = .ok b.value := by
  obtain ⟨value, condition⟩ := b
  unfold firstCase
  cases condition with
  | none => rfl
  | some c =>
    dsimp only
    rw [h c rfl]
    rfl

theorem firstCase_of_passed {b : Branch} (h : b.Passed s) (bs : List Branch) :
    s.firstCase fallback (b :: bs) = s.firstCase fallback bs := by
  obtain ⟨c, hc, hmeets⟩ := h
  rw [firstCase, hc]
  dsimp only
  rw [hmeets]
  rfl

theorem firstCase_of_stuck {b : Branch} (h : b.Stuck s) (fallback : Value) (bs : List Branch) :
    ∃ e, s.firstCase fallback (b :: bs) = .error e := by
  obtain ⟨c, e, hc, hmeets⟩ := h
  refine ⟨e, ?_⟩
  rw [firstCase, hc]
  dsimp only
  rw [hmeets]
  rfl

/-- The value of the cases is that of the case that is chosen, or the fallback if all are passed over. -/
theorem firstCase_eq_ok_iff {bs : List Branch} : s.firstCase fallback bs = .ok v ↔
    (v = fallback ∧ ∀ b ∈ bs, b.Passed s) ∨ ∃ b : Branch, b.ComesUp s bs ∧ b.Chosen s ∧ v = b.value := by
  induction bs with
  | nil => simp [firstCase, Branch.not_comesUp_nil, eq_comm]
  | cons b bs ih =>
    simp only [Branch.comesUp_cons_iff, List.forall_mem_cons]
    rcases Branch.cases_of s b with hchosen | hpassed | hstuck
    · have hnot : ¬b.Passed s := fun hpassed => hpassed.not_chosen hchosen
      rw [firstCase_of_chosen hchosen]
      simp [hnot, hchosen, eq_comm]
    · rw [firstCase_of_passed hpassed, ih]
      simp [hpassed.not_chosen, hpassed, or_and_right, exists_or]
    · obtain ⟨e, he⟩ := firstCase_of_stuck hstuck fallback bs
      rw [he]
      simp [hstuck.not_passed, hstuck.not_chosen]

/-- The cases have a value just if each condition whose turn comes has an answer. -/
theorem exists_firstCase_iff {bs : List Branch} : (∃ v, s.firstCase fallback bs = .ok v) ↔
    ∀ b : Branch, b.ComesUp s bs → ∀ c, b.condition = some c → Condition.HasAnswer c := by
  induction bs with
  | nil => exact iff_of_true ⟨fallback, rfl⟩ fun b h => absurd h Branch.not_comesUp_nil
  | cons b bs ih =>
    simp only [Branch.comesUp_cons_iff]
    rcases Branch.cases_of s b with hchosen | hpassed | hstuck
    · rw [firstCase_of_chosen hchosen]
      refine iff_of_true ⟨_, rfl⟩ ?_
      rintro b' (rfl | ⟨hpassed, -⟩) c hc
      · exact exists_meets_iff.1 ⟨true, hchosen c hc⟩
      · exact absurd hchosen hpassed.not_chosen
    · rw [firstCase_of_passed hpassed, ih]
      obtain ⟨d, hd, hunmet⟩ := id hpassed
      constructor
      · rintro hall b' (rfl | ⟨-, hup⟩) c hc
        · obtain rfl : d = c := Option.some.inj (hd.symm.trans hc)
          exact exists_meets_iff.1 ⟨false, hunmet⟩
        · exact hall b' hup c hc
      · exact fun hall b' hup => hall b' (.inr ⟨hpassed, hup⟩)
    · obtain ⟨e, he⟩ := firstCase_of_stuck hstuck fallback bs
      rw [he]
      exact iff_of_false (by simp) fun hall => hstuck.not_hasAnswer (hall b (.inl rfl))

end State

/-! ### Conditions of a state that is read -/

/-- The cases of a variable, in the order in which they are gone through. -/
def Variable.cases (x : Variable) : List Branch := x.branches.getD []

/-- The conditions of a state: those of its hidden variables and of the cases of its variables. -/
def State.conditions (s : State) : List Value :=
  s.hidden.map (·.2.condition) ++ s.vars.flatMap fun e => e.2.cases.filterMap (·.condition)

section Read

variable {v : Value}

/-- Of a case that is read, a condition that is false or empty is dropped. -/
theorem State.truthy_of_ofValue {s : State} (h : State.ofValue v = .ok s) {name : String}
    {x : Variable} (hx : (name, x) ∈ s.vars) {b : Branch} (hb : b ∈ x.cases) {c : Value}
    (hc : b.condition = some c) : c.truthy = true := by
  have hdrawn := (Value.inherited_true.drawn_state trivial h).vars name x hx
  unfold Variable.cases at hb
  cases hbs : x.branches with
  | none =>
    rw [hbs] at hb
    cases hb
  | some bs =>
    rw [hbs] at hb
    exact ((hdrawn.branches bs hbs b hb).condition c hc).2

/-- In a state that is read from a record of any shape, the check of a condition has an answer just if
the condition is a text or is false or empty; it is true for a text that can be read and comes to
something true, and false whatever else is wrong with a text. The cases of a variable have a value just
if every case whose turn comes has no condition or a text, and that is the value of the case that is
chosen, or the fallback. -/
theorem State.meets_conditions_iff {record : Value} {s : State} (h : State.ofValue record = .ok s) :
    (∀ c ∈ s.conditions, ((∃ b, s.meets c = .ok b) ↔ Condition.HasAnswer c) ∧
      (s.meets c = .ok true ↔ ∃ t e o, c = .text t ∧ Condition.read t = .ok e ∧
        e.eval (Condition.namesOf s.values) = some o ∧ o.truthy = true)) ∧
    ∀ name x, (name, x) ∈ s.vars →
      ((∃ w, s.firstCase x.value x.cases = .ok w) ↔
        ∀ b : Branch, b.ComesUp s x.cases → ∀ c, b.condition = some c → ∃ t, c = .text t) ∧
      ∀ w, s.firstCase x.value x.cases = .ok w ↔
        (w = x.value ∧ ∀ b ∈ x.cases, b.Passed s) ∨
          ∃ b : Branch, b.ComesUp s x.cases ∧ b.Chosen s ∧ w = b.value := by
  refine ⟨fun c _ => ⟨State.exists_meets_iff, Condition.check_eq_true_iff⟩,
    fun name x hx => ⟨?_, fun w => State.firstCase_eq_ok_iff⟩⟩
  rw [State.exists_firstCase_iff]
  refine forall₂_congr fun b hup => forall₂_congr fun c hc => ?_
  have htruthy := State.truthy_of_ofValue h hx hup.mem hc
  simp [Condition.HasAnswer, htruthy]

/-- A record with a conditional variable and a hidden variable whose conditions are no texts. -/
def shapelessRecord : Value :=
  .object
    [("variables", .object
      [("x", .object [("type", .text "string"), ("value", .text "a"), ("isConditional", .bool true),
        ("branches", .list [.object [("condition", .bool true), ("value", .text "b")]])])]),
    ("hiddenVariables", .object [("h", .object [("condition", .int 5), ("value", .text "v")])])]

/-- The record can be read, but the checks of its conditions stop, and so does the choice of a case. -/
theorem State.meets_shapelessRecord : ∃ s, State.ofValue shapelessRecord = .ok s ∧
    s.conditions = [.int 5, .bool true] ∧
    s.meets (.int 5) = .error (.noMember "int" "strip") ∧
    s.meets (.bool true) = .error (.noMember "bool" "strip") ∧
    ∃ x, s.vars = [("x", x)] ∧
      s.firstCase x.value x.cases = .error (.noMember "bool" "strip") :=
  ⟨_, rfl, rfl, rfl, rfl, _, rfl, rfl⟩

/-- A record with a case that has a condition and one that has none. -/
def guardedRecord : Value :=
  .object
    [("variables", .object
      [("x", .object [("type", .text "string"), ("value", .text "a"), ("isConditional", .bool true),
        ("branches", .list [.object [("condition", .text "level >"), ("value", .text "b")],
          .object [("condition", .int 0), ("value", .text "c")]])])])]

theorem State.meets_conditions_guardedRecord : ∃ s, State.ofValue guardedRecord = .ok s ∧
    ∃ x, s.vars = [("x", x)] ∧ ∃ w, s.firstCase x.value x.cases = .ok w := by
  refine ⟨_, rfl, _, rfl, ?_⟩
  refine ((State.meets_conditions_iff (show State.ofValue guardedRecord = .ok _ from rfl)).2 _ _ (.head _)).1.2 ?_
  intro b hup c hc
  rcases List.mem_cons.1 hup.mem with rfl | hmem
  · exact ⟨_, (Option.some.inj hc).symm⟩
  · rw [List.mem_singleton.1 hmem] at hc
    cases hc

end Read

end StoryState
