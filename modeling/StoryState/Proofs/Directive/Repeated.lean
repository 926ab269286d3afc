import StoryState.Proofs.Directive.Range
import StoryState.Proofs.Text.Blank
import StoryState.Proofs.Text.Pieces

/-!
Plain assignments carried out twice. An assignment reads its literal by the kind of the variable, if it
is declared, and else by the kind that the literal suggests, and registers it (`Batch.Assigned`). So the
second time the literal is read in the other way if the first time has registered the variable, and
changes nothing just if the two ways agree (`Batch.Settled`): not for a spelling of true other than the
word, nor for the to-do list, whose template the second reading leaves out.
-/

namespace StoryState

open StoryState.Text

/-! ### Contents that are one assignment -/

namespace Batch

/-- No sign of an assignment is at the head of a text whose equals sign stands behind something else
than a plus or minus. -/
theorem assignOp?_append {q d : List Char} (ne_nil : q ≠ []) (sign : '=' ∉ q)
    (plain : ∀ c, q.getLast? = some c → c ≠ '+' ∧ c ≠ '-') : assignOp? (q ++ '=' :: d) = none := by
  match q with
  | [] => exact absurd rfl ne_nil
  | [c] =>
    obtain ⟨hplus, hminus⟩ := plain c rfl
    have hc : c ≠ '=' := fun hc => sign (by simp [hc])
    simp [assignOp?, hplus, hminus, hc]
  | c :: c' :: q =>
    have hc : c ≠ '=' := fun hc => sign (by simp [hc])
    have hc' : c' ≠ '=' := fun hc' => sign (by simp [hc'])
    simp [assignOp?, hc, hc']

/-- The statement of a text with an equals sign in it, behind the name at its head. -/
theorem ofText?_head {c : Char} (hstart : isAsciiNameStart c = true) (r d : List Char) :
    Statement.ofText? (c :: r ++ '=' :: d) =
      (assignOp? (skipBlanks (r.dropWhile isWord) ++ '=' :: d)).map fun (op, rest) =>
        .assign (String.ofList (c :: r.takeWhile isWord)) op (String.ofList (strip rest)) := by
  have hword : isWord '=' = false := by decide
  have hne : ∀ q : List Char, ∀ e ≠ '=', q ++ '=' :: d ≠ [e, e] := by
    intro q e he heq
    have hmem : '=' ∈ [e, e] := heq ▸ by simp
    simp [Ne.symm he] at hmem
  rw [List.cons_append, Statement.ofText?, if_pos hstart, takeWhile_append_mark hword,
    dropWhile_append_mark hword, skipBlanks_append_mark (by decide)]
  dsimp only
  rw [if_neg (hne _ '+' (by decide)), if_neg (hne _ '-' (by decide))]

/-- A name with nothing but blanks behind it. -/
theorem dropTrailingBlanks_name {c : Char} {r : List Char} (hstart : isAsciiNameStart c = true)
    (hrest : skipBlanks (r.dropWhile isWord) = []) :
    dropTrailingBlanks (c :: r) = c :: r.takeWhile isWord := by
  have hgap : ∀ d ∈ r.dropWhile isWord, isBlank d = true := by simpa [skipBlanks] using hrest
  have hsolid : ∀ d ∈ c :: r.takeWhile isWord, isBlank d = false := by
    rw [List.forall_mem_cons]
    refine ⟨isBlank_of_isAsciiNameStart hstart, fun d hd => ?_⟩
    by_contra hblank
    have hword : isWord d = true := List.mem_takeWhile_imp hd
    rw [Directive.isWord_of_isBlank (by simpa using hblank)] at hword
    cases hword
  calc dropTrailingBlanks (c :: r)
      = dropTrailingBlanks ((c :: r.takeWhile isWord) ++ r.dropWhile isWord) := by
        rw [List.cons_append, List.takeWhile_append_dropWhile]
    _ = c :: r.takeWhile isWord := by
        rw [dropTrailingBlanks_append_blanks hgap, dropTrailingBlanks_eq_self hsolid]

/-- A content whose first equals sign is no part of another sign is a plain assignment of what stands
behind the sign to the name before it, or no statement at all. -/
theorem ofText?_assignment {raw : List Char} (sign : '=' ∉ raw)
    (plain : ∀ c, raw.getLast? = some c → c ≠ '+' ∧ c ≠ '-') (text : List Char) :
    Statement.ofText? (strip (raw ++ '=' :: text)) = none ∨
      Statement.ofText? (strip (raw ++ '=' :: text)) =
        some (.assign (String.ofList (strip raw)) .set (String.ofList (strip text))) := by
  have hequals : isBlank '=' = false := by decide
  have hsuffix : skipBlanks raw <:+ raw := List.dropWhile_suffix _
  rw [strip_append_mark hequals, strip]
  cases hhead : skipBlanks raw with
  | nil => exact .inl (by simp [Statement.ofText?, isAsciiNameStart])
  | cons c r =>
    rw [hhead] at hsuffix
    cases hstart : isAsciiNameStart c with
    | false => exact .inl (by simp [Statement.ofText?, hstart])
    | true =>
      rw [ofText?_head hstart]
      cases hrest : skipBlanks (r.dropWhile isWord) with
      | nil =>
        rw [dropTrailingBlanks_name hstart hrest]
        exact .inr (by simp [assignOp?, strip_dropTrailingBlanks])
      | cons e q =>
        -- something stands between the name and the sign
        obtain ⟨front, hraw⟩ : e :: q <:+ raw := by
          rw [← hrest]
          exact (List.dropWhile_suffix _).trans ((List.dropWhile_suffix _).trans
            ((List.suffix_cons c r).trans hsuffix))
        rw [← hraw] at sign plain
        refine .inl ?_
        rw [assignOp?_append (by simp) (fun h => sign (by simp [h])) (by simpa using plain)]
        rfl

/-! ### What a plain assignment does -/

/-- From a batch the step goes through to a state. -/
def Leads (m : BatchM Unit) (b : Batch) (t : State) : Prop := Gives m b fun r b' => r = .ok () ∧ b'.state = t

/-- What a plain assignment makes of a state: a variable that is declared takes the literal by its kind,
if its old value can be shown in the log; another one is registered by the kind that the literal suggests,
if it can be read. -/
def Assigned (name literal : String) (s t : State) : Prop :=
  match Entries.get? name s.vars with
  | some x => ∃ v, Value.ofLiteral x.kind? (.text literal) = .ok v ∧ x.value.isWritable = true ∧
      { s with vars := s.vars.put name { x with value := v } } = t
  | none =>
    match undeclared name literal with
    | .ok (k, v) => { s with vars := s.vars.put name { declared := .text k.name, value := v } } = t
    | .error _ => s = t

section Leads

variable {α : Type} {b : Batch} {t : State} {name literal : String}

theorem leads_log {line : String} : Leads (log line) b t ↔ b.state = t := and_iff_right rfl

theorem leads_lift {r : Except Fault α} {f : α → BatchM Unit} :
    Leads (liftM r >>= f) b t ↔ ∃ a, r = .ok a ∧ Leads (f a) b t := by
  unfold Leads
  rw [gives_lift_bind]
  cases r <;> simp

/-- A line that shows a value. -/
theorem leads_show {v : Value} {f : String → BatchM Unit} {p : Prop}
    (hf : ∀ text, Leads (f text) b t ↔ p) :
    Leads (liftM v.format >>= f) b t ↔ v.isWritable = true ∧ p := by
  rw [leads_lift, ← Value.isOk_format, isOk_iff]
  simp [hf]

theorem leads_declared {x : Variable} (found : Entries.get? name b.state.vars = some x)
    (line : String → String → String) :
    Leads (do
      let new ← Value.ofLiteral x.kind? (.text literal)
      putVariable name { x with value := new }
      log (line (← x.value.format) (← new.format))) b t ↔ Assigned name literal b.state t := by
  have hnew : ∀ v : Value, Value.ofLiteral x.kind? (.text literal) = .ok v → v.isWritable = true :=
    fun v h => Value.inherited_isWritable.of_ofLiteral rfl h
  rw [leads_lift, Assigned, found]
  refine exists_congr fun v => and_congr_right fun hv => ?_
  rw [Leads, gives_bind]
  refine (leads_show fun _ => leads_show fun _ => leads_log).trans ?_
  rw [and_iff_right (hnew v hv)]
  exact Iff.rfl

theorem leads_absent (absent : Entries.get? name b.state.vars = none) (line : String → String) :
    Leads (do
      if let some x ← autoRegister name literal then
        log (line (← x.declared.display))) b t ↔ Assigned name literal b.state t := by
  unfold autoRegister Assigned
  rw [absent]
  cases undeclared name literal with
  | error e => exact leads_log
  | ok found => exact leads_log

theorem leads_setVariable (undotted : '.' ∉ name.toList) :
    Leads (setVariable name literal) b t ↔ Assigned name literal b.state t := by
  unfold setVariable
  rw [if_neg (by simpa using undotted), Leads, gives_bind, gives_findVariable]
  dsimp only
  cases found : Entries.get? name b.state.vars with
  | some x => exact leads_declared found _
  | none => exact leads_absent found _

theorem leads_assign (source : String) :
    Leads (assign source name .set literal) b t ↔ Assigned name literal b.state t := by
  unfold assign
  rw [Leads, gives_bind, gives_findVariable]
  dsimp only
  cases found : Entries.get? name b.state.vars with
  | some x => exact leads_declared found _
  | none => exact leads_absent found _

theorem leads_singleton {act : α → BatchM Unit} {a : α} : Leads ([a].forM act) b t ↔ Leads (act a) b t := by
  show Leads (act a >>= fun _ => pure ()) b t ↔ _
  unfold Leads Gives
  rw [run_bind]
  cases ((act a).run b).1 <;> rfl

end Leads

end Batch

/-! ### Plain assignments -/

/-- A change is a plain assignment of a literal to a name: the attributes are these, and the name has no
dot, or they stand before and behind the first equals sign of the content, which is no part of another
sign. -/
inductive Change.Assigns : String → String → Change → Prop
  | setVariable {name literal : String} (undotted : '.' ∉ name.toList) :
    Assigns name literal (.setVariable name literal)
  | assign {raw text : List Char} (parts : ';' ∉ raw ++ text) (sign : '=' ∉ raw)
    (plain : ∀ c, raw.getLast? = some c → c ≠ '+' ∧ c ≠ '-') :
    Assigns (String.ofList (strip raw)) (String.ofList (strip text))
      (.assign (String.ofList (raw ++ '=' :: text)))

/-- A plain assignment does what assignments do, or nothing: a content whose name is none is no
statement. -/
theorem Change.Assigns.leads {name literal : String} {c : Change} (h : c.Assigns name literal) :
    (∀ b t, Batch.Leads (Batch.perform c) b t ↔ Batch.Assigned name literal b.state t) ∨
      ∀ b t, Batch.Leads (Batch.perform c) b t ↔ b.state = t := by
  cases h with
  | setVariable undotted =>
    have hperform : Batch.perform (.setVariable name literal) = Batch.setVariable name literal :=
      Batch.discard_leaving _
    rw [hperform]
    exact .inl fun b t => Batch.leads_setVariable undotted
  | @assign raw text parts sign plain =>
    have hparts : ';' ∉ raw ++ '=' :: text := by simpa using parts
    have hstep : ∀ b t, Batch.Leads (Batch.perform (.assign (String.ofList (raw ++ '=' :: text)))) b t ↔
        Batch.Leads (Batch.statement (raw ++ '=' :: text)) b t := by
      intro b t
      have hperform : Batch.perform (.assign (String.ofList (raw ++ '=' :: text))) =
          Batch.assignAll (String.ofList (raw ++ '=' :: text)) := Batch.discard_leaving _
      rw [hperform, Batch.assignAll_eq, String.toList_ofList, splitOn_of_not_mem hparts,
        Batch.leads_singleton]
    have hsource : strip (raw ++ '=' :: text) ≠ [] := by
      rw [strip_append_mark (by decide)]
      simp
    rcases Batch.ofText?_assignment sign plain text with hnone | hassign
    · refine .inr fun b t => (hstep b t).trans ?_
      unfold Batch.statement
      dsimp only
      rw [if_neg hsource, hnone]
      exact Batch.leads_log
    · refine .inl fun b t => (hstep b t).trans ?_
      unfold Batch.statement
      dsimp only
      rw [if_neg hsource, hassign]
      exact Batch.leads_assign _

/-! ### The two readings of a literal -/

/-- The literal gives the variable one value, whether it registers it or is assigned to it: it is no
other spelling of true than the word itself, and for the to-do list it is an object that begins with the
keys of the template. -/
def Batch.Settled (name literal : String) : Prop :=
  if name = todoList then
    ∃ fields, Json.read literal = .ok (.object fields) ∧
      Entries.keys todoTemplate <+: Entries.keys fields
  else Value.truthWord? literal.toList = some true → literal = "true"

theorem Value.ofLiteral_suggested {literal : String} {k : Kind} {v : Value}
    (h : ofSuggested (.text literal) = .ok (k, v)) :
    ofLiteral (some k) (.text literal) = .ok v ↔
      (truthWord? literal.toList = some true → literal = "true") := by
  rcases ofSuggested_cases h with ⟨b, hword, rfl, rfl⟩ | ⟨hword, n, hn, rfl, rfl⟩ | ⟨hword, rfl, rfl⟩
  · have hread : ofLiteral (some .boolean) (.text literal) = .ok (.bool (decide (literal = "true"))) := by
      simp [ofLiteral, Value.text?]
    have htrue : literal = "true" → b = true := by
      rintro rfl
      exact (Option.some.inj hword).symm.trans (by decide)
    rw [hread, hword]
    cases b <;> simp_all
  · have hread : ofLiteral (some .number) (.text literal) = .ok (ofNumber n) := by
      show (Number.ofText literal.toList).map ofNumber = _
      rw [hn]
      rfl
    exact iff_of_true hread (by simp [hword])
  · exact iff_of_true rfl (by simp [hword])

/-- The keys of the template come first in what is put into it, so an object stays as it is just if it
begins with them. -/
theorem Batch.putAll_todoTemplate {fields : Entries Value} (once : Entries.Once fields) :
    fields = Entries.putAll todoTemplate fields ↔ Entries.keys todoTemplate <+: Entries.keys fields := by
  constructor
  · intro h
    rw [h]
    exact Entries.keys_prefix_putAll _ _
  · exact fun h => (Entries.putAll_of_prefix once h).symm

/-- The value with which a literal registers a variable is the one that it gives to a variable of that
kind just if it is settled. -/
theorem Batch.ofLiteral_iff_settled {name literal : String} {k : Kind} {v : Value}
    (h : undeclared name literal = .ok (k, v)) :
    Value.ofLiteral (some k) (.text literal) = .ok v ↔ Settled name literal := by
  unfold undeclared at h
  unfold Settled
  split at h
  · rename_i hname
    rw [if_pos hname]
    have hread : Value.ofLiteral (some .object) (.text literal) =
        .ok ((Json.read literal).toOption.getD (.object [])) := rfl
    have hobject : k = .object := by
      split at h <;> (cases h; rfl)
    rw [hobject, hread]
    cases hdoc : Json.read literal with
    | error e =>
      rw [hdoc] at h
      cases h
      refine iff_of_false (by simp [Except.toOption, todoTemplate]) (by simp)
    | ok doc =>
      rw [hdoc] at h
      cases doc with
      | object fields =>
        cases h
        have once : Entries.Once fields := (Value.tidy_object.1 (Json.tidy_of_read hdoc)).1
        simpa [Except.toOption] using putAll_todoTemplate once
      | _ =>
        cases h
        exact iff_of_false (by simp [Except.toOption]) (by simp)
  · rename_i hname
    rw [if_neg hname]
    exact Value.ofLiteral_suggested h

/-! ### Twice -/

namespace Batch

variable {name literal : String} {s t : State}

/-- A literal with which a variable is registered can be read by the kind of that variable. -/
theorem exists_ofLiteral_of_undeclared {k : Kind} {v : Value} (h : undeclared name literal = .ok (k, v)) :
    ∃ w, Value.ofLiteral (some k) (.text literal) = .ok w := by
  rw [← isOk_iff, Value.isOk_ofLiteral]
  rintro ⟨rfl⟩
  unfold undeclared at h
  split at h
  · split at h <;> cases h
  · rcases Value.ofSuggested_cases h with ⟨-, -, hk, -⟩ | ⟨-, n, hn, -, -⟩ | ⟨-, hk, -⟩
    · cases hk
    · exact Number.isOk_ofText.1 (isOk_iff.2 ⟨n, hn⟩)
    · cases hk

theorem assigned_of_found {x : Variable} {v : Value} (found : Entries.get? name s.vars = some x)
    (read : Value.ofLiteral x.kind? (.text literal) = .ok v) (shown : x.value.isWritable = true) :
    Assigned name literal s { s with vars := s.vars.put name { x with value := v } } := by
  rw [Assigned, found]
  exact ⟨v, read, shown, rfl⟩

/-- Giving another value to a variable that was put changes the state. -/
theorem put_value_eq_iff {x : Variable} {w : Value} :
    { s with vars := s.vars.put name { x with value := w } } = { s with vars := s.vars.put name x } ↔
      w = x.value := by
  constructor
  · intro h
    have hvars := congrArg (fun u => Entries.get? name u.vars) h
    simp only [Entries.get?_put_self, Option.some.injEq] at hvars
    exact congrArg Variable.value hvars
  · rintro rfl
    rfl

/-- What was assigned can be assigned again, and this changes nothing, unless the variable has been
registered by the first assignment and its value is not settled. -/
theorem Assigned.again (h : Assigned name literal s t) : ∃ u, Assigned name literal t u ∧
    (u = t ↔ (Entries.get? name s.vars = none → Entries.get? name t.vars ≠ none →
      Settled name literal)) := by
  rw [Assigned] at h
  cases found : Entries.get? name s.vars with
  | some x =>
    rw [found] at h
    obtain ⟨v, hv, -, rfl⟩ := h
    refine ⟨_, assigned_of_found (Entries.get?_put_self ..) hv
      (Value.inherited_isWritable.of_ofLiteral rfl hv), ?_⟩
    exact iff_of_true (by rw [Entries.put_put]) (by simp)
  | none =>
    rw [found] at h
    cases hread : undeclared name literal with
    | error e =>
      rw [hread] at h
      obtain rfl : s = t := h
      refine ⟨s, by rw [Assigned, found, hread], iff_of_true rfl fun _ hfound => absurd found hfound⟩
    | ok kv =>
      obtain ⟨k, v⟩ := kv
      rw [hread] at h
      subst h
      obtain ⟨w, hw⟩ := exists_ofLiteral_of_undeclared hread
      obtain ⟨x, hx, hdeclared, hvalue⟩ : ∃ x : Variable, x = { declared := .text k.name, value := v } ∧
          x.kind? = some k ∧ x.value = v := ⟨_, rfl, Kind.ofName?_name k, rfl⟩
      rw [← hx]
      have hagain := assigned_of_found (s := { s with vars := s.vars.put name x })
        (Entries.get?_put_self ..) (by rw [hdeclared, hw])
        (hvalue ▸ Value.inherited_isWritable.of_undeclared hread)
      refine ⟨_, hagain, ?_⟩
      dsimp only
      rw [Entries.put_put, put_value_eq_iff, hvalue, ← ofLiteral_iff_settled hread, hw]
      simp [Entries.get?_put_self]

end Batch

/-- Carries out a change by itself on a state. -/
def State.perform (c : Change) (s : State) : Except Fault Unit × State :=
  let (outcome, b) := (Batch.perform c).run { state := s }
  (outcome, b.state)

theorem State.perform_eq_ok {c : Change} {s t : State} :
    s.perform c = (.ok (), t) ↔ Batch.Leads (Batch.perform c) { state := s } t := by
  unfold perform Batch.Leads Gives
  exact Prod.mk.injEq .. ▸ Iff.rfl

/-- A literal gives a variable one value, whether it registers it or is assigned to the variable so
registered, just if it is settled. And if a plain assignment goes through, then it goes through once
more, and the second time changes nothing, unless the first time has registered the variable and the
literal is not settled. -/
theorem State.perform_again :
    (∀ name literal k v, Batch.undeclared name literal = .ok (k, v) →
      (Value.ofLiteral (some k) (.text literal) = .ok v ↔ Batch.Settled name literal)) ∧
    ∀ name literal (c : Change) (s t : State), c.Assigns name literal → s.perform c = (.ok (), t) →
      ∃ u, t.perform c = (.ok (), u) ∧
        (u = t ↔ (Entries.get? name s.vars = none → Entries.get? name t.vars ≠ none →
          Batch.Settled name literal)) := by
  refine ⟨fun _ _ _ _ => Batch.ofLiteral_iff_settled, fun name literal c s t hc h => ?_⟩
  rw [perform_eq_ok] at h
  rcases hc.leads with hleads | hleads
  · obtain ⟨u, hu, hsame⟩ := ((hleads _ _).1 h).again
    exact ⟨u, perform_eq_ok.2 ((hleads _ _).2 hu), hsame⟩
  · obtain rfl : s = t := (hleads _ _).1 h
    exact ⟨s, perform_eq_ok.2 h, iff_of_true rfl fun hnone hsome => absurd hnone hsome⟩

theorem State.perform_again_number :
    Value.ofLiteral (some .number) (.text "5") = .ok (.int 5) ∧
    ∃ t u, State.perform (.setVariable "x" "5") {} = (.ok (), t) ∧
      t.perform (.setVariable "x" "5") = (.ok (), u) ∧ u = t := by
  have hassigns : Change.Assigns "x" "5" (.setVariable "x" "5") := .setVariable (by decide)
  have hfirst : State.perform (.setVariable "x" "5") {} = (.ok (), { vars := [("x",
      { declared := .text "number", value := .int 5 })] }) := rfl
  have hsettled : Batch.Settled "x" "5" := by
    rw [Batch.Settled, if_neg (by decide)]
    decide
  obtain ⟨u, hsecond, hsame⟩ := State.perform_again.2 "x" "5" _ {} _ hassigns hfirst
  exact ⟨(State.perform_again.1 "x" "5" .number (.int 5) rfl).2 hsettled, _, u, hfirst, hsecond,
    hsame.2 fun _ _ => hsettled⟩

/-- A spelling of true that registers a variable as true makes it false when it is assigned again. -/
theorem State.perform_again_spelling : ∃ t u,
    State.perform (.setVariable "flag" "True") {} = (.ok (), t) ∧
      t.perform (.setVariable "flag" "True") = (.ok (), u) ∧
      t.vars.map (·.2.value) = [.bool true] ∧ u.vars.map (·.2.value) = [.bool false] ∧ u ≠ t := by
  refine ⟨_, _, rfl, rfl, rfl, rfl, fun h => ?_⟩
  have hvalues := congrArg (fun s => s.vars.map (·.2.value)) h
  cases hvalues

end StoryState
