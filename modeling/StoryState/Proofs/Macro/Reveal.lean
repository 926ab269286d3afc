import StoryState.Proofs.Macro.Evaluation
import StoryState.Proofs.Macro.Secrecy

/-!
What texts do to a state when they are read one after another by one reader: nothing but that hidden
variables expire, and the reader remembers just those (`Macro.readAll_reveals`). Each of them could
expire and was met, and of all the macros that were evaluated one has shown it; a hidden variable with
an expiry that is not remembered has been shown by none.
-/

namespace StoryState

open StoryState.Text

/-! ### States in which hidden variables expire -/

/-- The second state is the first, but that the hidden variables of these names have expired. -/
structure State.Expired (names : List String) (s s' : State) : Prop where
  vars : s'.vars = s.vars
  tables : s'.tables = s.tables
  keys : s'.hidden.keys = s.hidden.keys
  hidden : ∀ name, Entries.get? name s'.hidden = (Entries.get? name s.hidden).map fun h =>
    if name ∈ names then { h with isExpired := true } else h

namespace State.Expired

variable {names names' : List String} {s s' s'' : State}

theorem refl (s : State) : Expired [] s s := ⟨rfl, rfl, rfl, fun name => by simp⟩

theorem trans (h : Expired names s s') (h' : Expired names' s' s'') : Expired (names ++ names') s s'' where
  vars := h'.vars.trans h.vars
  tables := h'.tables.trans h.tables
  keys := h'.keys.trans h.keys
  hidden := by
    intro name
    rw [h'.hidden, h.hidden, Option.map_map]
    refine congrArg (Option.map · _) (funext fun x => ?_)
    by_cases hname : name ∈ names <;> by_cases hname' : name ∈ names' <;> simp [hname, hname']

/-- One hidden variable expires. -/
theorem put {name : String} {x : Hidden} (found : Entries.get? name s.hidden = some x) :
    Expired [name] s { s with hidden := s.hidden.put name { x with isExpired := true } } where
  vars := rfl
  tables := rfl
  keys := Entries.keys_put_of_get? found _
  hidden := by
    intro other
    by_cases hname : name = other
    · subst hname
      simp [Entries.get?_put_self, found]
    · rw [Entries.get?_put_of_ne hname]
      simp [Ne.symm hname]

/-- A hidden variable that has not expired in between was there as it is. -/
theorem found {name : String} {x : Hidden} (h : Expired names s s') (hname : name ∉ names) :
    Entries.get? name s'.hidden = some x ↔ Entries.get? name s.hidden = some x := by
  rw [h.hidden]
  simp [hname]

/-- A hidden variable that has expired in between is there with its flag set. -/
theorem expired {name : String} {x : Hidden} (h : Expired names s s') (hname : name ∈ names)
    (found : Entries.get? name s.hidden = some x) :
    Entries.get? name s'.hidden = some { x with isExpired := true } := by
  rw [h.hidden, found]
  simp [hname]

end State.Expired

namespace Macro

/-! ### What is shown of a hidden variable -/

/-- Whichever of the evaluations stands for the hidden variable gives the empty text or stops. -/
def Silent (name : String) (evaluations : List Evaluation) : Prop :=
  ∀ e ∈ evaluations, e.isOf name = true →
    e.result = .ok (.text "") ∨ ∃ fault, e.result = .error fault

/-- One of the evaluations stands for the hidden variable and gives its value; whichever other one
stands for it gives the empty text or stops. -/
def ShownOnce (name : String) (v : Value) (evaluations : List Evaluation) : Prop :=
  ∃ front e back, evaluations = front ++ e :: back ∧ e.isOf name = true ∧ e.result = .ok v ∧
    Silent name front ∧ Silent name back

section Shown

variable {name : String} {v : Value} {evaluations evaluations' : List Evaluation}

theorem silent_nil : Silent name [] := by simp [Silent]

theorem Silent.append (h : Silent name evaluations) (h' : Silent name evaluations') :
    Silent name (evaluations ++ evaluations') :=
  fun e he => (List.mem_append.1 he).elim (h e) (h' e)

theorem ShownOnce.append (h : ShownOnce name v evaluations) (h' : Silent name evaluations') :
    ShownOnce name v (evaluations ++ evaluations') := by
  obtain ⟨front, e, back, rfl, hof, hresult, hfront, hback⟩ := h
  exact ⟨front, e, back ++ evaluations', by simp, hof, hresult, hfront, hback.append h'⟩

theorem Silent.shownOnce (h : Silent name evaluations) (h' : ShownOnce name v evaluations') :
    ShownOnce name v (evaluations ++ evaluations') := by
  obtain ⟨front, e, back, rfl, hof, hresult, hfront, hback⟩ := h'
  exact ⟨evaluations ++ front, e, back, by simp, hof, hresult, h.append hfront, hback⟩

end Shown

/-- What readings have done that took one state to another, with what they remember of it and the
macros that they have evaluated. -/
structure Revealed (s s' : State) (names : List String) (evaluations : List Evaluation) : Prop where
  expired : s.Expired names s'
  once : names.Nodup
  /-- What has expired could expire, had not expired and was met, and has been shown once. -/
  shown : ∀ name ∈ names, ∃ h, Entries.get? name s.hidden = some h ∧ h.hasExpiration = true ∧
    h.isExpired = false ∧ s.meets h.condition = .ok true ∧ ShownOnce name h.value evaluations
  /-- What could expire and has not been remembered has not been shown. -/
  silent : ∀ name h, Entries.get? name s.hidden = some h → h.hasExpiration = true → name ∉ names →
    Silent name evaluations

namespace Revealed

variable {s s' s'' : State} {names names' : List String} {evaluations evaluations' : List Evaluation}

theorem refl (s : State) : Revealed s s [] [] := ⟨.refl s, .nil, by simp, fun _ _ _ _ _ => silent_nil⟩

/-- What has expired does not expire again. -/
theorem disjoint (h : Revealed s s' names evaluations) (h' : Revealed s' s'' names' evaluations')
    {name : String} (hname : name ∈ names) : name ∉ names' := by
  intro hname'
  obtain ⟨x, found, -⟩ := h.shown name hname
  obtain ⟨x', found', -, fresh, -⟩ := h'.shown name hname'
  rw [h.expired.expired hname found] at found'
  rw [← Option.some.inj found'] at fresh
  cases fresh

theorem trans (h : Revealed s s' names evaluations) (h' : Revealed s' s'' names' evaluations') :
    Revealed s s'' (names ++ names') (evaluations ++ evaluations') where
  expired := h.expired.trans h'.expired
  once := List.nodup_append.2 ⟨h.once, h'.once, by
    rintro name hname _ hname' rfl
    exact h.disjoint h' hname hname'⟩
  shown := by
    intro name hname
    rcases List.mem_append.1 hname with hname | hname
    · obtain ⟨x, found, expires, fresh, met, hshown⟩ := h.shown name hname
      have hlater : Silent name evaluations' :=
        h'.silent name _ (h.expired.expired hname found) expires (h.disjoint h' hname)
      exact ⟨x, found, expires, fresh, met, hshown.append hlater⟩
    -- what expires later was there from the beginning as it is, and has been silent so far
    · have hnew : name ∉ names := fun hold => h.disjoint h' hold hname
      obtain ⟨x, found, expires, fresh, met, hshown⟩ := h'.shown name hname
      rw [h.expired.found hnew] at found
      rw [meets_of_vars h.expired.vars] at met
      exact ⟨x, found, expires, fresh, met, (h.silent name x found expires hnew).shownOnce hshown⟩
  silent := by
    intro name x found expires hname
    rw [List.mem_append, not_or] at hname
    have hlater : Entries.get? name s'.hidden = some x := (h.expired.found hname.1).2 found
    exact (h.silent name x found expires hname.1).append (h'.silent name x hlater expires hname.2)

end Revealed

/-! ### Readings -/

/-- What a step of reading adds to what is remembered and to the record. -/
def Reveals (_ok : Bool) (t t' : Reading × List Evaluation) : Prop :=
  ∃ names more, t'.1.expired = t.1.expired ++ names ∧ t'.2 = t.2 ++ more ∧
    Revealed t.1.state t'.1.state names more

theorem composes_reveals : Composes Reveals where
  refl _ t := ⟨[], [], by simp, by simp, .refl t.1.state⟩
  trans := by
    rintro ok t u v ⟨names, more, hnames, hmore, h⟩ ⟨names', more', hnames', hmore', h'⟩
    refine ⟨names ++ names', more ++ more', ?_, ?_, h.trans h'⟩
    · rw [hnames', hnames, List.append_assoc]
    · rw [hmore', hmore, List.append_assoc]

/-- Seeing a hidden variable changes nothing unless it is met. -/
theorem met_of_seeHidden (name : String) (h : Hidden) (r : Reading) :
    Gives (seeHidden name h) r fun _ r' => r' = r ∨ r.state.meets h.condition = .ok true := by
  unfold seeHidden
  split
  · exact .inl rfl
  · rw [gives_bind, gives_get]
    dsimp only
    rw [gives_lift_bind]
    cases hmet : r.state.meets h.condition with
    | error e => exact .inl rfl
    | ok met =>
      cases met with
      | true => exact .inr rfl
      | false => exact .inl rfl

/-- An evaluation with which nothing expires. -/
theorem Revealed.idle {r : Reading} {body : List Char} {result : Except Fault Value}
    (h : ∀ x, hiddenOf? r.state body = some x → x.hasExpiration = true →
      result = .ok (.text "") ∨ ∃ fault, result = .error fault) :
    Revealed r.state r.state [] [⟨body, r, result⟩] where
  expired := .refl r.state
  once := .nil
  shown := by simp
  silent := by
    intro name x found expires _ e he hof
    obtain rfl := List.mem_singleton.1 he
    obtain ⟨hname, hhidden⟩ := Bool.and_eq_true_iff.1 hof
    obtain ⟨y, hy⟩ := Option.isSome_iff_exists.1 hhidden
    have hbody := get?_of_hiddenOf? hy
    rw [of_decide_eq_true hname, found] at hbody
    exact h y hy (Option.some.inj hbody ▸ expires)

/-- An evaluation with which a hidden variable expires. -/
theorem Revealed.last {r : Reading} {body : List Char} {x : Hidden}
    (found : hiddenOf? r.state body = some x) (expires : x.hasExpiration = true)
    (fresh : x.isExpired = false) (met : r.state.meets x.condition = .ok true) :
    Revealed r.state
      { r.state with hidden := r.state.hidden.put (String.ofList body) { x with isExpired := true } }
      [String.ofList body] [⟨body, r, .ok x.value⟩] where
  expired := .put (get?_of_hiddenOf? found)
  once := List.nodup_singleton _
  shown := by
    intro name hname
    obtain rfl := List.mem_singleton.1 hname
    refine ⟨x, get?_of_hiddenOf? found, expires, fresh, met, [], _, [], rfl, ?_, rfl, silent_nil,
      silent_nil⟩
    simp [Evaluation.isOf, found]
  silent := by
    intro name _ _ _ hname e he hof
    obtain rfl := List.mem_singleton.1 he
    obtain ⟨hbody, -⟩ := Bool.and_eq_true_iff.1 hof
    exact absurd (List.mem_singleton.2 (of_decide_eq_true hbody).symm) hname

/-- One evaluation. -/
theorem revealed_resolve (defaultId : Option String) (body : List Char) (r : Reading) :
    Gives (resolve defaultId body) r fun result r' => ∃ names, r'.expired = r.expired ++ names ∧
      Revealed r.state r'.state names [⟨body, r, result⟩] := by
  cases found : hiddenOf? r.state body with
  | none =>
    refine gives_mono (gives_resolve_other found) fun result r' hr => ?_
    rw [hr]
    refine ⟨[], by simp, .idle fun x hx => ?_⟩
    rw [found] at hx
    cases hx
  | some x =>
    refine gives_resolve_hidden found ?_
    have hmet := met_of_seeHidden (String.ofList body) x r
    have hsight := sight_seeHidden (String.ofList body) x r
    unfold Gives at hmet hsight ⊢
    generalize (seeHidden (String.ofList body) x).run r = p at hmet hsight ⊢
    obtain ⟨result, r'⟩ := p
    cases hsight with
    | nothing => exact ⟨[], by simp, .idle fun _ _ _ => .inl rfl⟩
    | fault e => exact ⟨[], by simp, .idle fun _ _ _ => .inr ⟨e, rfl⟩⟩
    | lasting lasts =>
      refine ⟨[], by simp, .idle fun y hy expires => ?_⟩
      rw [found, Option.some.injEq] at hy
      rw [← hy, lasts] at expires
      cases expires
    | last expires fresh =>
      have hmet : r.state.meets x.condition = .ok true := by
        refine hmet.resolve_left fun hsame => ?_
        have hlength := congrArg (fun r => r.expired.length) hsame
        simp at hlength
      have hfresh : x.isExpired = false := by simpa [Hidden.isSpent, expires] using fresh
      exact ⟨[String.ofList body], rfl, .last found expires hfresh hmet⟩

theorem reveals_recordedReplacement (defaultId : Option String) (body : List Char) :
    Moves Reveals (recordedReplacement defaultId body) := by
  rintro ⟨r, evaluations⟩
  obtain ⟨names, hexpired, h⟩ := revealed_resolve defaultId body r
  refine ⟨names, [⟨body, r, ((resolve defaultId body).run r).1⟩], ?_, rfl, ?_⟩
  · show ((replacement defaultId body).run r).2.expired = _
    rw [run_replacement, hexpired]
  · show Revealed r.state ((replacement defaultId body).run r).2.state names _
    rw [run_replacement]
    exact h

/-! ### Sequences of texts -/

/-- Reads texts one after another, each in what the one before has left, be it that this one stopped. -/
def readAll (defaultId : Option String) (depth : Nat) (texts : List String) (r : Reading) : Reading :=
  texts.foldl (fun r text => ((rounds defaultId depth text.toList).run r).2) r

/-- Reads texts one after another with a record. -/
def recordAll (defaultId : Option String) (depth : Nat) (texts : List String)
    (t : Reading × List Evaluation) : Reading × List Evaluation :=
  texts.foldl (fun t text => ((recordedRounds defaultId depth text.toList).run t).2) t

/-- The macros that are evaluated, one after another, when texts are read. -/
def evaluationsOf (defaultId : Option String) (depth : Nat) (texts : List String) (r : Reading) :
    List Evaluation := (recordAll defaultId depth texts (r, [])).2

section Texts

variable (defaultId : Option String) (depth : Nat) (texts : List String)

/-- With a record the texts do what they do without one. -/
theorem recordAll_reading (t : Reading × List Evaluation) :
    (recordAll defaultId depth texts t).1 = readAll defaultId depth texts t.1 := by
  induction texts generalizing t with
  | nil => rfl
  | cons text texts ih =>
    obtain ⟨more, hmore⟩ := records_rounds defaultId depth text.toList t.1 t.2
    have hread : ((recordedRounds defaultId depth text.toList).run t).2.1 =
        ((rounds defaultId depth text.toList).run t.1).2 := by
      rw [show t = (t.1, t.2) from rfl, hmore]
    refine (ih _).trans ?_
    rw [hread]
    rfl

theorem reveals_recordAll (t : Reading × List Evaluation) :
    Reveals true t (recordAll defaultId depth texts t) := by
  induction texts generalizing t with
  | nil => exact composes_reveals.refl true t
  | cons text texts ih =>
    have hfirst : Reveals true t ((recordedRounds defaultId depth text.toList).run t).2 :=
      composes_reveals.recordedRounds (reveals_recordedReplacement defaultId) depth text.toList t
    exact composes_reveals.trans hfirst (ih _)

/-- Reading texts one after another changes nothing in a state but that hidden variables expire, each of
them once and shown once, and the reader remembers these and no others. -/
theorem readAll_reveals (r : Reading) :
    ∃ names, (readAll defaultId depth texts r).expired = r.expired ++ names ∧
      Revealed r.state (readAll defaultId depth texts r).state names
        (evaluationsOf defaultId depth texts r) := by
  obtain ⟨names, more, hexpired, hmore, h⟩ := reveals_recordAll defaultId depth texts (r, [])
  rw [recordAll_reading] at hexpired h
  refine ⟨names, hexpired, ?_⟩
  rw [evaluationsOf, hmore]
  exact h

end Texts

end Macro

/-- Replacing the macros of a text is reading it with a reader that remembers nothing yet. -/
theorem State.replaceMacros_readAll (s : State) (defaultId : Option String) (text : String) (depth : Nat) :
    let r := Macro.readAll defaultId depth [text] { state := s }
    (s.replaceMacros defaultId text depth).state = r.state ∧
      (s.replaceMacros defaultId text depth).expired = r.expired := by
  unfold State.replaceMacros State.see Macro.readAll
  rw [run_bind, List.foldl_cons, List.foldl_nil]
  cases (Macro.rounds defaultId depth text.toList).run { state := s } with
  | mk result r => cases result <;> exact ⟨rfl, rfl⟩

end StoryState
