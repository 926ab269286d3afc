import StoryState.Proofs.Macro.Reading

/-!
The macros that are evaluated when a text is read. A reading that keeps a record of them
(`Macro.recordedRounds`) does to the state what the reading does without one (`Macro.records_rounds`),
so the evaluations of a text (`State.evaluations`) are those that are really made. Among them at most
one shows a hidden variable with an expiry, and none does once it has expired
(`State.evaluations_spec`).
-/

namespace StoryState

open StoryState.Text

/-! ### Hidden variables -/

/-- Both are the same hidden variable, which may have expired in between. -/
def Hidden.Version (h x : Hidden) : Prop := x = { h with isExpired := x.isExpired }

/-- How often a hidden variable with an expiry can still be seen. -/
def Hidden.chances (h : Option Hidden) : Nat :=
  match h with
  | some x => if x.isSpent then 0 else 1
  | none => 0

theorem Hidden.chances_le_one (h : Option Hidden) : chances h ≤ 1 := by
  unfold chances
  split
  · split <;> simp
  · simp

theorem Hidden.chances_of_isSpent {x : Hidden} (h : x.isSpent = true) : chances (some x) = 0 := by
  simp [chances, h]

theorem Hidden.chances_of_fresh {x : Hidden} (h : x.isSpent = false) : chances (some x) = 1 := by
  simp [chances, h]

theorem Hidden.Version.expires {h x : Hidden} (hx : h.Version x) : x.hasExpiration = h.hasExpiration := by
  rw [hx]

theorem Hidden.Version.value {h x : Hidden} (hx : h.Version x) : x.value = h.value := by rw [hx]

namespace Macro

/-! ### Readings with a record -/

/-- A macro that has been evaluated. -/
structure Evaluation where
  body : List Char
  before : Reading
  result : Except Fault Value

/-- Whether the macro stands for the hidden variable of a name. -/
def Evaluation.isOf (name : String) (e : Evaluation) : Bool :=
  String.ofList e.body = name && (hiddenOf? e.before.state e.body).isSome

/-- Whether the macro has shown anything of the hidden variable of a name. -/
def Evaluation.shows (name : String) (e : Evaluation) : Bool :=
  e.isOf name &&
    match e.result with
    | .ok (.text "") | .error _ => false
    | .ok _ => true

/-- A step of reading with a record of the macros that have been evaluated. -/
abbrev RecordM := StepM (Reading × List Evaluation)

/-- The text that replaces a macro, whose evaluation is recorded. -/
def recordedReplacement (defaultId : Option String) (body : List Char) : RecordM (List Char) :=
  ExceptT.mk fun (r, evaluations) =>
    let (text, r') := (replacement defaultId body).run r
    (text, r', evaluations ++ [⟨body, r, ((resolve defaultId body).run r).1⟩])

/-- So many rounds of replacement, whose evaluations are recorded. -/
def recordedRounds (defaultId : Option String) : Nat → List Char → RecordM (List Char)
  | 0, s => pure s
  | n + 1, s =>
    if (hits macro? s).isEmpty then pure s
    else do recordedRounds defaultId n (← substituteM macro? (fun _ => recordedReplacement defaultId) s)

/-- One step does what another does, and adds to the record. -/
def Records {α : Type} (t : RecordM α) (m : ReadM α) : Prop :=
  ∀ r evaluations, ∃ more,
    t.run (r, evaluations) = ((m.run r).1, (m.run r).2, evaluations ++ more)

section Records

variable {α β : Type}

theorem Records.pure (a : α) : Records (Pure.pure a) (Pure.pure a) :=
  fun _ evaluations => ⟨[], by rw [List.append_nil]; rfl⟩

theorem Records.bind {t : RecordM α} {m : ReadM α} {f : α → RecordM β} {g : α → ReadM β}
    (h : Records t m) (hf : ∀ a, Records (f a) (g a)) : Records (t >>= f) (m >>= g) := by
  intro r evaluations
  obtain ⟨more, hmore⟩ := h r evaluations
  rw [run_bind, run_bind, hmore]
  cases (m.run r).1 with
  | error e => exact ⟨more, rfl⟩
  | ok a =>
    obtain ⟨more', hmore'⟩ := hf a (m.run r).2 (evaluations ++ more)
    exact ⟨more ++ more', hmore'.trans (by rw [List.append_assoc])⟩

theorem Records.mapM {f : α → RecordM β} {g : α → ReadM β} (l : List α)
    (h : ∀ a, Records (f a) (g a)) : Records (l.mapM f) (l.mapM g) := by
  induction l with
  | nil => exact .pure _
  | cons a l ih =>
    rw [List.mapM_cons, List.mapM_cons]
    exact .bind (h a) fun b => .bind ih fun bs => .pure _

theorem records_rounds (defaultId : Option String) (depth : Nat) (s : List Char) :
    Records (recordedRounds defaultId depth s) (rounds defaultId depth s) := by
  induction depth generalizing s with
  | zero => exact .pure _
  | succ depth ih =>
    unfold recordedRounds rounds
    split
    · exact .pure _
    · refine .bind (.bind (.mapM _ fun segment => ?_) fun _ => .pure _) ih
      cases segment with
      | plain c => exact .pure _
      | hit raw body => exact fun r evaluations => ⟨_, rfl⟩

end Records

end Macro

/-- Rounds of replacement go along what every evaluation goes along. -/
theorem Composes.recordedRounds {R : Bool → Macro.Reading × List Macro.Evaluation →
      Macro.Reading × List Macro.Evaluation → Prop} (h : Composes R) {defaultId : Option String}
    (each : ∀ body, Moves R (Macro.recordedReplacement defaultId body)) (depth : Nat) (s : List Char) :
    Moves R (Macro.recordedRounds defaultId depth s) := by
  induction depth generalizing s with
  | zero => exact h.pure _
  | succ depth ih =>
    unfold Macro.recordedRounds
    split
    · exact h.pure _
    · refine h.bind ?_ fun s => ih s
      refine h.map (h.mapM _ fun segment _ => ?_)
      cases segment with
      | plain c => exact h.pure _
      | hit raw body => exact each body

namespace Macro

/-! ### What the evaluations show -/

/-- What has become of a hidden variable, if there is one, when a text has been read. -/
inductive Aged : Option Hidden → Option Hidden → Prop
  | same (x : Option Hidden) : Aged x x
  | expired (x : Hidden) : Aged (some x) (some { x with isExpired := true })

theorem Aged.trans {x y z : Option Hidden} (h : Aged x y) (h' : Aged y z) : Aged x z := by
  cases h with
  | same => exact h'
  | expired x =>
    cases h' with
    | same => exact .expired x
    | expired => exact .expired x

theorem Aged.eq_none {y : Option Hidden} (h : Aged none y) : y = none := by
  cases h
  rfl

theorem Aged.version {h : Hidden} {x y : Option Hidden} (hxy : Aged x y)
    (hx : ∀ z, x = some z → h.Version z) : ∀ z, y = some z → h.Version z := by
  cases hxy with
  | same => exact hx
  | expired x =>
    rintro z ⟨rfl⟩
    have hversion := hx x rfl
    unfold Hidden.Version at hversion ⊢
    rw [hversion]

/-- Each evaluation that stands for the hidden variable shows its value, or nothing, or fails. -/
def Honest (name : String) (h : Hidden) (evaluations : List Evaluation) : Prop :=
  ∀ e ∈ evaluations, e.isOf name = true →
    e.result = .ok h.value ∨ e.result = .ok (.text "") ∨ ∃ fault, e.result = .error fault

/-- What evaluations show of a hidden variable with an expiry, which was one thing before them and is
another behind. -/
structure Glimpses (name : String) (h : Hidden) (before after : Option Hidden)
    (evaluations : List Evaluation) : Prop where
  aged : Aged before after
  shown : evaluations.countP (·.shows name) + Hidden.chances after ≤ Hidden.chances before
  honest : Honest name h evaluations

/-- What a step of reading adds to the record. -/
def Glimpse (name : String) (h : Hidden) (_ok : Bool) (t t' : Reading × List Evaluation) : Prop :=
  ∃ more, t'.2 = t.2 ++ more ∧
    ((∀ x, Entries.get? name t.1.state.hidden = some x → h.Version x) →
      Glimpses name h (Entries.get? name t.1.state.hidden) (Entries.get? name t'.1.state.hidden) more)

section Glimpses

variable {name : String} {h : Hidden} {before after after' : Option Hidden}
  {evaluations evaluations' : List Evaluation}

theorem Honest.append (h₁ : Honest name h evaluations) (h₂ : Honest name h evaluations') :
    Honest name h (evaluations ++ evaluations') :=
  fun e he => (List.mem_append.1 he).elim (h₁ e) (h₂ e)

theorem honest_nil : Honest name h [] := by simp [Honest]

theorem Glimpses.nil (x : Option Hidden) : Glimpses name h x x [] :=
  ⟨.same x, by simp, honest_nil⟩

theorem Glimpses.append (h₁ : Glimpses name h before after evaluations)
    (h₂ : Glimpses name h after after' evaluations') :
    Glimpses name h before after' (evaluations ++ evaluations') where
  aged := h₁.aged.trans h₂.aged
  shown := by
    rw [List.countP_append]
    have := h₁.shown
    have := h₂.shown
    omega
  honest := h₁.honest.append h₂.honest

/-- What was shown has taken its chances away, whatever else there is. -/
theorem Glimpses.shown_or (hg : Glimpses name h before after evaluations) (x : Option Hidden) :
    evaluations.countP (·.shows name) + Hidden.chances (after.or x) ≤ Hidden.chances (before.or x) := by
  have hshown := hg.shown
  cases hg.aged with
  | same => omega
  | expired => exact hshown

theorem composes_glimpse : Composes (Glimpse name h) where
  refl _ _ := ⟨[], by simp, fun _ => .nil _⟩
  trans := by
    rintro ok t u v ⟨more, hmore, htu⟩ ⟨more', hmore', huv⟩
    refine ⟨more ++ more', by rw [hmore', hmore, List.append_assoc], fun ht => ?_⟩
    have hglimpses := htu ht
    exact hglimpses.append (huv (hglimpses.aged.version ht))

/-- An evaluation that does not stand for the hidden variable. -/
theorem Glimpses.other {e : Evaluation} (hother : e.isOf name = false) (x : Option Hidden) :
    Glimpses name h x x [e] where
  aged := .same x
  shown := by simp [Evaluation.shows, hother]
  honest := by simp [Honest, hother]

/-- An evaluation that stands for the hidden variable. -/
theorem Glimpses.sight (expires : h.hasExpiration = true) {x : Hidden} (hx : h.Version x)
    {r r' : Reading} {body : List Char} {result : Except Fault Value}
    (found : Entries.get? name r.state.hidden = some x) (hsight : Sight name x r result r') :
    Glimpses name h (some x) (Entries.get? name r'.state.hidden) [⟨body, r, result⟩] := by
  cases hsight with
  | nothing =>
    rw [found]
    exact ⟨.same _, by simp [Evaluation.shows], by simp [Honest]⟩
  | fault e =>
    rw [found]
    exact ⟨.same _, by simp [Evaluation.shows], by simp [Honest]⟩
  | lasting lasts =>
    rw [hx.expires, expires] at lasts
    cases lasts
  | last _ fresh =>
    have hspent : Hidden.isSpent { x with isExpired := true } = true := by
      simp [Hidden.isSpent, hx.expires, expires]
    rw [Entries.get?_put_self]
    refine ⟨.expired x, ?_, by simp [Honest, hx.value]⟩
    rw [Hidden.chances_of_isSpent hspent, Hidden.chances_of_fresh fresh, Nat.add_zero]
    exact List.countP_le_length

/-- Formatting what a macro stands for changes nothing. -/
theorem run_replacement (defaultId : Option String) (body : List Char) (r : Reading) :
    ((replacement defaultId body).run r).2 = ((resolve defaultId body).run r).2 := by
  unfold replacement
  rw [run_bind]
  cases ((resolve defaultId body).run r).1 with
  | error e => rfl
  | ok v => exact composes_idle.map (composes_idle.lift _) _

theorem moves_recordedReplacement (expires : h.hasExpiration = true) (defaultId : Option String)
    (body : List Char) : Moves (Glimpse name h) (recordedReplacement defaultId body) := by
  rintro ⟨r, evaluations⟩
  refine ⟨[⟨body, r, ((resolve defaultId body).run r).1⟩], rfl, fun hversion => ?_⟩
  show Glimpses name h _ (Entries.get? name ((replacement defaultId body).run r).2.state.hidden) _
  rw [run_replacement]
  cases found : hiddenOf? r.state body with
  | none =>
    have hidle : ((resolve defaultId body).run r).2 = r := gives_resolve_other found
    rw [hidle]
    exact .other (by simp [Evaluation.isOf, found]) _
  | some x =>
    have hx := get?_of_hiddenOf? found
    have hsight : Sight (String.ofList body) x r ((resolve defaultId body).run r).1
        ((resolve defaultId body).run r).2 := gives_resolve_hidden found (sight_seeHidden _ x r)
    by_cases hname : String.ofList body = name
    · rw [hname] at hx hsight
      rw [hx]
      exact .sight expires (hversion x hx) hx hsight
    · have hsame : Entries.get? name ((resolve defaultId body).run r).2.state.hidden =
          Entries.get? name r.state.hidden := by
        generalize (resolve defaultId body).run r = p at hsight
        obtain ⟨result, r'⟩ := p
        cases hsight with
        | last => exact Entries.get?_put_of_ne hname _ _
        | _ => rfl
      rw [hsame]
      exact .other (by simp [Evaluation.isOf, hname]) _

theorem moves_recordedRounds (expires : h.hasExpiration = true) (defaultId : Option String)
    (depth : Nat) (s : List Char) : Moves (Glimpse name h) (recordedRounds defaultId depth s) :=
  composes_glimpse.recordedRounds (moves_recordedReplacement expires defaultId) depth s

end Glimpses

end Macro

/-- The macros that are evaluated, one after another, when those of a text are replaced. -/
def State.evaluations (s : State) (defaultId : Option String) (text : String)
    (depth : Nat := Macro.defaultDepth) : List Macro.Evaluation :=
  ((Macro.recordedRounds defaultId depth text.toList).run ({ state := s }, [])).2.2

/-- A reading of a text that keeps a record comes to the same. -/
theorem State.replaceMacros_eq (s : State) (defaultId : Option String) (text : String) (depth : Nat) :
    s.replaceMacros defaultId text depth =
      let (result, r, _) := (Macro.recordedRounds defaultId depth text.toList).run ({ state := s }, [])
      ⟨result.map String.ofList, r.state, r.expired⟩ := by
  obtain ⟨more, hmore⟩ := Macro.records_rounds defaultId depth text.toList { state := s } []
  unfold State.replaceMacros State.see
  rw [hmore, run_bind]
  cases (Macro.rounds defaultId depth text.toList).run { state := s } with
  | mk result r => cases result <;> rfl

/-- Of all the evaluations that a text makes at most one shows a hidden variable with an expiry, and
none if it has expired. -/
theorem State.evaluations_spec {name : String} {h : Hidden} (expires : h.hasExpiration = true)
    {s : State} (hs : ∀ x, Entries.get? name s.hidden = some x → h.Version x)
    (defaultId : Option String) (text : String) (depth : Nat) :
    Macro.Glimpses name h (Entries.get? name s.hidden)
      (Entries.get? name (s.replaceMacros defaultId text depth).state.hidden)
      (s.evaluations defaultId text depth) := by
  obtain ⟨more, hmore, hglimpses⟩ := Macro.moves_recordedRounds expires defaultId depth
    text.toList ({ state := s }, [])
  rw [State.replaceMacros_eq, State.evaluations, hmore]
  exact hglimpses hs

end StoryState
