import StoryState.Proofs.Macro.Reading
import StoryState.Proofs.Task.Inside
import StoryState.State.Summary
import StoryState.Story.Batch
import StoryState.Story.Direct

/-!
What can be learnt of hidden variables that cannot be seen: nothing of their values. States that
differ in such values only (`State.Alike`) go in step through every reading (`InStep`), also when the
names of macros are put together by inner macros and other hidden variables expire on the way; nor do
the look at a hidden variable and the summary tell them apart (`State.Alike.indistinguishable`).
-/

namespace StoryState

open StoryState.Text Macro

/-! ### States that cannot be told apart -/

/-- The variable cannot be seen in a state: it has been seen already and expired, or its condition does
not hold. -/
def Hidden.Unseen (s : State) (h : Hidden) : Prop :=
  h.isSpent = true ∨ s.meets h.condition ≠ .ok true

/-- Hidden variables that differ at most in a value, which then cannot be seen. -/
structure Hidden.Veils (s : State) (a b : Hidden) : Prop where
  rest : b = { a with value := b.value }
  value : b.value = a.value ∨ a.Unseen s

/-- Entries of the same names, whose hidden variables differ at most in values that cannot be seen. -/
def VeilsAll (s : State) : Entries Hidden → Entries Hidden → Prop :=
  List.Forall₂ fun a b => b.1 = a.1 ∧ Hidden.Veils s a.2 b.2

/-- States that differ at most in values of hidden variables that cannot be seen. -/
structure State.Alike (s t : State) : Prop where
  vars : t.vars = s.vars
  tables : t.tables = s.tables
  hidden : VeilsAll s s.hidden t.hidden

section Alike

variable {s t : State} {name : String}

theorem meets_of_vars (h : t.vars = s.vars) (condition : Value) :
    t.meets condition = s.meets condition := by
  unfold State.meets State.values
  rw [h]

theorem firstCase_of_vars (h : t.vars = s.vars) (fallback : Value) (bs : List Branch) :
    t.firstCase fallback bs = s.firstCase fallback bs := by
  induction bs with
  | nil => rfl
  | cons b bs ih =>
    unfold State.firstCase
    rw [ih]
    simp only [meets_of_vars h]

theorem valueOf_of_vars (h : t.vars = s.vars) (x : Variable) : t.valueOf x = s.valueOf x := by
  unfold State.valueOf
  rw [firstCase_of_vars h]

theorem rowNumber_of_vars (h : t.vars = s.vars) (segment : List Char) :
    t.rowNumber segment = s.rowNumber segment := by
  unfold State.rowNumber
  rw [h]

theorem tableOf?_of_tables (h : t.tables = s.tables) (parts : List (List Char)) :
    tableOf? t parts = tableOf? s parts := by
  unfold tableOf?
  rw [h]

theorem rootOf?_of_vars (h : t.vars = s.vars) (parts : List (List Char)) :
    rootOf? t parts = rootOf? s parts := by
  unfold rootOf?
  rw [h]

theorem Hidden.Unseen.congr {h : Hidden} (hvars : t.vars = s.vars) (hs : h.Unseen s) : h.Unseen t := by
  unfold Unseen
  rw [meets_of_vars hvars]
  exact hs

theorem Hidden.Veils.refl (s : State) (a : Hidden) : Veils s a a := ⟨rfl, .inl rfl⟩

theorem Hidden.Veils.isSpent {a b : Hidden} (h : Veils s a b) : b.isSpent = a.isSpent := by
  rw [h.rest]
  rfl

theorem Hidden.Veils.condition {a b : Hidden} (h : Veils s a b) : b.condition = a.condition := by
  rw [h.rest]

/-- What can be seen is the same. -/
theorem Hidden.Veils.eq_of_seen {a b : Hidden} (h : Veils s a b) (hspent : a.isSpent = false)
    (hmeets : s.meets a.condition = .ok true) : b = a := by
  have hvalue : b.value = a.value := by
    refine h.value.resolve_right ?_
    rintro (hspent' | hunmet)
    · rw [hspent] at hspent'
      cases hspent'
    · exact hunmet hmeets
  rw [h.rest, hvalue]

theorem Hidden.Veils.congr {a b : Hidden} (hvars : t.vars = s.vars) (h : Veils s a b) : Veils t a b :=
  ⟨h.rest, h.value.imp_right (.congr hvars)⟩

/-- A name stands for a hidden variable in both, or in neither. -/
theorem veils_get? {es es' : Entries Hidden} (h : VeilsAll s es es') (name : String) :
    Option.Rel (Hidden.Veils s) (Entries.get? name es) (Entries.get? name es') := by
  induction h with
  | nil => exact .none
  | @cons a b es es' hab _ ih =>
    obtain ⟨k, x⟩ := a
    obtain ⟨k', y⟩ := b
    obtain ⟨rfl, hveils⟩ := hab
    unfold Entries.get?
    split
    · exact .some hveils
    · exact ih

/-- Putting the same into both keeps what they have in common. -/
theorem veils_put {es es' : Entries Hidden} (h : VeilsAll s es es') (name : String) (x : Hidden) :
    VeilsAll s (es.put name x) (es'.put name x) := by
  induction h with
  | nil => exact .cons ⟨rfl, .refl s x⟩ .nil
  | @cons a b es es' hab hrest ih =>
    obtain ⟨k, y⟩ := a
    obtain ⟨k', z⟩ := b
    obtain ⟨rfl, hveils⟩ := hab
    unfold Entries.put
    split
    · exact .cons ⟨rfl, .refl s x⟩ hrest
    · exact .cons ⟨rfl, hveils⟩ ih

theorem State.Alike.putHidden (h : Alike s t) (name : String) (x : Hidden) :
    Alike { s with hidden := s.hidden.put name x } { t with hidden := t.hidden.put name x } where
  vars := h.vars
  tables := h.tables
  hidden := (veils_put h.hidden name x).imp fun _ _ hab => ⟨hab.1, hab.2.congr (by rfl)⟩

/-- What does not look at values is the same of both. -/
theorem map_of_veils {β : Type} {f : String → Hidden → β} {es es' : Entries Hidden}
    (h : VeilsAll s es es') (hf : ∀ k a v, f k { a with value := v } = f k a) :
    es'.map (fun (k, a) => f k a) = es.map fun (k, a) => f k a := by
  induction h with
  | nil => rfl
  | @cons a b es es' hab _ ih =>
    obtain ⟨k, x⟩ := a
    obtain ⟨k', y⟩ := b
    obtain ⟨rfl, hveils⟩ := hab
    rw [List.map_cons, List.map_cons, ih]
    dsimp only at hveils ⊢
    rw [hveils.rest, hf]

theorem State.Alike.expiryFlags (h : Alike s t) : t.expiryFlags = s.expiryFlags :=
  map_of_veils (f := fun k a => (k, a.isExpired)) h.hidden fun _ _ _ => rfl

/-- The summary does not show hidden values. -/
theorem State.Alike.summary (h : Alike s t) : t.summary = s.summary := by
  have hlines : t.hidden.map (fun (k, a) => a.summary k) = s.hidden.map fun (k, a) => a.summary k :=
    map_of_veils (f := fun k a => a.summary k) h.hidden fun _ _ _ => rfl
  have hhidden : t.hidden.mapM (fun (k, a) => a.summary k) = s.hidden.mapM fun (k, a) => a.summary k := by
    have hmapM : ∀ es : Entries Hidden, es.mapM (fun (k, a) => a.summary k) =
        (es.map fun (k, a) => a.summary k).mapM id := by
      intro es
      rw [List.mapM_map]
      rfl
    rw [hmapM, hmapM, hlines]
  unfold State.summary
  rw [h.vars, h.tables, hhidden]

end Alike

/-! ### Reading -/

namespace Macro

/-- Readings of alike states on which the same has expired so far. -/
structure Reading.Alike (r r' : Reading) : Prop where
  state : r.state.Alike r'.state
  expired : r'.expired = r.expired

section Reading

variable {r r' : Reading} {name : String} {defaultId : Option String}

/-- Either hidden variable is seen just if the other is, and then they are the same. -/
theorem inStep_seeHidden (hr : r.Alike r') {h h' : Hidden} (veils : Hidden.Veils r.state h h') :
    InStep Reading.Alike (seeHidden name h) r (seeHidden name h') r' := by
  unfold seeHidden
  rw [veils.isSpent]
  cases hs : h.isSpent with
  | true => exact .pure hr _
  | false =>
    refine .get ?_
    rw [veils.condition, meets_of_vars hr.state.vars]
    refine .lift hr fun met hmeets => ?_
    cases met with
    | false => exact .pure hr _
    | true =>
      obtain rfl : h' = h := veils.eq_of_seen hs hmeets
      by_cases hexpires : h'.hasExpiration = true
      · simp only [if_pos hexpires, if_true]
        exact ⟨rfl, hr.state.putHidden name { h' with isExpired := true },
          congrArg (· ++ [name]) hr.expired⟩
      · simp only [if_neg hexpires, if_true]
        exact .pure hr _

theorem inStep_resolveName (hr : r.Alike r') (body : List Char) :
    InStep Reading.Alike (resolveName defaultId body) r (resolveName defaultId body) r' := by
  unfold resolveName
  dsimp only
  refine .get ?_
  have hnames := veils_get? hr.state.hidden (String.ofList body)
  generalize Entries.get? (String.ofList body) r.state.hidden = found at hnames ⊢
  generalize Entries.get? (String.ofList body) r'.state.hidden = found' at hnames ⊢
  cases hnames with
  | some veils => exact inStep_seeHidden hr veils
  | none =>
    dsimp only
    cases feed? body with
    | some feed => exact .lift hr fun text _ => .pure hr _
    | none =>
      dsimp only
      rw [hr.state.vars]
      cases Entries.get? (String.ofList body) r.state.vars with
      | some x =>
        dsimp only
        rw [valueOf_of_vars hr.state.vars]
        exact .done hr _
      | none => exact .pure hr _

theorem inStep_resolve (hr : r.Alike r') (body : List Char) :
    InStep Reading.Alike (resolve defaultId body) r (resolve defaultId body) r' := by
  unfold resolve
  refine .get ?_
  dsimp only
  rw [tableOf?_of_tables hr.state.tables, rootOf?_of_vars hr.state.vars]
  split
  · exact .pure hr _
  · rw [rowNumber_of_vars hr.state.vars]
    exact .lift hr fun i _ => .pure hr _
  · split
    · exact .done hr _
    · exact inStep_resolveName hr body

theorem inStep_rounds (hr : r.Alike r') (depth : Nat) (s : List Char) :
    InStep Reading.Alike (rounds defaultId depth s) r (rounds defaultId depth s) r' := by
  induction depth generalizing s r r' with
  | zero => exact .pure hr _
  | succ depth ih =>
    unfold rounds
    split
    · exact .pure hr _
    · refine .bind (.bind (.mapM hr _ fun segment r r' hr => ?_) fun pieces r r' hr => .pure hr _)
        fun s r r' hr => ih hr s
      cases segment with
      | plain c => exact .pure hr _
      | hit raw body =>
        exact .bind (inStep_resolve hr body) fun v r r' hr => .lift hr fun text _ => .pure hr _

end Reading

end Macro

/-! ### Nothing is learnt -/

section Indistinguishable

variable {s t : State}

/-- A look at a hidden variable does not tell alike states apart. -/
theorem State.Alike.hiddenValue (h : Alike s t) {c : Scope} {x y : Script} (name : String)
    (hx : x.story.state? c = some s) (hy : y.story.state? c = some t) :
    ((Script.hiddenValue c name).alone y).1 = ((Script.hiddenValue c name).alone x).1 := by
  have hnames := veils_get? h.hidden name
  unfold Script.hiddenValue
  rw [Task.alone_get, Task.alone_get, hx, hy]
  dsimp only
  generalize Entries.get? name s.hidden = found at hnames ⊢
  generalize Entries.get? name t.hidden = found' at hnames ⊢
  cases hnames with
  | none => rfl
  | @some a b veils =>
    dsimp only
    rw [veils.isSpent, veils.condition, meets_of_vars h.vars]
    cases hs : a.isSpent with
    | true => rfl
    | false =>
      cases hmeets : s.meets a.condition with
      | error e => rfl
      | ok met =>
        cases met with
        | false => rfl
        | true => exact congrArg (fun x : Hidden => Except.ok x.value) (veils.eq_of_seen hs hmeets)

/-- States that differ only in values of hidden variables that cannot be seen give the same text, or the
same fault, for every text that is read; the same variables expire meanwhile, and what is left is alike
again. A look at a hidden variable and the summary are the same as well. -/
theorem State.Alike.indistinguishable (h : Alike s t) :
    (∀ defaultId text depth,
      let seen := s.replaceMacros defaultId text depth
      let seen' := t.replaceMacros defaultId text depth
      seen'.result = seen.result ∧ seen'.expired = seen.expired ∧
        seen'.state.expiryFlags = seen.state.expiryFlags ∧ Alike seen.state seen'.state) ∧
      (∀ (c : Scope) (x y : Script) name, x.story.state? c = some s → y.story.state? c = some t →
        ((Script.hiddenValue c name).alone y).1 = ((Script.hiddenValue c name).alone x).1) ∧
      t.summary = s.summary := by
  refine ⟨fun defaultId text depth => ?_, fun c x y name hx hy => h.hiddenValue name hx hy, h.summary⟩
  have hstart : Reading.Alike { state := s } { state := t } := ⟨h, rfl⟩
  have hrounds : InStep Reading.Alike (rounds defaultId depth text.toList) { state := s }
      (rounds defaultId depth text.toList) { state := t } := inStep_rounds hstart depth text.toList
  obtain ⟨hresult, hstate⟩ :=
    hrounds.bind (f := fun s => pure (String.ofList s)) fun s r r' hr => .pure hr _
  exact ⟨hresult.symm, hstate.expired, hstate.state.expiryFlags, hstate.state⟩

/-- Two variables that cannot be seen yet or any more, and one that can be seen once. Their names are put
together by a macro. -/
def guarded (early late : String) : State where
  vars := [("level", ⟨.text "number", .int 3, false, none⟩), ("kind", ⟨.text "string", .text "arly", false, none⟩)]
  hidden :=
    [("early", ⟨.text "level > 5", .text early, false, false⟩),
      ("late", ⟨.text "true", .text late, true, true⟩), ("now", ⟨.text "level == 3", .text "seen", true, false⟩)]

theorem alike_guarded (early late early' late' : String) :
    State.Alike (guarded early late) (guarded early' late') where
  vars := rfl
  tables := rfl
  hidden := by
    refine .cons ⟨rfl, rfl, .inr (.inr ?_)⟩ (.cons ⟨rfl, rfl, .inr (.inl rfl)⟩ (.cons ⟨rfl, .refl _ _⟩ .nil))
    have hfalse : (guarded "" "").meets (.text "level > 5") = .ok false :=
      congrArg Except.ok (by decide +kernel : Condition.holds "level > 5" (guarded "" "").values = false)
    intro htrue
    have hmeets := (meets_of_vars (s := guarded "" "") rfl _).symm.trans htrue
    dsimp only at hmeets
    rw [hfalse] at hmeets
    cases hmeets

theorem indistinguishable_guarded :
    State.Alike (guarded "a" "b") (guarded "c" "d") ∧
      ((guarded "a" "b").replaceMacros none "${e${kind}}${late}${now}${now}").result = .ok "seen" ∧
      ((guarded "c" "d").replaceMacros none "${e${kind}}${late}${now}${now}").result = .ok "seen" ∧
      (guarded "c" "d").summary = (guarded "a" "b").summary := by
  have h := alike_guarded "a" "b" "c" "d"
  obtain ⟨hread, -, hsummary⟩ := h.indistinguishable
  have hseen : ((guarded "a" "b").replaceMacros none "${e${kind}}${late}${now}${now}").result =
      .ok "seen" := by decide +kernel
  exact ⟨h, hseen, (hread none _ _).1.trans hseen, hsummary⟩

end Indistinguishable

end StoryState
