import StoryState.Proofs.Story.Chance
import StoryState.Proofs.Story.Expiring

/-!
What can be done to a script one after another, and how often a hidden variable with an expiry is
shown meanwhile. It is shown at most once, and once more for each time that a scope which is open is
opened anew while the store lacks the expiry (`countP_shows_le`); that does happen
(`shows_twice_reopened`).
-/

namespace StoryState

open Macro Script

/-! ### Acts -/

/-- What can be done to a script. A fault may be turned into an answer. -/
inductive Act where
  | deed (d : Deed)
  | tried (d : Deed) (f : Answer → Answer) (otherwise : Answer)
  | opened (c : Scope)

/-- The macros that a deed evaluates on a scope. -/
def Deed.evaluations (c : Scope) (d : Deed) (s : Script) : List Evaluation :=
  match d with
  | .operation (.readMacros d text) => if d = c then s.evaluations c text else []
  | .operation (.renderMacros _ d text) =>
    match (ensureOpen d).alone s with
    | (.ok _, s₁) => if d = c then s₁.evaluations c text else []
    | (.error _, _) => []
  | _ => []

/-- Whether a deed opens a scope from the store even if it is open. -/
def Deed.opens (c : Scope) : Deed → Bool
  | .initialise d none => d = c
  | _ => false

/-- The operation on a scope leaves a hidden variable alone: it does not register, set or drop it. -/
def ScopeCall.Spares (name : String) (names : TagNames) : ScopeCall → Prop
  | .applyChanges text => name ∉ Change.hiddenNames names text
  | .applyRegistrations text => name ∉ Registration.hiddenNames names text
  | .registerHidden other _ | .dropHidden other => other ≠ name
  | _ => True

/-- The deed leaves a hidden variable of a scope alone, and gives the scope no other state. -/
def Deed.Spares (c : Scope) (name : String) (names : TagNames) : Deed → Prop
  | .operation (.on d call) => d = c → call.Spares name names
  | .initialise d config => d = c → config = none
  | .putSnapshot _ => False
  | _ => True

namespace Act

/-- What an act leaves behind. -/
def after (s : Script) : Act → Script
  | .deed d => (d.task.alone s).2
  | .tried d f otherwise => ((orElse (do return f (← d.task)) otherwise).alone s).2
  | .opened c => ((openedState c).alone s).2

/-- The macros that an act evaluates on a scope. -/
def evaluations (c : Scope) (s : Script) : Act → List Evaluation
  | .deed d | .tried d _ _ => d.evaluations c s
  | .opened _ => []

/-- Whether an act gives a hidden variable that has expired back from the store. -/
def revives (c : Scope) (name : String) (s : Script) : Act → Bool
  | .deed d | .tried d _ _ => d.opens c && s.lags c name
  | .opened _ => false

/-- Arguments that a document can hold. -/
def Fit : Act → Prop
  | .deed d | .tried d _ _ => d.Fit
  | .opened _ => True

/-- The act leaves a hidden variable of a scope alone, and gives the scope no other state. -/
def Spares (c : Scope) (name : String) (names : TagNames) : Act → Prop
  | .deed d | .tried d _ _ => d.Spares c name names
  | .opened _ => True

end Act

section Step

variable {c d : Scope} {name : String} {h : Hidden} {s : Script}

/-- An operation on a scope that leaves the hidden variable alone keeps it. -/
theorem ScopeCall.Effect.keeps {op : ScopeCall} {names : TagNames} {m m' : State}
    (h : op.Effect names m m') (spares : op.Spares name names) :
    Entries.get? name m'.hidden = Entries.get? name m.hidden := by
  cases h with
  | applyChanges text => exact State.applyChanges_keeps spares m
  | applyRegistrations text => exact State.applyRegistrations_keeps spares m
  | registerHidden other x => exact Entries.get?_put_of_ne spares _ _
  | dropHidden other => exact Entries.get?_erase_of_ne spares _
  | _ => rfl

theorem turns_scopeCall {call : ScopeCall} (fit : call.Fit)
    (spares : d = c → call.Spares name s.story.names) :
    Turns c name h [] 0 s ((call.task d).alone s).2 := by
  by_cases hd : d = c
  · subst hd
    exact (call.rewrites d).turns (fun _ _ _ h => h.storable fit) fun _ _ h => h.keeps (spares rfl)
  · exact .of_onlyAt ((call.guarded d).onlyAt s) (Ne.symm hd)

theorem turns_open : Turns c name h [] 0 s ((ensureOpen d).alone s).2 := by
  by_cases hd : d = c
  · exact hd ▸ turns_ensureOpen
  · exact .of_onlyAt (local_ensureOpen.onlyAt s) (Ne.symm hd)

/-- What is shown on another scope does not matter. -/
theorem turns_readMacros {text : String} (expires : h.hasExpiration = true) :
    Turns c name h (if d = c then s.evaluations c text else []) 0 s
      ((replaceMacros d text).alone s).2 := by
  by_cases hd : d = c
  · subst hd
    rw [if_pos rfl]
    exact turns_replaceMacros expires
  · rw [if_neg hd]
    exact .of_onlyAt onlyAt_replaceMacros (Ne.symm hd)

theorem turns_renderMacros {history : History} {text : String} (expires : h.hasExpiration = true) :
    Turns c name h ((Deed.operation (.renderMacros history d text)).evaluations c s) 0 s
      ((renderMacros history d text).alone s).2 := by
  have hopen : Turns c name h [] 0 s ((ensureOpen d).alone s).2 := turns_open
  rw [alone_renderMacros]
  unfold Deed.evaluations
  dsimp only
  generalize (ensureOpen d).alone s = p at hopen
  obtain ⟨r, s₁⟩ := p
  cases r with
  | error e => exact hopen
  | ok u => exact hopen.trans (turns_renderOpen (turns_readMacros expires))

/-- What a task answers does not matter. -/
theorem turns_map {α β : Type} {t : ScriptTask α} {f : α → β} {evaluations : List Evaluation}
    {regained : Nat} (ht : Turns c name h evaluations regained s (t.alone s).2) :
    Turns c name h evaluations regained s ((t >>= fun a => pure (f a)).alone s).2 := by
  rw [Task.alone_map]
  exact ht

/-- A deed that leaves a hidden variable alone shows it only if there is a chance, and gives one back
only by opening the scope anew while the store lags. -/
theorem Deed.turns (expires : h.hasExpiration = true) {x : Deed} (fit : x.Fit)
    (spares : x.Spares c name s.story.names) :
    Turns c name h (x.evaluations c s) (x.opens c && s.lags c name).toNat s (x.task.alone s).2 := by
  cases x with
  | operation op =>
    refine Turns.gain ?_
    cases op with
    | on d call => exact turns_scopeCall fit spares
    | readMacros d text => exact turns_map (turns_readMacros expires)
    | renderMacros history d text => exact turns_map (turns_renderMacros expires)
    | flush => exact turns_map turns_flushAll
  | initialise d config =>
    refine turns_map ?_
    rw [holding, Task.alone_holding]
    by_cases hd : d = c
    · subst hd
      obtain rfl := spares rfl
      have hopens : (Deed.initialise d none).opens d = true := decide_eq_true rfl
      rw [hopens, Bool.true_and]
      exact turns_initialise
    · exact (Turns.of_onlyAt ((local_initialise config).onlyAt s) (Ne.symm hd)).gain
  | putSnapshot snap => exact spares.elim
  | takeSnapshot =>
    refine turns_map ?_
    have hsame : (Script.takeSnapshot.alone s).2 = s :=
      endsIn_takeSnapshot (Task.endsIn_alone (fun _ => weather_of_eq rfl) Script.takeSnapshot s)
    rw [hsame]
    exact (Turns.refl s).gain
  | renameTags overrides =>
    have hsame : Same c s ((Deed.renameTags overrides).task.alone s).2 := ⟨by cases c <;> rfl, rfl⟩
    exact (Turns.of_same hsame).gain
  | look f => exact (Turns.refl s).gain

/-- A fault that is turned into an answer changes nothing but the answer. -/
theorem Act.after_tried (x : Deed) (f : Answer → Answer) (otherwise : Answer) :
    (Act.tried x f otherwise).after s = (x.task.alone s).2 := by
  show ((orElse (x.task >>= fun a => pure (f a)) otherwise).alone s).2 = _
  rw [orElse, Task.alone_tryCatch, Task.alone_map]

theorem Act.turns (expires : h.hasExpiration = true) {x : Act} (fit : x.Fit)
    (spares : x.Spares c name s.story.names) :
    Turns c name h (x.evaluations c s) (x.revives c name s).toNat s (x.after s) := by
  cases x with
  | deed x => exact x.turns expires fit spares
  | tried x f otherwise =>
    rw [Act.after_tried]
    exact x.turns expires fit spares
  | opened d =>
    show Turns c name h [] 0 s ((openedState d).alone s).2
    rw [alone_openedState]
    exact turns_open

end Step

/-! ### One act after another -/

namespace Act

/-- What acts leave behind. -/
def afterAll : List Act → Script → Script
  | [], s => s
  | x :: xs, s => afterAll xs (x.after s)

/-- The macros that acts evaluate on a scope, in order. -/
def allEvaluations (c : Scope) : List Act → Script → List Evaluation
  | [], _ => []
  | x :: xs, s => x.evaluations c s ++ allEvaluations c xs (x.after s)

/-- How often acts give a hidden variable back from the store. -/
def revivals (c : Scope) (name : String) : List Act → Script → Nat
  | [], _ => 0
  | x :: xs, s => (x.revives c name s).toNat + revivals c name xs (x.after s)

/-- All acts leave a hidden variable of a scope alone. -/
def AllSpare (c : Scope) (name : String) : List Act → Script → Prop
  | [], _ => True
  | x :: xs, s => x.Spares c name s.story.names ∧ AllSpare c name xs (x.after s)

section Run

variable {c : Scope} {name : String} {h : Hidden} {xs : List Act} {s : Script}

theorem turns_all (expires : h.hasExpiration = true) (fit : ∀ x ∈ xs, x.Fit)
    (spare : AllSpare c name xs s) :
    Turns c name h (allEvaluations c xs s) (revivals c name xs s) s (afterAll xs s) := by
  induction xs generalizing s with
  | nil => exact .refl s
  | cons x xs ih =>
    have hfirst := x.turns expires (fit x List.mem_cons_self) spare.1
    exact hfirst.trans (ih (fun y hy => fit y (List.mem_cons_of_mem _ hy)) spare.2)

/-- However it is read, a hidden variable with an expiry that is left alone is shown at most once, and
once more for each time that its scope is opened anew while the store lacks its expiry. Whenever it is
not shown its macro stands for the empty text, or fails. -/
theorem countP_shows_le (expires : h.hasExpiration = true) (holds : Holds c name h s)
    (fit : ∀ x ∈ xs, x.Fit) (spare : AllSpare c name xs s) :
    (allEvaluations c xs s).countP (·.shows name) ≤ 1 + revivals c name xs s ∧
      Honest name h (allEvaluations c xs s) := by
  obtain ⟨-, hle, hhonest⟩ := turns_all expires fit spare holds
  have hchance := Hidden.chances_le_one (s.current? c name)
  exact ⟨by omega, hhonest⟩

end Run

/-! ### A hidden variable that is shown twice -/

section Reopened

/-- A state with a hidden variable that can be read once. -/
def fleetingState : State := { hidden := [("h", fleeting)] }

/-- The text of its payload. -/
def fleetingText : String := String.ofList (Json.write .pretty 0 fleetingState.toValue)

/-- A script that has stored it, and of which nothing has been opened yet. -/
def fleetingStored : Script := ⟨{ scriptId := none }, { payloads := [("global", fleetingText.toUTF8)] }⟩

/-- Opening the global scope; a fault is turned into an answer. -/
def reopen : Act := .tried (.initialise .global none) (fun _ => .flag true) (.flag false)

/-- Reading the macro of the hidden variable. -/
def reveal : Act := .deed (.operation (.readMacros .global "${h}"))

/-- The scope is opened and the macro is read, and then both are done again. -/
def reopening : List Act := [reopen, reveal, reopen, reveal]

theorem after_reopen {s : Script} {state : State} (works : s.store.outage = .none)
    (found : s.storedState .global = some state) : reopen.after s = openWith .global state s := by
  rw [reopen, after_tried]
  show ((Task.holding _ (initialise .global none) >>= fun a => pure _).alone s).2 = _
  rw [Task.alone_map, Task.alone_holding, alone_initialise_of_works works, found]

theorem storedState_fleeting {s : Script} (h : s.payload? .global = some fleetingText.toUTF8) :
    s.storedState .global = some fleetingState :=
  storedState_of_payload storable_fleeting rfl h

theorem countP_fleeting : (fleetingState.evaluations none "${h}").countP (·.shows "h") = 1 := rfl

theorem evaluations_reveal {s : Script} (hid : s.story.scriptId = none) :
    reveal.evaluations .global (openWith .global fleetingState s) =
      fleetingState.evaluations none "${h}" := by
  show fleetingState.evaluations s.story.scriptId "${h}" = _
  rw [hid]

theorem allEvaluations_reopening : allEvaluations .global reopening fleetingStored =
    fleetingState.evaluations none "${h}" ++ fleetingState.evaluations none "${h}" := by
  have hfirst : reopen.after fleetingStored = openWith .global fleetingState fleetingStored :=
    after_reopen rfl (storedState_fleeting rfl)
  generalize hs : reveal.after (openWith .global fleetingState fleetingStored) = s
  have hagain : reopen.after s = openWith .global fleetingState s :=
    after_reopen (by rw [← hs]; rfl) (storedState_fleeting (by rw [← hs]; rfl))
  have hid : s.story.scriptId = none := by rw [← hs]; rfl
  have hnone : ∀ s, reopen.evaluations .global s = [] := fun _ => rfl
  simp only [reopening, allEvaluations, hfirst, hs, hagain, hnone, evaluations_reveal hid, List.nil_append,
    List.append_nil, evaluations_reveal (s := fleetingStored) rfl]

theorem holds_fleetingStored : Holds .global "h" fleeting fleetingStored := by
  refine holds_fresh fun x hx => ?_
  rw [stored?, storedState_fleeting rfl] at hx
  cases hx
  rfl

theorem fit_reopening : ∀ x ∈ reopening, x.Fit := by
  simp [reopening, reopen, reveal, Fit, Deed.Fit, Operation.Fit, fitConfig_none]

theorem allSpare_reopening : AllSpare .global "h" reopening fleetingStored :=
  ⟨fun _ => rfl, trivial, fun _ => rfl, trivial, trivial⟩

theorem countP_shows_le_reopening :
    (allEvaluations .global reopening fleetingStored).countP (·.shows "h") ≤
      1 + revivals .global "h" reopening fleetingStored ∧
      Honest "h" fleeting (allEvaluations .global reopening fleetingStored) :=
  countP_shows_le rfl holds_fleetingStored fit_reopening allSpare_reopening

/-- A scope that is opened again before what has expired is stored shows it again. -/
theorem shows_twice_reopened :
    fleeting.hasExpiration = true ∧ Holds .global "h" fleeting fleetingStored ∧
      (∀ x ∈ reopening, x.Fit) ∧ AllSpare .global "h" reopening fleetingStored ∧
      (allEvaluations .global reopening fleetingStored).countP (·.shows "h") = 2 := by
  refine ⟨rfl, holds_fleetingStored, fit_reopening, allSpare_reopening, ?_⟩
  rw [allEvaluations_reopening, List.countP_append, countP_fleeting]

end Reopened

end Act

end StoryState
