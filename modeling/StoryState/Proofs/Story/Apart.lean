import StoryState.Proofs.Service.Errand

/-!
Scopes side by side. What is done to a scope asks only for the lock of the scope and writes only what belongs
to it (`Act.confined`), so in whatever order things are done to a script, none that is done to one scope waits
for one that is done to another, unless the two scopes have the same lock. No two scopes have the same key in
the store; but the global scope has the lock of a character called "global" (`Scope.lockName_eq_iff`), and
things that are done to these two do wait for each other (`Act.scopes_apart`).
-/

namespace StoryState

/-! ### Names of locks -/

namespace Scope

variable {c d : Scope}

/-- One is the global scope, and the other one is that of a character called "global". -/
def Namesakes (c d : Scope) : Prop :=
  (c = .global ∧ d = .character "global") ∨ (c = .character "global" ∧ d = .global)

theorem lockName_character_eq_global {id : String} :
    (character id).lockName = global.lockName ↔ id = "global" := by
  have hglobal : global.lockName = "parse_commands_" ++ "global" := rfl
  rw [hglobal, lockName, ← String.toList_inj, ← String.toList_inj, String.toList_append,
    String.toList_append, List.append_cancel_left_eq]

/-- Two scopes have the same lock only if they are the same or have the same name. -/
theorem lockName_eq_iff : c.lockName = d.lockName ↔ c = d ∨ c.Namesakes d := by
  cases c with
  | global =>
    cases d with
    | global => simp
    | character id =>
      rw [eq_comm, lockName_character_eq_global]
      simp [Namesakes]
  | character id =>
    cases d with
    | global =>
      rw [lockName_character_eq_global]
      simp [Namesakes]
    | character id' =>
      rw [lockName, lockName, ← String.toList_inj, String.toList_append, String.toList_append,
        List.append_cancel_left_eq, String.toList_inj]
      simp [Namesakes]

end Scope

open Script

/-! ### What is done to a scope -/

/-- Whatever others do meanwhile, the task asks only for the lock of the scope and changes only what belongs to
it. -/
def ScriptTask.StaysAt {α : Type} (c : Scope) (t : ScriptTask α) : Prop :=
  t.Confined (· = c.lockName) (OnlyAt c)

namespace Script

variable {c : Scope}

/-- Who may write only to the scope leaves all others as they are. -/
theorem Write.onlyAt {s s' : Script} (h : Write (Scope.OpenTo (some c)) s s') : OnlyAt c s s' := by
  cases h with
  | setCell own x stays =>
    obtain rfl := own c rfl
    exact setCell_onlyAt
  | openWith own state =>
    obtain rfl := own c rfl
    exact openWith_onlyAt
  | save own payload =>
    obtain rfl := own c rfl
    exact save_onlyAt
  | rename all names =>
    -- Names belong to no scope, and one scope is not all of them.
    have heq : Scope.global = .character "" := (all .global c rfl).trans (all (.character "") c rfl).symm
    cases heq

theorem onlyAt_of_writes {s s' : Script} (h : Writes (Scope.OpenTo (some c)) s s') : OnlyAt c s s' := by
  induction h with
  | refl => exact .refl c s
  | tail _ hwrite ih => exact ih.trans hwrite.onlyAt

end Script

theorem Act.staysAt {x : Act} {c : Scope} (h : x.scope? = some c) : x.task.StaysAt c := by
  have hmade := x.made
  rw [h] at hmade
  exact hmade.confined (fun d hd => congrArg Scope.lockName (hd c rfl)) fun _ _ => onlyAt_of_writes

/-! ### Acts side by side -/

namespace Act

variable {acts : List Act} {s : Script} {g : Log String} {p : Pool String Script Unit} {i : Nat} {x : Act}
  {c d : Scope}

/-- The locks for which the act of a number may ask: the lock of its scope, if it is done to one. -/
def Locks (acts : List Act) (i : Nat) (key : String) : Prop :=
  ∀ c ∈ (acts[i]?).bind scope?, key = c.lockName

/-- What the act of a number may change: what belongs to its scope, if it is done to one. -/
def Changes (acts : List Act) (i : Nat) (s s' : Script) : Prop :=
  ∀ c ∈ (acts[i]?).bind scope?, OnlyAt c s s'

theorem changes_refl (acts : List Act) (i : Nat) (s : Script) : Changes acts i s s := fun c _ => .refl c s

theorem changes_trans (acts : List Act) (i : Nat) {s t u : Script} (h : Changes acts i s t)
    (h' : Changes acts i t u) : Changes acts i s u := fun c hc => (h c hc).trans (h' c hc)

/-- Acts that run side by side stay confined to their scopes. -/
theorem confined (run : Pool.Run (Pool.start s (acts.map task)) g p) :
    p.Confined (Locks acts) (Changes acts) := by
  refine run.confined (changes_refl acts) (changes_trans acts) ?_
  refine Pool.confined_start fun i t ht => ?_
  rw [List.getElem?_map, Option.map_eq_some_iff] at ht
  obtain ⟨x, hx, rfl⟩ := ht
  unfold Locks Changes
  rw [hx, Option.bind_some]
  cases hc : x.scope? with
  | none => exact (Task.confined_free x.task).mono (fun _ _ _ h => nomatch h) fun _ _ _ _ h => nomatch h
  | some c =>
    refine Task.Confined.mono (staysAt hc) (fun key hkey d hd => ?_) fun s s' h d hd => ?_
    · cases hd
      exact hkey
    · cases hd
      exact h

/-- A turn of an act leaves what belongs to other scopes than its own as it is. -/
theorem onlyAt_turn (run : Pool.Run (Pool.start s (acts.map task)) g p) (hx : acts[i]? = some x)
    (hc : x.scope? = some c) : OnlyAt c p.state (p.turn i).state := by
  have hstep : Changes acts i p.state (p.turn i).state :=
    ((confined run).turn (changes_refl acts) (changes_trans acts) i).1
  refine hstep c ?_
  rw [hx]
  exact hc

/-- Who stands at a lock does something to a scope with this lock. -/
theorem eq_lockName (run : Pool.Run (Pool.start s (acts.map task)) g p) (hx : acts[i]? = some x)
    (hc : x.scope? = some c) {key : String} (hi : i ∈ p.lines.line key) : key = c.lockName := by
  refine (confined run).lines i key hi c ?_
  rw [hx]
  exact hc

/-- Whatever is done to a script, none that is done to the first scope ever waits for a lock that is held by
one that is done to the second scope. -/
def Undisturbed (c d : Scope) : Prop :=
  ∀ (acts : List Act) (s : Script) (g : Log String) (p : Pool String Script Unit),
    Pool.Run (Pool.start s (acts.map task)) g p →
      ∀ (i j : Nat) (x y : Act), acts[i]? = some x → x.scope? = some c → acts[j]? = some y →
        y.scope? = some d → ∀ key, p.lines.Waits i key → ¬ p.lines.Holds j key

theorem undisturbed (h : c.lockName ≠ d.lockName) : Undisturbed c d := by
  intro acts s g p run i j x y hx hc hy hd key hwaits hholds
  have hkey : key = c.lockName := eq_lockName run hx hc (Lines.mem_line_iff.2 (.inr hwaits))
  have hkey' : key = d.lockName := eq_lockName run hy hd (Lines.mem_line_iff.2 (.inl hholds))
  exact h (hkey.symm.trans hkey')

/-! ### Scopes with the same lock -/

/-- A script of which nothing has been opened yet, with a store that lets others run before it has loaded. -/
def unopened : Script := ⟨{ scriptId := none }, { loadRests := 1 }⟩

/-- In a turn in which a scope of it is opened, the line at the lock of the scope is joined, and nothing else
is done. -/
theorem turn_opened (c : Scope) (i : Nat) (lines : Lines String Nat) :
    ∃ left again, (opened c).task.turn i unopened lines [] =
      ⟨unopened, (lines.join c.lockName i).1, [], left, again⟩ := by
  have hturn : ∃ inside outside, (opened c).task.turn i unopened lines [] =
      if (lines.join c.lockName i).2 then ⟨unopened, (lines.join c.lockName i).1, [], inside, true⟩
      else ⟨unopened, (lines.join c.lockName i).1, [], outside, false⟩ := by
    cases c <;> exact ⟨_, _, rfl⟩
  obtain ⟨inside, outside, hturn⟩ := hturn
  rw [hturn]
  split
  · exact ⟨inside, true, rfl⟩
  · exact ⟨outside, false, rfl⟩

/-- Two scopes of it that are opened side by side. -/
def openingBoth (c d : Scope) : Pool String Script Unit := Pool.start unopened ([opened c, opened d].map task)

/-- The second one comes first and holds its lock, and the first one joins the line at its own. -/
theorem turns_openingBoth (c d : Scope) : 0 ∈ ((openingBoth c d).turn 1).ready ∧
    (((openingBoth c d).turn 1).turn 0).lines =
      (Lines.join c.lockName 0 (Lines.join d.lockName 1 []).1).1 := by
  obtain ⟨left, again, hfirst⟩ := turn_opened d 1 []
  obtain ⟨left', again', hsecond⟩ := turn_opened c 0 (Lines.join d.lockName 1 []).1
  have hturn : (openingBoth c d).turn 1 =
      ((opened d).task.turn 1 unopened [] []).pool [(opened c).task, (opened d).task] 1 [0] := rfl
  rw [hturn, hfirst]
  refine ⟨List.mem_cons_self, ?_⟩
  show ((opened c).task.turn 0 unopened (Lines.join d.lockName 1 []).1 []).lines = _
  rw [hsecond]

/-- Of two scopes with the same lock that are opened side by side, the second one may hold it while the first
one waits for it. -/
theorem exists_waits (h : c.lockName = d.lockName) :
    ∃ g p, Pool.Run (openingBoth c d) g p ∧ p.lines.Waits 0 d.lockName ∧ p.lines.Holds 1 d.lockName := by
  obtain ⟨hready, hlines⟩ := turns_openingBoth c d
  have hline : (((openingBoth c d).turn 1).turn 0).lines.line d.lockName = [1, 0] := by
    rw [hlines, h]
    simp [Lines.join, Lines.line, Lines.setLine]
  have hsecond : 1 ∈ (openingBoth c d).ready := List.mem_cons_of_mem 0 List.mem_cons_self
  refine ⟨_, _, .turn hsecond (.turn hready (.stop _)), ?_, ?_⟩
  · rw [Lines.Waits, hline]
    exact List.mem_cons_self
  · rw [Lines.Holds, hline]
    rfl

/-- Two scopes have different keys in the store, and a turn of what is done to the first one leaves what belongs
to the second one as it is, in memory and in the store. What is done to the first one never waits for what is
done to the second one, unless one of them is the global scope and the other one that of a character called
"global": only these have the same lock. -/
theorem scopes_apart (c d : Scope) :
    (c.storageKey = d.storageKey ↔ c = d) ∧ (c.lockName = d.lockName ↔ c = d ∨ c.Namesakes d) ∧
      (∀ (acts : List Act) (s : Script) (g : Log String) (p : Pool String Script Unit),
        Pool.Run (Pool.start s (acts.map task)) g p → ∀ (i : Nat) (x : Act),
          acts[i]? = some x → x.scope? = some c → d ≠ c → Agree d p.state (p.turn i).state) ∧
      (c ≠ d → (Undisturbed c d ↔ ¬ c.Namesakes d)) := by
  refine ⟨⟨Scope.storageKey_injective, congrArg _⟩, Scope.lockName_eq_iff,
    fun _ _ _ _ run _ _ hx hc hd => (onlyAt_turn run hx hc).2 d hd,
    fun hcd => ⟨fun hfree hnames => ?_, fun hnames => ?_⟩⟩
  · obtain ⟨g, p, run, hwaits, hholds⟩ := exists_waits (Scope.lockName_eq_iff.2 (.inr hnames))
    exact hfree _ unopened g p run 0 1 (opened c) (opened d) rfl rfl rfl rfl _ hwaits hholds
  · exact undisturbed fun hlock => (Scope.lockName_eq_iff.1 hlock).elim hcd hnames

/-- The global scope, which is opened beside that of a character called "global", waits for it. -/
theorem waits_for_namesake :
    (Scope.global ≠ .character "global") ∧ (Scope.global.lockName = (Scope.character "global").lockName) ∧
      ∃ g p, Pool.Run (openingBoth .global (.character "global")) g p ∧
        p.lines.Waits 0 "parse_commands_global" ∧ p.lines.Holds 1 "parse_commands_global" :=
  ⟨by decide, by decide, exists_waits (c := .global) (d := .character "global") (by decide)⟩

end Act

end StoryState
