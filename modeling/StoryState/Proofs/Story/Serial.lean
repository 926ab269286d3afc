import StoryState.Proofs.Story.Call
import StoryState.Proofs.Task.Sound

/-!
Calls that are started together. In whatever order they take their turns, each scope sees its
operations one after another, in the order in which they obtained its lock, and a snapshot sees each
scope between two of them (`Serialized`).
-/

namespace StoryState

open Script

/-! ### One at a time -/

section Orders

variable (calls : List Call)

/-- The calls on a scope among some calls, which go by their numbers. -/
def callsOn (c : Scope) (order : List Nat) : List Nat :=
  order.filter fun i => calls[i]?.bind Call.scope? = some c

/-- The calls on a scope in the order in which they obtained its lock. -/
def serialOrder (c : Scope) (g : Log String) : List Nat := callsOn calls c (g.takers c.lockName)

/-- The script after some calls, each of which is run by itself. -/
def oneByOne (s : Script) (order : List Nat) : Script :=
  order.foldl (fun s i =>
    match calls[i]? with
    | some call => (call.task.alone s).2
    | none => s) s

/-- What a snapshot holds for a scope. -/
def Snapshot.Holds (snap : Snapshot) : Scope → State → Prop
  | .global, state => snap.global = state
  | .character id, state => (id, state) ∈ snap.characters

/-- What is seen of a scope is its state between two of its operations, run one at a time from `s`. -/
def SeenBetween (s : Script) (c : Scope) (state : Option State) (g : Log String) : Prop :=
  ∃ before, before <+: serialOrder calls c g ∧ (oneByOne calls s before).story.state? c = state

/-- The calls have finished as if each scope's operations had been run one at a time from `s`. -/
structure Serialized (s : Script) (g : Log String) (q : Pool String Script Answer) : Prop where
  finished : q.Finished
  /-- Each operation obtained the lock of its scope once. -/
  order : ∀ c, (serialOrder calls c g).Perm (callsOn calls c (List.range calls.length))
  /-- The state in memory and the stored payload are those of the operations in this order. -/
  scopes : ∀ c, Agree c q.state (oneByOne calls s (serialOrder calls c g))
  /-- So is what each operation answered, or why it stopped. -/
  outcomes : ∀ (i : Nat) (c : Scope) (op : ScopeCall) (before : List Nat),
    calls[i]? = some (.on c op) → before ++ [i] <+: serialOrder calls c g →
      q.tasks[i]? = some (.done ((op.task c).alone (oneByOne calls s before)).1)
  /-- A snapshot holds for each scope the state between two operations in this order. -/
  snapshots : ∀ i : Nat, calls[i]? = some .snapshot →
    ∃ snap, q.tasks[i]? = some (.done (.ok (.snapshot snap))) ∧
      ∀ c state, snap.Holds c state → SeenBetween calls s c (some state) g

variable {calls} {c d : Scope} {i : Nat} {s : Script} {order : List Nat} {g g' : Log String}

theorem callsOn_append_self {call : Call} (hi : calls[i]? = some call) (hc : call.scope? = some c) :
    callsOn calls c (order ++ [i]) = callsOn calls c order ++ [i] := by
  simp [callsOn, List.filter_append, hi, hc]

theorem callsOn_append_of_ne {call : Call} (hi : calls[i]? = some call) (hc : call.scope? ≠ some c) :
    callsOn calls c (order ++ [i]) = callsOn calls c order := by
  simp [callsOn, List.filter_append, hi, hc]

theorem oneByOne_append {call : Call} (hi : calls[i]? = some call) :
    oneByOne calls s (order ++ [i]) = (call.task.alone (oneByOne calls s order)).2 := by
  simp [oneByOne, List.foldl_append, hi]

/-- As the log grows, so does the order. -/
theorem serialOrder_mono (h : g <+: g') : serialOrder calls c g <+: serialOrder calls c g' :=
  ((h.filter _).map _).filter _

theorem SeenBetween.mono {state : Option State} (h : SeenBetween calls s c state g) (hg : g <+: g') :
    SeenBetween calls s c state g' := by
  obtain ⟨before, hbefore, hstate⟩ := h
  exact ⟨before, hbefore.trans (serialOrder_mono hg), hstate⟩

end Orders

/-! ### What the calls agree upon -/

section Protocol

variable (calls : List Call) (s₀ : Script)

/-- A lock protects the scopes that have it. While nobody holds it, these are as after the operations
of those who have held it, one at a time. -/
def scopeProtocol : Protocol String Script where
  Always := SameRules
  Others key s s' := ∀ c : Scope, c.lockName = key → Agree c s s'
  Free key s l := ∀ c : Scope, c.lockName = key → Agree c s (oneByOne calls s₀ (callsOn calls c l))
  rank _ := 0
  lenient := False
  always_refl := .refl
  always_trans := .trans
  others_refl _ s c _ := .refl c s
  others_trans h h' c hc := (h c hc).trans (h' c hc)
  free_others h _ free c hc := (h c hc).symm.trans (free c hc)

/-- What a call has answered when it is done. -/
def Answered (i : Nat) (r : Except Fault Answer) (g : Log String) : Prop :=
  (∀ c op, calls[i]? = some (.on c op) → g.taken i = [c.lockName] ∧
    ∃ before, before ++ [i] <+: serialOrder calls c g ∧
      r = ((op.task c).alone (oneByOne calls s₀ before)).1) ∧
  (calls[i]? = some .snapshot → ∃ snap, r = .ok (.snapshot snap) ∧
    ∀ c state, snap.Holds c state → SeenBetween calls s₀ c (some state) g)

variable {calls s₀}

theorem steady_answered : Steady (scopeProtocol calls s₀) fun i r _ g => Answered calls s₀ i r g := by
  rintro i r s s' g g' - htaken hlog ⟨hop, hsnap⟩
  refine ⟨fun c op hi => ?_, fun hi => ?_⟩
  · obtain ⟨hlock, before, hbefore, hr⟩ := hop c op hi
    exact ⟨htaken.trans hlock, before, hbefore.trans (serialOrder_mono hlog), hr⟩
  · obtain ⟨snap, hr, hholds⟩ := hsnap hi
    exact ⟨snap, hr, fun c state hst => (hholds c state hst).mono hlog⟩

/-- An operation abides by the protocol. -/
theorem ScopeCall.keeps {i : Nat} {c : Scope} {op : ScopeCall} {s : Script} {g : Log String}
    (hi : calls[i]? = some (.on c op)) (own : g.taken i = []) :
    (op.task c).Keeps (scopeProtocol calls s₀) i [] s g
      (Ends (fun i r _ g => Answered calls s₀ i r g) i) := by
  obtain ⟨α, body, f, hlocal, htask⟩ := op.guarded c
  rw [htask]
  refine Task.Keeps.bind (Task.keeps_holding (by simp) fun s₁ g₁ hm free s₂ g₂ hm' => ?_)
  generalize hbefore : callsOn calls c (g₁.takers c.lockName) = before
  generalize hs : oneByOne calls s₀ before = s'
  have hlock : ∀ d : Scope, d.lockName = c.lockName → Agree d s₁ s₂ := hm'.others _ (by simp)
  have hagree : Agree c s₂ s' := by
    rw [← hs, ← hbefore]
    exact (hlock c rfl).symm.trans (free c rfl)
  have alone : (op.task c).alone s' = ((body.alone s').1.map f, (body.alone s').2) := by
    rw [htask, Task.alone_map, holding, Task.alone_holding]
  refine ((hlocal s₂ s' hagree).keeps (fun t t' _ hothers => hothers _ (by simp)) fun t t' honly =>
    ⟨honly.1, fun key hkey d hd => honly.2 d ?_⟩).mono ?_
  · rintro rfl
    exact hkey (by simp [hd])
  · rintro r held s₃ g₃ ⟨rfl, ⟨rfl, hagree₃, hbeside⟩, -, htakers, htaken, -⟩
    have takers : g₃.takers c.lockName = g₁.takers c.lockName ++ [i] := by
      rw [htakers _ (by simp), hm'.takers _ (by simp)]
      simp
    have taken : g₃.taken i = [c.lockName] := by
      rw [htaken, hm'.taken, Log.taken_append, hm.taken, own]
      simp
    have horder : serialOrder calls c g₃ = before ++ [i] := by
      rw [serialOrder, takers, callsOn_append_self hi rfl, hbefore]
    refine ⟨rfl, .inr ⟨fun d hd => ?_, fun g₄ hm'' => ?_⟩⟩
    · rw [takers]
      by_cases hcd : d = c
      · subst hcd
        rw [callsOn_append_self hi rfl, oneByOne_append hi, hbefore, hs]
        show Agree d s₃ ((op.task d).alone s').2
        rw [alone]
        exact hagree₃
      · have hne : (Call.on c op).scope? ≠ some d := fun h => hcd (Option.some.inj h).symm
        rw [callsOn_append_of_ne hi hne]
        exact (hbeside d hcd hd).symm.trans ((hlock d hd).symm.trans (free d hd))
    · have answered : Answered calls s₀ i ((body.alone s').1.map f) g₄ := by
        refine ⟨fun d op' hi' => ?_, fun hi' => ?_⟩
        · rw [hi] at hi'
          cases hi'
          refine ⟨hm''.taken.trans taken, before, ?_, ?_⟩
          · rw [← horder]
            exact serialOrder_mono hm''.log
          · rw [hs, alone]
        · rw [hi] at hi'
          cases hi'
      rcases hrun : body.alone s' with ⟨_ | a, t⟩ <;> (rw [hrun] at answered; exact ⟨rfl, answered⟩)

/-! ### Snapshots -/

theorem keeps_lockedState {i : Nat} {c : Scope} {s : Script} {g : Log String}
    (hi : calls[i]? = some .snapshot) :
    (lockedState c).Keeps (scopeProtocol calls s₀) i [] s g fun r held _ g' =>
      held = [] ∧ g <+: g' ∧ ∃ state, r = .ok state ∧ SeenBetween calls s₀ c state g' := by
  refine Task.keeps_holding (by simp) fun s₁ g₁ hm free s₂ g₂ hm' => ?_
  have hlock : ∀ d : Scope, d.lockName = c.lockName → Agree d s₁ s₂ := hm'.others _ (by simp)
  have takers : g₂.takers c.lockName = g₁.takers c.lockName ++ [i] := by
    rw [hm'.takers _ (by simp)]
    simp
  have hcalls : ∀ d, callsOn calls d (g₂.takers c.lockName) = callsOn calls d (g₁.takers c.lockName) := by
    intro d
    rw [takers, callsOn_append_of_ne hi]
    simp [Call.scope?]
  have hfree : ∀ d : Scope, d.lockName = c.lockName →
      Agree d s₂ (oneByOne calls s₀ (callsOn calls d (g₂.takers c.lockName))) := by
    intro d hd
    rw [hcalls]
    exact (hlock d hd).symm.trans (free d hd)
  refine ⟨rfl, .inr ⟨hfree, fun g₃ hm'' => ⟨rfl, ?_, _, rfl, _, ?_, (hfree c rfl).state?.symm⟩⟩⟩
  · exact hm.log.trans ((List.prefix_append _ _).trans (hm'.log.trans hm''.log))
  · exact serialOrder_mono hm''.log

theorem keeps_characterStates {i : Nat} {ids : List String} {s : Script} {g : Log String}
    (hi : calls[i]? = some .snapshot) :
    (characterStates ids).Keeps (scopeProtocol calls s₀) i [] s g fun r held _ g' =>
      held = [] ∧ g <+: g' ∧ ∃ states, r = .ok states ∧
        ∀ id state, (id, state) ∈ states → SeenBetween calls s₀ (.character id) (some state) g' := by
  induction ids generalizing s g with
  | nil => exact ⟨rfl, List.prefix_refl g, [], rfl, by simp⟩
  | cons id ids ih =>
    unfold characterStates
    refine Task.Keeps.bind ((keeps_lockedState hi).mono ?_)
    rintro r held s₁ g₁ ⟨rfl, hg₁, state, rfl, hseen⟩
    dsimp only
    refine Task.Keeps.bind (ih.mono ?_)
    rintro r held s₂ g₂ ⟨rfl, hg₂, states, rfl, hstates⟩
    refine ⟨rfl, hg₁.trans hg₂, _, rfl, fun id' state' hmem => ?_⟩
    rcases List.mem_append.1 hmem with hmem | hmem
    · cases state with
      | none => simp at hmem
      | some state =>
        simp only [Option.map_some, Option.toList_some, List.mem_singleton, Prod.mk.injEq] at hmem
        obtain ⟨rfl, rfl⟩ := hmem
        exact hseen.mono hg₂
    · exact hstates id' state' hmem

/-- A snapshot abides by the protocol. -/
theorem keeps_snapshot {i : Nat} {s : Script} {g : Log String} (hi : calls[i]? = some .snapshot) :
    Call.snapshot.task.Keeps (scopeProtocol calls s₀) i [] s g
      (Ends (fun i r _ g => Answered calls s₀ i r g) i) := by
  unfold Call.task takeSnapshot
  refine Task.Keeps.bind (Task.Keeps.bind ((keeps_lockedState hi).mono ?_))
  rintro r held s₁ g₁ ⟨rfl, -, state, rfl, hglobal⟩
  dsimp only
  show Task.Keeps _ _ (characterStates s₁.story.openCharacters >>= _) _ _ _ _
  refine Task.Keeps.bind ((keeps_characterStates hi).mono ?_)
  rintro r held s₂ g₂ ⟨rfl, hg, states, rfl, hstates⟩
  refine ⟨rfl, fun c op hi' => ?_, fun _ => ⟨_, rfl, fun c state' hholds => ?_⟩⟩
  · rw [hi] at hi'
    cases hi'
  · cases c with
    | character id => exact hstates id state' hholds
    | global =>
      obtain ⟨before, hbefore, hstate⟩ := hglobal.mono hg
      refine ⟨before, hbefore, ?_⟩
      rw [hstate]
      cases hholds
      cases hstate
      rfl

end Protocol

/-! ### Side by side -/

section Serial

variable {calls : List Call} {s : Script} {g : Log String} {q : Pool String Script Answer}

theorem sound_calls (run : Pool.Run (Pool.start s (calls.map Call.task)) g q) :
    Sound (scopeProtocol calls s) (fun i r _ g => Answered calls s i r g) q g := by
  have start : Sound (scopeProtocol calls s) (fun i r _ g => Answered calls s i r g)
      (Pool.start s (calls.map Call.task)) [] := by
    refine sound_start (fun key c _ => .refl c s) fun i t ht s' g' hm => ?_
    rw [List.getElem?_map, Option.map_eq_some_iff] at ht
    obtain ⟨call, hi, rfl⟩ := ht
    cases call with
    | on c op => exact ScopeCall.keeps hi hm.taken
    | snapshot => exact keeps_snapshot hi
  exact (run.sound steady_answered start).resolve_right fun h => h.1

/-- Each operation is in the order of its scope once, and nothing else is. -/
theorem serialOrder_perm {c : Scope} (h : ∀ i c op, calls[i]? = some (.on c op) →
    g.taken i = [c.lockName]) :
    (serialOrder calls c g).Perm (callsOn calls c (List.range calls.length)) := by
  have hcount : ∀ i, calls[i]?.bind Call.scope? = some c → (g.takers c.lockName).count i = 1 := by
    intro i hi
    obtain ⟨call, hcall, hc⟩ := Option.bind_eq_some_iff.1 hi
    cases call with
    | snapshot => cases hc
    | on d op =>
      cases hc
      rw [Log.count_takers, h i _ op hcall]
      simp
  have hnodup : (serialOrder calls c g).Nodup := by
    rw [List.nodup_iff_count_le_one]
    intro i
    by_cases hi : calls[i]?.bind Call.scope? = some c
    · rw [serialOrder, callsOn, List.count_filter (by simpa using hi)]
      exact Nat.le_of_eq (hcount i hi)
    · rw [List.count_eq_zero_of_not_mem]
      · exact Nat.zero_le 1
      · simp [serialOrder, callsOn, hi]
  refine (List.perm_ext_iff_of_nodup hnodup (List.nodup_range.filter _)).2 fun i => ?_
  simp only [serialOrder, callsOn, List.mem_filter, List.mem_range, decide_eq_true_eq]
  refine and_congr_left fun hi => ?_
  have hmem : i ∈ g.takers c.lockName := by
    rw [← List.count_pos_iff, hcount i hi]
    exact Nat.one_pos
  obtain ⟨call, hcall, -⟩ := Option.bind_eq_some_iff.1 hi
  exact iff_of_true hmem (List.getElem?_eq_some_iff.1 hcall).1

/-- What stands before an item that a list holds once. -/
theorem eq_of_prefix_concat {l before before' : List Nat} {i : Nat} (once : l.Nodup)
    (h : before ++ [i] <+: l) (h' : before' ++ [i] <+: l) : before = before' := by
  have hle : ∀ {a b : List Nat}, b ++ [i] <+: l → a ++ [i] <+: b ++ [i] → a = b := by
    intro a b hb hab
    rcases List.prefix_concat_iff.1 hab with heq | hpre
    · exact List.append_cancel_right heq
    · have hmem : i ∈ b := hpre.subset (by simp)
      exact absurd rfl ((List.nodup_append.1 (hb.sublist.nodup once)).2.2 i hmem i (by simp))
  rcases List.prefix_or_prefix_of_prefix h h' with hab | hab
  · exact hle h' hab
  · exact (hle h hab).symm

/-- Calls that are started together, whatever turns they take, end as if each scope's operations had
been run one at a time, in the order in which they obtained its lock; and they do end. -/
theorem serialized_of_run (run : Pool.Run (Pool.start s (calls.map Call.task)) g q)
    (idle : q.ready = []) : Serialized calls s g q := by
  obtain ⟨hdone, hfree⟩ := (sound_calls run).finished (Pool.idle_of_nil idle)
  have hlength : q.tasks.length = calls.length := by
    rw [run.length_tasks, Pool.start, List.length_map]
  have hcall : ∀ i call, calls[i]? = some call →
      ∃ r, q.tasks[i]? = some (.done r) ∧ Answered calls s i r g := by
    intro i call hi
    have hlt : i < q.tasks.length := hlength ▸ (List.getElem?_eq_some_iff.1 hi).1
    obtain ⟨r, hr, hanswered⟩ := hdone i _ (List.getElem?_eq_getElem hlt)
    exact ⟨r, hr ▸ List.getElem?_eq_getElem hlt, hanswered⟩
  have hperm : ∀ c, (serialOrder calls c g).Perm (callsOn calls c (List.range calls.length)) := by
    refine fun c => serialOrder_perm fun i c op hi => ?_
    obtain ⟨r, -, hop, -⟩ := hcall i _ hi
    exact (hop c op hi).1
  refine ⟨fun t ht => ?_, hperm, fun c => hfree c.lockName c rfl, fun i c op before hi hbefore => ?_,
    fun i hi => ?_⟩
  · obtain ⟨i, hi⟩ := List.getElem?_of_mem ht
    obtain ⟨r, hr, -⟩ := hdone i t hi
    exact ⟨r, hr⟩
  · obtain ⟨r, hr, hop, -⟩ := hcall i _ hi
    obtain ⟨-, before', hbefore', rfl⟩ := hop c op hi
    have hnodup : (serialOrder calls c g).Nodup :=
      (hperm c).nodup_iff.2 (List.nodup_range.filter _)
    rw [eq_of_prefix_concat hnodup hbefore hbefore']
    exact hr
  · obtain ⟨r, hr, -, hsnap⟩ := hcall i _ hi
    obtain ⟨snap, rfl, hholds⟩ := hsnap hi
    exact ⟨snap, hr, hholds⟩

/-- Two operations on a scope, one on another, and a snapshot, started together. -/
theorem serialized_register_set_snapshot :
    ∃ g q, Pool.Run (Pool.start ⟨{ scriptId := none }, {}⟩
        ([.on .global (.registerVariable "x" (.text "number") (.int 1) none),
          .on .global (.setVariable "x" (.text "2")),
          .on (.character "a") (.applyChanges "<setVar>y = 1</setVar>"), .snapshot].map Call.task)) g q ∧
      q.ready = [] ∧
      Serialized [.on .global (.registerVariable "x" (.text "number") (.int 1) none),
        .on .global (.setVariable "x" (.text "2")),
        .on (.character "a") (.applyChanges "<setVar>y = 1</setVar>"), .snapshot]
        ⟨{ scriptId := none }, {}⟩ g q := by
  obtain ⟨g, run, idle⟩ := Pool.run_run (Pool.start ⟨{ scriptId := none }, {}⟩
    ([.on .global (.registerVariable "x" (.text "number") (.int 1) none),
      .on .global (.setVariable "x" (.text "2")),
      .on (.character "a") (.applyChanges "<setVar>y = 1</setVar>"), .snapshot].map Call.task))
  exact ⟨g, _, run, idle, serialized_of_run run idle⟩

end Serial

end StoryState
