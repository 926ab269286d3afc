import StoryState.Proofs.Story.Operation
import StoryState.Proofs.Task.Sound

/-!
Operations that are started together, some of which read macros, for which they hold no lock. Hidden
variables may expire while a scope is being stored; then the mark that they leave is taken away with
the mark of the scope, and their expiry is lost (`LostExpiry`). Nothing else is ever lost
(`accounted_iff_of_run`).
-/

namespace StoryState

open Script

/-- The operation reads macros on a scope. -/
def Operation.Reads (c : Scope) : Operation → Prop
  | .readMacros d _ | .renderMacros _ d _ => d = c
  | _ => False

/-! ### What the operations agree upon -/

section Protocol

variable (ops : List Operation)

/-- How the state of a scope may change at the hands of others: hidden variables expire, if some
operation reads macros on the scope. -/
def Aging (c : Scope) (m m' : State) : Prop := Expiry m m' ∧ ((∀ op ∈ ops, ¬ op.Reads c) → m = m')

theorem drift_aging (c : Scope) : Drift (Aging ops c) where
  refl _ := ⟨.refl, fun _ => rfl⟩
  trans h h' := ⟨h.1.trans h'.1, fun hc => (h.2 hc).trans (h'.2 hc)⟩
  storable h := h.1.storable

/-- What others may do to the scopes that have the lock of one. -/
def Disturbs (c : Scope) (s s' : Script) : Prop :=
  ∀ d : Scope, d.lockName = c.lockName → Drifts (Aging ops d) d s s'

/-- A lock keeps all but readers of macros from the scopes that have it. While nobody holds it, these
are accounted for but for what has expired. A fault may leave them otherwise. -/
def agingProtocol : Protocol String Script where
  Always s s' := ∀ c, (s.memory c).Storable → (s'.memory c).Storable
  Others key s s' := ∀ c : Scope, c.lockName = key → Drifts (Aging ops c) c s s'
  Free key s _ := ∀ c : Scope, c.lockName = key → UpTo (Aging ops c) c s
  rank _ := 0
  lenient := True
  always_refl _ _ := id
  always_trans h h' c := h' c ∘ h c
  others_refl _ s c _ := .refl (drift_aging ops c) c s
  others_trans h h' c hc := (h c hc).trans (drift_aging ops c) (h' c hc)
  free_others h _ free c hc := (free c hc).drift (drift_aging ops c) (h c hc)

variable {ops} {α : Type} {c : Scope} {s s' : Script} {i : Nat} {g : Log String}

/-- A task that is done, and has kept all states storable. -/
def Safe (_ : Except Fault α) (held : List String) (s : Script) (_ : Log String) : Prop :=
  held = [] ∧ ∀ c, (s.memory c).Storable

theorem touches_changes (h : Touches c s s') : (agingProtocol ops).Changes [c.lockName] s s' := by
  refine ⟨fun d hd => ?_, fun key hkey d hd => ?_⟩
  · by_cases hdc : d = c
    · exact hdc ▸ h.2
    · have hmemory : s.memory d = s'.memory d := congrArg Cell.state (h.1.2 d hdc).cell
      exact hmemory ▸ hd
  · have hdc : d ≠ c := by
      rintro rfl
      exact hkey (by simp [hd])
    exact .of_agree (drift_aging ops d) (h.1.2 d hdc)

/-- A task that holds the lock of a scope and accounts for it if it goes through. -/
theorem keeps_of_does {body : ScriptTask α} (storable : ∀ d, (s.memory d).Storable)
    (h : ∀ s, UpTo (Aging ops c) c s → Does (Aging ops c) c body s fun r s' =>
      ∀ a, r = .ok a → UpTo (Aging ops c) c s') :
    (holding c body).Keeps (agingProtocol ops) i [] s g Safe := by
  refine Task.keeps_holding (by simp) fun s₁ g₁ hm free s₂ g₂ hm' => ?_
  have hstorable : ∀ d, (s₂.memory d).Storable := fun d => hm'.always d (hm.always d (storable d))
  have hdisturbs : Disturbs ops c s₁ s₂ := hm'.others _ (by simp)
  have hupTo : ∀ d : Scope, d.lockName = c.lockName → UpTo (Aging ops d) d s₂ := fun d hd =>
    (free d hd).drift (drift_aging ops d) (hdisturbs d hd)
  have hbeside := (h s₂ (hupTo c rfl) (hstorable c)).along
    (R := fun s s' => ∀ d : Scope, d ≠ c → d.lockName = c.lockName → Drifts (Aging ops d) d s s')
    (fun s d _ _ => .refl (drift_aging ops d) d s)
    (fun h h' d hd hlock => (h d hd hlock).trans (drift_aging ops d) (h' d hd hlock))
    (fun t t' ht d hd _ => .of_agree (drift_aging ops d) (ht.1.2 d hd))
    fun t t' (ht : Disturbs ops c t t') => ⟨ht c rfl, fun d _ hlock => ht d hlock⟩
  refine (hbeside.keeps (fun t t' _ hothers => hothers _ (by simp)) fun t t' => touches_changes).mono ?_
  rintro r held s₃ g₃ ⟨rfl, ⟨⟨-, hr⟩, hothers⟩, always, -, -, -⟩
  refine ⟨rfl, ?_⟩
  cases r with
  | error e => exact .inl ⟨trivial, e, rfl⟩
  | ok a =>
    refine .inr ⟨fun d hd => ?_, fun _ _ => ⟨rfl, fun d => always d (hstorable d)⟩⟩
    by_cases hdc : d = c
    · exact hdc ▸ hr a rfl
    · exact (hupTo d hd).drift (drift_aging ops d) (hothers d hdc hd)

/-! ### Operations -/

theorem keeps_replaceMacros {text : String} (reads : ∃ op ∈ ops, op.Reads c)
    (storable : ∀ d, (s.memory d).Storable) :
    (replaceMacros c text).Keeps (agingProtocol ops) i [] s g Safe := by
  obtain ⟨op, hop, hreads⟩ := reads
  refine ((inside_replaceMacros fun _ _ => True).keeps (fun _ _ _ _ => trivial)
    fun t t' ht => ⟨fun d hd => (ht.drifts d).state.storable hd, fun key _ d _ => ?_⟩).mono ?_
  · by_cases hdc : d = c
    · subst hdc
      refine ⟨⟨ht.2.state, fun h => absurd hreads (h op hop)⟩, ht.2.isOpen, ht.2.marked, ht.2.payload⟩
    · exact .of_agree (drift_aging ops d) (ht.1.2 d hdc)
  · rintro r held s' g' ⟨rfl, -, always, -, -, -⟩
    exact ⟨rfl, fun d => always d (storable d)⟩

theorem keeps_persistIfDirty (storable : ∀ d, (s.memory d).Storable) :
    (persistIfDirty c).Keeps (agingProtocol ops) i [] s g Safe := by
  refine keeps_of_does storable fun s hs => (does_storeMarked (drift_aging ops c) hs).mono ?_
  rintro r s' hr a rfl
  exact hr.1

theorem keeps_renderOpen {history : History} {text : String} (reads : ∃ op ∈ ops, op.Reads c)
    (storable : ∀ d, (s.memory d).Storable) :
    (renderOpen history c text).Keeps (agingProtocol ops) i [] s g Safe := by
  refine .bind ((keeps_replaceMacros reads storable).mono fun r held s₁ g₁ hr => ?_)
  obtain ⟨rfl, storable₁⟩ := hr
  cases r with
  | error e => exact ⟨rfl, storable₁⟩
  | ok result =>
    show Task.Keeps _ _ (if (s₁.story.cell c).isDirty then _ else _) _ _ _ _
    split
    · refine .bind (.bind ((keeps_persistIfDirty storable₁).mono fun r held s₂ g₂ hr => ?_))
      cases r with
      | error e => exact hr
      | ok b => exact hr
    · exact ⟨rfl, storable₁⟩

theorem keeps_renderMacros {history : History} {text : String} (reads : ∃ op ∈ ops, op.Reads c)
    (storable : ∀ d, (s.memory d).Storable) :
    (renderMacros history c text).Keeps (agingProtocol ops) i [] s g Safe := by
  show Task.Keeps _ _ (if !(s.story.cell c).isOpen then _ else _) _ _ _ _
  split
  · have hopen : (holding c (ensureOpen c)).Keeps (agingProtocol ops) i [] s g Safe := by
      refine keeps_of_does storable fun s hs => (does_ensureOpen (drift_aging ops c) hs).mono ?_
      rintro r s' hr a rfl
      exact hr.1
    refine .bind (hopen.mono fun r held s₁ g₁ hr => ?_)
    obtain ⟨rfl, storable₁⟩ := hr
    cases r with
    | error e => exact ⟨rfl, storable₁⟩
    | ok _ => exact keeps_renderOpen reads storable₁
  · exact keeps_renderOpen reads storable

theorem keeps_flushAll {scopes : List Scope} (storable : ∀ d, (s.memory d).Storable) :
    (flushAll scopes).Keeps (agingProtocol ops) i [] s g Safe := by
  induction scopes generalizing s g with
  | nil => exact ⟨rfl, storable⟩
  | cons c scopes ih =>
    refine .bind ((keeps_persistIfDirty storable).mono fun r held s₁ g₁ hr => ?_)
    obtain ⟨rfl, storable₁⟩ := hr
    cases r with
    | error e => exact ⟨rfl, storable₁⟩
    | ok stored =>
      refine .bind ((ih storable₁).mono fun r held s₂ g₂ hr => ?_)
      cases r with
      | error e => exact hr
      | ok n => exact hr

/-- Every operation abides by the protocol. -/
theorem Operation.keeps {op : Operation} (hop : op ∈ ops) (fit : op.Fit)
    (storable : ∀ d, (s.memory d).Storable) :
    op.task.Keeps (agingProtocol ops) i [] s g Safe := by
  have hmap : ∀ {β γ : Type} {t : ScriptTask β} {f : β → γ},
      t.Keeps (agingProtocol ops) i [] s g Safe →
        (t >>= fun b => pure (f b)).Keeps (agingProtocol ops) i [] s g Safe := by
    intro β γ t f h
    refine .bind (h.mono fun r held s' g' hr => ?_)
    cases r with
    | error e => exact hr
    | ok b => exact hr
  cases op with
  | on c call =>
    obtain ⟨β, body, f, htask, hbody⟩ := ScopeCall.accounts (c := c) fit
    show (call.task c).Keeps _ _ _ _ _ _
    rw [htask]
    refine hmap (keeps_of_does storable fun s hs => (hbody _ s (drift_aging ops c) hs).mono ?_)
    rintro r s' hr a rfl
    exact hr
  | readMacros c text => exact hmap (keeps_replaceMacros ⟨_, hop, rfl⟩ storable)
  | renderMacros history c text => exact hmap (keeps_renderMacros ⟨_, hop, rfl⟩ storable)
  | flush => exact hmap (keeps_flushAll storable)

end Protocol

/-! ### Side by side -/

section Run

variable {ops : List Operation} {s : Script} {g : Log String} {q : Pool String Script Answer}

/-- An expiry of a scope is lost: the scope is open and not marked, and the store holds its state but
for hidden variables that have expired since. -/
structure LostExpiry (c : Scope) (s : Script) : Prop where
  isOpen : (s.story.cell c).isOpen = true
  unmarked : (s.story.cell c).isDirty = false
  stored : ∃ stored, s.storedState c = some stored ∧ Expiry stored (s.memory c) ∧
    stored.expiryFlags ≠ (s.memory c).expiryFlags

/-- When all have returned, every scope that is open and not marked is stored as it is, but for
hidden variables that have expired. -/
theorem upTo_of_run (settled : Settled s) (fit : ∀ op ∈ ops, op.Fit)
    (run : Pool.Run (Pool.start s (ops.map Operation.task)) g q) (idle : q.ready = [])
    (returned : ∀ t ∈ q.tasks, ∃ a, t = .done (.ok a)) (c : Scope) : UpTo (Aging ops c) c q.state := by
  have hupTo : ∀ c, UpTo (Aging ops c) c s := fun c hopen hclean =>
    ⟨_, settled.accounted c hopen hclean, (drift_aging ops c).refl _⟩
  have start : Sound (agingProtocol ops) (fun _ _ _ _ => True)
      (Pool.start s (ops.map Operation.task)) [] := by
    refine sound_start (fun key c _ => hupTo c) fun i t ht s' g' hm => ?_
    rw [List.getElem?_map, Option.map_eq_some_iff] at ht
    obtain ⟨op, hi, rfl⟩ := ht
    have hop := List.mem_of_getElem? hi
    have storable : ∀ d, (s'.memory d).Storable := fun d => hm.always d (settled.storable d)
    exact (Operation.keeps hop (fit op hop) storable).mono fun r held s' g' hr => ⟨hr.1, trivial⟩
  rcases run.sound (fun _ _ _ _ _ _ _ _ _ _ => trivial) start with sound | ⟨-, i, e, hi⟩
  · exact (sound.finished (Pool.idle_of_nil idle)).2 c.lockName c rfl
  · obtain ⟨a, ha⟩ := returned _ (List.mem_of_getElem? hi)
    cases ha

/-- However the turns go, when all have returned every scope is accounted for unless an expiry of it
is lost, which does not happen where nobody reads macros. -/
theorem accounted_iff_of_run (settled : Settled s) (fit : ∀ op ∈ ops, op.Fit)
    (run : Pool.Run (Pool.start s (ops.map Operation.task)) g q) (idle : q.ready = [])
    (returned : ∀ t ∈ q.tasks, ∃ a, t = .done (.ok a)) :
    (∀ c, Accounted c q.state ↔ ¬ LostExpiry c q.state) ∧
      ∀ c, (∀ op ∈ ops, ¬ op.Reads c) → Accounted c q.state := by
  refine ⟨fun c => ⟨fun h hlost => ?_, fun h hopen hclean => ?_⟩, fun c hc hopen hclean => ?_⟩
  · obtain ⟨stored, hstored, -, hflags⟩ := hlost.stored
    rw [h hlost.isOpen hlost.unmarked] at hstored
    exact hflags (Option.some.inj hstored ▸ rfl)
  · obtain ⟨stored, hstored, hage⟩ := upTo_of_run settled fit run idle returned c hopen hclean
    by_cases hflags : stored.expiryFlags = (q.state.memory c).expiryFlags
    · rw [hstored, hage.1.eq_iff.2 hflags]
    · exact absurd ⟨hopen, hclean, stored, hstored, hage.1, hflags⟩ h
  · obtain ⟨stored, hstored, hage⟩ := upTo_of_run settled fit run idle returned c hopen hclean
    rw [hstored, hage.2 hc]

end Run

/-! ### An expiry that is lost -/

section Lost

/-- A hidden variable that can be read once. -/
def fleeting : Hidden := { condition := .text "true", value := .text "v", hasExpiration := true }

/-- It is registered, and its macro is read. -/
def fleetingOps : List Operation :=
  [.on .global (.registerHidden "h" fleeting), .readMacros .global "${h}"]

/-- The macro has been read while the variable was being stored. -/
def fleetingRead : Pool String Script Answer :=
  let p := Pool.start ⟨{ scriptId := none }, {}⟩ (fleetingOps.map Operation.task)
  (((p.turn 0).turn 0).turn 1).turn 0

theorem run_fleetingRead : ∃ g, Pool.Run
    (Pool.start ⟨{ scriptId := none }, {}⟩ (fleetingOps.map Operation.task)) g fleetingRead :=
  ⟨_, .turn (i := 0) (by decide) (.turn (i := 0) (by decide) (.turn (i := 1) (by decide)
    (.turn (i := 0) (by decide) (.stop _))))⟩

theorem tasks_fleetingRead :
    fleetingRead.tasks = [.done (.ok .nothing), .done (.ok (.text "v"))] := rfl

theorem accounted_iff_fleetingRead :
    (∀ c, Accounted c fleetingRead.state ↔ ¬ LostExpiry c fleetingRead.state) ∧
      ∀ c, (∀ op ∈ fleetingOps, ¬ op.Reads c) → Accounted c fleetingRead.state := by
  obtain ⟨g, run⟩ := run_fleetingRead
  refine accounted_iff_of_run settled_fresh ?_ run (by decide) ?_
  · have hfit : fleeting.Storable := ⟨trivial, trivial⟩
    simpa [fleetingOps, Operation.Fit, ScopeCall.Fit] using hfit
  · rw [tasks_fleetingRead]
    simp

theorem storable_fleeting : State.Storable { hidden := [("h", fleeting)] } := by
  refine { State.storable_empty with hidden_once := ?_, hidden := ?_ }
  · simp [Entries.Once]
  · rintro name h hmem
    obtain ⟨rfl, rfl⟩ : name = "h" ∧ h = fleeting := by simpa using hmem
    exact ⟨trivial, trivial⟩

/-- The store has been given the payload that was written before the macro was read. -/
theorem stored_fleetingRead :
    fleetingRead.state.storedState .global = some { hidden := [("h", fleeting)] } := by
  have hpayload : State.payload { hidden := [("h", fleeting)] } =
    .ok (String.ofList (Json.write .pretty 0 (State.toValue { hidden := [("h", fleeting)] }))) := rfl
  exact storedState_of_payload storable_fleeting hpayload rfl

/-- A variable that expires while it is being stored is not marked, and the store does not hold its
expiry. -/
theorem not_accounted_fleetingRead :
    (∃ g, Pool.Run (Pool.start ⟨{ scriptId := none }, {}⟩ (fleetingOps.map Operation.task)) g
      fleetingRead) ∧ fleetingRead.ready = [] ∧
    (∀ t ∈ fleetingRead.tasks, ∃ a, t = .done (.ok a)) ∧ ¬ Accounted .global fleetingRead.state := by
  refine ⟨run_fleetingRead, by decide, ?_, fun h => ?_⟩
  · rw [tasks_fleetingRead]
    simp
  · have hmemory := stored_fleetingRead.symm.trans (h rfl rfl)
    have hflags := congrArg State.expiryFlags (Option.some.inj hmemory)
    have hexpired : (fleetingRead.state.memory .global).expiryFlags = [("h", true)] := rfl
    rw [hexpired] at hflags
    cases hflags

end Lost

end StoryState
