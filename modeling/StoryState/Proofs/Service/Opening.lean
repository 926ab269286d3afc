import StoryState.Proofs.Service.Aside
import StoryState.Proofs.Service.Progress

/-!
Stories that are asked for at the same time, while configurations change and cannot always be read. However
turns are taken, all who ask for the story of a script are given the same one; it is opened by one of them
alone, and nobody is given it before that is done (`Service.opened_once`).

What belongs to a script is changed only by who holds the lock of its opening, and only as long as it is not
open; so who finds it open, with or without that lock, finds it as opening has left it.
-/

namespace StoryState

open Script StoryState.Task

namespace Service

variable {σ s s' : Service} {id : String} {number i : Nat} {g g' : Log ServiceLock}
  {held : List ServiceLock}

/-! ### What those who ask agree upon -/

/-- What goes on at a service while stories are asked for. -/
inductive Visit where
  /-- Somebody asks for the story of a script. -/
  | find (id : String)
  /-- The files change, and whether configurations can be read. -/
  | outside (files : Files) (configFault : Option Fault)

/-- The task of a visit; it answers the story that was asked for. -/
def Visit.task : Visit → ServiceTask (Option Nat)
  | .find id => do return some (← Service.find id)
  | .outside files configFault => do
    modify fun s => { s with files, configFault }
    return none

/-- A fault with which configurations cannot be read at some time. -/
def Unreadable (σ : Service) (visits : List Visit) (e : Fault) : Prop :=
  σ.configFault = some e ∨ ∃ files, .outside files (some e) ∈ visits

variable {visits : List Visit}

/-- What those who ask for stories may do at any time: what belongs to a script whose story is open stays as it
is, and a story that becomes open is one that has been opened. -/
structure Asking (σ : Service) (visits : List Visit) (s s' : Service) : Prop where
  names : s'.names = s.names
  configs : s'.configs = s.configs
  fault : ∀ e, s'.configFault = some e → s.configFault = some e ∨ Unreadable σ visits e
  length : s.stories.length ≤ s'.stories.length
  kept : ∀ id number, Entries.get? id s.openStories = some number → Aside id s s'
  opened : ∀ id number, Entries.get? id s.openStories = none →
    Entries.get? id s'.openStories = some number → Opened σ id number s'

theorem Asking.refl (σ : Service) (visits : List Visit) (s : Service) : Asking σ visits s s := by
  refine ⟨rfl, rfl, fun _ => .inl, Nat.le_refl _, fun id _ _ => .refl id s, fun id number hnone hsome => ?_⟩
  rw [hnone] at hsome
  cases hsome

theorem Asking.trans {s'' : Service} (h : Asking σ visits s s') (h' : Asking σ visits s' s'') : Asking σ visits s s'' := by
  refine ⟨h'.names.trans h.names, h'.configs.trans h.configs,
    fun e he => (h'.fault e he).elim (h.fault e) .inr, Nat.le_trans h.length h'.length,
    fun id number hopen => ?_, fun id number hnone hsome => ?_⟩
  · have haside := h.kept id number hopen
    exact haside.trans (h'.kept id number (haside.isOpen.trans hopen))
  · cases hmid : Entries.get? id s'.openStories with
    | none => exact h'.opened id number hmid hsome
    | some n =>
      have haside := h'.kept id n hmid
      obtain rfl : n = number := by
        rw [haside.isOpen, hmid] at hsome
        exact Option.some.inj hsome
      exact (h.opened id n hnone hmid).aside haside

/-- What may happen while somebody else holds a lock: what belongs to the script stays as it is, and nobody
opens the global scope of the story. -/
def askingOthers : ServiceLock → Service → Service → Prop
  | .opening id, s, s' => Aside id s s'
  | .scope number name, s, s' => name = Scope.global.lockName →
    (s'.story number).global.isOpen = true → (s.story number).global.isOpen = true

/-- What holds while nobody holds a lock: if the story of the script is not open then each of those who held
the lock has added one in vain; and if nobody held the lock of the global scope then that is not open. -/
def askingFree (σ : Service) : ServiceLock → Service → List Nat → Prop
  | .opening id, s, takers => Entries.get? id s.openStories = none → Unopened σ id takers.length s
  | .scope number name, s, takers => name = Scope.global.lockName → takers = [] →
    σ.stories.length ≤ number → (s.story number).global.isOpen ≠ true

/-- The protocol of those who ask for stories, from a service on. -/
def askingProtocol (σ : Service) (visits : List Visit) : Protocol ServiceLock Service where
  Always := Asking σ visits
  Others := askingOthers
  Free := askingFree σ
  rank := ServiceLock.rank
  lenient := False
  always_refl := .refl σ visits
  always_trans := .trans
  others_refl key s := by
    cases key with
    | opening id => exact .refl id s
    | scope number name => exact fun _ h => h
  others_trans {key s t u} h h' := by
    cases key with
    | opening id => exact Aside.trans h h'
    | scope number name => exact fun hname hopen => h hname (h' hname hopen)
  free_others {key s t l} h _ free := by
    cases key with
    | opening id =>
      intro hclosed
      exact (free ((Aside.isOpen h).symm.trans hclosed)).aside h
    | scope number name => exact fun hname hnil hnew hopen => free hname hnil hnew (h hname hopen)

/-- Strokes of who holds the lock of an opening and has not found the story open. -/
theorem askingChanges (holds : .opening id ∈ held) (closed : Entries.get? id s.openStories = none)
    (names : s'.names = s.names) (configs : s'.configs = s.configs)
    (fault : s'.configFault = s.configFault)
    (length : s.stories.length ≤ s'.stories.length) (others : ∀ key, key ≠ id → Aside key s s')
    (opened : ∀ number, Entries.get? id s'.openStories = some number → Opened σ id number s')
    (scopes : ∀ number, .scope number Scope.global.lockName ∉ held →
      (s'.story number).global.isOpen = true → (s.story number).global.isOpen = true) :
    (askingProtocol σ visits).Changes held s s' := by
  refine ⟨⟨names, configs, fun e he => .inl (fault ▸ he), length, fun key n hn => others key ?_, fun key n hnone hsome => ?_⟩,
    fun key hkey => ?_⟩
  · rintro rfl
    rw [closed] at hn
    cases hn
  · by_cases hid : key = id
    · subst hid
      exact opened n hsome
    · rw [(others key hid).isOpen, hnone] at hsome
      cases hsome
  · cases key with
    | opening key =>
      refine others key ?_
      rintro rfl
      exact hkey holds
    | scope n name =>
      rintro rfl
      exact scopes n hkey

/-! ### Opening a story -/

/-- A call has opened the story of a script: it had the lock of its global scope twice, and those who had had
the lock of the opening before have added stories in vain. -/
structure Made (σ : Service) (id : String) (number i : Nat) (s : Service) (g : Log ServiceLock) : Prop where
  isOpen : Entries.get? id s.openStories = some number
  opened : Opened σ id number s
  taken : g.taken i = [.opening id, .scope number Scope.global.lockName,
    .scope number Scope.global.lockName]
  before : ∃ before, before ++ [i] <+: g.takers (.opening id) ∧
    s.count id = σ.count id + before.length + 1

/-- What has become of a call that asked for the story of a script. -/
inductive Found (σ : Service) (visits : List Visit) (id : String) (i : Nat) (s : Service) (g : Log ServiceLock) :
    Except Fault Nat → Prop
  /-- The story was open. -/
  | looked {number : Nat} (isOpen : Entries.get? id s.openStories = some number)
    (opened : Opened σ id number s) (taken : g.taken i = [] ∨ g.taken i = [.opening id]) :
    Found σ visits id i s g (.ok number)
  /-- The call has opened the story. -/
  | made {number : Nat} (made : Made σ id number i s g) : Found σ visits id i s g (.ok number)
  /-- The configuration could not be read. -/
  | failed (e : Fault) (unreadable : Unreadable σ visits e) (taken : g.taken i = [.opening id]) : Found σ visits id i s g (.error e)

theorem Found.later {r : Except Fault Nat} (h : Found σ visits id i s g r) (asking : Asking σ visits s s')
    (htaken : g'.taken i = g.taken i) (hlog : g <+: g') : Found σ visits id i s' g' r := by
  cases h with
  | looked isOpen opened taken =>
    have haside := asking.kept _ _ isOpen
    exact .looked (haside.isOpen.trans isOpen) (opened.aside haside) (htaken ▸ taken)
  | made made =>
    obtain ⟨before, htakers, hcount⟩ := made.before
    have haside := asking.kept _ _ made.isOpen
    exact .made ⟨haside.isOpen.trans made.isOpen, made.opened.aside haside, htaken ▸ made.taken,
      before, htakers.trans (Log.takers_mono hlog), haside.count.trans hcount⟩
  | failed e unreadable taken => exact .failed e unreadable (htaken ▸ taken)

/-! ### Strokes of who opens a story -/

theorem changes_added (holds : .opening id ∈ held) (closed : Entries.get? id s.openStories = none) :
    (askingProtocol σ visits).Changes held s (s.added id) := by
  refine askingChanges holds closed rfl rfl rfl (by simp [added, addStore])
    (fun key hkey => aside_added hkey) (fun n hn => ?_) fun n _ hopen => ?_
  · rw [show Entries.get? id (s.added id).openStories = none from closed] at hn
    cases hn
  · rw [story_added] at hopen
    split at hopen
    · cases hopen
    · exact hopen

theorem Opening.changes_setScript {k : Nat} {p : Script} (h : Opening σ id number k s)
    (only : OnlyAt .global (s.script number) p) (holds : .opening id ∈ held)
    (scope : .scope number Scope.global.lockName ∈ held) :
    (askingProtocol σ visits).Changes held s (s.setScript number p) := by
  have hp : p.story.scriptId = some id := only.1.scriptId.symm.trans h.scriptId
  refine askingChanges holds h.closed rfl rfl rfl (by simp [Service.setScript])
    (fun key hkey => aside_setScript h.scriptId hp hkey) (fun n hn => ?_) fun n hn hopen => ?_
  · rw [show Entries.get? id (s.setScript number p).openStories = none from h.closed] at hn
    cases hn
  · have hne : n ≠ number := by
      rintro rfl
      exact hn scope
    rwa [story_setScript, if_neg (fun hh => hne hh.1)] at hopen

theorem changes_put (holds : .opening id ∈ held) (closed : Entries.get? id s.openStories = none)
    (opened : Opened σ id number { s with openStories := s.openStories.put id number }) :
    (askingProtocol σ visits).Changes held s { s with openStories := s.openStories.put id number } := by
  refine askingChanges holds closed rfl rfl rfl (Nat.le_refl _)
    (fun key hkey => aside_put hkey) (fun n hn => ?_) fun _ _ hopen => hopen
  rw [Entries.get?_put_self] at hn
  rw [← Option.some.inj hn]
  exact opened

/-! ### Tasks on a story that is being opened -/

section Guarded

variable {α β : Type} (body : ScriptTask α) (f : α → β) (b : β)

/-- A task that answers `b` where one under the lock of the global scope stops. -/
theorem onStory_orElse (number : Nat) :
    onStory number (orElse (Script.holding .global body >>= fun a => pure (f a)) b) =
      (Task.holding (.scope number Scope.global.lockName) (onStory number body)).andThen fun r =>
        .done (.ok ((r.map f).toOption.getD b)) := by
  show (((Task.holding Scope.global.lockName body).andThen _).andThen _).within _ _ _ = _
  rw [andThen_assoc, within_andThen, within_holding]
  refine congrArg (Task.andThen _) (funext fun r => ?_)
  cases r <;> rfl

theorem alone_orElse (x : Script) :
    ((orElse (Script.holding .global body >>= fun a => pure (f a)) b).alone x).2 = (body.alone x).2 := by
  unfold orElse Script.holding
  rw [alone_tryCatch, alone_map, alone_holding]

end Guarded

/-- What minds only the global scope does to the story what it does alone, as long as others leave the script
aside. -/
theorem Opening.inside {α : Type} {body : ScriptTask α} {k : Nat} (h : Opening σ id number k s)
    (hlocal : LocalTo .global body) :
    (onStory number body).Inside (Aside id)
      (fun t t' => Opening σ id number k t ∧
        ∃ p, OnlyAt .global (t.script number) p ∧ t' = t.setScript number p) s
      fun r s' => Opening σ id number k s' ∧ r = (body.alone (s.script number)).1 ∧
        s'.script number = (body.alone (s.script number)).2 := by
  have hbody := (hlocal (s.script number) _ (.refl _ _)).eq_alone fun x d _ => .refl d x
  have hrest : ∀ t t', Opening σ id number k t → Aside id t t' →
      Opening σ id number k t' ∧ t'.script number = t.script number :=
    fun t t' ht haside => ⟨ht.aside haside, haside.script ht.scriptId⟩
  have hput : ∀ p t, Opening σ id number k t → OnlyAt .global (t.script number) p →
      Opening σ id number k (t.setScript number p) :=
    fun p t ht honly => ht.setScript (honly.1.scriptId.symm.trans ht.scriptId)
  exact Inside.within (Opening σ id number k)
    (fun _ t ht => script_setScript (lt_of_scriptId ht.scriptId)) hput hrest h hbody

/-- A task that minds only the global scope and holds its lock does to a story that is being opened what it
does alone. -/
theorem keeps_guarded {β : Type} {t : ScriptTask β} (guarded : Guarded .global t) {b : β} {k : Nat}
    (opening : Opening σ id number k s)
    {Q : Except Fault β → List ServiceLock → Service → Log ServiceLock → Prop}
    (h : ∀ a s' g', Opening σ id number k s' →
      s'.script number = ((orElse t b).alone (s.script number)).2 → Asking σ visits s s' →
      g'.taken i = g.taken i ++ [.scope number Scope.global.lockName] →
      g'.takers (.opening id) = g.takers (.opening id) → Q (.ok a) [.opening id] s' g') :
    (onStory number (orElse t b)).Keeps (askingProtocol σ visits) i [.opening id] s g Q := by
  obtain ⟨α, body, f, hlocal, rfl⟩ := guarded
  have above : ∀ key ∈ [ServiceLock.opening id],
      key.rank < (ServiceLock.scope number Scope.global.lockName).rank := by
    intro key hkey
    rw [List.mem_singleton.1 hkey]
    exact Nat.zero_lt_one
  rw [onStory_orElse]
  refine Task.Keeps.andThen False.elim (Task.keeps_holding above fun s₁ g₁ hm _ s₂ g₂ hm' => ?_)
  have haside : Aside id s s₂ :=
    (hm.others (.opening id) (by simp)).trans (hm'.others (.opening id) (by simp))
  have hinside := (opening.aside haside).inside hlocal
  refine (hinside.keeps (fun t t' _ hothers => hothers (.opening id) (by simp)) ?_).mono ?_
  · rintro t t' ⟨ht, p, honly, rfl⟩
    exact ht.changes_setScript honly (by simp) (by simp)
  · rintro r held' s' g' ⟨rfl, ⟨hopening, rfl, hscript⟩, halways, htakers, htaken, -⟩
    have hscope : g'.takers (.scope number Scope.global.lockName) ≠ [] := by
      rw [htakers _ (by simp), hm'.takers _ (by simp)]
      simp
    refine ⟨rfl, .inr ⟨fun _ hnil => absurd hnil hscope, fun g'' hm'' => ?_⟩⟩
    refine h _ s' g'' hopening ?_ (hm.always.trans (hm'.always.trans halways)) ?_ ?_
    · rw [hscript, alone_orElse, haside.script opening.scriptId]
    · rw [hm''.taken, htaken, hm'.taken, Log.taken_append, hm.taken, Log.taken_self]
    · rw [hm''.takers _ (by simp), htakers _ (by simp), hm'.takers _ (by simp), Log.takers_append,
        hm.takers _ (by simp), Log.takers_of_ne (by simp), List.append_nil]

theorem keeps_readConfig {Q : Except Fault (Option (Except Fault State)) → List ServiceLock → Service →
    Log ServiceLock → Prop}
    (h : ∀ s' g', (askingProtocol σ visits).Meanwhile i held s g s' g' → Q (match s'.configFault with
      | some e => .error e
      | none => .ok (s'.configured id)) held s' g') :
    (readConfig id).Keeps (askingProtocol σ visits) i held s g Q := by
  intro s' g' hm
  have hq := h s' g' hm
  show Task.Keeps _ i (match s'.configFault with | some e => _ | none => _) held s' g' Q
  unfold configured at hq
  cases hfault : s'.configFault with
  | some e =>
    rw [hfault] at hq
    exact hq
  | none =>
    rw [hfault] at hq
    dsimp only at hq ⊢
    generalize Config.load s'.configs id s'.files = found at hq ⊢
    rcases found with _ | _ | _ <;> exact hq

theorem guarded_initialise (config : Option (Except Fault State)) :
    Guarded .global (Script.holding .global (initialise .global config) >>= fun _ => pure true) :=
  ⟨Unit, initialise .global config, fun _ => true, local_initialise config, rfl⟩

/-- Who holds the lock of the opening, and has found the story not to be open, opens it unless its
configuration cannot be read. -/
theorem keeps_openNew {before : List Nat} (asking : Asking σ visits σ s)
    (closed : Entries.get? id s.openStories = none) (unopened : Unopened σ id before.length s)
    (taken : g.taken i = [.opening id]) (log : g.takers (.opening id) = before ++ [i]) :
    (openNew id).Keeps (askingProtocol σ visits) i [.opening id] s g fun r held s' g' =>
      held = [.opening id] ∧ askingFree σ (.opening id) s' (g'.takers (.opening id)) ∧
        Found σ visits id i s' g' r := by
  obtain ⟨hopening, hscript⟩ := unopened.added closed asking.names asking.length
  have hadd : (askingProtocol σ visits).Changes [.opening id] s (s.added id) :=
    changes_added (by simp) closed
  refine ⟨hadd, ?_⟩
  refine Task.Keeps.bind (keeps_readConfig fun s₁ g₁ hm => ?_)
  have haside := hm.others (.opening id) (by simp)
  have hopening₁ := hopening.aside haside
  have hscript₁ := (haside.script hopening.scriptId).trans hscript
  have htakers₁ := (hm.takers (.opening id) (by simp)).trans log
  cases hfault : s₁.configFault with
  | some e =>
    have hunreadable : Unreadable σ visits e := by
      rcases (asking.trans (hadd.always.trans hm.always)).fault e hfault with h | h
      · exact .inl h
      · exact h
    refine ⟨rfl, fun _ => ?_, .failed e hunreadable (hm.taken.trans taken)⟩
    rw [htakers₁, List.length_append]
    exact hopening₁.unopened hscript₁
  | none =>
    dsimp only
    have hasking₁ : Asking σ visits s s₁ := hadd.always.trans hm.always
    refine Task.Keeps.bind (Task.Keeps.bind (keeps_guarded (guarded_initialise _) hopening₁ ?_))
    intro a s₂ g₂ hopening₂ hscript₂ hasking₂ htaken₂ htakers₂
    refine Task.Keeps.bind (Task.Keeps.bind (keeps_guarded (guarded_carryOut _) hopening₂ ?_))
    intro b s₃ g₃ hopening₃ hscript₃ hasking₃ htaken₃ htakers₃
    have hbegun : s₃.script s.stories.length =
        (σ.untouched id).begun ({ σ with files := s₁.files }.configured id) := by
      have hconfigured : ({ σ with files := s₁.files } : Service).configured id = s₁.configured id := by
        unfold configured
        rw [hasking₁.configs, asking.configs]
      rw [hscript₃, hscript₂, hscript₁, hconfigured]
      rfl
    have hopened := hopening₃.opened hbegun
    refine ⟨changes_put (by simp) hopening₃.closed hopened, rfl, fun hnone => ?_, .made ⟨Entries.get?_put_self .., hopened, ?_, before, ?_, ?_⟩⟩
    · rw [Entries.get?_put_self] at hnone
      cases hnone
    · rw [htaken₃, htaken₂, hm.taken, taken]
      rfl
    · rw [htakers₃, htakers₂, htakers₁]
    · exact hopening₃.count

/-- Who asks for the story of a script that was not open finds it, or opens it. -/
theorem keeps_find (closed : Entries.get? id σ.openStories = none) (asking : Asking σ visits σ s)
    (taken : g.taken i = []) :
    (find id).Keeps (askingProtocol σ visits) i [] s g fun r held s' g' => held = [] ∧ Found σ visits id i s' g' r := by
  unfold find
  rw [Task.keeps_get]
  cases hopen : Entries.get? id s.openStories with
  | some number => exact ⟨rfl, .looked hopen (asking.opened id number closed hopen) (.inl taken)⟩
  | none =>
    refine Task.keeps_holding (by simp) fun s₁ g₁ hm free s₂ g₂ hm' => ?_
    have haside : Aside id s₁ s₂ := hm'.others (.opening id) (by simp)
    have hasking : Asking σ visits σ s₂ := asking.trans (Asking.trans hm.always hm'.always)
    have htaken : g₂.taken i = [.opening id] := by
      rw [hm'.taken, Log.taken_append, hm.taken, taken, Log.taken_self]
      rfl
    have htakers : g₂.takers (.opening id) = g₁.takers (.opening id) ++ [i] := by
      rw [hm'.takers _ (by simp), Log.takers_append, Log.takers_self]
    rw [Task.keeps_get]
    cases hopen₂ : Entries.get? id s₂.openStories with
    | some number =>
      have hopened := hasking.opened id number closed hopen₂
      refine ⟨rfl, .inr ⟨fun hnone => ?_, fun g' hm'' => ⟨rfl, ?_⟩⟩⟩
      · rw [hopen₂] at hnone
        cases hnone
      · exact .looked hopen₂ hopened (.inr (hm''.taken.trans htaken))
    | none =>
      have hunopened := (free (haside.isOpen.symm.trans hopen₂)).aside haside
      refine (keeps_openNew hasking hopen₂ hunopened htaken htakers).mono ?_
      rintro r held s₃ g₃ ⟨rfl, hfree, hfound⟩
      exact ⟨rfl, .inr ⟨hfree, fun g' hm'' => ⟨rfl, hfound.later hm''.always hm''.taken hm''.log⟩⟩⟩

/-! ### Visits together -/

/-- What is true of a visit that is over. -/
structure Met (σ : Service) (visits : List Visit) (i : Nat) (r : Except Fault (Option Nat)) (s : Service)
    (g : Log ServiceLock) : Prop where
  found : ∀ id, visits[i]? = some (.find id) → ∃ r', r = r'.map some ∧ Found σ visits id i s g r'
  idle : (∀ id, visits[i]? ≠ some (.find id)) → g.taken i = []

theorem steady_met : Steady (askingProtocol σ visits) (Met σ visits) := by
  intro i r s s' g g' asking taken log h
  refine ⟨fun id hid => ?_, fun hother => taken.trans (h.idle hother)⟩
  obtain ⟨r', rfl, hfound⟩ := h.found id hid
  exact ⟨r', rfl, hfound.later asking taken log⟩

theorem keeps_visit {visit : Visit} (hvisit : visits[i]? = some visit)
    (closed : ∀ id, visit = .find id → Entries.get? id σ.openStories = none) (asking : Asking σ visits σ s)
    (taken : g.taken i = []) :
    visit.task.Keeps (askingProtocol σ visits) i [] s g (Ends (Met σ visits) i) := by
  cases visit with
  | find id =>
    refine Task.Keeps.bind ((keeps_find (closed id rfl) asking taken).mono ?_)
    rintro r held s' g' ⟨rfl, hfound⟩
    have hmet : Met σ visits i (r.map some) s' g' := by
      refine ⟨fun id' hid => ?_, fun hother => absurd hvisit (hother id)⟩
      rw [hvisit] at hid
      cases hid
      exact ⟨r, rfl, hfound⟩
    cases r <;> exact ⟨rfl, hmet⟩
  | outside files configFault =>
    have hasking : Asking σ visits s { s with files, configFault } := by
      refine ⟨rfl, rfl, fun e he => .inr (.inr ⟨files, he ▸ List.mem_of_getElem? hvisit⟩), Nat.le_refl _,
        fun id _ _ => ⟨rfl, rfl, rfl, fun _ _ => rfl⟩, fun id number hnone hsome => ?_⟩
      rw [hnone] at hsome
      cases hsome
    refine ⟨⟨hasking, fun key _ => ?_⟩, rfl, fun id hid => ?_, fun _ => taken⟩
    · cases key with
      | opening id => exact ⟨rfl, rfl, rfl, fun _ _ => rfl⟩
      | scope number name => exact fun _ h => h
    · rw [hvisit] at hid
      cases hid

/-- A story that was not there at the start is not there. -/
theorem story_of_new (h : σ.stories.length ≤ number) : σ.story number = { scriptId := none } := by
  rw [Service.story, List.getElem?_eq_none h]
  rfl

theorem sound_visits (closed : ∀ id, .find id ∈ visits → Entries.get? id σ.openStories = none) :
    Sound (askingProtocol σ visits) (Met σ visits) (Pool.start σ (visits.map Visit.task)) [] := by
  refine sound_start (fun key => ?_) fun i t ht s g hm => ?_
  · cases key with
    | opening id =>
      refine fun _ => ⟨rfl, rfl, fun n hn hid => ?_⟩
      rw [story_of_new hn] at hid
      cases hid
    | scope n name =>
      intro _ _ hn
      rw [story_of_new hn]
      exact Bool.false_ne_true
  · rw [List.getElem?_map] at ht
    obtain ⟨visit, hvisit, rfl⟩ := Option.map_eq_some_iff.1 ht
    refine keeps_visit hvisit (fun id hid => closed id ?_) hm.always hm.taken
    exact hid ▸ List.mem_of_getElem? hvisit

/-! ### Who opens a story -/

/-- A story is opened by one call alone. -/
theorem Made.unique {id' : String} {j : Nat} (h : Made σ id number i s g)
    (h' : Made σ id' number j s g) : i = j := by
  obtain rfl : id' = id := Option.some.inj (h'.opened.scriptId.symm.trans h.opened.scriptId)
  obtain ⟨before, hlog, hcount⟩ := h.before
  obtain ⟨before', hlog', hcount'⟩ := h'.before
  have hlength : (before ++ [i]).length = (before' ++ [j]).length := by
    rw [List.length_append, List.length_append, List.length_singleton, List.length_singleton]
    omega
  have heq : before ++ [i] = before' ++ [j] :=
    (List.prefix_of_prefix_length_le hlog hlog' (Nat.le_of_eq hlength)).eq_of_length hlength
  exact List.singleton_inj.1 (List.append_inj_right heq (by simpa using hlength))

/-- Who has had the lock of the global scope of a story has opened it. -/
theorem Met.made {r : Except Fault (Option Nat)} (h : Met σ visits i r s g)
    (hmem : .scope number Scope.global.lockName ∈ g.taken i) :
    ∃ id, visits[i]? = some (.find id) ∧ r = .ok (some number) ∧ Made σ id number i s g := by
  by_cases hother : ∀ id, visits[i]? ≠ some (.find id)
  · rw [h.idle hother] at hmem
    cases hmem
  · obtain ⟨id, hid⟩ := not_forall_not.1 hother
    obtain ⟨r', rfl, hfound⟩ := h.found id hid
    cases hfound with
    | looked isOpen opened taken => rcases taken with taken | taken <;> simp [taken] at hmem
    | made made =>
      simp only [made.taken, List.mem_cons, reduceCtorEq, ServiceLock.scope.injEq, and_true,
        List.not_mem_nil, or_false, false_or, or_self] at hmem
      subst hmem
      exact ⟨id, hid, rfl, made⟩
    | failed e unreadable taken => simp [taken] at hmem

/-- When all visits are over, the lock of the global scope of each story that is new and open has been held
twice, by the call that has opened the story. -/
theorem takers_of_finished {p : Pool ServiceLock Service (Option Nat)}
    (sound : Sound (askingProtocol σ visits) (Met σ visits) p g) (finished : p.Finished)
    (new : σ.stories.length ≤ number) (isOpen : (p.state.story number).global.isOpen = true) :
    ∃ j id, visits[j]? = some (.find id) ∧ p.tasks[j]? = some (.done (.ok (some number))) ∧
      Made σ id number j p.state g ∧ g.takers (.scope number Scope.global.lockName) = [j, j] := by
  have hdone : ∀ (i : Nat) t, p.tasks[i]? = some t → ∃ r, t = .done r :=
    fun i t ht => finished t (List.mem_of_getElem? ht)
  have hmade : ∀ i ∈ g.takers (.scope number Scope.global.lockName), ∃ id,
      visits[i]? = some (.find id) ∧ p.tasks[i]? = some (.done (.ok (some number))) ∧
        Made σ id number i p.state g := by
    intro i hi
    obtain ⟨e, he, rfl⟩ := List.mem_map.1 hi
    have hlt := sound.ordered.log_lt e (List.mem_of_mem_filter he)
    have ht := List.getElem?_eq_getElem hlt
    obtain ⟨r, hr⟩ := hdone e.2 _ ht
    rw [hr] at ht
    have hmem : .scope number Scope.global.lockName ∈ g.taken e.2 := by
      rw [← List.count_pos_iff, ← Log.count_takers, List.count_pos_iff]
      exact hi
    obtain ⟨id, hid, rfl, made⟩ := (sound.of_done ht).1.made hmem
    exact ⟨id, hid, ht, made⟩
  have hfree : askingFree σ (.scope number Scope.global.lockName) p.state
      (g.takers (.scope number Scope.global.lockName)) :=
    sound.ordered.free (.scope number Scope.global.lockName) (sound.line_eq_nil hdone _)
  have htakers : g.takers (.scope number Scope.global.lockName) ≠ [] := fun hnil =>
    hfree rfl hnil new isOpen
  obtain ⟨j, hj⟩ := List.exists_mem_of_ne_nil _ htakers
  obtain ⟨id, hid, ht, made⟩ := hmade j hj
  refine ⟨j, id, hid, ht, made, ?_⟩
  have hall : ∀ i ∈ g.takers (.scope number Scope.global.lockName), i = j := by
    intro i hi
    obtain ⟨_, _, _, made'⟩ := hmade i hi
    exact made'.unique made
  have hcount : (g.takers (.scope number Scope.global.lockName)).count j = 2 := by
    rw [Log.count_takers, made.taken]
    simp
  have hlength := List.count_eq_length.2 fun i hi => (hall i hi).symm
  exact List.eq_replicate_iff.2 ⟨hlength.symm.trans hcount, hall⟩

/-- What is kept by those who ask for stories that are not open, at any time of any run. -/
theorem sound_run {p : Pool ServiceLock Service (Option Nat)}
    (closed : ∀ id, .find id ∈ visits → Entries.get? id σ.openStories = none)
    (run : Pool.Run (Pool.start σ (visits.map Visit.task)) g p) :
    Sound (askingProtocol σ visits) (Met σ visits) p g := by
  rcases run.sound steady_met (sound_visits closed) with sound | ⟨lenient, -⟩
  · exact sound
  · exact lenient.elim

/-- The story that those are given who have asked for that of a script. It is open and new, and it is in the
state in which opening a story that nobody had touched leaves it, with the variables registered that every
script has; no other new story of the script has been touched. When all are done, the lock of its global scope
has been held twice, by one of those who asked: to open the scope, and to register these variables. -/
structure Given (σ : Service) (visits : List Visit) (id : String) (number : Nat)
    (p : Pool ServiceLock Service (Option Nat)) (g : Log ServiceLock) : Prop where
  isOpen : Entries.get? id p.state.openStories = some number
  opened : Opened σ id number p.state
  globalOpen : (p.state.story number).global.isOpen = true
  registered : ∃ m : State,
    (p.state.story number).global.state = (m.applyRegistrations σ.names systemDirective).2
  once : p.Finished → ∃ j : Nat, visits[j]? = some (.find id) ∧
    g.takers (.scope number Scope.global.lockName) = [j, j]

theorem given_of_opened {p : Pool ServiceLock Service (Option Nat)}
    (sound : Sound (askingProtocol σ visits) (Met σ visits) p g) (works : (σ.storeOf id).outage = .none)
    (isOpen : Entries.get? id p.state.openStories = some number) (opened : Opened σ id number p.state) :
    Given σ visits id number p g := by
  obtain ⟨globalOpen, registered⟩ := opened.registered works
  refine ⟨isOpen, opened, globalOpen, registered, fun finished => ?_⟩
  obtain ⟨j, id', hid', -, made, htakers⟩ := takers_of_finished sound finished opened.new globalOpen
  obtain rfl : id' = id := Option.some.inj (made.opened.scriptId.symm.trans opened.scriptId)
  exact ⟨j, hid', htakers⟩

/-- Stories that are not open are asked for together, over stores that work, while files and configurations
change. At any time, all who have asked for the story of a script and have an answer have been given the same
one, unless the configuration could not be read. -/
theorem opened_once {p : Pool ServiceLock Service (Option Nat)}
    (closed : ∀ id, .find id ∈ visits → Entries.get? id σ.openStories = none)
    (works : ∀ id, .find id ∈ visits → (σ.storeOf id).outage = .none)
    (run : Pool.Run (Pool.start σ (visits.map Visit.task)) g p) (id : String) :
    ∃ number, ∀ (i : Nat) (r : Except Fault (Option Nat)), visits[i]? = some (.find id) →
      p.tasks[i]? = some (.done r) →
        (r = .ok (some number) ∧ Given σ visits id number p g) ∨
          ∃ e, r = .error e ∧ Unreadable σ visits e := by
  have sound := sound_run closed run
  refine ⟨(Entries.get? id p.state.openStories).getD 0, fun i r hvisit ht => ?_⟩
  have hworks := works id (List.mem_of_getElem? hvisit)
  obtain ⟨r', rfl, hfound⟩ := (sound.of_done ht).1.found id hvisit
  cases hfound with
  | looked isOpen opened _ =>
    rw [isOpen]
    exact .inl ⟨rfl, given_of_opened sound hworks isOpen opened⟩
  | made made =>
    rw [made.isOpen]
    exact .inl ⟨rfl, given_of_opened sound hworks made.isOpen made.opened⟩
  | failed e unreadable _ => exact .inr ⟨e, rfl, unreadable⟩

/-- Two ask for one story and one for another, while files change. -/
def callers : List Visit := [.find "s", .outside {} none, .find "t", .find "s"]

/-- The two are given the same story. -/
theorem callers_meet : let p := (Pool.start {} (callers.map Visit.task)).run
    ∃ g number, p.tasks[0]? = some (.done (.ok (some number))) ∧
      p.tasks[3]? = some (.done (.ok (some number))) ∧ Given {} callers "s" number p g ∧ p.Finished := by
  obtain ⟨g, run, idle⟩ := Pool.run_run (Pool.start {} (callers.map Visit.task))
  have closed : ∀ id, .find id ∈ callers → Entries.get? id ({} : Service).openStories = none :=
    fun _ _ => rfl
  have hdone := (sound_run closed run).all_done (Pool.idle_of_nil idle)
  have hreadable : ∀ e, ¬ Unreadable {} callers e := by simp [Unreadable, callers]
  obtain ⟨number, hfound⟩ := opened_once closed (fun _ _ => rfl) run "s"
  have hanswer : ∀ i : Nat, callers[i]? = some (.find "s") →
      (Pool.start {} (callers.map Visit.task)).run.tasks[i]? = some (.done (.ok (some number))) ∧
        Given {} callers "s" number (Pool.start {} (callers.map Visit.task)).run g := by
    intro i hi
    have hlt : i < (Pool.start {} (callers.map Visit.task)).run.tasks.length := by
      rw [run.length_tasks]
      simpa [Pool.start] using (List.getElem?_eq_some_iff.1 hi).1
    obtain ⟨r, hr⟩ := hdone i _ (List.getElem?_eq_getElem hlt)
    have ht := hr ▸ List.getElem?_eq_getElem hlt
    rcases hfound i r hi ht with ⟨rfl, given⟩ | ⟨e, -, unreadable⟩
    · exact ⟨ht, given⟩
    · exact absurd unreadable (hreadable e)
  refine ⟨g, number, (hanswer 0 rfl).1, (hanswer 3 rfl).1, (hanswer 0 rfl).2, fun t ht => ?_⟩
  obtain ⟨i, hi⟩ := List.mem_iff_getElem?.1 ht
  exact hdone i t hi

end Service

end StoryState
