import StoryState.Proofs.Story.Operation
import StoryState.Proofs.Task.Sequence
import StoryState.Story.Snapshot

/-!
What can be done to a script while nobody else works on it, and its store may fail or work again at
any time (`Weather`). A deed that goes through accounts for all scopes; one that stops leaves each
scope accounted for, or has saved nothing of it (`Deed.leaves`).
-/

namespace StoryState

open Script

/-- A snapshot of states that a document can hold. -/
structure Snapshot.Fit (snap : Snapshot) : Prop where
  once : Entries.Once snap.characters
  global : snap.global.Storable
  characters : ∀ id state, (id, state) ∈ snap.characters → state.Storable

namespace Script

variable {α β : Type} {c d : Scope} {s s₁ s' s'' : Script}

/-! ### Weather -/

/-- The store may fail from now on, or work again. -/
def Weather (s s' : Script) : Prop := ∃ outage, s' = { s with store := { s.store with outage } }

/-- What belongs to a scope is the same. -/
structure Same (c : Scope) (s s' : Script) : Prop where
  cell : s'.story.cell c = s.story.cell c
  payload : s'.payload? c = s.payload? c

theorem Same.refl (c : Scope) (s : Script) : Same c s s := ⟨rfl, rfl⟩

theorem Same.trans (h : Same c s s') (h' : Same c s' s'') : Same c s s'' :=
  ⟨h'.cell.trans h.cell, h'.payload.trans h.payload⟩

theorem Weather.same (h : Weather s s') (c : Scope) : Same c s s' := by
  obtain ⟨outage, rfl⟩ := h
  exact ⟨rfl, rfl⟩

theorem Agree.same (h : Agree c s s') : Same c s s' := ⟨h.cell.symm, h.payload.symm⟩

theorem Same.memory (h : Same c s s') : s'.memory c = s.memory c := congrArg Cell.state h.cell

theorem Same.drifts (h : Same c s s') : Drifts Eq c s s' := by
  refine ⟨h.memory.symm, ?_, ?_, h.payload⟩
  · rw [h.cell]
  · rw [h.cell]
    exact id

theorem Same.unsaved (h : Same c s s') : Unsaved c s s' := h.drifts.unsaved

theorem Same.accounted (h : Same c s s') (ha : Accounted c s) : Accounted c s' :=
  upTo_eq.1 ((upTo_eq.2 ha).drift drift_eq h.drifts)

/-- What a task does that works on a scope while nobody else works on any. -/
theorem Does.endsIn {t : ScriptTask α} {Q : Except Fault α → Script → Prop} {r : Except Fault α}
    (h : Does Eq c t s Q) (hs : (s.memory c).Storable) (hr : t.EndsIn Weather s r s') :
    (s'.memory c).Storable ∧ Q r s' ∧ ∀ d, d ≠ c → Same d s s' := by
  have hboth := ((h hs).along (R := fun s s' => ∀ d, d ≠ c → Same d s s') (fun s d _ => .refl d s)
    (fun h h' d hd => (h d hd).trans (h' d hd)) (fun t t' ht d hd => (ht.1.2 d hd).same)
    fun t t' ht => ⟨(Weather.same ht c).drifts, fun d _ => Weather.same ht d⟩).endsIn hr
  exact ⟨hboth.1.1, hboth.1.2, hboth.2⟩

theorem weather_of_eq (h : s = s') : Weather s s' := ⟨s.store.outage, h ▸ rfl⟩

/-- In calm weather the store goes on as before. -/
theorem Does.outage {t : ScriptTask α} {Q : Except Fault α → Script → Prop} {r : Except Fault α}
    (h : Does Eq c t s Q) (hs : (s.memory c).Storable) (hr : t.EndsIn Eq s r s') :
    s'.store.outage = s.store.outage := by
  have htrans : ∀ {s t u : Script}, s.store.outage = t.store.outage →
      t.store.outage = u.store.outage → s.store.outage = u.store.outage := fun h h' => h.trans h'
  have hrest : ∀ t t' : Script, t = t' → Drifts Eq c t t' ∧ t.store.outage = t'.store.outage := by
    rintro t _ rfl
    exact ⟨.refl drift_eq c t, rfl⟩
  have hboth := ((h hs).along (R := fun s s' => s.store.outage = s'.store.outage) (fun s => rfl) htrans
    (fun t t' ht => ht.1.1.outage) hrest).endsIn hr
  exact hboth.2.symm

/-! ### What a task leaves behind -/

theorem Settled.of_same (h : Settled s) (hs : ∀ c, Same c s s') : Settled s' where
  storable c := (hs c).memory ▸ h.storable c
  accounted c := (hs c).accounted (h.accounted c)

theorem Settled.weather (h : Settled s) (hs : Weather s s') : Settled s' := h.of_same hs.same

/-- What a task leaves behind: it accounts for every scope, or it has stopped and saved nothing of
those for which it does not. -/
structure Leaves (s : Script) (r : Except Fault α) (s' : Script) : Prop where
  storable : ∀ c, (s'.memory c).Storable
  accounted : ∀ a, r = .ok a → ∀ c, Accounted c s'
  stopped : ∀ e, r = .error e → ∀ c, Accounted c s' ∨ Stops c s s'

theorem Settled.leaves (h : Settled s') (r : Except Fault α) : Leaves s r s' :=
  ⟨h.storable, fun _ _ => h.accounted, fun _ _ c => .inl (h.accounted c)⟩

theorem Leaves.settled {a : α} (h : Leaves s (.ok a) s') : Settled s' := ⟨h.storable, h.accounted a rfl⟩

/-- A task that comes to one scope in the end, and accounts for it or stops. -/
theorem leaves_of_scope {r : Except Fault α} (h : Settled s₁) (storable : (s'.memory c).Storable)
    (others : ∀ d, d ≠ c → Same d s₁ s')
    (own : match r with | .ok _ => Accounted c s' | .error _ => Accounted c s' ∨ Stops c s s') :
    Leaves s r s' := by
  have hothers : ∀ d, d ≠ c → Accounted d s' := fun d hd => (others d hd).accounted (h.accounted d)
  refine ⟨fun d => ?_, fun a ha d => ?_, fun e he d => ?_⟩
  · by_cases hd : d = c
    · exact hd ▸ storable
    · exact (others d hd).memory ▸ h.storable d
  · by_cases hd : d = c
    · subst ha
      exact hd ▸ own
    · exact hothers d hd
  · by_cases hd : d = c
    · subst he
      exact hd ▸ own
    · exact .inl (hothers d hd)

/-- A task that goes on with the answer of another. -/
theorem leaves_bind {t : ScriptTask β} {f : β → ScriptTask α} {r : Except Fault α}
    (hr : (t >>= f).EndsIn Weather s₁ r s') (first : ∀ r s', t.EndsIn Weather s₁ r s' → Leaves s r s')
    (next : ∀ b s₂, t.EndsIn Weather s₁ (.ok b) s₂ → Settled s₂ → (f b).EndsIn Weather s₂ r s' →
      Leaves s r s') : Leaves s r s' := by
  rcases Task.endsIn_bind.1 hr with ⟨b, s₂, h₁, h₂⟩ | ⟨e, h, rfl⟩
  · exact next b s₂ h₁ (first _ _ h₁).settled h₂
  · have hleaves := first _ _ h
    exact ⟨hleaves.storable, (fun _ h => nomatch h), fun _ _ => hleaves.stopped e rfl⟩

theorem leaves_map {t : ScriptTask β} {f : β → α} {r : Except Fault α}
    (hr : (t >>= fun b => pure (f b)).EndsIn Weather s₁ r s')
    (h : ∀ r s', t.EndsIn Weather s₁ r s' → Leaves s r s') : Leaves s r s' := by
  obtain ⟨r₁, h₁, rfl⟩ := Task.endsIn_map.1 hr
  have hleaves := h _ _ h₁
  cases r₁ with
  | ok b => exact hleaves.settled.leaves _
  | error e => exact ⟨hleaves.storable, (fun _ h => nomatch h), fun _ _ => hleaves.stopped e rfl⟩

theorem Accounts.leaves {t : ScriptTask α} {r : Except Fault α} (h : Accounts c t) (hs : Settled s)
    (hr : t.EndsIn Weather s r s') : Leaves s r s' := by
  obtain ⟨β, body, f, rfl, hbody⟩ := h
  refine leaves_map hr fun r s' hr => ?_
  have hdoes := hbody Eq s drift_eq (upTo_eq.2 (hs.accounted c))
  obtain ⟨storable, own, others⟩ := hdoes.endsIn (hs.storable c) (Task.endsIn_holding.1 hr)
  refine leaves_of_scope hs storable others ?_
  cases r with
  | ok _ => exact upTo_eq.1 own
  | error e => exact .inr own

/-! ### Macros and marks -/

/-- Reading macros on a scope that has been opened. -/
theorem leaves_replaceMacros {text : String} {r : Except Fault String} (hs : Settled s₁)
    (opened : Stops c s s₁) (hr : (replaceMacros c text).EndsIn Weather s₁ r s') : Leaves s r s' := by
  obtain ⟨hages, hmarked⟩ := (inside_replaceMacros _).endsIn hr
  refine leaves_of_scope hs ?_ (fun d hd => (hages.1.2 d hd).same) ?_
  · exact hages.2.state.storable (hs.storable c)
  · cases r with
    | ok result => exact upTo_eq.1 ((upTo_eq.2 (hs.accounted c)).ages hages (hmarked result rfl))
    | error e => exact .inr (opened.unsaved hages.2.unsaved)

/-- What has become of the scopes when some of them have been stored as far as they were marked. -/
structure Stored (among : Scope → Prop) (s s' : Script) : Prop where
  settled : Settled s'
  memory : ∀ c, s'.memory c = s.memory c
  others : ∀ c, ¬ among c → Same c s s'

theorem stored_persistIfDirty {r : Except Fault Bool} (hs : Settled s)
    (hr : (persistIfDirty c).EndsIn Weather s r s') :
    Stored (· = c) s s' ∧
      (∀ b, r = .ok b → (s'.story.cell c).isOpen = true → (s'.story.cell c).isDirty = false) ∧
      ∀ e, r = .error e → Stuck c s := by
  have hdoes := does_storeMarked drift_eq (upTo_eq.2 (hs.accounted c))
  obtain ⟨storable, own, others⟩ := hdoes.endsIn (hs.storable c) (Task.endsIn_holding.1 hr)
  have hown : Accounted c s' ∧ s'.memory c = s.memory c := by
    cases r with
    | ok _ => exact ⟨upTo_eq.1 own.1, own.2.1.symm⟩
    | error e =>
      obtain ⟨rfl, -⟩ := own
      exact ⟨hs.accounted c, rfl⟩
  refine ⟨⟨⟨fun d => ?_, fun d => ?_⟩, fun d => ?_, others⟩, ?_, ?_⟩
  · by_cases hd : d = c
    · exact hd ▸ storable
    · exact (others d hd).memory ▸ hs.storable d
  · by_cases hd : d = c
    · exact hd ▸ hown.1
    · exact (others d hd).accounted (hs.accounted d)
  · by_cases hd : d = c
    · exact hd ▸ hown.2
    · exact (others d hd).memory
  · rintro b rfl
    exact own.2.2
  · rintro e rfl
    exact own.2

theorem stored_flushAll {scopes : List Scope} {r : Except Fault Nat} (hs : Settled s)
    (hr : (flushAll scopes).EndsIn Weather s r s') :
    Stored (· ∈ scopes) s s' ∧ ∀ n, r = .ok n → ∀ c ∈ scopes,
      (s'.story.cell c).isOpen = true → (s'.story.cell c).isDirty = false := by
  induction scopes generalizing s r with
  | nil =>
    obtain ⟨-, rfl⟩ := Task.endsIn_done.1 hr
    exact ⟨⟨hs, fun _ => rfl, fun d _ => .refl d s'⟩, fun _ _ c hc => nomatch hc⟩
  | cons d scopes ih =>
    rcases Task.endsIn_bind.1 hr with ⟨b, s₁, h₁, hr⟩ | ⟨e, h₁, rfl⟩
    · obtain ⟨hstored, hclean, -⟩ := stored_persistIfDirty hs h₁
      obtain ⟨r₁, hr₁, rfl⟩ := Task.endsIn_map.1 hr
      obtain ⟨hstored', hclean'⟩ := ih hstored.settled hr₁
      refine ⟨⟨hstored'.settled, fun c => (hstored'.memory c).trans (hstored.memory c), fun c hc => ?_⟩,
        fun n hn c hc => ?_⟩
      · rw [List.mem_cons, not_or] at hc
        exact (hstored.others c hc.1).trans (hstored'.others c hc.2)
      · cases r₁ with
        | error e => cases hn
        | ok m =>
          by_cases hmem : c ∈ scopes
          · exact hclean' m rfl c hmem
          · obtain rfl : c = d := (List.mem_cons.1 hc).resolve_right hmem
            rw [(hstored'.others c hmem).cell]
            exact hclean b rfl
    · obtain ⟨hstored, -, -⟩ := stored_persistIfDirty hs h₁
      refine ⟨⟨hstored.settled, hstored.memory, fun c hc => hstored.others c ?_⟩, fun _ h => nomatch h⟩
      exact fun h => hc (h ▸ List.mem_cons_self)

theorem leaves_renderOpen {history : History} {text : String} {r : Except Fault String}
    (hs : Settled s₁) (opened : Stops c s s₁)
    (hr : (renderOpen history c text).EndsIn Weather s₁ r s') : Leaves s r s' := by
  refine leaves_bind hr (fun _ _ hr => leaves_replaceMacros hs opened hr) fun result s₂ _ hs₂ hr => ?_
  have hdone : ∀ s₃, Settled s₃ →
      (Task.ofExcept (history.fillPlaceholders result) : ScriptTask String).EndsIn Weather s₃ r s' →
        Leaves s r s' := by
    intro s₃ hs₃ hr
    obtain ⟨-, rfl⟩ := Task.endsIn_done.1 hr
    exact hs₃.leaves r
  replace hr := Task.endsIn_get.1 hr
  split at hr
  · refine leaves_bind hr (fun r s' hr => ?_) fun _ s₃ _ hs₃ hr => hdone s₃ hs₃ hr
    refine leaves_map hr fun r s' hr => ?_
    exact (stored_persistIfDirty hs₂ hr).1.settled.leaves r
  · exact hdone s₂ hs₂ hr

theorem leaves_renderMacros {history : History} {text : String} {r : Except Fault String}
    (hs : Settled s) (hr : (renderMacros history c text).EndsIn Weather s r s') : Leaves s r s' := by
  replace hr := Task.endsIn_get.1 hr
  have hensure : ∀ r s₁, (holding c (ensureOpen c)).EndsIn Weather s r s₁ →
      Leaves s r s₁ ∧ ∀ u, r = .ok u → Stops c s s₁ := by
    intro r s₁ hr
    have hdoes := does_ensureOpen drift_eq (upTo_eq.2 (hs.accounted c))
    obtain ⟨storable, own, others⟩ := hdoes.endsIn (hs.storable c) (Task.endsIn_holding.1 hr)
    cases r with
    | ok _ => exact ⟨leaves_of_scope hs storable others (upTo_eq.1 own.1), fun _ _ => own.2.2⟩
    | error e => exact ⟨leaves_of_scope hs storable others (.inr own), fun _ h => nomatch h⟩
  split at hr
  · refine leaves_bind hr (fun r s₁ hr => (hensure r s₁ hr).1) fun _ s₁ hopen hs₁ hr => ?_
    exact leaves_renderOpen hs₁ ((hensure _ s₁ hopen).2 _ rfl) hr
  · exact leaves_renderOpen hs (.inl (.refl c s)) hr

/-- While the store works, only what is too long to be written stops the storing. -/
theorem unwritable_of_flushAll {scopes : List Scope} {e : Fault} (hs : Settled s)
    (working : s.store.outage = .none) (hr : (flushAll scopes).EndsIn Eq s (.error e) s') :
    ∃ c e, (s.memory c).payload = .error e := by
  induction scopes generalizing s with
  | nil =>
    obtain ⟨h, -⟩ := Task.endsIn_done.1 hr
    cases h
  | cons d scopes ih =>
    have hdoes := does_storeMarked drift_eq (upTo_eq.2 (hs.accounted d))
    rcases Task.endsIn_bind.1 hr with ⟨b, s₁, h₁, hr⟩ | ⟨e', h₁, -⟩
    · obtain ⟨hstored, -, -⟩ := stored_persistIfDirty hs (h₁.mono fun _ _ => weather_of_eq)
      have hworking := (hdoes.outage (hs.storable d) (Task.endsIn_holding.1 h₁)).trans working
      obtain ⟨r₁, hr₁, heq⟩ := Task.endsIn_map.1 hr
      cases r₁ with
      | ok n => cases heq
      | error e₁ =>
        obtain ⟨c, e₂, hc⟩ := ih hstored.settled hworking (Except.error.inj heq ▸ hr₁)
        exact ⟨c, e₂, hstored.memory c ▸ hc⟩
    · obtain ⟨-, -, hstuck⟩ := stored_persistIfDirty hs (h₁.mono fun _ _ => weather_of_eq)
      rcases hstuck e' rfl with ⟨e₁, h⟩ | h
      · exact ⟨d, e₁, h⟩
      · rw [Store.refuses, working] at h
        cases h

/-- Whatever is marked is among the marked scopes. -/
theorem mem_dirtyScopes {story : Story} (h : (story.cell c).isDirty = true) : c ∈ story.dirtyScopes := by
  unfold Story.dirtyScopes
  cases c with
  | global =>
    have hglobal : story.global.isDirty = true := h
    simp [hglobal]
  | character id =>
    have hheld := Story.mem_characters (fun hempty => by rw [hempty] at h; cases h)
    exact List.mem_append_right _ (List.mem_map.2 ⟨_, List.mem_filter.2 ⟨hheld, h⟩, rfl⟩)

theorem leaves_flush {r : Except Fault Nat} (hs : Settled s) (hr : flush.EndsIn Weather s r s') :
    Leaves s r s' :=
  (stored_flushAll hs (Task.endsIn_get.1 hr)).1.settled.leaves r

/-- An operation that goes through accounts for all scopes. -/
theorem leaves_operation {op : Operation} {r : Except Fault Answer} (fit : op.Fit) (hs : Settled s)
    (hr : op.task.EndsIn Weather s r s') : Leaves s r s' := by
  cases op with
  | on c call => exact (ScopeCall.accounts fit).leaves hs hr
  | readMacros c text =>
    exact leaves_map hr fun r s' hr => leaves_replaceMacros hs (.inl (.refl c s)) hr
  | renderMacros history c text => exact leaves_map hr fun r s' hr => leaves_renderMacros hs hr
  | flush => exact leaves_map hr fun r s' hr => leaves_flush hs hr

/-! ### Opening -/

theorem leaves_initialise {config : Option (Except Fault State)} {r : Except Fault Unit}
    (fit : FitConfig config) (hs : Settled s)
    (hr : (holding c (initialise c config)).EndsIn Weather s r s') : Leaves s r s' := by
  obtain ⟨storable, own, others⟩ :=
    (does_initialise drift_eq fit).endsIn (hs.storable c) (Task.endsIn_holding.1 hr)
  refine leaves_of_scope hs storable others ?_
  cases r with
  | ok _ => exact upTo_eq.1 own.1
  | error e => exact .inr (.inl own)

/-- A configuration that a document can hold gives a storable state. -/
theorem fitConfig_configOf {v : Value} (hv : v.Tidy) : FitConfig (configOf v) := by
  intro state h
  have hread : readConfig v = .ok state := by
    cases v <;> first | exact Option.some.inj h | cases h
  cases v with
  | text document =>
    obtain ⟨w, hw, h⟩ := exists_of_bind_ok hread
    have htidy := Json.tidy_of_read hw
    split at h
    · exact State.storable_of_ofValue htidy h
    · cases h
  | object fields => exact State.storable_of_ofValue hv hread
  | _ => cases hread

/-! ### Snapshots -/

/-- Reading scopes changes nothing. -/
theorem endsIn_lockedState {r : Except Fault (Option State)}
    (hr : (lockedState c).EndsIn Weather s r s') : s' = s := by
  have hread := Task.endsIn_get.1 (Task.endsIn_holding.1 hr)
  exact (Task.endsIn_done.1 hread).2

theorem endsIn_characterStates {ids : List String} {r : Except Fault (Entries State)}
    (hr : (characterStates ids).EndsIn Weather s r s') : s' = s := by
  induction ids generalizing s r with
  | nil => exact (Task.endsIn_done.1 hr).2
  | cons id ids ih =>
    rcases Task.endsIn_bind.1 hr with ⟨state, s₁, h₁, hr⟩ | ⟨e, h₁, -⟩
    · obtain ⟨r₁, hr₁, -⟩ := Task.endsIn_map.1 hr
      exact (ih hr₁).trans (endsIn_lockedState h₁)
    · exact endsIn_lockedState h₁

theorem endsIn_takeSnapshot {r : Except Fault Snapshot} (hr : takeSnapshot.EndsIn Weather s r s') :
    s' = s := by
  rcases Task.endsIn_bind.1 hr with ⟨state, s₁, h₁, hr⟩ | ⟨e, h₁, -⟩
  · obtain ⟨r₁, hr₁, -⟩ := Task.endsIn_map.1 (Task.endsIn_get.1 hr)
    exact (endsIn_characterStates hr₁).trans (endsIn_lockedState h₁)
  · exact endsIn_lockedState h₁

theorem ends_replaceState {state : State} {r : Except Fault Unit} (hstate : state.Storable)
    (hs : Settled s) (hr : (replaceState c state).EndsIn Weather s r s') :
    (∀ d, (s'.memory d).Storable) ∧ (∀ d, d ≠ c → Same d s s') ∧
      (∀ u, r = .ok u → Accounted c s') ∧ ∀ e, r = .error e → Unsaved c s s' := by
  have hdoes : Does Eq c (do modify (openWith c state); persist c) s _ :=
    .bind (does_modifyOpenWith hstate (does_openAndPersist drift_eq hstate))
  obtain ⟨storable, own, others⟩ := hdoes.endsIn (hs.storable c) (Task.endsIn_holding.1 hr)
  refine ⟨fun d => ?_, others, ?_, ?_⟩
  · by_cases hd : d = c
    · exact hd ▸ storable
    · exact (others d hd).memory ▸ hs.storable d
  · rintro u rfl
    exact upTo_eq.1 own.1
  · rintro e rfl
    exact own

theorem ends_replaceStates {states : Entries State} {r : Except Fault Unit}
    (once : Entries.Once states) (fit : ∀ id state, (id, state) ∈ states → state.Storable)
    (hs : Settled s) (hr : (replaceStates states).EndsIn Weather s r s') :
    (∀ d, (s'.memory d).Storable) ∧
      (∀ d, (∀ id ∈ Entries.keys states, d ≠ .character id) → Same d s s') ∧
      (∀ u, r = .ok u → ∀ d, Accounted d s') ∧
      ∀ e, r = .error e → ∀ d, Accounted d s' ∨
        (∃ id ∈ Entries.keys states, d = .character id) ∧ Unsaved d s s' := by
  induction states generalizing s r with
  | nil =>
    obtain ⟨rfl, rfl⟩ := Task.endsIn_done.1 hr
    exact ⟨hs.storable, fun d _ => .refl d s', fun _ _ => hs.accounted, fun _ h => nomatch h⟩
  | cons entry states ih =>
    obtain ⟨id, state⟩ := entry
    obtain ⟨fresh, once⟩ := List.nodup_cons.1 once
    have hstate := fit id state (by simp)
    rcases Task.endsIn_bind.1 hr with ⟨u, s₁, h₁, hr⟩ | ⟨e, h₁, rfl⟩
    · obtain ⟨storable, others, accounted, -⟩ := ends_replaceState hstate hs h₁
      have hs₁ : Settled s₁ := by
        refine ⟨storable, fun d => ?_⟩
        by_cases hd : d = .character id
        · exact hd ▸ accounted u rfl
        · exact (others d hd).accounted (hs.accounted d)
      obtain ⟨storable', others', accounted', stopped⟩ :=
        ih once (fun id state h => fit id state (List.mem_cons_of_mem _ h)) hs₁ hr
      refine ⟨storable', fun d hd => ?_, accounted', fun e he d => ?_⟩
      · have hhead : d ≠ .character id := hd id (by simp)
        exact (others d hhead).trans (others' d fun k hk => hd k (by simp [hk]))
      · refine (stopped e he d).imp_right ?_
        rintro ⟨⟨k, hk, rfl⟩, hunsaved⟩
        have hne : Scope.character k ≠ .character id := by
          rintro ⟨rfl⟩
          exact fresh hk
        exact ⟨⟨k, by simp [hk], rfl⟩, (others _ hne).unsaved.trans hunsaved⟩
    · obtain ⟨storable, others, -, stopped⟩ := ends_replaceState hstate hs h₁
      refine ⟨storable, fun d hd => others d (hd id (by simp)), (fun _ h => nomatch h), fun _ _ d => ?_⟩
      by_cases hd : d = .character id
      · exact .inr ⟨⟨id, by simp, hd⟩, hd ▸ stopped e rfl⟩
      · exact .inl ((others d hd).accounted (hs.accounted d))

/-- Closing characters closes their cells and leaves the others. -/
theorem cell_closeAll (d : Scope) (story : Story) (ids : List String) :
    ((ids.foldl (fun story id => story.close id) story).cell d = story.cell d) ∨
      ∃ id ∈ ids, d = .character id ∧
        (ids.foldl (fun story id => story.close id) story).cell d =
          { story.cell d with isOpen := false, isDirty := false } := by
  induction ids generalizing story with
  | nil => exact .inl rfl
  | cons id ids ih =>
    rw [List.foldl_cons]
    by_cases hd : d = .character id
    · refine .inr ⟨id, List.mem_cons_self, hd, ?_⟩
      have hclosed : (story.close id).cell d = { story.cell d with isOpen := false, isDirty := false } :=
        hd ▸ Story.cell_setCell_self
      rcases ih _ with h | ⟨_, _, _, h⟩
      · exact h.trans hclosed
      · rw [h, hclosed]
    · have hsame : (story.close id).cell d = story.cell d := Story.cell_setCell_of_ne hd
      rcases ih _ with h | ⟨k, hk, hkd, h⟩
      · exact .inl (h.trans hsame)
      · exact .inr ⟨k, List.mem_cons_of_mem _ hk, hkd, h.trans (by rw [hsame])⟩

/-- Closing the others leaves a scope as it is, or closes a character that the snapshot does not hold. -/
theorem cell_closeOthers (snap : Snapshot) (s : Script) (d : Scope) :
    Same d s (closeOthers snap s) ∨ ∃ id, d = .character id ∧ Entries.has id snap.characters = false ∧
      (closeOthers snap s).story.cell d = { s.story.cell d with isOpen := false, isDirty := false } := by
  refine (cell_closeAll d _ _).imp (fun h => ⟨h, rfl⟩) ?_
  rintro ⟨id, hid, hd, hcell⟩
  exact ⟨id, hd, by simpa using (List.mem_filter.1 hid).2, hcell⟩

theorem closeOthers_same {snap : Snapshot}
    (hd : ∀ id, d = .character id → Entries.has id snap.characters = true) :
    Same d s (closeOthers snap s) := by
  refine (cell_closeOthers snap s d).resolve_right ?_
  rintro ⟨id, hid, hhas, -⟩
  rw [hd id hid] at hhas
  cases hhas

theorem settled_closeOthers (snap : Snapshot) (hs : Settled s) : Settled (closeOthers snap s) := by
  refine ⟨fun d => ?_, fun d => ?_⟩
  · rcases cell_closeOthers snap s d with h | ⟨_, _, _, h⟩
    · exact h.memory ▸ hs.storable d
    · rw [memory, h]
      exact hs.storable d
  · rcases cell_closeOthers snap s d with h | ⟨_, _, _, h⟩
    · exact h.accounted (hs.accounted d)
    · intro hopen
      rw [h] at hopen
      cases hopen

theorem leaves_putSnapshot {snap : Snapshot} {r : Except Fault Unit} (fit : snap.Fit) (hs : Settled s)
    (hr : (putSnapshot snap).EndsIn Weather s r s') : Leaves s r s' := by
  refine leaves_bind hr (fun r s' hr => ?_) fun u s₁ h₁ hs₁ hr => ?_
  · obtain ⟨storable, others, accounted, stopped⟩ := ends_replaceState fit.global hs hr
    refine leaves_of_scope hs (storable .global) others ?_
    cases r with
    | ok u => exact accounted u rfl
    | error e => exact .inr (.inl (stopped e rfl))
  · obtain ⟨-, others₁, -, -⟩ := ends_replaceState fit.global hs h₁
    rcases Task.endsIn_bind.1 hr with ⟨_, s₂, h₂, hr⟩ | ⟨e, h₂, -⟩
    · obtain ⟨-, rfl⟩ := Task.endsIn_modify.1 h₂
      have hs₂ := settled_closeOthers snap hs₁
      obtain ⟨storable, -, accounted, stopped⟩ := ends_replaceStates fit.once fit.characters hs₂ hr
      refine ⟨storable, fun u hu => accounted u hu, fun e he d => ?_⟩
      refine (stopped e he d).imp_right ?_
      rintro ⟨⟨id, hid, rfl⟩, hunsaved⟩
      have hhas : ∀ k, Scope.character id = .character k → Entries.has k snap.characters = true := by
        rintro k ⟨rfl⟩
        exact Entries.has_iff.2 hid
      exact .inl (((others₁ _ (by simp)).trans (closeOthers_same hhas)).unsaved.trans hunsaved)
    · obtain ⟨h, -⟩ := Task.endsIn_modify.1 h₂
      cases h

end Script

end StoryState
