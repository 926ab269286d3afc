import StoryState.Proofs.Story.Alone
import StoryState.Proofs.Story.Deed

/-!
What storing all that is marked leaves behind over a store that may refuse (`Script.stores_flush`). Every scope
either stays as it was, mark and payload, or it was marked and could be stored, and the store holds it now. If
all marked scopes can be stored none of them stays marked.
-/

namespace StoryState.Script

open StoryState.Task

variable {c d : Scope} {s s' s'' : Script}

/-- A scope is marked, and there is a state of it that can be stored. -/
def Marked (c : Scope) (s : Script) : Prop :=
  (s.story.cell c).isDirty = true ∧ (s.story.state? c).isSome = true

/-- The store holds the state of a scope as it is in memory. -/
def InStore (c : Scope) (s : Script) : Prop := s.storedState c = some (s.memory c)

/-- The state of every marked scope is read back as it is written. -/
def MarksStorable (s : Script) : Prop := ∀ c, Marked c s → (s.memory c).Storable

theorem Agree.marked (h : Agree c s s') : Marked c s' ↔ Marked c s := by
  rw [Marked, Marked, h.cell, h.state?]

theorem Agree.inStore (h : Agree c s s') : InStore c s' ↔ InStore c s := by
  rw [InStore, InStore, storedState, storedState, memory, memory, h.cell, h.payload]

/-- What storing marked scopes does. -/
structure Stores (s s' : Script) : Prop where
  outage : s'.store.outage = s.store.outage
  memory : ∀ c, s'.memory c = s.memory c
  scope : ∀ c, Agree c s s' ∨ Marked c s ∧ CanStore c s ∧ InStore c s' ∧ ¬ Marked c s'

namespace Stores

theorem refl (s : Script) : Stores s s := ⟨rfl, fun _ => rfl, fun c => .inl (.refl c s)⟩

theorem marked (h : Stores s s') (hm : Marked c s') : Marked c s := by
  rcases h.scope c with hagree | ⟨-, -, -, hclean⟩
  · exact hagree.marked.1 hm
  · exact absurd hm hclean

theorem canStore (h : Stores s s') : CanStore c s' ↔ CanStore c s := by
  rw [CanStore, CanStore, h.memory, Store.refuses, Store.refuses, h.outage]

theorem marksStorable (h : Stores s s') (hs : MarksStorable s) : MarksStorable s' := by
  intro c hm
  rw [h.memory]
  exact hs c (h.marked hm)

theorem trans (h : Stores s s') (h' : Stores s' s'') : Stores s s'' := by
  refine ⟨h'.outage.trans h.outage, fun c => (h'.memory c).trans (h.memory c), fun c => ?_⟩
  rcases h'.scope c with hagree' | ⟨hm, hcan, hsaved, hclean⟩
  · rcases h.scope c with hagree | ⟨hm, hcan, hsaved, hclean⟩
    · exact .inl (hagree.trans hagree')
    · exact .inr ⟨hm, hcan, hagree'.inStore.2 hsaved, fun hm' => hclean (hagree'.marked.1 hm')⟩
  · exact .inr ⟨h.marked hm, h.canStore.1 hcan, hsaved, hclean⟩

/-- What was marked and is not any more has been stored. -/
theorem inStore_of_clean (h : Stores s s') (hm : Marked c s) (hclean : ¬ Marked c s') : InStore c s' := by
  rcases h.scope c with hagree | ⟨-, -, hsaved, -⟩
  · exact absurd (hagree.marked.2 hm) hclean
  · exact hsaved

end Stores

/-! ### Storing what is marked -/

theorem stores_persist (hm : Marked c s) (hcan : CanStore c s) (storable : (s.memory c).Storable) :
    ∃ s', (persist c).alone s = (.ok (), s') ∧ Stores s s' ∧ ¬ Marked c s' := by
  obtain ⟨document, hdocument, hend⟩ := alone_persist_of_canStore hcan
  have honly : OnlyAt c s (markStored c { s with
      store := s.store.save c.storageKey document.toUTF8 }) := save_onlyAt.trans markStored_onlyAt
  have hclean : ¬ Marked c (markStored c { s with
      store := s.store.save c.storageKey document.toUTF8 }) := by
    intro hm
    rw [Marked, cell_markStored] at hm
    cases hm.1
  refine ⟨_, hend, ⟨honly.1.outage.symm, fun d => ?_, fun d => ?_⟩, hclean⟩
  all_goals by_cases hd : d = c
  · rw [hd, memory_markStored]
    rfl
  · exact (congrArg Cell.state (honly.2 d hd).cell).symm
  · subst hd
    refine .inr ⟨hm, hcan, ?_, hclean⟩
    rw [InStore, memory_markStored]
    exact storedState_of_payload storable hdocument (by rw [payload_markStored, payload_save])
  · exact .inl (honly.2 d hd)

theorem stores_persistIfDirty (storable : MarksStorable s) (c : Scope) :
    Stores s ((persistIfDirty c).alone s).2 ∧ ((Marked c s → CanStore c s) →
      ∃ b s', (persistIfDirty c).alone s = (.ok b, s') ∧ ¬ Marked c s') := by
  rw [alone_persistIfDirty, storeMarked, alone_get]
  dsimp only
  split
  · rename_i hmarked
    rw [Bool.and_eq_true] at hmarked
    rw [alone_map]
    by_cases hcan : CanStore c s
    · obtain ⟨s', hend, hstores, hclean⟩ := stores_persist hmarked hcan (storable c hmarked)
      rw [hend]
      exact ⟨hstores, fun _ => ⟨true, s', rfl, hclean⟩⟩
    · obtain ⟨e, hend⟩ := alone_persist_of_not_canStore hcan
      rw [hend]
      exact ⟨.refl s, fun h => absurd (h hmarked) hcan⟩
  · rename_i hunmarked
    rw [Bool.and_eq_true] at hunmarked
    exact ⟨.refl s, fun _ => ⟨false, s, rfl, hunmarked⟩⟩

/-- By induction on the scopes: what has been stored stays so, and what stops behind it changes nothing. -/
theorem stores_flushAll (storable : MarksStorable s) (scopes : List Scope) :
    Stores s ((flushAll scopes).alone s).2 ∧ ((∀ c, Marked c s → CanStore c s) →
      ∀ c ∈ scopes, ¬ Marked c ((flushAll scopes).alone s).2) := by
  induction scopes generalizing s with
  | nil => exact ⟨.refl s, fun _ _ h => nomatch h⟩
  | cons d scopes ih =>
    obtain ⟨hfirst, hgoes⟩ := stores_persistIfDirty storable d
    show Stores s ((persistIfDirty d >>= fun _ => _ : ScriptTask Nat).alone s).2 ∧
      (_ → ∀ c ∈ _, ¬ Marked c ((persistIfDirty d >>= fun _ => _ : ScriptTask Nat).alone s).2)
    rw [alone_bind]
    generalize hend : (persistIfDirty d).alone s = p at hfirst hgoes
    obtain ⟨e | b, s₁⟩ := p
    · refine ⟨hfirst, fun hcan => ?_⟩
      obtain ⟨b, s', h, -⟩ := hgoes (hcan d)
      cases h
    · dsimp only at hfirst ⊢
      rw [alone_map]
      obtain ⟨hrest, hclean⟩ := ih (hfirst.marksStorable storable)
      refine ⟨hfirst.trans hrest, fun hcan c hc hm => ?_⟩
      obtain ⟨b', s', h, hunmarked⟩ := hgoes (hcan d)
      cases h
      rcases List.mem_cons.1 hc with rfl | hc
      · exact hunmarked (hrest.marked hm)
      · exact hclean (fun d hd => hfirst.canStore.2 (hcan d (hfirst.marked hd))) c hc hm

/-- Storing all that is marked, also if that stops midway. -/
theorem stores_flush (storable : MarksStorable s) :
    Stores s (flush.alone s).2 ∧ ((∀ c, Marked c s → CanStore c s) → ∀ c, ¬ Marked c (flush.alone s).2) := by
  obtain ⟨hstores, hclean⟩ := stores_flushAll storable s.story.dirtyScopes
  refine ⟨hstores, fun hcan c hm => ?_⟩
  exact hclean hcan c (mem_dirtyScopes (hstores.marked hm).1) hm

/-- If all that is marked can be stored, all of it is. -/
theorem inStore_flush (storable : MarksStorable s) (hcan : ∀ c, Marked c s → CanStore c s)
    (hm : Marked c s) : InStore c (flush.alone s).2 := by
  obtain ⟨hstores, hclean⟩ := stores_flush storable
  exact hstores.inStore_of_clean hm (hclean hcan c)

/-- Where no marked scope has been stored as it is, storing what is marked stores all of it just if it can all
be stored. -/
theorem inStore_flush_iff (storable : MarksStorable s) (pending : ∀ c, Marked c s → ¬ InStore c s) :
    (∀ c, Marked c s → InStore c (flush.alone s).2) ↔ ∀ c, Marked c s → CanStore c s := by
  refine ⟨fun hsaved c hm => ?_, fun hcan c hm => inStore_flush storable hcan hm⟩
  rcases (stores_flush storable).1.scope c with hagree | ⟨-, hcan, -⟩
  · exact absurd (hagree.inStore.1 (hsaved c hm)) (pending c hm)
  · exact hcan

end StoryState.Script
