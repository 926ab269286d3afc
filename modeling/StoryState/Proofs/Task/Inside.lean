import StoryState.Proofs.Task.Protocol

/-!
Tasks that take no locks themselves, as they run while a lock is held: every stroke goes along
`Step`, and when the task rests, others go along `Rest`.
-/

namespace StoryState

variable {κ σ α β : Type}

/-- Running the task from a state ends with `Q`, whatever others do along `Rest` when it rests; its
own strokes go along `Step`. -/
def Task.Inside (Rest Step : σ → σ → Prop) :
    Task κ σ α → σ → (Except Fault α → σ → Prop) → Prop
  | .done r, s, Q => Q r s
  | .read next, s, Q => (next s).Inside Rest Step s Q
  | .write s' next, s, Q => Step s s' ∧ next.Inside Rest Step s' Q
  | .lock _ _, _, _ | .unlock _ _, _, _ => False
  | .rest next, s, Q => ∀ s', Rest s s' → next.Inside Rest Step s' Q

namespace Task

variable {Rest Step : σ → σ → Prop} {s : σ}

theorem Inside.mono {t : Task κ σ α} {Q Q' : Except Fault α → σ → Prop}
    (h : t.Inside Rest Step s Q) (hQ : ∀ r s, Q r s → Q' r s) : t.Inside Rest Step s Q' := by
  induction t generalizing s with
  | done r => exact hQ _ _ h
  | read next ih => exact ih s h
  | write s' next ih => exact ⟨h.1, ih h.2⟩
  | lock key next ih => exact h
  | unlock key next ih => exact h
  | rest next ih => exact fun s' hs => ih (h s' hs)

/-- What holds whatever others do along `Rest` holds if they do less, and what every stroke and
everything that others do goes along holds from the beginning to the end. -/
theorem Inside.along {Rest' R : σ → σ → Prop} {t : Task κ σ α} {Q : Except Fault α → σ → Prop}
    (h : t.Inside Rest Step s Q) (refl : ∀ s, R s s)
    (trans : ∀ {s t u}, R s t → R t u → R s u) (step : ∀ s s', Step s s' → R s s')
    (rest : ∀ s s', Rest' s s' → Rest s s' ∧ R s s') :
    t.Inside Rest' Step s fun r s' => Q r s' ∧ R s s' := by
  induction t generalizing s with
  | done r => exact ⟨h, refl s⟩
  | read next ih => exact ih s h
  | write s' next ih =>
    refine ⟨h.1, (ih h.2).mono fun r s'' hr => ⟨hr.1, trans (step s s' h.1) hr.2⟩⟩
  | lock key next ih => exact h
  | unlock key next ih => exact h
  | rest next ih =>
    intro s' hs'
    obtain ⟨hrest, hR⟩ := rest s s' hs'
    exact (ih (h s' hrest)).mono fun r s'' hr => ⟨hr.1, trans hR hr.2⟩

theorem inside_andThen {t : Task κ σ α} {f : Except Fault α → Task κ σ β}
    {Q : Except Fault β → σ → Prop} : (t.andThen f).Inside Rest Step s Q ↔
      t.Inside Rest Step s fun r s => (f r).Inside Rest Step s Q := by
  induction t generalizing s with
  | done r => rfl
  | read next ih => exact ih s
  | write s' next ih => exact and_congr_right fun _ => ih
  | lock key next ih => rfl
  | unlock key next ih => rfl
  | rest next ih => exact forall_congr' fun _ => forall_congr' fun _ => ih

theorem inside_get {f : σ → Task κ σ α} {Q : Except Fault α → σ → Prop} :
    (get >>= f : Task κ σ α).Inside Rest Step s Q ↔ (f s).Inside Rest Step s Q := Iff.rfl

theorem inside_bind {t : Task κ σ α} {f : α → Task κ σ β} {Q : Except Fault β → σ → Prop} :
    (t >>= f).Inside Rest Step s Q ↔
      t.Inside Rest Step s fun r s => match r with
        | .ok a => (f a).Inside Rest Step s Q
        | .error e => Q (.error e) s := by
  refine inside_andThen.trans ⟨fun h => h.mono fun r _ hr => ?_, fun h => h.mono fun r _ hr => ?_⟩
  · cases r <;> exact hr
  · cases r <;> exact hr

theorem alone_get {f : σ → Task κ σ α} : (get >>= f : Task κ σ α).alone s = (f s).alone s := rfl

theorem alone_bind {t : Task κ σ α} {f : α → Task κ σ β} : (t >>= f).alone s =
    match t.alone s with
    | (.ok a, s') => (f a).alone s'
    | (.error e, s') => (.error e, s') := by
  refine (alone_andThen t _ s).trans ?_
  rcases t.alone s with ⟨_ | a, s'⟩ <;> rfl

theorem alone_map {t : Task κ σ α} {f : α → β} :
    (t >>= fun a => pure (f a)).alone s = ((t.alone s).1.map f, (t.alone s).2) := by
  rw [alone_bind]
  rcases t.alone s with ⟨_ | a, s'⟩ <;> rfl

/-! ### Under a lock -/

variable [DecidableEq κ] {P : Protocol κ σ} {i : Nat} {key : κ} {held : List κ} {g : Log κ}

/-- A task that takes no locks abides by a protocol while some are held. -/
theorem Inside.keeps {t : Task κ σ α} {Q : Except Fault α → σ → Prop}
    (h : t.Inside Rest Step s Q)
    (rest : ∀ s s', P.Always s s' → (∀ key ∈ held, P.Others key s s') → Rest s s')
    (step : ∀ s s', Step s s' → P.Changes held s s') :
    t.Keeps P i held s g fun r held' s' g' => held' = held ∧ Q r s' ∧ P.Always s s' ∧
      (∀ key ∈ held, g'.takers key = g.takers key) ∧ g'.taken i = g.taken i ∧ g <+: g' := by
  induction t generalizing s g with
  | done r => exact ⟨rfl, h, P.always_refl s, fun _ _ => rfl, rfl, List.prefix_refl g⟩
  | read next ih => exact ih s h
  | write s' next ih =>
    refine ⟨step s s' h.1, (ih h.2).mono ?_⟩
    rintro r held' s'' g' ⟨hheld, hq, always, hlog⟩
    exact ⟨hheld, hq, P.always_trans (step s s' h.1).always always, hlog⟩
  | lock key next ih => exact h.elim
  | unlock key next ih => exact h.elim
  | rest next ih =>
    intro s' g' hm
    refine (ih (h s' (rest s s' hm.always hm.others))).mono ?_
    rintro r held' s'' g'' ⟨hheld, hq, always, htakers, htaken, hlog⟩
    exact ⟨hheld, hq, P.always_trans hm.always always,
      fun key hk => (htakers key hk).trans (hm.takers key hk), htaken.trans hm.taken,
      hm.log.trans hlog⟩

theorem keeps_get {f : σ → Task κ σ α} {Q : Except Fault α → List κ → σ → Log κ → Prop} :
    (get >>= f : Task κ σ α).Keeps P i held s g Q ↔ (f s).Keeps P i held s g Q := Iff.rfl

/-- A task abides by a protocol while it holds a lock, besides others of lower ranks, if it does so from when
it has got it until it gives it back, unless it may stop with a fault and does. -/
theorem keeps_holding {t : Task κ σ α} {Q : Except Fault α → List κ → σ → Log κ → Prop}
    (above : ∀ k ∈ held, P.rank k < P.rank key)
    (h : ∀ s₁ g₁, P.Meanwhile i held s g s₁ g₁ → P.Free key s₁ (g₁.takers key) →
      ∀ s₂ g₂, P.Meanwhile i (key :: held) s₁ (g₁ ++ [(key, i)]) s₂ g₂ →
        t.Keeps P i (key :: held) s₂ g₂ fun r held' s' g' => held' = key :: held ∧
          ((P.lenient ∧ ∃ e, r = .error e) ∨ P.Free key s' (g'.takers key) ∧
            ∀ g'', P.Meanwhile i held s' g' s' g'' → Q r held s' g'')) :
    (Task.holding key t).Keeps P i held s g Q := by
  refine ⟨⟨above, not_isDone_andThen fun _ _ => id⟩, fun s₁ g₁ hm free s₂ g₂ hm' => ?_⟩
  refine Keeps.andThen (fun _ _ => trivial) ((h s₁ g₁ hm free s₂ g₂ hm').mono ?_)
  rintro r held' s' g' ⟨rfl, hr⟩
  refine ⟨by simp, ?_⟩
  rcases hr with ⟨lenient, e, rfl⟩ | ⟨hfree, hq⟩
  · exact .inl ⟨lenient, trivial⟩
  · refine .inr ⟨hfree, fun g'' hm'' => ?_⟩
    rw [filter_ne_cons above] at hm'' ⊢
    exact hq g'' hm''

end Task

end StoryState
