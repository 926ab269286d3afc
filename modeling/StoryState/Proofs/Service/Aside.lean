import StoryState.Proofs.Service.Standing

/-!
What belongs to one script of a service: its store, its stories, which of them is open, and how many there
are (`Service.Aside`). What is done to the story of another script leaves it as it is. While no story of the
script is open it has only stories that nobody has touched (`Service.Unopened`); one of them is being opened
then (`Service.Opening`), until it is open and as opening has left it (`Service.Opened`).
-/

namespace StoryState

open Script StoryState.Task

namespace Service

variable {σ s s' s'' : Service} {id key : String} {number : Nat}

/-- How many stories of a script there are, open or not. -/
def count (id : String) (s : Service) : Nat := (s.stories.map (·.scriptId)).count (some id)

/-- All that belongs to a script is as it was. -/
structure Aside (id : String) (s s' : Service) : Prop where
  isOpen : Entries.get? id s'.openStories = Entries.get? id s.openStories
  store : s'.storeOf id = s.storeOf id
  count : s'.count id = s.count id
  stories : ∀ n, (s.story n).scriptId = some id ∨ (s'.story n).scriptId = some id →
    s'.story n = s.story n

theorem Aside.refl (id : String) (s : Service) : Aside id s s := ⟨rfl, rfl, rfl, fun _ _ => rfl⟩

theorem Aside.trans (h : Aside id s s') (h' : Aside id s' s'') : Aside id s s'' := by
  refine ⟨h'.isOpen.trans h.isOpen, h'.store.trans h.store, h'.count.trans h.count, fun n hn => ?_⟩
  rcases hn with hn | hn
  · have hstory := h.stories n (.inl hn)
    exact (h'.stories n (.inl (hstory ▸ hn))).trans hstory
  · have hstory := h'.stories n (.inr hn)
    exact hstory.trans (h.stories n (.inr (hstory ▸ hn)))

/-- The stories of the script, with its store, are as they were. -/
theorem Aside.script (h : Aside id s s') (hid : (s.story number).scriptId = some id) :
    s'.script number = s.script number := by
  have hstory := h.stories number (.inl hid)
  rw [script_of_scriptId (hstory ▸ hid), script_of_scriptId hid, hstory, h.store]

/-! ### Strokes -/

theorem lt_of_scriptId (h : (s.story number).scriptId = some id) : number < s.stories.length := by
  by_contra hge
  rw [Service.story, List.getElem?_eq_none (Nat.le_of_not_lt hge)] at h
  cases h

theorem story_added (n : Nat) : (s.added key).story n =
    if n = s.stories.length then { scriptId := some key, names := s.names } else s.story n := by
  unfold Service.story added addStore
  dsimp only
  rcases Nat.lt_trichotomy n s.stories.length with hlt | heq | hgt
  · rw [if_neg (Nat.ne_of_lt hlt), List.getElem?_append_left hlt]
  · subst heq
    simp
  · rw [if_neg (Nat.ne_of_gt hgt), List.getElem?_eq_none (by simp; omega),
      List.getElem?_eq_none (Nat.le_of_lt hgt)]

theorem count_added : (s.added key).count id = s.count id + if id = key then 1 else 0 := by
  unfold Service.count added addStore
  dsimp only
  rw [List.map_append, List.count_append]
  by_cases h : id = key
  · simp [h]
  · simp [h, Ne.symm h]

/-- A story more of another script. -/
theorem aside_added (h : id ≠ key) : Aside id s (s.added key) := by
  refine ⟨rfl, storeOf_added id, ?_, fun n hn => ?_⟩
  · rw [count_added, if_neg h, Nat.add_zero]
  · rw [story_added] at hn ⊢
    by_cases hlast : n = s.stories.length
    · rw [if_pos hlast] at hn
      rcases hn with hn | hn
      · have := lt_of_scriptId hn
        omega
      · exact absurd (Option.some.inj hn).symm h
    · rw [if_neg hlast]

theorem story_setScript {p : Script} (n : Nat) : (s.setScript number p).story n =
    if n = number ∧ number < s.stories.length then p.story else s.story n := by
  unfold Service.story setScript
  dsimp only
  rw [List.getElem?_set]
  by_cases hn : number = n
  · subst hn
    by_cases hlt : number < s.stories.length
    · simp [hlt]
    · simp [hlt]
  · rw [if_neg hn, if_neg (fun h => hn h.1.symm)]

theorem count_setScript {p : Script} (hp : p.story.scriptId = (s.story number).scriptId) :
    (s.setScript number p).count id = s.count id := by
  unfold Service.count setScript
  dsimp only
  rw [List.map_set, hp]
  congr 1
  refine List.ext_getElem? fun n => ?_
  rw [List.getElem?_set, List.getElem?_map]
  split
  · rename_i hn
    subst hn
    unfold Service.story
    split
    · rename_i hlt
      have hlt : number < s.stories.length := by simpa using hlt
      simp [hlt]
    · rename_i hge
      have hge : s.stories.length ≤ number := by simpa using hge
      simp [hge]
  · rfl

/-- Another state of a story of another script. -/
theorem aside_setScript {p : Script} (hid : (s.story number).scriptId = some key)
    (hp : p.story.scriptId = some key) (h : id ≠ key) : Aside id s (s.setScript number p) := by
  refine ⟨rfl, ?_, count_setScript (hp.trans hid.symm), fun n hn => ?_⟩
  · unfold storeOf setScript
    dsimp only
    rw [hp, Option.getD_some, Entries.get?_put_of_ne (Ne.symm h)]
  · rw [story_setScript] at hn ⊢
    by_cases hnumber : n = number
    · subst hnumber
      rw [if_pos ⟨rfl, lt_of_scriptId hid⟩] at hn
      rcases hn with hn | hn
      · exact absurd (Option.some.inj (hn.symm.trans hid)) h
      · exact absurd (Option.some.inj (hn.symm.trans hp)) h
    · rw [if_neg (fun hh => hnumber hh.1)]

/-- Another story is open. -/
theorem aside_put (h : id ≠ key) :
    Aside id s { s with openStories := s.openStories.put key number } :=
  ⟨Entries.get?_put_of_ne (Ne.symm h) .., rfl, rfl, fun _ _ => rfl⟩

/-! ### Before, while and after a story is opened -/

/-- No story of a script has been opened since the start, and `k` have been added. -/
structure Unopened (σ : Service) (id : String) (k : Nat) (s : Service) : Prop where
  store : s.storeOf id = σ.storeOf id
  count : s.count id = σ.count id + k
  stories : ∀ n, σ.stories.length ≤ n → (s.story n).scriptId = some id →
    s.story n = (σ.untouched id).story

/-- A story of a script is being opened, and `k` were added before. -/
structure Opening (σ : Service) (id : String) (number k : Nat) (s : Service) : Prop where
  closed : Entries.get? id s.openStories = none
  new : σ.stories.length ≤ number
  scriptId : (s.story number).scriptId = some id
  count : s.count id = σ.count id + k + 1
  others : ∀ n, σ.stories.length ≤ n → n ≠ number → (s.story n).scriptId = some id →
    s.story n = (σ.untouched id).story

/-- A story of a script is new, and opening it has left it as it is; the others that are new nobody has
touched. -/
structure Opened (σ : Service) (id : String) (number : Nat) (s : Service) : Prop where
  new : σ.stories.length ≤ number
  begun : ∃ files, s.script number = (σ.untouched id).begun ({ σ with files }.configured id)
  others : ∀ n, σ.stories.length ≤ n → n ≠ number → (s.story n).scriptId = some id →
    s.story n = (σ.untouched id).story

theorem Unopened.aside {k : Nat} (h : Unopened σ id k s) (aside : Aside id s s') :
    Unopened σ id k s' := by
  refine ⟨aside.store.trans h.store, aside.count.trans h.count, fun n hn hid => ?_⟩
  have hstory := aside.stories n (.inr hid)
  exact hstory.trans (h.stories n hn (hstory ▸ hid))

theorem Opening.aside {k : Nat} (h : Opening σ id number k s) (aside : Aside id s s') :
    Opening σ id number k s' := by
  refine ⟨aside.isOpen.trans h.closed, h.new, ?_, aside.count.trans h.count, fun n hn hne hid => ?_⟩
  · rw [aside.stories number (.inl h.scriptId)]
    exact h.scriptId
  · have hstory := aside.stories n (.inr hid)
    exact hstory.trans (h.others n hn hne (hstory ▸ hid))

theorem scriptId_begun {x : Script} {config : Option (Except Fault State)} :
    (x.begun config).story.scriptId = x.story.scriptId := by
  have hopen := lasts_alone (lasts_tryOpen (c := .global) config) x
  have hregister := lasts_alone (lasts_tryRegistrations (c := .global) systemDirective)
    ((tryOpen .global config).alone x).2
  exact hregister.scriptId.trans hopen.scriptId

theorem Opened.scriptId (h : Opened σ id number s) : (s.story number).scriptId = some id := by
  obtain ⟨files, hbegun⟩ := h.begun
  have hid := congrArg (fun x : Script => x.story.scriptId) hbegun
  exact hid.trans scriptId_begun

theorem Opened.aside (h : Opened σ id number s) (aside : Aside id s s') : Opened σ id number s' := by
  refine ⟨h.new, ?_, fun n hn hne hid => ?_⟩
  · rw [aside.script h.scriptId]
    exact h.begun
  · have hstory := aside.stories n (.inr hid)
    exact hstory.trans (h.others n hn hne (hstory ▸ hid))

/-- A story that is added can be opened. -/
theorem Unopened.added {k : Nat} (h : Unopened σ id k s)
    (closed : Entries.get? id s.openStories = none) (names : s.names = σ.names)
    (length : σ.stories.length ≤ s.stories.length) :
    Opening σ id s.stories.length k (s.added id) ∧
      (s.added id).script s.stories.length = σ.untouched id := by
  refine ⟨⟨closed, length, ?_, ?_, fun n hn hne hid => ?_⟩, ?_⟩
  · rw [story_added, if_pos rfl]
  · rw [count_added, if_pos rfl, h.count]
  · rw [story_added, if_neg hne] at hid ⊢
    exact h.stories n hn hid
  · rw [script_added]
    unfold untouched
    rw [names, h.store]

theorem Opening.setScript {k : Nat} {p : Script} (h : Opening σ id number k s)
    (hp : p.story.scriptId = some id) : Opening σ id number k (s.setScript number p) := by
  refine ⟨h.closed, h.new, ?_, (count_setScript (hp.trans h.scriptId.symm)).trans h.count,
    fun n hn hne hid => ?_⟩
  · rw [story_setScript, if_pos ⟨rfl, lt_of_scriptId h.scriptId⟩]
    exact hp
  · rw [story_setScript, if_neg (fun hh => hne hh.1)] at hid ⊢
    exact h.others n hn hne hid

/-- If opening stops before the story has been touched, it is as if one more had been added. -/
theorem Opening.unopened {k : Nat} (h : Opening σ id number k s)
    (untouched : s.script number = σ.untouched id) : Unopened σ id (k + 1) s := by
  rw [script_of_scriptId h.scriptId] at untouched
  obtain ⟨hstory, hstore⟩ := Script.mk.inj untouched
  refine ⟨hstore, h.count, fun n hn hid => ?_⟩
  by_cases hnumber : n = number
  · rw [hnumber]
    exact hstory
  · exact h.others n hn hnumber hid

/-- If opening comes to its end the story is open. -/
theorem Opening.opened {k : Nat} {files : Files} (h : Opening σ id number k s)
    (begun : s.script number = (σ.untouched id).begun ({ σ with files }.configured id)) :
    Opened σ id number { s with openStories := s.openStories.put id number } :=
  ⟨h.new, ⟨files, begun⟩, h.others⟩

/-- Over a store that works, an opened story has its global scope open, with the variables registered that
every script has. -/
theorem Opened.registered (h : Opened σ id number s) (works : (σ.storeOf id).outage = .none) :
    (s.story number).global.isOpen = true ∧
      ∃ m : State, (s.story number).global.state = (m.applyRegistrations σ.names systemDirective).2 := by
  obtain ⟨files, hbegun⟩ := h.begun
  obtain ⟨-, hregistered⟩ := (kept_untouched works).begun (goodConfig_configured (σ := { σ with files }))
  rw [← hbegun] at hregistered
  exact hregistered

end Service

end StoryState
