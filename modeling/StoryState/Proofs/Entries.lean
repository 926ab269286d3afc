import StoryState.Entries
import Mathlib.Data.List.Nodup
import Mathlib.Tactic.Common
import Mathlib.Tactic.Lemma

/-!
Entries whose keys are distinct, and what putting and erasing does to the keys and the members. What
is put and erased twice is as if it had been put and erased once (`eraseAll_putAll_again`).
-/

namespace StoryState

/-- What holds of all items and of what stands for those that are not there. -/
theorem getD_of_forall {α : Type} {P : α → Prop} {l : List α} {d : α} (h : ∀ a ∈ l, P a) (hd : P d)
    (i : Nat) : P (l.getD i d) := by
  rw [List.getD_eq_getElem?_getD]
  cases hi : l[i]? with
  | none => exact hd
  | some a => exact h a (List.mem_of_getElem? hi)

namespace Entries

variable {α β : Type}

/-- Every key stands once. -/
def Once (es : Entries α) : Prop := (keys es).Nodup

@[simp] theorem once_nil : Once ([] : Entries α) := List.nodup_nil

@[simp] theorem keys_nil : keys ([] : Entries α) = [] := rfl

@[simp] theorem keys_cons (k : String) (v : α) (es : Entries α) :
    keys ((k, v) :: es) = k :: keys es := rfl

/-! ### Looking up -/

theorem get?_eq_none_iff {key : String} {es : Entries α} : get? key es = none ↔ key ∉ keys es := by
  induction es with
  | nil => simp
  | cons e es ih =>
    obtain ⟨k, v⟩ := e
    by_cases h : k = key
    · simp [get?, h]
    · simp [get?, h, ih, Ne.symm h]

theorem mem_of_get? {key : String} {v : α} {es : Entries α} (h : get? key es = some v) :
    (key, v) ∈ es := by
  induction es with
  | nil => simp at h
  | cons e es ih =>
    obtain ⟨k, w⟩ := e
    by_cases hk : k = key
    · have hw : w = v := by simpa [get?, hk] using h
      simp [hk, hw]
    · exact List.mem_cons_of_mem _ (ih (by simpa [get?, hk] using h))

/-- With distinct keys every entry is found. -/
theorem get?_of_mem {key : String} {v : α} {es : Entries α} (once : Once es) (h : (key, v) ∈ es) :
    get? key es = some v := by
  induction es with
  | nil => cases h
  | cons e es ih =>
    obtain ⟨k, w⟩ := e
    obtain ⟨fresh, once⟩ := List.nodup_cons.1 once
    rcases List.mem_cons.1 h with h | h
    · obtain ⟨rfl, rfl⟩ := Prod.mk.inj h
      exact if_pos rfl
    · have hk : k ≠ key := by
        rintro rfl
        exact fresh (List.mem_map.2 ⟨_, h, rfl⟩)
      rw [get?, if_neg hk]
      exact ih once h

theorem has_iff {key : String} {es : Entries α} : has key es = true ↔ key ∈ keys es := by
  unfold has
  rw [Option.isSome_iff_ne_none, ne_eq, get?_eq_none_iff, not_not]

/-! ### Putting -/

theorem mem_put {key k : String} {v w : α} {es : Entries α} (h : (k, w) ∈ put key v es) :
    (k = key ∧ w = v) ∨ (k, w) ∈ es := by
  induction es with
  | nil => simpa [put] using h
  | cons e es ih =>
    obtain ⟨k', v'⟩ := e
    by_cases hk : k' = key
    · rw [put, if_pos hk] at h
      rcases List.mem_cons.1 h with h | h
      · simp only [Prod.mk.injEq] at h
        exact .inl ⟨h.1.trans hk, h.2⟩
      · exact .inr (List.mem_cons_of_mem _ h)
    · rw [put, if_neg hk] at h
      rcases List.mem_cons.1 h with h | h
      · exact .inr (by simp [h])
      · exact (ih h).imp id (List.mem_cons_of_mem _)

/-- What holds of all entries and of a new one holds of all of them once that is put. -/
theorem forall_put {P : String → α → Prop} {es : Entries α} (hes : ∀ k w, (k, w) ∈ es → P k w)
    {key : String} {v : α} (hv : P key v) : ∀ k w, (k, w) ∈ put key v es → P k w := by
  intro k w hw
  rcases mem_put hw with ⟨rfl, rfl⟩ | hw
  · exact hv
  · exact hes k w hw

theorem keys_put (key : String) (v : α) (es : Entries α) :
    keys (put key v es) = if key ∈ keys es then keys es else keys es ++ [key] := by
  induction es with
  | nil => simp [put]
  | cons e es ih =>
    obtain ⟨k, w⟩ := e
    by_cases hk : k = key
    · simp [put, hk]
    · rw [put, if_neg hk, keys_cons, ih]
      by_cases h : key ∈ keys es <;> simp [h, Ne.symm hk]

/-- What is put in the place of a value that is found leaves the keys as they are. -/
theorem keys_put_of_get? {key : String} {v : α} {es : Entries α} (found : get? key es = some v)
    (w : α) : keys (put key w es) = keys es := by
  have hmem : key ∈ keys es := by
    by_contra hmem
    rw [get?_eq_none_iff.2 hmem] at found
    simp at found
  rw [keys_put, if_pos hmem]

theorem mem_keys_put {key k : String} {v : α} {es : Entries α} :
    k ∈ keys (put key v es) ↔ k = key ∨ k ∈ keys es := by
  rw [keys_put]
  by_cases h : key ∈ keys es
  · rw [if_pos h]
    exact ⟨.inr, fun h' => h'.elim (fun e => e ▸ h) id⟩
  · rw [if_neg h]
    simp [or_comm]

theorem Once.put {es : Entries α} (h : Once es) (key : String) (v : α) : Once (put key v es) := by
  unfold Once
  rw [keys_put]
  by_cases hk : key ∈ keys es
  · rw [if_pos hk]
    exact h
  · rw [if_neg hk]
    exact List.nodup_append.2 ⟨h, by simp, by rintro a ha b hb rfl; simp_all⟩

theorem put_append_of_not_mem {key : String} {es : Entries α} (h : key ∉ keys es) (v : α)
    (more : Entries α) : put key v (es ++ more) = es ++ put key v more := by
  induction es with
  | nil => rfl
  | cons e es ih =>
    obtain ⟨k, w⟩ := e
    rw [keys_cons, List.mem_cons, not_or] at h
    rw [List.cons_append, put, if_neg (Ne.symm h.1), ih h.2]
    rfl

/-- Of two values put under one key the later stays. -/
theorem put_put (key : String) (v w : α) (es : Entries α) :
    put key w (put key v es) = put key w es := by
  induction es with
  | nil => simp [put]
  | cons e es ih =>
    obtain ⟨k, u⟩ := e
    by_cases hk : k = key
    · simp [put, hk]
    · simp [put, hk, ih]

/-- Entries into which others with distinct keys are put give way to these if their keys are the first
of these, in the same order. -/
theorem putAll_of_prefix {es news : Entries α} (once : Once news) (h : keys es <+: keys news) :
    putAll es news = news := by
  -- in front stand the entries that have been put already
  suffices key : ∀ front : Entries α, Once (front ++ news) → putAll (front ++ es) news = front ++ news from
    key [] once
  clear once
  induction news generalizing es with
  | nil =>
    intro front _
    obtain rfl : es = [] := by simpa [keys] using h
    simp [putAll]
  | cons e news ih =>
    intro front once
    obtain ⟨k, v⟩ := e
    have hk : k ∉ keys front := by
      intro hm
      unfold Once keys at once
      rw [List.map_append, List.nodup_append] at once
      exact once.2.2 k hm k (by simp) rfl
    obtain ⟨es', hput, hes⟩ : ∃ es', put k v es = (k, v) :: es' ∧ keys es' <+: keys news := by
      cases es with
      | nil => exact ⟨[], rfl, List.nil_prefix⟩
      | cons e' es' =>
        obtain ⟨k', w⟩ := e'
        obtain ⟨rfl, hes⟩ := List.cons_prefix_cons.1 h
        exact ⟨es', if_pos rfl, hes⟩
    have hnext := ih hes (front ++ [(k, v)]) (by simpa using once)
    show putAll (put k v (front ++ es)) news = _
    rw [put_append_of_not_mem hk, hput]
    simpa using hnext

/-- Entries with distinct keys are those of their own list. -/
theorem ofList_of_once {es : Entries α} (h : Once es) : ofList es = es :=
  putAll_of_prefix h List.nil_prefix

/-! ### Erasing and mapping -/

theorem mem_erase {key k : String} {v : α} {es : Entries α} (h : (k, v) ∈ erase key es) :
    (k, v) ∈ es := List.mem_of_mem_filter h

theorem get?_erase_of_ne {key k : String} (h : key ≠ k) (es : Entries α) :
    get? k (erase key es) = get? k es := by
  induction es with
  | nil => rfl
  | cons e es ih =>
    obtain ⟨k', v⟩ := e
    unfold erase at ih ⊢
    by_cases hk : k' = key
    · rw [List.filter_cons_of_neg (by simpa using hk), ih, get?, if_neg (hk ▸ h)]
    · rw [List.filter_cons_of_pos (by simpa using hk), get?, get?, ih]

theorem get?_erase_self (key : String) (es : Entries α) : get? key (erase key es) = none := by
  refine get?_eq_none_iff.2 fun hmem => ?_
  obtain ⟨e, he, hkey⟩ := List.mem_map.1 hmem
  have hne := (List.mem_filter.1 he).2
  simp [hkey] at hne

/-- What is found when a key has been erased was there before. -/
theorem get?_of_erase {key k : String} {v : α} {es : Entries α} (h : get? k (erase key es) = some v) :
    get? k es = some v := by
  by_cases hk : key = k
  · rw [hk, get?_erase_self] at h
    cases h
  · rwa [get?_erase_of_ne hk] at h

theorem keys_erase (key : String) (es : Entries α) :
    keys (erase key es) = (keys es).filter (· ≠ key) := by
  unfold keys erase
  rw [List.filter_map]
  rfl

theorem erase_of_not_has {key : String} {es : Entries α} (h : has key es = false) :
    erase key es = es := by
  refine List.filter_eq_self.2 fun e he => ?_
  have hkey : key ∉ keys es := by simpa [← has_iff] using h
  have hne : e.1 ≠ key := by
    rintro rfl
    exact hkey (List.mem_map_of_mem he)
  simpa using hne

theorem Once.erase {es : Entries α} (h : Once es) (key : String) : Once (erase key es) := by
  unfold Once
  rw [keys_erase]
  exact h.filter _

theorem keys_mapValues (f : α → β) (es : Entries α) : keys (mapValues f es) = keys es := by
  unfold keys mapValues
  rw [List.map_map]
  rfl

theorem get?_mapValues (f : α → β) (key : String) (es : Entries α) :
    get? key (mapValues f es) = (get? key es).map f := by
  induction es with
  | nil => rfl
  | cons e es ih =>
    obtain ⟨k, v⟩ := e
    show get? key ((k, f v) :: mapValues f es) = _
    by_cases hk : k = key <;> simp [get?, hk, ih]

/-! ### Putting and erasing many -/

theorem put_eq_self {key : String} {v : α} {es : Entries α} (h : get? key es = some v) :
    put key v es = es := by
  induction es with
  | nil => simp at h
  | cons e es ih =>
    obtain ⟨k, w⟩ := e
    by_cases hk : k = key
    · have hw : w = v := by simpa [get?, hk] using h
      simp [put, hk, hw]
    · simp [put, hk, ih (by simpa [get?, hk] using h)]

/-- A key that is there keeps its place, so another one may be put before or after it. -/
theorem put_comm {key k : String} (hne : key ≠ k) {es : Entries α} (h : key ∈ keys es) (v w : α) :
    put key v (put k w es) = put k w (put key v es) := by
  induction es with
  | nil => simp at h
  | cons e es ih =>
    obtain ⟨k', u⟩ := e
    rw [keys_cons, List.mem_cons] at h
    by_cases hkey : k' = key
    · simp [put, hkey, hne]
    · have hmem : key ∈ keys es := h.resolve_left (Ne.symm hkey)
      by_cases hk : k' = k
      · simp [put, hk, Ne.symm hne]
      · simp [put, hkey, hk, ih hmem]

theorem putAll_cons (es : Entries α) (key : String) (v : α) (news : Entries α) :
    putAll es ((key, v) :: news) = putAll (put key v es) news := rfl

theorem putAll_append (es news news' : Entries α) :
    putAll es (news ++ news') = putAll (putAll es news) news' := List.foldl_append

theorem mem_putAll {key : String} {v : α} {es news : Entries α} (h : (key, v) ∈ putAll es news) :
    (key, v) ∈ es ∨ (key, v) ∈ news := by
  induction news generalizing es with
  | nil => exact .inl h
  | cons e news ih =>
    obtain ⟨k, w⟩ := e
    rcases ih h with h | h
    · rcases mem_put h with ⟨rfl, rfl⟩ | h
      · exact .inr (by simp)
      · exact .inl h
    · exact .inr (List.mem_cons_of_mem _ h)

theorem get?_putAll_of_not_mem {key : String} {news : Entries α} (h : key ∉ keys news)
    (es : Entries α) : get? key (putAll es news) = get? key es := by
  induction news generalizing es with
  | nil => rfl
  | cons e news ih =>
    obtain ⟨k, v⟩ := e
    rw [keys_cons, List.mem_cons, not_or] at h
    rw [putAll_cons, ih h.2, get?_put_of_ne (Ne.symm h.1)]

/-- What is put under a key that is there is overwritten when the key is put again. -/
theorem putAll_put {key : String} {es news : Entries α} (h : key ∈ keys es) (again : key ∈ keys news)
    (v : α) : putAll (put key v es) news = putAll es news := by
  induction news generalizing es with
  | nil => simp at again
  | cons e news ih =>
    obtain ⟨k, w⟩ := e
    rw [putAll_cons, putAll_cons]
    by_cases hk : k = key
    · rw [hk, put_put]
    · have hlater : key ∈ keys news := by
        rw [keys_cons, List.mem_cons] at again
        exact again.resolve_left (Ne.symm hk)
      rw [← put_comm (Ne.symm hk) h]
      exact ih (mem_keys_put.2 (.inr h)) hlater

theorem mem_keys_putAll {key : String} {es : Entries α} (h : key ∈ keys es) (news : Entries α) :
    key ∈ keys (putAll es news) := by
  induction news generalizing es with
  | nil => exact h
  | cons e news ih => exact ih (mem_keys_put.2 (.inr h))

/-- What is put goes behind the keys that are there. -/
theorem keys_prefix_putAll (es news : Entries α) : keys es <+: keys (putAll es news) := by
  induction news generalizing es with
  | nil => exact List.prefix_refl _
  | cons e news ih =>
    obtain ⟨key, v⟩ := e
    refine List.IsPrefix.trans ?_ (ih (put key v es))
    rw [keys_put]
    split
    · exact List.prefix_refl _
    · exact List.prefix_append _ _

/-- Putting the same entries again changes nothing. -/
theorem putAll_putAll (es news : Entries α) : putAll (putAll es news) news = putAll es news := by
  induction news generalizing es with
  | nil => rfl
  | cons e news ih =>
    obtain ⟨key, v⟩ := e
    rw [putAll_cons, putAll_cons]
    -- a key that comes again later is overwritten anyway; else it is still as it was put
    by_cases hkey : key ∈ keys news
    · have hmem : key ∈ keys (putAll (put key v es) news) :=
        mem_keys_putAll (mem_keys_put.2 (.inl rfl)) news
      rw [putAll_put hmem hkey, ih]
    · have hfound : get? key (putAll (put key v es) news) = some v := by
        rw [get?_putAll_of_not_mem hkey, get?_put_self]
      rw [put_eq_self hfound, ih]

/-- The entries without those under the given keys. -/
def eraseAll (names : List String) (es : Entries α) : Entries α := es.filter (·.1 ∉ names)

theorem eraseAll_nil (es : Entries α) : eraseAll [] es = es := by simp [eraseAll]

theorem eraseAll_singleton (key : String) (es : Entries α) : eraseAll [key] es = erase key es := by
  simp [eraseAll, erase]

theorem eraseAll_eraseAll (names names' : List String) (es : Entries α) :
    eraseAll names' (eraseAll names es) = eraseAll (names ++ names') es := by
  unfold eraseAll
  rw [List.filter_filter]
  refine List.filter_congr fun e _ => ?_
  simp [Bool.and_comm]

theorem eraseAll_put (names : List String) (key : String) (v : α) (es : Entries α) :
    eraseAll names (put key v es) =
      if key ∈ names then eraseAll names es else put key v (eraseAll names es) := by
  unfold eraseAll
  induction es with
  | nil => by_cases h : key ∈ names <;> simp [put, h]
  | cons e es ih =>
    obtain ⟨k, w⟩ := e
    by_cases hk : k = key
    · by_cases h : key ∈ names <;> simp [put, hk, h]
    · rw [put, if_neg hk, List.filter_cons, List.filter_cons, ih]
      by_cases h : key ∈ names <;> by_cases h' : k ∈ names <;> simp [put, hk, h, h']

/-- Erasing keys may come before putting entries, of which those under the keys are left out. -/
theorem eraseAll_putAll (names : List String) (es news : Entries α) :
    eraseAll names (putAll es news) = putAll (eraseAll names es) (eraseAll names news) := by
  induction news generalizing es with
  | nil => rfl
  | cons e news ih =>
    obtain ⟨key, v⟩ := e
    rw [putAll_cons, ih, eraseAll_put]
    by_cases h : key ∈ names <;> simp [eraseAll, putAll_cons, h]

/-- Entries into which some have been put, and from which keys have been erased then, stay as they are
when both is done again. -/
theorem eraseAll_putAll_again (names : List String) (es news : Entries α) :
    eraseAll names (putAll (eraseAll names (putAll es news)) news) =
      eraseAll names (putAll es news) := by
  have hself : ∀ es : Entries α, eraseAll names (eraseAll names es) = eraseAll names es := by
    intro es
    simp [eraseAll, List.filter_filter]
  calc eraseAll names (putAll (eraseAll names (putAll es news)) news)
      = putAll (eraseAll names (putAll es news)) (eraseAll names news) := by
        rw [eraseAll_putAll, hself]
    _ = putAll (putAll (eraseAll names es) (eraseAll names news)) (eraseAll names news) := by
        rw [eraseAll_putAll]
    _ = putAll (eraseAll names es) (eraseAll names news) := putAll_putAll ..
    _ = eraseAll names (putAll es news) := (eraseAll_putAll ..).symm

end Entries

end StoryState
