import Mathlib.Data.List.TakeWhile
import StoryState.History.Feed
import StoryState.Proofs.Text.Segments

/-!
Placeholders as the scanner finds them.

* The scanner reads a placeholder from just its text, if its parts are plain (`scan_eq_some_iff`).
* A match has three colons, all of them before its closing bracket, and begins with the only bracket
  that opens in its head; so a match that begins before the text of a placeholder does not reach into
  that text (`disjoint`), and a text is cut around a placeholder as if it stood alone
  (`segments_around`).
-/

namespace StoryState.Placeholder

open StoryState.Text

variable {p q : Placeholder} {s rest : List Char} {t : String}

/-- A text that can be a part of a placeholder. -/
structure IsPart (t : String) : Prop where
  ne_nil : t.toList ≠ []
  plain : ∀ c ∈ t.toList, c ≠ ':' ∧ c ≠ ']'

/-- A placeholder whose text is read as that placeholder. -/
structure Plain (p : Placeholder) : Prop where
  feed : IsPart p.feed
  id : IsPart p.id
  ne_nil : p.count.toList ≠ []
  digits : ∀ c ∈ p.count.toList, isDigit c = true

theorem isPart_name (feed : Feed) : IsPart feed.name := by
  cases feed with
  | script => exact ⟨by simp [Feed.name], by simp [Feed.name]⟩
  | chat => exact ⟨by simp [Feed.name], by simp [Feed.name]⟩

theorem isDigit_colon : isDigit ':' = false := rfl

theorem isDigit_bracket : isDigit ']' = false := rfl

/-! ### Reading a placeholder -/

theorem part?_eq_some_iff : part? s = some (t, rest) ↔ IsPart t ∧ s = t.toList ++ ':' :: rest := by
  constructor
  · intro h
    unfold part? at h
    dsimp only at h
    split at h
    · rename_i hpart hrest
      cases h
      have hsplit := List.prefix_iff_eq_append.1
        (List.takeWhile_prefix (fun c => decide (c ≠ ':') && decide (c ≠ ']')) (l := s))
      rw [hrest] at hsplit
      refine ⟨⟨?_, fun c hc => ?_⟩, ?_⟩
      · rw [String.toList_ofList, hpart]
        exact List.cons_ne_nil _ _
      · rw [String.toList_ofList] at hc
        simpa using List.mem_takeWhile_imp hc
      · rw [String.toList_ofList, hsplit]
    · cases h
  · rintro ⟨⟨hne, hplain⟩, rfl⟩
    obtain ⟨c, part, hpart⟩ := List.exists_cons_of_ne_nil hne
    have htake : (t.toList ++ ':' :: rest).takeWhile (fun c => c ≠ ':' && c ≠ ']') = t.toList := by
      rw [List.takeWhile_append_of_pos fun c hc => by simpa using hplain c hc]
      simp
    unfold part?
    simp only [htake, List.drop_left, String.ofList_toList]
    rw [hpart]
    rfl

theorem toList_text : p.text.toList = "[DYNAMIC:".toList ++
    (p.feed.toList ++ ':' :: (p.id.toList ++ ':' :: (p.count.toList ++ [']']))) := by
  simp [text, String.toList_append, List.append_assoc]

/-- The scanner reads a placeholder just where its text stands. -/
theorem scan_eq_some_iff : scan s = some (p, rest) ↔ p.Plain ∧ s = p.text.toList ++ rest := by
  constructor
  · intro h
    unfold scan at h
    simp only [Option.bind_eq_bind, Option.bind_eq_some_iff, Prod.exists] at h
    obtain ⟨s₁, hlead, feed, s₂, hfeed, id, s₃, hid, h⟩ := h
    rw [dropLead?_eq_some_iff] at hlead
    rw [part?_eq_some_iff] at hfeed hid
    obtain ⟨hfeed, rfl⟩ := hfeed
    obtain ⟨hid, rfl⟩ := hid
    split at h
    · rename_i hdigits hrest
      cases h
      have hsplit := List.prefix_iff_eq_append.1 (List.takeWhile_prefix isDigit (l := s₃))
      rw [hrest] at hsplit
      refine ⟨⟨hfeed, hid, ?_, fun c hc => ?_⟩, ?_⟩
      · rw [String.toList_ofList, hdigits]
        exact List.cons_ne_nil _ _
      · rw [String.toList_ofList] at hc
        exact List.mem_takeWhile_imp hc
      · rw [hlead, toList_text]
        simp only [String.toList_ofList, List.append_assoc, List.cons_append, List.nil_append, hsplit]
    · cases h
  · rintro ⟨⟨hfeed, hid, hne, hdigits⟩, rfl⟩
    obtain ⟨d, ds, hcount⟩ := List.exists_cons_of_ne_nil hne
    have htake : (p.count.toList ++ ']' :: rest).takeWhile isDigit = p.count.toList := by
      rw [List.takeWhile_append_of_pos hdigits, List.takeWhile_cons_of_neg (by simp [isDigit_bracket])]
      exact List.append_nil _
    have hlead : dropLead? "[DYNAMIC:".toList (p.text.toList ++ rest) =
        some (p.feed.toList ++ ':' :: (p.id.toList ++ ':' :: (p.count.toList ++ ']' :: rest))) := by
      rw [dropLead?_eq_some_iff, toList_text]
      simp [List.append_assoc]
    unfold scan
    rw [hlead, Option.bind_eq_bind, Option.bind_some, part?_eq_some_iff.2 ⟨hfeed, rfl⟩]
    simp only [Option.bind_eq_bind, Option.bind_some, part?_eq_some_iff.2 ⟨hid, rfl⟩]
    rw [htake, List.drop_left, String.ofList_toList, hcount]
    rfl

theorem Plain.finds (h : p.Plain) : Finds scan p.text.toList p where
  ne_nil := by
    rw [toList_text]
    exact List.cons_ne_nil _ _
  reads rest := scan_eq_some_iff.2 ⟨h, rfl⟩

/-- A match is the text of a plain placeholder. -/
theorem of_hit_mem {raw : List Char} (h : .hit raw p ∈ segments scan s) :
    p.Plain ∧ raw = p.text.toList := by
  obtain ⟨t, rest, -, hscan, rfl⟩ := exists_of_hit_mem h
  obtain ⟨hplain, rfl⟩ := scan_eq_some_iff.1 hscan
  refine ⟨hplain, ?_⟩
  rw [List.length_append, Nat.add_sub_cancel, List.take_left]

/-! ### A placeholder among other text -/

theorem IsPart.count_colon (h : IsPart t) : t.toList.count ':' = 0 :=
  List.count_eq_zero.2 fun hc => (h.plain _ hc).1 rfl

/-- The text of a placeholder before its closing bracket. -/
def body (p : Placeholder) : List Char :=
  "[DYNAMIC:".toList ++ (p.feed.toList ++ ':' :: (p.id.toList ++ ':' :: p.count.toList))

theorem body_eq (p : Placeholder) : p.body =
    "[DYNAMIC:".toList ++ (p.feed.toList ++ ':' :: (p.id.toList ++ ':' :: p.count.toList)) := rfl

theorem toList_text_eq_body : p.text.toList = p.body ++ [']'] := by
  rw [toList_text, body_eq]
  simp only [List.append_assoc, List.cons_append]

theorem Plain.not_mem_count (h : p.Plain) {c : Char} (hc : isDigit c = false) :
    c ∉ p.count.toList := by
  intro hmem
  rw [h.digits c hmem] at hc
  cases hc

theorem Plain.count_colon_body (h : p.Plain) : p.body.count ':' = 3 := by
  have hlead : "[DYNAMIC:".toList.count ':' = 1 := by decide
  have hcount : p.count.toList.count ':' = 0 := List.count_eq_zero.2 (h.not_mem_count isDigit_colon)
  simp only [body_eq, List.count_append, List.count_cons_self, hlead, hcount, h.feed.count_colon,
    h.id.count_colon]

theorem Plain.not_mem_body (h : p.Plain) : ']' ∉ p.body := by
  have hlead : ']' ∉ "[DYNAMIC:".toList := by decide
  have hfeed : ']' ∉ p.feed.toList := fun hc => (h.feed.plain _ hc).2 rfl
  have hid : ']' ∉ p.id.toList := fun hc => (h.id.plain _ hc).2 rfl
  simp only [body_eq, List.mem_append, List.mem_cons, not_or]
  exact ⟨hlead, hfeed, by decide, hid, by decide, h.not_mem_count isDigit_bracket⟩

/-- Of two texts with the same text up to a mark that both have, both have the same before it. -/
theorem eq_of_append_cons {c : Char} {s₁ s₂ t₁ t₂ : List Char} (h₁ : c ∉ s₁) (h₂ : c ∉ s₂)
    (h : s₁ ++ c :: t₁ = s₂ ++ c :: t₂) : s₁ = s₂ := by
  have htake : ∀ {s t : List Char}, c ∉ s → (s ++ c :: t).takeWhile (· ≠ c) = s := by
    intro s t hs
    rw [List.takeWhile_append_of_pos fun d hd => by
      simpa using fun hdc : d = c => hs (hdc ▸ hd)]
    simp
  rw [← htake h₁, h, htake h₂]

/-- The text of a placeholder does not end in that of another one, up to the closing brackets. -/
theorem eq_nil_of_body (hp : p.Plain) (hq : q.Plain) {before : List Char}
    (h : q.body = before ++ p.body) : before = [] := by
  have hcount := congrArg (List.count ':') h
  rw [List.count_append, hp.count_colon_body, hq.count_colon_body] at hcount
  have hcolon : ':' ∉ before := List.count_eq_zero.1 (by omega)
  -- so the first colon of both stands behind the same head
  have hparts : "[DYNAMIC".toList ++ ':' :: (q.feed.toList ++ ':' :: (q.id.toList ++ ':' ::
      q.count.toList)) = (before ++ "[DYNAMIC".toList) ++ ':' :: (p.feed.toList ++ ':' ::
      (p.id.toList ++ ':' :: p.count.toList)) := by
    rw [List.append_assoc]
    exact h
  have hhead : "[DYNAMIC".toList = before ++ "[DYNAMIC".toList := by
    refine eq_of_append_cons (by decide) ?_ hparts
    rw [List.mem_append, not_or]
    exact ⟨hcolon, by decide⟩
  exact List.append_left_eq_self.1 hhead.symm

/-- A match that begins before a placeholder ends before it. -/
theorem disjoint (hp : p.Plain) (hq : q.Plain) {before after : List Char} (hbefore : before ≠ [])
    (h : before ++ (p.text.toList ++ after) = q.text.toList ++ rest) :
    ∃ between, before = q.text.toList ++ between ∧ rest = between ++ (p.text.toList ++ after) := by
  rcases List.append_eq_append_iff.1 h with ⟨inside, htext, hinside⟩ | hbetween
  · rcases List.eq_nil_or_concat inside with rfl | ⟨init, last, rfl⟩
    · exact ⟨[], by simpa using htext.symm, by simpa using hinside.symm⟩
    · -- a match that reached into the placeholder would end where that ends
      exfalso
      rw [toList_text_eq_body, List.concat_eq_append, ← List.append_assoc] at htext
      obtain ⟨hbody, hlast⟩ := List.append_inj' htext rfl
      obtain rfl : ']' = last := List.singleton_inj.1 hlast
      have hinit : ']' ∉ init := fun hc => hq.not_mem_body (hbody ▸ List.mem_append_right _ hc)
      rw [toList_text_eq_body, List.concat_eq_append, List.append_assoc, List.append_assoc] at hinside
      obtain rfl := eq_of_append_cons hp.not_mem_body hinit hinside
      exact hbefore (eq_nil_of_body hp hq hbody)
  · exact hbetween

/-- A text with a placeholder in it is cut into what the text before it is cut into, the placeholder,
and what the text behind it is cut into. -/
theorem segments_around (h : p.Plain) (before after : String) :
    segments scan (before ++ p.text ++ after).toList =
      segments scan before.toList ++ .hit p.text.toList p :: segments scan after.toList := by
  rw [String.toList_append, String.toList_append, List.append_assoc, segments_append,
    segments_found h.finds]
  rintro u v - hv
  refine Option.ext fun ⟨q, rest⟩ => ?_
  rw [Option.map_eq_some_iff]
  constructor
  · intro hscan
    obtain ⟨hq, htext⟩ := scan_eq_some_iff.1 hscan
    obtain ⟨between, rfl, rfl⟩ := disjoint h hq hv htext
    exact ⟨(q, between), scan_eq_some_iff.2 ⟨hq, rfl⟩, rfl⟩
  · rintro ⟨⟨q', r⟩, hscan, heq⟩
    cases heq
    obtain ⟨hq, rfl⟩ := scan_eq_some_iff.1 hscan
    exact scan_eq_some_iff.2 ⟨hq, by rw [List.append_assoc]⟩

end StoryState.Placeholder
