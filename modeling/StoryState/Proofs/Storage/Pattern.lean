import StoryState.Storage.Pattern
import Mathlib.Data.List.TakeWhile
import Mathlib.Tactic.Common

/-!
What patterns match. A pattern that ends with a percent sign matches every text that it begins, wildcards in
it or not (`like_append`); without other wildcards it matches no more, up to the case of letters
(`matchesAll_plain`).
-/

namespace StoryState.Storage

variable {p s t : List Char} {q c : Char}

theorem matchesAll_nil : matchesAll [] s = s.isEmpty := by rw [matchesAll]

theorem matchesAll_percent_nil : matchesAll ('%' :: p) [] = matchesAll p [] := by rw [matchesAll]

theorem matchesAll_percent_cons :
    matchesAll ('%' :: p) (c :: s) = (matchesAll p (c :: s) || matchesAll ('%' :: p) s) := by
  rw [matchesAll]

theorem matchesAll_cons_nil (h : q ≠ '%') : matchesAll (q :: p) [] = false := by
  rw [matchesAll]
  exact fun hq => absurd hq h

theorem matchesAll_cons_cons (h : q ≠ '%') :
    matchesAll (q :: p) (c :: s) = ((q = '_' || alike q c) && matchesAll p s) := by
  rw [matchesAll]
  exact fun hq => absurd hq h

@[simp] theorem alike_self (c : Char) : alike c c = true := by simp [alike]

/-- A percent sign may stand for nothing. -/
theorem matchesAll_percent (h : matchesAll p s = true) : matchesAll ('%' :: p) s = true := by
  cases s with
  | nil => rwa [matchesAll_percent_nil]
  | cons c s => rw [matchesAll_percent_cons, h, Bool.true_or]

theorem matchesAll_percent_any (s : List Char) : matchesAll ['%'] s = true := by
  induction s with
  | nil => rw [matchesAll_percent_nil, matchesAll_nil]; rfl
  | cons c s ih => rw [matchesAll_percent_cons, ih, Bool.or_true]

/-- A text matches itself in front of what is matched. -/
theorem matchesAll_append (h : matchesAll p t = true) (s : List Char) :
    matchesAll (s ++ p) (s ++ t) = true := by
  induction s with
  | nil => exact h
  | cons c s ih =>
    rw [List.cons_append, List.cons_append]
    by_cases hc : c = '%'
    · rw [hc, matchesAll_percent_cons, matchesAll_percent ih, Bool.or_true]
    · rw [matchesAll_cons_cons hc, ih, alike_self]
      simp

/-- Whatever stands in a text, it begins with what it begins with. -/
theorem like_append (lead rest : String) : like (lead ++ "%") (lead ++ rest) = true := by
  unfold like visible
  rw [String.toList_append, String.toList_append, List.takeWhile_append, List.takeWhile_append]
  split
  · exact matchesAll_append (matchesAll_percent_any _) _
  · have hself := matchesAll_append (p := []) (t := []) (by rw [matchesAll_nil]; rfl)
      (lead.toList.takeWhile (· ≠ '\x00'))
    rwa [List.append_nil] at hself

/-- Without other wildcards a text is matched that begins alike. -/
theorem matchesAll_plain (h : ∀ c ∈ p, c ≠ '%' ∧ c ≠ '_') :
    matchesAll (p ++ ['%']) s = true ↔ p.map Char.toLower <+: s.map Char.toLower := by
  induction p generalizing s with
  | nil => simp [matchesAll_percent_any]
  | cons q p ih =>
    obtain ⟨hq, hp⟩ := List.forall_mem_cons.1 h
    rw [List.cons_append]
    cases s with
    | nil => simp [matchesAll_cons_nil hq.1]
    | cons c s =>
      rw [matchesAll_cons_cons hq.1, List.map_cons, List.map_cons, List.cons_prefix_cons, ← ih hp]
      simp [hq.2, alike]

theorem toLower_eq_colon (h : c.toLower = ':') : c = ':' := by
  unfold Char.toLower at h
  split at h
  · -- a letter would be beyond the colon
    rename_i hupper
    have hval : (c.val + ('a'.val - 'A'.val)).toNat = ':'.toNat := congrArg Char.toNat h
    have hlow := UInt32.le_iff_toNat_le.1 hupper.1
    have hhigh := UInt32.le_iff_toNat_le.1 hupper.2
    simp [UInt32.toNat_add] at hval hlow hhigh
    omega
  · exact h

/-- What ends with a separator begins only what goes on behind the same separator. -/
theorem prefix_separator_iff {α : Type} {x : α} {s t u : List α} (hs : x ∉ s) (ht : x ∉ t) :
    s ++ [x] <+: t ++ x :: u ↔ s = t := by
  induction s generalizing t with
  | nil =>
    cases t with
    | nil => simp
    | cons c t =>
      have hne : x ≠ c := fun h => ht (h ▸ List.mem_cons_self)
      simp [List.cons_prefix_cons, hne]
  | cons b s ih =>
    cases t with
    | nil =>
      have hne : b ≠ x := fun h => hs (h ▸ List.mem_cons_self)
      simp [List.cons_prefix_cons, hne]
    | cons c t =>
      rw [List.cons_append, List.cons_append, List.cons_prefix_cons, List.cons.injEq,
        ih (fun h => hs (List.mem_cons_of_mem b h)) fun h => ht (List.mem_cons_of_mem c h)]

end StoryState.Storage
