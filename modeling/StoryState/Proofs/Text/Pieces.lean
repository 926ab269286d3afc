import StoryState.Text.Basic
import Mathlib.Tactic.Common

/-!
Cutting a text at a separator, and putting the pieces together again. Replacing a needle everywhere in a text:
at the head of the text, behind a part in which the needle cannot begin, and in front of what the replacement
has no part in (`prefix_of_prefix_replaceAll`).
-/

namespace StoryState.Text

/-! ### Separators -/

section Separators

variable {sep : Char} {s t : List Char}

theorem splitOn_ne_nil (sep : Char) (s : List Char) : splitOn sep s ≠ [] := by
  cases s with
  | nil => simp [splitOn]
  | cons c s =>
    unfold splitOn
    split
    · simp
    · split <;> simp

theorem splitOn_cons_of_ne {c : Char} {piece : List Char} {pieces : List (List Char)} (h : c ≠ sep)
    (hs : splitOn sep s = piece :: pieces) : splitOn sep (c :: s) = (c :: piece) :: pieces := by
  rw [splitOn, if_neg h, hs]

theorem splitOn_of_not_mem (h : sep ∉ s) : splitOn sep s = [s] := by
  induction s with
  | nil => rfl
  | cons c s ih =>
    have hc : c ≠ sep := fun hc => h (hc ▸ List.mem_cons_self)
    exact splitOn_cons_of_ne hc (ih fun hs => h (List.mem_cons_of_mem _ hs))

theorem splitOn_append : splitOn sep (s ++ sep :: t) = splitOn sep s ++ splitOn sep t := by
  induction s with
  | nil => simp [splitOn]
  | cons c s ih =>
    by_cases hc : c = sep
    · simp [splitOn, hc, ih]
    · obtain ⟨piece, pieces, hpieces⟩ := List.exists_cons_of_ne_nil (splitOn_ne_nil sep s)
      rw [hpieces] at ih
      rw [splitOn_cons_of_ne hc hpieces]
      exact splitOn_cons_of_ne hc ih

theorem joinWith_cons {piece : List Char} {pieces : List (List Char)} (h : pieces ≠ []) :
    joinWith [sep] (piece :: pieces) = piece ++ sep :: joinWith [sep] pieces := by
  cases pieces with
  | nil => exact absurd rfl h
  | cons _ _ => simp [joinWith]

theorem joinWith_splitOn : joinWith [sep] (splitOn sep s) = s := by
  induction s with
  | nil => rfl
  | cons c s ih =>
    obtain ⟨piece, pieces, hpieces⟩ := List.exists_cons_of_ne_nil (splitOn_ne_nil sep s)
    by_cases hc : c = sep
    · rw [splitOn, if_pos hc, joinWith_cons (splitOn_ne_nil _ _), ih, hc]
      rfl
    · rw [splitOn_cons_of_ne hc hpieces]
      rw [hpieces] at ih
      cases pieces with
      | nil => exact congrArg (c :: ·) ih
      | cons q qs =>
        rw [joinWith_cons (by simp)] at ih ⊢
        exact congrArg (c :: ·) ih

end Separators

/-! ### Replacing -/

section Replacing

variable {old new w s : List Char} {n c : Char}

theorem isSome_dropLead? : (dropLead? old s).isSome = true ↔ old <+: s := by
  rw [Option.isSome_iff_exists]
  exact exists_congr fun r => dropLead?_eq_some_iff.trans eq_comm

theorem dropLead?_eq_none_iff : dropLead? old s = none ↔ ¬ old <+: s := by
  rw [← isSome_dropLead?, Option.not_isSome_iff_eq_none]

theorem replaceFrom_append (w s : List Char) :
    replaceFrom old new w.length (w ++ s) = replaceAll old new s := by
  induction w with
  | nil => rfl
  | cons c w ih => exact ih

/-- A needle at the head of a text. -/
theorem replaceAll_lead (h : old ≠ []) (s : List Char) :
    replaceAll old new (old ++ s) = new ++ replaceAll old new s := by
  cases old with
  | nil => exact absurd rfl h
  | cons n old =>
    have hlead : (dropLead? (n :: old) (n :: (old ++ s))).isSome = true :=
      isSome_dropLead?.2 (List.prefix_append (n :: old) s)
    rw [List.cons_append, replaceAll, replaceFrom, if_pos hlead, List.length_cons, Nat.add_sub_cancel,
      replaceFrom_append]

/-- A text that a needle does not begin. -/
theorem replaceAll_of_not_lead (h : ¬ old <+: c :: s) :
    replaceAll old new (c :: s) = c :: replaceAll old new s := by
  rw [replaceAll, replaceFrom, if_neg (mt isSome_dropLead?.1 h)]
  rfl

theorem replaceAll_cons (h : c ≠ n) (old new s : List Char) :
    replaceAll (n :: old) new (c :: s) = c :: replaceAll (n :: old) new s :=
  replaceAll_of_not_lead fun hlead => h (List.cons_prefix_cons.1 hlead).1.symm

/-- A part of the text in which the needle cannot begin. -/
theorem replaceAll_append (h : n ∉ w) (old new s : List Char) :
    replaceAll (n :: old) new (w ++ s) = w ++ replaceAll (n :: old) new s := by
  induction w with
  | nil => rfl
  | cons c w ih =>
    have hc : c ≠ n := fun hc => h (hc ▸ List.mem_cons_self)
    rw [List.cons_append, replaceAll_cons hc, ih fun hw => h (List.mem_cons_of_mem c hw), List.cons_append]

/-- What stands at the head once a character has replaced a needle, and does not hold this character, has
stood there before. -/
theorem prefix_of_prefix_replaceAll (hc : c ∉ w) (h : w <+: replaceAll old [c] s) : w <+: s := by
  induction w generalizing s with
  | nil => exact List.nil_prefix
  | cons a w ih =>
    cases s with
    | nil => exact h
    | cons d s =>
      have ha : a ≠ c := fun ha => hc (ha ▸ List.mem_cons_self)
      by_cases hold : old <+: d :: s
      · rw [replaceAll, replaceFrom, if_pos (isSome_dropLead?.2 hold)] at h
        exact absurd (List.cons_prefix_cons.1 h).1 ha
      · rw [replaceAll_of_not_lead hold] at h
        obtain ⟨rfl, hw⟩ := List.cons_prefix_cons.1 h
        exact List.cons_prefix_cons.2 ⟨rfl, ih (fun hmem => hc (List.mem_cons_of_mem a hmem)) hw⟩

end Replacing

end StoryState.Text
