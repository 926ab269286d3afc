import StoryState.Proofs.Text.Pieces
import StoryState.Proofs.Text.Segments
import StoryState.Text.Entity
import Mathlib.Data.List.Infix

/-!
Codes that a mark begins, replaced by the characters that they stand for. Replacing one code after another
everywhere is one pass over the text in which nothing is looked at twice (`Text.foldl_replaceAll`), if the
codes can be told apart and none of them holds a character that an earlier one stands for (`Text.Telling`);
such a pass undoes escaping (`Text.decodeOnce_escape`). The entities are such codes, with the ampersand at
the end (`Text.decodeEntities_onePass`).
-/

namespace StoryState.Text

/-! ### One pass -/

/-- The character that a code at the head of a text stands for. -/
def code? (codes : List (List Char × Char)) : Scanner Char := fun s =>
  codes.findSome? fun (code, c) => (dropLead? code s).map fun rest => (c, rest)

/-- The text with its codes replaced from left to right; what replaces a code is not looked at again. -/
def decodeOnce (codes : List (List Char × Char)) (s : List Char) : List Char :=
  substitute (code? codes) (fun _ c => [c]) s

/-- A character as it is escaped: by its code, if it has one. -/
def escapeChar (codes : List (List Char × Char)) (c : Char) : List Char :=
  match codes.find? (·.2 = c) with
  | some (code, _) => code
  | none => [c]

/-- The text with every character escaped that has a code. -/
def escape (codes : List (List Char × Char)) (s : List Char) : List Char := s.flatMap (escapeChar codes)

/-- A mark begins every code and is nowhere else in it, no code begins another one, and no code holds a
character that one before it stands for. -/
structure Telling (mark : Char) (codes : List (List Char × Char)) : Prop where
  begins : ∀ e ∈ codes, e.1.head? = some mark ∧ mark ∉ e.1.tail
  apart : codes.Pairwise fun e e' => ¬ e.1 <+: e'.1 ∧ ¬ e'.1 <+: e.1
  later : codes.Pairwise fun e e' => e.2 ∉ e'.1

section Codes

variable {mark c : Char} {code s : List Char} {e : List Char × Char} {codes : List (List Char × Char)}

theorem Telling.tail (h : Telling mark (e :: codes)) : Telling mark codes where
  begins e' he' := h.begins e' (List.mem_cons_of_mem e he')
  apart := h.apart.of_cons
  later := h.later.of_cons

theorem Telling.exists_eq (h : Telling mark codes) (he : e ∈ codes) : ∃ w, e.1 = mark :: w ∧ mark ∉ w := by
  obtain ⟨hhead, htail⟩ := h.begins e he
  obtain ⟨w, hw⟩ := List.head?_eq_some_iff.1 hhead
  rw [hw] at htail
  exact ⟨w, hw, htail⟩

theorem code?_eq_none (h : ∀ e ∈ codes, ¬ e.1 <+: s) : code? codes s = none := by
  refine List.findSome?_eq_none_iff.2 fun (code, c) he => ?_
  have hcode : dropLead? code s = none := dropLead?_eq_none_iff.2 (h (code, c) he)
  dsimp only
  rw [hcode]
  rfl

/-- A code is read as what it stands for, whatever follows. -/
theorem Telling.finds (h : Telling mark codes) (he : (code, c) ∈ codes) : Finds (code? codes) code c := by
  have hne : code ≠ [] := by
    obtain ⟨w, rfl, -⟩ : ∃ w, code = mark :: w ∧ mark ∉ w := h.exists_eq he
    exact List.cons_ne_nil mark w
  refine ⟨hne, fun rest => ?_⟩
  induction codes with
  | nil => cases he
  | cons e codes ih =>
    rw [code?, List.findSome?_cons]
    rcases List.mem_cons.1 he with rfl | he
    · dsimp only
      rw [dropLead?_eq_some_iff.2 rfl]
      rfl
    · obtain ⟨hbehind, hbefore⟩ := List.rel_of_pairwise_cons h.apart he
      -- of two codes at the head of one text the shorter would begin the other
      have hother : ¬ e.1 <+: code ++ rest := fun hlead =>
        (List.prefix_or_prefix_of_prefix hlead (List.prefix_append code rest)).elim hbehind hbefore
      dsimp only
      rw [dropLead?_eq_none_iff.2 hother]
      exact ih h.tail he

theorem Telling.decodeOnce_code (h : Telling mark codes) (he : (code, c) ∈ codes) (s : List Char) :
    decodeOnce codes (code ++ s) = c :: decodeOnce codes s := substitute_found (h.finds he) s

theorem decodeOnce_cons (h : ∀ e ∈ codes, ¬ e.1 <+: c :: s) :
    decodeOnce codes (c :: s) = c :: decodeOnce codes s := by
  rw [decodeOnce, substitute, segments_cons (code?_eq_none h)]
  rfl

/-- No code begins with another character than the mark. -/
theorem Telling.decodeOnce_plain (h : Telling mark codes) (hc : c ≠ mark) (s : List Char) :
    decodeOnce codes (c :: s) = c :: decodeOnce codes s := by
  refine decodeOnce_cons fun e he hlead => ?_
  obtain ⟨w, hw, -⟩ := h.exists_eq he
  rw [hw] at hlead
  exact hc (List.cons_prefix_cons.1 hlead).1.symm

/-! ### One code after another -/

/-- A pass for some codes behind the replacing of one more is a pass for all of them. -/
theorem Telling.decodeOnce_replaceAll (h : Telling mark ((code, c) :: codes)) (s : List Char) :
    decodeOnce codes (replaceAll code [c] s) = decodeOnce ((code, c) :: codes) s := by
  obtain ⟨v, rfl, hv⟩ : ∃ v, code = mark :: v ∧ mark ∉ v := h.exists_eq List.mem_cons_self
  have hfresh : ∀ e ∈ codes, c ∉ e.1 := fun e he => List.rel_of_pairwise_cons h.later he
  -- by the length of the text, as a code is passed over as a whole
  induction hn : s.length using Nat.strong_induction_on generalizing s with
  | _ n ih =>
    subst hn
    cases s with
    | nil => rfl
    | cons a t =>
      by_cases hcode : mark :: v <+: a :: t
      · obtain ⟨r, hr⟩ := hcode
        have hlen : r.length < (a :: t).length := by
          rw [← hr, List.length_append, List.length_cons]
          omega
        have hnone : ∀ e ∈ codes, ¬ e.1 <+: c :: replaceAll (mark :: v) [c] r := by
          intro e he hlead
          obtain ⟨w, hw, -⟩ := h.tail.exists_eq he
          rw [hw] at hlead
          refine hfresh e he ?_
          rw [hw, (List.cons_prefix_cons.1 hlead).1]
          exact List.mem_cons_self
        rw [← hr, replaceAll_lead (List.cons_ne_nil mark v), h.decodeOnce_code List.mem_cons_self,
          List.singleton_append, decodeOnce_cons hnone, ih r.length hlen r rfl]
      by_cases hother : ∃ e ∈ codes, e.1 <+: a :: t
      · obtain ⟨⟨code, d⟩, he, r, hr⟩ := hother
        obtain ⟨w, rfl, hw⟩ : ∃ w, code = mark :: w ∧ mark ∉ w := h.tail.exists_eq he
        change mark :: w ++ r = a :: t at hr
        have hlen : r.length < (a :: t).length := by
          rw [← hr, List.length_append, List.length_cons]
          omega
        rw [← hr] at hcode ⊢
        have hthrough : replaceAll (mark :: v) [c] (mark :: w ++ r) =
            mark :: w ++ replaceAll (mark :: v) [c] r := by
          rw [List.cons_append] at hcode ⊢
          rw [replaceAll_of_not_lead hcode, replaceAll_append hw, List.cons_append]
        rw [hthrough, h.tail.decodeOnce_code he, h.decodeOnce_code (List.mem_cons_of_mem _ he),
          ih r.length hlen r rfl]
      · rw [not_exists] at hother
        have hbefore : ∀ e ∈ (mark :: v, c) :: codes, ¬ e.1 <+: a :: t := by
          intro e he
          rcases List.mem_cons.1 he with rfl | he
          · exact hcode
          · exact fun hlead => hother e ⟨he, hlead⟩
        have hbehind : ∀ e ∈ codes, ¬ e.1 <+: a :: replaceAll (mark :: v) [c] t := by
          intro e he hlead
          rw [← replaceAll_of_not_lead hcode] at hlead
          exact hother e ⟨he, prefix_of_prefix_replaceAll (hfresh e he) hlead⟩
        rw [replaceAll_of_not_lead hcode, decodeOnce_cons hbehind, decodeOnce_cons hbefore,
          ih t.length (Nat.lt_succ_self _) t rfl]

theorem decodeOnce_nil (s : List Char) : decodeOnce [] s = s := by
  induction s with
  | nil => rfl
  | cons c s ih => rw [decodeOnce_cons fun e he => absurd he List.not_mem_nil, ih]

/-- Replacing one code after another is one pass. -/
theorem foldl_replaceAll (h : Telling mark codes) (s : List Char) :
    codes.foldl (fun s (code, c) => replaceAll code [c] s) s = decodeOnce codes s := by
  induction codes generalizing s with
  | nil => exact (decodeOnce_nil s).symm
  | cons e codes ih =>
    rw [List.foldl_cons, ih h.tail]
    exact h.decodeOnce_replaceAll s

/-! ### Escaping -/

/-- Escaping is undone, if the mark has a code too. -/
theorem decodeOnce_escape (h : Telling mark codes) (coded : ∃ e ∈ codes, e.2 = mark) (s : List Char) :
    decodeOnce codes (escape codes s) = s := by
  induction s with
  | nil => rfl
  | cons c s ih =>
    show decodeOnce codes (escapeChar codes c ++ escape codes s) = c :: s
    unfold escapeChar
    split
    · rename_i code d hfind
      obtain rfl : d = c := by simpa using List.find?_some hfind
      rw [h.decodeOnce_code (List.mem_of_find?_eq_some hfind), ih]
    · rename_i hfind
      have hmark : c ≠ mark := by
        rintro rfl
        obtain ⟨e, he, hc⟩ := coded
        exact List.find?_eq_none.1 hfind e he (decide_eq_true hc)
      rw [List.singleton_append, h.decodeOnce_plain hmark, ih]

end Codes

/-! ### Entities -/

theorem telling_entities : Telling '&' entities := ⟨by decide, by decide, by decide⟩

theorem decodeEntities_eq (s : List Char) : decodeEntities s = decodeOnce entities s :=
  foldl_replaceAll telling_entities s

/-- A text without ampersands has no entities. -/
theorem decodeEntities_of_notMem {s : List Char} (h : '&' ∉ s) : decodeEntities s = s := by
  rw [decodeEntities_eq]
  induction s with
  | nil => rfl
  | cons c s ih =>
    have hc : c ≠ '&' := fun hc => h (hc ▸ List.mem_cons_self)
    rw [telling_entities.decodeOnce_plain hc, ih fun hs => h (List.mem_cons_of_mem c hs)]

/-- Replacing the entities one after another is one pass over the text, so that a text with all its quotes,
angle brackets and ampersands escaped is decoded to itself. -/
theorem decodeEntities_onePass :
    (∀ s, decodeEntities s = decodeOnce entities s) ∧ ∀ s, decodeEntities (escape entities s) = s := by
  refine ⟨decodeEntities_eq, fun s => ?_⟩
  rw [decodeEntities_eq]
  exact decodeOnce_escape telling_entities ⟨("&amp;".toList, '&'), by decide, rfl⟩ s

/-- What is escaped twice is decoded once. -/
example : decodeEntities "&amp;lt;&#39;&amp".toList = "&lt;'&amp".toList := by decide

end StoryState.Text
