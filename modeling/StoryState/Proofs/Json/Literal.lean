import StoryState.Proofs.Json.Number
import StoryState.Proofs.Value.Inherited
import StoryState.Number.Basic

/-!
Numbers of documents as literals. A text that documents have for a number denotes the same number as a
literal (`Number.ofText_of_number`): literals may be spelled in more ways, with blanks around them and
low lines between their digits, but none of those is at work in a text of a document.
-/

namespace StoryState

open StoryState.Text

namespace Number

variable {s body whole fraction rest : List Char} {c : Char} {negative : Bool} {e : Int}

/-- A character of a number in a document. -/
def IsMark (c : Char) : Prop :=
  isAsciiDigit c = true ∨ c = '-' ∨ c = '+' ∨ c = '.' ∨ c = 'e' ∨ c = 'E'

theorem isBlank_of_isMark (h : IsMark c) : isBlank c = false := by
  rcases h with h | rfl | rfl | rfl | rfl | rfl
  · exact isBlank_of_isDigit (isDigit_of_ascii h)
  all_goals decide

theorem IsMark.of_digits (hd : Digits s) : ∀ c ∈ s, IsMark c := fun c hc => .inl (hd c hc)

theorem plainDigits_of_isMark (h : ∀ c ∈ s, IsMark c) : plainDigits s = s := by
  refine (List.map_congr_left fun c hc => ?_).trans (List.map_id s)
  rcases h c hc with hdigit | rfl | rfl | rfl | rfl | rfl
  · rw [(digitValue?_of_ascii hdigit).1]
    have hlow := (toNat_of_ascii hdigit).1
    show Char.ofNat (48 + (c.toNat - 48)) = c
    rw [Nat.add_sub_cancel' hlow, Char.ofNat_toNat]
  all_goals rfl

theorem dropLowLines?_of_isMark (h : ∀ c ∈ s, IsMark c) (after : Bool) :
    dropLowLines? after s = some s := by
  induction s generalizing after with
  | nil => rfl
  | cons c s ih =>
    rw [List.forall_mem_cons] at h
    have hc : c ≠ '_' := by
      rintro rfl
      exact absurd h.1 (by unfold IsMark; decide)
    rw [dropLowLines?, if_neg hc, ih h.2]
    rfl

/-! ### The parts of a number -/

/-- The digits of a fraction with the point before them, if there are any. -/
def pointed (fraction : List Char) : List Char :=
  match fraction with
  | [] => []
  | c :: ds => '.' :: c :: ds

theorem wholeDigits?_spec (h : Json.wholeDigits? s = some (whole, rest)) :
    s = whole ++ rest ∧ Digits whole ∧ whole ≠ [] := by
  unfold Json.wholeDigits? at h
  split at h
  · cases h
    exact ⟨rfl, Json.digits_zero, by simp⟩
  · split at h
    · rename_i c t _ hc
      cases h
      exact ⟨List.takeWhile_append_dropWhile.symm, fun d => List.mem_takeWhile_imp, by simp [hc]⟩
    · cases h
  · cases h

theorem fractionDigits_spec (h : Json.fractionDigits s = (fraction, rest)) :
    s = pointed fraction ++ rest ∧ Digits fraction := by
  unfold Json.fractionDigits at h
  split at h
  · split at h
    · rename_i c r hc
      cases h
      refine ⟨?_, fun d => List.mem_takeWhile_imp⟩
      have hsplit := List.takeWhile_append_dropWhile (p := isAsciiDigit) (l := c :: r)
      rw [List.takeWhile_cons_of_pos hc] at hsplit ⊢
      exact congrArg ('.' :: ·) hsplit.symm
    · cases h
      exact ⟨rfl, Digits.nil⟩
  · cases h
    exact ⟨rfl, Digits.nil⟩

theorem isMark_of_takeSign {digits : List Char} (h : takeSign s = (negative, digits))
    (hdigits : ∀ c ∈ digits, IsMark c) : ∀ c ∈ s, IsMark c := by
  unfold takeSign at h
  split at h
  · cases h
    exact List.forall_mem_cons.2 ⟨by simp [IsMark], hdigits⟩
  · cases h
    exact List.forall_mem_cons.2 ⟨by simp [IsMark], hdigits⟩
  · cases h
    exact hdigits

theorem wholeNumber?_digits {digits : List Char} (hsign : takeSign s = (negative, digits))
    (hne : digits ≠ []) (hd : Digits digits) : wholeNumber? s = some (negative, digits) := by
  have hall : digits.all isDigit = true := List.all_eq_true.2 fun c hc => isDigit_of_ascii (hd c hc)
  unfold wholeNumber?
  rw [hsign]
  dsimp only
  rw [hall, if_pos (by simp [hne])]

/-- A text with a character that is no digit is no whole number. -/
theorem wholeNumber?_eq_none (hsign : takeSign s = (negative, body)) (hc : c ∈ body)
    (hdigit : isDigit c = false) : wholeNumber? s = none := by
  have hall : body.all isDigit = false := by
    rw [List.all_eq_false]
    exact ⟨c, hc, by simp [hdigit]⟩
  unfold wholeNumber?
  rw [hsign]
  dsimp only
  rw [hall, Bool.and_false, if_neg Bool.false_ne_true]

/-- What may follow the digits of a number: a power of ten, or nothing. -/
structure IsPower (s : List Char) (e : Int) : Prop where
  isMark : ∀ c ∈ s, IsMark c
  ends : ∀ c ∈ s.head?, isDigit c = false ∧ c ≠ '.'
  reads : exponentPart? s = some e

theorem IsPower.nil : IsPower [] 0 := ⟨by simp, by simp, rfl⟩

theorem IsPower.noDigit (h : IsPower s e) : Json.NoDigit s := by
  intro c hc
  rw [Bool.eq_false_iff]
  intro hdigit
  have hnot : isDigit c = false := (h.ends c hc).1
  rw [isDigit_of_ascii hdigit] at hnot
  cases hnot

theorem isPower_of_exponent? (h : Json.exponent? s = some (e, [])) : IsPower s e ∧ s ≠ [] := by
  cases s with
  | nil => cases h
  | cons c t =>
    rw [Json.exponent?] at h
    split at h
    · rename_i hc
      rcases hsign : takeSign t with ⟨negative, digits⟩
      rw [hsign] at h
      dsimp only at h
      split at h
      · cases h
      · rename_i hne
        simp only [Option.some.injEq, Prod.mk.injEq] at h
        obtain ⟨rfl, hrest⟩ := h
        have hall : digits.takeWhile isAsciiDigit = digits := by
          have hsplit := List.takeWhile_append_dropWhile (p := isAsciiDigit) (l := digits)
          rwa [hrest, List.append_nil] at hsplit
        rw [hall] at hne ⊢
        have hd : Digits digits := hall ▸ fun d => List.mem_takeWhile_imp
        have hmark : c = 'e' ∨ c = 'E' := by simpa using hc
        refine ⟨⟨List.forall_mem_cons.2 ⟨.inr (.inr (.inr (.inr hmark))), ?_⟩, ?_, ?_⟩, by simp⟩
        · exact isMark_of_takeSign hsign (IsMark.of_digits hd)
        · rintro d ⟨⟩
          rcases hmark with rfl | rfl <;> exact ⟨rfl, by decide⟩
        · rw [exponentPart?, if_pos hc, wholeNumber?_digits hsign hne hd]
          rfl
    · cases h

/-- A number by its parts: a sign, perhaps, whole digits, a point and digits, perhaps, and the rest. -/
structure HasParts (s : List Char) (negative : Bool) (whole fraction rest : List Char) : Prop where
  sign : takeSign s = (negative, whole ++ (pointed fraction ++ rest))
  digits : Digits whole
  ne_nil : whole ≠ []
  behind : Digits fraction

/-- The parts of a number of a document. -/
theorem hasParts_of_document {r : List Char}
    (hwhole : Json.wholeDigits? (if s.head? = some '-' then s.drop 1 else s) = some (whole, r))
    (hfraction : Json.fractionDigits r = (fraction, rest)) :
    HasParts s (decide (s.head? = some '-')) whole fraction rest := by
  obtain ⟨hbody, hd, hne⟩ := wholeDigits?_spec hwhole
  obtain ⟨rfl, hdf⟩ := fractionDigits_spec hfraction
  refine ⟨?_, hd, hne, hdf⟩
  rw [← hbody]
  cases s with
  | nil => rfl
  | cons c t =>
    unfold takeSign
    split
    · rename_i heq
      cases heq
      rfl
    · -- no plus is in front of a number of a document
      rename_i heq
      cases heq
      cases hwhole
    · rename_i hminus _
      have hc : ¬(c :: t).head? = some '-' := by
        rintro ⟨⟩
        exact hminus _ rfl
      rw [if_neg hc, decide_eq_false hc]

theorem toLower_of_ascii (h : isAsciiDigit c = true) : c.toLower = c := by
  obtain ⟨hlow, hhigh⟩ := toNat_of_ascii h
  unfold Char.toLower
  rw [dif_neg]
  rintro ⟨hupper, -⟩
  have := UInt32.le_iff_toNat_le.1 hupper
  have hA : 'A'.val.toNat = 65 := rfl
  have hc : c.val.toNat = c.toNat := rfl
  omega

/-- What begins with a digit spells no word. -/
theorem lowerAscii_ne (hd : isAsciiDigit c = true) {d : Char} (hdigit : isAsciiDigit d = false)
    (w : List Char) : lowerAscii (c :: s) ≠ d :: w := by
  intro heq
  have hhead := (List.cons.inj heq).1
  rw [toLower_of_ascii hd] at hhead
  rw [hhead, hdigit] at hd
  cases hd

/-- An unsigned decimal by its parts. -/
theorem unsignedDecimal?_parts (hd : Digits whole) (hne : whole ≠ []) (hdf : Digits fraction)
    (hpower : IsPower rest e) : unsignedDecimal? negative (whole ++ (pointed fraction ++ rest)) =
      some (ofDigits negative whole fraction e) := by
  cases fraction with
  | nil =>
    obtain ⟨htake, hdrop⟩ := Json.takeWhile_digits hd hpower.noDigit
    show unsignedDecimal? negative (whole ++ rest) = _
    unfold unsignedDecimal?
    rw [htake, hdrop]
    dsimp only
    split
    · exact absurd rfl (hpower.ends '.' rfl).2
    · simp [hne, hpower.reads]
  | cons c ds =>
    have hpoint : Json.NoDigit ('.' :: (c :: ds ++ rest)) := Json.noDigit_cons rfl
    obtain ⟨htake, hdrop⟩ := Json.takeWhile_digits hd hpoint
    obtain ⟨htake', hdrop'⟩ := Json.takeWhile_digits hdf hpower.noDigit
    show unsignedDecimal? negative (whole ++ '.' :: (c :: ds ++ rest)) = _
    unfold unsignedDecimal?
    rw [htake, hdrop]
    simp only [htake', hdrop']
    simp [hne, hpower.reads]

namespace HasParts

variable (h : HasParts s negative whole fraction rest)

include h

theorem isMark (hrest : ∀ c ∈ rest, IsMark c) : ∀ c ∈ s, IsMark c := by
  refine isMark_of_takeSign h.sign (List.forall_mem_append.2 ⟨IsMark.of_digits h.digits, ?_⟩)
  refine List.forall_mem_append.2 ⟨?_, hrest⟩
  have hfraction := IsMark.of_digits h.behind
  cases fraction with
  | nil => exact hfraction
  | cons c ds => exact List.forall_mem_cons.2 ⟨by simp [IsMark], hfraction⟩

theorem text_ne_nil : s ≠ [] := by
  rintro rfl
  have hnil : [] = whole ++ (pointed fraction ++ rest) := (Prod.mk.inj h.sign).2
  exact h.ne_nil (List.append_eq_nil_iff.1 hnil.symm).1

theorem decimal?_eq (hpower : IsPower rest e) :
    decimal? s = some (ofDigits negative whole fraction e) := by
  have hmarks : ∀ c ∈ s, IsMark c := h.isMark hpower.isMark
  have hparts : unsignedDecimal? negative (whole ++ (pointed fraction ++ rest)) =
      some (ofDigits negative whole fraction e) :=
    unsignedDecimal?_parts h.digits h.ne_nil h.behind hpower
  obtain ⟨c, t, rfl⟩ := List.exists_cons_of_ne_nil h.ne_nil
  have hc := (Digits.cons_iff.1 h.digits).1
  unfold decimal?
  rw [plainDigits_of_isMark hmarks, dropLowLines?_of_isMark hmarks, Option.bind_some]
  dsimp only
  rw [h.sign]
  dsimp only
  rw [if_neg, if_neg, hparts]
  · exact lowerAscii_ne hc rfl _
  · simp only [Bool.or_eq_true, decide_eq_true_eq, not_or]
    exact ⟨lowerAscii_ne hc rfl _, lowerAscii_ne hc rfl _⟩

/-- With a fraction or a power of ten, a number is no whole one. -/
theorem wholeNumber?_eq (hpower : IsPower rest e) (hsome : fraction ≠ [] ∨ rest ≠ []) :
    wholeNumber? s = none := by
  rcases hsome with hne | hne
  · obtain ⟨c, ds, rfl⟩ := List.exists_cons_of_ne_nil hne
    exact wholeNumber?_eq_none h.sign (c := '.') (by simp [pointed]) rfl
  · obtain ⟨c, t, rfl⟩ := List.exists_cons_of_ne_nil hne
    exact wholeNumber?_eq_none h.sign (by simp) (hpower.ends c rfl).1

theorem ofText_decimal (hpower : IsPower rest e) (hsome : fraction ≠ [] ∨ rest ≠ []) :
    ofText s = .ok (.float (ofDigits negative whole fraction e)) := by
  unfold ofText
  rw [strip_eq_self fun c hc => isBlank_of_isMark (h.isMark hpower.isMark c hc)]
  dsimp only
  rw [if_neg h.text_ne_nil, h.wholeNumber?_eq hpower hsome, h.decimal?_eq hpower]

end HasParts

theorem HasParts.ofText_whole (h : HasParts s negative whole [] [])
    (hshort : ¬digitLimit < whole.length) : ofText s = .ok (.int (signed negative whole)) := by
  have hsign : takeSign s = (negative, whole) := by simpa [pointed] using h.sign
  unfold ofText
  rw [strip_eq_self fun c hc => isBlank_of_isMark (h.isMark (by simp) c hc)]
  dsimp only
  rw [if_neg h.text_ne_nil, wholeNumber?_digits hsign h.ne_nil h.digits]
  dsimp only
  rw [if_neg hshort]

/-- A literal that is a number as documents write it denotes that number. -/
theorem ofText_of_number {v : Value} (h : Json.number s = .ok (v, [])) :
    ∃ n, ofText s = .ok n ∧ v = .ofNumber n := by
  unfold Json.number at h
  dsimp only at h
  split at h
  · cases h
  · rename_i whole r hwhole
    rcases hfraction : Json.fractionDigits r with ⟨fraction, rest⟩
    have hparts := hasParts_of_document hwhole hfraction
    rw [hfraction] at h
    dsimp only at h
    cases hexponent : Json.exponent? rest with
    | some exponent =>
      obtain ⟨e, last⟩ := exponent
      rw [hexponent] at h
      cases h
      obtain ⟨hpower, hne⟩ := isPower_of_exponent? hexponent
      exact ⟨_, hparts.ofText_decimal hpower (.inr hne), rfl⟩
    | none =>
      rw [hexponent] at h
      dsimp only at h
      split at h
      · rename_i hsome
        cases h
        exact ⟨_, hparts.ofText_decimal IsPower.nil (.inl hsome), rfl⟩
      · rename_i hnil
        obtain rfl := not_not.1 hnil
        split at h
        · cases h
        · rename_i hshort
          cases h
          exact ⟨_, hparts.ofText_whole hshort, rfl⟩

end Number

end StoryState
