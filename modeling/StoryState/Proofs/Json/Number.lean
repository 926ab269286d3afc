import StoryState.Json.Writer
import StoryState.Json.Reader
import StoryState.Proofs.Number.Decimal

/-!
Numbers written and read back. A whole number short enough to be written is read back as itself
(`number_intChars`), and so is every finite double (`number_floatText`).
-/

namespace StoryState.Json

open StoryState.Number StoryState.Text

/-- What may stand behind a number: nothing that goes on with it. -/
def Ended (rest : List Char) : Prop :=
  ∀ c ∈ rest.head?, isAsciiDigit c = false ∧ c ≠ '.' ∧ c ≠ 'e' ∧ c ≠ 'E'

/-- No digit is at the head. -/
def NoDigit (rest : List Char) : Prop := ∀ c ∈ rest.head?, isAsciiDigit c = false

variable {rest r₁ r₂ r₃ body whole fraction ds : List Char} {negative : Bool} {e : Int} {c : Char}

theorem Ended.noDigit (h : Ended rest) : NoDigit rest := fun c hc => (h c hc).1

theorem Ended.nil : Ended [] := by
  intro c hc
  cases hc

theorem noDigit_cons (h : isAsciiDigit c = false) : NoDigit (c :: rest) := by
  intro d hd
  cases hd
  exact h

/-! ### The parts of a number -/

theorem takeWhile_digits (hd : Digits ds) (hr : NoDigit rest) :
    (ds ++ rest).takeWhile isAsciiDigit = ds ∧ (ds ++ rest).dropWhile isAsciiDigit = rest := by
  rw [List.takeWhile_append_of_pos hd, List.dropWhile_append_of_pos hd]
  cases rest with
  | nil => simp
  | cons c s =>
    have hc := hr c rfl
    simp [hc]

theorem wholeDigits?_cons (hc : c ≠ '0') (hd : Digits (c :: ds)) (hr : NoDigit rest) :
    wholeDigits? (c :: ds ++ rest) = some (c :: ds, rest) := by
  obtain ⟨htake, hdrop⟩ := takeWhile_digits hd hr
  have hdigit := (Digits.cons_iff.1 hd).1
  rw [List.cons_append] at htake hdrop ⊢
  unfold wholeDigits?
  split
  · rename_i heq
    exact absurd (List.cons.inj heq).1 hc
  · rename_i c' s _ heq
    obtain ⟨rfl, rfl⟩ := List.cons.inj heq
    rw [if_pos hdigit, htake, hdrop]
  · rename_i heq
    cases heq

theorem fractionDigits_append (hd : Digits fraction) (hne : fraction ≠ []) (hr : NoDigit rest) :
    fractionDigits ('.' :: (fraction ++ rest)) = (fraction, rest) := by
  obtain ⟨htake, hdrop⟩ := takeWhile_digits hd hr
  cases fraction with
  | nil => exact absurd rfl hne
  | cons c ds =>
    have hdigit := (Digits.cons_iff.1 hd).1
    rw [List.cons_append] at htake hdrop ⊢
    simp only [fractionDigits, hdigit, if_true, htake, hdrop]

theorem fractionDigits_of_ne (h : ∀ c ∈ rest.head?, c ≠ '.') : fractionDigits rest = ([], rest) := by
  unfold fractionDigits
  split
  · exact absurd rfl (h '.' rfl)
  · rfl

theorem exponent?_of_ended (h : Ended rest) : exponent? rest = none := by
  cases rest with
  | nil => rfl
  | cons c s =>
    obtain ⟨-, -, he, hE⟩ := h c rfl
    simp [exponent?, he, hE]

/-- A whole part does not begin with a minus. -/
theorem head?_ne_minus (h : wholeDigits? body = some (whole, r₁)) : body.head? ≠ some '-' := by
  cases body with
  | nil => cases h
  | cons c s =>
    intro hc
    cases hc
    cases h

variable (negative) in
/-- The sign in front of a number. -/
theorem number_signed (h : wholeDigits? body = some (whole, r₁))
    (hf : fractionDigits r₁ = (fraction, r₂)) :
    number (if negative then '-' :: body else body) =
      match exponent? r₂ with
      | some (e, rest) => .ok (.float (Number.ofDigits negative whole fraction e), rest)
      | none =>
        if fraction ≠ [] then .ok (.float (Number.ofDigits negative whole fraction 0), r₂)
        else if Number.digitLimit < whole.length then .error (.numeral whole.length)
        else .ok (.int (Number.signed negative whole), r₂) := by
  have hne := head?_ne_minus h
  cases negative with
  | true => cases hexp : exponent? r₂ <;> simp [number, h, hf, hexp]
  | false => cases hexp : exponent? r₂ <;> simp [number, hne, h, hf, hexp]

/-! ### Digits of a number -/

/-- A whole number is read back. -/
theorem number_intChars {n : Int} (hn : isWritable n = true) (hr : Ended rest) :
    number (intChars n ++ rest) = .ok (.int n, rest) := by
  have hlength : ¬ digitLimit < (Nat.toDigits 10 n.natAbs).length := by
    rw [isWritable, decide_eq_true_eq] at hn
    omega
  have hfraction := fractionDigits_of_ne fun c hc => (hr c hc).2.1
  have hwhole : wholeDigits? (Nat.toDigits 10 n.natAbs ++ rest) =
      some (Nat.toDigits 10 n.natAbs, rest) := by
    rcases Nat.eq_zero_or_pos n.natAbs with hzero | hpos
    · rw [hzero]
      rfl
    · obtain ⟨c, s, heq, hc⟩ := toDigits_cons hpos
      have hdigits : Digits (Nat.toDigits 10 n.natAbs) := Digits.toDigits
      rw [heq] at hdigits ⊢
      exact wholeDigits?_cons hc hdigits hr.noDigit
  have hread := number_signed (decide (n < 0)) hwhole hfraction
  rw [exponent?_of_ended hr] at hread
  simp only [ne_eq, not_true_eq_false, if_false, if_neg hlength] at hread
  cases n with
  | ofNat k =>
    have hsign : decide (Int.ofNat k < 0) = false := by simp
    rw [hsign] at hread
    refine hread.trans ?_
    simp [signed, Int.natAbs]
  | negSucc k =>
    have hsign : decide (Int.negSucc k < 0) = true := by simp [Int.negSucc_lt_zero]
    rw [hsign, if_pos rfl] at hread
    refine hread.trans ?_
    simp [signed, Int.natAbs, Int.negSucc_eq]

/-! ### Doubles -/

variable (negative) in
theorem exponent?_cons (hd : Digits ds) (hne : ds ≠ []) (hr : NoDigit rest) :
    exponent? ('e' :: (if negative then '-' else '+') :: (ds ++ rest)) =
      some (signed negative ds, rest) := by
  obtain ⟨htake, hdrop⟩ := takeWhile_digits hd hr
  cases negative <;> simp [exponent?, takeSign, htake, hdrop, hne]

variable (negative) in
/-- A number with a point and digits behind it. -/
theorem number_fraction (h : wholeDigits? body = some (whole, r₁))
    (hf : fractionDigits r₁ = (fraction, rest)) (hne : fraction ≠ []) (hr : Ended rest) :
    number (if negative then '-' :: body else body) =
      .ok (.float (withSign negative
        (Decimal.bits ⟨readDigits 0 (whole ++ fraction), 0 - fraction.length⟩)), rest) := by
  rw [number_signed negative h hf, exponent?_of_ended hr]
  dsimp only
  rw [if_pos hne, ofDigits_eq]

variable (negative) in
/-- A number with a power of ten. -/
theorem number_exponent (h : wholeDigits? body = some (whole, r₁))
    (hf : fractionDigits r₁ = (fraction, r₂)) (he : exponent? r₂ = some (e, rest)) :
    number (if negative then '-' :: body else body) =
      .ok (.float (withSign negative
        (Decimal.bits ⟨readDigits 0 (whole ++ fraction), e - fraction.length⟩)), rest) := by
  rw [number_signed negative h hf, he]
  dsimp only
  rw [ofDigits_eq]

theorem digits_zero : Digits ['0'] := Digits.replicate_zero (n := 1)

/-- The power of ten of a number: its digits, at least two. -/
theorem readDigits_size {n : Nat} :
    readDigits 0 (List.replicate (2 - (Nat.toDigits 10 n).length) '0' ++ Nat.toDigits 10 n) = n := by
  rw [readDigits_append, readDigits_replicate_zero, Nat.zero_mul, readDigits_toDigits]

section Layout

variable {point : Int} {k : Nat}

/-- The decimal with the digits and the point. -/
def placed (ds : List Char) (point : Int) : Decimal := ⟨readDigits 0 ds, point - ds.length⟩

/-- Reading a text that goes on with `rest` gives the double nearest to the decimal. -/
def ReadsAs (negative : Bool) (text rest : List Char) (d : Decimal) : Prop :=
  number (if negative then '-' :: (text ++ rest) else text ++ rest) =
    .ok (.float (withSign negative d.bits), rest)

/-- The point stands before the digits, with zeros between. -/
theorem readsAs_before (hp : point ≤ 0) (hd : Digits ds) (hne : ds ≠ []) (hr : Ended rest) :
    ReadsAs negative ('0' :: '.' :: (List.replicate (-point).toNat '0' ++ ds)) rest
      (placed ds point) := by
  have hzeros : Digits (List.replicate (-point).toNat '0' ++ ds) :=
    Digits.append_iff.2 ⟨Digits.replicate_zero, hd⟩
  have hwhole : wholeDigits? ('0' :: '.' :: (List.replicate (-point).toNat '0' ++ ds ++ rest)) =
      some (['0'], '.' :: (List.replicate (-point).toNat '0' ++ ds ++ rest)) := rfl
  have hread := number_fraction negative hwhole
    (fractionDigits_append hzeros (by simp [hne]) hr.noDigit) (by simp [hne]) hr
  refine hread.trans ?_
  have hdigits : readDigits 0 (['0'] ++ (List.replicate (-point).toNat '0' ++ ds)) =
      readDigits 0 ds := by
    have hzero : readDigits 0 ['0'] = 0 := rfl
    rw [readDigits_append, readDigits_append, readDigits_replicate_zero, hzero, Nat.zero_mul]
  have hexponent : (0 : Int) - (List.replicate (-point).toNat '0' ++ ds).length =
      point - ds.length := by
    rw [List.length_append, List.length_replicate]
    omega
  rw [hdigits, hexponent]
  rfl

/-- The point stands among the digits. -/
theorem readsAs_among (hk : 0 < k) (hlt : k < (c :: ds).length) (hd : Digits (c :: ds))
    (hc : c ≠ '0') (hr : Ended rest) :
    ReadsAs negative ((c :: ds).take k ++ '.' :: (c :: ds).drop k) rest (placed (c :: ds) k) := by
  obtain ⟨k, rfl⟩ : ∃ j, k = j + 1 := ⟨k - 1, by omega⟩
  have hsplit : c :: ds.take k ++ (c :: ds).drop (k + 1) = c :: ds := by simp
  have hparts := Digits.append_iff.1 (hsplit.symm ▸ hd)
  have hne : (c :: ds).drop (k + 1) ≠ [] := by
    intro hnil
    rw [List.drop_eq_nil_iff] at hnil
    omega
  have hwhole : wholeDigits? (c :: ds.take k ++ '.' :: ((c :: ds).drop (k + 1) ++ rest)) =
      some (c :: ds.take k, '.' :: ((c :: ds).drop (k + 1) ++ rest)) :=
    wholeDigits?_cons hc hparts.1 (noDigit_cons rfl)
  have hread := number_fraction negative hwhole
    (fractionDigits_append hparts.2 hne hr.noDigit) hne hr
  have hexponent : (0 : Int) - ((c :: ds).drop (k + 1)).length = (k + 1 : Nat) - (c :: ds).length := by
    rw [List.length_drop]
    omega
  rw [hsplit, hexponent] at hread
  unfold ReadsAs
  rw [List.take_succ_cons, List.append_assoc]
  exact hread

/-- The point stands behind the digits, with zeros between. -/
theorem readsAs_behind (hle : (c :: ds).length ≤ k) (hd : Digits (c :: ds)) (hc : c ≠ '0')
    (hr : Ended rest) :
    ReadsAs negative ((c :: ds) ++ List.replicate (k - (c :: ds).length) '0' ++ ['.', '0']) rest
      (placed (c :: ds) k) := by
  have hzeros : Digits (c :: (ds ++ List.replicate (k - (c :: ds).length) '0')) :=
    Digits.append_iff.2 ⟨hd, Digits.replicate_zero⟩
  have hwhole : wholeDigits? (c :: (ds ++ List.replicate (k - (c :: ds).length) '0') ++
      '.' :: (['0'] ++ rest)) =
      some (c :: (ds ++ List.replicate (k - (c :: ds).length) '0'), '.' :: (['0'] ++ rest)) :=
    wholeDigits?_cons hc hzeros (noDigit_cons rfl)
  have hread := number_fraction negative hwhole
    (fractionDigits_append digits_zero (by simp) hr.noDigit) (by simp) hr
  have hbits : Decimal.bits ⟨readDigits 0 (c :: (ds ++ List.replicate (k - (c :: ds).length) '0') ++
      ['0']), 0 - (['0'] : List Char).length⟩ = (placed (c :: ds) k).bits := by
    have hdigits : readDigits 0 (c :: (ds ++ List.replicate (k - (c :: ds).length) '0') ++ ['0']) =
        readDigits 0 (c :: ds) * 10 ^ (k - (c :: ds).length + 1) := by
      have happend : c :: (ds ++ List.replicate (k - (c :: ds).length) '0') ++ ['0'] =
          (c :: ds) ++ List.replicate (k - (c :: ds).length + 1) '0' := by
        rw [List.replicate_succ']
        simp
      rw [happend, readDigits_append, readDigits_replicate_zero]
    rw [hdigits, Decimal.bits_shift]
    unfold placed
    congr 2
    rw [List.length_singleton]
    omega
  rw [hbits] at hread
  unfold ReadsAs
  rw [List.append_assoc]
  exact hread

/-- The power of ten behind the digits, which have a point behind the first one. -/
theorem readsAs_significand {power : List Char} (hd : Digits (c :: ds)) (hc : c ≠ '0')
    (hpower : exponent? ('e' :: (power ++ rest)) = some (point - 1, rest)) :
    ReadsAs negative
      ((match c :: ds with
        | [] => []
        | [d] => [d]
        | d :: ds => d :: '.' :: ds) ++ 'e' :: power) rest (placed (c :: ds) point) := by
  obtain ⟨hc', hds⟩ := Digits.cons_iff.1 hd
  have hone : Digits [c] := by
    intro d hd'
    rw [List.mem_singleton] at hd'
    exact hd' ▸ hc'
  cases ds with
  | nil =>
    have hwhole : wholeDigits? ([c] ++ 'e' :: (power ++ rest)) = some ([c], 'e' :: (power ++ rest)) :=
      wholeDigits?_cons hc hone (noDigit_cons rfl)
    have hread := number_exponent negative hwhole (fractionDigits_of_ne (by simp)) hpower
    simpa [ReadsAs, placed] using hread
  | cons c₂ ds =>
    have hwhole : wholeDigits? ([c] ++ '.' :: ((c₂ :: ds) ++ 'e' :: (power ++ rest))) =
        some ([c], '.' :: ((c₂ :: ds) ++ 'e' :: (power ++ rest))) :=
      wholeDigits?_cons hc hone (noDigit_cons rfl)
    have hread := number_exponent negative hwhole
      (fractionDigits_append hds (by simp) (noDigit_cons rfl)) hpower
    have hexponent : point - 1 - (c₂ :: ds).length = point - (c :: c₂ :: ds).length := by
      simp only [List.length_cons]
      omega
    rw [hexponent] at hread
    simpa [ReadsAs, placed] using hread

/-- The power of ten stands behind the digits. -/
theorem exponent?_power (hr : Ended rest) :
    exponent? ('e' :: ((if e < 0 then '-' else '+') ::
      (List.replicate (2 - (Nat.toDigits 10 e.natAbs).length) '0' ++ Nat.toDigits 10 e.natAbs) ++
        rest)) = some (e, rest) := by
  have hsize : Digits (List.replicate (2 - (Nat.toDigits 10 e.natAbs).length) '0' ++
      Nat.toDigits 10 e.natAbs) := Digits.append_iff.2 ⟨Digits.replicate_zero, Digits.toDigits⟩
  have hread := exponent?_cons (decide (e < 0)) hsize
    (by simp [Nat.toDigits_ne_nil]) hr.noDigit
  have hvalue : signed (decide (e < 0)) (List.replicate
      (2 - (Nat.toDigits 10 e.natAbs).length) '0' ++ Nat.toDigits 10 e.natAbs) = e := by
    unfold signed
    rw [readDigits_size]
    simp only [decide_eq_true_eq]
    split <;> omega
  rw [hvalue] at hread
  simpa using hread

/-- The digits with their point are read as the decimal they stand for. -/
theorem number_layout (hd : Digits (c :: ds)) (hc : c ≠ '0') (hr : Ended rest) :
    ReadsAs negative (layout (c :: ds) point) rest (placed (c :: ds) point) := by
  unfold layout
  split
  · split
    · exact readsAs_before (by assumption) hd (by simp) hr
    · rename_i hplace hpos
      obtain ⟨k, rfl⟩ := Int.eq_ofNat_of_zero_le (show 0 ≤ point by omega)
      dsimp only
      split
      · exact readsAs_among (by omega) (by assumption) hd hc hr
      · exact readsAs_behind (by omega) hd hc hr
  · exact readsAs_significand hd hc (exponent?_power hr)

end Layout

/-- The digits that are left begin as before, and the zeros that were dropped follow them. -/
theorem dropTrailingZeros_spec (hc : c ≠ '0') :
    ∃ s z, (dropTrailingZeros (c :: ds)).1 = c :: s ∧ c :: ds = c :: s ++ List.replicate z '0' := by
  have hzeros : (c :: ds).reverse.takeWhile (· == '0') =
      List.replicate ((c :: ds).reverse.takeWhile (· == '0')).length '0' := by
    rw [List.eq_replicate_iff]
    refine ⟨rfl, fun d hd => ?_⟩
    exact eq_of_beq (List.all_eq_true.1 List.all_takeWhile d hd)
  have hsplit := List.takeWhile_append_dropWhile (p := (· == '0')) (l := (c :: ds).reverse)
  generalize hz : ((c :: ds).reverse.takeWhile (· == '0')).length = z at hzeros
  rw [hzeros] at hsplit
  have hall : c :: ds = ((c :: ds).reverse.dropWhile (· == '0')).reverse ++ List.replicate z '0' := by
    have hreverse := congrArg List.reverse hsplit
    rw [List.reverse_append, List.reverse_replicate, List.reverse_reverse] at hreverse
    exact hreverse.symm
  generalize ((c :: ds).reverse.dropWhile (· == '0')).reverse = kept at hall
  have hkept : (dropTrailingZeros (c :: ds)).1 = kept := by
    show (c :: ds).take ((c :: ds).length - ((c :: ds).reverse.takeWhile (· == '0')).length) = kept
    rw [hz, hall, List.length_append, List.length_replicate, Nat.add_sub_cancel, List.take_left]
  cases kept with
  | nil =>
    have hmem : c ∈ List.replicate z '0' := by
      rw [← List.nil_append (List.replicate z '0'), ← hall]
      exact List.mem_cons_self
    exact absurd (List.eq_of_mem_replicate hmem) hc
  | cons d s =>
    obtain rfl := (List.cons.inj hall).1
    exact ⟨s, z, hkept, hall⟩

section Double

variable {x : Float} {m : Nat}

theorem readsAs_zero (hr : Ended rest) : ReadsAs negative "0.0".toList rest ⟨0, e⟩ := by
  have hwhole : wholeDigits? ('0' :: '.' :: (['0'] ++ rest)) = some (['0'], '.' :: (['0'] ++ rest)) := rfl
  have hread := number_fraction negative hwhole
    (fractionDigits_append digits_zero (by simp) hr.noDigit) (by simp) hr
  refine hread.trans ?_
  rw [show readDigits 0 (['0'] ++ ['0']) = 0 from rfl, Decimal.bits_zero, Decimal.bits_zero]

/-- Zeros at the end may be dropped from the digits, as long as the point stays. -/
theorem bits_placed {digits z : Nat} {ds : List Char}
    (h : Nat.toDigits 10 digits = ds ++ List.replicate z '0') :
    (placed ds ((Nat.toDigits 10 digits).length + e)).bits = Decimal.bits ⟨digits, e⟩ := by
  have hvalue : digits = readDigits 0 ds * 10 ^ z := by
    rw [← readDigits_replicate_zero, ← readDigits_append, ← h, readDigits_toDigits]
  have hlength : (Nat.toDigits 10 digits).length = ds.length + z := by
    rw [h, List.length_append, List.length_replicate]
  rw [hlength]
  conv_rhs => rw [hvalue]
  rw [Decimal.bits_shift]
  unfold placed
  congr 2
  push_cast
  ring

variable (negative) in
/-- The text of a positive double is read as that double. -/
theorem number_positiveText (h : IsFinite m e) (hr : Ended rest) :
    number (if negative then '-' :: (positiveText m e ++ rest) else positiveText m e ++ rest) =
      .ok (.float (withSign negative (positiveBits m e)), rest) := by
  unfold positiveText
  by_cases hne : m = 0
  · subst hne
    rw [if_pos rfl]
    have hleast : e = minExponent := by
      rcases h.short with hlong | hleast
      · omega
      · exact hleast
    have hread : ReadsAs negative _ rest ⟨0, 0⟩ := readsAs_zero hr
    rw [ReadsAs, Decimal.bits_zero] at hread
    rw [hleast]
    exact hread
  · rw [if_neg hne]
    have hbits := bits_shortest (Nat.pos_of_ne_zero hne) h
    generalize shortest m e = d at hbits
    obtain ⟨digits, exponent⟩ := d
    have hpos : 0 < digits := by
      rcases Nat.eq_zero_or_pos digits with rfl | hpos
      · rw [Decimal.bits_zero] at hbits
        unfold positiveBits at hbits
        omega
      · exact hpos
    obtain ⟨c, s, hdigits, hc⟩ := toDigits_cons hpos
    obtain ⟨s', z, hkept, hall⟩ := dropTrailingZeros_spec hc
    have hascii : Digits (c :: s) := hdigits ▸ Digits.toDigits
    have hread : ReadsAs negative _ rest (placed (c :: s') ((Nat.toDigits 10 digits).length + exponent)) :=
      number_layout (Digits.append_iff.1 (hall ▸ hascii)).1 hc hr
    rw [ReadsAs, bits_placed (hdigits.trans hall), hbits] at hread
    dsimp only
    rw [hdigits, hkept, ← hdigits]
    exact hread

/-- A finite double is read back from its text. -/
theorem number_floatText (h : parts x = .finite negative m e) (hr : Ended rest) :
    number ((floatText x).toList ++ rest) = .ok (.float x, rest) := by
  have hread := number_positiveText negative (toBits_of_finite h).2 hr
  rw [withSign_of_finite h] at hread
  rw [← hread]
  unfold floatText
  rw [h]
  dsimp only
  rw [String.toList_ofList]
  cases negative <;> rfl

end Double

end StoryState.Json
