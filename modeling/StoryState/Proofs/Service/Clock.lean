import StoryState.Proofs.Text.Digit
import StoryState.Service.Clock
import Mathlib.Data.String.Basic

/-!
Stamps of times in years of four digits: they are of one length, and their order as texts is that of the times
(`Clock.stamp_lt`).
-/

namespace StoryState.Clock

open Text

variable {day day' time time' x y : Int}

/-! ### Dates -/

/-- The year of a day in an era of 400 years. -/
def eraYear (x : Int) : Int := (x - x / 1460 + x / 36524 - x / 146096) / 365

theorem eraYear_bounds (hlow : 0 ≤ x) (hhigh : x < 146097) : 0 ≤ eraYear x ∧ eraYear x ≤ 399 := by
  unfold eraYear
  omega

theorem eraYear_mono (hlow : 0 ≤ x) (h : x < y) (hhigh : y < 146097) : eraYear x ≤ eraYear y := by
  unfold eraYear
  omega

/-- The days of an era before one of its years. -/
def daysBefore (year : Int) : Int := 365 * year + year / 4 - year / 100

/-- A year has 365 days, or one more. -/
theorem daysBefore_eraYear (hlow : 0 ≤ x) (hhigh : x < 146097) :
    daysBefore (eraYear x) ≤ x ∧ x ≤ daysBefore (eraYear x) + 365 := by
  unfold daysBefore eraYear
  -- the centuries decide how many leap days lie behind
  have hyears : ((x - x / 1460 + x / 36524 - x / 146096) / 365) / 100 = 0 ∨
      ((x - x / 1460 + x / 36524 - x / 146096) / 365) / 100 = 1 ∨
      ((x - x / 1460 + x / 36524 - x / 146096) / 365) / 100 = 2 ∨
      ((x - x / 1460 + x / 36524 - x / 146096) / 365) / 100 = 3 := by omega
  have hdays : x / 36524 = 0 ∨ x / 36524 = 1 ∨ x / 36524 = 2 ∨ x / 36524 = 3 ∨ x / 36524 = 4 := by omega
  rcases hyears with hy | hy | hy | hy <;> rcases hdays with hd | hd | hd | hd | hd <;>
    (rw [hy]; constructor <;> omega)

/-- The day in its era of 400 years, which begin in March. -/
def eraDay (day : Int) : Int := (day + epochDay).fmod 146097

theorem eraDay_bounds (day : Int) : 0 ≤ eraDay day ∧ eraDay day < 146097 :=
  ⟨Int.fmod_nonneg_of_pos _ (by decide), Int.fmod_lt_of_pos _ (by decide)⟩

/-- The year of a day, counted from March. -/
def marchYear (day : Int) : Int := eraYear (eraDay day) + (day + epochDay).fdiv 146097 * 400

/-- The days from the beginning of March. -/
def marchDay (day : Int) : Int := eraDay day - daysBefore (eraYear (eraDay day))

/-- The months from March. -/
def marchMonth (day : Int) : Int := (5 * marchDay day + 2) / 153

theorem marchMonth_bounds (day : Int) : 0 ≤ marchMonth day ∧ marchMonth day ≤ 11 ∧
    1 ≤ marchDay day - (153 * marchMonth day + 2) / 5 + 1 ∧
      marchDay day - (153 * marchMonth day + 2) / 5 + 1 ≤ 31 := by
  obtain ⟨hlow, hhigh⟩ := eraDay_bounds day
  obtain ⟨hfirst, hlast⟩ := daysBefore_eraYear hlow hhigh
  have hday : 0 ≤ marchDay day ∧ marchDay day ≤ 365 := by
    unfold marchDay
    omega
  unfold marchMonth
  omega

/-- A later day is in a later year, or later in its year. -/
theorem march_lt (h : day < day') : marchYear day < marchYear day' ∨
    marchYear day = marchYear day' ∧ marchDay day < marchDay day' := by
  have hday := Int.mul_fdiv_add_fmod (day + epochDay) 146097
  have hday' := Int.mul_fdiv_add_fmod (day' + epochDay) 146097
  obtain ⟨hlow, hhigh⟩ := eraDay_bounds day
  obtain ⟨hlow', hhigh'⟩ := eraDay_bounds day'
  have hyear := eraYear_bounds hlow hhigh
  have hyear' := eraYear_bounds hlow' hhigh'
  unfold marchYear marchDay
  unfold eraDay at *
  rcases Int.lt_trichotomy ((day + epochDay).fdiv 146097) ((day' + epochDay).fdiv 146097) with hlt | heq | hgt
  · exact .inl (by omega)
  · have hlt : (day + epochDay).fmod 146097 < (day' + epochDay).fmod 146097 := by omega
    rcases Int.lt_or_eq_of_le (eraYear_mono hlow hlt hhigh') with hyears | hyears
    · exact .inl (by omega)
    · rw [hyears, heq]
      exact .inr ⟨rfl, by omega⟩
  · omega

/-- A date, whose year begins in January. -/
theorem civil_eq (day : Int) : civil day =
    let month := if marchMonth day < 10 then marchMonth day + 3 else marchMonth day - 9
    (marchYear day + (if month ≤ 2 then 1 else 0), month,
      marchDay day - (153 * marchMonth day + 2) / 5 + 1) := rfl

/-- A date as a number whose last four digits are those of the month and of the day. -/
def dateNumber (day : Int) : Int := (civil day).1 * 10000 + ((civil day).2.1 * 100 + (civil day).2.2)

theorem civil_bounds (day : Int) : 1 ≤ (civil day).2.1 ∧ (civil day).2.1 ≤ 12 ∧ 1 ≤ (civil day).2.2 ∧
    (civil day).2.2 ≤ 31 := by
  obtain ⟨hlow, hhigh, hfirst, hlast⟩ := marchMonth_bounds day
  rw [civil_eq]
  dsimp only
  refine ⟨?_, ?_, hfirst, hlast⟩ <;> split <;> omega

/-- January and February are the last months of the year before, counted from March. -/
theorem dateNumber_eq (day : Int) : dateNumber day = marchYear day * 10000 + (marchMonth day + 3) * 100 +
    (if marchMonth day < 10 then 0 else 8800) + (marchDay day - (153 * marchMonth day + 2) / 5 + 1) := by
  obtain ⟨hlow, hhigh, -, -⟩ := marchMonth_bounds day
  unfold dateNumber
  rw [civil_eq]
  dsimp only
  by_cases h : marchMonth day < 10
  · rw [if_pos h, if_neg (by omega), if_pos h]
    omega
  · rw [if_neg h, if_pos (by omega), if_neg h]
    omega

/-- The order of dates as numbers is that of the days. -/
theorem dateNumber_lt (h : day < day') : dateNumber day < dateNumber day' := by
  obtain ⟨hlow, hhigh, hfirst, hlast⟩ := marchMonth_bounds day
  obtain ⟨hlow', hhigh', hfirst', hlast'⟩ := marchMonth_bounds day'
  rw [dateNumber_eq, dateNumber_eq]
  rcases march_lt h with hyear | ⟨hyear, hday⟩
  · split <;> split <;> omega
  · have hmonth : marchMonth day ≤ marchMonth day' := by
      unfold marchMonth
      omega
    rcases Int.lt_or_eq_of_le hmonth with hmonth | hmonth
    · split <;> split <;> omega
    · rw [hyear, hmonth]
      omega

theorem dateNumber_pos (h : 1 ≤ (civil day).1) : 0 < dateNumber day := by
  obtain ⟨hmonth, -, hday, -⟩ := civil_bounds day
  unfold dateNumber
  omega

/-! ### Stamps -/

/-- The day of a time, counted from the beginning of 2024. -/
def dayOf (time : Int) : Int := (time.fdiv 1000000).fdiv 86400

/-- The second of its day. -/
def secondOf (time : Int) : Int := (time.fdiv 1000000).fmod 86400

theorem secondOf_bounds (time : Int) : 0 ≤ secondOf time ∧ secondOf time < 86400 :=
  ⟨Int.fmod_nonneg_of_pos _ (by decide), Int.fmod_lt_of_pos _ (by decide)⟩

theorem micro_bounds (time : Int) : 0 ≤ time.fmod 1000000 ∧ time.fmod 1000000 < 1000000 :=
  ⟨Int.fmod_nonneg_of_pos _ (by decide), Int.fmod_lt_of_pos _ (by decide)⟩

/-- A later time is on a later day, or in a later second of its day, or later in its second. -/
theorem time_lt (h : time < time') : dayOf time < dayOf time' ∨
    dayOf time = dayOf time' ∧ (secondOf time < secondOf time' ∨
      secondOf time = secondOf time' ∧ time.fmod 1000000 < time'.fmod 1000000) := by
  have htime := Int.mul_fdiv_add_fmod time 1000000
  have htime' := Int.mul_fdiv_add_fmod time' 1000000
  have hsecond := Int.mul_fdiv_add_fmod (time.fdiv 1000000) 86400
  have hsecond' := Int.mul_fdiv_add_fmod (time'.fdiv 1000000) 86400
  obtain ⟨hlow, hhigh⟩ := secondOf_bounds time
  obtain ⟨hlow', hhigh'⟩ := secondOf_bounds time'
  obtain ⟨_, _⟩ := micro_bounds time
  obtain ⟨_, _⟩ := micro_bounds time'
  unfold dayOf
  unfold secondOf at *
  omega

/-- Times in years of four digits, as far as calendars go back. -/
def Dated (time : Int) : Prop := 1 ≤ (civil (dayOf time)).1 ∧ (civil (dayOf time)).1 ≤ 9999

instance : DecidablePred Dated := fun _ => inferInstanceAs (Decidable (_ ∧ _))

/-- A date in a stamp. -/
def dateText (day : Int) : List Char :=
  (digits 4 (civil day).1).toList ++ ((digits 2 (civil day).2.1).toList ++ (digits 2 (civil day).2.2).toList)

/-- The second of a day in a stamp. -/
def clockText (second : Int) : List Char :=
  (digits 2 (second / 3600)).toList ++ ((digits 2 (second / 60 % 60)).toList ++
    (digits 2 (second % 60)).toList)

/-- The second of a day as a number of six digits, whose order is that of the seconds. -/
def clockNumber (second : Int) : Int :=
  second / 3600 * 10000 + (second / 60 % 60 * 100 + second % 60)

theorem clockNumber_lt {second second' : Int} (hlow : 0 ≤ second) (h : second < second') :
    0 ≤ clockNumber second ∧ clockNumber second < clockNumber second' := by
  unfold clockNumber
  have hhour : second / 3600 = second / 60 / 60 := by omega
  have hhour' : second' / 3600 = second' / 60 / 60 := by omega
  have hminute : second / 60 ≤ second' / 60 := by omega
  rw [hhour, hhour']
  rcases Int.lt_or_eq_of_le hminute with hminute | hminute
  · omega
  · rw [← hminute]
    omega

theorem stamp_eq (time : Int) : (stamp time).toList = dateText (dayOf time) ++
    '-' :: (clockText (secondOf time) ++ '-' :: (digits 6 (time.fmod 1000000)).toList) := by
  unfold stamp dateText clockText dayOf secondOf
  simp

theorem row_digits {width : Nat} {n : Int} (hwidth : 0 < width) (h : n.toNat < 10 ^ width) :
    Row width n.toNat (digits width n).toList := by
  unfold digits
  rw [Nat.toString_eq_ofList_toDigits]
  dsimp only
  rw [String.toList_append, String.toList_ofList, String.toList_ofList, String.length_ofList]
  exact row_padded hwidth h

theorem row_dateText (hlow : 1 ≤ (civil day).1) (hhigh : (civil day).1 ≤ 9999) :
    Row 8 (dateNumber day).toNat (dateText day) := by
  obtain ⟨hmonth, hmonth', hday, hday'⟩ := civil_bounds day
  have hvalue : (dateNumber day).toNat = (civil day).1.toNat * 10 ^ (2 + 2) +
      ((civil day).2.1.toNat * 10 ^ 2 + (civil day).2.2.toNat) := by
    unfold dateNumber
    omega
  have hyearRow : Row 4 _ (digits 4 (civil day).1).toList := row_digits (by decide) (by omega)
  have hmonthRow : Row 2 _ (digits 2 (civil day).2.1).toList := row_digits (by decide) (by omega)
  have hdayRow : Row 2 _ (digits 2 (civil day).2.2).toList := row_digits (by decide) (by omega)
  rw [hvalue]
  exact hyearRow.append (hmonthRow.append hdayRow)

theorem row_clockText (time : Int) :
    Row 6 (clockNumber (secondOf time)).toNat (clockText (secondOf time)) := by
  obtain ⟨hlow, hhigh⟩ := secondOf_bounds time
  generalize secondOf time = second at hlow hhigh
  have hvalue : (clockNumber second).toNat = (second / 3600).toNat * 10 ^ (2 + 2) +
      ((second / 60 % 60).toNat * 10 ^ 2 + (second % 60).toNat) := by
    unfold clockNumber
    omega
  have hhourRow : Row 2 _ (digits 2 (second / 3600)).toList := row_digits (by decide) (by omega)
  have hminuteRow : Row 2 _ (digits 2 (second / 60 % 60)).toList := row_digits (by decide) (by omega)
  have hsecondRow : Row 2 _ (digits 2 (second % 60)).toList := row_digits (by decide) (by omega)
  rw [hvalue]
  exact hhourRow.append (hminuteRow.append hsecondRow)

theorem row_micro : Row 6 (time.fmod 1000000).toNat (digits 6 (time.fmod 1000000)).toList := by
  obtain ⟨hlow, hhigh⟩ := micro_bounds time
  exact row_digits (by decide) (by omega)

theorem length_stamp (h : Dated time) : (stamp time).toList.length = 22 := by
  rw [stamp_eq, List.length_append, List.length_cons, List.length_append, List.length_cons,
    (row_dateText h.1 h.2).length, (row_clockText time).length, row_micro.length]

theorem digits_digits (width : Nat) (n : Int) : Digits (digits width n).toList := by
  unfold digits
  rw [Nat.toString_eq_ofList_toDigits]
  simpa using Digits.append_iff.2 ⟨Digits.replicate_zero, Digits.toDigits⟩

/-- A stamp is made of digits and hyphens, whatever the time. -/
theorem of_mem_stamp {c : Char} (hc : c ∈ (stamp time).toList) : isAsciiDigit c = true ∨ c = '-' := by
  have hdate : Digits (dateText (dayOf time)) := Digits.append_iff.2
    ⟨digits_digits _ _, Digits.append_iff.2 ⟨digits_digits _ _, digits_digits _ _⟩⟩
  have hclock : Digits (clockText (secondOf time)) := Digits.append_iff.2
    ⟨digits_digits _ _, Digits.append_iff.2 ⟨digits_digits _ _, digits_digits _ _⟩⟩
  rw [stamp_eq, List.mem_append, List.mem_cons, List.mem_append, List.mem_cons] at hc
  rcases hc with hc | hc | hc | hc | hc
  · exact .inl (hdate c hc)
  · exact .inr hc
  · exact .inl (hclock c hc)
  · exact .inr hc
  · exact .inl (digits_digits _ _ c hc)

/-- A stamp takes as many bytes as it has characters. -/
theorem utf8ByteSize_stamp (h : Dated time) : (stamp time).utf8ByteSize = 22 := by
  have hone : ∀ cs : List Char, (∀ c ∈ cs, c.utf8Size = 1) → String.utf8Len cs = cs.length := by
    intro cs hcs
    induction cs with
    | nil => rfl
    | cons c cs ih =>
      rw [String.utf8Len_cons, ih fun d hd => hcs d (List.mem_cons_of_mem c hd), hcs c List.mem_cons_self,
        List.length_cons]
  rw [← String.utf8Len_toList, hone _ fun c hc => ?_, length_stamp h]
  rcases of_mem_stamp hc with hdigit | rfl
  · have hhigh := of_decide_eq_true (Bool.and_eq_true_iff.1 hdigit).2
    exact Char.utf8Size_eq_one_iff.2 (UInt32.le_trans hhigh (by decide))
  · rfl

/-- What follows rows of one length matters only if the rows are the same. -/
theorem append_lt_append {s s' t t' : List Char} (hlength : s.length = s'.length) (h : s < s') :
    s ++ t < s' ++ t' := by
  induction s generalizing s' with
  | nil =>
    obtain rfl := List.eq_nil_of_length_eq_zero hlength.symm
    exact absurd h (List.lt_irrefl _)
  | cons c s ih =>
    cases s' with
    | nil => cases hlength
    | cons d s' =>
      rw [List.cons_lt_cons_iff] at h
      rw [List.cons_append, List.cons_append, List.cons_lt_cons_iff]
      rcases h with h | ⟨rfl, h⟩
      · exact .inl h
      · exact .inr ⟨rfl, ih (Nat.succ.inj hlength) h⟩

/-- The order of stamps is that of the times. -/
theorem stamp_lt (h : Dated time) (h' : Dated time') (hlt : time < time') :
    (stamp time).toList < (stamp time').toList := by
  have hdate := row_dateText h.1 h.2
  have hdate' := row_dateText h'.1 h'.2
  have hclock := row_clockText time
  have hclock' := row_clockText time'
  rw [stamp_eq, stamp_eq]
  rcases time_lt hlt with hday | ⟨hday, hsecond | ⟨hsecond, hmicro⟩⟩
  · refine append_lt_append (hdate.length.trans hdate'.length.symm) (hdate.lt hdate' ?_)
    have hnumber := dateNumber_lt hday
    have hpositive := dateNumber_pos h.1
    omega
  · rw [hday]
    refine List.append_left_lt (List.cons_lt_cons_iff.2 (.inr ⟨rfl, ?_⟩))
    refine append_lt_append (hclock.length.trans hclock'.length.symm) (hclock.lt hclock' ?_)
    have := clockNumber_lt (secondOf_bounds time).1 hsecond
    omega
  · rw [hday, hsecond]
    refine List.append_left_lt (List.cons_lt_cons_iff.2 (.inr ⟨rfl, ?_⟩))
    refine List.append_left_lt (List.cons_lt_cons_iff.2 (.inr ⟨rfl, ?_⟩))
    refine row_micro.lt row_micro ?_
    have := (micro_bounds time).1
    omega

end StoryState.Clock
