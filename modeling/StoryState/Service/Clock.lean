import StoryState.Number.Basic

/-!
A clock that moves on whenever it is read, and the stamps of its times, whose order as texts is that
of the times.
-/

namespace StoryState

/-- A clock, in microseconds since the beginning of 2024. -/
structure Clock where
  now : Int := 0
  /-- By how much it moves on before it is read. -/
  tick : Int := 1000000

namespace Clock

/-- A span of seconds in microseconds, rounded to the nearest, and a half to the even one. -/
def ofSeconds : Number → Int
  | .int n => n * 1000000
  | .float x =>
    match Number.parts x with
    | .finite negative m e =>
      let (num, den) := Number.scaled (m * 1000000) e
      let low := num / den
      let twice := 2 * (num % den)
      let n : Nat := if twice > den || (twice = den && low % 2 = 1) then low + 1 else low
      if negative then -(n : Int) else n
    | _ => 0

/-- The clock after a reading; its `now` is what was read. -/
def next (c : Clock) : Clock := { c with now := c.now + c.tick }

/-- The days from the beginning of March of the year zero to the beginning of 2024. -/
def epochDay : Int := 739191

/-- Year, month and day of a day counted from the beginning of 2024. Years are counted from March, so
that a leap day comes last; the calendar repeats after 400 of them. -/
def civil (day : Int) : Int × Int × Int :=
  let z := day + epochDay
  let era := z.fdiv 146097
  let inEra := z.fmod 146097
  let year := (inEra - inEra / 1460 + inEra / 36524 - inEra / 146096) / 365
  let inYear := inEra - (365 * year + year / 4 - year / 100)
  let month := (5 * inYear + 2) / 153
  let dayOfMonth := inYear - (153 * month + 2) / 5 + 1
  let monthOfYear := if month < 10 then month + 3 else month - 9
  (year + era * 400 + (if monthOfYear ≤ 2 then 1 else 0), monthOfYear, dayOfMonth)

/-- A number in so many digits. -/
def digits (width : Nat) (n : Int) : String :=
  let s := toString n.toNat
  String.ofList (List.replicate (width - s.length) '0') ++ s

/-- The stamp of a time: its date, its hour, minute and second, and its microsecond. -/
def stamp (time : Int) : String :=
  let second := time.fdiv 1000000
  let (year, month, day) := civil (second.fdiv 86400)
  let inDay := second.fmod 86400
  digits 4 year ++ digits 2 month ++ digits 2 day ++ "-" ++
    digits 2 (inDay / 3600) ++ digits 2 (inDay / 60 % 60) ++ digits 2 (inDay % 60) ++ "-" ++
    digits 6 (time.fmod 1000000)

end Clock

end StoryState
