/-!
Character classes given by their code points: an ascending list of closed ranges.
-/

namespace StoryState.Text

/-- Membership in an ascending list of closed ranges. -/
def inRanges : List (Nat × Nat) → Nat → Bool
  | [], _ => false
  | (lo, hi) :: more, n => if n < lo then false else if n ≤ hi then true else inRanges more n

end StoryState.Text
