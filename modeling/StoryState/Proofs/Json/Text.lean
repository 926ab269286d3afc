import StoryState.Json.Writer
import StoryState.Json.Reader
import Mathlib.Tactic.Common

/-!
Texts written and read back: every character comes back from its escape (`readText_escapeChar`), and
so does a quoted text (`quoted_quote`).
-/

namespace StoryState.Json

open StoryState.Text (hexDigits hexValue?)

variable {start rest : List Char} {fuel : Nat} {c : Char}

/-- The four hexadecimal digits of a control character denote it. -/
theorem hex4?_control : ∀ n < 32, hex4? (hexDigits 4 n) = some n := by decide

theorem length_hexDigits (width n : Nat) : (hexDigits width n).length = width := by
  induction width generalizing n with
  | zero => rfl
  | succ width ih => rw [hexDigits, List.length_append, ih, List.length_singleton]

variable (start) in
/-- A control character is read back from its escape. -/
theorem readUnicodeEscape_control (h : c.toNat < 32) (hne : rest ≠ []) :
    readUnicodeEscape start (hexDigits 4 c.toNat ++ rest) = .ok (c, rest) := by
  have hlength := length_hexDigits 4 c.toNat
  have hpos := List.length_pos_iff.2 hne
  have htake : (hexDigits 4 c.toNat ++ rest).take 4 = hexDigits 4 c.toNat :=
    List.take_left' hlength
  have hdrop : (hexDigits 4 c.toNat ++ rest).drop 4 = rest := List.drop_left' hlength
  unfold readUnicodeEscape
  rw [if_neg (by rw [List.length_append, hlength]; omega), htake, hex4?_control _ h]
  dsimp only
  rw [hdrop, if_neg (by simp; omega)]
  unfold unitChar
  rw [if_neg (by simp; omega), Char.ofNat_toNat]

/-- Reading on behind a character. -/
def readOn (c : Char) (r : Except Stop (List Char × List Char)) : Except Stop (List Char × List Char) :=
  r.map fun (cs, rest) => (c :: cs, rest)

/-- A character is read back from inside quotes. -/
theorem readText_escapeChar (hne : rest ≠ []) :
    readText start (fuel + 1) (escapeChar c ++ rest) = readOn c (readText start fuel rest) := by
  unfold escapeChar
  split
  · rename_i h
    subst h
    rfl
  split
  · rename_i h
    subst h
    rfl
  split
  · rename_i h
    subst h
    rfl
  split
  · rename_i h
    subst h
    rfl
  split
  · rename_i h
    subst h
    rfl
  split
  · rename_i h
    subst h
    rfl
  split
  · rename_i h
    subst h
    rfl
  split
  · rename_i h
    have hread := readUnicodeEscape_control (['\\', 'u'] ++ hexDigits 4 c.toNat ++ rest) h hne
    rw [List.append_assoc] at hread ⊢
    show (readUnicodeEscape _ (hexDigits 4 c.toNat ++ rest) >>= _) = _
    rw [hread]
    rfl
  · rename_i hquote hslash _ _ _ _ _ hcontrol
    rw [List.singleton_append]
    conv_lhs => unfold readText
    split
    · rename_i heq
      cases heq
    · rename_i heq
      exact absurd (List.cons.inj heq).1 hquote
    · rename_i heq
      exact absurd (List.cons.inj heq).1 hslash
    · rename_i heq
      obtain ⟨rfl, rfl⟩ := List.cons.inj heq
      rw [if_neg hcontrol]
      rfl

theorem readText_flatMap {s : List Char} (hfuel : s.length < fuel) :
    readText start fuel (s.flatMap escapeChar ++ '"' :: rest) = .ok (s, rest) := by
  induction s generalizing fuel with
  | nil =>
    obtain ⟨fuel, rfl⟩ : ∃ k, fuel = k + 1 := ⟨fuel - 1, by simp at hfuel; omega⟩
    rfl
  | cons c s ih =>
    obtain ⟨fuel, rfl⟩ : ∃ k, fuel = k + 1 := ⟨fuel - 1, by simp at hfuel; omega⟩
    rw [List.length_cons] at hfuel
    rw [List.flatMap_cons, List.append_assoc, readText_escapeChar (by simp), ih (by omega)]
    rfl

theorem escapeChar_ne_nil : escapeChar c ≠ [] := by
  unfold escapeChar
  repeat' split
  all_goals simp

theorem length_le_flatMap (s : List Char) : s.length ≤ (s.flatMap escapeChar).length := by
  induction s with
  | nil => simp
  | cons c s ih =>
    have hpos := List.length_pos_iff.2 (escapeChar_ne_nil (c := c))
    rw [List.flatMap_cons, List.length_append, List.length_cons]
    omega

/-- A text is read back from its quotes. -/
theorem quoted_quote (s : String) : quoted (quote s ++ rest) = .ok (s, rest) := by
  have hfuel : s.toList.length < (quote s ++ rest).length := by
    have hle := length_le_flatMap s.toList
    unfold quote
    simp only [List.cons_append, List.length_cons, List.length_append]
    omega
  have hread : readText (quote s ++ rest) _ (s.toList.flatMap escapeChar ++ '"' :: rest) = _ :=
    readText_flatMap hfuel
  unfold quoted
  have hdrop : (quote s ++ rest).drop 1 = s.toList.flatMap escapeChar ++ '"' :: rest := by
    simp [quote]
  rw [hdrop, hread]
  show Except.ok (String.ofList s.toList, rest) = _
  rw [String.ofList_toList]

end StoryState.Json
