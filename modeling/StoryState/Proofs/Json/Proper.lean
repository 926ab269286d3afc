import StoryState.Proofs.Step
import StoryState.Proofs.Value.Inherited

/-!
Texts of documents are longer than what they denote: of what is read for a text each character gives one
at most, and the quotes give none. So no document is the text that it denotes (`read_ne_self`).
-/

namespace StoryState.Json

variable {start : List Char} {c : Char}

theorem length_lowSurrogate? {s r : List Char} {n : Nat} (h : lowSurrogate? s = .ok (some (n, r))) :
    r.length ≤ s.length := by
  unfold lowSurrogate? at h
  split at h
  · split at h
    · cases h
    · split at h
      · cases h
      · split at h
        · cases h
          simp only [List.length_drop, List.length_cons]
          omega
        · cases h
  · cases h

theorem length_readUnicodeEscape {s r : List Char} (h : readUnicodeEscape start s = .ok (c, r)) :
    r.length ≤ s.length := by
  unfold readUnicodeEscape at h
  split at h
  · cases h
  · split at h
    · cases h
    · dsimp only at h
      have hdrop : (s.drop 4).length ≤ s.length := by simp
      split at h
      · split at h
        · cases h
        · rename_i hlow
          rw [← (Prod.mk.inj (Except.ok.inj h)).2]
          exact (length_lowSurrogate? hlow).trans hdrop
        · rw [← (Prod.mk.inj (Except.ok.inj h)).2]
          exact hdrop
      · rw [← (Prod.mk.inj (Except.ok.inj h)).2]
        exact hdrop

/-- A text has fewer characters than are read for it. -/
theorem length_readText : ∀ {fuel : Nat} {s cs rest : List Char},
    readText start fuel s = .ok (cs, rest) → cs.length < s.length
  | 0, _, _, _, h => nomatch h
  | fuel + 1, s, cs, rest, h => by
    unfold readText at h
    split at h
    · cases h
    · cases h
      exact Nat.zero_lt_succ _
    · split at h
      · cases h
      · obtain ⟨⟨c, r⟩, hescape, h⟩ := exists_of_bind_ok h
        obtain ⟨⟨ds, r'⟩, hread, h⟩ := exists_of_bind_ok h
        cases h
        have hc := length_readUnicodeEscape hescape
        have hds := length_readText hread
        simp only [List.length_cons]
        omega
      · split at h
        · cases h
        · obtain ⟨⟨ds, r'⟩, hread, h⟩ := exists_of_bind_ok h
          cases h
          have hds := length_readText hread
          simp only [List.length_cons]
          omega
    · split at h
      · cases h
      · obtain ⟨⟨ds, r'⟩, hread, h⟩ := exists_of_bind_ok h
        cases h
        have hds := length_readText hread
        simp only [List.length_cons]
        omega

/-- A word or a number is no text. -/
theorem scalar_ne_text {s rest : List Char} {t : String} : scalar s ≠ .ok (.text t, rest) := by
  intro h
  unfold scalar at h
  split at h
  · rename_i found hfound
    obtain ⟨⟨word, v⟩, hword, hdrop⟩ := List.exists_of_findSome?_eq_some hfound
    obtain ⟨r, -, rfl⟩ := Option.map_eq_some_iff.1 hdrop
    cases h
    simp [words] at hword
  · unfold number at h
    dsimp only at h
    split at h
    · cases h
    · split at h
      · cases h
      · split at h
        · cases h
        · split at h <;> cases h

theorem length_of_value {fuel : Nat} {s rest : List Char} {t : String}
    (h : value fuel s = .ok (.text t, rest)) : t.toList.length < s.length := by
  cases fuel with
  | zero => cases h
  | succ fuel =>
    unfold value at h
    split at h
    · rename_i r
      obtain ⟨⟨u, r'⟩, hquoted, h⟩ := exists_of_bind_ok h
      cases h
      obtain ⟨⟨cs, r''⟩, hread, hquoted⟩ := exists_of_bind_ok hquoted
      cases hquoted
      have hlength := length_readText hread
      rw [String.toList_ofList, List.length_cons]
      exact Nat.lt_succ_of_lt hlength
    · split at h
      · cases h
      · obtain ⟨_, _, h⟩ := exists_of_bind_ok h
        cases h
    · split at h
      · cases h
      · obtain ⟨_, _, h⟩ := exists_of_bind_ok h
        cases h
    · exact absurd h scalar_ne_text

/-- No document is the text that it denotes: it has quotes around that. -/
theorem read_ne_self (s : String) : read s ≠ .ok (.text s) := by
  intro h
  unfold read at h
  cases hd : document s.toList with
  | error e => rw [hd] at h; cases h
  | ok v =>
    rw [hd] at h
    cases h
    unfold document at hd
    split at hd
    · cases hd
    · split at hd
      · cases hd
      · rename_i hv
        split at hd
        · cases hd
          have hlength := length_of_value hv
          have hskip : (skipSpace s.toList).length ≤ s.toList.length :=
            (List.dropWhile_sublist _).length_le
          omega
        · cases hd

end StoryState.Json
