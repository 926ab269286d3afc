import StoryState.Proofs.Json.Number
import StoryState.Proofs.Json.Text
import StoryState.Proofs.Value.Tidy

/-!
Documents written and read back. A tidy value is read back from its document in every layout
(`read_render`): first its words and numbers, then, by induction on the reader's fuel, its lists and
objects.
-/

namespace StoryState.Json

open StoryState.Number StoryState.Text

variable {l : Layout} {level fuel : Nat} {s rest close : List Char} {v : Value} {c : Char}

/-! ### Layouts and blanks -/

/-- A layout whose separators are a comma and a colon, with blanks behind them at most. -/
structure Layout.Regular (l : Layout) : Prop where
  item : ∃ s, l.afterItem.toList = ',' :: s ∧ s.all isSpace = true
  key : ∃ s, l.afterKey.toList = ':' :: s ∧ s.all isSpace = true

theorem Layout.pretty_regular : Layout.pretty.Regular where
  item := ⟨[], rfl, rfl⟩
  key := ⟨[' '], rfl, rfl⟩

theorem Layout.compact_regular : Layout.compact.Regular where
  item := ⟨[], rfl, rfl⟩
  key := ⟨[], rfl, rfl⟩

theorem Layout.newLine_blank : (l.newLine level).all isSpace = true := by
  unfold Layout.newLine
  split
  · rfl
  · rw [List.all_cons, Bool.and_eq_true]
    refine ⟨rfl, List.all_eq_true.2 fun c hc => ?_⟩
    rw [List.eq_of_mem_replicate hc]
    rfl

theorem skipSpace_append (h : s.all isSpace = true) : skipSpace (s ++ rest) = skipSpace rest :=
  List.dropWhile_append_of_pos (List.all_eq_true.1 h)

theorem skipSpace_cons (h : isSpace c = false) : skipSpace (c :: s) = c :: s := by
  unfold skipSpace
  rw [List.dropWhile_cons_of_neg (by simp [h])]

theorem ended_cons (h : isAsciiDigit c = false ∧ c ≠ '.' ∧ c ≠ 'e' ∧ c ≠ 'E') : Ended (c :: s) := by
  intro d hd
  cases hd
  exact h

/-- Blanks and a closing bracket end a number. -/
theorem ended_close (hs : s.all isSpace = true) (h : Ended rest) : Ended (s ++ rest) := by
  cases s with
  | nil => exact h
  | cons c s =>
    refine ended_cons ?_
    rw [List.all_cons, Bool.and_eq_true] at hs
    have hc := hs.1
    simp only [isSpace, Bool.or_eq_true, beq_iff_eq] at hc
    rcases hc with ((rfl | rfl) | rfl) | rfl <;> decide

/-! ### Words and numbers -/

/-- What is read as a number begins with a digit, behind a minus perhaps. -/
theorem head_of_number {r : Value × List Char} (h : number s = .ok r) :
    ∃ c t, isAsciiDigit c = true ∧ (s = c :: t ∨ s = '-' :: c :: t) := by
  have hwhole : ∀ t, wholeDigits? t ≠ none → ∃ c u, isAsciiDigit c = true ∧ t = c :: u := by
    intro t ht
    unfold wholeDigits? at ht
    split at ht
    · exact ⟨'0', _, rfl, rfl⟩
    · split at ht
      · rename_i c u _ hc
        exact ⟨c, u, hc, rfl⟩
      · exact absurd rfl ht
    · exact absurd rfl ht
  unfold number at h
  dsimp only at h
  split at h
  · cases h
  · rename_i whole r₁ hw
    have hne := hwhole _ (by rw [hw]; exact Option.some_ne_none _)
    obtain ⟨c, t, hc, heq⟩ := hne
    refine ⟨c, t, hc, ?_⟩
    split at heq
    · rename_i hminus
      right
      cases s with
      | nil => cases hminus
      | cons d s =>
        simp only [List.head?_cons, Option.some.injEq] at hminus
        rw [hminus, ← heq]
        rfl
    · left
      exact heq

theorem ne_of_digit {d : Char} (hc : isAsciiDigit c = true) (hd : isAsciiDigit d = false) :
    c ≠ d := by
  rintro rfl
  rw [hc] at hd
  cases hd

theorem dropLead?_of_ne {n : Char} {ns : List Char} (h : n ≠ c) : dropLead? (n :: ns) (c :: s) = none :=
  if_neg h

/-- What is read as a number is no word. -/
theorem scalar_of_number {r : Value × List Char} (h : number s = .ok r) : scalar s = .ok r := by
  have hdrop : ∀ p ∈ words, dropLead? p.1 s = none := by
      intro p hp
      obtain ⟨c, t, hc, rfl | rfl⟩ := head_of_number h
      · simp only [words, List.mem_cons, List.not_mem_nil, or_false] at hp
        rcases hp with rfl | rfl | rfl | rfl | rfl | rfl
        all_goals exact dropLead?_of_ne (ne_of_digit hc rfl).symm
      · simp only [words, List.mem_cons, List.not_mem_nil, or_false] at hp
        rcases hp with rfl | rfl | rfl | rfl | rfl | rfl
        · exact dropLead?_of_ne (by decide)
        · exact dropLead?_of_ne (by decide)
        · exact dropLead?_of_ne (by decide)
        · exact dropLead?_of_ne (by decide)
        · exact dropLead?_of_ne (by decide)
        · exact (if_pos rfl).trans (dropLead?_of_ne (ne_of_digit hc rfl).symm)
  unfold scalar
  rw [List.findSome?_eq_none_iff.2]
  · exact h
  · intro p hp
    dsimp only
    rw [hdrop p hp]
    rfl

/-- What a value begins with: no blank, no closing bracket, no mark. -/
structure Begins (s : List Char) : Prop where
  blank : ∀ c ∈ s.head?, isSpace c = false
  bracket : ∀ c ∈ s.head?, c ≠ ']'
  mark : ∀ c ∈ s.head?, c ≠ '\ufeff'
  ne_nil : s ≠ []

theorem begins_cons (h : isSpace c = false ∧ c ≠ ']' ∧ c ≠ '\ufeff') : Begins (c :: s) where
  blank := by
    intro d hd
    cases hd
    exact h.1
  bracket := by
    intro d hd
    cases hd
    exact h.2.1
  mark := by
    intro d hd
    cases hd
    exact h.2.2
  ne_nil := List.cons_ne_nil _ _

theorem begins_of_number {r : Value × List Char} (h : number s = .ok r) : Begins s := by
  obtain ⟨c, t, hc, rfl | rfl⟩ := head_of_number h
  · refine begins_cons ⟨?_, ne_of_digit hc rfl, ne_of_digit hc rfl⟩
    have hspace := ne_of_digit (d := ' ') hc rfl
    have htab := ne_of_digit (d := '\t') hc rfl
    have hline := ne_of_digit (d := '\n') hc rfl
    have hreturn := ne_of_digit (d := '\r') hc rfl
    simp [isSpace, hspace, htab, hline, hreturn]
  · exact begins_cons (by decide)

/-- What is read as a number is read as a value. -/
theorem value_of_number {r : Value × List Char} (h : number s = .ok r) :
    value (fuel + 1) s = .ok r := by
  have hscalar := scalar_of_number h
  obtain ⟨c, t, hc, rfl | rfl⟩ := head_of_number h
  · unfold value
    split
    · rename_i heq
      exact absurd (List.cons.inj heq).1 (ne_of_digit hc rfl)
    · rename_i heq
      exact absurd (List.cons.inj heq).1 (ne_of_digit hc rfl)
    · rename_i heq
      exact absurd (List.cons.inj heq).1 (ne_of_digit hc rfl)
    · exact hscalar
  · exact hscalar

variable (fuel) in
/-- A double is read back. -/
theorem value_floatChars {x : Float} (hr : Ended rest) :
    value (fuel + 1) (floatChars x ++ rest) = .ok (.float x, rest) ∧ Begins (floatChars x ++ rest) := by
  unfold floatChars
  split
  · rename_i h
    rw [eq_of_nan h]
    exact ⟨rfl, begins_cons (by decide)⟩
  · rename_i negative h
    rw [eq_of_infinite h]
    cases negative
    · exact ⟨rfl, begins_cons (by decide)⟩
    · exact ⟨rfl, begins_cons (by decide)⟩
  · rename_i h
    have hread := number_floatText h hr
    exact ⟨value_of_number hread, begins_of_number hread⟩

/-! ### Lists and objects -/

variable (level) in
theorem begins_write (hv : v.isWritable = true) (hr : Ended rest) :
    Begins (write l level v ++ rest) := by
  cases v with
  | null => exact begins_cons (by decide)
  | bool b => cases b <;> exact begins_cons (by decide)
  | int n => exact begins_of_number (number_intChars hv hr)
  | float x => exact (value_floatChars 0 hr).2
  | text t => exact begins_cons (by decide)
  | list items => cases items <;> exact begins_cons (by decide)
  | object fields => cases fields <;> exact begins_cons (by decide)

theorem begins_quote {k : String} : Begins (quote k ++ rest) := begins_cons (by decide)

/-- Blanks in front of a value are skipped, and no more than those. -/
theorem skipSpace_begins (hs : s.all isSpace = true) (h : Begins rest) : skipSpace (s ++ rest) = rest := by
  rw [skipSpace_append hs]
  cases rest with
  | nil => rfl
  | cons c r => exact skipSpace_cons (h.blank c rfl)

theorem ended_items {vs : List Value} (hl : l.Regular) (hs : close.all isSpace = true) :
    Ended (writeItems l level vs ++ (close ++ ']' :: rest)) := by
  cases vs with
  | nil =>
    have hclose : Ended (close ++ ']' :: rest) := ended_close hs (ended_cons (by decide))
    exact hclose
  | cons v vs =>
    obtain ⟨s, hitem, -⟩ := hl.item
    rw [writeItems, hitem]
    exact ended_cons (by decide)

theorem ended_fields {fs : List (String × Value)} (hl : l.Regular) (hs : close.all isSpace = true) :
    Ended (writeFields l level fs ++ (close ++ '\x7d' :: rest)) := by
  cases fs with
  | nil =>
    have hclose : Ended (close ++ '\x7d' :: rest) := ended_close hs (ended_cons (by decide))
    exact hclose
  | cons f fs =>
    obtain ⟨s, hitem, -⟩ := hl.item
    rw [writeFields, hitem]
    exact ended_cons (by decide)

section Steps

variable {r r' : List Char} {vs : List Value} {k : String} {fs : List (String × Value)}

theorem value_list (hr : skipSpace r = r') (hb : Begins r') (h : items fuel r' = .ok (vs, rest)) :
    value (fuel + 1) ('[' :: r) = .ok (.list vs, rest) := by
  simp only [value, hr]
  split
  · exact absurd rfl (hb.bracket ']' rfl)
  · rw [h]
    rfl

theorem value_object (hr : skipSpace r = '"' :: r') (h : fields fuel ('"' :: r') = .ok (fs, rest)) :
    value (fuel + 1) ('\x7b' :: r) = .ok (.object (Entries.ofList fs), rest) := by
  simp only [value, hr]
  show (fields fuel ('"' :: r') >>= fun x => pure (Value.object (Entries.ofList x.1), x.2)) = _
  rw [h]
  rfl

theorem items_last (h : value fuel s = .ok (v, r)) (hr : skipSpace r = ']' :: rest) :
    items (fuel + 1) s = .ok ([v], rest) := by
  simp only [items, h, bind, Except.bind, hr]
  rfl

theorem items_next (h : value fuel s = .ok (v, r)) (hr : skipSpace r = ',' :: r')
    (hi : items fuel (skipSpace r') = .ok (vs, rest)) : items (fuel + 1) s = .ok (v :: vs, rest) := by
  simp only [items, h, bind, Except.bind, hr, hi]
  rfl

theorem fields_last {r₁ r₂ : List Char} (hk : quoted ('"' :: s) = .ok (k, r₁))
    (hc : skipSpace r₁ = ':' :: r₂) (h : value fuel (skipSpace r₂) = .ok (v, r))
    (hr : skipSpace r = '\x7d' :: rest) : fields (fuel + 1) ('"' :: s) = .ok ([(k, v)], rest) := by
  simp only [fields, hk, bind, Except.bind, hc, h, hr]
  rfl

theorem fields_next {r₁ r₂ : List Char} (hk : quoted ('"' :: s) = .ok (k, r₁))
    (hc : skipSpace r₁ = ':' :: r₂) (h : value fuel (skipSpace r₂) = .ok (v, r))
    (hr : skipSpace r = ',' :: r') (hf : fields fuel (skipSpace r') = .ok (fs, rest)) :
    fields (fuel + 1) ('"' :: s) = .ok ((k, v) :: fs, rest) := by
  simp only [fields, hk, bind, Except.bind, hc, h, hr, hf]
  rfl

end Steps

mutual

/-- A value is read back from its text, whatever ends it. -/
theorem value_write (hl : l.Regular) : ∀ (fuel level : Nat) {v : Value} {rest : List Char},
    v.Tidy → v.isWritable = true → Ended rest → (write l level v).length ≤ fuel →
    value fuel (write l level v ++ rest) = .ok (v, rest)
  | 0, level, v, rest, _, hv, _, hfuel => by
    have hne := (begins_write (l := l) level hv Ended.nil).ne_nil
    rw [List.append_nil] at hne
    exact absurd (List.length_eq_zero_iff.1 (Nat.le_zero.1 hfuel)) hne
  | fuel + 1, level, v, rest, ht, hv, hr, hfuel => by
    cases v with
    | null => rfl
    | bool b => cases b <;> rfl
    | int n => exact value_of_number (number_intChars hv hr)
    | float x => exact (value_floatChars fuel hr).1
    | text t =>
      show (quoted (quote t ++ rest) >>= fun x => pure (Value.text x.1, x.2)) = _
      rw [quoted_quote]
      rfl
    | list vs =>
      cases vs with
      | nil => rfl
      | cons w vs =>
        have hread := items_write hl fuel (level + 1) (l.newLine level) rest ht hv Layout.newLine_blank (by
            simp only [write, List.length_cons, List.length_append, List.length_nil] at hfuel ⊢
            omega)
        have hw : w.isWritable = true := (Bool.and_eq_true_iff.1 hv).1
        have hended : Ended (writeItems l (level + 1) vs ++ (l.newLine level ++ ']' :: rest)) :=
          ended_items hl Layout.newLine_blank
        have hb := begins_write (l := l) (level + 1) hw hended
        have htext : write l level (.list (w :: vs)) ++ rest =
            '[' :: (l.newLine (level + 1) ++ (write l (level + 1) w ++
              (writeItems l (level + 1) vs ++ (l.newLine level ++ ']' :: rest)))) := by
          simp [write]
        rw [htext]
        exact value_list (skipSpace_begins Layout.newLine_blank hb) hb hread
    | object fs =>
      cases fs with
      | nil => rfl
      | cons f fs =>
        obtain ⟨k, w⟩ := f
        have hread := fields_write hl fuel (level + 1) (l.newLine level) rest ht.2 hv Layout.newLine_blank (by
            simp only [write, List.length_cons, List.length_append, List.length_nil] at hfuel ⊢
            omega)
        have htext : write l level (.object ((k, w) :: fs)) ++ rest =
            '\x7b' :: (l.newLine (level + 1) ++ (quote k ++ (l.afterKey.toList ++
              (write l (level + 1) w ++
                (writeFields l (level + 1) fs ++ (l.newLine level ++ '\x7d' :: rest)))))) := by
          simp [write]
        have hblank : (l.newLine (level + 1)).all isSpace = true := Layout.newLine_blank
        have hvalue := value_object (skipSpace_begins hblank begins_quote) hread
        rw [Entries.ofList_of_once ht.1] at hvalue
        rw [htext]
        exact hvalue

theorem items_write (hl : l.Regular) : ∀ (fuel level : Nat) (close rest : List Char) {v : Value}
    {vs : List Value}, (Value.list (v :: vs)).Tidy → Value.allWritable (v :: vs) = true →
    close.all isSpace = true → (write l level v ++ writeItems l level vs).length < fuel →
    items fuel (write l level v ++ (writeItems l level vs ++ (close ++ ']' :: rest))) =
      .ok (v :: vs, rest)
  | 0, _, _, _, _, _, _, _, _, hfuel => absurd hfuel (Nat.not_lt_zero _)
  | fuel + 1, level, close, rest, v, vs, ht, hv, hs, hfuel => by
    obtain ⟨hv, hvs⟩ := Bool.and_eq_true_iff.1 hv
    have hended : Ended (writeItems l level vs ++ (close ++ ']' :: rest)) := ended_items hl hs
    have hvalue := value_write hl fuel level ht.1 hv hended (by
      rw [List.length_append] at hfuel
      omega)
    cases vs with
    | nil =>
      have hclose : skipSpace (close ++ ']' :: rest) = ']' :: rest := skipSpace_append hs
      exact items_last hvalue hclose
    | cons w vs =>
      obtain ⟨blank, hitem, hblank⟩ := hl.item
      have hread := items_write hl fuel level close rest ht.2 hvs hs (by
        simp only [writeItems, hitem, List.length_cons, List.length_append] at hfuel ⊢
        omega)
      have hw : w.isWritable = true := (Bool.and_eq_true_iff.1 hvs).1
      have hended' : Ended (writeItems l level vs ++ (close ++ ']' :: rest)) := ended_items hl hs
      have hb := begins_write (l := l) level hw hended'
      have hskip : skipSpace (blank ++ (l.newLine level ++ (write l level w ++
          (writeItems l level vs ++ (close ++ ']' :: rest))))) = write l level w ++
          (writeItems l level vs ++ (close ++ ']' :: rest)) := by
        rw [skipSpace_append hblank, skipSpace_begins Layout.newLine_blank hb]
      have hcomma : skipSpace (writeItems l level (w :: vs) ++ (close ++ ']' :: rest)) =
          ',' :: (blank ++ (l.newLine level ++ (write l level w ++
            (writeItems l level vs ++ (close ++ ']' :: rest))))) := by
        simp only [writeItems, hitem, List.cons_append, List.append_assoc]
        exact skipSpace_cons rfl
      exact items_next hvalue hcomma (by rw [hskip, hread])

theorem fields_write (hl : l.Regular) : ∀ (fuel level : Nat) (close rest : List Char) {k : String}
    {v : Value} {fs : List (String × Value)}, Value.FieldsTidy ((k, v) :: fs) →
    Value.allFieldsWritable ((k, v) :: fs) = true → close.all isSpace = true →
    (quote k ++ l.afterKey.toList ++ write l level v ++ writeFields l level fs).length < fuel →
    fields fuel (quote k ++ (l.afterKey.toList ++ (write l level v ++
      (writeFields l level fs ++ (close ++ '\x7d' :: rest))))) = .ok ((k, v) :: fs, rest)
  | 0, _, _, _, _, _, _, _, _, _, hfuel => absurd hfuel (Nat.not_lt_zero _)
  | fuel + 1, level, close, rest, k, v, fs, ht, hv, hs, hfuel => by
    obtain ⟨hv, hvs⟩ := Bool.and_eq_true_iff.1 hv
    obtain ⟨colonBlank, hkey, hcolonBlank⟩ := hl.key
    have hended : Ended (writeFields l level fs ++ (close ++ '\x7d' :: rest)) := ended_fields hl hs
    have hvalue := value_write hl fuel level ht.1 hv hended (by
      simp only [List.length_append] at hfuel
      omega)
    rw [← skipSpace_begins hcolonBlank (begins_write level hv hended)] at hvalue
    have hcolon : skipSpace (l.afterKey.toList ++ (write l level v ++
        (writeFields l level fs ++ (close ++ '\x7d' :: rest)))) = ':' :: (colonBlank ++
        (write l level v ++ (writeFields l level fs ++ (close ++ '\x7d' :: rest)))) := by
      rw [hkey]
      exact skipSpace_cons rfl
    cases fs with
    | nil =>
      have hclose : skipSpace (close ++ '\x7d' :: rest) = '\x7d' :: rest := skipSpace_append hs
      exact fields_last (quoted_quote k) hcolon hvalue hclose
    | cons f fs =>
      obtain ⟨k', w⟩ := f
      obtain ⟨blank, hitem, hblank⟩ := hl.item
      have hread := fields_write hl fuel level close rest ht.2 hvs hs (by
        simp only [writeFields, hitem, List.length_cons, List.length_append] at hfuel ⊢
        omega)
      have hskip : skipSpace (blank ++ (l.newLine level ++ (quote k' ++ (l.afterKey.toList ++
          (write l level w ++ (writeFields l level fs ++ (close ++ '\x7d' :: rest))))))) =
          quote k' ++ (l.afterKey.toList ++ (write l level w ++
            (writeFields l level fs ++ (close ++ '\x7d' :: rest)))) := by
        rw [skipSpace_append hblank,
          skipSpace_begins Layout.newLine_blank begins_quote]
      have hcomma : skipSpace (writeFields l level ((k', w) :: fs) ++ (close ++ '\x7d' :: rest)) =
          ',' :: (blank ++ (l.newLine level ++ (quote k' ++ (l.afterKey.toList ++
            (write l level w ++ (writeFields l level fs ++ (close ++ '\x7d' :: rest))))))) := by
        simp only [writeFields, hitem, List.cons_append, List.append_assoc]
        exact skipSpace_cons rfl
      exact fields_next (quoted_quote k) hcolon hvalue hcomma (by rw [hskip, hread])

end

/-! ### Documents -/

/-- A document is read back to the value it was written from. -/
theorem read_render {document : String} (hl : l.Regular) (hv : v.Tidy)
    (h : render l v = .ok document) : read document = .ok v := by
  unfold render at h
  split at h
  · rename_i hw
    cases h
    have hb := begins_write (l := l) 0 hw Ended.nil
    have hread := value_write hl _ 0 hv hw Ended.nil (Nat.le_succ (write l 0 v).length)
    rw [List.append_nil] at hb hread
    have hskip : skipSpace (write l 0 v) = write l 0 v := skipSpace_begins (s := []) rfl hb
    unfold read document
    rw [String.toList_ofList]
    split
    · rename_i htext
      rw [htext] at hb
      exact absurd rfl (hb.mark _ rfl)
    · rw [hskip]
      simp only [hread]
      rfl
  · cases h

end StoryState.Json
