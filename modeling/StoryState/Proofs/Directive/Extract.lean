import StoryState.Proofs.Directive.Renaming

/-!
The list of the directives of a text. Every form reads something and goes on behind it
(`Directive.allForms_consume`), so its matches are those of a scan from left to right
(`Directive.scanned_iff`). Of the matches of all forms, sorted by their places, a sweep keeps those that
begin where the one kept last has ended; it keeps matches that do not overlap, and one with which any other
match overlaps (`Directive.exists_meets_of_mem`). So the list is an ordered and maximal selection of
matches that are apart (`Directive.extract_selects`).
-/

namespace StoryState

open StoryState.Text

namespace Directive

/-! ### What is left by parts of a directive -/

section Suffixes

variable {n s r : List Char} {quote : Char} {key tag value : String}

theorem suffix_of_dropLead? (h : dropLead? n s = some r) : r <:+ s := ⟨n, (dropLead?_eq_some_iff.1 h).symm⟩

theorem suffix_of_quoted? (h : quoted? quote s = some (value, r)) : r <:+ s := by
  obtain ⟨c, rfl⟩ := eq_of_quoted? h
  exact ⟨quote :: (value.toList ++ [c]), by simp⟩

theorem suffix_of_quotedNonEmpty? (h : quotedNonEmpty? quote s = some (value, r)) : r <:+ s := by
  unfold quotedNonEmpty? at h
  split at h
  · cases h
  · cases h
  · rename_i hquoted
    cases h
    exact suffix_of_quoted? hquoted

theorem suffix_of_attributeName? (h : attributeName? key s = some r) : r <:+ s := by
  obtain ⟨t, hblanks, hlead⟩ := Option.bind_eq_some_iff.1 h
  exact (suffix_of_dropLead? hlead).trans (suffix_of_skipBlanks1? hblanks)

theorem suffix_of_attribute? (h : attribute? key s = some (value, r)) : r <:+ s := by
  obtain ⟨t, hname, hquoted⟩ := Option.bind_eq_some_iff.1 h
  exact (suffix_of_quoted? hquoted).trans (suffix_of_attributeName? hname)

theorem suffix_of_attributeNonEmpty? (h : attributeNonEmpty? key s = some (value, r)) : r <:+ s := by
  obtain ⟨t, hname, hquoted⟩ := Option.bind_eq_some_iff.1 h
  exact (suffix_of_quotedNonEmpty? hquoted).trans (suffix_of_attributeName? hname)

theorem suffix_of_attributeEither? {read : Char → Scanner String}
    (hread : ∀ {quote t value r}, read quote t = some (value, r) → r <:+ t)
    (h : attributeEither? key read s = some (value, r)) : r <:+ s := by
  obtain ⟨t, hname, heither⟩ := Option.bind_eq_some_iff.1 h
  refine List.IsSuffix.trans ?_ (suffix_of_attributeName? hname)
  cases hdouble : read '"' t with
  | some found =>
    rw [hdouble] at heither
    cases heither
    exact hread hdouble
  | none =>
    rw [hdouble] at heither
    exact hread heither

theorem suffix_of_tagEnd? (h : tagEnd? n s = some r) : r <:+ s :=
  (suffix_of_dropLead? h).trans (List.dropWhile_suffix _)

theorem suffix_of_content? (h : content? tag s = some (value, r)) : r <:+ s := by
  obtain ⟨⟨content, rest⟩, hcut, heq⟩ := Option.map_eq_some_iff.1 h
  cases heq
  exact ⟨content ++ closing tag, by rw [List.append_assoc, ← eq_of_cutAt? hcut]⟩

theorem suffix_of_ignoringEnd? (h : ignoringEnd? tag s = some r) : r <:+ s := by
  unfold ignoringEnd? at h
  split at h
  · cases h
  · rename_i c rest hdrop
    have hrest : rest <:+ s := (List.suffix_cons c rest).trans (hdrop ▸ List.dropWhile_suffix _)
    split at h
    · cases h
      exact hrest
    · obtain ⟨⟨content, t⟩, hcontent, heq⟩ := Option.map_eq_some_iff.1 h
      cases heq
      exact (suffix_of_content? hcontent).trans hrest

end Suffixes

/-! ### Forms read something -/

section Consuming

variable {α β : Type} {tag : String} {names : TagNames} {scan : Scanner α}

/-- What the scanner finds stands at the head of the text and is not empty. -/
def Consumes (scan : Scanner α) : Prop :=
  ∀ s a rest, scan s = some (a, rest) → ∃ raw, raw ≠ [] ∧ s = raw ++ rest

/-- What begins with the opening of a tag and leaves an end of the text. -/
theorem consumes_opening {next : List Char → Option (α × List Char)}
    (h : ∀ t a rest, next t = some (a, rest) → rest <:+ t) :
    Consumes fun s => (opening? tag s).bind next := by
  intro s a rest hscan
  obtain ⟨t, hopening, hnext⟩ := Option.bind_eq_some_iff.1 hscan
  obtain ⟨front, rfl⟩ := h t a rest hnext
  exact ⟨opened tag front, opened_ne_nil tag front, by
    rw [opened_append]
    exact dropLead?_eq_some_iff.1 hopening⟩

theorem Consumes.map {f : α × List Char → β × List Char} (h : Consumes scan) (hf : ∀ p, (f p).2 = p.2) :
    Consumes fun s => (scan s).map f := by
  intro s b rest hscan
  obtain ⟨⟨a, rest'⟩, hfound, heq⟩ := Option.map_eq_some_iff.1 hscan
  have hrest : (b, rest).2 = rest' := heq ▸ hf (a, rest')
  obtain rfl : rest = rest' := hrest
  exact h s a rest hfound

theorem consumes_variableFields : Consumes (variableFields? tag) := by
  refine consumes_opening fun t a rest h => ?_
  simp only [Option.bind_eq_bind, Option.bind_eq_some_iff, Option.pure_def] at h
  obtain ⟨⟨name, s₁⟩, h₁, ⟨declared, s₂⟩, h₂, ⟨initial, s₃⟩, h₃, s₄, h₄, heq⟩ := h
  cases heq
  have hinitial := (suffix_of_attribute? h₃).trans
    ((suffix_of_attributeNonEmpty? h₂).trans (suffix_of_attributeNonEmpty? h₁))
  have hcases : rest <:+ s₃ := by
    refine (suffix_of_tagEnd? h₄).trans ?_
    split
    · exact suffix_of_attributeEither? suffix_of_quoted? ‹_›
    · exact List.suffix_rfl
  exact hcases.trans hinitial

theorem consumes_hiddenFields : Consumes (hiddenFields? tag) := by
  refine consumes_opening fun t a rest h => ?_
  simp only [Option.bind_eq_bind, Option.bind_eq_some_iff, Option.pure_def] at h
  obtain ⟨⟨name, s₁⟩, h₁, ⟨condition, s₂⟩, h₂, s₃, h₃, ⟨content, s₄⟩, h₄, heq⟩ := h
  cases heq
  have hcondition := (suffix_of_attributeNonEmpty? h₂).trans (suffix_of_attributeNonEmpty? h₁)
  have hexpires : s₃ <:+ s₂ := by
    refine (suffix_of_tagEnd? h₃).trans ?_
    split
    · exact suffix_of_attribute? ‹_›
    · exact suffix_of_attribute? ‹_›
    · exact List.suffix_rfl
  exact (suffix_of_content? h₄).trans (hexpires.trans hcondition)

theorem consumes_nameOnly : Consumes (nameOnly? tag) := by
  refine consumes_opening fun t a rest h => ?_
  simp only [Option.bind_eq_bind, Option.bind_eq_some_iff, Option.pure_def] at h
  obtain ⟨⟨name, s₁⟩, h₁, s₂, h₂, heq⟩ := h
  cases heq
  exact (suffix_of_tagEnd? h₂).trans (suffix_of_attributeNonEmpty? h₁)

theorem consumes_block : Consumes (block? tag) := by
  refine consumes_opening fun t a rest h => ?_
  obtain ⟨s₁, h₁, h₂⟩ := Option.bind_eq_some_iff.1 h
  exact (suffix_of_content? h₂).trans (suffix_of_dropLead? h₁)

theorem consumes_setVariable : Consumes (setVariable? tag) := by
  refine consumes_opening fun t a rest h => ?_
  simp only [Option.bind_eq_bind, Option.bind_eq_some_iff, Option.pure_def] at h
  obtain ⟨⟨name, s₁⟩, h₁, ⟨value, s₂⟩, h₂, s₃, h₃, heq⟩ := h
  cases heq
  exact (suffix_of_ignoringEnd? h₃).trans ((suffix_of_attribute? h₂).trans (suffix_of_attributeNonEmpty? h₁))

theorem consumes_setCells : Consumes (setCells? tag) := by
  refine consumes_opening fun t a rest h => ?_
  simp only [Option.bind_eq_bind, Option.bind_eq_some_iff, Option.pure_def] at h
  obtain ⟨⟨table, s₁⟩, h₁, ⟨row, s₂⟩, h₂, s₃, h₃, ⟨content, s₄⟩, h₄, heq⟩ := h
  cases heq
  have hrow := (suffix_of_attributeNonEmpty? h₂).trans (suffix_of_attributeNonEmpty? h₁)
  exact (suffix_of_content? h₄).trans ((suffix_of_tagEnd? h₃).trans hrow)

theorem consumes_addRow : Consumes (addRow? tag) := by
  refine consumes_opening fun t a rest h => ?_
  simp only [Option.bind_eq_bind, Option.bind_eq_some_iff, Option.pure_def] at h
  obtain ⟨⟨table, s₁⟩, h₁, s₂, h₂, ⟨content, s₃⟩, h₃, heq⟩ := h
  cases heq
  exact (suffix_of_content? h₃).trans ((suffix_of_tagEnd? h₂).trans (suffix_of_attributeNonEmpty? h₁))

theorem consumes_removeRow : Consumes (removeRow? tag) := by
  refine consumes_opening fun t a rest h => ?_
  simp only [Option.bind_eq_bind, Option.bind_eq_some_iff, Option.pure_def] at h
  obtain ⟨⟨table, s₁⟩, h₁, ⟨row, s₂⟩, h₂, h₃⟩ := h
  have hrow := (suffix_of_attributeNonEmpty? h₂).trans (suffix_of_attributeNonEmpty? h₁)
  refine List.IsSuffix.trans ?_ hrow
  split at h₃
  · rename_i hslash
    cases h₃
    exact suffix_of_tagEnd? hslash
  · obtain ⟨s₃, hends, heq⟩ := Option.bind_eq_some_iff.1 h₃
    obtain ⟨t, hopen, hclose⟩ := Option.bind_eq_some_iff.1 hends
    cases heq
    exact (suffix_of_tagEnd? hclose).trans (suffix_of_tagEnd? hopen)

theorem consumes_newTable : Consumes (newTable? tag) := by
  refine consumes_opening fun t a rest h => ?_
  simp only [Option.bind_eq_bind, Option.bind_eq_some_iff, Option.pure_def] at h
  obtain ⟨⟨name, s₁⟩, h₁, ⟨columns, s₂⟩, h₂, s₃, h₃, heq⟩ := h
  cases heq
  exact (suffix_of_tagEnd? h₃).trans
    ((suffix_of_attributeEither? suffix_of_quotedNonEmpty? h₂).trans (suffix_of_attributeNonEmpty? h₁))

theorem changeForms_consume : ∀ form ∈ changeForms names, Consumes form := by
  simp only [changeForms, List.forall_mem_cons, List.not_mem_nil, false_implies, implies_true, and_true]
  exact ⟨consumes_setVariable, consumes_block.map fun _ => rfl, consumes_setCells, consumes_addRow, consumes_removeRow,
    consumes_hiddenFields.map fun _ => rfl⟩

theorem registrationForms_consume : ∀ form ∈ registrationForms names, Consumes form := by
  simp only [registrationForms, List.forall_mem_cons, List.not_mem_nil, false_implies, implies_true, and_true]
  exact ⟨consumes_variableFields.map fun _ => rfl, consumes_block.map fun _ => rfl,
    consumes_hiddenFields.map fun _ => rfl, consumes_newTable, consumes_nameOnly.map fun _ => rfl,
    consumes_block.map fun _ => rfl, consumes_nameOnly.map fun _ => rfl, consumes_nameOnly.map fun _ => rfl⟩

theorem allForms_consume : ∀ form ∈ allForms names, Consumes form := by
  intro form hform
  rcases List.mem_append.1 hform with hform | hform <;> obtain ⟨typed, htyped, rfl⟩ := List.mem_map.1 hform
  · exact (changeForms_consume typed htyped).map fun _ => rfl
  · exact (registrationForms_consume typed htyped).map fun _ => rfl

end Consuming

/-! ### Scanning from left to right -/

section Scanning

variable {α : Type} {scan : Scanner α} {i : Nat} {s : List Char} {os : List Occurrence} {o : Occurrence}

/-- The matches that a scanner finds from left to right in a text which begins at a place: where it finds
nothing, it goes on with the next character, else behind what it has found. -/
inductive Scanned (scan : Scanner α) : Nat → List Char → List Occurrence → Prop
  | nil (i : Nat) : Scanned scan i [] []
  | plain {i : Nat} {c : Char} {s : List Char} {os : List Occurrence} (silent : scan (c :: s) = none)
    (more : Scanned scan (i + 1) s os) : Scanned scan i (c :: s) os
  | hit {i : Nat} {raw rest : List Char} {a : α} {os : List Occurrence} (ne_nil : raw ≠ [])
    (found : scan (raw ++ rest) = some (a, rest)) (more : Scanned scan (i + raw.length) rest os) :
    Scanned scan i (raw ++ rest) (⟨i, i + raw.length, raw⟩ :: os)

theorem scanned_segments (h : Consumes scan) (i : Nat) (s : List Char) :
    Scanned scan i s (occurrencesFrom i (segments scan s)) := by
  -- by the length of the text, as a match is passed over as a whole
  induction hn : s.length using Nat.strong_induction_on generalizing i s with
  | _ n ih =>
    subst hn
    cases s with
    | nil => exact .nil i
    | cons c s =>
      cases hscan : scan (c :: s) with
      | none =>
        rw [segments_cons hscan]
        exact .plain hscan (ih s.length (Nat.lt_succ_self _) (i + 1) s rfl)
      | some found =>
        obtain ⟨a, rest⟩ := found
        obtain ⟨raw, hraw, heq⟩ := h _ a rest hscan
        have hlen : rest.length < (c :: s).length := by
          have hpos := List.length_pos_iff.2 hraw
          rw [heq, List.length_append]
          omega
        rw [heq] at hscan ⊢
        rw [segments_hit hraw hscan]
        exact .hit hraw hscan (ih rest.length hlen _ rest rfl)

theorem Scanned.eq_occurrencesFrom (h : Scanned scan i s os) : os = occurrencesFrom i (segments scan s) := by
  induction h with
  | nil i => rfl
  | plain hnone _ ih =>
    rw [segments_cons hnone]
    exact ih
  | hit hraw hfound _ ih =>
    rw [segments_hit hraw hfound, occurrencesFrom, ← ih]

/-- The matches of a scanner that reads something are those of one scan. -/
theorem scanned_iff (h : Consumes scan) : Scanned scan i s os ↔ os = occurrencesFrom i (segments scan s) :=
  ⟨Scanned.eq_occurrencesFrom, fun heq => heq ▸ scanned_segments h i s⟩

/-- The match stands at its places in the text, and is not empty. -/
structure Occurrence.InText (o : Occurrence) (i : Nat) (s : List Char) : Prop where
  ne_nil : o.raw ≠ []
  stop_eq : o.stop = o.start + o.raw.length
  text : ∃ front back, s = front ++ o.raw ++ back ∧ o.start = i + front.length

theorem Scanned.inText (h : Scanned scan i s os) (ho : o ∈ os) : o.InText i s := by
  induction h with
  | nil i => cases ho
  | @plain i c s os _ _ ih =>
    obtain ⟨hne, hstop, front, back, rfl, hstart⟩ := ih ho
    refine ⟨hne, hstop, c :: front, back, rfl, ?_⟩
    rw [hstart, List.length_cons]
    omega
  | @hit i raw rest a os hraw _ _ ih =>
    rcases List.mem_cons.1 ho with rfl | ho
    · exact ⟨hraw, rfl, [], rest, rfl, rfl⟩
    · obtain ⟨hne, hstop, front, back, rfl, hstart⟩ := ih ho
      refine ⟨hne, hstop, raw ++ front, back, by simp only [List.append_assoc], ?_⟩
      rw [hstart, List.length_append]
      omega

theorem Occurrence.InText.start_lt_stop (h : o.InText i s) : o.start < o.stop := by
  have hpos := List.length_pos_iff.2 h.ne_nil
  rw [h.stop_eq]
  omega

end Scanning

/-! ### The sweep -/

section Sweep

variable {free : Nat} {l : List Occurrence} {o k : Occurrence}

/-- The matches have a place in common. -/
def Occurrence.Meets (a b : Occurrence) : Prop := a.start < b.stop ∧ b.start < a.stop

/-- The first match ends before the second one begins. -/
def Occurrence.Before (a b : Occurrence) : Prop := a.start < b.start ∧ a.stop ≤ b.start

theorem disjoint_sublist (free : Nat) (l : List Occurrence) : (disjoint free l).Sublist l := by
  induction l generalizing free with
  | nil => exact List.Sublist.refl _
  | cons o l ih =>
    rw [disjoint]
    split
    · exact (ih free).cons o
    · exact (ih o.stop).cons_cons o

theorem free_le_of_mem_disjoint (hl : ∀ o ∈ l, o.start < o.stop) (ho : o ∈ disjoint free l) :
    free ≤ o.start := by
  induction l generalizing free with
  | nil => cases ho
  | cons k l ih =>
    have htail : ∀ o ∈ l, o.start < o.stop := fun o ho => hl o (List.mem_cons_of_mem k ho)
    rw [disjoint] at ho
    split at ho
    · exact ih htail ho
    · rename_i hfree
      rcases List.mem_cons.1 ho with rfl | ho
      · exact Nat.not_lt.1 hfree
      · exact (Nat.not_lt.1 hfree).trans ((hl k List.mem_cons_self).le.trans (ih htail ho))

/-- What is kept is apart, in the order of the text. -/
theorem pairwise_disjoint (hl : ∀ o ∈ l, o.start < o.stop) (free : Nat) :
    (disjoint free l).Pairwise Occurrence.Before := by
  induction l generalizing free with
  | nil => exact List.Pairwise.nil
  | cons o l ih =>
    have htail : ∀ k ∈ l, k.start < k.stop := fun k hk => hl k (List.mem_cons_of_mem o hk)
    rw [disjoint]
    split
    · exact ih htail free
    · refine List.pairwise_cons.2 ⟨fun k hk => ?_, ih htail o.stop⟩
      have hstop : o.stop ≤ k.start := free_le_of_mem_disjoint htail hk
      exact ⟨(hl o List.mem_cons_self).trans_le hstop, hstop⟩

/-- What is not kept begins where nothing is kept any more, or has a place in common with a match that is
kept. -/
theorem exists_meets_of_mem (sorted : l.Pairwise fun a b => a.start ≤ b.start)
    (hl : ∀ o ∈ l, o.start < o.stop) (ho : o ∈ l) (free : Nat) :
    o.start < free ∨ ∃ k ∈ disjoint free l, k.Meets o := by
  induction l generalizing free with
  | nil => cases ho
  | cons p l ih =>
    have htail : ∀ o ∈ l, o.start < o.stop := fun o ho => hl o (List.mem_cons_of_mem p ho)
    rw [disjoint]
    rcases List.mem_cons.1 ho with rfl | hmem
    · split
      · exact .inl ‹_›
      · exact .inr ⟨o, List.mem_cons_self, hl o ho, hl o ho⟩
    · split
      · exact ih sorted.of_cons htail hmem free
      · rcases ih sorted.of_cons htail hmem p.stop with hbefore | ⟨k, hk, hmeets⟩
        · have hstart : p.start ≤ o.start := List.rel_of_pairwise_cons sorted hmem
          exact .inr ⟨p, List.mem_cons_self, hstart.trans_lt (hl o ho), hbefore⟩
        · exact .inr ⟨k, List.mem_cons_of_mem p hk, hmeets⟩

theorem Occurrence.le_trans (a b c : Occurrence) (hab : a.le b = true) (hbc : b.le c = true) :
    a.le c = true := by
  simp only [Occurrence.le, Bool.or_eq_true, Bool.and_eq_true, decide_eq_true_eq, beq_iff_eq] at *
  omega

theorem Occurrence.le_total (a b : Occurrence) : (a.le b || b.le a) = true := by
  simp only [Occurrence.le, Bool.or_eq_true, Bool.and_eq_true, decide_eq_true_eq, beq_iff_eq]
  omega

theorem pairwise_start_mergeSort (l : List Occurrence) :
    (l.mergeSort Occurrence.le).Pairwise fun a b => a.start ≤ b.start := by
  refine (List.pairwise_mergeSort Occurrence.le_trans Occurrence.le_total l).imp fun {a b} h => ?_
  simp only [Occurrence.le, Bool.or_eq_true, Bool.and_eq_true, decide_eq_true_eq, beq_iff_eq] at h
  omega

end Sweep

/-! ### The selection -/

/-- A match that the scan of some form finds in a text. -/
def Matched (forms : List (Scanner Unit)) (s : List Char) (o : Occurrence) : Prop :=
  ∃ form ∈ forms, ∃ os, Scanned form 0 s os ∧ o ∈ os

/-- An ordered and maximal selection of matches in a text that do not overlap. -/
structure Selects (forms : List (Scanner Unit)) (s : List Char) (os : List Occurrence) : Prop where
  matched : ∀ o ∈ os, Matched forms s o ∧ o.InText 0 s
  ordered : os.Pairwise Occurrence.Before
  maximal : ∀ o, Matched forms s o → ∃ k ∈ os, k.Meets o

theorem occurrences_selects (names : TagNames) (s : List Char) :
    Selects (allForms names) s (occurrences names s) := by
  let all := (allForms names).flatMap fun scan => occurrencesFrom 0 (segments scan s)
  have hmem : ∀ o, o ∈ all.mergeSort Occurrence.le ↔ Matched (allForms names) s o := by
    intro o
    rw [(List.mergeSort_perm all _).mem_iff, List.mem_flatMap]
    refine exists_congr fun form => and_congr_right fun hform => ?_
    constructor
    · exact fun ho => ⟨_, scanned_segments (allForms_consume form hform) 0 s, ho⟩
    · rintro ⟨os, hscanned, ho⟩
      rwa [hscanned.eq_occurrencesFrom] at ho
  have htext : ∀ o, Matched (allForms names) s o → o.InText 0 s :=
    fun o ⟨form, _, os, hscanned, ho⟩ => hscanned.inText ho
  have hproper : ∀ o ∈ all.mergeSort Occurrence.le, o.start < o.stop :=
    fun o ho => (htext o ((hmem o).1 ho)).start_lt_stop
  refine ⟨fun o ho => ?_, pairwise_disjoint hproper 0, fun o ho => ?_⟩
  · have hmatched := (hmem o).1 ((disjoint_sublist 0 _).subset ho)
    exact ⟨hmatched, htext o hmatched⟩
  · exact (exists_meets_of_mem (pairwise_start_mergeSort all) hproper ((hmem o).2 ho) 0).resolve_left
      (Nat.not_lt_zero _)

/-- The list of the directives of a text is an ordered and maximal selection of the matches that the scans
of the forms find in the decoded text, in which no two overlap. -/
theorem extract_selects (names : TagNames) (text : String) :
    ∃ os, extract names text = os.map (fun o => String.ofList o.raw) ∧
      Selects (allForms names) (decodeEntities text.toList) os :=
  ⟨_, rfl, occurrences_selects names _⟩

end Directive

end StoryState
