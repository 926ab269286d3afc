import StoryState.Directive.Preview
import StoryState.Proofs.Directive.Refusal
import StoryState.Proofs.Directive.WrittenChange

/-!
Texts in which directives neither nest nor cross. A text is `Directive.Level` if it can be cut into
pieces that every form of a directive either overlooks or reads as a whole. The forms then do not get
into each other's way: in whatever order they are run, each cuts out the pieces that it reads
(`Text.foldl_cutOut`). A level text without its directives is what is left when they are carried out,
registrations first, if no declaration is refused and nothing is decoded twice
(`Directive.strip_eq_cleanText`); a text that decodes to an escaped directive shows that the second
decoding matters.
-/

namespace StoryState

open StoryState.Text StoryState.Directive

/-! ### Cutting out -/

namespace Text

section CuttingOut

variable {α : Type} {scan : Scanner α} {raw s : List Char}

/-- The text without the matches of a scanner. -/
def cutOut (scan : Scanner α) (s : List Char) : List Char := substitute scan (fun _ _ => []) s

/-- The scanner overlooks the piece or reads all of it, whatever follows. -/
def Settles (scan : Scanner Unit) (raw : List Char) : Prop := Overlooks scan raw ∨ Finds scan raw ()

theorem Overlooks.forget (h : Overlooks scan raw) : Overlooks (forget scan) raw := by
  induction raw with
  | nil => trivial
  | cons c raw ih => exact ⟨fun rest => Option.map_eq_none_iff.2 (h.1 rest), ih h.2⟩

theorem Finds.forget {a : α} (h : Finds scan raw a) : Finds (forget scan) raw () :=
  ⟨h.ne_nil, fun rest => by simp [Directive.forget, h.reads rest]⟩

theorem Finds.not_overlooks {a : α} (h : Finds scan raw a) : ¬Overlooks scan raw := by
  obtain ⟨hne, hreads⟩ := h
  intro hover
  cases raw with
  | nil => exact hne rfl
  | cons c raw =>
    have hnone : scan (c :: (raw ++ [])) = none := hover.1 []
    have hsome : scan (c :: (raw ++ [])) = some (a, []) := hreads []
    rw [hnone] at hsome
    cases hsome

open Classical in
/-- The pieces that no one of the scanners finds anything in. -/
noncomputable def leftBy (scans : List (Scanner Unit)) (pieces : List (List Char)) :
    List (List Char) :=
  pieces.filter fun raw => ∀ scan ∈ scans, Overlooks scan raw

theorem mem_leftBy {scans : List (Scanner Unit)} {pieces : List (List Char)} :
    raw ∈ leftBy scans pieces ↔ raw ∈ pieces ∧ ∀ scan ∈ scans, Overlooks scan raw := by
  simp [leftBy]

theorem leftBy_append (scans scans' : List (Scanner Unit)) (pieces : List (List Char)) :
    leftBy (scans ++ scans') pieces = leftBy scans' (leftBy scans pieces) := by
  simp only [leftBy, List.filter_filter]
  refine List.filter_congr fun raw _ => ?_
  rw [Bool.eq_iff_iff]
  simp only [List.forall_mem_append, Bool.and_eq_true, decide_eq_true_eq]
  exact and_comm

theorem leftBy_comm (scans scans' : List (Scanner Unit)) (pieces : List (List Char)) :
    leftBy scans (leftBy scans' pieces) = leftBy scans' (leftBy scans pieces) := by
  simp only [leftBy, List.filter_filter]
  exact List.filter_congr fun raw _ => Bool.and_comm _ _

/-- A scanner that settles every piece cuts out those that it reads. -/
theorem cutOut_flatten {scan : Scanner Unit} {pieces : List (List Char)}
    (h : ∀ raw ∈ pieces, Settles scan raw) :
    cutOut scan pieces.flatten = (leftBy [scan] pieces).flatten := by
  induction pieces with
  | nil => rfl
  | cons raw pieces ih =>
    have ih := ih fun raw' hraw' => h raw' (by simp [hraw'])
    rw [List.flatten_cons, cutOut]
    rcases h raw (by simp) with hover | hfinds
    · have hkeep : leftBy [scan] (raw :: pieces) = raw :: leftBy [scan] pieces :=
        List.filter_cons_of_pos (by simpa using hover)
      rw [substitute_overlooked hover, hkeep, List.flatten_cons]
      exact congrArg (raw ++ ·) ih
    · have hdrop : leftBy [scan] (raw :: pieces) = leftBy [scan] pieces :=
        List.filter_cons_of_neg (by simpa using hfinds.not_overlooks)
      rw [substitute_found hfinds, hdrop]
      exact ih

/-- Scanners that settle every piece cut out those that they read, one scanner after another. -/
theorem foldl_cutOut {scans : List (Scanner Unit)} {pieces : List (List Char)}
    (h : ∀ raw ∈ pieces, ∀ scan ∈ scans, Settles scan raw) :
    scans.foldl (fun s scan => cutOut scan s) pieces.flatten = (leftBy scans pieces).flatten := by
  induction scans generalizing pieces with
  | nil => simp [leftBy]
  | cons scan scans ih =>
    have hfirst : ∀ raw ∈ pieces, Settles scan raw := fun raw hraw => h raw hraw scan (by simp)
    have hrest : ∀ raw ∈ leftBy [scan] pieces, ∀ scan' ∈ scans, Settles scan' raw := by
      intro raw hraw scan' hscan'
      exact h raw (mem_leftBy.1 hraw).1 scan' (by simp [hscan'])
    rw [List.foldl_cons, cutOut_flatten hfirst, ih hrest, ← leftBy_append]
    rfl

/-- What a scanner leaves are the characters outside its matches. -/
theorem cutOut_eq_between (scan : Scanner α) (s : List Char) :
    cutOut scan s = between (segments scan s) := by
  unfold cutOut substitute
  induction segments scan s with
  | nil => rfl
  | cons g segs ih =>
    cases g with
    | plain c => exact congrArg (c :: ·) ih
    | hit raw a => exact ih

/-- A scanner that forgets what it reads cuts out the same. -/
theorem cutOut_forget (scan : Scanner α) (s : List Char) :
    cutOut (forget scan) s = cutOut scan s := by
  suffices hfrom : ∀ k, between (segmentsFrom (forget scan) k s) = between (segmentsFrom scan k s) by
    rw [cutOut_eq_between, cutOut_eq_between]
    exact hfrom 0
  induction s with
  | nil => intro k; rfl
  | cons c s ih =>
    intro k
    cases k with
    | succ k => exact ih k
    | zero =>
      rw [segmentsFrom, segmentsFrom, forget]
      cases hscan : scan (c :: s) with
      | none => exact congrArg (c :: ·) (ih 0)
      | some found =>
        obtain ⟨a, rest⟩ := found
        exact ih _

end CuttingOut

end Text

/-! ### What is left by batches -/

namespace Batch

section Remains

variable {α : Type} {stays : α → Bool}

/-- What is cut out does not depend on how the directives that are cut out are told from those that
stay. -/
theorem substitute_dropUnless {form : Scanner α} {s : List Char}
    (h : ∀ a ∈ hits form s, stays a = false) : substitute form (dropUnless stays) s = cutOut form s := by
  unfold hits at h
  unfold cutOut substitute
  refine List.flatMap_congr fun g hg => ?_
  cases g with
  | plain c => rfl
  | hit raw a =>
    have ha : stays a = false := h a (List.mem_filterMap.2 ⟨.hit raw a, hg, rfl⟩)
    simp [dropUnless, ha]

/-- If none of the directives stays, the forms leave the text without their matches. -/
theorem remains_eq {forms : List (Scanner α)} {s : List Char}
    (h : ∀ a ∈ agenda stays forms s, stays a = false) :
    remains stays forms s = (forms.map forget).foldl (fun s scan => cutOut scan s) s := by
  induction forms generalizing s with
  | nil => rfl
  | cons form forms ih =>
    rw [agenda] at h
    have hform : substitute form (dropUnless stays) s = cutOut form s :=
      substitute_dropUnless fun a ha => h a (List.mem_append_left _ ha)
    rw [remains, ih fun a ha => h a (List.mem_append_right _ ha), hform, List.map_cons,
      List.foldl_cons, cutOut_forget]

/-- The text of a batch that goes through is what its forms leave. -/
theorem cleanText_of_run {forms : List (Scanner α)} {act : α → BatchM Unit} {text : String}
    {s : State} {r : BatchResult}
    (h : (run forms (fun raw a => do act a; return dropUnless stays raw a) text s).1 = .ok r) :
    r.cleanText = String.ofList (remains stays forms (decodeEntities text.toList)) := by
  rw [run_eq, execute] at h
  generalize ((agenda stays forms (decodeEntities text.toList)).forM act).run { state := s } = p at h
  obtain ⟨outcome, b⟩ := p
  cases outcome with
  | error e => cases h
  | ok u =>
    cases h
    rfl

end Remains

end Batch

/-- The registrations that are found in a text. -/
def Registration.foundIn (names : TagNames) (text : String) : List Registration :=
  Batch.agenda stays (registrationForms names) (decodeEntities text.toList)

theorem State.cleanText_of_applyChanges {names : TagNames} {text : String} {s : State}
    {r : BatchResult} (h : (s.applyChanges names text).1 = .ok r) :
    r.cleanText.toList = ((changeForms names).map forget).foldl (fun s scan => cutOut scan s)
      (decodeEntities text.toList) := by
  rw [State.applyChanges, Batch.change_eq] at h
  rw [Batch.cleanText_of_run h, Batch.remains_eq fun _ _ => rfl, String.toList_ofList]

theorem State.cleanText_of_applyRegistrations {names : TagNames} {text : String} {s : State}
    {r : BatchResult} (accepted : ∀ reg ∈ Registration.foundIn names text, reg.stays = false)
    (h : (s.applyRegistrations names text).1 = .ok r) :
    r.cleanText.toList = ((registrationForms names).map forget).foldl (fun s scan => cutOut scan s)
      (decodeEntities text.toList) := by
  rw [State.applyRegistrations, Batch.register_eq] at h
  rw [Batch.cleanText_of_run h, Batch.remains_eq accepted, String.toList_ofList]

namespace Directive

/-! ### Level texts -/

/-- The text is cut into pieces that every form overlooks or reads as a whole. -/
def Level (names : TagNames) (s : List Char) : Prop :=
  ∃ pieces : List (List Char), s = pieces.flatten ∧
    ∀ raw ∈ pieces, ∀ form ∈ allForms names, Settles form raw

/-! ### Written directives -/

/-- A change or a registration as it is written. -/
def DirectiveText (names : TagNames) : Change ⊕ Registration → List Char → Prop :=
  Sum.elim (ChangeText names) (RegistrationText names)

section Written

variable {α β : Type} {names : TagNames} {raw : List Char}

theorem changeForms_heed :
    List.Forall₂ (fun form k => Heeds form (names k.tag) k.bare) (changeForms names) changeHeads :=
  .cons heeds_setVariable <| .cons heeds_block.map <| .cons heeds_setCells <| .cons heeds_addRow <|
    .cons heeds_removeRow <| .cons heeds_setHidden .nil

theorem registrationForms_heed :
    List.Forall₂ (fun form k => Heeds form (names k.tag) k.bare) (registrationForms names)
      registrationHeads :=
  .cons heeds_variableFields.map <| .cons heeds_block.map <| .cons heeds_hiddenFields.map <|
    .cons heeds_newTable <| .cons heeds_nameOnly.map <| .cons heeds_block.map <|
    .cons heeds_nameOnly.map <| .cons heeds_nameOnly.map .nil

/-- What holds of all forms of a list with their heads holds of each form. -/
theorem forall_forms {forms : List (Scanner α)} {heads : List Head} {R : Scanner α → Head → Prop}
    (h : List.Forall₂ R forms heads) {P : Scanner Unit → Prop}
    (hP : ∀ form, ∀ k ∈ heads, R form k → P (forget form)) : ∀ form ∈ forms.map forget, P form := by
  induction h with
  | nil => simp
  | cons hR hRs ih =>
    intro form hform
    rw [List.map_cons, List.mem_cons] at hform
    rcases hform with rfl | hform
    · exact hP _ _ (by simp) hR
    · exact ih (fun form k hk => hP form k (by simp [hk])) form hform

theorem settles_of_readBy {form : Scanner α} {found : α → Bool} {a : α}
    (h : (Segment.hit raw a).ReadBy form found) : Settles (forget form) raw := by
  rw [Segment.ReadBy] at h
  split at h
  · exact .inr h.forget
  · exact .inl h.forget

theorem Headed.settles {form : Scanner α} {h k : Head} (headed : Headed names h raw)
    (heeds : Heeds form (names k.tag) k.bare) (hne : h ≠ k) : Settles (forget form) raw :=
  .inl (headed.overlooked heeds.map hne)

theorem Heeds.settles_plain {form : Scanner α} {tag : String} {bare : Bool} {c : Char}
    {written : β → List Char → Prop} (heeds : Heeds form tag bare) (hc : Legible written (.plain c)) :
    Settles (forget form) [c] := .inl (heeds.map.atTags.overlooks_plain hc)

/-- A text of written directives with other text between them is level. -/
theorem level_textOf (plain : names.Plain) (noItem : ∀ t, names t ≠ itemTag)
    {segs : List (Segment (Change ⊕ Registration))}
    (legible : ∀ g ∈ segs, Legible (DirectiveText names) g) : Level names (textOf segs) := by
  have changeElsewhere : ∀ (c : Change), ∀ k ∈ registrationHeads, c.head ≠ k := by
    intro c
    cases c <;> simp [Change.head, registrationHeads]
  have registrationElsewhere : ∀ (r : Registration), ∀ k ∈ changeHeads, r.head ≠ k := by
    intro r
    cases r <;> simp [Registration.head, changeHeads]
  refine ⟨segs.map Segment.raw, List.flatMap_def, fun raw hraw => List.forall_mem_append.2 ?_⟩
  obtain ⟨g, hg, rfl⟩ := List.mem_map.1 hraw
  have hlegible := legible g hg
  cases g with
  | plain c =>
    exact ⟨forall_forms changeForms_heed fun form k _ heeds => heeds.settles_plain hlegible,
      forall_forms registrationForms_heed fun form k _ heeds => heeds.settles_plain hlegible⟩
  | hit raw a =>
    cases a with
    | inl c =>
      refine ⟨forall_forms (changeForms_read plain) fun form k _ reads => ?_,
        forall_forms registrationForms_heed fun form k hk heeds => ?_⟩
      · exact settles_of_readBy (reads (.hit raw c) hlegible)
      · exact (headed_change plain hlegible).settles heeds (changeElsewhere c k hk)
    | inr r =>
      refine ⟨forall_forms changeForms_heed fun form k hk heeds => ?_,
        forall_forms (registrationForms_read plain noItem) fun form k _ reads => ?_⟩
      · exact (headed_registration plain noItem hlegible).settles heeds (registrationElsewhere r k hk)
      · exact settles_of_readBy (reads (.hit raw r) hlegible)

end Written

/-! ### What is left -/

/-- What the directives leave of a level text when they are carried out, registrations first, is the
text without its directives, if no declaration is refused and nothing is left to be decoded again. -/
theorem strip_eq_cleanText {names : TagNames} {text : String} {s : State} {r r' : BatchResult}
    (level : Level names (decodeEntities text.toList))
    (accepted : ∀ reg ∈ Registration.foundIn names text, reg.stays = false)
    (registered : (s.applyRegistrations names text).1 = .ok r)
    (decoded : decodeEntities r.cleanText.toList = r.cleanText.toList)
    (changed : ((s.applyRegistrations names text).2.applyChanges names r.cleanText).1 = .ok r') :
    strip names text = r'.cleanText := by
  obtain ⟨pieces, htext, hsettles⟩ := level
  have hchanges : ∀ raw ∈ pieces, ∀ form ∈ (changeForms names).map forget, Settles form raw :=
    fun raw hraw form hform => hsettles raw hraw form (List.mem_append_left _ hform)
  have hregistrations : ∀ raw ∈ pieces, ∀ form ∈ (registrationForms names).map forget,
      Settles form raw :=
    fun raw hraw form hform => hsettles raw hraw form (List.mem_append_right _ hform)
  have hstrip : strip names text = String.ofList (leftBy (allForms names) pieces).flatten := by
    rw [strip, htext]
    exact congrArg String.ofList (foldl_cutOut hsettles)
  have hleft : r.cleanText.toList =
      (leftBy ((registrationForms names).map forget) pieces).flatten := by
    rw [State.cleanText_of_applyRegistrations accepted registered, htext,
      foldl_cutOut hregistrations]
  have hclean : r'.cleanText.toList = (leftBy ((changeForms names).map forget)
      (leftBy ((registrationForms names).map forget) pieces)).flatten := by
    rw [State.cleanText_of_applyChanges changed, decoded, hleft, foldl_cutOut]
    exact fun raw hraw => hchanges raw (mem_leftBy.1 hraw).1
  rw [hstrip, allForms, leftBy_append, leftBy_comm, ← hclean, String.ofList_toList]

/-! A registration and a change with text around them, and a change beside the escaped spelling of
another one. -/

/-- A variable that is registered and then added to, with text around. -/
def mixedDirectives : List (Segment (Change ⊕ Registration)) :=
  [.plain 'a', .hit "<setVar>x += 1</setVar>".toList (.inl (.assign "x += 1")), .plain 'b',
    .hit "<registerVar name=\"x\" type=\"number\" initVal=\"1\"/>".toList
      (.inr (.newVariable ⟨"x", "number", "1", none⟩)), .plain 'c']

theorem level_mixedDirectives : Level .standard (textOf mixedDirectives) := by
  have slash : EndText ['/', '>'] ['/', '>'] := @EndText.intro _ [] (by decide)
  have hx : VariableText "registerVar" ⟨"x", "number", "1", none⟩ _ :=
    .intro (by decide) (by decide) (.spaced (by decide)) (.spaced (by decide)) (.spaced (by decide))
      .absent slash
  refine level_textOf TagNames.plain_standard standard_ne_itemTag ?_
  simp only [mixedDirectives, List.forall_mem_cons, List.not_mem_nil, false_implies, implies_true,
    and_true]
  exact ⟨⟨by decide, by decide⟩, .assign (by decide), ⟨by decide, by decide⟩, .newVariable hx,
    ⟨by decide, by decide⟩⟩

theorem exists_of_cleanText (outcome : Except Fault BatchResult) (text : String)
    (h : outcome.toOption.map (·.cleanText) = some text) : ∃ r, outcome = .ok r ∧ r.cleanText = text := by
  cases outcome with
  | error e => cases h
  | ok r => exact ⟨r, rfl, Option.some.inj h⟩

theorem strip_eq_cleanText_mixed :
    let text := String.ofList (textOf mixedDirectives)
    ∃ r r', Level .standard (decodeEntities text.toList) ∧
      (∀ reg ∈ Registration.foundIn .standard text, reg.stays = false) ∧
      (State.applyRegistrations .standard text {}).1 = .ok r ∧
      decodeEntities r.cleanText.toList = r.cleanText.toList ∧
      ((State.applyRegistrations .standard text {}).2.applyChanges .standard r.cleanText).1 = .ok r' ∧
      strip .standard text = r'.cleanText := by
  intro text
  have hlevel : Level .standard (decodeEntities text.toList) := by
    have hdecoded : decodeEntities text.toList = textOf mixedDirectives := by decide +kernel
    exact hdecoded ▸ level_mixedDirectives
  have haccepted : ∀ reg ∈ Registration.foundIn .standard text, reg.stays = false := by decide +kernel
  obtain ⟨r, hr, hclean⟩ := exists_of_cleanText (State.applyRegistrations .standard text {}).1
    "a<setVar>x += 1</setVar>bc" (by decide +kernel)
  have hdecoded : decodeEntities r.cleanText.toList = r.cleanText.toList := by
    rw [hclean]
    decide +kernel
  obtain ⟨r', hr', -⟩ := exists_of_cleanText
    ((State.applyRegistrations .standard text {}).2.applyChanges .standard
      "a<setVar>x += 1</setVar>bc").1 "abc" (by decide +kernel)
  rw [← hclean] at hr'
  exact ⟨r, r', hlevel, haccepted, hr, hdecoded, hr',
    strip_eq_cleanText hlevel haccepted hr hdecoded hr'⟩

/-- A change, and behind it the spelling of another one with its entities escaped. -/
def escapedDirective : String :=
  "<setVar>b=2</setVar>&amp;lt;setVar&amp;gt;a=1&amp;lt;/setVar&amp;gt;"

/-- Without its directives the text shows the spelling; carried out it is a directive. -/
theorem strip_ne_cleanText_escaped :
    ∃ r r', (State.applyRegistrations .standard escapedDirective {}).1 = .ok r ∧
      ((State.applyRegistrations .standard escapedDirective {}).2.applyChanges .standard
        r.cleanText).1 = .ok r' ∧
      (∀ reg ∈ Registration.foundIn .standard escapedDirective, reg.stays = false) ∧
      strip .standard escapedDirective ≠ r'.cleanText := by
  obtain ⟨r, hr, hclean⟩ := exists_of_cleanText
    (State.applyRegistrations .standard escapedDirective {}).1
    "<setVar>b=2</setVar>&lt;setVar&gt;a=1&lt;/setVar&gt;" (by decide +kernel)
  obtain ⟨r', hr', hclean'⟩ := exists_of_cleanText
    ((State.applyRegistrations .standard escapedDirective {}).2.applyChanges .standard
      "<setVar>b=2</setVar>&lt;setVar&gt;a=1&lt;/setVar&gt;").1 "" (by decide +kernel)
  have hstrip : strip .standard escapedDirective = "&lt;setVar&gt;a=1&lt;/setVar&gt;" := by
    decide +kernel
  refine ⟨r, r', hr, hclean ▸ hr', by decide +kernel, ?_⟩
  rw [hstrip, hclean']
  decide

end Directive

end StoryState
