import StoryState.Proofs.Directive.Level

/-!
Texts in which no directive begins. Every form of a directive begins with a tag's name and a border behind
it (`Directive.Heeds.opensHere`), so that in a text without such an opening no form finds anything, whatever
the tags are called: one name may begin another one, and signs in a name mean themselves. Carrying out such
a text does nothing but decode it, and there is nothing to be listed or cut out in it
(`Directive.idle_of_not_occurs`).
-/

namespace StoryState

open StoryState.Text StoryState.Directive

theorem Tag.mem_all (t : Tag) : t ∈ Tag.all := by cases t <;> decide

namespace Directive

section Openings

variable {α : Type} {names : TagNames} {scan : Scanner α} {tag : Tag} {bare : Bool} {s : List Char}

/-- What ends the name of a tag where the tag opens. -/
def Borders (c : Char) : Prop := isBlank c = true ∨ c = '>' ∨ c = '/'

theorem Marks.borders {c : Char} (h : Marks bare c) : Borders c := by
  cases bare with
  | true => exact .inr (.inl h)
  | false => exact .inl h

theorem opensHere_iff :
    opensHere names s = true ↔ ∃ t c u, s = opened (names t) (c :: u) ∧ Borders c := by
  rw [opensHere, List.any_eq_true]
  constructor
  · rintro ⟨t, -, h⟩
    split at h
    · rename_i c u hopening
      rw [Bool.or_eq_true, Bool.or_eq_true, beq_iff_eq, beq_iff_eq, or_assoc] at h
      exact ⟨t, c, u, dropLead?_eq_some_iff.1 hopening, h⟩
    · cases h
  · rintro ⟨t, c, u, rfl, hc⟩
    refine ⟨t, t.mem_all, ?_⟩
    rw [opening?_opened]
    simpa [Borders, or_assoc] using hc

theorem opensSomewhere_iff :
    opensSomewhere names s = true ↔ ∃ t, t <:+ s ∧ opensHere names t = true := by
  induction s with
  | nil =>
    refine ⟨nofun, fun ⟨t, hend, h⟩ => ?_⟩
    rw [List.suffix_nil.1 hend] at h
    obtain ⟨tag, c, u, heq, -⟩ := opensHere_iff.1 h
    cases heq
  | cons c s ih =>
    rw [opensSomewhere, Bool.or_eq_true, ih]
    constructor
    · rintro (h | ⟨t, hend, h⟩)
      · exact ⟨_, List.suffix_rfl, h⟩
      · exact ⟨t, hend.trans (List.suffix_cons c s), h⟩
    · rintro ⟨t, hend, h⟩
      rcases List.suffix_cons_iff.1 hend with rfl | hend
      · exact .inl h
      · exact .inr ⟨t, hend, h⟩

/-- A scanner that heeds the name of a tag finds something only where a tag opens. -/
theorem Heeds.opensHere (h : Heeds scan (names tag) bare) {found : α × List Char} (hs : scan s = some found) :
    opensHere names s = true := by
  by_contra hopens
  have hnone : scan s = none := h s fun c u heq hc => hopens (opensHere_iff.2 ⟨tag, c, u, heq, hc.borders⟩)
  rw [hnone] at hs
  cases hs

theorem Heeds.hits_eq_nil (h : Heeds scan (names tag) bare) (hs : opensSomewhere names s = false) :
    hits scan s = [] := by
  refine List.eq_nil_iff_forall_not_mem.2 fun a ha => ?_
  obtain ⟨t, rest, hend, hread⟩ := exists_of_mem_hits ha
  have hopens : opensSomewhere names s = true := opensSomewhere_iff.2 ⟨t, hend, h.opensHere hread⟩
  rw [hs] at hopens
  cases hopens

/-- Each form of a list heeds the name of some tag. -/
theorem exists_heeds {forms : List (Scanner α)} {heads : List Head}
    (h : List.Forall₂ (fun form k => Heeds form (names k.tag) k.bare) forms heads) :
    ∀ form ∈ forms, ∃ k : Head, Heeds form (names k.tag) k.bare := by
  induction h with
  | nil => exact fun form hform => absurd hform List.not_mem_nil
  | cons hheeds _ ih =>
    rintro form (_ | ⟨_, hform⟩)
    · exact ⟨_, hheeds⟩
    · exact ih form hform

theorem allForms_heed : ∀ form ∈ allForms names, ∃ k : Head, Heeds form (names k.tag) k.bare := by
  intro form hform
  rcases List.mem_append.1 hform with hform | hform <;> obtain ⟨typed, htyped, rfl⟩ := List.mem_map.1 hform
  · obtain ⟨k, hk⟩ := exists_heeds changeForms_heed typed htyped
    exact ⟨k, hk.map⟩
  · obtain ⟨k, hk⟩ := exists_heeds registrationForms_heed typed htyped
    exact ⟨k, hk.map⟩

end Openings

end Directive

/-! ### Texts without matches -/

namespace Batch

variable {α : Type} {act : α → BatchM Unit} {stays : α → Bool} {forms : List (Scanner α)} {s : List Char}

/-- Forms that find nothing leave the text as it is. -/
theorem agenda_of_hits_eq_nil (stays : α → Bool) (h : ∀ form ∈ forms, hits form s = []) :
    agenda stays forms s = [] ∧ remains stays forms s = s := by
  induction forms with
  | nil => exact ⟨rfl, rfl⟩
  | cons form forms ih =>
    have hform := h form List.mem_cons_self
    rw [agenda, remains, hform, substitute_of_hits_eq_nil hform, List.nil_append]
    exact ih fun form' hform' => h form' (List.mem_cons_of_mem form hform')

/-- A batch that finds nothing decodes its text and leaves the state as it is. -/
theorem run_of_hits_eq_nil {text : String}
    (h : ∀ form ∈ forms, hits form (decodeEntities text.toList) = []) (st : State) :
    run forms (fun raw a => do act a; return dropUnless stays raw a) text st =
      (.ok ⟨String.ofList (decodeEntities text.toList), [], []⟩, st) := by
  obtain ⟨hagenda, hremains⟩ := agenda_of_hits_eq_nil stays h
  rw [run_eq, hagenda, hremains]
  rfl

end Batch

namespace Directive

variable {names : TagNames} {text : String}

theorem occurrencesFrom_eq_nil {α : Type} {segs : List (Segment α)} (h : fieldsOf segs = []) (i : Nat) :
    occurrencesFrom i segs = [] := by
  induction segs generalizing i with
  | nil => rfl
  | cons g segs ih =>
    cases g with
    | plain c => exact ih h (i + 1)
    | hit raw a => cases h

theorem occurrences_eq_nil {s : List Char} (h : ∀ form ∈ allForms names, hits form s = []) :
    occurrences names s = [] := by
  have hnone : ((allForms names).flatMap fun scan => occurrencesFrom 0 (segments scan s)) = [] :=
    List.flatMap_eq_nil_iff.2 fun form hform => occurrencesFrom_eq_nil (h form hform) 0
  rw [occurrences, hnone, List.mergeSort_nil]
  rfl

theorem foldl_substitute_eq {s : List Char} {forms : List (Scanner Unit)}
    (h : ∀ form ∈ forms, hits form s = []) :
    forms.foldl (fun s scan => substitute scan (fun _ _ => []) s) s = s := by
  induction forms with
  | nil => rfl
  | cons form forms ih =>
    rw [List.foldl_cons, substitute_of_hits_eq_nil (h form List.mem_cons_self)]
    exact ih fun form' hform' => h form' (List.mem_cons_of_mem form hform')

/-- A text in which no tag opens is decoded by carrying it out, and nothing else is done; nothing in it is a
directive to be listed or left out. -/
theorem idle_of_not_occurs (h : occurs names text = false) :
    let decoded := String.ofList (decodeEntities text.toList)
    (∀ s : State, s.applyRegistrations names text = (.ok ⟨decoded, [], []⟩, s) ∧
        s.applyChanges names text = (.ok ⟨decoded, [], []⟩, s)) ∧
      extract names text = [] ∧ strip names text = decoded := by
  intro decoded
  have hall : ∀ form ∈ allForms names, hits form (decodeEntities text.toList) = [] := by
    intro form hform
    obtain ⟨k, hk⟩ := allForms_heed form hform
    exact hk.hits_eq_nil h
  refine ⟨fun s => ⟨?_, ?_⟩, ?_, ?_⟩
  · rw [State.applyRegistrations, Batch.register_eq]
    refine Batch.run_of_hits_eq_nil (fun form hform => ?_) s
    obtain ⟨k, hk⟩ := exists_heeds registrationForms_heed form hform
    exact hk.hits_eq_nil h
  · rw [State.applyChanges, Batch.change_eq]
    refine Batch.run_of_hits_eq_nil (fun form hform => ?_) s
    obtain ⟨k, hk⟩ := exists_heeds changeForms_heed form hform
    exact hk.hits_eq_nil h
  · rw [extract, occurrences_eq_nil hall, List.map_nil]
  · rw [strip, foldl_substitute_eq hall]

/-- Names of which one begins another one, with signs in them. -/
def dottedNames : TagNames :=
  TagNames.standard.updated [("setVar", .text "a"), ("set_table", .text "a.*"), ("registerVar", .text "[b")]

theorem idle_dottedNames :
    let text := "1 &lt; 2 &lt;abc&gt;<a.> <[bb name=\"x\"/></a>"
    occurs dottedNames text = false ∧
      (∀ s : State, s.applyChanges dottedNames text =
        (.ok ⟨"1 < 2 <abc><a.> <[bb name=\"x\"/></a>", [], []⟩, s)) := by
  intro text
  have hnone : occurs dottedNames text = false := by decide +kernel
  refine ⟨hnone, fun s => ?_⟩
  have hdecoded : String.ofList (decodeEntities text.toList) = "1 < 2 <abc><a.> <[bb name=\"x\"/></a>" := by
    decide +kernel
  have hidle := ((idle_of_not_occurs hnone).1 s).2
  rwa [hdecoded] at hidle

end Directive

end StoryState
