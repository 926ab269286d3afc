import StoryState.Proofs.Directive.Spelling

/-!
How directives begin. With names for the tags that can be told apart (`TagNames.Plain`) a written
directive is overlooked by every scanner that heeds another head (`Directive.Headed`), so that a form
reads in a text of written directives those with its own head and no other ones
(`Directive.readBy_of_heeds`).
-/

namespace StoryState

open StoryState.Text StoryState.Directive

/-! ### Names and heads -/

/-- Names for the tags that can be told apart. -/
structure TagNames.Plain (names : TagNames) : Prop where
  name : ∀ t, PlainName (names t)
  distinct : ∀ t u, names t = names u → t = u

namespace TagNames

theorem ofKey?_key (t : Tag) : Tag.ofKey? t.key = some t := by
  cases t <;> decide

/-- The tags' own names can be told apart. -/
theorem plain_standard : standard.Plain where
  name t := by
    cases t <;> exact ⟨by decide, List.all_eq_true.1 (by decide +kernel)⟩
  distinct t u h := by
    have hkey : Tag.ofKey? t.key = Tag.ofKey? u.key := congrArg Tag.ofKey? h
    simpa [ofKey?_key] using hkey

end TagNames

namespace Directive

/-- How a directive begins: the tag, and whether it is bare of attributes. -/
structure Head where
  tag : Tag
  bare : Bool
deriving DecidableEq, Repr

/-- A segment that is as it is written, or a character between directives, with which no tag and no
entity begins. -/
def Legible {α : Type} (written : α → List Char → Prop) : Segment α → Prop
  | .plain c => c ≠ '<' ∧ c ≠ '&'
  | .hit raw a => written a raw

/-- A character between directives is overlooked. -/
theorem AtTags.overlooks_plain {α β : Type} {scan : Scanner β} {written : α → List Char → Prop}
    (h : AtTags scan) {c : Char} (hc : Legible written (.plain c)) : Overlooks scan [c] :=
  h.overlooks (by simpa [Unmarked, Legible] using hc)

section Reading

variable {α : Type} {names : TagNames} {written : α → List Char → Prop} {head : α → Head}

/-- A text under a head that every scanner overlooks that heeds another head, and in which no entity
begins. -/
structure Headed (names : TagNames) (h : Head) (raw : List Char) : Prop where
  overlooked : ∀ {β : Type} {scan : Scanner β} {k : Head}, Heeds scan (names k.tag) k.bare → h ≠ k →
    Overlooks scan raw
  plain : '&' ∉ raw

/-- A form that heeds a head reads the directives with this head and no other ones. -/
theorem readBy_of_heeds {form : Scanner α} {k : Head} (heeds : Heeds form (names k.tag) k.bare)
    (finds : ∀ a raw, written a raw → head a = k → Finds form raw a)
    (headed : ∀ a raw, written a raw → Headed names (head a) raw) (g : Segment α)
    (hg : Legible written g) : g.ReadBy form fun a => head a = k := by
  cases g with
  | plain c => exact heeds.atTags.overlooks_plain hg
  | hit raw a =>
    rw [Segment.ReadBy]
    split
    · rename_i hk
      exact finds a raw hg (of_decide_eq_true hk)
    · rename_i hk
      exact (headed a raw hg).overlooked heeds fun hak => hk (decide_eq_true hak)

/-- No entity begins in a text of directives. -/
theorem notMem_textOf (hraw : ∀ a raw, written a raw → '&' ∉ raw) {segs : List (Segment α)}
    (h : ∀ g ∈ segs, Legible written g) : '&' ∉ textOf segs := by
  intro hmem
  obtain ⟨g, hg, hc⟩ := List.mem_flatMap.1 hmem
  have hlegible := h g hg
  cases g with
  | plain c =>
    obtain rfl : '&' = c := List.mem_singleton.1 hc
    exact hlegible.2 rfl
  | hit raw a => exact hraw a raw hlegible hc

end Reading

/-! ### Shapes of tags -/

section Shapes

variable {names : TagNames} {tag : Tag} {key value : String} {a u content : List Char}

@[simp]
theorem opened_append (tag : String) (s t : List Char) : opened tag s ++ t = opened tag (s ++ t) := by
  simp [opened]

theorem opened_ne_nil (tag : String) (s : List Char) : opened tag s ≠ [] := nofun

theorem AttributeText.exists_marks (h : AttributeText '"' key value a) (u : List Char) :
    ∃ c t, a ++ u = c :: t ∧ Marks false c := by
  obtain ⟨hne, hgap, -, -⟩ := h
  rename_i gap
  obtain ⟨c, gap, rfl⟩ := List.exists_cons_of_ne_nil hne
  exact ⟨c, _, rfl, hgap c (by simp)⟩

theorem Unmarked.notMem (h : Unmarked u) : '&' ∉ u := fun hc => (h _ hc).2 rfl

theorem PlainName.notMem_opened {tag : String} (h : PlainName tag) (hu : '&' ∉ u) :
    '&' ∉ opened tag u := by
  simp [opened, h.unmarked.notMem, hu]

theorem PlainName.notMem_closing {tag : String} (h : PlainName tag) : '&' ∉ closing tag := by
  simp [closing, h.unmarked.notMem]

/-- A tag with attributes. -/
theorem headed_attributes (plain : names.Plain) (ha : AttributeText '"' key value a)
    (hover : ∀ {β : Type} {scan : Scanner β} {k : Head}, Heeds scan (names k.tag) k.bare →
      Overlooks scan (a ++ u)) (hu : '&' ∉ a ++ u) :
    Headed names ⟨tag, false⟩ (opened (names tag) (a ++ u)) where
  overlooked := by
    intro β scan k heeds hne
    obtain ⟨c, t, htext, hc⟩ := ha.exists_marks u
    have hover := hover heeds
    rw [htext] at hover ⊢
    refine heeds.overlooks_opened (plain.name _) (plain.name _) hc (fun htag hbare => hne ?_) hover
    rw [plain.distinct _ _ htag, hbare]
  plain := (plain.name _).notMem_opened hu

/-- A tag with attributes that closes itself. -/
inductive SelfClosed (tag : String) : List Char → Prop
  | intro {key value : String} {a u : List Char} (first : AttributeText '"' key value a)
    (unmarked : Unmarked (a ++ u)) : SelfClosed tag (opened tag (a ++ u))

theorem headed_selfClosed (plain : names.Plain) (h : SelfClosed (names tag) u) :
    Headed names ⟨tag, false⟩ u := by
  obtain ⟨ha, hu⟩ := h
  exact headed_attributes plain ha (fun heeds => heeds.atTags.overlooks hu) hu.notMem

/-- A tag with attributes and content. -/
theorem headed_filled (plain : names.Plain) (ha : AttributeText '"' key value a)
    (hu : Unmarked (a ++ u)) :
    Headed names ⟨tag, false⟩ (opened (names tag) (a ++ (u ++ closing (names tag)))) := by
  refine headed_attributes plain ha (fun heeds => ?_) ?_ <;> rw [← List.append_assoc]
  · exact (heeds.atTags.overlooks hu).append (heeds.overlooks_closing (plain.name _) (plain.name _))
  · exact List.not_mem_append hu.notMem (plain.name _).notMem_closing

/-- A bare tag with content. -/
theorem headed_bare (plain : names.Plain)
    (hover : ∀ {β : Type} {scan : Scanner β} {k : Head}, Heeds scan (names k.tag) k.bare →
      Overlooks scan content) (hcontent : '&' ∉ content) :
    Headed names ⟨tag, true⟩ (opened (names tag) ('>' :: (content ++ closing (names tag)))) where
  overlooked := by
    intro β scan k heeds hne
    have hmarks : Marks true '>' := rfl
    refine heeds.overlooks_opened (plain.name _) (plain.name _) hmarks (fun htag hbare => hne ?_) ?_
    · rw [plain.distinct _ _ htag, hbare]
    · have hmark : Unmarked ['>'] := by simp [Unmarked]
      exact (heeds.atTags.overlooks hmark).append ((hover heeds).append
        (heeds.overlooks_closing (plain.name _) (plain.name _)))
  plain := (plain.name _).notMem_opened (by simp [hcontent, (plain.name _).notMem_closing])

end Shapes

end Directive

end StoryState
