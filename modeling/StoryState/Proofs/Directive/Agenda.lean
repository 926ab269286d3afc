import StoryState.Directive.Batch
import StoryState.Proofs.Step
import StoryState.Proofs.Text.Entity
import Mathlib.Data.List.Basic

/-!
What a batch carries out is settled by the text alone: the forms find an agenda of directives
(`Batch.agenda`) and leave a text (`Batch.remains`), and the batch does what the handlers do for that
agenda, one directive after another (`Batch.run_eq`). In a text of segments the agenda is that of the
directives in it, group by group (`Batch.run_textOf`).
-/

namespace StoryState

open StoryState.Text

namespace Batch

section Agenda

variable {α : Type} {act : α → BatchM Unit} {stays : α → Bool}

/-- The directives that the forms find, each form in the text that those before it have left. -/
def agenda (stays : α → Bool) : List (Scanner α) → List Char → List α
  | [], _ => []
  | form :: forms, s => hits form s ++ agenda stays forms (substitute form (dropUnless stays) s)

/-- The text that the forms leave. -/
def remains (stays : α → Bool) : List (Scanner α) → List Char → List Char
  | [], s => s
  | form :: forms, s => remains stays forms (substitute form (dropUnless stays) s)

theorem passes_eq (forms : List (Scanner α)) (s : List Char) :
    passes (fun raw a => do act a; return dropUnless stays raw a) forms s = do
      (agenda stays forms s).forM act
      return remains stays forms s := by
  induction forms generalizing s with
  | nil => simp [passes, agenda, remains]
  | cons form forms ih =>
    rw [passes, substituteM_eq, agenda, remains]
    simp only [bind_assoc, pure_bind, ih, List.forM_eq_forM, List.forM_append]

/-- What is true of all that the forms read from some sort of texts is true of the agenda, if whatever is left
of such a text is one too. -/
theorem of_mem_agenda {Q : List Char → Prop} {P : α → Prop} (left : ∀ {s t}, t.Sublist s → Q s → Q t)
    {forms : List (Scanner α)}
    (read : ∀ form ∈ forms, ∀ s a rest, Q s → form s = some (a, rest) → P a) {s : List Char} (hs : Q s) :
    ∀ a ∈ agenda stays forms s, P a := by
  induction forms generalizing s with
  | nil => exact fun _ ha => nomatch ha
  | cons form forms ih =>
    intro a ha
    rw [agenda, List.mem_append] at ha
    rcases ha with ha | ha
    · obtain ⟨t, rest, hend, hread⟩ := exists_of_mem_hits ha
      exact read form List.mem_cons_self t a rest (left hend.sublist hs) hread
    · refine ih (fun form hform => read form (List.mem_cons_of_mem _ hform)) ?_ a ha
      exact left (substitute_sublist stays s) hs

/-- Carries out directives one after another, next to a text that is left. -/
def execute (act : α → BatchM Unit) (directives : List α) (cleanText : String) (s : State) :
    Except Fault BatchResult × State :=
  let (outcome, b) := (directives.forM act).run { state := s }
  (outcome.map fun _ => ⟨cleanText, b.logs, b.errors⟩, b.state)

/-- A batch carries out its agenda. -/
theorem run_eq (forms : List (Scanner α)) (text : String) (s : State) :
    run forms (fun raw a => do act a; return dropUnless stays raw a) text s =
      execute act (agenda stays forms (decodeEntities text.toList))
        (String.ofList (remains stays forms (decodeEntities text.toList))) s := by
  rw [run, execute, passes_eq, run_bind]
  cases ((agenda stays forms (decodeEntities text.toList)).forM act).run { state := s } with
  | mk outcome b => cases outcome <;> rfl

end Agenda

/-! ### The agenda of a text of segments -/

section Written

variable {α κ : Type} [DecidableEq κ] {key : α → κ} {keys : List κ}

/-- The directives in groups by their keys, in text order within each group. -/
def inOrder (key : α → κ) (keys : List κ) (directives : List α) : List α :=
  keys.flatMap fun k => directives.filter fun a => key a = k

theorem inOrder_filter {p : α → Bool} (directives : List α) (h : ∀ a, key a ∈ keys → p a = true) :
    inOrder key keys (directives.filter p) = inOrder key keys directives := by
  unfold inOrder
  refine List.flatMap_congr fun k hk => ?_
  rw [List.filter_filter]
  refine List.filter_congr fun a _ => ?_
  by_cases hkey : key a = k
  · simp [hkey, h a (hkey ▸ hk)]
  · simp [hkey]

/-- Forms with keys of their own find in a text the directives with these keys, group by group, and
leave the other ones and those that stay. -/
theorem agenda_textOf (stays : α → Bool) {P : Segment α → Prop} {forms : List (Scanner α)}
    (h : List.Forall₂ (fun form k => ∀ g, P g → g.ReadBy form fun a => key a = k) forms keys)
    (hkeys : keys.Nodup) {segs : List (Segment α)} (hsegs : ∀ g ∈ segs, P g) :
    agenda stays forms (textOf segs) = inOrder key keys (fieldsOf segs) ∧
      remains stays forms (textOf segs) =
        textOf (kept (fun a => !decide (key a ∈ keys) || stays a) segs) := by
  induction h generalizing segs with
  | nil => exact ⟨rfl, congrArg textOf (kept_eq_self (by simp) segs).symm⟩
  | @cons form k forms keys hform hforms ih =>
    obtain ⟨hk, hkeys⟩ := List.nodup_cons.1 hkeys
    obtain ⟨hhits, htext⟩ := scan_textOf (fun g hg => hform g (hsegs g hg)) stays
    have hkept : ∀ g ∈ kept (fun a => !decide (key a = k) || stays a) segs, P g :=
      fun g hg => hsegs g (List.mem_of_mem_filter hg)
    obtain ⟨ihagenda, ihremains⟩ := ih hkeys hkept
    rw [agenda, remains, hhits, htext, ihagenda, ihremains]
    constructor
    · rw [fieldsOf_kept, inOrder_filter]
      · rfl
      · intro a ha
        have hne : key a ≠ k := fun hak => hk (hak ▸ ha)
        simp [hne]
    · rw [kept_kept]
      refine congrArg textOf (congrArg (kept · segs) (funext fun a => ?_))
      by_cases hak : key a = k <;> by_cases has : stays a = true <;> simp [hak, has]

/-- A batch on a text of segments, all of whose directives belong to a form, carries out the
directives group by group and leaves the text without those that do not stay. -/
theorem run_textOf {P : Segment α → Prop} {forms : List (Scanner α)} {act : α → BatchM Unit}
    {stays : α → Bool}
    (h : List.Forall₂ (fun form k => ∀ g, P g → g.ReadBy form fun a => key a = k) forms keys)
    (hkeys : keys.Nodup) (hall : ∀ a, key a ∈ keys) {segs : List (Segment α)}
    (hsegs : ∀ g ∈ segs, P g) (hplain : '&' ∉ textOf segs) (s : State) :
    run forms (fun raw a => do act a; return dropUnless stays raw a) (String.ofList (textOf segs)) s =
      execute act (inOrder key keys (fieldsOf segs)) (String.ofList (textOf (kept stays segs))) s := by
  obtain ⟨hagenda, hremains⟩ := agenda_textOf stays h hkeys hsegs
  rw [run_eq, String.toList_ofList, decodeEntities_of_notMem hplain, hagenda, hremains]
  simp only [hall, decide_true, Bool.not_true, Bool.false_or]

end Written

end Batch

end StoryState
