import StoryState.Text.Basic
import Mathlib.Algebra.GroupWithZero.Nat
import Mathlib.Tactic.Common

/-!
Texts put together from pieces. A scanner `Overlooks` a piece if it finds nothing at any place of it,
and `Finds` a piece if it reads just that piece, whatever follows in both cases; a text of such pieces
is cut into them again.
-/

namespace StoryState.Text

section Pieces

variable {α : Type} {scan : Scanner α} {raw s t : List Char} {a : α}

/-- The scanner finds nothing at any place of the text, whatever follows. -/
def Overlooks (scan : Scanner α) : List Char → Prop
  | [] => True
  | c :: s => (∀ rest, scan (c :: (s ++ rest)) = none) ∧ Overlooks scan s

/-- The scanner reads `a` from just the text `raw`, whatever follows. -/
structure Finds (scan : Scanner α) (raw : List Char) (a : α) : Prop where
  ne_nil : raw ≠ []
  reads : ∀ rest, scan (raw ++ rest) = some (a, rest)

theorem Finds.map {β : Type} {f : α → β} (h : Finds scan raw a) :
    Finds (fun s => (scan s).map fun (a, rest) => (f a, rest)) raw (f a) :=
  ⟨h.ne_nil, fun rest => by simp [h.reads rest]⟩

theorem Overlooks.append (hs : Overlooks scan s) (ht : Overlooks scan t) :
    Overlooks scan (s ++ t) := by
  induction s with
  | nil => exact ht
  | cons c s ih => exact ⟨fun rest => by simpa using hs.1 (t ++ rest), ih hs.2⟩

theorem Overlooks.flatMap {β : Type} {f : β → List Char} {l : List β}
    (h : ∀ b ∈ l, Overlooks scan (f b)) : Overlooks scan (l.flatMap f) := by
  induction l with
  | nil => trivial
  | cons b l ih => exact (h b (by simp)).append (ih fun d hd => h d (by simp [hd]))

theorem segmentsFrom_append (raw rest : List Char) :
    segmentsFrom scan raw.length (raw ++ rest) = segments scan rest := by
  induction raw with
  | nil => rfl
  | cons c raw ih => exact ih

theorem segments_cons {c : Char} (h : scan (c :: s) = none) :
    segments scan (c :: s) = .plain c :: segments scan s := by
  rw [segments, segmentsFrom, h]
  rfl

/-- Behind what the scanner has read it goes on. -/
theorem segments_hit {rest : List Char} (hraw : raw ≠ []) (h : scan (raw ++ rest) = some (a, rest)) :
    segments scan (raw ++ rest) = .hit raw a :: segments scan rest := by
  cases raw with
  | nil => exact absurd rfl hraw
  | cons c raw =>
    have hsize : (raw ++ rest).length + 1 - rest.length = raw.length + 1 := by
      rw [List.length_append]
      omega
    rw [List.cons_append] at h ⊢
    rw [segments, segmentsFrom, h]
    simp only [hsize, Nat.add_sub_cancel, segmentsFrom_append, List.take_succ_cons, List.take_left]

theorem segments_found (h : Finds scan raw a) (rest : List Char) :
    segments scan (raw ++ rest) = .hit raw a :: segments scan rest :=
  segments_hit h.ne_nil (h.reads rest)

/-- A match is what the scanner takes from the head of an end of the text. -/
theorem exists_of_hit_mem (h : .hit raw a ∈ segments scan s) :
    ∃ t rest, t <:+ s ∧ scan t = some (a, rest) ∧ raw = t.take (t.length - rest.length) := by
  suffices hfrom : ∀ k, .hit raw a ∈ segmentsFrom scan k s →
      ∃ t rest, t <:+ s ∧ scan t = some (a, rest) ∧ raw = t.take (t.length - rest.length) from hfrom 0 h
  clear h
  induction s with
  | nil =>
    intro k h
    cases k <;> cases h
  | cons c s ih =>
    have hskip : ∀ k, .hit raw a ∈ segmentsFrom scan k s →
        ∃ t rest, t <:+ c :: s ∧ scan t = some (a, rest) ∧ raw = t.take (t.length - rest.length) := by
      intro k hk
      obtain ⟨t, rest, hend, ht⟩ := ih k hk
      exact ⟨t, rest, hend.trans (List.suffix_cons c s), ht⟩
    intro k h
    cases k with
    | succ k => exact hskip k h
    | zero =>
      rw [segmentsFrom] at h
      split at h
      · rcases List.mem_cons.1 h with h | h
        · cases h
        · exact hskip 0 h
      · rename_i fields rest hscan
        rcases List.mem_cons.1 h with h | h
        · cases h
          exact ⟨_, _, List.suffix_rfl, hscan, rfl⟩
        · exact hskip _ h

/-- A text is cut at the end of a part of it, if whatever the scanner reads from within that part on
it reads from there alone. -/
theorem segments_append (h : ∀ u v, s = u ++ v → v ≠ [] →
      scan (v ++ t) = (scan v).map fun (a, rest) => (a, rest ++ t)) :
    segments scan (s ++ t) = segments scan s ++ segments scan t := by
  suffices hfrom : ∀ k ≤ s.length,
      segmentsFrom scan k (s ++ t) = segmentsFrom scan k s ++ segments scan t from
    hfrom 0 (Nat.zero_le _)
  induction s with
  | nil =>
    intro k hk
    rw [Nat.le_zero.1 hk]
    rfl
  | cons c s ih =>
    have ih := ih fun u v hs hv => h (c :: u) v (congrArg (c :: ·) hs) hv
    intro k hk
    cases k with
    | succ k => exact ih k (Nat.le_of_succ_le_succ hk)
    | zero =>
      have hscan := h [] (c :: s) rfl (List.cons_ne_nil _ _)
      rw [List.cons_append] at hscan
      rw [List.cons_append, segmentsFrom, segmentsFrom, hscan]
      cases scan (c :: s) with
      | none => exact congrArg (.plain c :: ·) (ih 0 (Nat.zero_le _))
      | some found =>
        obtain ⟨a, rest⟩ := found
        have hsize : (s ++ t).length + 1 - (rest ++ t).length = s.length + 1 - rest.length := by
          simp only [List.length_append]
          omega
        dsimp only [Option.map_some]
        have htake : (c :: (s ++ t)).take (s.length + 1 - rest.length) =
            (c :: s).take (s.length + 1 - rest.length) := by
          show (c :: s ++ t).take _ = _
          refine List.take_append_of_le_length ?_
          rw [List.length_cons]
          omega
        rw [hsize, htake, ih _ (by omega)]
        rfl

theorem hits_overlooked (h : Overlooks scan raw) (rest : List Char) :
    hits scan (raw ++ rest) = hits scan rest := by
  induction raw with
  | nil => rfl
  | cons c raw ih =>
    rw [List.cons_append, hits, segments_cons (h.1 rest)]
    exact ih h.2

theorem hits_found (h : Finds scan raw a) (rest : List Char) :
    hits scan (raw ++ rest) = a :: hits scan rest := by
  rw [hits, segments_found h]
  rfl

variable {f : List Char → α → List Char}

theorem substitute_overlooked (h : Overlooks scan raw) (rest : List Char) :
    substitute scan f (raw ++ rest) = raw ++ substitute scan f rest := by
  induction raw with
  | nil => rfl
  | cons c raw ih =>
    rw [List.cons_append, substitute, segments_cons (h.1 rest)]
    exact congrArg (c :: ·) (ih h.2)

theorem substitute_found (h : Finds scan raw a) (rest : List Char) :
    substitute scan f (raw ++ rest) = f raw a ++ substitute scan f rest := by
  rw [substitute, segments_found h]
  rfl

/-- Cutting at the first place of a needle that no place of the text before it shows. -/
theorem cutAt?_append {needle : List Char} (hneedle : needle ≠ [])
    (h : Overlooks (fun s => (dropLead? needle s).map fun rest => ((), rest)) s)
    (rest : List Char) : cutAt? needle (s ++ (needle ++ rest)) = some (s, rest) := by
  induction s with
  | nil =>
    have hlead : dropLead? needle (needle ++ rest) = some rest := dropLead?_eq_some_iff.2 rfl
    cases needle with
    | nil => exact absurd rfl hneedle
    | cons n needle =>
      rw [List.nil_append, List.cons_append, cutAt?]
      rw [List.cons_append] at hlead
      rw [hlead]
  | cons c s ih =>
    have hnone := Option.map_eq_none_iff.1 (h.1 (needle ++ rest))
    rw [List.cons_append, cutAt?, hnone, ih h.2]
    rfl

end Pieces

/-- Replacing by what an action answers, when the answer does not depend on the action: the matches
are acted on one after another, in text order. -/
theorem substituteM_eq {m : Type → Type} [Monad m] [LawfulMonad m] {act : α → m Unit}
    (f : List Char → α → List Char) (s : List Char) :
    (substituteM scan (fun raw a => do act a; return f raw a) s) = do
      (hits scan s).forM act
      return substitute scan f s := by
  rw [substituteM, hits, substitute]
  induction segments scan s with
  | nil => simp
  | cons g segs ih =>
    cases g with
    | plain c => simpa using congrArg (fun text : m _ => (c :: ·) <$> text) ih
    | hit raw a =>
      simpa using congrArg (fun text : m _ => act a >>= fun _ => (f raw a ++ ·) <$> text) ih

/-- Replacing by what an action answers that goes through at every match. -/
theorem substituteM_ok {ε : Type} {f : List Char → α → Except ε (List Char)}
    {g : List Char → α → List Char} {s : List Char}
    (h : ∀ raw a, .hit raw a ∈ segments scan s → f raw a = .ok (g raw a)) :
    substituteM scan f s = .ok (substitute scan g s) := by
  rw [substituteM, substitute]
  revert h
  generalize segments scan s = segs
  intro h
  induction segs with
  | nil => rfl
  | cons x segs ih =>
    have ih := ih fun raw a hmem => h raw a (List.mem_cons_of_mem _ hmem)
    cases x with
    | plain c => simpa using congrArg (fun text : Except ε _ => (c :: ·) <$> text) ih
    | hit raw a =>
      have ha : f raw a = pure (g raw a) := h raw a List.mem_cons_self
      simpa [ha] using congrArg (fun text : Except ε _ => (g raw a ++ ·) <$> text) ih

/-! ### Texts of segments -/

section Texts

variable {α : Type} {scan : Scanner α} {found : α → Bool}

/-- The text that segments cover. -/
def textOf (segs : List (Segment α)) : List Char := segs.flatMap Segment.raw

/-- What is read from the matches among segments, in text order. -/
def fieldsOf (segs : List (Segment α)) : List α :=
  segs.filterMap fun
    | .plain _ => none
    | .hit _ a => some a

/-- The scanner reads the segment as it stands if it is a match with fields that are `found`, and
overlooks it otherwise. -/
def Segment.ReadBy (scan : Scanner α) (found : α → Bool) : Segment α → Prop
  | .plain c => Overlooks scan [c]
  | .hit raw a => if found a then Finds scan raw a else Overlooks scan raw

@[simp]
theorem textOf_nil : textOf ([] : List (Segment α)) = [] := rfl

@[simp]
theorem textOf_cons (g : Segment α) (segs : List (Segment α)) :
    textOf (g :: segs) = g.raw ++ textOf segs := rfl

@[simp]
theorem fieldsOf_nil : fieldsOf ([] : List (Segment α)) = [] := rfl

@[simp]
theorem fieldsOf_plain (c : Char) (segs : List (Segment α)) :
    fieldsOf (.plain c :: segs) = fieldsOf segs := rfl

@[simp]
theorem fieldsOf_hit (raw : List Char) (a : α) (segs : List (Segment α)) :
    fieldsOf (.hit raw a :: segs) = a :: fieldsOf segs := rfl

/-- What is left of segments when the matches that do not stay are gone. -/
def kept (stays : α → Bool) (segs : List (Segment α)) : List (Segment α) :=
  segs.filter fun
    | .plain _ => true
    | .hit _ a => stays a

theorem kept_kept {p q : α → Bool} (segs : List (Segment α)) :
    kept p (kept q segs) = kept (fun a => p a && q a) segs := by
  rw [kept, kept, List.filter_filter]
  refine List.filter_congr fun g _ => ?_
  cases g <;> simp

theorem kept_eq_self {p : α → Bool} (h : ∀ a, p a = true) (segs : List (Segment α)) :
    kept p segs = segs := by
  refine List.filter_eq_self.2 fun g _ => ?_
  cases g with
  | plain c => rfl
  | hit raw a => exact h a

theorem fieldsOf_kept {p : α → Bool} (segs : List (Segment α)) :
    fieldsOf (kept p segs) = (fieldsOf segs).filter p := by
  induction segs with
  | nil => rfl
  | cons g segs ih =>
    cases g with
    | plain c => exact ih
    | hit raw a => cases hp : p a <;> simpa [kept, hp] using ih

/-- The characters outside every match. -/
def between (segs : List (Segment α)) : List Char :=
  segs.filterMap fun
    | .plain c => some c
    | .hit _ _ => none

theorem textOf_kept_false (segs : List (Segment α)) :
    textOf (kept (fun _ => false) segs) = between segs := by
  induction segs with
  | nil => rfl
  | cons g segs ih =>
    cases g with
    | plain c => exact congrArg (c :: ·) ih
    | hit raw a => exact ih

/-- The text with a match cut out unless it stays. -/
def dropUnless (stays : α → Bool) (raw : List Char) (a : α) : List Char :=
  if stays a then raw else []

/-- Of a text of segments a scanner reads the matches that it finds, and what is left when they are
cut out is the text of the other segments. -/
theorem scan_textOf {segs : List (Segment α)} (h : ∀ g ∈ segs, g.ReadBy scan found)
    (stays : α → Bool) :
    hits scan (textOf segs) = (fieldsOf segs).filter found ∧
      substitute scan (dropUnless stays) (textOf segs) =
        textOf (kept (fun a => !found a || stays a) segs) := by
  induction segs with
  | nil => exact ⟨rfl, rfl⟩
  | cons g segs ih =>
    have hg := h g (by simp)
    obtain ⟨ihhits, ihtext⟩ := ih fun g hg => h g (by simp [hg])
    cases g with
    | plain c =>
      rw [textOf_cons, Segment.raw, hits_overlooked hg, substitute_overlooked hg, ihhits, ihtext]
      exact ⟨rfl, rfl⟩
    | hit raw a =>
      rw [textOf_cons, Segment.raw]
      cases ha : found a with
      | false =>
        rw [Segment.ReadBy, ha] at hg
        rw [hits_overlooked hg, substitute_overlooked hg, ihhits, ihtext]
        simp [kept, ha, Segment.raw]
      | true =>
        rw [Segment.ReadBy, ha] at hg
        rw [hits_found hg, substitute_found hg, ihhits, ihtext]
        cases hs : stays a <;> simp [kept, ha, hs, dropUnless, Segment.raw]

/-- A scanner that reads every match of a text reads all of them. -/
theorem hits_textOf {segs : List (Segment α)} (h : ∀ g ∈ segs, g.ReadBy scan fun _ => true) :
    hits scan (textOf segs) = fieldsOf segs := by
  rw [(scan_textOf h fun _ => true).1, List.filter_eq_self.2 fun _ _ => rfl]

/-! ### Matches and what is left of a text -/

theorem mem_hits_iff {s : List Char} {a : α} : a ∈ hits scan s ↔ ∃ raw, .hit raw a ∈ segments scan s := by
  rw [hits, List.mem_filterMap]
  constructor
  · rintro ⟨g, hg, ha⟩
    cases g with
    | plain c => cases ha
    | hit raw b =>
      cases ha
      exact ⟨raw, hg⟩
  · rintro ⟨raw, hraw⟩
    exact ⟨_, hraw, rfl⟩

/-- What a scanner reads from a text, it reads at the head of an end of the text. -/
theorem exists_of_mem_hits {s : List Char} {a : α} (h : a ∈ hits scan s) :
    ∃ t rest, t <:+ s ∧ scan t = some (a, rest) := by
  obtain ⟨raw, hraw⟩ := mem_hits_iff.1 h
  obtain ⟨t, rest, hend, hscan, -⟩ := exists_of_hit_mem hraw
  exact ⟨t, rest, hend, hscan⟩

theorem textOf_segments_sublist (scan : Scanner α) (s : List Char) : (textOf (segments scan s)).Sublist s := by
  suffices hfrom : ∀ k, (textOf (segmentsFrom scan k s)).Sublist (s.drop k) from hfrom 0
  induction s with
  | nil => intro k; cases k <;> exact List.nil_sublist _
  | cons c s ih =>
    intro k
    cases k with
    | succ k => exact ih k
    | zero =>
      rw [segmentsFrom]
      split
      · exact (ih 0).cons_cons c
      · rename_i fields rest _
        -- the match covers as much of the text as the segments behind it leave out
        generalize s.length + 1 - rest.length = size
        rw [textOf_cons, Segment.raw, List.drop_zero]
        cases size with
        | zero => exact (ih 0).cons c
        | succ size =>
          have hcut := (List.Sublist.refl ((c :: s).take (size + 1))).append (ih size)
          rwa [← List.drop_succ_cons, List.take_append_drop] at hcut

/-- What is left of a text are characters of it, in their order. -/
theorem substitute_sublist (stays : α → Bool) (s : List Char) :
    (substitute scan (dropUnless stays) s).Sublist s := by
  refine List.Sublist.trans ?_ (textOf_segments_sublist scan s)
  rw [substitute]
  induction segments scan s with
  | nil => exact List.Sublist.refl _
  | cons g segs ih =>
    rw [List.flatMap_cons, textOf_cons]
    refine List.Sublist.append ?_ ih
    cases g with
    | plain c => exact List.Sublist.refl _
    | hit raw a =>
      show (dropUnless stays raw a).Sublist raw
      unfold dropUnless
      split
      · exact List.Sublist.refl _
      · exact List.nil_sublist _

/-- A text without matches is left as it is. -/
theorem substitute_of_hits_eq_nil {f : List Char → α → List Char} {s : List Char} (h : hits scan s = []) :
    substitute scan f s = s := by
  induction s with
  | nil => rfl
  | cons c s ih =>
    cases hscan : scan (c :: s) with
    | none =>
      rw [hits, segments_cons hscan] at h
      rw [substitute, segments_cons hscan]
      exact congrArg (c :: ·) (ih h)
    | some found =>
      rw [hits, segments, segmentsFrom, hscan] at h
      cases h

/-- What each match has of a character, and what is left of it in the text, if no match stays. -/
theorem count_substitute_add_sum (scan : Scanner α) (stays : α → Bool) (weight : α → Nat) (s : List Char)
    (c : Char) (h : ∀ raw a, .hit raw a ∈ segments scan s → stays a = false ∧ weight a ≤ raw.count c) :
    (substitute scan (dropUnless stays) s).count c + ((hits scan s).map weight).sum ≤ s.count c := by
  refine Nat.le_trans ?_ ((textOf_segments_sublist scan s).count_le c)
  show _ + ((fieldsOf (segments scan s)).map weight).sum ≤ _
  unfold substitute
  revert h
  induction segments scan s with
  | nil => exact fun _ => Nat.le_refl _
  | cons g segs ih =>
    intro h
    have ih := ih fun raw a hmem => h raw a (List.mem_cons_of_mem _ hmem)
    rw [List.flatMap_cons, textOf_cons, List.count_append, List.count_append]
    cases g with
    | plain d =>
      rw [fieldsOf_plain, Segment.raw]
      dsimp only
      omega
    | hit raw a =>
      obtain ⟨hstays, hweight⟩ := h raw a List.mem_cons_self
      have hgone : dropUnless stays raw a = [] := by rw [dropUnless, hstays]; rfl
      rw [fieldsOf_hit, List.map_cons, List.sum_cons, Segment.raw]
      dsimp only
      rw [hgone, List.count_nil]
      omega

end Texts

end StoryState.Text
