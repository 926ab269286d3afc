import StoryState.Proofs.Entries
import StoryState.Proofs.Step
import StoryState.Proofs.Value.Writable
import StoryState.Proofs.History.Placeholder

/-!
Filling the placeholders of a text.

* The distinct matches have each match of the text under its own text (`Placeholder.get?_distinct`), so
  that the answers for them, put side by side with their texts, answer for every match
  (`get?_zip`).
* From the answers the text follows: it comes out just if no count is too long, and then each match
  is replaced by what was answered for its placeholder, whatever that is (`Placeholder.filled_spec`).
* A source whose answers do not change fills a text as it fills each placeholder alone
  (`Source.fillPlaceholders_each`).
-/

namespace StoryState

open StoryState.Text

/-- Items put in the place of values stand under the keys of these. -/
theorem Entries.get?_zip {α β : Type} {R : α → β → Prop} {es : Entries α} {bs : List β}
    (h : List.Forall₂ R es.values bs) {key : String} {a : α} (hget : es.get? key = some a) :
    ∃ b, get? key (es.keys.zip bs) = some b ∧ R a b := by
  induction es generalizing bs with
  | nil => cases hget
  | cons e es ih =>
    obtain ⟨k, a'⟩ := e
    cases h with
    | cons hab hrest =>
      rw [get?] at hget
      rw [keys_cons, List.zip_cons_cons, get?]
      split at hget
      · rename_i hk
        cases hget
        exact ⟨_, if_pos hk, hab⟩
      · rename_i hk
        obtain ⟨b, hb, hR⟩ := ih hrest hget
        exact ⟨b, (if_neg hk).trans hb, hR⟩

namespace Placeholder

variable {p q : Placeholder} {text : String}

/-- A placeholder whose count is short enough to be read. -/
def Short (p : Placeholder) : Prop := p.count.toList.length ≤ Number.digitLimit

instance : Decidable p.Short := inferInstanceAs (Decidable (_ ≤ _))

/-- The number of entries that a placeholder asks for. -/
def number (p : Placeholder) : Nat := readDigits 0 p.count.toList

/-! ### The distinct matches -/

theorem mem_note {found : Entries Placeholder} {g : Segment Placeholder} {key : String}
    (h : (key, p) ∈ note found g) :
    (key, p) ∈ found ∨ ∃ raw, g = .hit raw p ∧ key = String.ofList raw := by
  cases g with
  | plain c => exact .inl h
  | hit raw q =>
    rw [note] at h
    split at h
    · exact .inl h
    · rcases List.mem_append.1 h with h | h
      · exact .inl h
      · simp only [List.mem_singleton, Prod.mk.injEq] at h
        obtain ⟨rfl, rfl⟩ := h
        exact .inr ⟨raw, rfl, rfl⟩

theorem keys_note (found : Entries Placeholder) (g : Segment Placeholder) :
    ∀ key ∈ found.keys, key ∈ (note found g).keys := by
  intro key h
  cases g with
  | plain c => exact h
  | hit raw q =>
    rw [note]
    split
    · exact h
    · rw [Entries.keys, List.map_append]
      exact List.mem_append_left _ h

theorem mem_keys_note (found : Entries Placeholder) (raw : List Char) (p : Placeholder) :
    String.ofList raw ∈ (note found (.hit raw p)).keys := by
  rw [note]
  split
  · rename_i h
    exact Entries.has_iff.1 h
  · simp [Entries.keys]

theorem mem_distinct {key : String} (h : (key, p) ∈ distinct text) :
    ∃ raw, .hit raw p ∈ segments scan text.toList ∧ key = String.ofList raw := by
  suffices hfold : ∀ (segs : List (Segment Placeholder)) (found : Entries Placeholder),
      (key, p) ∈ segs.foldl note found →
      (key, p) ∈ found ∨ ∃ raw, .hit raw p ∈ segs ∧ key = String.ofList raw from
    (hfold _ [] h).resolve_left (by simp)
  clear h
  intro segs
  induction segs with
  | nil => exact fun found h => .inl h
  | cons g segs ih =>
    intro found h
    rcases ih _ h with h | ⟨raw, hraw, hkey⟩
    · rcases mem_note h with h | ⟨raw, rfl, hkey⟩
      · exact .inl h
      · exact .inr ⟨raw, List.mem_cons_self, hkey⟩
    · exact .inr ⟨raw, List.mem_cons_of_mem _ hraw, hkey⟩

theorem mem_keys_distinct {raw : List Char} (h : .hit raw p ∈ segments scan text.toList) :
    String.ofList raw ∈ (distinct text).keys := by
  suffices hfold : ∀ (segs : List (Segment Placeholder)) (found : Entries Placeholder),
      String.ofList raw ∈ found.keys ∨ .hit raw p ∈ segs →
      String.ofList raw ∈ (segs.foldl note found).keys from hfold _ [] (.inr h)
  clear h
  intro segs
  induction segs with
  | nil => exact fun found h => h.resolve_right (by simp)
  | cons g segs ih =>
    intro found h
    refine ih _ ?_
    rcases h with h | h
    · exact .inl (keys_note found g _ h)
    · rcases List.mem_cons.1 h with rfl | h
      · exact .inl (mem_keys_note found raw p)
      · exact .inr h

theorem mem_hits_iff : p ∈ hits scan text.toList ↔ .hit p.text.toList p ∈ segments scan text.toList := by
  rw [hits, List.mem_filterMap]
  constructor
  · rintro ⟨g, hg, hp⟩
    cases g with
    | plain c => cases hp
    | hit raw q =>
      cases hp
      rwa [(of_hit_mem hg).2] at hg
  · exact fun h => ⟨_, h, rfl⟩

theorem Plain.eq_of_text (hp : p.Plain) (hq : q.Plain) (h : p.text = q.text) : p = q := by
  have hscan := hp.finds.reads []
  rw [h, hq.finds.reads []] at hscan
  cases hscan
  rfl

/-- Under the text of a match stands that match. -/
theorem get?_distinct (h : p ∈ hits scan text.toList) : (distinct text).get? p.text = some p := by
  have hp := mem_hits_iff.1 h
  have hkey := mem_keys_distinct hp
  rw [String.ofList_toList] at hkey
  cases hget : (distinct text).get? p.text with
  | none => exact absurd hkey (Entries.get?_eq_none_iff.1 hget)
  | some q =>
    obtain ⟨raw, hq, hraw⟩ := mem_distinct (Entries.mem_of_get? hget)
    obtain ⟨hplain, rfl⟩ := of_hit_mem hq
    rw [String.ofList_toList] at hraw
    rw [(of_hit_mem hp).1.eq_of_text hplain hraw]

theorem mem_hits_of_distinct (h : p ∈ (distinct text).values) : p ∈ hits scan text.toList := by
  obtain ⟨⟨key, p⟩, hmem, rfl⟩ := List.mem_map.1 h
  obtain ⟨raw, hraw, -⟩ := mem_distinct hmem
  obtain ⟨-, rfl⟩ := of_hit_mem hraw
  exact mem_hits_iff.2 hraw

/-! ### The text from the answers -/

/-- The text with every match replaced by what is found for its placeholder. -/
def substituted (content : Placeholder → String) (text : String) : String :=
  String.ofList (substitute scan (fun _ p => (content p).toList) text.toList)

theorem substituted_congr {f g : Placeholder → String} (h : ∀ p ∈ hits scan text.toList, f p = g p) :
    substituted f text = substituted g text := by
  refine congrArg String.ofList (List.flatMap_congr fun piece hpiece => ?_)
  cases piece with
  | plain c => rfl
  | hit raw p =>
    obtain ⟨-, rfl⟩ := of_hit_mem hpiece
    exact congrArg String.toList (h p (mem_hits_iff.2 hpiece))

theorem Plain.substituted_around (h : p.Plain) (content : Placeholder → String)
    (before after : String) : substituted content (before ++ p.text ++ after) =
      substituted content before ++ content p ++ substituted content after := by
  rw [substituted, substitute, segments_around h, List.flatMap_append, List.flatMap_cons]
  simp only [substituted, substitute, String.ofList_append, String.ofList_toList,
    String.append_assoc]

theorem putIn_eq {contents : Entries String} {content : Placeholder → String}
    (h : ∀ p ∈ hits scan text.toList, contents.get? p.text = some (content p)) :
    putIn contents text = .ok (substituted content text) := by
  rw [putIn, substituteM_ok (g := fun _ p => (content p).toList)]
  · rfl
  · intro raw p hmem
    obtain ⟨-, rfl⟩ := of_hit_mem hmem
    rw [String.ofList_toList, h p (mem_hits_iff.2 hmem)]

/-- An answer for a placeholder: what it is to show, or a failure if its count is too long. -/
structure Answered (shows : Placeholder → String → Prop) (p : Placeholder)
    (answer : Except Fault String) : Prop where
  ok : p.Short → ∃ content, answer = .ok content ∧ shows p content
  error : ¬p.Short → answer.isOk = false

section Answers

variable {shows : Placeholder → String → Prop} {ps : List Placeholder}
  {answers : List (Except Fault String)}

theorem exists_contents (h : List.Forall₂ (Answered shows) ps answers) (short : ∀ p ∈ ps, p.Short) :
    ∃ contents, (answers.mapM fun answer => answer) = .ok contents ∧ List.Forall₂ shows ps contents := by
  induction h with
  | nil => exact ⟨[], rfl, .nil⟩
  | cons hp _ ih =>
    rw [List.forall_mem_cons] at short
    obtain ⟨content, rfl, hcontent⟩ := hp.ok short.1
    obtain ⟨contents, hcontents, hshows⟩ := ih short.2
    refine ⟨content :: contents, ?_, .cons hcontent hshows⟩
    rw [List.mapM_cons, hcontents]
    rfl

theorem short_of_contents (h : List.Forall₂ (Answered shows) ps answers) {contents : List String}
    (hcontents : (answers.mapM fun answer => answer) = .ok contents) : ∀ p ∈ ps, p.Short := by
  induction h generalizing contents with
  | nil => simp
  | cons hp _ ih =>
    rw [List.mapM_cons] at hcontents
    obtain ⟨content, hcontent, hrest⟩ := exists_of_bind_ok hcontents
    obtain ⟨rest, hrest, -⟩ := exists_of_bind_ok hrest
    refine List.forall_mem_cons.2 ⟨?_, ih hrest⟩
    by_contra hlong
    have hfail := hp.error hlong
    rw [hcontent] at hfail
    cases hfail

/-- Every match of a filled text shows what was answered for its placeholder. -/
theorem exists_substituted (h : List.Forall₂ (Answered shows) (distinct text).values answers)
    (short : ∀ p ∈ hits scan text.toList, p.Short) :
    ∃ content, fillFrom answers text = .ok (substituted content text) ∧
      ∀ p ∈ hits scan text.toList, shows p (content p) := by
  obtain ⟨contents, hcontents, hshows⟩ :=
    exists_contents h fun p hp => short p (mem_hits_of_distinct hp)
  have hfound : ∀ p ∈ hits scan text.toList, ∃ content,
      Entries.get? p.text ((distinct text).keys.zip contents) = some content ∧ shows p content :=
    fun p hp => Entries.get?_zip hshows (get?_distinct hp)
  refine ⟨fun p => (Entries.get? p.text ((distinct text).keys.zip contents)).getD "", ?_, ?_⟩
  · rw [fillFrom, hcontents]
    refine putIn_eq fun p hp => ?_
    obtain ⟨content, hget, -⟩ := hfound p hp
    rw [hget, Option.getD_some]
  · intro p hp
    obtain ⟨content, hget, hcontent⟩ := hfound p hp
    dsimp only
    rwa [hget, Option.getD_some]

/-- A text is filled just if no count in it is too long. -/
theorem isOk_fillFrom_iff (h : List.Forall₂ (Answered shows) (distinct text).values answers) :
    (fillFrom answers text).isOk = true ↔ ∀ p ∈ hits scan text.toList, p.Short := by
  constructor
  · intro hok p hp
    obtain ⟨filled, hfilled⟩ := isOk_iff.1 hok
    obtain ⟨contents, hcontents, -⟩ := exists_of_bind_ok hfilled
    exact short_of_contents h hcontents p
      (List.mem_map_of_mem (Entries.mem_of_get? (get?_distinct hp)))
  · intro short
    obtain ⟨content, hfilled, -⟩ := exists_substituted h short
    exact isOk_iff.2 ⟨_, hfilled⟩

end Answers

end Placeholder

/-! ### Sources -/

namespace Source

open Placeholder

variable {σ : Type} {text : String}

/-- The answers of a source that always answers a question alike. -/
theorem answered_of_steady (src : Source Id) (text : String) :
    List.Forall₂ (Answered fun p content => content = (src.filling p.feed p.id p.number).run)
      (distinct text).values ((distinct text).values.mapM src.fill).run := by
  rw [List.idRun_mapM, List.forall₂_map_right_iff]
  refine List.forall₂_same.2 fun p _ => ⟨fun short => ⟨_, ?_, rfl⟩, fun long => ?_⟩
  · rw [fill, if_neg (Nat.not_lt.2 short)]
    rfl
  · rw [fill, if_pos (Nat.not_le.1 long)]
    rfl

/-- Such a source fills a text with what it gives for each placeholder. -/
theorem fillPlaceholders_eq (src : Source Id) (short : ∀ p ∈ hits scan text.toList, p.Short) :
    (src.fillPlaceholders text).run =
      .ok (substituted (fun p => (src.filling p.feed p.id p.number).run) text) := by
  obtain ⟨content, hfilled, hcontent⟩ := exists_substituted (src.answered_of_steady text) short
  exact hfilled.trans (congrArg Except.ok (substituted_congr hcontent))

theorem isOk_of_steady (src : Source Id) (text : String) :
    (src.fillPlaceholders text).run.isOk = true ↔ ∀ p ∈ hits scan text.toList, p.Short :=
  isOk_fillFrom_iff (src.answered_of_steady text)

/-- A text with a placeholder in it is filled with what the text before it is filled with, what the
source gives for the placeholder, and what the text behind it is filled with. -/
theorem fillPlaceholders_around (src : Source Id) {p : Placeholder} (hp : p.Plain) (short : p.Short)
    {before after b a : String} (hbefore : (src.fillPlaceholders before).run = .ok b)
    (hafter : (src.fillPlaceholders after).run = .ok a) :
    (src.fillPlaceholders (before ++ p.text ++ after)).run =
      .ok (b ++ (src.filling p.feed p.id p.number).run ++ a) := by
  have hb := (src.isOk_of_steady before).1 (isOk_iff.2 ⟨b, hbefore⟩)
  have ha := (src.isOk_of_steady after).1 (isOk_iff.2 ⟨a, hafter⟩)
  have hall : ∀ q ∈ hits scan (before ++ p.text ++ after).toList, q.Short := by
    intro q hq
    rw [hits, segments_around hp, List.filterMap_append, List.mem_append] at hq
    rcases hq with hq | hq
    · exact hb q hq
    · rcases List.mem_cons.1 hq with rfl | hq
      · exact short
      · exact ha q hq
  rw [src.fillPlaceholders_eq hb] at hbefore
  rw [src.fillPlaceholders_eq ha] at hafter
  rw [src.fillPlaceholders_eq hall, hp.substituted_around, Except.ok.inj hbefore,
    Except.ok.inj hafter]

/-- A text that is a placeholder is filled with what the source gives for that. -/
theorem fillPlaceholders_text (src : Source Id) {p : Placeholder} (hp : p.Plain) (short : p.Short) :
    (src.fillPlaceholders p.text).run = .ok (src.filling p.feed p.id p.number).run := by
  have hempty : (src.fillPlaceholders "").run = .ok "" := rfl
  simpa using src.fillPlaceholders_around hp short hempty hempty

/-- What a source shows for a placeholder at some time: the text of the feed, a mark if the source
fails or answers what cannot be read, or a note that there is no such feed. -/
def Shows (src : Source (StateM σ)) (p : Placeholder) (content : String) : Prop :=
  match Feed.ofName? p.feed with
  | none => content = unknownText p.feed
  | some feed => ∃ s, content =
      match ((src.feedText feed p.id p.number).run s).1 with
      | .ok text => text
      | .error _ => failureText p.feed

theorem shows_filling (src : Source (StateM σ)) (p : Placeholder) (s : σ) :
    src.Shows p ((src.filling p.feed p.id p.number).run s).1 := by
  unfold Shows filling
  cases Feed.ofName? p.feed with
  | none => rfl
  | some feed =>
    refine ⟨s, ?_⟩
    show ((match ((src.feedText feed p.id p.number).run s).1 with
      | .ok text => pure text
      | .error _ => pure (failureText p.feed) : StateM σ String).run _).1 = _
    cases ((src.feedText feed p.id p.number).run s).1 <;> rfl

/-- The answers of a source that is asked one question after another. -/
theorem answered_of_asked (src : Source (StateM σ)) (ps : List Placeholder) (s : σ) :
    List.Forall₂ (Answered src.Shows) ps ((ps.mapM src.fill).run s).1 := by
  induction ps generalizing s with
  | nil => exact .nil
  | cons p ps ih =>
    have hfirst : Answered src.Shows p ((src.fill p).run s).1 := by
      refine ⟨fun short => ⟨_, ?_, src.shows_filling p s⟩, fun long => ?_⟩
      · rw [fill, if_neg (Nat.not_lt.2 short)]
        rfl
      · rw [fill, if_pos (Nat.not_le.1 long)]
        rfl
    rw [List.mapM_cons]
    exact .cons hfirst (ih ((src.fill p).run s).2)

/-- Whatever a source answers, and however its answers depend on what it was asked, a text is filled
just if no count in it is too long; then each placeholder shows what the source gives for it, a failure
as a mark in its place. -/
theorem isOk_fillPlaceholders_iff (src : Source (StateM σ)) (text : String) (s : σ) :
    (((src.fillPlaceholders text).run s).1.isOk = true ↔ ∀ p ∈ hits scan text.toList, p.Short) ∧
      ((∀ p ∈ hits scan text.toList, p.Short) → ∃ content : Placeholder → String,
        ((src.fillPlaceholders text).run s).1 = .ok (substituted content text) ∧
          ∀ p ∈ hits scan text.toList, src.Shows p (content p)) := by
  have hanswers := src.answered_of_asked (distinct text).values s
  exact ⟨isOk_fillFrom_iff hanswers, exists_substituted hanswers⟩

end Source

/-- A placeholder that asks for too many entries for the number to be read. -/
def longPlaceholder : Placeholder := ⟨Feed.chat.name, "a", longNumeral⟩

theorem toList_count_longPlaceholder :
    longPlaceholder.count.toList = List.replicate (Number.digitLimit + 1) '1' :=
  String.toList_ofList

theorem plain_longPlaceholder : longPlaceholder.Plain := by
  refine ⟨Placeholder.isPart_name .chat, ⟨by decide, by simp [longPlaceholder]⟩, ?_, fun c hc => ?_⟩
  · rw [toList_count_longPlaceholder, List.replicate_succ]
    exact List.cons_ne_nil _ _
  · rw [toList_count_longPlaceholder] at hc
    rw [List.eq_of_mem_replicate hc]
    rfl

/-- One such placeholder, and the text is lost, with the other placeholder in it. -/
theorem not_isOk_fillPlaceholders_longNumeral :
    ((History.empty.addMessage "a" ⟨.user, "hi", []⟩).fillPlaceholders
      (longPlaceholder.text ++ " [DYNAMIC:chatHistory:a:1]")).isOk = false := by
  have hmem : longPlaceholder ∈ hits Placeholder.scan
      (longPlaceholder.text ++ " [DYNAMIC:chatHistory:a:1]").toList := by
    have hsegments := Placeholder.segments_around plain_longPlaceholder "" " [DYNAMIC:chatHistory:a:1]"
    rw [String.empty_append] at hsegments
    rw [hits, hsegments]
    exact List.mem_cons_self
  have hlong : ¬longPlaceholder.Short := by
    rw [Placeholder.Short, toList_count_longPlaceholder, List.length_replicate]
    omega
  rw [Bool.eq_false_iff, History.fillPlaceholders]
  intro hok
  exact hlong ((Source.isOk_of_steady _ _).1 hok _ hmem)

end StoryState
