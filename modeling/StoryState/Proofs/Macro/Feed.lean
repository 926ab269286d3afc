import StoryState.Macro.Resolve
import StoryState.Proofs.History.Filling
import StoryState.Proofs.Number.Whole
import StoryState.Proofs.Text.Digit

/-!
Macros that stand for feeds, and the placeholders that they become. The placeholder is read back as it
was meant, and filled so wherever it stands, just if its id has neither a colon nor a closing bracket
and the macro does not ask for a part of one entry (`Macro.decodes_feedText_iff`).
-/

namespace StoryState

open StoryState.Text

namespace Macro

/-! ### Counts -/

/-- A count between zero and one, which is more than zero but asks for no entry. -/
def IsFraction (literal : List Char) : Prop :=
  ∃ x, Number.ofText literal = .ok (.float x) ∧ (0.0 : Float) < x ∧ Number.truncate? x = some 0

section Count

variable {literal : List Char} {count : Int}

theorem isFraction_iff {n : Number} (h : Number.ofText literal = .ok n) :
    IsFraction literal ↔ ∃ x, n = .float x ∧ (0.0 : Float) < x ∧ Number.truncate? x = some 0 := by
  unfold IsFraction
  rw [h]
  simp only [Except.ok.injEq]

/-- The count is a number that can be written, and it is zero just for a part of one entry. -/
structure Asks (literal : List Char) (count : Int) : Prop where
  nonneg : 0 ≤ count
  isWritable : Number.isWritable count = true
  eq_zero_iff : count = 0 ↔ IsFraction literal

theorem asks_default (h : ¬IsFraction literal) : Asks literal Feed.defaultCount :=
  ⟨by decide, by decide, iff_of_false (by decide) h⟩

/-- The count that a literal asks for. -/
theorem asks_of_feedCount (h : feedCount literal = .ok count) : Asks literal count := by
  unfold feedCount at h
  split at h
  · rename_i hnil
    cases h
    subst hnil
    refine asks_default fun hfraction => ?_
    simpa using (isFraction_iff (n := .int 0) rfl).1 hfraction
  · obtain ⟨n, hn, h⟩ := exists_of_bind_ok h
    cases n with
    | int n =>
      have hnot : ¬IsFraction literal := by
        rw [isFraction_iff hn]
        simp
      cases h
      split
      · rename_i hpos
        exact ⟨hpos.le, Value.inherited_isWritable.of_ofText hn, iff_of_false hpos.ne' hnot⟩
      · exact asks_default hnot
    | float x =>
      have hiff : IsFraction literal ↔ (0.0 : Float) < x ∧ Number.truncate? x = some 0 := by
        rw [isFraction_iff hn]
        simp
      dsimp only at h
      cases hwhole : Number.truncate? x with
      | none =>
        rw [hwhole] at h hiff
        cases h
        exact asks_default (by simp [hiff])
      | some n =>
        rw [hwhole] at h hiff
        cases h
        split
        · rename_i hpos
          refine ⟨Number.truncate?_nonneg hwhole hpos, Number.isWritable_of_truncate? hwhole, ?_⟩
          simp [hiff, hpos]
        · rename_i hpos
          exact asks_default fun hfraction => hpos (hiff.1 hfraction).1

end Count

/-! ### Placeholders -/

/-- The arguments of a macro: the parts of its body behind the first colon. -/
def arguments (body : List Char) : List (List Char) := (splitOn ':' body).drop 1

/-- The id that the arguments of a feed's macro name, or a default one. -/
def feedId (defaultId : String) (arguments : List (List Char)) : String :=
  match arguments[0]? with
  | none | some [] => defaultId
  | some (c :: id) => String.ofList (c :: id)

/-- The placeholder for so many entries of a feed. -/
def placeholder (feed : Feed) (id : String) (count : Int) : Placeholder :=
  ⟨feed.name, id, String.ofList (Json.intChars count)⟩

/-- A text that is read as the placeholder for so many entries of a feed, and, wherever it stands, is
filled with just these. -/
structure Decodes (text : String) (feed : Feed) (id : String) (count : Int) : Prop where
  whole : Placeholder.scan text.toList = some (placeholder feed id count, [])
  filled : ∀ (src : Source Id) {before after b a : String},
    (src.fillPlaceholders before).run = .ok b → (src.fillPlaceholders after).run = .ok a →
    (src.fillPlaceholders (before ++ text ++ after)).run =
      .ok (b ++ (src.filling feed.name id count.toNat).run ++ a)

theorem feedId_ne_nil {defaultId : String} (h : defaultId ≠ "") (arguments : List (List Char)) :
    (feedId defaultId arguments).toList ≠ [] := by
  unfold feedId
  split
  · simpa using h
  · simpa using h
  · simp

theorem feedText_eq {feed : Feed} {defaultId : String} (h : defaultId ≠ "")
    (arguments : List (List Char)) : feedText feed (some defaultId) arguments = (do
      let count ← feedCount (arguments[1]?.getD [])
      return (placeholder feed (feedId defaultId arguments) count).text) := by
  unfold feedText feedId
  refine congrArg _ (funext fun count => ?_)
  rcases arguments[0]? with _ | _ | ⟨c, id⟩
  · exact if_neg h
  · exact if_neg h
  · have hne : String.ofList (c :: id) ≠ "" := by simp
    exact if_neg hne

section Decoding

variable {feed : Feed} {id : String} {count : Int}

theorem plain_placeholder (hid : Placeholder.IsPart id) (hcount : 0 ≤ count) :
    (placeholder feed id count).Plain := by
  obtain ⟨n, rfl⟩ := Int.eq_ofNat_of_zero_le hcount
  have hdigits : (placeholder feed id n).count.toList = Nat.toDigits 10 n := String.toList_ofList
  refine ⟨Placeholder.isPart_name feed, hid, ?_, ?_⟩
  · rw [hdigits]
    exact Nat.toDigits_ne_nil
  · intro c hc
    rw [hdigits] at hc
    exact isDigit_of_ascii (Digits.toDigits c hc)

theorem short_placeholder (hcount : 0 ≤ count) (hwritable : Number.isWritable count = true) :
    (placeholder feed id count).Short := by
  obtain ⟨n, rfl⟩ := Int.eq_ofNat_of_zero_le hcount
  have hdigits : (placeholder feed id n).count.toList = Nat.toDigits 10 n := String.toList_ofList
  rw [Placeholder.Short, hdigits]
  exact of_decide_eq_true hwritable

theorem number_placeholder (hcount : 0 ≤ count) :
    (placeholder feed id count).number = count.toNat := by
  obtain ⟨n, rfl⟩ := Int.eq_ofNat_of_zero_le hcount
  have hdigits : (placeholder feed id n).count.toList = Nat.toDigits 10 n := String.toList_ofList
  rw [Placeholder.number, hdigits, readDigits_toDigits, Int.toNat_natCast]

/-- A placeholder decodes as what it was meant for just if its id can be a part of it. -/
theorem decodes_iff (hcount : 0 ≤ count) (hwritable : Number.isWritable count = true) :
    Decodes (placeholder feed id count).text feed id count ↔ Placeholder.IsPart id := by
  constructor
  · intro h
    exact (Placeholder.scan_eq_some_iff.1 h.whole).1.id
  · intro hid
    have hplain : (placeholder feed id count).Plain := plain_placeholder hid hcount
    refine ⟨Placeholder.scan_eq_some_iff.2 ⟨hplain, (List.append_nil _).symm⟩, ?_⟩
    intro src before after b a hbefore hafter
    have hfilled := src.fillPlaceholders_around hplain (short_placeholder hcount hwritable)
      hbefore hafter
    rwa [number_placeholder hcount] at hfilled

end Decoding

/-- The placeholder that a feed's macro becomes asks for one entry at least and decodes as what it was
meant for just if the macro does not ask for a part of one entry and the id has neither a colon nor a
closing bracket. -/
theorem decodes_feedText_iff {feed : Feed} {body : List Char} {defaultId text : String}
    (hdefault : defaultId ≠ "") (h : feedText feed (some defaultId) (arguments body) = .ok text) :
    ∃ count, feedCount ((arguments body)[1]?.getD []) = .ok count ∧
      text = (placeholder feed (feedId defaultId (arguments body)) count).text ∧
      (1 ≤ count ∧ Decodes text feed (feedId defaultId (arguments body)) count ↔
        ¬IsFraction ((arguments body)[1]?.getD []) ∧
          ∀ c ∈ (feedId defaultId (arguments body)).toList, c ≠ ':' ∧ c ≠ ']') := by
  rw [feedText_eq hdefault] at h
  obtain ⟨count, hcount, h⟩ := exists_of_bind_ok h
  cases h
  have hasks : Asks _ count := asks_of_feedCount hcount
  refine ⟨count, hcount, rfl, ?_⟩
  rw [decodes_iff hasks.nonneg hasks.isWritable, ← hasks.eq_zero_iff]
  have hpos : 1 ≤ count ↔ ¬count = 0 := by
    have hnonneg := hasks.nonneg
    omega
  rw [hpos]
  exact and_congr_right fun _ =>
    ⟨fun hpart => hpart.plain, fun hplain => ⟨feedId_ne_nil hdefault _, hplain⟩⟩

theorem decodes_feedText_iff_five :
    feedText .script (some "d") (arguments "scriptHistoryRecent:s:5".toList) =
      .ok "[DYNAMIC:scriptHistory:s:5]" ∧
    ∃ count, 1 ≤ count ∧ Decodes "[DYNAMIC:scriptHistory:s:5]" .script "s" count := by
  have htext : feedText .script (some "d") (arguments "scriptHistoryRecent:s:5".toList) =
      .ok "[DYNAMIC:scriptHistory:s:5]" := by rfl
  have hfive : Number.ofText ['5'] = .ok (.int 5) := by rfl
  have hfraction : ¬IsFraction ['5'] := by
    rintro ⟨x, hx, -⟩
    rw [hfive] at hx
    cases hx
  have hplain : ∀ c ∈ "s".toList, c ≠ ':' ∧ c ≠ ']' := by simp
  have hdefault : "d" ≠ "" := by simp
  obtain ⟨count, -, -, hiff⟩ := decodes_feedText_iff hdefault htext
  exact ⟨htext, count, hiff.2 ⟨hfraction, hplain⟩⟩

/-- Half an entry is none: nothing is shown of a history that there is. -/
theorem fillPlaceholders_half :
    feedText .script none (arguments "scriptHistoryRecent:s:0.5".toList) =
        .ok "[DYNAMIC:scriptHistory:s:0]" ∧
      (History.empty.addResponse "s" (.text "one")).fillPlaceholders "[DYNAMIC:scriptHistory:s:0]" =
        .ok Feed.script.emptyText := by
  constructor
  · rfl
  · rfl

end Macro

end StoryState
