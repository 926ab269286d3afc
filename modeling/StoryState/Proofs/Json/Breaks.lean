import StoryState.Proofs.Json.Text
import StoryState.Proofs.Text.Digit

/-!
A document is written without carriage returns, which stand in texts only as escapes; so reading its file does
not change its line breaks.
-/

namespace StoryState.Json

open Text Number

variable {c : Char} {l : Layout} {level n : Nat}

theorem digits_no_return {s : List Char} (h : Digits s) : '\r' ∉ s := by
  intro hr
  cases h '\r' hr

theorem escapeChar_no_return : '\r' ∉ escapeChar c := by
  have hcontrol : ∀ n < 32, '\r' ∉ hexDigits 4 n := by decide
  unfold escapeChar
  split
  · decide
  split
  · decide
  split
  · decide
  split
  · decide
  split
  · decide
  split
  · decide
  split
  · decide
  split
  · simpa using hcontrol c.toNat ‹_›
  · simpa [eq_comm] using ‹¬ c = '\r'›

theorem quote_no_return (s : String) : '\r' ∉ quote s := by
  have htext : '\r' ∉ s.toList.flatMap escapeChar := by
    rw [List.mem_flatMap]
    rintro ⟨c, -, hc⟩
    exact escapeChar_no_return hc
  simpa [quote] using htext

theorem intChars_no_return (n : Int) : '\r' ∉ intChars n := by
  cases n with
  | ofNat k => exact digits_no_return .toDigits
  | negSucc k => simpa [intChars] using digits_no_return (.toDigits (n := k + 1))

/-- What a double is written with besides its digits. -/
theorem layout_no_return {ds : List Char} {point : Int} (h : Digits ds) : '\r' ∉ Number.layout ds point := by
  have hds := digits_no_return h
  unfold Number.layout
  dsimp only
  split
  · split
    · simp [hds, List.mem_replicate]
    · split
      · have htake : '\r' ∉ ds.take point.toNat := fun hr => hds (List.mem_of_mem_take hr)
        have hdrop : '\r' ∉ ds.drop point.toNat := fun hr => hds (List.mem_of_mem_drop hr)
        simp [htake, hdrop]
      · simp [hds, List.mem_replicate]
  · have hsize := digits_no_return (.toDigits (n := (point - 1).natAbs))
    rw [List.mem_append, List.mem_cons, List.mem_cons, List.mem_append, List.mem_replicate]
    rintro (hr | hr | hr | ⟨-, hr⟩ | hr)
    · split at hr <;> simp_all
    · cases hr
    · split at hr <;> cases hr
    · cases hr
    · exact hsize hr

theorem floatChars_no_return (x : Float) : '\r' ∉ floatChars x := by
  unfold floatChars
  split
  · decide
  · split <;> decide
  · rename_i negative m e hparts
    have hbody : '\r' ∉ positiveText m e := by
      unfold positiveText
      split
      · decide
      · exact layout_no_return fun c hc => Digits.toDigits c (List.mem_of_mem_take hc)
    unfold floatText
    rw [hparts]
    cases negative <;> simp [hbody]

/-- The separators of a layout are no carriage returns. -/
structure Layout.Plain (l : Layout) : Prop where
  item : '\r' ∉ l.afterItem.toList
  key : '\r' ∉ l.afterKey.toList

theorem Layout.pretty_plain : Layout.pretty.Plain := ⟨by simp [Layout.pretty], by simp [Layout.pretty]⟩

theorem Layout.newLine_no_return : '\r' ∉ l.newLine level := by
  unfold Layout.newLine
  split
  · simp
  · simp [List.mem_replicate]

mutual

theorem write_no_return (hl : l.Plain) (level : Nat) : ∀ v, '\r' ∉ write l level v
  | .null => by simp [write]
  | .bool b => by cases b <;> simp [write]
  | .int n => intChars_no_return n
  | .float x => floatChars_no_return x
  | .text s => quote_no_return s
  | .list [] => by simp [write]
  | .list (v :: vs) => by
    have hv := write_no_return hl (level + 1) v
    have hvs := writeItems_no_return hl (level + 1) vs
    simp [write, hv, hvs, Layout.newLine_no_return]
  | .object [] => by simp [write]
  | .object ((k, v) :: fs) => by
    have hv := write_no_return hl (level + 1) v
    have hfs := writeFields_no_return hl (level + 1) fs
    have hkey := hl.key
    simp [write, hv, hfs, hkey, quote_no_return, Layout.newLine_no_return]

theorem writeItems_no_return (hl : l.Plain) (level : Nat) : ∀ vs, '\r' ∉ writeItems l level vs
  | [] => by simp [writeItems]
  | v :: vs => by
    have hv := write_no_return hl level v
    have hvs := writeItems_no_return hl level vs
    have hitem := hl.item
    simp [writeItems, hv, hvs, hitem, Layout.newLine_no_return]

theorem writeFields_no_return (hl : l.Plain) (level : Nat) : ∀ fs, '\r' ∉ writeFields l level fs
  | [] => by simp [writeFields]
  | (k, v) :: fs => by
    have hv := write_no_return hl level v
    have hfs := writeFields_no_return hl level fs
    have hitem := hl.item
    have hkey := hl.key
    simp [writeFields, hv, hfs, hitem, hkey, quote_no_return, Layout.newLine_no_return]

end

/-- A document holds no carriage return. -/
theorem render_no_return {document : String} {v : Value} (hl : l.Plain) (h : render l v = .ok document) :
    '\r' ∉ document.toList := by
  unfold render at h
  split at h
  · cases h
    rw [String.toList_ofList]
    exact write_no_return hl 0 v
  · cases h

end StoryState.Json
