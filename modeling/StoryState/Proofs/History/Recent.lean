import StoryState.Proofs.History.Filling

/-!
A text filled from a history shows for each placeholder what a text of that placeholder alone would
show: asking once for placeholders that are equal and putting the answers back by their texts comes to
the same as filling each of them, and what is put in is not scanned again
(`Source.fillPlaceholders_each`). A history that is kept in memory shows numbered lines for the newest
entries.
-/

namespace StoryState

open StoryState.Text

/-! ### The newest entries -/

/-- Numbered lines for the newest entries, so many at most, or a text if there are none. -/
def newestLines {α : Type} (empty : String) (line : Nat → α → String) (count : Nat)
    (entries : List α) : String :=
  let recent := entries.drop (entries.length - min count entries.length)
  if recent.isEmpty then empty
  else "\n".intercalate (recent.zipIdx.map fun (entry, i) => line (i + 1) entry)

section Newest

variable {α β : Type} {scripts : Entries (List Value)} {chats : Entries (List Message)}

theorem newest_eq (n : Nat) (items : List α) :
    newest n items = items.drop (items.length - min n items.length) := by
  have hlength : items.length - n = items.length - min n items.length := by omega
  rw [newest, hlength]

theorem newest_map (f : α → β) (n : Nat) (items : List α) :
    newest n (items.map f) = (newest n items).map f := by
  rw [newest, newest, List.length_map, List.map_drop]

theorem newest_nil (n : Nat) : newest n ([] : List α) = [] := by
  rw [newest, List.drop_nil]

theorem plotLines_newest (count : Nat) (responses : List Value) :
    plotLines ((newest count responses).map plotOf) =
      newestLines Feed.script.emptyText (fun i response => feedLine i "" (plotOf response)) count
        responses := by
  rw [newestLines, ← newest_eq, plotLines, List.isEmpty_map, List.zipIdx_map, List.map_map]
  rfl

theorem scriptText_records (count : Nat) (responses : List Value) :
    scriptText count (.list (responses.map fun response => .object [("aiResponse", response)])) =
      .ok (newestLines Feed.script.emptyText (fun i response => feedLine i "" (plotOf response))
        count responses) := by
  rw [← plotLines_newest]
  cases responses with
  | nil => rw [newest_nil]; rfl
  | cons response responses =>
    have htruthy : (Value.list ((response :: responses).map fun response =>
        Value.object [("aiResponse", response)])).truthy = true := rfl
    have hplots : ∀ recent : List Value,
        (recent.map fun response => Value.object [("aiResponse", response)]).map entryPlot =
          recent.map plotOf := fun recent => List.map_map
    rw [scriptText, htruthy, newestEntries, newest_map, ← hplots]
    rfl

theorem read_messages (messages : List Message) :
    (messages.map fun m => Said.told (.ok (m.role = .user)) (.ok (.text m.content))).mapM Said.read =
      .ok (messages.map fun m => (decide (m.role = .user), m.content)) := by
  induction messages with
  | nil => rfl
  | cons m messages ih =>
    rw [List.map_cons, List.mapM_cons, ih]
    rfl

theorem chatText_messages (count : Nat) (messages : List Message) :
    chatText (if (newest count messages).isEmpty then none
      else some ((newest count messages).map fun m =>
        Said.told (.ok (m.role = .user)) (.ok (.text m.content)))) =
      .ok (newestLines Feed.chat.emptyText (fun i m => feedLine i (speaker (m.role = .user)) m.content)
        count messages) := by
  rw [newestLines, ← newest_eq]
  dsimp only
  split
  · rfl
  · rw [chatText, read_messages]
    refine congrArg (fun lines => Except.ok ("\n".intercalate lines)) ?_
    rw [List.zipIdx_map, List.map_map]
    rfl

/-- A feed whose text can be had is shown as that text. -/
theorem filling_of_feedText {src : Source Id} {feed : Feed} {id text : String} {count : Nat}
    (h : (src.feedText feed id count).run = .ok text) : (src.filling feed.name id count).run = text := by
  have hname : Feed.ofName? feed.name = some feed := by
    cases feed <;> rfl
  have hasked : src.feedText feed id count = pure (.ok text) := h
  rw [Source.filling, hname]
  dsimp only
  rw [hasked, pure_bind]
  rfl

theorem filling_script (id : String) (count : Nat) :
    ((History.kept scripts chats).source.filling Feed.script.name id count).run =
      newestLines Feed.script.emptyText (fun i response => feedLine i "" (plotOf response)) count
        ((Entries.get? id scripts).getD []) :=
  filling_of_feedText (scriptText_records count ((Entries.get? id scripts).getD []))

theorem filling_chat (id : String) (count : Nat) :
    ((History.kept scripts chats).source.filling Feed.chat.name id count).run =
      newestLines Feed.chat.emptyText (fun i m => feedLine i (speaker (m.role = .user)) m.content) count
        ((Entries.get? id chats).getD []) :=
  filling_of_feedText (chatText_messages count ((Entries.get? id chats).getD []))

end Newest

/-! ### A text and its placeholders alone -/

open Placeholder in
/-- A text is filled with what each match in it would be filled with alone, and the characters between
them stay. What a match of a known feed is filled with from a history in memory are numbered lines for
the newest entries under its id. -/
theorem fillPlaceholders_each {text : String} (short : ∀ p ∈ hits scan text.toList, p.Short) :
    (∀ src : Source Id, ∃ alone : Placeholder → String,
      (∀ raw p, .hit raw p ∈ segments scan text.toList →
        (src.fillPlaceholders (String.ofList raw)).run = .ok (alone p)) ∧
      (src.fillPlaceholders text).run = .ok (substituted alone text)) ∧
    ∀ scripts chats raw p, .hit raw p ∈ segments scan text.toList →
      (p.feed = Feed.script.name →
        (History.kept scripts chats).fillPlaceholders (String.ofList raw) =
          .ok (newestLines Feed.script.emptyText
            (fun i response => feedLine i "" (plotOf response)) p.number
            ((Entries.get? p.id scripts).getD []))) ∧
      (p.feed = Feed.chat.name →
        (History.kept scripts chats).fillPlaceholders (String.ofList raw) =
          .ok (newestLines Feed.chat.emptyText
            (fun i m => feedLine i (speaker (m.role = .user)) m.content) p.number
            ((Entries.get? p.id chats).getD []))) := by
  have halone : ∀ (src : Source Id) raw p, .hit raw p ∈ segments scan text.toList →
      (src.fillPlaceholders (String.ofList raw)).run =
        .ok (src.filling p.feed p.id p.number).run := by
    intro src raw p hmem
    obtain ⟨hplain, rfl⟩ := of_hit_mem hmem
    rw [String.ofList_toList]
    exact src.fillPlaceholders_text hplain (short p (mem_hits_iff.2 hmem))
  constructor
  · intro src
    exact ⟨_, halone src, src.fillPlaceholders_eq short⟩
  · intro scripts chats raw p hmem
    constructor
    · intro hfeed
      rw [History.fillPlaceholders, halone _ raw p hmem, hfeed, filling_script]
    · intro hfeed
      rw [History.fillPlaceholders, halone _ raw p hmem, hfeed, filling_chat]

/-- A history with a placeholder in it is shown twice, as it stands. -/
theorem fillPlaceholders_each_twice :
    (∀ p ∈ hits Placeholder.scan
      "[DYNAMIC:scriptHistory:s:2] & [DYNAMIC:scriptHistory:s:2]".toList, p.Short) ∧
    (History.kept [("s", [.text "[DYNAMIC:scriptHistory:s:1]"])] []).fillPlaceholders
      "[DYNAMIC:scriptHistory:s:2] & [DYNAMIC:scriptHistory:s:2]" =
        .ok "1. [DYNAMIC:scriptHistory:s:1] & 1. [DYNAMIC:scriptHistory:s:1]" := by
  have hhits : hits Placeholder.scan
      "[DYNAMIC:scriptHistory:s:2] & [DYNAMIC:scriptHistory:s:2]".toList =
        [⟨"scriptHistory", "s", "2"⟩, ⟨"scriptHistory", "s", "2"⟩] := by decide +kernel
  have hshort : ∀ p ∈ hits Placeholder.scan
      "[DYNAMIC:scriptHistory:s:2] & [DYNAMIC:scriptHistory:s:2]".toList, p.Short := by
    rw [hhits]
    decide
  refine ⟨hshort, ?_⟩
  obtain ⟨hsteady, hkept⟩ := fillPlaceholders_each hshort
  obtain ⟨alone, halone, hfilled⟩ :=
    hsteady (History.kept [("s", [.text "[DYNAMIC:scriptHistory:s:1]"])] []).source
  have hmem := Placeholder.mem_hits_iff.1 (hhits ▸ List.mem_cons_self)
  have hlines : newestLines Feed.script.emptyText (fun i response => feedLine i "" (plotOf response)) 2
      [.text "[DYNAMIC:scriptHistory:s:1]"] = "1. [DYNAMIC:scriptHistory:s:1]" := by decide +kernel
  have hcontent : alone ⟨"scriptHistory", "s", "2"⟩ = "1. [DYNAMIC:scriptHistory:s:1]" := by
    refine Except.ok.inj ((halone _ _ hmem).symm.trans ?_)
    exact ((hkept _ [] _ _ hmem).1 rfl).trans (congrArg Except.ok hlines)
  have hall : ∀ p ∈ hits Placeholder.scan
      "[DYNAMIC:scriptHistory:s:2] & [DYNAMIC:scriptHistory:s:2]".toList,
      alone p = "1. [DYNAMIC:scriptHistory:s:1]" := by
    rw [hhits]
    simpa using hcontent
  rw [History.fillPlaceholders, hfilled, Placeholder.substituted_congr hall]
  exact congrArg Except.ok (by decide +kernel)

end StoryState
