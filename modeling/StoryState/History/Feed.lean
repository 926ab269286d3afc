import StoryState.History.Basic
import StoryState.Text.Digit

/-!
Filling the placeholders of feeds from a source. Each distinct placeholder of a text is asked for once.
A placeholder that cannot be filled shows a mark in its place and leaves the others alone; what is put
in is not scanned again.
-/

namespace StoryState

open StoryState.Text

/-! ### Sources -/

/-- A message as a source answers it. -/
inductive Said where
  /-- A value as documents have it. -/
  | value (v : Value)
  /-- A record that knows whether the user speaks and what; either may fail to be looked up. -/
  | told (byUser : Except Fault Bool) (content : Except Fault Value)

/-- Where the entries of feeds are asked for. A source answers in any shape, or fails, and what it
answers may depend on what it was asked before. -/
structure Source (m : Type → Type) where
  /-- The entries of a script. -/
  scripts : String → m (Except Fault Value)
  /-- The newest messages of a chat, so many at most, or none. -/
  chats : String → Nat → m (Except Fault (Option (List Said)))

/-- The newest `n` of some items. -/
def newest {α : Type} (n : Nat) (items : List α) : List α := items.drop (items.length - n)

namespace History

/-- What a history answers. -/
def source : History → Source Id
  | .kept scripts chats =>
    { scripts := fun id =>
        let responses := (Entries.get? id scripts).getD []
        .ok (.list (responses.map fun response => .object [("aiResponse", response)]))
      chats := fun id count =>
        let messages := newest count ((Entries.get? id chats).getD [])
        .ok (if messages.isEmpty then none
          else some (messages.map fun m => .told (.ok (m.role = .user)) (.ok (.text m.content)))) }
  | .given scripts chats =>
    { scripts := fun id => .ok ((Entries.get? id scripts).getD (.list []))
      chats := fun id _ =>
        let messages := (Entries.get? id chats).getD (.list [])
        if !messages.truthy then .ok none
        else messages.iterate.map fun items => some (items.map .value) }
  | .broken =>
    { scripts := fun _ => .error .noHistory
      chats := fun _ _ => .error .noHistory }

end History

/-! ### Lines of a feed -/

/-- What is shown for an entry without a text. -/
def blankEntry : String := "无内容"

/-- A numbered line. -/
def feedLine (number : Nat) (speaker content : String) : String :=
  let content := Text.strip content.toList
  toString number ++ ". " ++ speaker ++
    (if content = [] then blankEntry else String.ofList content)

/-- The plot that an entry of any shape tells. -/
def entryPlot (entry : Value) : String :=
  match entry with
  | .object fields => plotOf ((Entries.get? "aiResponse" fields).getD entry)
  | v => plotOf v

/-- The newest entries among answers of any shape. -/
def newestEntries (count : Nat) : Value → Except Fault (List Value)
  | .list items => .ok (newest count items)
  | .text s => .ok ((newest count s.toList).map fun c => .text (String.ofList [c]))
  | v => if count = 0 then .ok [] else .error (.noParts v.typeName)

/-- The numbered plots. -/
def plotLines (plots : List String) : String :=
  if plots.isEmpty then Feed.script.emptyText
  else "\n".intercalate (plots.zipIdx.map fun (plot, i) => feedLine (i + 1) "" plot)

/-- The newest plots among the entries of a script, numbered. -/
def scriptText (count : Nat) (entries : Value) : Except Fault String :=
  if !entries.truthy then .ok Feed.script.emptyText
  else do return plotLines ((← newestEntries count entries).map entryPlot)

/-- The speaker in front of a message. -/
def speaker (byUser : Bool) : String := if byUser then "用户: " else "AI: "

/-- Whether the user speaks in a message, and what is said. -/
def Said.read : Said → Except Fault (Bool × String)
  | .value (.object fields) => do
    let m ← Message.ofValue (.object fields)
    return (m.role = .user, m.content)
  | .value v => .error (.noMember v.typeName "role")
  | .told byUser content => do
    let byUser ← byUser
    match ← content with
    | .text s => return (byUser, s)
    | v => if v.truthy then throw (.noMember v.typeName "strip") else return (byUser, "")

/-- The messages of a chat, numbered. -/
def chatText : Option (List Said) → Except Fault String
  | none => .ok Feed.chat.emptyText
  | some said => do
    let messages ← said.mapM Said.read
    return "\n".intercalate
      (messages.zipIdx.map fun ((byUser, content), i) => feedLine (i + 1) (speaker byUser) content)

/-- What is shown for a feed whose text cannot be had. -/
def failureText (feed : String) : String := "[解析失败: " ++ feed ++ "]"

/-- What is shown for what is no feed. -/
def unknownText (feed : String) : String := "未知动态宏类型: " ++ feed

/-! ### Placeholders in a text -/

namespace Placeholder

/-- A part of a placeholder and the colon behind it. -/
def part? (s : List Char) : Option (String × List Char) :=
  let part := s.takeWhile fun c => c ≠ ':' && c ≠ ']'
  match part, s.drop part.length with
  | _ :: _, ':' :: rest => some (String.ofList part, rest)
  | _, _ => none

/-- The scanner of placeholders. -/
def scan : Scanner Placeholder := fun s => do
  let s ← dropLead? "[DYNAMIC:".toList s
  let (feed, s) ← part? s
  let (id, s) ← part? s
  let digits := s.takeWhile isDigit
  match digits, s.drop digits.length with
  | _ :: _, ']' :: rest => some (⟨feed, id, String.ofList digits⟩, rest)
  | _, _ => none

/-- Notes a match under its text, unless one stands there. -/
def note (found : Entries Placeholder) : Segment Placeholder → Entries Placeholder
  | .plain _ => found
  | .hit raw p =>
    if found.has (String.ofList raw) then found else found ++ [(String.ofList raw, p)]

/-- The distinct matches in a text, in the order in which they first occur. -/
def distinct (text : String) : Entries Placeholder := (segments scan text.toList).foldl note []

/-- The text with each match replaced by what stands under its text. -/
def putIn (contents : Entries String) (text : String) : Except Fault String := do
  return String.ofList (← substituteM scan (fun raw _ =>
    match contents.get? (String.ofList raw) with
    | some content => .ok content.toList
    | none => .error (.missingField (String.ofList raw))) text.toList)

/-- The text filled from the answers for its distinct matches, if all of them came. -/
def fillFrom (answers : List (Except Fault String)) (text : String) : Except Fault String := do
  putIn ((distinct text).keys.zip (← answers.mapM fun answer => answer)) text

end Placeholder

/-! ### Filling -/

namespace Source

variable {m : Type → Type} [Monad m]

/-- The text for so many entries of a feed. -/
def feedText (src : Source m) (feed : Feed) (id : String) (count : Nat) : m (Except Fault String) :=
  match feed with
  | .script => do return (← src.scripts id).bind (scriptText count)
  | .chat => do return (← src.chats id count).bind chatText

/-- What fills a place for so many entries of a feed: its text, or a mark if that cannot be had. -/
def filling (src : Source m) (feed id : String) (count : Nat) : m String :=
  match Feed.ofName? feed with
  | none => return unknownText feed
  | some f => do
    match ← src.feedText f id count with
    | .ok s => return s
    | .error _ => return failureText feed

/-- What fills a placeholder. -/
def fill (src : Source m) (p : Placeholder) : m (Except Fault String) :=
  let digits := p.count.toList
  if Number.digitLimit < digits.length then return .error (.numeralTooLong digits.length)
  else do return .ok (← src.filling p.feed p.id (readDigits 0 digits))

/-- The text with its placeholders filled. The distinct ones are asked for in turn, and then each
match is replaced by what was answered for its text. -/
def fillPlaceholders (src : Source m) (text : String) : m (Except Fault String) := do
  return Placeholder.fillFrom (← (Placeholder.distinct text).values.mapM src.fill) text

end Source

/-- The text with its placeholders filled from a history. -/
def History.fillPlaceholders (h : History) (text : String) : Except Fault String :=
  (h.source.fillPlaceholders text).run

end StoryState
