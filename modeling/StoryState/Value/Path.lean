import StoryState.Json.Reader

/-!
Dotted paths into nested values. Writing creates what is missing on the way: a list where the next
segment is an index, an object elsewhere; a container of the other sort is converted. Reading follows
the same segments and gives up where they lead nowhere.
-/

namespace StoryState.Value

open StoryState.Text

/-! ### Segments -/

/-- A segment that is an index: digits, and perhaps a line break behind them. -/
def indexDigits? (segment : List Char) : Option (List Char) :=
  let digits := if segment.getLast? = some '\n' then segment.dropLast else segment
  if digits ≠ [] && digits.all isDigit then some digits else none

/-- Whether a segment is an index. -/
def isIndex (segment : List Char) : Bool := (indexDigits? segment).isSome

/-- Why a path cannot be written. -/
inductive PathFault where
  /-- A list asked for a key. -/
  | keyOfList (key : String)
  /-- A value that holds nothing. -/
  | notContainer (typeName : String)
  /-- An index with too many digits. -/
  | index (digits : Nat)
  /-- The last segment is an index and what it should index is no list. -/
  | notList
deriving Repr, DecidableEq

/-- The wording of a fault at a path. -/
def PathFault.message (path : String) : PathFault → String
  | .keyOfList key => "设置路径 " ++ path ++ " 失败: 数组不能使用键 " ++ key
  | .notContainer typeName => "设置路径 " ++ path ++ " 失败: " ++ typeName ++ " 不是容器"
  | .index digits => "设置路径 " ++ path ++ " 失败: " ++ (Fault.numeralTooLong digits).message
  | .notList => "路径 " ++ path ++ " 中的容器不是数组"

/-- The index that a segment denotes. -/
def index (segment : List Char) : Except PathFault Nat :=
  match indexDigits? segment with
  | none => .error (.keyOfList (String.ofList segment))
  | some digits =>
    if Number.digitLimit < digits.length then .error (.index digits.length)
    else .ok (readDigits 0 digits)

/-! ### Children -/

/-- The list with `v` at index `i`, filled up with nulls as far as needed. -/
def setItem (items : List Value) (i : Nat) (v : Value) : List Value :=
  (items ++ List.replicate (i + 1 - items.length) Value.null).set i v

/-- The child at a segment, or null where there is none. -/
def child (container : Value) (segment : List Char) : Except PathFault Value :=
  match container with
  | .list items => do return items.getD (← index segment) .null
  | .object fields => .ok ((Entries.get? (String.ofList segment) fields).getD .null)
  | v => .error (.notContainer v.typeName)

/-- The container with another child at a segment. -/
def setChild (container : Value) (segment : List Char) (v : Value) : Except PathFault Value :=
  match container with
  | .list items => do return .list (setItem items (← index segment) v)
  | .object fields => .ok (.object (Entries.put (String.ofList segment) v fields))
  | v => .error (.notContainer v.typeName)

/-- The fields under indices as the items of a list. -/
def itemsOfFields : List Value → Entries Value → Except PathFault (List Value)
  | items, [] => .ok items
  | items, (k, v) :: fields =>
    if isIndex k.toList then do itemsOfFields (setItem items (← index k.toList) v) fields
    else itemsOfFields items fields

/-- The items of a list as fields under their indices. -/
def fieldsOfItems (items : List Value) : Entries Value :=
  items.zipIdx.map fun (v, i) => (toString i, v)

/-- The container that stands in for a child so that the next segment fits: the child itself, a
conversion of it, or an empty container. -/
def fitting (wantsList : Bool) : Value → Except PathFault Value
  | .list items => .ok (if wantsList then .list items else .object (fieldsOfItems items))
  | .object fields =>
    if wantsList then (itemsOfFields [] fields).map .list else .ok (.object fields)
  | _ => .ok (if wantsList then .list [] else .object [])

/-! ### Writing -/

/-- What is stored for a written value: the document of a text that begins like a list or an object
and is one, else the value itself. -/
def stored : Value → Value
  | .text s =>
    if s.toList.head? = some '\x7b' || s.toList.head? = some '[' then
      (Json.read s).toOption.getD (.text s)
    else .text s
  | v => v

/-- Writes below a container. The container comes back also when the writing stops: what was
converted on the way stays converted. -/
def write (container : Value) (v : Value) : List (List Char) → Value × Option PathFault
  | [] => (container, none)
  | [last] =>
    if isIndex last && !container.isList then (container, some .notList)
    else
      match setChild container last (stored v) with
      | .ok container => (container, none)
      | .error e => (container, some e)
  | segment :: next :: rest =>
    let fitted := do
      let c ← fitting (isIndex next) (← child container segment)
      return (← setChild container segment c, c)
    match fitted with
    | .error e => (container, some e)
    | .ok (container, c) =>
      let (c, outcome) := write c v (next :: rest)
      match setChild container segment c with
      | .ok container => (container, outcome)
      | .error e => (container, some e)

/-- Writes a value at a dotted path; the wording of what went wrong comes back with the container. -/
def writePath (container : Value) (path : String) (v : Value) : Value × Option String :=
  let (container, outcome) := write container v (splitOn '.' path.toList)
  (container, outcome.map (·.message path))

/-! ### Reading -/

/-- The number at the head of a text: blanks, a sign and digits. -/
def leadingInt? (s : List Char) : Except Fault (Option Int) :=
  let (negative, r) := Number.takeSign (skipBlanks s)
  let digits := r.takeWhile isDigit
  if digits = [] then .ok none
  else if Number.digitLimit < digits.length then .error (.numeralTooLong digits.length)
  else .ok (some (Number.signed negative digits))

/-- The item at an index, if the index lies in the list. -/
def item? {α : Type} (items : List α) (i : Int) : Option α :=
  match i with
  | .ofNat n => items[n]?
  | .negSucc _ => none

/-- Follows segments into a value; the empty text stands for what is not there. -/
def follow (v : Value) : List (List Char) → Except Fault Value
  | [] => .ok v
  | segment :: rest => do
    let found ←
      match v with
      | .list items => do
        match ← leadingInt? segment with
        | none => pure none
        | some i => pure (item? items i)
      | .object fields => pure (Entries.get? (String.ofList segment) fields)
      | _ => pure none
    match found with
    | none | some .null => return .text ""
    | some c => follow c rest

end StoryState.Value
