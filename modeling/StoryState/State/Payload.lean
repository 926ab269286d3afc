import StoryState.State.Basic

/-!
States as values and back: the form in which they are shown, stored and exchanged. Reading fills in
what a record leaves out and refuses only what has the wrong shape.
-/

namespace StoryState

/-! ### Reading records of any shape -/

namespace Value

/-- The field of a record. -/
def field? (key : String) (v : Value) : Except Fault (Option Value) :=
  match v with
  | .object fields => .ok (Entries.get? key fields)
  | v => .error (.noMember v.typeName "get")

/-- The field of a record, or nothing. -/
def fieldOrNull (key : String) (v : Value) : Except Fault Value :=
  (v.field? key).map (·.getD .null)

/-- The field of a record as a flag, down unless set. -/
def flag (key : String) (v : Value) : Except Fault Bool :=
  (v.field? key).map fun found => (found.map truthy).getD false

/-- The items of a value: those of a list, the keys of an object, the characters of a text. -/
def iterate : Value → Except Fault (List Value)
  | .list items => .ok items
  | .object fields => .ok (fields.map fun (k, _) => .text k)
  | .text s => .ok (s.toList.map fun c => .text (String.ofList [c]))
  | v => .error (.notIterable v.typeName)

/-- The key that a value makes. -/
def key : Value → Except Fault String
  | .text s => .ok s
  | .list items => .error (.notKey (Value.list items).typeName)
  | .object fields => .error (.notKey (Value.object fields).typeName)
  | v => .ok (String.ofList (Json.write .compact 0 v))

/-- The key and value of a pair at its place in a list. -/
def pair (item : Value) (index : Nat) : Except Fault (String × Value) :=
  match item.iterate with
  | .error _ => .error (.notPair index)
  | .ok [k, v] => do return (← k.key, v)
  | .ok parts => .error (.badPair index parts.length)

/-- The entries of an object, or of pairs. -/
def toEntries : Value → Except Fault (Entries Value)
  | .object fields => .ok fields
  | v => do
    let items ← v.iterate
    return Entries.ofList (← items.zipIdx.mapM fun (item, index) => item.pair index)

/-- The entries of a record that may be left out. -/
def optionalEntries (v : Value) : Except Fault (Entries Value) :=
  match v with
  | .object fields => .ok fields
  | v => if v.truthy then .error (.noMember v.typeName "items") else .ok []

/-- The value, unless it is false or empty. -/
def ifTruthy (v : Value) : Option Value := if v.truthy then some v else none

end Value

/-! ### Variables -/

/-- The record of a case. -/
def Branch.toValue (b : Branch) : Value :=
  .object (((b.condition.map fun c => ("condition", c)).toList) ++ [("value", b.value)])

/-- The case of a record. -/
def Branch.ofValue (v : Value) : Except Fault Branch := do
  return ⟨← v.fieldOrNull "value", (← v.fieldOrNull "condition").ifTruthy⟩

/-- The record of a variable. -/
def Variable.toValue (x : Variable) : Value :=
  .object ([("type", x.declared), ("value", x.value), ("isConditional", .bool x.isConditional)] ++
    (x.branches.map fun bs => ("branches", Value.list (bs.map Branch.toValue))).toList)

/-- The variable of a record. -/
def Variable.ofValue (v : Value) : Except Fault Variable := do
  let branches ← v.fieldOrNull "branches"
  let declared := (← v.field? "type").getD (.text "string")
  let value ← v.fieldOrNull "value"
  let isConditional ← v.flag "isConditional"
  match branches with
  | .null => return ⟨declared, value, isConditional, none⟩
  | bs => return ⟨declared, value, isConditional, some (← (← bs.iterate).mapM Branch.ofValue)⟩

/-! ### Tables -/

/-- The record of a column. -/
def Column.toValue (c : Column) : Value :=
  .object [("name", c.name), ("type", c.declared), ("required", .bool c.required)]

/-- The column of a record. -/
def Column.ofValue (v : Value) : Except Fault Column :=
  match v with
  | .object fields =>
    match Entries.get? "name" fields with
    | none => .error (.missingField "name")
    | some name => do
      return ⟨name, (Entries.get? "type" fields).getD (.text "string"), ← v.flag "required"⟩
  | .text _ => .error (.namedPart true)
  | .list _ => .error (.namedPart false)
  | v => .error (.noParts v.typeName)

/-- The record of a table. -/
def Table.toValue (t : Table) : Value :=
  .object [("name", t.name), ("columns", .list (t.columns.map Column.toValue)),
    ("rows", .list (t.rows.map .object))]

/-- The table of a record that stands under `key`, its name if the record has none. -/
def Table.ofValue (key : String) (v : Value) : Except Fault Table := do
  let name := ((← v.fieldOrNull "name").ifTruthy).getD (.text key)
  let columns ← ((← v.field? "columns").getD (.list [])).iterate
  let columns ← columns.mapM Column.ofValue
  let rows ← ((← v.field? "rows").getD (.list [])).iterate
  return ⟨name, columns, ← rows.mapM Value.toEntries⟩

/-! ### Hidden variables -/

/-- The record of a hidden variable. -/
def Hidden.toValue (h : Hidden) : Value :=
  .object [("condition", h.condition), ("value", h.value), ("hasExpiration", .bool h.hasExpiration),
    ("isExpired", .bool h.isExpired)]

/-- The hidden variable of a record. -/
def Hidden.ofValue (v : Value) : Except Fault Hidden := do
  return ⟨(← v.field? "condition").getD (.text ""), ← v.fieldOrNull "value",
    ← v.flag "hasExpiration", ← v.flag "isExpired"⟩

/-! ### States -/

/-- The record of a state. -/
def State.toValue (s : State) : Value :=
  .object [("variables", .object (s.vars.mapValues Variable.toValue)),
    ("tables", .object (s.tables.mapValues Table.toValue)),
    ("hiddenVariables", .object (s.hidden.mapValues Hidden.toValue))]

/-- The state of a record; a value that is false or empty is the empty state. -/
def State.ofValue (v : Value) : Except Fault State := do
  let v := v.ifTruthy.getD (.object [])
  let vars ← (← v.fieldOrNull "variables").optionalEntries
  let vars ← vars.mapM fun (k, x) => do return (k, ← Variable.ofValue x)
  let tables ← (← v.fieldOrNull "tables").optionalEntries
  let tables ← tables.mapM fun (k, x) => do return (k, ← Table.ofValue k x)
  let hidden ← (← v.fieldOrNull "hiddenVariables").optionalEntries
  let hidden ← hidden.mapM fun (k, x) => do return (k, ← Hidden.ofValue x)
  return ⟨vars, tables, hidden⟩

/-! ### Snapshots -/

/-- The states of all scopes at one time. -/
structure Snapshot where
  global : State := {}
  characters : Entries State := []

/-- The record of a snapshot. -/
def Snapshot.toValue (s : Snapshot) : Value :=
  .object [("global", s.global.toValue),
    ("characters", .object (s.characters.mapValues State.toValue))]

/-- The snapshot of a record. -/
def Snapshot.ofValue (v : Value) : Except Fault Snapshot := do
  let v := v.ifTruthy.getD (.object [])
  let global ← State.ofValue (← v.fieldOrNull "global")
  let characters ← (← v.fieldOrNull "characters").optionalEntries
  return ⟨global, ← characters.mapM fun (k, x) => do return (k, ← State.ofValue x)⟩

/-! ### Payloads -/

/-- The document in which a state is stored. -/
def State.payload (s : State) : Except Fault String := Json.render .pretty s.toValue

/-- The state stored in a document. -/
def State.ofPayload (document : String) : Except Fault State := do
  State.ofValue (← Json.read document)

/-- The state stored in bytes. -/
def State.ofBytes (payload : ByteArray) : Except Fault State :=
  match String.fromUTF8? payload with
  | some document => State.ofPayload document
  | none => .error .notText

end StoryState
