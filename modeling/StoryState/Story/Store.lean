import StoryState.Entries
import StoryState.Fault

/-!
A store of payloads by key, which may fail. Others may run while it loads or saves.
-/

namespace StoryState

/-- What a store fails to do. -/
inductive Outage where
  | none
  | loading
  | saving
  | savingAt (key : String)
deriving DecidableEq, Repr

/-- A store of payloads. -/
structure Store where
  payloads : Entries ByteArray := []
  /-- How many payloads have been saved so far. -/
  saves : Nat := 0
  outage : Outage := .none
  /-- How often others may run before a payload has been loaded. -/
  loadRests : Nat := 0
  /-- How often others may run before a payload has been saved. -/
  saveRests : Nat := 1

namespace Store

/-- The payload under a key. -/
def load (key : String) (s : Store) : Except Fault (Option ByteArray) :=
  if s.outage = .loading then .error (.storage key) else .ok (Entries.get? key s.payloads)

/-- Whether saving under a key fails. -/
def refuses (key : String) (s : Store) : Bool :=
  match s.outage with
  | .saving => true
  | .savingAt k => k = key
  | .none | .loading => false

/-- Saves a payload under a key. -/
def save (key : String) (payload : ByteArray) (s : Store) : Store :=
  { s with payloads := s.payloads.put key payload, saves := s.saves + 1 }

/-- Drops the payload under a key. -/
def delete (key : String) (s : Store) : Store := { s with payloads := s.payloads.erase key }

/-- The keys in order. -/
def keys (s : Store) : List String := (Entries.keys s.payloads).mergeSort (· ≤ ·)

/-- The text of the payload under a key. -/
def text (key : String) (s : Store) : Except Fault (Option String) :=
  match Entries.get? key s.payloads with
  | none => .ok none
  | some payload =>
    match String.fromUTF8? payload with
    | some t => .ok (some t)
    | none => .error .notText

end Store

end StoryState
