/-!
Entries: a finite map that remembers the order in which its keys came. Putting an existing key keeps
its place, a new key goes to the end.
-/

namespace StoryState

/-- Keyed values in the order of their keys' arrival. -/
abbrev Entries (α : Type) := List (String × α)

namespace Entries

variable {α β : Type}

/-- The value under a key. -/
def get? (key : String) : Entries α → Option α
  | [] => none
  | (k, v) :: es => if k = key then some v else get? key es

/-- Whether a key is present. -/
def has (key : String) (es : Entries α) : Bool := (get? key es).isSome

/-- Sets the value under a key, which keeps its place or goes to the end. -/
def put (key : String) (value : α) : Entries α → Entries α
  | [] => [(key, value)]
  | (k, v) :: es => if k = key then (k, value) :: es else (k, v) :: put key value es

/-- Drops a key. -/
def erase (key : String) (es : Entries α) : Entries α := es.filter (·.1 ≠ key)

/-- Puts all of `news`, in order. -/
def putAll (es news : Entries α) : Entries α := news.foldl (fun acc (k, v) => put k v acc) es

/-- The entries with each key once: at its first place, with its last value. -/
def ofList (pairs : List (String × α)) : Entries α := putAll [] pairs

/-- The keys in order. -/
def keys (es : Entries α) : List String := es.map (·.1)

/-- The values in order. -/
def values (es : Entries α) : List α := es.map (·.2)

/-- Maps the values. -/
def mapValues (f : α → β) (es : Entries α) : Entries β := es.map fun (k, v) => (k, f v)

/-! ### Laws -/

@[simp] theorem get?_nil (key : String) : get? key ([] : Entries α) = none := rfl

theorem get?_put_self (key : String) (v : α) (es : Entries α) :
    get? key (put key v es) = some v := by
  induction es with
  | nil => simp [put, get?]
  | cons e es ih => by_cases h : e.1 = key <;> simp [put, get?, h, ih]

theorem get?_put_of_ne {key k : String} (h : key ≠ k) (v : α) (es : Entries α) :
    get? k (put key v es) = get? k es := by
  induction es with
  | nil => simp [put, get?, h]
  | cons e es ih =>
    by_cases h' : e.1 = key
    · simp [put, get?, h', h]
    · simp [put, get?, h', ih]

end Entries

end StoryState
