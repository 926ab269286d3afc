import StoryState.Proofs.Entries
import StoryState.Storage.Gateway
import Mathlib.Data.Set.Function

/-!
Calls on a gateway, made one after another, and what they answer. Every gateway that works acts on entries,
whose names it makes of the keys (`Call.act`); memory takes the keys as they are. What is answered does not
depend on the names, as long as different keys have different ones (`acts_eq`).
-/

namespace StoryState.Gateway

/-- A call on a gateway. -/
inductive Call where
  | load (key : String)
  | save (key : String) (payload : ByteArray)
  | delete (key : String)
  | keys

/-- What a call answers if it goes through. -/
inductive Answer where
  | payload (found : Option ByteArray)
  | done
  | keys (keys : List String)

namespace Call

/-- The key that a call is about. -/
def key? : Call → Option String
  | .load key | .save key _ | .delete key => some key
  | .keys => none

/-- Makes a call. -/
def on (c : Call) (g : Gateway) (d : Disk) : Except Fault Answer × Gateway × Disk :=
  match c with
  | .load key =>
    let (r, d) := g.load key d
    (r.map .payload, g, d)
  | .save key payload =>
    let (r, g, d) := g.save key payload d
    (r.map fun _ => .done, g, d)
  | .delete key =>
    let (r, g, d) := g.delete key d
    (r.map fun _ => .done, g, d)
  | .keys =>
    let (r, d) := g.keys d
    (r.map .keys, g, d)

/-- What a call answers on entries, and what it leaves of them: each key has a name among them, and `list`
says which keys are there. -/
def act (name : String → String) (list : Entries ByteArray → List String) (es : Entries ByteArray) :
    Call → Answer × Entries ByteArray
  | .load key => (.payload (es.get? (name key)), es)
  | .save key payload => (.done, es.put (name key) payload)
  | .delete key => (.done, es.erase (name key))
  | .keys => (.keys (list es), es)

/-- What is kept under a key behind a call, given what was kept before. -/
def leaves (key : String) (kept : Option ByteArray) : Call → Option ByteArray
  | .save k payload => if k = key then some payload else kept
  | .delete k => if k = key then none else kept
  | .load _ | .keys => kept

end Call

/-- What calls answer that are made one after another. -/
def answers : List Call → Gateway → Disk → List (Except Fault Answer)
  | [], _, _ => []
  | c :: calls, g, d => (c.on g d).1 :: answers calls (c.on g d).2.1 (c.on g d).2.2

/-- What they answer on entries. -/
def acts (name : String → String) (list : Entries ByteArray → List String) :
    List Call → Entries ByteArray → List Answer
  | [], _ => []
  | c :: calls, es => (c.act name list es).1 :: acts name list calls (c.act name list es).2

/-- The payload that was saved last under a key, unless it was deleted since. -/
def lastSaved (key : String) (calls : List Call) : Option ByteArray :=
  calls.foldl (fun kept c => c.leaves key kept) none

/-- Every call is about one of the keys. -/
def OnKeys (keys : Set String) (calls : List Call) : Prop :=
  ∀ c ∈ calls, ∃ key ∈ keys, c.key? = some key

/-! ### Entries -/

section

variable {name : String → String} {list list' : Entries ByteArray → List String} {es es' : Entries ByteArray}
  {c : Call} {row key : String} {names keys : Set String}

theorem get?_act_of_ne (h : ∀ k, c.key? = some k → name k ≠ row) :
    Entries.get? row (c.act name list es).2 = Entries.get? row es := by
  cases c with
  | load | keys => rfl
  | save k payload => exact Entries.get?_put_of_ne (h k rfl) payload es
  | delete k => exact Entries.get?_erase_of_ne (h k rfl) es

/-- A call changes what is kept under its own key. -/
theorem get?_act (h : ∀ k, c.key? = some k → name k = name key → k = key) :
    Entries.get? (name key) (c.act name list es).2 = c.leaves key (Entries.get? (name key) es) := by
  cases c with
  | load | keys => rfl
  | save k payload =>
    show Entries.get? (name key) (Entries.put (name k) payload es) = if k = key then _ else _
    split
    · rename_i hk
      rw [hk, Entries.get?_put_self]
    · rename_i hk
      exact Entries.get?_put_of_ne (fun hname => hk (h k rfl hname)) payload es
  | delete k =>
    show Entries.get? (name key) (Entries.erase (name k) es) = if k = key then _ else _
    split
    · rename_i hk
      rw [hk, Entries.get?_erase_self]
    · rename_i hk
      exact Entries.get?_erase_of_ne (fun hname => hk (h k rfl hname)) es

theorem get?_act_id :
    Entries.get? key (c.act id list es).2 = c.leaves key (Entries.get? key es) :=
  @get?_act id list es c key fun _ _ h => h

/-- The names of the entries are distinct, and are of these. -/
structure Within (names : Set String) (es : Entries ByteArray) : Prop where
  once : Entries.Once es
  known : ∀ row ∈ Entries.keys es, row ∈ names

theorem within_nil (names : Set String) : Within names [] := ⟨Entries.once_nil, fun _ h => nomatch h⟩

theorem Within.act (h : Within names es) (hc : ∀ k, c.key? = some k → name k ∈ names) :
    Within names (c.act name list es).2 := by
  cases c with
  | load | keys => exact h
  | save k payload =>
    refine ⟨h.once.put _ _, fun row hrow => ?_⟩
    rcases Entries.mem_keys_put.1 hrow with rfl | hrow
    · exact hc k rfl
    · exact h.known row hrow
  | delete k =>
    refine ⟨h.once.erase _, fun row hrow => ?_⟩
    have hkeys : Entries.keys (Entries.erase (name k) es) = _ := Entries.keys_erase (name k) es
    exact h.known row (List.mem_of_mem_filter (hkeys ▸ hrow))

/-- Different keys of different names are answered as they are under their own names. -/
theorem acts_eq (hname : Set.InjOn name keys) {calls : List Call} (hcalls : OnKeys keys calls)
    (h : ∀ key ∈ keys, Entries.get? (name key) es = Entries.get? key es') :
    acts name list calls es = acts id list' calls es' := by
  induction calls generalizing es es' with
  | nil => rfl
  | cons c calls ih =>
    obtain ⟨k, hk, hc⟩ := hcalls c List.mem_cons_self
    have hanswer : (c.act name list es).1 = (c.act id list' es').1 := by
      cases c with
      | load key =>
        obtain rfl : key = k := Option.some.inj hc
        exact congrArg Answer.payload (h key hk)
      | save | delete => rfl
      | keys => cases hc
    rw [acts, acts, hanswer]
    refine congrArg _ (ih (fun c hc => hcalls c (List.mem_cons_of_mem _ hc)) fun key hkey => ?_)
    rw [get?_act_id, ← h key hkey]
    refine get?_act fun k' hk' hsame => hname ?_ hkey hsame
    rw [hc] at hk'
    exact Option.some.inj hk' ▸ hk

/-- What is loaded is what was saved last. -/
theorem getElem?_acts (before after : List Call) (key : String) :
    (acts id list (before ++ .load key :: after) [])[before.length]? =
      some (.payload (lastSaved key before)) := by
  suffices hfrom : ∀ es : Entries ByteArray,
      (acts id list (before ++ .load key :: after) es)[before.length]? =
        some (.payload (before.foldl (fun kept c => c.leaves key kept) (Entries.get? key es))) from hfrom []
  induction before with
  | nil => exact fun es => rfl
  | cons c before ih =>
    intro es
    rw [List.cons_append, acts, List.length_cons, List.getElem?_cons_succ, ih, get?_act_id]
    rfl

end

/-! ### Memory -/

/-- The keys of entries in order. -/
def sorted (es : Entries ByteArray) : List String := (Entries.keys es).mergeSort (· ≤ ·)

variable {s : Store}

theorem on_memory (h : s.outage = .none) (c : Call) (d : Disk) :
    ∃ s', c.on (.memory s) d = (.ok (c.act id sorted s.payloads).1, .memory s', d) ∧
      s'.outage = .none ∧ s'.payloads = (c.act id sorted s.payloads).2 := by
  cases c with
  | load key =>
    refine ⟨s, ?_, h, rfl⟩
    show ((s.load key).map Answer.payload, _) = _
    rw [Store.load, if_neg (by simp [h])]
    rfl
  | save key payload => exact ⟨s.save key payload, rfl, h, rfl⟩
  | delete key => exact ⟨s.delete key, rfl, h, rfl⟩
  | keys => exact ⟨s, rfl, h, rfl⟩

theorem answers_memory (h : s.outage = .none) (calls : List Call) (d : Disk) :
    answers calls (.memory s) d = (acts id sorted calls s.payloads).map .ok := by
  induction calls generalizing s with
  | nil => rfl
  | cons c calls ih =>
    obtain ⟨s', hon, hs', hpayloads⟩ := on_memory h c d
    rw [answers, hon, acts, List.map_cons, ← hpayloads, ih hs']

end StoryState.Gateway
