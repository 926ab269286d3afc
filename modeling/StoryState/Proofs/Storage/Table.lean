import StoryState.Proofs.Files.Directory
import StoryState.Proofs.Storage.Calls
import StoryState.Proofs.Storage.Pattern
import StoryState.Proofs.Story.View
import Mathlib.Data.List.Sort
import Mathlib.Data.String.Basic

/-!
A table that several namespaces share against a memory for each of them. A namespace is answered as by a
memory of its own if and only if no row of another one looks like a row of it (`tableAnswers_iff`), which is
so of namespaces without the characters that mean something in a row's key or in a pattern, if they differ in
more than the case of letters (`isolated_of_plain`).
-/

namespace StoryState.Gateway

open Storage

variable {database space key : String} {d d' : Disk}

/-! ### Opening -/

/-- The database is there, and so is the directory that its path names. -/
structure Opened (database : String) (fs : Files) : Prop where
  parent : Files.parent database = "" ∨ ∃ place, fs.LeadsTo (Files.parent database) place
  file : fs.isFile database = true

theorem Opened.openTable (h : Opened database d.files) : openTable database d = (.ok (), d) := by
  have hmade : (if Files.parent database = "" then (none, d.files)
      else d.files.makeDirectory (Files.parent database)) = (none, d.files) := by
    rcases h.parent with hempty | ⟨place, hleads⟩
    · rw [if_pos hempty]
    · rw [hleads.makeDirectory, ite_self]
  unfold Gateway.openTable
  rw [hmade]
  dsimp only
  rw [if_pos h.file]

/-- What has been opened is there. -/
theorem opened_of_openTable (h : openTable database d = (.ok (), d')) :
    Opened database d'.files ∧ d'.tables = d.tables := by
  unfold openTable at h
  generalize hmade : (if Files.parent database = "" then (none, d.files)
    else d.files.makeDirectory (Files.parent database)) = made at h
  obtain ⟨failure, fs⟩ := made
  have hparent : failure = none →
      Files.parent database = "" ∨ ∃ place, fs.LeadsTo (Files.parent database) place := by
    rintro rfl
    split at hmade
    · exact .inl ‹_›
    · exact .inr (Files.leadsTo_of_makeDirectory hmade)
  cases failure with
  | some e => cases h
  | none =>
    dsimp only at h
    split at h
    · rename_i hfile
      obtain rfl := (Prod.mk.inj h).2
      exact ⟨⟨hparent rfl, hfile⟩, rfl⟩
    · split at h
      · cases h
      · rename_i fs' hwrite
        obtain rfl := (Prod.mk.inj h).2
        refine ⟨⟨(hparent rfl).imp id fun ⟨place, hleads⟩ =>
          ⟨place, hleads.spared (Files.spared_write hwrite)⟩, ?_⟩, rfl⟩
        unfold Files.isFile
        rw [Files.at?_of_write hwrite]

/-! ### Rows -/

/-- The keys of a namespace among the rows. -/
def listed (space : String) (es : Entries ByteArray) : List String :=
  (((Entries.keys es).filter (like (rowKey space "" ++ "%"))).mergeSort (· ≤ ·)).map
    fun row => String.ofList (row.toList.drop (rowKey space "").length)

theorem length_listed (space : String) (es : Entries ByteArray) : (listed space es).length =
    ((Entries.keys es).filter (like (rowKey space "" ++ "%"))).length := by
  unfold listed
  rw [List.length_map, List.length_mergeSort]

theorem rows_put (database : String) (es : Entries ByteArray) (d : Disk) :
    rows database { d with tables := d.tables.put database es } = es := by
  unfold rows
  rw [Entries.get?_put_self]
  rfl

theorem on_table (h : openTable database d = (.ok (), d')) (space : String) (c : Call) :
    ∃ d'', c.on (.table database space) d =
        (.ok (c.act (rowKey space) (listed space) (rows database d)).1, .table database space, d'') ∧
      Opened database d''.files ∧
      rows database d'' = (c.act (rowKey space) (listed space) (rows database d)).2 := by
  obtain ⟨hopened, htables⟩ := opened_of_openTable h
  have hrows : rows database d = rows database d' := by
    unfold rows
    rw [htables]
  have hon : ∀ {α : Type} (use : Disk → α × Disk),
      onTable database d use = (.ok (use d').1, (use d').2) := by
    intro α use
    unfold onTable
    rw [h]
  rw [hrows]
  cases c with
  | load key =>
    refine ⟨d', ?_, hopened, rfl⟩
    simp only [Call.on, Gateway.load, hon]
    rfl
  | save key payload =>
    refine ⟨{ d' with tables := d'.tables.put database ((rows database d').put (rowKey space key) payload) },
      ?_, hopened, rows_put ..⟩
    simp only [Call.on, Gateway.save, hon]
    rfl
  | delete key =>
    refine ⟨{ d' with tables := d'.tables.put database ((rows database d').erase (rowKey space key)) },
      ?_, hopened, rows_put ..⟩
    simp only [Call.on, Gateway.delete, hon]
    rfl
  | keys =>
    refine ⟨d', ?_, hopened, rfl⟩
    simp only [Call.on, Gateway.keys, hon]
    rfl

/-! ### One namespace among others -/

variable {spaces keys : Set String} {a b row : String} {es payloads : Entries ByteArray}

theorem rowKey_eq (space key : String) : rowKey space key = rowKey space "" ++ key := by
  unfold rowKey
  rw [String.append_empty]

theorem rowKey_injective (space : String) : Function.Injective (rowKey space) := by
  intro key key' h
  rw [rowKey_eq, rowKey_eq space key', ← String.toList_inj, String.toList_append, String.toList_append] at h
  exact String.toList_inj.1 (List.append_cancel_left h)

theorem rowKey_le {key' : String} : rowKey space key ≤ rowKey space key' ↔ key ≤ key' := by
  have hlt : ∀ {k k' : String}, k < k' → rowKey space k < rowKey space k' := by
    intro k k' h
    rw [rowKey_eq, rowKey_eq space k', String.lt_iff, String.toList_append, String.toList_append]
    exact List.append_left_lt (String.lt_iff.1 h)
  constructor
  · intro h
    by_contra hnot
    exact absurd (hlt (String.not_le.1 hnot)) (not_lt.2 h)
  · intro h
    rcases h.eq_or_lt with rfl | h
    · exact le_rfl
    · exact (hlt h).le

/-- A namespace finds its own rows. -/
theorem like_rowKey (space key : String) : like (rowKey space "" ++ "%") (rowKey space key) = true := by
  rw [rowKey_eq space key]
  exact like_append _ _

/-- No row of a namespace about these keys looks like one of another namespace. -/
def Isolated (spaces keys : Set String) : Prop :=
  ∀ a ∈ spaces, ∀ b ∈ spaces, a ≠ b → ∀ key ∈ keys, like (rowKey a "" ++ "%") (rowKey b key) = false

theorem Isolated.rowKey_ne (h : Isolated spaces keys) (ha : a ∈ spaces) (hb : b ∈ spaces) (hne : a ≠ b)
    {key' : String} (hkey : key' ∈ keys) : rowKey b key' ≠ rowKey a key := by
  intro heq
  have hnot := h a ha b hb hne key' hkey
  rw [heq, like_rowKey] at hnot
  cases hnot

/-- The rows that namespaces have about keys. -/
def rowsOf (spaces keys : Set String) : Set String := {row | ∃ b ∈ spaces, ∃ key ∈ keys, row = rowKey b key}

/-- A namespace finds the payloads among the rows, and none besides. -/
structure Shows (spaces keys : Set String) (space : String) (es payloads : Entries ByteArray) : Prop where
  rowsWithin : Within (rowsOf spaces keys) es
  keysWithin : Within keys payloads
  found : ∀ key ∈ keys, Entries.get? (rowKey space key) es = Entries.get? key payloads

theorem mergeSort_eq_of_perm {xs ys : List String} (h : xs.Perm ys) :
    xs.mergeSort (· ≤ ·) = ys.mergeSort (· ≤ ·) :=
  List.Perm.eq_of_sortedLE List.sortedLE_mergeSort List.sortedLE_mergeSort
    ((List.mergeSort_perm _ _).trans (h.trans (List.mergeSort_perm _ _).symm))

/-- What a namespace lists are the keys of its payloads in order. -/
theorem Shows.listed_eq (isolated : Isolated spaces keys) (hspace : space ∈ spaces)
    (h : Shows spaces keys space es payloads) : listed space es = sorted payloads := by
  have hmem : ∀ row, row ∈ (Entries.keys es).filter (like (rowKey space "" ++ "%")) ↔
      row ∈ (Entries.keys payloads).map (rowKey space) := by
    intro row
    rw [List.mem_filter, List.mem_map]
    constructor
    · rintro ⟨hrow, hlike⟩
      obtain ⟨b, hb, key, hkey, rfl⟩ := h.rowsWithin.known row hrow
      obtain rfl : space = b := by
        by_contra hne
        rw [isolated space hspace b hb hne key hkey] at hlike
        cases hlike
      refine ⟨key, ?_, rfl⟩
      by_contra hnot
      rw [← Entries.get?_eq_none_iff, ← h.found key hkey, Entries.get?_eq_none_iff] at hnot
      exact hnot hrow
    · rintro ⟨key, hkey, rfl⟩
      refine ⟨?_, like_rowKey space key⟩
      by_contra hnot
      rw [← Entries.get?_eq_none_iff, h.found key (h.keysWithin.known key hkey),
        Entries.get?_eq_none_iff] at hnot
      exact hnot hkey
  have hperm := (List.perm_ext_iff_of_nodup (h.rowsWithin.once.filter _)
    (h.keysWithin.once.map (rowKey_injective space))).2 hmem
  have hdrop : (fun row : String => String.ofList (row.toList.drop (rowKey space "").length)) ∘
      rowKey space = id := by
    funext key
    show String.ofList ((rowKey space key).toList.drop _) = key
    rw [rowKey_eq space key, String.toList_append, ← String.length_toList, List.drop_left,
      String.ofList_toList]
  unfold listed sorted
  rw [mergeSort_eq_of_perm hperm, ← List.map_mergeSort (r := (· ≤ ·)), List.map_map, hdrop, List.map_id]
  intro key _ key' _
  exact decide_eq_decide.2 rowKey_le.symm

/-- A call in the namespace is answered as by memory, and leaves what memory has. -/
theorem Shows.act (isolated : Isolated spaces keys) (hspace : space ∈ spaces)
    (h : Shows spaces keys space es payloads) {c : Call} (hc : ∀ k, c.key? = some k → k ∈ keys) :
    (c.act (rowKey space) (listed space) es).1 = (c.act id sorted payloads).1 ∧
      Shows spaces keys space (c.act (rowKey space) (listed space) es).2 (c.act id sorted payloads).2 := by
  refine ⟨?_, h.rowsWithin.act fun k hk => ⟨space, hspace, k, hc k hk, rfl⟩, h.keysWithin.act hc, ?_⟩
  · cases c with
    | load key => exact congrArg Answer.payload (h.found key (hc key rfl))
    | save | delete => rfl
    | keys => exact congrArg Answer.keys (h.listed_eq isolated hspace)
  · intro key hkey
    rw [get?_act_id, ← h.found key hkey]
    exact get?_act fun _ _ hsame => rowKey_injective space hsame

/-- A call in another namespace changes nothing here. -/
theorem Shows.aside (isolated : Isolated spaces keys) (hspace : space ∈ spaces)
    (h : Shows spaces keys space es payloads) (hb : b ∈ spaces) (hne : space ≠ b) {c : Call}
    (hc : ∀ k, c.key? = some k → k ∈ keys) :
    Shows spaces keys space (c.act (rowKey b) (listed b) es).2 payloads := by
  refine ⟨h.rowsWithin.act fun k hk => ⟨b, hb, k, hc k hk, rfl⟩, h.keysWithin, fun key hkey => ?_⟩
  rw [← h.found key hkey]
  exact get?_act_of_ne fun k hk => isolated.rowKey_ne hspace hb hne (hc k hk)

/-! ### Plain namespaces -/

/-- A namespace without characters that mean something in the key of a row or in a pattern. -/
def Plain (space : String) : Prop := ∀ c ∈ space.toList, c ≠ '%' ∧ c ≠ '_' ∧ c ≠ ':' ∧ c ≠ '\x00'

instance : DecidablePred Plain := fun space => List.decidableBAll _ space.toList

theorem Plain.colon_not_mem (h : Plain space) : ':' ∉ space.toList.map Char.toLower := by
  intro hmem
  obtain ⟨c, hc, hlower⟩ := List.mem_map.1 hmem
  exact (h c hc).2.2.1 (toLower_eq_colon hlower)

theorem Plain.visible_rowKey (h : Plain space) (rest : String) :
    visible (rowKey space rest).toList = space.toList ++ ':' :: visible rest.toList := by
  have hrow : (rowKey space rest).toList = space.toList ++ ':' :: rest.toList := by
    unfold rowKey
    simp
  unfold visible
  rw [hrow, List.takeWhile_append_of_pos fun c hc => decide_eq_true (h c hc).2.2.2]
  rfl

/-- A row of a plain namespace looks like one of another if they differ in the case of letters only. -/
theorem like_rowKey_plain (ha : Plain a) (hb : Plain b) (key : String) :
    like (rowKey a "" ++ "%") (rowKey b key) = true ↔
      a.toList.map Char.toLower = b.toList.map Char.toLower := by
  have hpattern : visible (rowKey a "" ++ "%").toList = (a.toList ++ [':']) ++ ['%'] := by
    rw [← rowKey_eq, ha.visible_rowKey, List.append_assoc]
    rfl
  have hwild : ∀ c ∈ a.toList ++ [':'], c ≠ '%' ∧ c ≠ '_' := by
    intro c hc
    rcases List.mem_append.1 hc with hc | hc
    · exact ⟨(ha c hc).1, (ha c hc).2.1⟩
    · rw [List.mem_singleton.1 hc]
      decide
  unfold like
  rw [hpattern, hb.visible_rowKey, matchesAll_plain hwild, List.map_append, List.map_append, List.map_cons]
  exact prefix_separator_iff ha.colon_not_mem hb.colon_not_mem

/-- Plain namespaces are isolated, whatever the keys, if they differ in more than the case of letters. -/
theorem isolated_of_plain (hplain : ∀ a ∈ spaces, Plain a)
    (hcase : Set.InjOn (fun a : String => a.toList.map Char.toLower) spaces) (keys : Set String) :
    Isolated spaces keys := by
  intro a ha b hb hne key _
  rw [Bool.eq_false_iff]
  intro hlike
  exact hne (hcase ha hb ((like_rowKey_plain (hplain a ha) (hplain b hb) key).1 hlike))

/-! ### Calls on one table -/

/-- What calls answer that are made one after another on one table, each in a namespace. -/
def tableAnswers (database : String) : List (String × Call) → Disk → List (String × Except Fault Answer)
  | [], _ => []
  | (space, c) :: calls, d =>
    (space, (c.on (.table database space) d).1) ::
      tableAnswers database calls (c.on (.table database space) d).2.2

/-- What belongs to a namespace. -/
def own {α : Type} (space : String) (xs : List (String × α)) : List α :=
  xs.filterMap fun (s, x) => if s = space then some x else none

section

variable {α : Type} {x : α} {xs : List (String × α)}

theorem own_cons_self : own space ((space, x) :: xs) = x :: own space xs :=
  List.filterMap_cons_some (if_pos rfl)

theorem own_cons_of_ne (h : b ≠ space) : own space ((b, x) :: xs) = own space xs :=
  List.filterMap_cons_none (if_neg h)

end

/-- The calls are made in these namespaces, and what they are about are these keys. -/
def InSpaces (spaces keys : Set String) (calls : List (String × Call)) : Prop :=
  ∀ e ∈ calls, e.1 ∈ spaces ∧ ∀ key, e.2.key? = some key → key ∈ keys

theorem own_tableAnswers (isolated : Isolated spaces keys) (hspace : space ∈ spaces)
    {calls : List (String × Call)} (hcalls : InSpaces spaces keys calls)
    (hopen : openTable database d = (.ok (), d'))
    (h : Shows spaces keys space (rows database d) payloads) :
    own space (tableAnswers database calls d) = (acts id sorted (own space calls) payloads).map .ok := by
  induction calls generalizing d d' payloads with
  | nil => rfl
  | cons e calls ih =>
    obtain ⟨b, c⟩ := e
    obtain ⟨⟨hb, hc⟩, hrest⟩ := List.forall_mem_cons.1 hcalls
    obtain ⟨d'', hon, hopened, hrows⟩ := on_table hopen b c
    rw [tableAnswers, hon]
    dsimp only
    by_cases hne : space = b
    · subst hne
      obtain ⟨hanswer, hshows⟩ := h.act isolated hspace hc
      rw [own_cons_self, own_cons_self, acts, List.map_cons, hanswer]
      exact congrArg _ (ih hrest hopened.openTable (hrows ▸ hshows))
    · rw [own_cons_of_ne (Ne.symm hne), own_cons_of_ne (Ne.symm hne)]
      exact ih hrest hopened.openTable (hrows ▸ h.aside isolated hspace hb hne hc)

/-- What a namespace lists behind what another one has saved. -/
theorem own_tableAnswers_listed (hopen : openTable database d = (.ok (), d')) (hrows : rows database d = [])
    (hne : b ≠ a) (key : String) (payload : ByteArray) :
    own a (tableAnswers database [(b, .save key payload), (a, .keys)] d) =
      [.ok (.keys (listed a [(rowKey b key, payload)]))] := by
  obtain ⟨d₁, hon₁, hopened₁, hrows₁⟩ := on_table hopen b (.save key payload)
  obtain ⟨d₂, hon₂, -, -⟩ := on_table hopened₁.openTable a .keys
  rw [tableAnswers, tableAnswers, hon₁, own_cons_of_ne hne]
  dsimp only
  rw [hon₂, own_cons_self, hrows₁, hrows]
  rfl

/-- **Each namespace is answered as by a memory of its own, whatever is called on the scopes, if and only if
no row of a namespace looks like one of another.** -/
theorem tableAnswers_iff (hopen : (openTable database d).1 = .ok ()) (hrows : rows database d = [])
    (spaces : Set String) (scopes : Set Scope) :
    (∀ calls, InSpaces spaces (Scope.storageKey '' scopes) calls → ∀ space ∈ spaces,
      own space (tableAnswers database calls d) = answers (own space calls) (.memory {}) d) ↔
      Isolated spaces (Scope.storageKey '' scopes) := by
  have hopen' : openTable database d = (.ok (), (openTable database d).2) := Prod.ext hopen rfl
  constructor
  · intro hsame a ha b hb hne key hkey
    by_contra hlike
    rw [Bool.not_eq_false] at hlike
    have hanswers := hsame [(b, .save key .empty), (a, .keys)] (by
      refine List.forall_mem_cons.2 ⟨⟨hb, ?_⟩, List.forall_mem_cons.2 ⟨⟨ha, ?_⟩, by simp⟩⟩
      · rintro _ ⟨⟩
        exact hkey
      · rintro _ ⟨⟩) a ha
    rw [own_tableAnswers_listed hopen' hrows (Ne.symm hne), own_cons_of_ne (Ne.symm hne), own_cons_self,
      answers_memory (s := {}) rfl] at hanswers
    have hlisted : listed a [(rowKey b key, .empty)] = sorted [] :=
      Answer.keys.inj (Except.ok.inj (List.cons.inj hanswers).1)
    -- the row of the other namespace is among what is listed, and memory is empty
    have hlength := congrArg List.length hlisted
    rw [length_listed, sorted, List.length_mergeSort, Entries.keys_cons,
      List.filter_cons_of_pos hlike] at hlength
    cases hlength
  · intro isolated calls hcalls space hspace
    rw [answers_memory (s := {}) rfl]
    refine own_tableAnswers isolated hspace hcalls hopen' ⟨?_, within_nil _, fun _ _ => ?_⟩
    · rw [hrows]
      exact within_nil _
    · rw [hrows, Entries.get?_nil, Entries.get?_nil]

theorem tableAnswers_iff_plain :
    (openTable "variables.db" {}).1 = .ok () ∧ rows "variables.db" {} = [] ∧
      ∀ calls, InSpaces {"s1", "s2"} (Scope.storageKey '' Set.univ) calls →
        ∀ space ∈ ({"s1", "s2"} : Set String),
          own space (tableAnswers "variables.db" calls {}) = answers (own space calls) (.memory {}) {} := by
  refine ⟨rfl, rfl, (tableAnswers_iff (d := {}) rfl rfl _ _).2 (isolated_of_plain ?_ ?_ _)⟩
  · rintro a (rfl | rfl) <;> decide
  · rintro a (rfl | rfl) b (rfl | rfl) h
    all_goals first | rfl | exact absurd h (by decide)

/-- A low line in a namespace stands for any character when the keys are listed; and a colon in it may be
that behind a shorter namespace. -/
theorem tableAnswers_lowLine :
    let calls : List (String × Call) := [("s1", .save Scope.global.storageKey "1".toUTF8), ("s_", .keys)]
    let calls' : List (String × Call) := [("a", .save (Scope.character "b:global").storageKey "1".toUTF8),
      ("a:character_b", .load Scope.global.storageKey)]
    own "s_" (tableAnswers "variables.db" calls {}) = [.ok (.keys ["global"])] ∧
      answers (own "s_" calls) (.memory {}) {} = [.ok (.keys [])] ∧
      own "a:character_b" (tableAnswers "variables.db" calls' {}) = [.ok (.payload (some "1".toUTF8))] ∧
      answers (own "a:character_b" calls') (.memory {}) {} = [.ok (.payload none)] := by
  have hlike : like (rowKey "s_" "" ++ "%") (rowKey "s1" "global") = true := by
    simp [like, visible, rowKey, matchesAll, alike]
  have hlisted : listed "s_" [(rowKey "s1" "global", "1".toUTF8)] = ["global"] := by
    unfold listed
    rw [Entries.keys_cons, List.filter_cons_of_pos hlike, Entries.keys_nil, List.filter_nil,
      List.mergeSort_singleton]
    decide
  have hsorted : sorted [] = [] := List.mergeSort_nil
  refine ⟨?_, ?_, rfl, rfl⟩
  · rw [← hlisted]
    exact own_tableAnswers_listed (d := {}) rfl rfl (by decide) _ _
  · rw [← hsorted]
    rfl

end StoryState.Gateway
