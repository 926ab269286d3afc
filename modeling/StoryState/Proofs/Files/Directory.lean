import StoryState.Proofs.Files.Path
import Mathlib.Data.List.Basic

/-!
The files of one directory. `Files.Holds` says what files a directory holds as it is seen from outside, by
listing it and by looking at their paths; a file more is held behind `write`, and one less behind `remove`.
Making a directory keeps what was there (`extends_makeDirectory`), and its path leads to it then
(`leadsTo_of_makeDirectory`).
-/

namespace StoryState.Files

variable {fs fs' : Files} {directory name : String} {place target : List String}

/-! ### Walking -/

theorem checkDirectory_eq : fs.checkDirectory place = .ok () ↔ fs.node? place = some .directory := by
  unfold checkDirectory
  split <;> simp_all

theorem walk_cons (h : fs.node? place = some .directory) (part : String) (rest : List String) :
    fs.walk place (part :: rest) =
      if part = "" || part = "." then fs.walk place rest
      else if part = ".." then fs.walk place.dropLast rest
      else if nameLimit < part.utf8ByteSize then .error .nameTooLong
      else fs.walk (place ++ [part]) rest := by
  rw [walk, checkDirectory_eq.2 h]
  rfl

theorem walk_error (h : fs.node? place ≠ some .directory) :
    ∃ e, ∀ part rest, fs.walk place (part :: rest) = .error e := by
  cases hcheck : fs.checkDirectory place with
  | error e =>
    refine ⟨e, fun part rest => ?_⟩
    rw [walk, hcheck]
    rfl
  | ok _ => exact absurd (checkDirectory_eq.1 hcheck) h

theorem node?_of_walk {part : String} {rest : List String}
    (h : fs.walk place (part :: rest) = .ok target) : fs.node? place = some .directory := by
  by_contra hnode
  obtain ⟨e, he⟩ := walk_error hnode
  rw [he] at h
  cases h

theorem walk_append (parts rest : List String) :
    fs.walk place (parts ++ rest) = (fs.walk place parts).bind fun p => fs.walk p rest := by
  induction parts generalizing place with
  | nil => rfl
  | cons part parts ih =>
    rw [List.cons_append]
    by_cases h : fs.node? place = some .directory
    · rw [walk_cons h, walk_cons h]
      split
      · exact ih
      split
      · exact ih
      split
      · rfl
      · exact ih
    · obtain ⟨e, he⟩ := walk_error h
      rw [he, he]
      rfl

/-- All places on the way to a place are directories. -/
def Reached (fs : Files) (place : List String) : Prop :=
  ∀ p, p <+: place → p ≠ place → fs.node? p = some .directory

theorem reached_nil : fs.Reached [] := fun _ hp hne => absurd (List.prefix_nil.1 hp) hne

theorem Reached.dropLast (h : fs.Reached place) : fs.Reached place.dropLast := by
  intro p hp hne
  refine h p (hp.trans (List.dropLast_prefix place)) ?_
  rintro rfl
  exact hne (hp.eq_of_length_le (by simp))

theorem Reached.append (h : fs.Reached place) (hnode : fs.node? place = some .directory)
    (part : String) : fs.Reached (place ++ [part]) := by
  intro p hp hne
  rcases List.prefix_concat_iff.1 hp with rfl | hp
  · exact absurd rfl hne
  · by_cases hplace : p = place
    · exact hplace ▸ hnode
    · exact h p hp hplace

/-- What is reached by walking on is on the way of directories, too. -/
theorem Reached.walk {parts : List String} (h : fs.Reached place) (hwalk : fs.walk place parts = .ok target) :
    fs.Reached target := by
  induction parts generalizing place with
  | nil =>
    cases hwalk
    exact h
  | cons part parts ih =>
    have hnode := node?_of_walk hwalk
    rw [walk_cons hnode] at hwalk
    split at hwalk
    · exact ih h hwalk
    split at hwalk
    · exact ih h.dropLast hwalk
    split at hwalk
    · cases hwalk
    · exact ih (h.append hnode part) hwalk

/-- Directories on the way of directories are still there. -/
def Spared (fs fs' : Files) : Prop :=
  ∀ q, fs.Reached q → fs.node? q = some .directory → fs'.node? q = some .directory

theorem Spared.walk {parts : List String} (spared : Spared fs fs') (h : fs.Reached place)
    (hwalk : fs.walk place parts = .ok target) : fs'.walk place parts = .ok target := by
  induction parts generalizing place with
  | nil => exact hwalk
  | cons part parts ih =>
    have hnode := node?_of_walk hwalk
    rw [walk_cons hnode] at hwalk
    rw [walk_cons (spared place h hnode)]
    split at hwalk
    · rw [if_pos ‹_›]
      exact ih h hwalk
    rw [if_neg ‹_›]
    split at hwalk
    · rw [if_pos ‹_›]
      exact ih h.dropLast hwalk
    rw [if_neg ‹_›]
    split at hwalk
    · cases hwalk
    · rw [if_neg ‹_›]
      exact ih (h.append hnode part) hwalk

/-- A path leads where it led. -/
theorem Spared.place_eq (spared : Spared fs fs') {path : String} (h : fs.place path = .ok place) :
    fs'.place path = .ok place := by
  unfold Files.place at h ⊢
  split at h
  · cases h
  · rename_i hnull
    rw [if_neg hnull]
    exact spared.walk reached_nil h

/-! ### The path of a directory -/

/-- The path leads to a directory, at a place. -/
structure LeadsTo (fs : Files) (directory : String) (place : List String) : Prop where
  null : '\x00' ∉ directory.toList
  walk : fs.walk [] (parts directory) = .ok place
  node : fs.node? place = some .directory

theorem LeadsTo.place_eq (h : fs.LeadsTo directory place) : fs.place directory = .ok place := by
  unfold Files.place
  rw [if_neg (by simpa using h.null)]
  exact h.walk

theorem LeadsTo.reached (h : fs.LeadsTo directory place) : fs.Reached place := reached_nil.walk h.walk

theorem LeadsTo.spared (h : fs.LeadsTo directory place) (spared : Spared fs fs') :
    fs'.LeadsTo directory place :=
  ⟨h.null, spared.walk reached_nil h.walk, spared place h.reached h.node⟩

theorem isDirectory_eq : fs.isDirectory directory = true ↔ fs.at? directory = some .directory := by
  unfold isDirectory
  split <;> simp_all

theorem leadsTo_of_list? {names : List String} (h : fs.list? directory = some names) :
    ∃ place, fs.LeadsTo directory place ∧ names = fs.names place := by
  unfold list? at h
  cases hplace : fs.place directory with
  | error e =>
    rw [hplace] at h
    cases h
  | ok place =>
    rw [hplace] at h
    dsimp only at h
    by_cases hdirectory : fs.isDirectory directory = true
    · rw [if_pos hdirectory] at h
      have hnode := isDirectory_eq.1 hdirectory
      unfold at? at hnode
      rw [hplace] at hnode
      unfold Files.place at hplace
      by_cases hnull : '\x00' ∈ directory.toList
      · rw [if_pos (by simpa using hnull)] at hplace
        cases hplace
      · rw [if_neg (by simpa using hnull)] at hplace
        exact ⟨place, ⟨hnull, hplace, hnode⟩, (Option.some.inj h).symm⟩
    · rw [if_neg hdirectory] at h
      cases h

theorem LeadsTo.list? (h : fs.LeadsTo directory place) : fs.list? directory = some (fs.names place) := by
  have hnode : fs.at? directory = some .directory := by
    unfold at?
    rw [h.place_eq]
    exact h.node
  unfold Files.list?
  rw [h.place_eq]
  dsimp only
  rw [if_pos (isDirectory_eq.2 hnode)]

/-- A name that one file of a directory can have. -/
structure IsName (name : String) : Prop where
  slash : '/' ∉ name.toList
  null : '\x00' ∉ name.toList
  steps : name ≠ "" ∧ name ≠ "." ∧ name ≠ ".."

/-- Where the path of a file leads. -/
theorem LeadsTo.place_join (h : fs.LeadsTo directory place) (hname : IsName name) :
    fs.place (join directory name) =
      if nameLimit < name.utf8ByteSize then .error .nameTooLong else .ok (place ++ [name]) := by
  have habsolute : name.toList.head? ≠ some '/' := fun hhead => hname.slash (List.mem_of_mem_head? hhead)
  have hnull : '\x00' ∉ (join directory name).toList := by
    unfold join
    split
    · exact hname.null
    · simp [h.null, hname.null]
  have hdirectory : fs.walk [] (if directory = "" then [] else parts directory) = .ok place := by
    split
    · rename_i hempty
      have hwalk := h.walk
      rw [hempty] at hwalk
      exact hwalk
    · exact h.walk
  unfold Files.place
  rw [if_neg (by simpa using hnull), parts_join hname.slash, walk_append, hdirectory]
  show fs.walk place [name] = _
  rw [walk_cons h.node, if_neg (by simp [hname.steps]), if_neg hname.steps.2.2]
  rfl

/-! ### What is at a place -/

theorem lookup_cons {nodes : List (List String × FileNode)} {p q : List String} {node : FileNode} :
    ((p, node) :: nodes).lookup q = if q = p then some node else nodes.lookup q := by
  by_cases h : q = p
  · rw [if_pos h, h, List.lookup_cons_self]
  · rw [if_neg h, List.lookup_cons, beq_false_of_ne h]

theorem lookup_filter (keep : List String → Bool) {nodes : List (List String × FileNode)}
    {q : List String} : (nodes.filter fun (p, _) => keep p).lookup q =
      if keep q then nodes.lookup q else none := by
  induction nodes with
  | nil => simp
  | cons entry nodes ih =>
    obtain ⟨p, node⟩ := entry
    rw [lookup_cons, List.filter_cons]
    dsimp only
    by_cases hkeep : keep p
    · rw [if_pos hkeep, lookup_cons, ih]
      by_cases hq : q = p
      · rw [if_pos hq, if_pos hq, hq, if_pos hkeep]
      · rw [if_neg hq, if_neg hq]
    · rw [if_neg hkeep, ih]
      by_cases hq : q = p
      · rw [hq, if_neg hkeep, if_neg hkeep]
      · rw [if_neg hq]

theorem ne_nil_of_node? {node : Option FileNode} (h : fs.node? place = node)
    (hnode : node ≠ some .directory) : place ≠ [] := by
  rintro rfl
  exact hnode h.symm

theorem set_eq {node : FileNode} (h : fs.node? place = none) :
    fs.set place node = ⟨fs.nodes ++ [(place, node)]⟩ := by
  have hnew : fs.nodes.lookup place = none := by
    have hnode := h
    unfold node? at hnode
    rwa [if_neg (ne_nil_of_node? h (by simp))] at hnode
  unfold Files.set
  rw [hnew]
  rfl

/-- What is at a place when something is put there. -/
theorem node?_set_of_ne_nil {node : FileNode} (hne : place ≠ []) (q : List String) :
    (fs.set place node).node? q = if q = place then some node else fs.node? q := by
  have hmap : ∀ nodes : List (List String × FileNode),
      (nodes.map fun (p, old) => if p = place then (p, node) else (p, old)).lookup q =
        if q = place then (nodes.lookup q).map fun _ => node else nodes.lookup q := by
    intro nodes
    induction nodes with
    | nil => split <;> rfl
    | cons e nodes ih =>
      obtain ⟨p, old⟩ := e
      rw [List.map_cons, lookup_cons]
      by_cases hp : p = place
      · rw [if_pos hp, lookup_cons, ih]
        by_cases hq : q = p
        · rw [if_pos hq, if_pos hq, if_pos (hq.trans hp)]
          rfl
        · rw [if_neg hq, if_neg hq]
      · rw [if_neg hp, lookup_cons, ih]
        by_cases hq : q = p
        · rw [if_pos hq, if_pos hq, if_neg fun hplace => hp (hq.symm.trans hplace)]
        · rw [if_neg hq, if_neg hq]
  by_cases hq : q = []
  · unfold node?
    rw [if_pos hq, if_pos hq, if_neg fun hplace => hne (hplace.symm.trans hq)]
  unfold Files.set
  split
  · rename_i hsome
    unfold node?
    rw [if_neg hq, if_neg hq, hmap]
    by_cases hplace : q = place
    · obtain ⟨old, hold⟩ := Option.isSome_iff_exists.1 hsome
      rw [if_pos hplace, if_pos hplace, hplace, hold]
      rfl
    · rw [if_neg hplace, if_neg hplace]
  · rename_i hnone
    unfold node?
    rw [if_neg hq, if_neg hq, List.lookup_append, lookup_cons]
    by_cases hplace : q = place
    · rw [if_pos hplace, if_pos hplace, hplace, Option.not_isSome_iff_eq_none.1 hnone]
      rfl
    · rw [if_neg hplace, if_neg hplace, List.lookup_nil, Option.or_none]

theorem node?_set {node : FileNode} (h : fs.node? place = none) (q : List String) :
    (fs.set place node).node? q = if q = place then some node else fs.node? q :=
  node?_set_of_ne_nil (ne_nil_of_node? h (by simp)) q

/-- What is left when a place is removed. -/
theorem node?_remove (hne : place ≠ []) (q : List String) :
    (fs.remove place).node? q = if place <+: q then none else fs.node? q := by
  unfold Files.remove node?
  by_cases hq : q = []
  · rw [if_pos hq, if_neg (by rw [hq, List.prefix_nil]; exact hne), if_pos hq]
  · rw [if_neg hq, if_neg hq]
    dsimp only
    rw [lookup_filter fun p => !place.isPrefixOf p]
    by_cases hbegins : place <+: q
    · rw [if_pos hbegins, if_neg (by simpa [List.isPrefixOf_iff_prefix] using hbegins)]
    · rw [if_neg hbegins, if_pos (by simpa [← List.isPrefixOf_iff_prefix] using hbegins)]

/-- What is left in a directory when a name is removed from it. -/
theorem node?_remove_name (place : List String) (name other : String) :
    (fs.remove (place ++ [name])).node? (place ++ [other]) =
      if other = name then none else fs.node? (place ++ [other]) := by
  rw [node?_remove (by simp)]
  by_cases h : other = name
  · rw [if_pos h, if_pos (h ▸ List.prefix_refl _)]
  · rw [if_neg h, if_neg]
    intro hbegins
    rw [List.prefix_append_right_inj, List.cons_prefix_cons] at hbegins
    exact h hbegins.1.symm

/-- What is put where there was no directory spares all directories. -/
theorem spared_set {node : FileNode} (h : fs.node? place ≠ some .directory) :
    Spared fs (fs.set place node) := by
  intro q _ hnode
  rw [node?_set_of_ne_nil (ne_nil_of_node? rfl h), if_neg]
  · exact hnode
  · rintro rfl
    exact h hnode

/-- A file less spares all directories that can be reached. -/
theorem spared_remove {bytes : ByteArray} (h : fs.node? place = some (.file bytes)) :
    Spared fs (fs.remove place) := by
  have hne : place ≠ [] := ne_nil_of_node? h (by simp)
  intro q hreached hnode
  rw [node?_remove hne, if_neg]
  · exact hnode
  · intro hbegins
    have hdirectory : fs.node? place = some .directory := by
      by_cases hq : place = q
      · exact hq ▸ hnode
      · exact hreached place hbegins hq
    rw [h] at hdirectory
    cases hdirectory

theorem write_of_place {path : String} (h : fs.place path = .ok place)
    (hnode : fs.node? place ≠ some .directory) (bytes : ByteArray) :
    fs.write path bytes = .ok (fs.set place (.file bytes)) := by
  unfold Files.write
  rw [h]
  cases hplace : fs.node? place with
  | none => simp only [bind, Except.bind, hplace]; rfl
  | some node =>
    cases node with
    | directory => exact absurd hplace hnode
    | file old => simp only [bind, Except.bind, hplace]; rfl

/-- What a file that is written leaves. -/
theorem write_eq_ok {path : String} {bytes : ByteArray} (h : fs.write path bytes = .ok fs') :
    ∃ place, fs.place path = .ok place ∧ fs.node? place ≠ some .directory ∧
      fs' = fs.set place (.file bytes) := by
  cases hplace : fs.place path with
  | error e =>
    unfold Files.write at h
    rw [hplace] at h
    cases h
  | ok place =>
    refine ⟨place, rfl, ?_⟩
    by_cases hnode : fs.node? place = some .directory
    · unfold Files.write at h
      rw [hplace] at h
      simp only [bind, Except.bind, hnode] at h
      cases h
    · rw [write_of_place hplace hnode] at h
      exact ⟨hnode, (Except.ok.inj h).symm⟩

theorem spared_write {path : String} {bytes : ByteArray} (h : fs.write path bytes = .ok fs') :
    Spared fs fs' := by
  obtain ⟨place, -, hnode, rfl⟩ := write_eq_ok h
  exact spared_set hnode

theorem at?_of_write {path : String} {bytes : ByteArray} (h : fs.write path bytes = .ok fs') :
    fs'.at? path = some (.file bytes) := by
  have hspared := spared_write h
  obtain ⟨place, hplace, hnode, rfl⟩ := write_eq_ok h
  unfold Files.at?
  rw [hspared.place_eq hplace]
  dsimp only
  rw [node?_set_of_ne_nil (ne_nil_of_node? rfl hnode), if_pos rfl]

/-! ### What is in a directory -/

/-- The name of a place in a directory. -/
def nameIn (place p : List String) : Option String :=
  if p ≠ [] && p.dropLast = place then p.getLast? else none

theorem nameIn_eq {p : List String} : nameIn place p = some name ↔ p = place ++ [name] := by
  unfold nameIn
  constructor
  · intro h
    split at h
    · rename_i hplace
      have hdrop : p.dropLast = place := by simpa using (Bool.and_eq_true_iff.1 hplace).2
      rw [← hdrop]
      exact (List.dropLast_append_getLast? name h).symm
    · cases h
  · rintro rfl
    simp

/-- The names in a directory, as they come. -/
def entries (place : List String) (fs : Files) : List String :=
  fs.nodes.filterMap fun e => nameIn place e.1

theorem names_eq : fs.names place = (fs.entries place).mergeSort (· ≤ ·) := rfl

theorem mem_entries : name ∈ fs.entries place ↔ fs.node? (place ++ [name]) ≠ none := by
  unfold entries node?
  rw [if_neg (by simp), List.mem_filterMap, Option.ne_none_iff_isSome, List.lookup_isSome_iff]
  refine exists_congr fun e => and_congr_right fun _ => ?_
  rw [nameIn_eq, beq_iff_eq, eq_comm]

theorem entries_set {node : FileNode} (h : fs.node? (place ++ [name]) = none) :
    (fs.set (place ++ [name]) node).entries place = fs.entries place ++ [name] := by
  have hname : nameIn place (place ++ [name]) = some name := nameIn_eq.2 rfl
  rw [set_eq h]
  unfold entries
  rw [List.filterMap_append, List.filterMap_cons, hname]
  rfl

theorem entries_remove :
    (fs.remove (place ++ [name])).entries place = (fs.entries place).filter (· ≠ name) := by
  unfold entries Files.remove
  rw [List.filterMap_filter, List.filter_filterMap]
  refine List.filterMap_congr fun e _ => ?_
  dsimp only
  cases hname : nameIn place e.1 with
  | none => simp
  | some n =>
    obtain hp := nameIn_eq.1 hname
    have hbegins : (place ++ [name]).isPrefixOf e.1 = true ↔ n = name := by
      rw [List.isPrefixOf_iff_prefix, hp, List.prefix_append_right_inj, List.cons_prefix_cons]
      simp [eq_comm]
    by_cases hn : n = name
    · simp [hbegins.2 hn, hn, Option.filter]
    · have hkeep : (place ++ [name]).isPrefixOf e.1 = false := by
        rw [← Bool.not_eq_true, hbegins]
        exact hn
      simp [hkeep, hn, Option.filter]

/-! ### Directories seen from outside -/

/-- A directory holds files and nothing else. -/
structure Holds (directory : String) (content : List (String × ByteArray)) (fs : Files) : Prop where
  names : ∀ e ∈ content, IsName e.1
  listed : ∃ names, fs.list? directory = some names ∧ names.Perm (content.map (·.1))
  kept : ∀ e ∈ content, fs.at? (join directory e.1) = some (.file e.2)

variable {content : List (String × ByteArray)} {bytes : ByteArray}

/-- What a path of a file leads to is what is there in the directory. -/
theorem LeadsTo.at?_join (h : fs.LeadsTo directory place) (hname : IsName name) :
    fs.at? (join directory name) =
      if nameLimit < name.utf8ByteSize then none else fs.node? (place ++ [name]) := by
  unfold at?
  rw [h.place_join hname]
  by_cases hlong : nameLimit < name.utf8ByteSize
  · rw [if_pos hlong, if_pos hlong]
  · rw [if_neg hlong, if_neg hlong]

theorem Holds.perm {content' : List (String × ByteArray)} (h : Holds directory content fs)
    (hperm : content.Perm content') : Holds directory content' fs := by
  obtain ⟨names, hlist, hnames⟩ := h.listed
  exact ⟨fun e he => h.names e (hperm.mem_iff.2 he), ⟨names, hlist, hnames.trans (hperm.map _)⟩,
    fun e he => h.kept e (hperm.mem_iff.2 he)⟩

/-- A directory that looks the same holds the same files. -/
theorem Holds.congr (h : Holds directory content fs) (hlist : fs'.list? directory = fs.list? directory)
    (hfiles : ∀ name, fs'.at? (join directory name) = fs.at? (join directory name)) :
    Holds directory content fs' := by
  refine ⟨h.names, ?_, fun e he => (hfiles e.1).trans (h.kept e he)⟩
  rw [hlist]
  exact h.listed

theorem Holds.leadsTo (h : Holds directory content fs) :
    ∃ place, fs.LeadsTo directory place ∧ (fs.entries place).Perm (content.map (·.1)) ∧
      ∀ e ∈ content, e.1.utf8ByteSize ≤ nameLimit ∧ fs.node? (place ++ [e.1]) = some (.file e.2) := by
  obtain ⟨names, hlist, hperm⟩ := h.listed
  obtain ⟨place, hleads, rfl⟩ := leadsTo_of_list? hlist
  refine ⟨place, hleads, (List.mergeSort_perm _ _).symm.trans hperm, fun e he => ?_⟩
  have hkept := h.kept e he
  rw [hleads.at?_join (h.names e he)] at hkept
  split at hkept
  · cases hkept
  · exact ⟨Nat.le_of_not_lt ‹_›, hkept⟩

theorem LeadsTo.holds (h : fs.LeadsTo directory place) (names : ∀ e ∈ content, IsName e.1)
    (listed : (fs.entries place).Perm (content.map (·.1)))
    (kept : ∀ e ∈ content, e.1.utf8ByteSize ≤ nameLimit ∧ fs.node? (place ++ [e.1]) = some (.file e.2)) :
    Holds directory content fs := by
  refine ⟨names, ⟨_, h.list?, (List.mergeSort_perm _ _).trans listed⟩, fun e he => ?_⟩
  obtain ⟨hfits, hnode⟩ := kept e he
  rw [h.at?_join (names e he), if_neg (Nat.not_lt.2 hfits), hnode]

/-- A file of a new name can be written if the name is not too long. -/
theorem Holds.write (h : Holds directory content fs) (hname : IsName name)
    (hfits : name.utf8ByteSize ≤ nameLimit) (hnew : name ∉ content.map (·.1)) (bytes : ByteArray) :
    ∃ fs', fs.write (join directory name) bytes = .ok fs' ∧
      Holds directory (content ++ [(name, bytes)]) fs' := by
  obtain ⟨place, hleads, hperm, hkept⟩ := h.leadsTo
  have hnone : fs.node? (place ++ [name]) = none := by
    by_contra hnode
    exact hnew (hperm.mem_iff.1 (mem_entries.2 hnode))
  refine ⟨fs.set (place ++ [name]) (.file bytes), ?_, ?_⟩
  · refine write_of_place ?_ (by simp [hnone]) bytes
    rw [hleads.place_join hname, if_neg (Nat.not_lt.2 hfits)]
  · refine (hleads.spared (spared_set (by simp [hnone]))).holds (fun e he => ?_) ?_ fun e he => ?_
    · rcases List.mem_append.1 he with he | he
      · exact h.names e he
      · rw [List.mem_singleton.1 he]
        exact hname
    · rw [entries_set hnone, List.map_append]
      exact hperm.append_right [name]
    · rw [node?_set hnone]
      rcases List.mem_append.1 he with he | he
      · obtain ⟨hfits', hnode⟩ := hkept e he
        rw [if_neg, hnode]
        · exact ⟨hfits', rfl⟩
        · intro heq
          rw [heq, hnone] at hnode
          cases hnode
      · rw [List.mem_singleton.1 he, if_pos rfl]
        exact ⟨hfits, rfl⟩

/-- A file whose name is too long cannot be written. -/
theorem LeadsTo.write_error (h : fs.LeadsTo directory place) (hname : IsName name)
    (hlong : nameLimit < name.utf8ByteSize) (bytes : ByteArray) :
    fs.write (join directory name) bytes = .error .nameTooLong := by
  unfold Files.write
  rw [h.place_join hname, if_pos hlong]
  rfl

/-- A file that is held can be removed. -/
theorem Holds.remove (h : Holds directory content fs) (hmem : name ∈ content.map (·.1)) :
    ∃ place, fs.place (join directory name) = .ok place ∧
      Holds directory (content.filter (·.1 ≠ name)) (fs.remove place) := by
  obtain ⟨place, hleads, hperm, hkept⟩ := h.leadsTo
  obtain ⟨e, he, rfl⟩ := List.mem_map.1 hmem
  obtain ⟨hfits, hnode⟩ := hkept e he
  refine ⟨place ++ [e.1], ?_, ?_⟩
  · rw [hleads.place_join (h.names e he), if_neg (Nat.not_lt.2 hfits)]
  · refine (hleads.spared (spared_remove hnode)).holds
      (fun e' he' => h.names e' (List.mem_of_mem_filter he')) ?_ fun e' he' => ?_
    · have hnames : (content.filter (·.1 ≠ e.1)).map (·.1) = (content.map (·.1)).filter (· ≠ e.1) := by
        rw [List.filter_map]
        rfl
      rw [entries_remove, hnames]
      exact hperm.filter _
    · obtain ⟨he', hne⟩ := List.mem_filter.1 he'
      rw [node?_remove_name, if_neg (of_decide_eq_true hne)]
      exact hkept e' he'

theorem makeAlong_eq {parts : List String} (hwalk : fs.walk place parts = .ok target)
    (hnode : fs.node? target = some .directory) : fs.makeAlong place parts = (none, fs) := by
  induction parts generalizing place with
  | nil =>
    cases hwalk
    unfold makeAlong
    rw [hnode]
  | cons part parts ih =>
    have hplace := node?_of_walk hwalk
    rw [walk_cons hplace] at hwalk
    unfold makeAlong
    rw [checkDirectory_eq.2 hplace]
    dsimp only
    split at hwalk
    · rw [if_pos ‹_›]
      exact ih hwalk
    rw [if_neg ‹_›]
    split at hwalk
    · rw [if_pos ‹_›]
      exact ih hwalk
    rw [if_neg ‹_›]
    split at hwalk
    · cases hwalk
    rw [if_neg ‹_›]
    have hnext : fs.node? (place ++ [part]) = some .directory := by
      cases parts with
      | nil =>
        cases hwalk
        exact hnode
      | cons => exact node?_of_walk hwalk
    rw [hnext]
    exact ih hwalk

/-- Making a directory that is there changes nothing. -/
theorem LeadsTo.makeDirectory (h : fs.LeadsTo directory place) :
    fs.makeDirectory directory = (none, fs) := by
  unfold Files.makeDirectory
  rw [if_neg (by simpa using h.null)]
  exact makeAlong_eq h.walk h.node

/-! ### Making directories -/

/-- What was there is still there. -/
def Extends (fs fs' : Files) : Prop := ∀ p node, fs.node? p = some node → fs'.node? p = some node

theorem Extends.refl (fs : Files) : Extends fs fs := fun _ _ h => h

theorem Extends.trans {fs'' : Files} (h : Extends fs fs') (h' : Extends fs' fs'') : Extends fs fs'' :=
  fun p node hnode => h' p node (h p node hnode)

theorem Extends.spared (h : Extends fs fs') : Spared fs fs' := fun q _ hnode => h q _ hnode

theorem Extends.reached (h : Extends fs fs') (hreached : fs.Reached place) : fs'.Reached place :=
  fun p hp hne => h p _ (hreached p hp hne)

theorem extends_set {node : FileNode} (h : fs.node? place = none) : Extends fs (fs.set place node) := by
  intro q old hold
  rw [node?_set h, if_neg]
  · exact hold
  · rintro rfl
    rw [h] at hold
    cases hold

/-- A path leads to the same file as before. -/
theorem Extends.at? (h : Extends fs fs') {path : String} {node : FileNode}
    (hnode : fs.at? path = some node) : fs'.at? path = some node := by
  unfold Files.at? at hnode ⊢
  cases hplace : fs.place path with
  | error e =>
    rw [hplace] at hnode
    cases hnode
  | ok place =>
    rw [hplace] at hnode
    rw [h.spared.place_eq hplace]
    exact h place node hnode

/-- The tree with a directory at a place, unless something is there. -/
def withDirectory (fs : Files) (place : List String) : Files :=
  if (fs.node? place).isSome then fs else fs.set place .directory

theorem extends_withDirectory (fs : Files) (place : List String) : Extends fs (fs.withDirectory place) := by
  unfold withDirectory
  split
  · exact .refl fs
  · exact extends_set (Option.not_isSome_iff_eq_none.1 ‹_›)

theorem node?_withDirectory (fs : Files) (place : List String) :
    (fs.withDirectory place).node? place ≠ none := by
  unfold withDirectory
  split
  · exact Option.isSome_iff_ne_none.1 ‹_›
  · rw [node?_set (Option.not_isSome_iff_eq_none.1 ‹_›), if_pos rfl]
    simp

theorem makeAlong_cons (h : fs.node? place = some .directory) (part : String) (rest : List String) :
    fs.makeAlong place (part :: rest) =
      if part = "" || part = "." then fs.makeAlong place rest
      else if part = ".." then fs.makeAlong place.dropLast rest
      else if nameLimit < part.utf8ByteSize then (some .nameTooLong, fs)
      else (fs.withDirectory (place ++ [part])).makeAlong (place ++ [part]) rest := by
  rw [makeAlong, checkDirectory_eq.2 h]
  rfl

theorem extends_makeAlong (place parts : List String) : Extends fs (fs.makeAlong place parts).2 := by
  induction parts generalizing fs place with
  | nil =>
    unfold makeAlong
    split <;> exact .refl fs
  | cons part parts ih =>
    by_cases h : fs.node? place = some .directory
    · rw [makeAlong_cons h]
      split
      · exact ih place
      split
      · exact ih place.dropLast
      split
      · exact .refl fs
      · exact (extends_withDirectory fs _).trans (ih _)
    · unfold makeAlong
      cases hcheck : fs.checkDirectory place with
      | error e => exact .refl fs
      | ok _ => exact absurd (checkDirectory_eq.1 hcheck) h

theorem extends_makeDirectory (directory : String) : Extends fs (fs.makeDirectory directory).2 := by
  unfold makeDirectory
  split
  · exact .refl fs
  · exact extends_makeAlong _ _

/-- When the directories of a path have been made, the path leads to the last of them. -/
theorem walk_of_makeAlong {parts : List String} (hreached : fs.Reached place)
    (hplace : fs.node? place ≠ none) (h : fs.makeAlong place parts = (none, fs')) :
    ∃ target, fs'.walk place parts = .ok target ∧ fs'.node? target = some .directory := by
  induction parts generalizing fs place with
  | nil =>
    unfold makeAlong at h
    cases hnode : fs.node? place with
    | none => exact absurd hnode hplace
    | some node =>
      rw [hnode] at h
      cases node with
      | directory =>
        cases h
        exact ⟨place, rfl, hnode⟩
      | file bytes => cases h
  | cons part parts ih =>
    by_cases hnode : fs.node? place = some .directory
    · have hkept : fs'.node? place = some .directory := by
        have hextends : (fs.makeAlong place (part :: parts)).2.node? place = some .directory :=
          extends_makeAlong place (part :: parts) place _ hnode
        rwa [h] at hextends
      rw [walk_cons hkept]
      rw [makeAlong_cons hnode] at h
      split at h
      · rw [if_pos ‹_›]
        exact ih hreached hplace h
      rw [if_neg ‹_›]
      split at h
      · rw [if_pos ‹_›]
        refine ih hreached.dropLast (fun hnone => ?_) h
        by_cases hlast : place.dropLast = place
        · exact hplace (hlast ▸ hnone)
        · rw [hreached _ (List.dropLast_prefix place) hlast] at hnone
          cases hnone
      rw [if_neg ‹_›]
      split at h
      · cases h
      · rw [if_neg ‹_›]
        have hextends := extends_withDirectory fs (place ++ [part])
        exact ih (hextends.reached (hreached.append hnode part)) (node?_withDirectory _ _) h
    · unfold makeAlong at h
      cases hcheck : fs.checkDirectory place with
      | error e =>
        rw [hcheck] at h
        cases h
      | ok _ => exact absurd (checkDirectory_eq.1 hcheck) hnode

theorem leadsTo_of_makeDirectory (h : fs.makeDirectory directory = (none, fs')) :
    ∃ place, fs'.LeadsTo directory place := by
  unfold makeDirectory at h
  split at h
  · cases h
  · rename_i hnull
    obtain ⟨place, hwalk, hnode⟩ := walk_of_makeAlong reached_nil (by simp [node?]) h
    exact ⟨place, by simpa using hnull, hwalk, hnode⟩

theorem read_of_at? {path : String} (h : fs.at? path = some (.file bytes)) : fs.read path = .ok bytes := by
  unfold at? at h
  cases hplace : fs.place path with
  | error e =>
    rw [hplace] at h
    cases h
  | ok place =>
    rw [hplace] at h
    unfold Files.read
    rw [hplace]
    have hnode : fs.node? place = some (.file bytes) := h
    simp only [bind, Except.bind, hnode]
    rfl

theorem plainBreaks_eq {s : List Char} (h : '\r' ∉ s) : plainBreaks s = s := by
  induction s with
  | nil => rfl
  | cons c s ih =>
    have hc : c ≠ '\r' := fun hc => h (hc ▸ List.mem_cons_self)
    rw [plainBreaks, ih fun hs => h (List.mem_cons_of_mem _ hs)]
    · rintro _ rfl
      exact absurd rfl hc
    · exact hc

/-- A text that is written without line breaks of other systems is read as it is. -/
theorem readText_of_at? {path text : String} (h : fs.at? path = some (.file text.toUTF8))
    (hplain : '\r' ∉ text.toList) : fs.readText path = .ok text := by
  have htext : String.fromUTF8? text.toUTF8 = some text := dif_pos text.isValidUTF8
  unfold readText
  rw [read_of_at? h]
  simp only [Except.mapError, bind, Except.bind, htext]
  show Except.ok (String.ofList (plainBreaks text.toList)) = _
  rw [plainBreaks_eq hplain, String.ofList_toList]

end StoryState.Files
