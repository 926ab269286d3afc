import StoryState.Proofs.Files.Directory
import Mathlib.Logic.Function.Basic

/-!
A directory as a function from names to contents. Writing a file updates the function, whether or not there
was one, removing a file takes it out, and putting one in the place of another does both. In a directory that
is still to be made no file is found (`Fresh.at?_eq`).
-/

namespace StoryState.Files

open Function (update)

variable {fs : Files} {directory name old new : String} {place : List String}
  {content : String → Option ByteArray} {bytes : ByteArray}

/-- In the directory are the files whose contents are given by their names, and nothing else. -/
structure Contains (fs : Files) (directory : String) (place : List String)
    (content : String → Option ByteArray) : Prop where
  leads : fs.LeadsTo directory place
  files : ∀ name, fs.node? (place ++ [name]) = (content name).map .file

theorem Contains.ne_directory (h : fs.Contains directory place content) (name : String) :
    fs.node? (place ++ [name]) ≠ some .directory := by
  rw [h.files name]
  cases content name <;> simp

theorem Contains.place_eq (h : fs.Contains directory place content) (hname : IsName name)
    (hfits : name.utf8ByteSize ≤ nameLimit) : fs.place (join directory name) = .ok (place ++ [name]) := by
  rw [h.leads.place_join hname, if_neg (Nat.not_lt.2 hfits)]

theorem Contains.at?_eq (h : fs.Contains directory place content) (hname : IsName name)
    (hfits : name.utf8ByteSize ≤ nameLimit) : fs.at? (join directory name) = (content name).map .file := by
  rw [h.leads.at?_join hname, if_neg (Nat.not_lt.2 hfits), h.files name]

/-! ### Changing -/

theorem Contains.set (h : fs.Contains directory place content) (name : String) (bytes : ByteArray) :
    (fs.set (place ++ [name]) (.file bytes)).Contains directory place (update content name (some bytes)) := by
  refine ⟨h.leads.spared (spared_set (h.ne_directory name)), fun other => ?_⟩
  rw [node?_set_of_ne_nil (by simp)]
  by_cases hother : other = name
  · rw [hother, if_pos rfl, Function.update_self]
    rfl
  · rw [if_neg (by simpa using hother), Function.update_of_ne hother, h.files other]

theorem Contains.write_eq (h : fs.Contains directory place content) (hname : IsName name)
    (hfits : name.utf8ByteSize ≤ nameLimit) (bytes : ByteArray) :
    fs.write (join directory name) bytes = .ok (fs.set (place ++ [name]) (.file bytes)) :=
  write_of_place (h.place_eq hname hfits) (h.ne_directory name) bytes

theorem Contains.remove (h : fs.Contains directory place content) (hthere : content name = some bytes) :
    (fs.remove (place ++ [name])).Contains directory place (update content name none) := by
  have hfile : fs.node? (place ++ [name]) = some (.file bytes) := by
    rw [h.files name, hthere]
    rfl
  refine ⟨h.leads.spared (spared_remove hfile), fun other => ?_⟩
  rw [node?_remove_name]
  by_cases hother : other = name
  · rw [hother, if_pos rfl, Function.update_self]
    rfl
  · rw [if_neg hother, Function.update_of_ne hother, h.files other]

/-- A file can take the place of another, or of none. -/
theorem Contains.replace (h : fs.Contains directory place content) (hold : IsName old)
    (hfits : old.utf8ByteSize ≤ nameLimit) (hnew : IsName new) (hfits' : new.utf8ByteSize ≤ nameLimit)
    (hne : old ≠ new) (hthere : content old = some bytes) :
    ∃ fs', fs.replace (join directory old) (join directory new) = .ok fs' ∧
      fs'.Contains directory place (update (update content new (some bytes)) old none) := by
  have hread : fs.read (join directory old) = .ok bytes := by
    refine read_of_at? ?_
    rw [h.at?_eq hold hfits, hthere]
    rfl
  have hkept : update content new (some bytes) old = some bytes := by
    rw [Function.update_of_ne hne, hthere]
  refine ⟨_, ?_, (h.set new bytes).remove hkept⟩
  unfold Files.replace
  rw [hread, h.place_eq hold hfits]
  show (do return (← fs.write (join directory new) bytes).remove (place ++ [old])) = _
  rw [h.write_eq hnew hfits']
  rfl

/-! ### Directories that are still to be made -/

/-- The directory can be made, or is there, and is empty then. -/
structure Fresh (fs : Files) (directory : String) : Prop where
  made : (fs.makeDirectory directory).1 = none
  empty : (fs.makeDirectory directory).2.list? directory = some []

theorem Fresh.contains (h : fs.Fresh directory) :
    ∃ place, (fs.makeDirectory directory).2.Contains directory place fun _ => none := by
  obtain ⟨place, hleads, hnames⟩ := leadsTo_of_list? h.empty
  refine ⟨place, hleads, fun name => ?_⟩
  by_contra hnode
  have hmem : name ∈ names place (fs.makeDirectory directory).2 :=
    (List.mergeSort_perm _ _).mem_iff.2 (mem_entries.2 hnode)
  rw [← hnames] at hmem
  cases hmem

theorem Fresh.at?_eq (h : fs.Fresh directory) (hname : IsName name)
    (hfits : name.utf8ByteSize ≤ nameLimit) : fs.at? (join directory name) = none := by
  obtain ⟨place, hcontains⟩ := h.contains
  cases hat : fs.at? (join directory name) with
  | none => rfl
  | some node =>
    have hmade := (extends_makeDirectory directory).at? hat
    rw [hcontains.at?_eq hname hfits] at hmade
    cases hmade

end StoryState.Files
