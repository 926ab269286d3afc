import StoryState.Files.Config
import StoryState.Proofs.Text.Pieces

/-!
Paths of files in a directory. A name without a slash is the last part of its path; and a document's name
without its ending is the one that it was made from, unless that is made of dots only (`stem_document`).
-/

namespace StoryState.Files

open StoryState.Text

variable {directory name : String}

/-- The parts of the path of a file are those of its directory, if it is named, and its name. -/
theorem parts_join (h : '/' ∉ name.toList) :
    parts (join directory name) = (if directory = "" then [] else parts directory) ++ [name] := by
  have hname : parts name = [name] := by
    unfold parts
    rw [splitOn_of_not_mem h, List.map_singleton, String.ofList_toList]
  have habsolute : name.toList.head? ≠ some '/' := fun hhead => h (List.mem_of_mem_head? hhead)
  unfold join
  by_cases hdirectory : directory = ""
  · simp [hdirectory, hname]
  · have hslash : (directory ++ "/" ++ name).toList = directory.toList ++ '/' :: name.toList := by
      simp
    rw [if_neg (by simp [hdirectory, habsolute]), if_neg hdirectory, ← hname]
    unfold parts
    rw [hslash, splitOn_append, List.map_append]

theorem baseName_join (h : '/' ∉ name.toList) : baseName (join directory name) = name := by
  unfold baseName
  rw [parts_join h, List.getLast?_append]
  rfl

theorem dropEnd?_eq_some_iff {suffix rest : String} :
    dropEnd? suffix name = some rest ↔ name = rest ++ suffix := by
  unfold dropEnd?
  rw [Option.map_eq_some_iff]
  constructor
  · rintro ⟨s, hs, rfl⟩
    rw [dropLead?_eq_some_iff, List.reverse_eq_iff] at hs
    rw [← String.toList_inj, hs]
    simp
  · rintro rfl
    exact ⟨rest.toList.reverse, dropLead?_eq_some_iff.2 (by simp), by simp⟩

theorem dropEnd?_append (name suffix : String) : dropEnd? suffix (name ++ suffix) = some name :=
  dropEnd?_eq_some_iff.2 rfl

/-- What is added to a name is added to the path of the file. -/
theorem join_append (h : name ≠ "") (directory more : String) :
    join directory (name ++ more) = join directory name ++ more := by
  have hhead : (name ++ more).toList.head? = name.toList.head? := by
    obtain ⟨c, s, hcons⟩ := List.exists_cons_of_ne_nil (l := name.toList) (by simpa using h)
    rw [String.toList_append, hcons]
    rfl
  unfold join
  rw [hhead]
  split
  · rfl
  · exact String.append_assoc.symm

/-- The name of a document without its ending; dots at its head are no part of an ending, so a name of dots
only is left with its ending. -/
theorem stem_document (name : String) : stem (name ++ ending) =
    if name.toList.all (· = '.') then name ++ ending else name := by
  have hdocument : (name ++ ending).toList = name.toList ++ '.' :: "json".toList := by
    simp [ending]
  have hpieces : splitOn '.' (name.toList.dropWhile (· = '.') ++ '.' :: "json".toList) =
      splitOn '.' (name.toList.dropWhile (· = '.')) ++ ["json".toList] := by
    rw [splitOn_append]
    rfl
  have hsplit := List.takeWhile_append_dropWhile (p := fun c => decide (c = '.')) (l := name.toList)
  unfold stem
  rw [hdocument]
  by_cases hdots : name.toList.all (· = '.')
  · have htake : (name.toList ++ '.' :: "json".toList).takeWhile (· = '.') = name.toList ++ ['.'] := by
      rw [List.takeWhile_append_of_pos (by simpa using hdots)]
      rfl
    have hdrop : (name.toList ++ '.' :: "json".toList).drop (name.toList ++ ['.']).length =
        "json".toList := by
      have hdocument : name.toList ++ '.' :: "json".toList = (name.toList ++ ['.']) ++ "json".toList :=
        List.append_cons ..
      rw [hdocument, List.drop_left]
    rw [htake, if_pos hdots]
    dsimp only
    rw [hdrop, splitOn_of_not_mem (by decide)]
    rfl
  · have htake : (name.toList ++ '.' :: "json".toList).takeWhile (· = '.') =
        name.toList.takeWhile (· = '.') := by
      rw [List.takeWhile_append, if_neg]
      intro hlength
      have hall := (List.takeWhile_prefix (fun c => decide (c = '.'))).eq_of_length hlength
      rw [← hall] at hdots
      exact hdots List.all_takeWhile
    have hdrop : (name.toList ++ '.' :: "json".toList).drop (name.toList.takeWhile (· = '.')).length =
        name.toList.dropWhile (· = '.') ++ '.' :: "json".toList := by
      have hdocument : name.toList ++ '.' :: "json".toList = name.toList.takeWhile (· = '.') ++
          (name.toList.dropWhile (· = '.') ++ '.' :: "json".toList) := by
        rw [← List.append_assoc, hsplit]
      rw [hdocument, List.drop_left]
    rw [htake, if_neg hdots]
    dsimp only
    rw [hdrop, hpieces, List.reverse_append]
    obtain ⟨piece, pieces, hreverse⟩ := List.exists_cons_of_ne_nil
      (l := (splitOn '.' (name.toList.dropWhile (· = '.'))).reverse) (by simpa using splitOn_ne_nil _ _)
    rw [hreverse]
    show String.ofList (_ ++ joinWith ['.'] (piece :: pieces).reverse) = name
    rw [← hreverse, List.reverse_reverse, joinWith_splitOn, hsplit, String.ofList_toList]

end StoryState.Files
