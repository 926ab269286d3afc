import StoryState.Proofs.Files.Contents
import StoryState.Proofs.Storage.Calls
import StoryState.Proofs.Story.View

/-!
A directory of files against memory. A key's file is called by the key's safe name, so the directory answers
as memory would if the keys were called so (`answers_directory`). It answers as memory does if and only if no
two keys have one safe name and no name is too long (`answers_directory_iff`); two characters whose names
differ in a character that no file name has share their file (`answers_directory_shared`).
-/

namespace StoryState.Gateway

open Text Files
open Function (update)

variable {key path : String} {payloads : Entries ByteArray} {fs : Files} {d : Disk}

/-! ### The names of files -/

theorem mem_safeName {c : Char} (h : c ∈ (safeName key).toList) :
    isWord c = true ∨ c = '.' ∨ c = '-' ∨ c = '_' := by
  unfold safeName at h
  rw [String.toList_ofList, List.mem_map] at h
  obtain ⟨b, -, rfl⟩ := h
  split
  · rename_i hb
    simp only [Bool.or_eq_true, decide_eq_true_eq] at hb
    tauto
  · simp

/-- The name of a key's file. -/
def fileName (key : String) : String := safeName key ++ ending

/-- The name of the file that is written first. -/
def draftName (key : String) : String := fileName key ++ ".tmp"

/-- The names of a key's files are not too long. -/
def Fits (key : String) : Prop := (draftName key).utf8ByteSize ≤ nameLimit

instance : DecidablePred Fits := fun _ => Nat.decLe _ _

theorem Fits.fileName (h : Fits key) : (fileName key).utf8ByteSize ≤ nameLimit := by
  unfold Fits draftName at h
  rw [String.utf8ByteSize_append] at h
  omega

/-- A safe name with an ending is a name that a file can have. -/
theorem isName_safeName (key : String) {suffix : String} (hlong : 2 < suffix.length)
    (hslash : '/' ∉ suffix.toList) (hnull : '\x00' ∉ suffix.toList) : IsName (safeName key ++ suffix) := by
  have hsafe : ∀ c ∈ (safeName key).toList, c ≠ '/' ∧ c ≠ '\x00' := by
    intro c hc
    rcases mem_safeName hc with hc | rfl | rfl | rfl
    · constructor
      · rintro rfl
        exact absurd hc (by decide)
      · rintro rfl
        exact absurd hc (by decide)
    all_goals decide
  have hlength : 2 < (safeName key ++ suffix).length := by
    rw [String.length_append]
    omega
  refine ⟨fun h => ?_, fun h => ?_, ?_, ?_, ?_⟩
  · rw [String.toList_append, List.mem_append] at h
    exact h.elim (fun h => (hsafe _ h).1 rfl) hslash
  · rw [String.toList_append, List.mem_append] at h
    exact h.elim (fun h => (hsafe _ h).2 rfl) hnull
  all_goals
    intro heq
    rw [heq] at hlength
    exact absurd hlength (by decide)

theorem isName_fileName (key : String) : IsName (fileName key) :=
  isName_safeName key (by decide) (by decide) (by decide)

theorem isName_draftName (key : String) : IsName (draftName key) := by
  unfold draftName fileName
  rw [String.append_assoc]
  exact isName_safeName key (by decide) (by decide) (by decide)

theorem draftPath_eq (path key : String) : draftPath path key = join path (draftName key) :=
  (join_append (isName_fileName key).steps.1 path ".tmp").symm

theorem dropEnd?_draftName (key : String) : dropEnd? ending (draftName key) = none := by
  cases h : dropEnd? ending (draftName key) with
  | none => rfl
  | some rest =>
    have hlast := congrArg (fun s : String => s.toList.getLast?) (dropEnd?_eq_some_iff.1 h)
    unfold draftName ending at hlast
    simp at hlast

/-! ### What is in the directory -/

/-- What the files of a directory hold that keeps the payloads. -/
def contentOf (payloads : Entries ByteArray) (name : String) : Option ByteArray :=
  (dropEnd? ending name).bind fun key => Entries.get? key payloads

theorem contentOf_fileName (payloads : Entries ByteArray) (key : String) :
    contentOf payloads (fileName key) = Entries.get? (safeName key) payloads := by
  unfold contentOf fileName
  rw [dropEnd?_append]
  rfl

theorem contentOf_draftName (payloads : Entries ByteArray) (key : String) :
    contentOf payloads (draftName key) = none := by
  unfold contentOf
  rw [dropEnd?_draftName]
  rfl

theorem contentOf_nil : contentOf [] = fun _ => none := by
  funext name
  unfold contentOf
  cases dropEnd? ending name <;> rfl

/-- Payloads that differ under one key differ in its file. -/
theorem contentOf_update {payloads' : Entries ByteArray} (key : String)
    (h : ∀ k, safeName key ≠ k → Entries.get? k payloads' = Entries.get? k payloads) :
    contentOf payloads' =
      update (contentOf payloads) (fileName key) (Entries.get? (safeName key) payloads') := by
  funext name
  by_cases hname : name = fileName key
  · rw [hname, Function.update_self, contentOf_fileName]
  · rw [Function.update_of_ne hname]
    unfold contentOf
    cases hdrop : dropEnd? ending name with
    | none => rfl
    | some k =>
      refine h k ?_
      rintro rfl
      exact hname (dropEnd?_eq_some_iff.1 hdrop)

theorem contentOf_put (payloads : Entries ByteArray) (key : String) (payload : ByteArray) :
    contentOf (payloads.put (safeName key) payload) =
      update (contentOf payloads) (fileName key) (some payload) := by
  rw [contentOf_update key fun k hk => Entries.get?_put_of_ne hk payload payloads, Entries.get?_put_self]

theorem contentOf_erase (payloads : Entries ByteArray) (key : String) :
    contentOf (payloads.erase (safeName key)) = update (contentOf payloads) (fileName key) none := by
  rw [contentOf_update key fun k hk => Entries.get?_erase_of_ne hk payloads, Entries.get?_erase_self]

/-- The directory keeps the payloads, each in the file of its key. It is made when the first is saved. -/
inductive Filed (path : String) (payloads : Entries ByteArray) (fs : Files) : Prop where
  | unmade (fresh : fs.Fresh path) (empty : payloads = [])
  | made (place : List String) (contains : fs.Contains path place (contentOf payloads))

theorem Filed.makeDirectory (h : Filed path payloads fs) :
    ∃ fs' place, fs.makeDirectory path = (none, fs') ∧ fs'.Contains path place (contentOf payloads) := by
  cases h with
  | unmade fresh empty =>
    obtain ⟨place, hcontains⟩ := fresh.contains
    refine ⟨(fs.makeDirectory path).2, place, Prod.ext fresh.made rfl, ?_⟩
    rw [empty, contentOf_nil]
    exact hcontains
  | made place contains => exact ⟨fs, place, contains.leads.makeDirectory, contains⟩

theorem Filed.at?_eq (h : Filed path payloads fs) (hfits : Fits key) :
    fs.at? (keyPath path key) = (Entries.get? (safeName key) payloads).map .file := by
  show fs.at? (join path (fileName key)) = _
  cases h with
  | unmade fresh empty =>
    rw [fresh.at?_eq (isName_fileName key) hfits.fileName, empty]
    rfl
  | made place contains =>
    rw [contains.at?_eq (isName_fileName key) hfits.fileName, contentOf_fileName]

theorem Filed.loadFile_eq (h : Filed path payloads fs) (hfits : Fits key) :
    loadFile path key fs = Entries.get? (safeName key) payloads := by
  unfold loadFile
  rw [h.at?_eq hfits]
  cases Entries.get? (safeName key) payloads <;> rfl

theorem Filed.saveFile (h : Filed path payloads fs) (hfits : Fits key) (payload : ByteArray) :
    ∃ fs', saveFile path key payload fs = (.ok (), fs') ∧
      Filed path (payloads.put (safeName key) payload) fs' := by
  obtain ⟨made, place, hmade, hcontains⟩ := h.makeDirectory
  have hne : draftName key ≠ fileName key := by
    intro heq
    have hdraft := dropEnd?_draftName key
    rw [heq, fileName, dropEnd?_append] at hdraft
    cases hdraft
  have hdraft := hcontains.set (draftName key) payload
  obtain ⟨fs', hreplace, hreplaced⟩ := hdraft.replace (isName_draftName key) hfits (isName_fileName key)
    hfits.fileName hne (Function.update_self ..)
  refine ⟨fs', ?_, .made place ?_⟩
  · unfold Gateway.saveFile
    rw [hmade]
    dsimp only
    rw [draftPath_eq, hcontains.write_eq (isName_draftName key) hfits]
    dsimp only
    rw [keyPath, ← fileName, hreplace]
  · -- the draft is gone, and there was none before
    have hcontent : update (update (update (contentOf payloads) (draftName key) (some payload))
        (fileName key) (some payload)) (draftName key) none =
        contentOf (payloads.put (safeName key) payload) := by
      have hnone : none = update (contentOf payloads) (fileName key) (some payload) (draftName key) := by
        rw [Function.update_of_ne hne, contentOf_draftName]
      rw [Function.update_comm hne, Function.update_idem, hnone, Function.update_eq_self, contentOf_put]
    rw [← hcontent]
    exact hreplaced

theorem Filed.saveFile_error (h : Filed path payloads fs) (hlong : ¬ Fits key) (payload : ByteArray) :
    (Gateway.saveFile path key payload fs).1 = .error .disk := by
  obtain ⟨made, place, hmade, hcontains⟩ := h.makeDirectory
  unfold Gateway.saveFile
  rw [hmade]
  dsimp only
  rw [draftPath_eq, hcontains.leads.write_error (isName_draftName key) (Nat.lt_of_not_le hlong)]

theorem Filed.deleteFile (h : Filed path payloads fs) (hfits : Fits key) :
    Filed path (payloads.erase (safeName key)) (deleteFile path key fs) := by
  have hisFile : fs.isFile (keyPath path key) = (Entries.get? (safeName key) payloads).isSome := by
    unfold isFile
    rw [h.at?_eq hfits]
    cases Entries.get? (safeName key) payloads <;> rfl
  cases h with
  | unmade fresh empty =>
    have hkept : Gateway.deleteFile path key fs = fs := by
      unfold Gateway.deleteFile
      rw [hisFile, empty]
      cases fs.place (keyPath path key) <;> rfl
    rw [hkept, empty]
    exact .unmade fresh rfl
  | made place contains =>
    refine .made place ?_
    have hplace : fs.place (keyPath path key) = .ok (place ++ [fileName key]) :=
      contains.place_eq (isName_fileName key) hfits.fileName
    unfold Gateway.deleteFile
    rw [hplace, hisFile, contentOf_erase]
    cases hfound : Entries.get? (safeName key) payloads with
    | none =>
      have hnone : update (contentOf payloads) (fileName key) none = contentOf payloads := by
        rw [← hfound, ← contentOf_fileName, Function.update_eq_self]
      rw [hnone]
      exact contains
    | some payload => exact contains.remove (by rw [contentOf_fileName, hfound])

/-! ### Any calls -/

theorem Filed.on_directory (h : Filed path payloads d.files) (list : Entries ByteArray → List String)
    {c : Call} (hc : c.key? = some key) (hfits : Fits key) :
    ∃ d', c.on (.directory path) d = (.ok (c.act safeName list payloads).1, .directory path, d') ∧
      Filed path (c.act safeName list payloads).2 d'.files := by
  cases c with
  | load k =>
    obtain rfl : k = key := Option.some.inj hc
    refine ⟨d, ?_, h⟩
    show (Except.ok (Answer.payload (loadFile path k d.files)), _) = _
    rw [h.loadFile_eq hfits]
    rfl
  | save k payload =>
    obtain rfl : k = key := Option.some.inj hc
    obtain ⟨fs', hsave, hfiled⟩ := h.saveFile hfits payload
    refine ⟨{ d with files := fs' }, ?_, hfiled⟩
    simp only [Call.on, Gateway.save, hsave]
    rfl
  | delete k =>
    obtain rfl : k = key := Option.some.inj hc
    exact ⟨{ d with files := Gateway.deleteFile path k d.files }, rfl, h.deleteFile hfits⟩
  | keys => cases hc

/-- A directory answers what entries do on which each key has its safe name. -/
theorem answers_directory (list : Entries ByteArray → List String) {keys : Set String}
    (hfits : ∀ key ∈ keys, Fits key) {calls : List Call}
    (hcalls : OnKeys keys calls) (h : Filed path payloads d.files) :
    answers calls (.directory path) d = (acts safeName list calls payloads).map .ok := by
  induction calls generalizing payloads d with
  | nil => rfl
  | cons c calls ih =>
    obtain ⟨key, hkey, hc⟩ := hcalls c List.mem_cons_self
    obtain ⟨d', hon, hfiled⟩ := h.on_directory list hc (hfits key hkey)
    rw [answers, hon, acts, List.map_cons, ih (fun c hc => hcalls c (List.mem_cons_of_mem _ hc)) hfiled]

theorem answers_directory_long (h : Filed path payloads d.files) (hlong : ¬ Fits key) (payload : ByteArray) :
    answers [.save key payload] (.directory path) d = [.error .disk] := by
  show [(Gateway.saveFile path key payload d.files).1.map fun _ => Answer.done] = _
  rw [h.saveFile_error hlong]
  rfl

/-- Two keys of one safe name share their file. -/
theorem answers_directory_shared {key' : String} (h : Filed path [] d.files) (hfits : Fits key)
    (hfits' : Fits key') (hsafe : safeName key = safeName key') (payload payload' : ByteArray) :
    answers [.save key payload, .save key' payload', .load key] (.directory path) d =
      [.ok .done, .ok .done, .ok (.payload (some payload'))] := by
  have hcalls : OnKeys {key, key'} [.save key payload, .save key' payload', .load key] := by
    simp [OnKeys, Call.key?]
  have hboth : ∀ k ∈ ({key, key'} : Set String), Fits k := by
    rintro k (rfl | rfl)
    · exact hfits
    · exact hfits'
  rw [answers_directory sorted hboth hcalls h]
  show [_, _, Except.ok (Answer.payload (Entries.get? (safeName key)
    (Entries.put (safeName key') payload' _)))] = _
  rw [hsafe, Entries.get?_put_self]
  rfl

theorem fresh_vars : Files.Fresh {} "vars" := by
  have hleads : (makeDirectory "vars" {}).2.LeadsTo "vars" ["vars"] := ⟨by decide, rfl, rfl⟩
  refine ⟨rfl, ?_⟩
  rw [hleads.list?, names_eq]
  exact congrArg some List.mergeSort_nil

/-- **A directory answers as memory does, whatever is called on the scopes, if and only if their safe names
differ and are not too long.** Then every load gives what was saved last under its key. -/
theorem answers_directory_iff (h : d.files.Fresh path) (scopes : Set Scope) :
    (∀ calls, OnKeys (Scope.storageKey '' scopes) calls →
      answers calls (.directory path) d = answers calls (.memory {}) d ∧
        ∀ before key after, calls = before ++ .load key :: after →
          (answers calls (.directory path) d)[before.length]? =
            some (.ok (.payload (lastSaved key before)))) ↔
      (∀ c ∈ scopes, Fits c.storageKey) ∧ Set.InjOn (fun c => safeName c.storageKey) scopes := by
  have hfiled : Filed path [] d.files := .unmade h rfl
  have hkey : ∀ c ∈ scopes, c.storageKey ∈ Scope.storageKey '' scopes :=
    fun c hc => Set.mem_image_of_mem _ hc
  constructor
  · intro hsame
    have hfits : ∀ c ∈ scopes, Fits c.storageKey := by
      intro c hc
      by_contra hlong
      obtain ⟨hanswers, -⟩ := hsame [.save c.storageKey .empty] (by
        rintro _ (_ | ⟨_, ⟨⟩⟩)
        exact ⟨_, hkey c hc, rfl⟩)
      rw [answers_directory_long hfiled hlong] at hanswers
      cases hanswers
    refine ⟨hfits, fun c hc c' hc' heq => ?_⟩
    by_contra hne
    have hother : c'.storageKey ≠ c.storageKey := fun hsame => hne (Scope.storageKey_injective hsame.symm)
    -- the first of two payloads of different size is lost
    obtain ⟨-, hload⟩ := hsame [.save c.storageKey ⟨#[0]⟩, .save c'.storageKey .empty, .load c.storageKey] (by
      simp only [OnKeys, List.forall_mem_cons]
      exact ⟨⟨_, hkey c hc, rfl⟩, ⟨_, hkey c' hc', rfl⟩, ⟨_, hkey c hc, rfl⟩, by simp⟩)
    have hfirst := hload [.save c.storageKey ⟨#[0]⟩, .save c'.storageKey .empty] _ [] rfl
    rw [answers_directory_shared hfiled (hfits c hc) (hfits c' hc') heq] at hfirst
    have hlast : lastSaved c.storageKey [.save c.storageKey ⟨#[0]⟩, .save c'.storageKey .empty] =
        some ⟨#[0]⟩ := by
      simp [lastSaved, Call.leaves, hother]
    rw [hlast] at hfirst
    have hempty : ByteArray.empty = ⟨#[0]⟩ := by simpa using hfirst
    exact absurd (congrArg ByteArray.size hempty) (by decide)
  · rintro ⟨hfits, hinj⟩ calls hcalls
    have hacts : answers calls (.directory path) d = (acts id sorted calls []).map .ok := by
      rw [answers_directory sorted (Set.forall_mem_image.2 hfits) hcalls hfiled]
      refine congrArg _ (acts_eq ?_ hcalls fun _ _ => rfl)
      rintro _ ⟨c, hc, rfl⟩ _ ⟨c', hc', rfl⟩ heq
      rw [hinj hc hc' heq]
    refine ⟨hacts.trans (answers_memory (s := {}) rfl calls d).symm, ?_⟩
    rintro before key after rfl
    rw [hacts, List.getElem?_map, getElem?_acts]
    rfl

theorem answers_directory_iff_ab :
    Files.Fresh {} "vars" ∧
      ∀ calls, OnKeys (Scope.storageKey '' {.global, .character "a/b", .character "b"}) calls →
        answers calls (.directory "vars") {} = answers calls (.memory {}) {} ∧
          ∀ before key after, calls = before ++ .load key :: after →
            (answers calls (.directory "vars") {})[before.length]? =
              some (.ok (.payload (lastSaved key before))) := by
  refine ⟨fresh_vars, (answers_directory_iff (d := {}) fresh_vars _).2 ⟨?_, ?_⟩⟩
  · rintro c (rfl | rfl | rfl) <;> decide
  · rintro c (rfl | rfl | rfl) c' (rfl | rfl | rfl) heq
    all_goals first | rfl | exact absurd heq (by decide)

/-- Memory keeps apart what two characters have, and a directory does not. -/
theorem answers_directory_lowLine :
    let calls : List Call := [.save (Scope.character "a/b").storageKey "1".toUTF8,
      .save (Scope.character "a_b").storageKey "2".toUTF8, .load (Scope.character "a/b").storageKey]
    answers calls (.memory {}) {} = [.ok .done, .ok .done, .ok (.payload (some "1".toUTF8))] ∧
      answers calls (.directory "vars") {} = [.ok .done, .ok .done, .ok (.payload (some "2".toUTF8))] := by
  refine ⟨rfl, answers_directory_shared (.unmade fresh_vars rfl) ?_ ?_ ?_ _ _⟩
  all_goals decide

end StoryState.Gateway
