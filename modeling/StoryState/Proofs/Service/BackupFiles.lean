import StoryState.Proofs.Json.Breaks
import StoryState.Proofs.Json.Document
import StoryState.Proofs.Service.Clock
import StoryState.Proofs.Storage.Directory
import StoryState.Proofs.Story.Replacing
import StoryState.Service.Backup

/-!
The directory of backups: what writing one and removing old ones leave in it, what is listed of a script, and
what is read of a backup. A backup counts as one of every script whose lead is a prefix of its script's lead
(`isBackupOf_name`), whether or not that is the same script; those of one script are listed in the order of
their times. When one is written, the older ones of its script are removed that are more than may be kept; of
a script none of whose backups can be taken for those of another the newest ones are left (`Kept.step`).
-/

namespace StoryState

namespace Backups

open Text

variable {id id' : String} {time time' : Int}

/-! ### Names -/

theorem toList_name (id : String) (time : Int) : (name id time).toList =
    (lead id).toList ++ ((Clock.stamp time).toList ++ Files.ending.toList) := by
  unfold name
  simp

/-- The lead of a script ends with a low line, and none follows in the name of a backup. -/
theorem lead_eq (id : String) : (lead id).toList = (Gateway.safeName id).toList ++ ['_'] := by
  unfold lead
  simp

theorem mem_lead {c : Char} (h : c ∈ (lead id).toList) : isWord c = true ∨ c = '.' ∨ c = '-' ∨ c = '_' := by
  rw [lead_eq, List.mem_append] at h
  rcases h with h | h
  · exact Gateway.mem_safeName h
  · exact .inr (.inr (.inr (List.mem_singleton.1 h)))

theorem mem_name {c : Char} (h : c ∈ (name id time).toList) : isWord c = true ∨ isAsciiDigit c = true ∨
    c ∈ ['.', '-', '_', 'j', 's', 'o', 'n'] := by
  rw [toList_name, List.mem_append, List.mem_append] at h
  rcases h with h | h | h
  · rcases mem_lead h with h | rfl | rfl | rfl <;> simp_all
  · rcases Clock.of_mem_stamp h with h | rfl <;> simp_all
  · have hending : c ∈ ['.', 'j', 's', 'o', 'n'] := h
    simp only [List.mem_cons, List.not_mem_nil, or_false] at hending ⊢
    tauto

theorem low_not_mem : '_' ∉ (Clock.stamp time).toList ++ Files.ending.toList := by
  rw [List.mem_append]
  rintro (h | h)
  · rcases Clock.of_mem_stamp h with h | h <;> cases h
  · have hending : '_' ∈ ['.', 'j', 's', 'o', 'n'] := h
    simp at hending

theorem isName_name (id : String) (time : Int) : Files.IsName (name id time) := by
  have hlow : '_' ∈ (name id time).toList := by
    rw [toList_name, lead_eq]
    simp
  refine ⟨fun h => ?_, fun h => ?_, ?_, ?_, ?_⟩
  · have hword : isWord '/' = false := by decide
    rcases mem_name h with h | h | h
    · rw [hword] at h
      cases h
    · cases h
    · simp at h
  · have hword : isWord '\x00' = false := by decide
    rcases mem_name h with h | h | h
    · rw [hword] at h
      cases h
    · cases h
    · simp at h
  all_goals
    intro heq
    rw [heq] at hlow
    simp at hlow

/-- A backup looks like one of every script whose lead its script's lead begins with. -/
theorem isBackupOf_name (id id' : String) (time : Int) :
    isBackupOf id (name id' time) = true ↔ (lead id).toList <+: (lead id').toList := by
  have hending : (Files.dropEnd? Files.ending (name id' time)).isSome = true := by
    unfold name
    rw [Files.dropEnd?_append]
    rfl
  have hlead : isBackupOf id (name id' time) = true ↔ (lead id).toList <+: (name id' time).toList := by
    unfold isBackupOf
    rw [hending, Bool.and_true, Option.isSome_iff_exists]
    exact exists_congr fun rest => dropLead?_eq_some_iff.trans eq_comm
  rw [hlead, toList_name]
  refine ⟨fun h => ?_, fun h => h.trans (List.prefix_append _ _)⟩
  rcases List.prefix_or_prefix_of_prefix h (List.prefix_append _ _) with h' | ⟨t, ht⟩
  · exact h'
  · rw [← ht, List.prefix_append_right_inj] at h
    rcases List.eq_nil_or_concat t with rfl | ⟨t', c, rfl⟩
    · rw [← ht, List.append_nil]
    · rw [List.concat_eq_append] at h ht
      rw [lead_eq id, ← List.append_assoc] at ht
      obtain rfl : c = '_' := List.singleton_inj.1 (List.append_inj_right' ht rfl)
      exact absurd (h.subset (by simp)) low_not_mem

/-- Of the names of one script's backups that of the earlier one comes first. -/
theorem name_lt (h : Clock.Dated time) (h' : Clock.Dated time') (hlt : time < time') :
    name id time < name id time' := by
  rw [String.lt_iff, toList_name, toList_name]
  exact List.append_left_lt (Clock.append_lt_append
    ((Clock.length_stamp h).trans (Clock.length_stamp h').symm) (Clock.stamp_lt h h' hlt))

/-- Backups of different times have different names. -/
theorem name_ne (h : Clock.Dated time) (h' : Clock.Dated time') (hlt : time < time') :
    name id time ≠ name id' time' := by
  intro heq
  have hlist := congrArg String.toList heq
  have hlength := (Clock.length_stamp h).trans (Clock.length_stamp h').symm
  have hstamps := Clock.stamp_lt h h' hlt
  rw [toList_name, toList_name, ← List.append_assoc, ← List.append_assoc] at hlist
  generalize (Clock.stamp time).toList = s, (Clock.stamp time').toList = s' at hlist hlength hstamps
  obtain rfl := List.append_inj_right' (List.append_cancel_right hlist) hlength
  exact List.lt_irrefl _ hstamps

/-- Whether a name is too long is up to the script. -/
theorem utf8ByteSize_name (id : String) (h : Clock.Dated time) :
    (name id time).utf8ByteSize = (lead id).utf8ByteSize + 27 := by
  have hending : Files.ending.utf8ByteSize = 5 := rfl
  unfold name
  rw [String.utf8ByteSize_append, String.utf8ByteSize_append, Clock.utf8ByteSize_stamp h, hending]

/-! ### What is in the directory -/

/-- A backup that was written. -/
structure Written where
  id : String
  time : Int
  snapshot : Snapshot

/-- The name of its file. -/
def Written.name (w : Written) : String := Backups.name w.id w.time

/-- Its file. -/
def Written.file (w : Written) : String × ByteArray :=
  (w.name, (Json.draft .pretty w.snapshot.toValue).toUTF8)

/-- A directory holds these backups and nothing else. -/
def Holds (directory : String) (ws : List Written) (fs : Files) : Prop :=
  Files.Holds directory (ws.map Written.file) fs

variable {b : Backups} {ws : List Written} {fs : Files} {w : Written}

theorem map_file_fst (ws : List Written) : (ws.map Written.file).map (·.1) = ws.map Written.name := by
  rw [List.map_map]
  rfl

/-- A backup more is in the directory when it has been written, unless its name is too long. -/
theorem Holds.write (h : Holds b.directory ws fs) (hnew : w.name ∉ ws.map Written.name)
    (hwritable : w.snapshot.toValue.isWritable = true) :
    if w.name.utf8ByteSize ≤ Files.nameLimit then
      ∃ fs', b.write w.id w.time w.snapshot fs = (.ok (), fs') ∧ Holds b.directory (w :: ws) fs'
    else ∃ e, b.write w.id w.time w.snapshot fs = (.error e, fs) := by
  have hrender := Json.render_eq_draft .pretty hwritable
  split
  · rename_i hfits
    obtain ⟨fs', hwrite, hholds⟩ := Files.Holds.write h (isName_name w.id w.time) hfits
      (by rw [map_file_fst]; exact hnew) (Json.draft .pretty w.snapshot.toValue).toUTF8
    refine ⟨fs', ?_, hholds.perm (List.perm_append_singleton _ _)⟩
    unfold Backups.write Files.writeText path
    rw [hwrite, hrender]
    rfl
  · rename_i hlong
    obtain ⟨place, hleads, -⟩ := Files.Holds.leadsTo h
    refine ⟨.file .nameTooLong, ?_⟩
    unfold Backups.write Files.writeText path
    rw [hleads.write_error (isName_name w.id w.time) (Nat.lt_of_not_le hlong)]

/-- What is listed of a script is what looks like its backups, in the order of the names from the last one. -/
theorem Holds.list (h : Holds b.directory ws fs) (id : String) :
    (b.list id fs).Perm ((ws.map Written.name).filter (isBackupOf id)) ∧
      (b.list id fs).Pairwise fun x y => y ≤ x := by
  obtain ⟨names, hlist, hperm⟩ := h.listed
  obtain ⟨place, -, hnames⟩ := Files.leadsTo_of_list? hlist
  rw [map_file_fst] at hperm
  unfold Backups.list
  rw [hlist, Option.getD_some]
  refine ⟨(List.reverse_perm _).trans (hperm.filter _), ?_⟩
  rw [List.pairwise_reverse]
  have hsorted : names.Pairwise fun x y => decide (x ≤ y) = true := by
    rw [hnames]
    refine List.pairwise_mergeSort (fun x y z hxy hyz => ?_) (fun x y => ?_) _
    · exact decide_eq_true (String.le_trans (of_decide_eq_true hxy) (of_decide_eq_true hyz))
    · simpa using String.le_total x y
  exact (hsorted.imp fun hxy => of_decide_eq_true hxy).filter _

/-- Some backups less are in the directory when they have been removed. -/
theorem Holds.removeAll {names : List String} (h : Holds b.directory ws fs) (nodup : names.Nodup)
    (hmem : ∀ n ∈ names, n ∈ ws.map Written.name) :
    Holds b.directory (ws.filter (·.name ∉ names)) (names.foldl b.removeOne fs) := by
  induction names generalizing ws fs with
  | nil => simpa using h
  | cons n names ih =>
    obtain ⟨hn, nodup⟩ := List.nodup_cons.1 nodup
    obtain ⟨place, hplace, hholds⟩ := Files.Holds.remove h
      (by rw [map_file_fst]; exact hmem n List.mem_cons_self)
    have hremove : b.removeOne fs n = fs.remove place := by
      unfold removeOne path
      rw [hplace]
    have hfilter : (ws.map Written.file).filter (·.1 ≠ n) = (ws.filter (·.name ≠ n)).map Written.file := by
      rw [List.filter_map]
      rfl
    rw [hfilter] at hholds
    have hmem' : ∀ m ∈ names, m ∈ (ws.filter (·.name ≠ n)).map Written.name := by
      intro m hm
      obtain ⟨w, hw, rfl⟩ := List.mem_map.1 (hmem m (List.mem_cons_of_mem n hm))
      refine List.mem_map.2 ⟨w, List.mem_filter.2 ⟨hw, decide_eq_true ?_⟩, rfl⟩
      rintro rfl
      exact hn hm
    have hrest := ih hholds nodup hmem'
    rw [List.filter_filter] at hrest
    rw [List.foldl_cons, hremove]
    convert hrest using 3
    simp [Bool.and_comm]

/-- Behind the newest ones of a script, as far as names tell, there are none left when they have been
removed. -/
theorem Holds.prune (h : Holds b.directory ws fs) (nodup : (ws.map Written.name).Nodup) (hlimit : 0 ≤ b.limit)
    (id : String) :
    Holds b.directory (ws.filter (·.name ∉ (b.list id fs).drop b.limit.toNat)) (b.prune id fs) := by
  obtain ⟨hperm, -⟩ := h.list id
  have hbeyond : beyond b.limit (b.list id fs) = (b.list id fs).drop b.limit.toNat := by
    unfold beyond
    split
    · rename_i hk
      rw [hk]
      rfl
    · omega
  unfold Backups.prune
  dsimp only
  split
  · rw [hbeyond]
    refine h.removeAll ((hperm.nodup_iff.2 (nodup.filter _)).sublist (List.drop_sublist _ _)) fun n hn => ?_
    exact (List.mem_filter.1 (hperm.mem_iff.1 (List.mem_of_mem_drop hn))).1
  · rename_i hfew
    rw [List.drop_eq_nil_of_le (by omega)]
    simpa using h

/-- A backup in the directory is read as what was written. -/
theorem Holds.read (h : Holds b.directory ws fs) (hw : w ∈ ws) (hwritable : w.snapshot.toValue.isWritable = true)
    (htidy : w.snapshot.toValue.Tidy) :
    (do Json.read (← fs.readText (b.path w.name))) = .ok w.snapshot.toValue := by
  have hrender := Json.render_eq_draft .pretty hwritable
  have hfile := h.kept w.file (List.mem_map_of_mem hw)
  rw [show fs.readText (b.path w.name) = .ok _ from
    Files.readText_of_at? hfile (Json.render_no_return Json.Layout.pretty_plain hrender)]
  exact Json.read_render Json.Layout.pretty_regular htidy hrender

end Backups

namespace Backups

open Text

variable {id id' : String} {log ws : List Written} {w w' : Written} {limit : Int}

/-! ### What is kept of what was written -/

/-- What backups have been written, the newest first. -/
structure InOrder (log : List Written) : Prop where
  dated : ∀ w ∈ log, Clock.Dated w.time
  later : log.Pairwise fun w w' => w'.time < w.time

theorem InOrder.sublist (h : InOrder log) (hsub : ws.Sublist log) : InOrder ws :=
  ⟨fun w hw => h.dated w (hsub.subset hw), h.later.sublist hsub⟩

theorem InOrder.nodup (h : InOrder log) : (log.map Written.name).Nodup := by
  refine List.pairwise_map.2 (h.later.imp_of_mem fun hw hw' hlt => ?_)
  exact (name_ne (h.dated _ hw') (h.dated _ hw) hlt).symm

/-- Neither of two scripts has a lead that the other one's begins with. -/
def Apart (id id' : String) : Prop :=
  ¬ (lead id).toList <+: (lead id').toList ∧ ¬ (lead id').toList <+: (lead id).toList

/-- What is listed of a script whose backups cannot be taken for those of others. -/
theorem names_eq {names : List String} (order : InOrder ws) (apart : ∀ w ∈ ws, w.id = id ∨ Apart id w.id)
    (perm : names.Perm ((ws.map Written.name).filter (isBackupOf id)))
    (sorted : names.Pairwise fun x y => y ≤ x) : names = (ws.filter (·.id = id)).map Written.name := by
  have hown : (ws.map Written.name).filter (isBackupOf id) = (ws.filter (·.id = id)).map Written.name := by
    rw [List.filter_map]
    refine congrArg _ (List.filter_congr fun w hw => ?_)
    rw [Bool.eq_iff_iff, decide_eq_true_iff]
    refine (isBackupOf_name id w.id w.time).trans ⟨fun hbegins => ?_, fun h => h ▸ List.prefix_refl _⟩
    exact (apart w hw).resolve_right fun h => h.1 hbegins
  rw [hown] at perm
  refine perm.eq_of_pairwise (fun x y _ _ hxy hyx => String.le_antisymm hyx hxy) sorted ?_
  have order' : InOrder (ws.filter (·.id = id)) := order.sublist List.filter_sublist
  refine List.pairwise_map.2 (order'.later.imp_of_mem fun hw hw' hlt => ?_)
  rename_i w w'
  have hid : w.id = id := of_decide_eq_true (List.mem_filter.1 hw).2
  have hid' : w'.id = id := of_decide_eq_true (List.mem_filter.1 hw').2
  unfold Written.name
  rw [hid, hid']
  have hname : name id w'.time < name id w.time := name_lt (order'.dated _ hw') (order'.dated _ hw) hlt
  exact (String.le_total _ _).resolve_right fun hle => String.not_lt.2 hle hname

/-- What is kept of what was written: of each script that is apart from all others the newest ones, and all if
there are not more than may be kept. -/
structure Kept (limit : Int) (log ws : List Written) : Prop where
  sublist : ws.Sublist log
  all : (log.length : Int) ≤ limit → ws = log
  own : ∀ id, (∀ w ∈ log, w.id = id ∨ Apart id w.id) →
    ws.filter (·.id = id) = (log.filter (·.id = id)).take limit.toNat

theorem kept_nil : Kept limit [] [] := ⟨.slnil, fun _ => rfl, fun _ _ => by simp⟩

/-- Of names that are different, those that are not among all but the first ones are the first ones. -/
theorem filter_drop (nodup : (ws.map Written.name).Nodup) (k : Nat) :
    ws.filter (fun w => w.name ∉ (ws.map Written.name).drop k) = ws.take k := by
  have hsplit := List.take_append_drop k ws
  rw [← List.map_drop]
  rw [← hsplit, List.map_append, List.nodup_append] at nodup
  obtain ⟨-, -, hdisjoint⟩ := nodup
  have hfirst : (ws.take k).filter (fun w => w.name ∉ (ws.drop k).map Written.name) = ws.take k := by
    refine List.filter_eq_self.2 fun w hw => decide_eq_true fun hmem => ?_
    exact hdisjoint _ (List.mem_map_of_mem hw) _ hmem rfl
  have hrest : (ws.drop k).filter (fun w => w.name ∉ (ws.drop k).map Written.name) = [] := by
    exact List.filter_eq_nil_iff.2 fun w hw hkeep =>
      of_decide_eq_true hkeep (List.mem_map_of_mem hw)
  calc ws.filter (fun w => w.name ∉ (ws.drop k).map Written.name)
      = (ws.take k ++ ws.drop k).filter (fun w => w.name ∉ (ws.drop k).map Written.name) := by
        rw [hsplit]
    _ = ws.take k := by rw [List.filter_append, hfirst, hrest, List.append_nil]

/-- One backup more is written, and old ones of its script are removed. -/
theorem Kept.step {names : List String} (h : Kept limit log ws) (order : InOrder (w :: log))
    (hlimit : 0 ≤ limit) (perm : names.Perm (((w :: ws).map Written.name).filter (isBackupOf w.id)))
    (sorted : names.Pairwise fun x y => y ≤ x) :
    Kept limit (w :: log) ((w :: ws).filter (·.name ∉ names.drop limit.toNat)) := by
  have hsub : (w :: ws).Sublist (w :: log) := h.sublist.cons_cons w
  refine ⟨List.filter_sublist.trans hsub, fun hall => ?_, fun id apart => ?_⟩
  · have hws : ws = log := h.all (by rw [List.length_cons] at hall; omega)
    have hlength : names.length ≤ (w :: ws).length := by
      rw [perm.length_eq]
      exact (List.length_filter_le _ _).trans (by simp)
    rw [List.drop_eq_nil_of_le (by rw [hws] at hlength; omega), hws]
    simp
  · rw [List.filter_filter, List.filter_congr fun _ _ => Bool.and_comm .., ← List.filter_filter]
    by_cases hid : w.id = id
    · have hnames := names_eq (order.sublist hsub) (fun w' hw' => hid ▸ apart w' (hsub.subset hw'))
        perm sorted
      rw [hid] at hnames
      have hown : (w :: ws).filter (·.id = id) = w :: (log.filter (·.id = id)).take limit.toNat := by
        rw [List.filter_cons_of_pos (by simpa using hid), h.own id fun w' hw' => apart w' (by simp [hw'])]
      have hnodup : (((w :: ws).filter (·.id = id)).map Written.name).Nodup :=
        (order.sublist (List.filter_sublist.trans hsub)).nodup
      rw [hnames, filter_drop hnodup, hown, List.filter_cons_of_pos (by simpa using hid)]
      cases limit.toNat with
      | zero => rfl
      | succ k => rw [List.take_succ_cons, List.take_succ_cons, List.take_take, Nat.min_eq_left (Nat.le_succ k)]
    · have hapart : Apart id w.id := (apart w (by simp)).resolve_left hid
      rw [List.filter_cons_of_neg (by simpa using hid), List.filter_cons_of_neg (by simpa using hid),
        ← h.own id fun w' hw' => apart w' (by simp [hw'])]
      refine List.filter_eq_self.2 fun w' hw' => decide_eq_true fun hmem => ?_
      have hlooks := (List.mem_filter.1 (perm.mem_iff.1 (List.mem_of_mem_drop hmem))).2
      have hbegins := (isBackupOf_name w.id w'.id w'.time).1 hlooks
      rw [of_decide_eq_true (List.mem_filter.1 hw').2] at hbegins
      exact hapart.2 hbegins

end Backups

end StoryState
