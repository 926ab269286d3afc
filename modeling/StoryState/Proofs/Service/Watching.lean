import StoryState.Proofs.Files.Watcher
import StoryState.Proofs.Service.Errand

/-!
A service whose configurations are watched. When the file of a script's configuration has been written, its
story is dropped, so that the next one is opened from the new configuration; but a change that follows another
one within the pause is overlooked. So a story that is open was opened behind the last change, or else that
change came within the pause of one that was acted on, and the story was opened behind that one
(`Watched.opened_behind`).

Stories are numbered in the order in which they are opened. Hence a story was opened behind a service if its
number is none of those that the service has given.
-/

namespace StoryState

open Script StoryState.Task

namespace Service

/-! ### Stories that are open later -/

/-- From a service to a later one: stories are only added, and a story that is open has been open or is
new. -/
structure Onward (σ σ' : Service) : Prop where
  configs : σ'.configs = σ.configs
  length : σ.stories.length ≤ σ'.stories.length
  isOpen : ∀ id number, Entries.get? id σ'.openStories = some number →
    Entries.get? id σ.openStories = some number ∨ σ.stories.length ≤ number

variable {α : Type} {σ σ' σ'' : Service} {id : String} {number : Nat}

theorem Onward.refl (σ : Service) : Onward σ σ := ⟨rfl, Nat.le_refl _, fun _ _ h => .inl h⟩

theorem Onward.trans (h : Onward σ σ') (h' : Onward σ' σ'') : Onward σ σ'' := by
  refine ⟨h'.configs.trans h.configs, Nat.le_trans h.length h'.length, fun id number hopen => ?_⟩
  rcases h'.isOpen id number hopen with hopen' | hnew
  · exact h.isOpen id number hopen'
  · exact .inr (Nat.le_trans h.length hnew)

theorem onward_onStory (t : ScriptTask α) (σ : Service) : Onward σ ((onStory number t).alone σ).2 := by
  have hput : ∀ p τ, Onward σ τ → Onward σ (setScript number p τ) := fun p τ h =>
    h.trans ⟨rfl, Nat.le_of_eq List.length_set.symm, fun _ _ hopen => .inl hopen⟩
  exact holds_within hput t (.refl σ)

theorem onward_added (id : String) (σ : Service) : Onward σ (σ.added id) :=
  ⟨rfl, by simp [added, addStore], fun _ _ h => .inl h⟩

theorem onward_find (id : String) (σ : Service) : Onward σ ((Service.find id).alone σ).2 := by
  cases hopen : Entries.get? id σ.openStories with
  | some number =>
    rw [alone_find hopen]
    exact .refl σ
  | none =>
    rw [alone_find_closed hopen]
    cases hconfig : σ.configFault with
    | some e =>
      rw [alone_openNew_error hconfig]
      exact onward_added id σ
    | none =>
      obtain ⟨τ, hend, honly, -⟩ := alone_openNew id hconfig
      have hτ : τ.configs = σ.configs ∧ τ.openStories = σ.openStories := by
        rw [honly.rest]
        exact ⟨rfl, rfl⟩
      have hlength := honly.length
      rw [hend]
      refine ⟨hτ.1, ?_, fun key n hn => ?_⟩
      · show σ.stories.length ≤ τ.stories.length
        rw [hlength]
        exact (onward_added id σ).length
      · by_cases hkey : id = key
        · rw [hkey, Entries.get?_put_self] at hn
          cases hn
          exact .inr (Nat.le_refl _)
        · rw [Entries.get?_put_of_ne hkey, hτ.2] at hn
          exact .inl hn

theorem onward_drop (id : String) (σ : Service) : Onward σ ((Service.drop id).alone σ).2 :=
  ⟨rfl, Nat.le_refl _, fun _ _ h => .inl (Entries.get?_of_erase h)⟩

theorem onward_retire (id : String) (σ : Service) : Onward σ ((Service.retire id).alone σ).2 := by
  unfold Service.retire
  rw [alone_get]
  cases Entries.get? id σ.openStories with
  | none => exact .refl σ
  | some number =>
    dsimp only
    rw [alone_bind, alone_flushStory]
    exact (onward_onStory Script.flush σ).trans (onward_drop id _)

theorem onward_reconfigure (id : String) (config : Value) (σ : Service) :
    Onward σ ((Service.reconfigure id config).alone σ).2 := by
  unfold Service.reconfigure
  rw [alone_tryCatch]
  have hsave : Onward σ ((saveConfig id config).alone σ).2 :=
    ⟨rfl, Nat.le_refl _, fun _ _ h => .inl h⟩
  have hretire : Onward σ ((discard (Service.retire id)).alone ((saveConfig id config).alone σ).2).2 := by
    rw [alone_discard]
    exact hsave.trans (onward_retire id _)
  refine alone_bind_holds hsave fun _ _ => alone_bind_holds hretire fun _ _ => ?_
  rw [alone_map, alone_discard]
  exact hretire.trans (onward_find id _)

theorem onward_flushStories (numbers : List Nat) (σ : Service) :
    Onward σ ((Service.flushStories numbers).alone σ).2 := by
  induction numbers generalizing σ with
  | nil => exact .refl σ
  | cons number numbers ih =>
    unfold Service.flushStories
    rw [alone_bind, alone_flushStory]
    exact (onward_onStory Script.flush σ).trans (ih _)

/-- Whatever is asked of a service leads onward. -/
theorem Errand.onward (e : Errand) (σ : Service) : Onward σ (e.after σ) := by
  unfold Errand.after Errand.task
  cases e with
  | find id =>
    dsimp only
    rw [alone_discard]
    exact onward_find id σ
  | act id x =>
    exact alone_bind_holds (onward_find id σ) fun number _ =>
      (onward_find id σ).trans (onward_onStory x.task _)
  | retire id =>
    dsimp only
    rw [alone_discard]
    exact onward_retire id σ
  | drop id => exact onward_drop id σ
  | dropAll => exact ⟨rfl, Nat.le_refl _, fun _ _ hn => nomatch hn⟩
  | reconfigure id config =>
    dsimp only
    rw [alone_discard]
    exact onward_reconfigure id config σ
  | flushOpen => exact onward_flushStories _ σ
  | surroundings history files => exact ⟨rfl, Nat.le_refl _, fun _ _ h => .inl h⟩

theorem Request.onward (r : Request) (σ : Service) : Onward σ (r.after σ) := by
  rw [r.after_eq]
  generalize r.errands σ = es
  induction es generalizing σ with
  | nil => exact .refl σ
  | cons e es ih => exact (e.onward σ).trans (ih _)

theorem after_find (id : String) (σ : Service) :
    (Request.errand (.find id)).after σ = ((Service.find id).alone σ).2 :=
  congrArg Prod.snd alone_discard

/-- A story that is not open need not be dropped. -/
theorem after_retire_closed (hclosed : Entries.get? id σ.openStories = none) :
    (Errand.retire id).after σ = σ := by
  show ((discard (Service.retire id)).alone σ).2 = σ
  rw [alone_discard]
  unfold Service.retire
  rw [alone_get, hclosed]
  rfl

/-- A story that is dropped is not open. -/
theorem get?_retire (id : String) (σ : Service) :
    Entries.get? id ((Errand.retire id).after σ).openStories = none := by
  show Entries.get? id ((discard (Service.retire id)).alone σ).2.openStories = none
  cases hopen : Entries.get? id σ.openStories with
  | none =>
    rw [show ((discard (Service.retire id)).alone σ).2 = σ from after_retire_closed hopen]
    exact hopen
  | some number =>
    rw [alone_discard]
    unfold Service.retire
    rw [alone_get, hopen]
    dsimp only
    rw [alone_bind, alone_flushStory]
    exact Entries.get?_erase_self ..

end Service

/-! ### Watching -/

/-- A service and the watcher of its configurations. -/
structure Watched where
  service : Service
  watcher : Watcher := {}

/-- What happens to a service whose configurations are watched: a file is written, or something is asked of the
service. -/
inductive Happening where
  /-- A path is written at a time; the files are such then. -/
  | write (path : String) (files : Files) (time : Number)
  | request (r : Service.Request)

/-- The clock reads right when a file is written. -/
def Happening.Timely : Happening → Prop
  | .write _ _ time => Watcher.Reading time
  | .request _ => True

namespace Watched

open Service

/-- What a happening leaves behind. When a file has been written the watcher takes notice at once, and if it
names a script then the story of that is dropped. -/
def after (w : Watched) : Happening → Watched
  | .write path files time =>
    let σ := { w.service with files }
    match w.watcher.notice path time with
    | .error _ => ⟨σ, w.watcher⟩
    | .ok (none, watcher) => ⟨σ, watcher⟩
    | .ok (some id, watcher) => ⟨(Errand.retire id).after σ, watcher⟩
  | .request r => ⟨r.after w.service, w.watcher⟩

/-- What happenings leave behind, one after another. -/
def afterAll (w : Watched) (hs : List Happening) : Watched := hs.foldl after w

/-- The watcher names the script when the path is written at the time. -/
def ActsOn (w : Watched) (path id : String) (time : Number) : Prop :=
  ∃ watcher, w.watcher.notice path time = .ok (some id, watcher)

/-- All stories that there are were opened before the story of the number. -/
def Precedes (w : Watched) (number : Nat) : Prop := w.service.stories.length ≤ number

variable {w : Watched} {hs before after : List Happening} {files : Files} {path id : String}
  {number : Nat} {t u : Number}

theorem afterAll_append (hs hs' : List Happening) :
    w.afterAll (hs ++ hs') = (w.afterAll hs).afterAll hs' := List.foldl_append

theorem afterAll_nil : w.afterAll [] = w := rfl

theorem afterAll_cons (h : Happening) (hs : List Happening) :
    w.afterAll (h :: hs) = (w.after h).afterAll hs := rfl

theorem afterAll_concat (hs : List Happening) (h : Happening) :
    w.afterAll (hs ++ [h]) = (w.afterAll hs).after h := afterAll_append hs [h]

theorem onward_after (w : Watched) (h : Happening) : Onward w.service (w.after h).service := by
  cases h with
  | request r => exact r.onward w.service
  | write path files time =>
    have hwritten : Onward w.service { w.service with files } :=
      ⟨rfl, Nat.le_refl _, fun _ _ h => .inl h⟩
    unfold Watched.after
    dsimp only
    split
    · exact hwritten
    · exact hwritten
    · exact hwritten.trans (Errand.onward _ _)

theorem onward_afterAll (w : Watched) (hs : List Happening) :
    Onward w.service (w.afterAll hs).service := by
  induction hs generalizing w with
  | nil => exact .refl _
  | cons h hs ih => exact (onward_after w h).trans (ih (w.after h))

/-- Behind a change that is acted on, the story of the script is not open; so one that is open later was
opened behind the change. -/
theorem precedes_of_actsOn (acts : w.ActsOn path id t)
    (hopen : Entries.get? id ((w.after (.write path files t)).afterAll hs).service.openStories =
      some number) : (w.after (.write path files t)).Precedes number := by
  obtain ⟨watcher, hnotice⟩ := acts
  have hclosed : Entries.get? id (w.after (.write path files t)).service.openStories = none := by
    unfold Watched.after
    dsimp only
    rw [hnotice]
    exact get?_retire id _
  rcases (onward_afterAll (w.after (.write path files t)) hs).isOpen id number hopen with hold | hnew
  · rw [hclosed] at hold
    cases hold
  · exact hnew

/-- The time that is kept for a path is that of a change that was acted on. -/
theorem exists_write (blank : w.watcher.last = []) (timely : ∀ h ∈ hs, h.Timely)
    (hlast : Entries.get? path (w.afterAll hs).watcher.last = some u) :
    u.Bounded ∧ ∃ before files after id, hs = before ++ .write path files u :: after ∧
      (w.afterAll before).ActsOn path id u := by
  induction hs using List.reverseRecOn with
  | nil =>
    rw [afterAll, List.foldl_nil, blank] at hlast
    cases hlast
  | append_singleton hs h ih =>
    have htimely : ∀ h ∈ hs, h.Timely := fun h hh => timely h (List.mem_append_left _ hh)
    have hearlier : Entries.get? path (w.afterAll hs).watcher.last = some u →
        u.Bounded ∧ ∃ before files after id, hs ++ [h] = before ++ .write path files u :: after ∧
          (w.afterAll before).ActsOn path id u := by
      intro hlast
      obtain ⟨bounded, before, files, after, id, rfl, acts⟩ := ih htimely hlast
      exact ⟨bounded, before, files, after ++ [h], id, by simp, acts⟩
    rw [afterAll_concat] at hlast
    cases h with
    | request r => exact hearlier hlast
    | write path' files' t =>
      have hreading : Watcher.Reading t := timely (.write path' files' t) (by simp)
      unfold Watched.after at hlast
      dsimp only at hlast
      split at hlast
      · exact hearlier hlast
      · rename_i watcher hnotice
        rw [Watcher.eq_of_notice_none hnotice] at hlast
        exact hearlier hlast
      · rename_i id watcher hnotice
        rw [(Watcher.eq_of_notice_some hnotice).2] at hlast
        by_cases hpath : path' = path
        · subst hpath
          rw [Entries.get?_put_self] at hlast
          cases hlast
          exact ⟨hreading.bounded, hs, files', [], id, rfl, watcher, hnotice⟩
        · rw [Entries.get?_put_of_ne hpath] at hlast
          exact hearlier hlast

/-- After each change of a script's configuration, whatever else is written and asked before and after: a story
of the script that is open was opened behind the change, or else the pause since an earlier change that was
acted on was not over, and the story was opened behind that one. -/
theorem opened_behind (blank : w.watcher.last = []) (plain : '/' ∉ id.toList)
    (named : ∃ c ∈ id.toList, c ≠ '.') (hpath : path = Config.path w.service.configs id)
    (timely : ∀ h ∈ before ++ .write path files t :: after, h.Timely)
    (hopen : Entries.get? id (w.afterAll (before ++ .write path files t :: after)).service.openStories =
      some number) :
    (w.afterAll (before ++ [.write path files t])).Precedes number ∨
      ∃ earlier files' u between, before = earlier ++ .write path files' u :: between ∧
        (w.afterAll earlier).ActsOn path id u ∧ Watcher.Pausing u t ∧
        (w.afterAll (earlier ++ [.write path files' u])).Precedes number := by
  have hscript : Watcher.scriptOf? path = some id := hpath ▸ (Watcher.scriptOf?_path plain).2 named
  have hreading : Watcher.Reading t := timely (.write path files t) (by simp)
  have htimely : ∀ h ∈ before, h.Timely := fun h hh => timely h (List.mem_append_left _ hh)
  have hbounded : ∀ u, Entries.get? path (w.afterAll before).watcher.last = some u → u.Bounded :=
    fun u hlast => (exists_write blank htimely hlast).1
  rcases Watcher.notice_cases hscript hreading hbounded with hacted | ⟨-, u, hlast, hpausing⟩
  · left
    rw [afterAll_append, afterAll_cons] at hopen
    rw [afterAll_concat]
    exact precedes_of_actsOn ⟨_, hacted⟩ hopen
  · right
    obtain ⟨-, earlier, files', between, id', rfl, acts⟩ := exists_write blank htimely hlast
    obtain ⟨watcher, hnotice⟩ := acts
    obtain rfl : id = id' := Option.some.inj (hscript.symm.trans (Watcher.eq_of_notice_some hnotice).1)
    refine ⟨earlier, files', u, between, rfl, ⟨watcher, hnotice⟩, hpausing, ?_⟩
    rw [List.append_assoc, List.cons_append, afterAll_append, afterAll_cons] at hopen
    rw [afterAll_concat]
    exact precedes_of_actsOn ⟨watcher, hnotice⟩ hopen

/-! ### A change that is overlooked -/

/-- The files when the configuration of a script has been written. -/
def configured (text : String) : Files :=
  { nodes := [(["scripts"], .directory), (["scripts", "s.json"], .file text.toUTF8)] }

/-- The configuration of a script is written and its story is asked for. -/
def once : List Happening :=
  [.write "scripts/s.json" (configured "\x7b\x7d") (.int 10), .request (.errand (.find "s"))]

/-- The files when the configuration has been written again. -/
def revised : Files := configured "\x7b\"vars\": \x7b\x7d\x7d"

/-- A second later the configuration is written again. -/
def twice : List Happening := once ++ [.write "scripts/s.json" revised (.int 11)]

/-- Its story is open then, and no story has been opened since. -/
theorem afterAll_twice : let σ := ((⟨{}, {}⟩ : Watched).afterAll twice).service
    Entries.get? "s" σ.openStories = some 0 ∧ σ.stories.length = 1 := by
  have hscript : Watcher.scriptOf? "scripts/s.json" = some "s" := by decide +kernel
  have hfirst : Watcher.notice "scripts/s.json" (.int 10) {} =
      .ok (some "s", { last := [("scripts/s.json", .int 10)] }) := by
    unfold Watcher.notice
    rw [hscript]
    rfl
  have hsecond : Watcher.notice "scripts/s.json" (.int 11) { last := [("scripts/s.json", .int 10)] } =
      .ok (none, { last := [("scripts/s.json", .int 10)] }) := by
    unfold Watcher.notice
    rw [hscript]
    rfl
  generalize hσ : ({ files := configured "\x7b\x7d" } : Service) = σ
  have hclosed : Entries.get? "s" σ.openStories = none := by
    rw [← hσ]
    rfl
  obtain ⟨τ, hend, honly, -⟩ := alone_openNew (σ := σ) "s" (by rw [← hσ])
  have hopened : (Request.errand (.find "s")).after σ =
      { τ with openStories := τ.openStories.put "s" σ.stories.length } := by
    rw [after_find, alone_find_closed hclosed, hend]
  have hlength : τ.stories.length = 1 := by
    rw [honly.length, ← hσ]
    rfl
  have hstart : (⟨{}, {}⟩ : Watched).after (.write "scripts/s.json" (configured "\x7b\x7d") (.int 10)) =
      ⟨σ, { last := [("scripts/s.json", .int 10)] }⟩ := by
    unfold Watched.after
    dsimp only
    rw [hfirst]
    dsimp only
    rw [hσ, after_retire_closed hclosed]
  unfold twice once
  rw [afterAll_concat, afterAll_cons, afterAll_cons, hstart, afterAll_nil]
  unfold Watched.after
  dsimp only
  rw [hsecond, hopened]
  refine ⟨?_, hlength⟩
  rw [← hσ]
  exact Entries.get?_put_self ..

/-- So the story that is open was opened before the last change. -/
theorem change_overlooked : let w := (⟨{}, {}⟩ : Watched).afterAll twice
    Entries.get? "s" w.service.openStories = some 0 ∧ ¬ w.Precedes 0 := by
  obtain ⟨hopen, hlength⟩ := afterAll_twice
  refine ⟨hopen, fun precedes => ?_⟩
  unfold Precedes at precedes
  rw [hlength] at precedes
  cases precedes

/-- The pause since the first change was not over, and the story was opened behind that one. -/
theorem pausing_twice : let w : Watched := ⟨{}, {}⟩
    ∃ earlier files u between, once = earlier ++ .write "scripts/s.json" files u :: between ∧
      (w.afterAll earlier).ActsOn "scripts/s.json" "s" u ∧ Watcher.Pausing u (.int 11) ∧
      (w.afterAll (earlier ++ [.write "scripts/s.json" files u])).Precedes 0 := by
  have timely : ∀ h ∈ once ++ [.write "scripts/s.json" revised (.int 11)], h.Timely := by
    have hten : Watcher.Reading (.int 10) := ⟨rfl, _, rfl⟩
    have heleven : Watcher.Reading (.int 11) := ⟨rfl, _, rfl⟩
    simp [once, Happening.Timely, hten, heleven]
  have hpath : "scripts/s.json" = Config.path "scripts" "s" := by decide +kernel
  have blank : (⟨{}, {}⟩ : Watched).watcher.last = [] := rfl
  have behind := opened_behind blank (by simp) ⟨'s', by simp, by decide⟩ hpath timely afterAll_twice.1
  exact behind.resolve_left change_overlooked.2

end Watched

end StoryState
