import StoryState.Proofs.Service.BackupFiles
import StoryState.Proofs.Story.Short
import StoryState.Proofs.Task.Strokes

/-!
Backups of many scripts in one directory, run after run. A script none of whose backups can be taken for those
of another has its newest ones, as many as are to be kept, listed from the newest one, and each is read as the
snapshot that was written (`Backups.kept_apart`). Where the lead of one script is a prefix of another's, the
backups of the other are listed among its own (`Backups.listed_among`).
-/

namespace StoryState

/-! ### Snapshots that are written -/

theorem Snapshot.Fit.tidy {snap : Snapshot} (h : snap.Fit) : snap.toValue.Tidy := by
  have hcharacters := Value.tidy_mapValues h.once fun id m hm => (h.characters id m hm).tidy
  refine Value.tidy_record (by simp) ?_
  simpa using ⟨h.global.tidy, hcharacters⟩

theorem Snapshot.isWritable_toValue {snap : Snapshot} : snap.toValue.isWritable = true ↔ snap.Short := by
  rw [toValue, Value.isWritable_object]
  simp only [List.forall_mem_cons, List.not_mem_nil, false_implies, implies_true, and_true,
    Value.isWritable_mapValues, State.isWritable_toValue]
  exact ⟨fun h => ⟨h.1, h.2⟩, fun h => ⟨h.global, h.characters⟩⟩

namespace Script

open StoryState.Task

theorem looks_lockedState (scope : Scope) : (lockedState scope).Looks := .holding (.get fun _ => .pure _)

theorem looks_characterStates (ids : List String) : (characterStates ids).Looks := by
  induction ids with
  | nil => exact .pure _
  | cons id ids ih => exact .bind (looks_lockedState _) fun _ => .map ih

/-- Taking a snapshot changes nothing, and goes through. -/
theorem looks_takeSnapshot : takeSnapshot.Looks :=
  .bind (looks_lockedState _) fun _ => .get fun _ => .map (looks_characterStates _)

end Script

namespace Backups

open StoryState.Task

variable {b : Backups} {id : String} {number : Nat} {time : Int}

/-! ### Backups with a record -/

/-- Backs up one story as `backUp` does; answers what was written. -/
def recordOne (b : Backups) (time : Int) (id : String) (number : Nat) : ServiceTask (Option Written) :=
  tryCatch (do
    let snapshot ← Service.onStory number Script.takeSnapshot
    .yield
    let s ← get
    let (outcome, files) := b.write id time snapshot s.files
    set { s with files }
    .ofExcept outcome
    modify fun s => { s with files := b.prune id s.files }
    return some ⟨id, time, snapshot⟩) fun _ => return none

/-- Backs up some stories as `backUpEach` does; answers what was written, the newest first. -/
def recordEach (b : Backups) : List (String × Nat) → ServiceTask (List Written × Clock)
  | [] => return ([], b.clock)
  | (id, number) :: more => do
    let clock := b.clock.next
    let first ← b.recordOne clock.now id number
    let (log, clock) ← recordEach { b with clock } more
    return (log ++ first.toList, clock)

/-- Backs up all open stories as `backUpAll` does; answers what was written, the newest first. -/
def recordAll (b : Backups) : ServiceTask (List Written × Clock) := do
  let s ← get
  match s.files.makeDirectory b.directory with
  | (some _, files) => do
    set { s with files }
    return ([], b.clock)
  | (none, files) => do
    set { s with files }
    b.recordEach s.openStories

theorem backUp_eq (b : Backups) (time : Int) (id : String) (number : Nat) :
    b.backUp time id number = do return (← b.recordOne time id number).isSome := by
  unfold backUp recordOne
  -- the faults are caught behind the answer in the one, and before it in the other
  refine Eq.trans ?_ (andThen_assoc _ _ _).symm
  refine (andThen_assoc _ _ _).trans (Eq.trans ?_ (andThen_assoc _ _ _).symm)
  refine congrArg (Task.andThen _) (funext fun r => ?_)
  cases r with
  | error e => rfl
  | ok snapshot =>
    refine congrArg Task.rest (congrArg Task.read (funext fun s => ?_))
    simp only [andThen_done]
    generalize b.write id time snapshot s.files = p
    obtain ⟨e | u, files⟩ := p <;> rfl

theorem backUpEach_eq (stories : List (String × Nat)) (b : Backups) :
    b.backUpEach stories = do
      let (log, clock) ← b.recordEach stories
      return (log.length, clock) := by
  induction stories generalizing b with
  | nil => rfl
  | cons entry stories ih =>
    obtain ⟨id, number⟩ := entry
    unfold backUpEach recordEach
    dsimp only
    rw [backUp_eq, Task.bind_assoc, Task.bind_assoc]
    refine congrArg (Task.bind _) (funext fun first => ?_)
    show (backUpEach { b with clock := b.clock.next } stories >>= fun p =>
      pure ((if first.isSome then 1 else 0) + p.1, p.2)) = _
    rw [ih, Task.bind_assoc, Task.bind_assoc]
    refine congrArg (Task.bind _) (funext fun rest => ?_)
    have hcount : (if first.isSome then 1 else 0) + rest.1.length = (rest.1 ++ first.toList).length := by
      cases first <;> simp [Nat.add_comm]
    exact congrArg (fun n => (pure (n, rest.2) : ServiceTask (Nat × Clock))) hcount

theorem backUpAll_eq (b : Backups) : b.backUpAll = do
    let (log, clock) ← b.recordAll
    return (log.length, clock) := by
  unfold backUpAll recordAll
  refine congrArg Task.read (funext fun s => ?_)
  simp only [andThen_done]
  generalize s.files.makeDirectory b.directory = p
  obtain ⟨e | e, files⟩ := p
  · exact congrArg (Task.write _) (b.backUpEach_eq _)
  · rfl

/-- A run ends as one with a record does, and counts what that records. -/
theorem endsIn_backUpAll {Rest : Service → Service → Prop} {s s' : Service} {r : Except Fault (Nat × Clock)} :
    b.backUpAll.EndsIn Rest s r s' ↔
      ∃ r₁, b.recordAll.EndsIn Rest s r₁ s' ∧ r = r₁.map fun (log, clock) => (log.length, clock) := by
  rw [backUpAll_eq]
  exact endsIn_map

/-! ### One backup more -/

variable {directory : String} {limit : Int} {log : List Written} {s s' : Service}

/-- All snapshots that can be taken can be stored. -/
def Savable (s : Service) : Prop :=
  ∀ number snap, (Script.takeSnapshot.alone (s.script number)).1 = .ok snap → snap.Fit ∧ snap.Short

/-- What others do between the backups: they do not touch the directory, and whatever they leave can be stored. -/
structure Between (directory : String) (s s' : Service) : Prop where
  listed : s'.files.list? directory = s.files.list? directory
  files : ∀ name, s'.files.at? (Files.join directory name) = s.files.at? (Files.join directory name)
  savable : Savable s → Savable s'

theorem Between.refl (directory : String) (s : Service) : Between directory s s := ⟨rfl, fun _ => rfl, id⟩

/-- The directory holds what is to be kept of the backups that were written. -/
structure Standing (directory : String) (limit : Int) (log : List Written) (s : Service) : Prop where
  savable : Savable s
  order : InOrder log
  fit : ∀ w ∈ log, w.snapshot.Fit ∧ w.snapshot.Short
  held : ∃ ws, Kept limit log ws ∧ Holds directory ws s.files

theorem Standing.between (h : Standing directory limit log s) (between : Between directory s s') :
    Standing directory limit log s' := by
  obtain ⟨ws, hkept, hholds⟩ := h.held
  exact ⟨between.savable h.savable, h.order, h.fit, ws, hkept,
    Files.Holds.congr hholds between.listed between.files⟩

theorem Standing.later (h : Standing directory limit log s) {w : Written} (dated : Clock.Dated w.time)
    (later : ∀ w' ∈ log, w'.time < w.time) : InOrder (w :: log) :=
  ⟨List.forall_mem_cons.2 ⟨dated, h.order.dated⟩, List.pairwise_cons.2 ⟨later, h.order.later⟩⟩

/-- A backup is written and old ones of its script are removed. -/
theorem Standing.prune {ws : List Written} {w : Written} {files : Files}
    (h : Standing b.directory b.limit log s) (hlimit : 0 ≤ b.limit) (order : InOrder (w :: log))
    (fit : w.snapshot.Fit ∧ w.snapshot.Short) (kept : Kept b.limit log ws)
    (holds : Holds b.directory (w :: ws) files) :
    Standing b.directory b.limit (w :: log) { s with files := b.prune w.id files } := by
  obtain ⟨hperm, hsorted⟩ := holds.list w.id
  have hnodup := (order.sublist (kept.sublist.cons_cons w)).nodup
  exact ⟨h.savable, order, List.forall_mem_cons.2 ⟨fit, h.fit⟩, _, kept.step order hlimit hperm hsorted,
    holds.prune hnodup hlimit w.id⟩

/-- The script and the time of a backup. -/
def Written.due (w : Written) : String × Int := (w.id, w.time)

/-- Whether the name of a backup is not too long. -/
def fits (e : String × Int) : Bool := (name e.1 e.2).utf8ByteSize ≤ Files.nameLimit

theorem fits_of_le (dated : Clock.Dated time) (h : (lead id).utf8ByteSize ≤ 228) : fits (id, time) = true := by
  refine decide_eq_true ((utf8ByteSize_name id dated).trans_le ?_)
  unfold Files.nameLimit
  omega

/-- A backup of an open story is written, unless its name is too long, and what is kept is in the directory. -/
theorem endsIn_recordOne {r : Except Fault (Option Written)} (hlimit : 0 ≤ b.limit)
    (h : Standing b.directory b.limit log s) (dated : Clock.Dated time) (later : ∀ w ∈ log, w.time < time)
    (hr : (b.recordOne time id number).EndsIn (Between b.directory) s r s') :
    ∃ first, r = .ok first ∧ first.toList.map Written.due = [(id, time)].filter fits ∧
      Standing b.directory b.limit (first.toList ++ log) s' := by
  obtain ⟨r₁, hrun, rfl⟩ := endsIn_tryCatch.1 hr
  refine ⟨_, rfl, ?_⟩
  rcases endsIn_bind.1 hrun with ⟨snapshot, s₁, htake, hrest⟩ | ⟨e, htake, -⟩
  · obtain ⟨rfl, htaken, -⟩ := Script.looks_takeSnapshot.endsIn_within htake
    have hfit := h.savable number snapshot htaken.symm
    -- the snapshot is of the state before others run, the directory is looked at behind that
    obtain ⟨s₂, between, hrest⟩ := endsIn_yield.1 hrest
    have h₂ := h.between between
    obtain ⟨ws, hkept, hholds⟩ := h₂.held
    have order := h₂.later (w := ⟨id, time, snapshot⟩) dated later
    have hnew : (⟨id, time, snapshot⟩ : Written).name ∉ ws.map Written.name :=
      (List.nodup_cons.1 (order.sublist (hkept.sublist.cons_cons _)).nodup).1
    have hwrite := hholds.write hnew (Snapshot.isWritable_toValue.2 hfit.2)
    have hrest := endsIn_get.1 hrest
    by_cases hfits : (name id time).utf8ByteSize ≤ Files.nameLimit
    · rw [List.filter_cons_of_pos (by simpa [fits] using hfits)]
      obtain ⟨files, hwrite, hholds⟩ := (if_pos hfits).mp hwrite
      rw [show b.write id time snapshot s₂.files = _ from hwrite] at hrest
      rcases endsIn_bind.1 (endsIn_set.1 hrest) with ⟨u, s₃, hok, hrest⟩ | ⟨e, herror, -⟩
      · obtain ⟨-, rfl⟩ := endsIn_done.1 hok
        obtain ⟨r₂, hmodify, rfl⟩ := endsIn_map.1 hrest
        obtain ⟨rfl, rfl⟩ := endsIn_modify.1 hmodify
        exact ⟨rfl, h₂.prune hlimit order hfit hkept hholds⟩
      · cases (endsIn_done.1 herror).1
    · rw [List.filter_cons_of_neg (by simpa [fits] using hfits)]
      obtain ⟨e, hwrite⟩ := (if_neg hfits).mp hwrite
      rw [show b.write id time snapshot s₂.files = _ from hwrite] at hrest
      rcases endsIn_bind.1 (endsIn_set.1 hrest) with ⟨u, s₃, hok, -⟩ | ⟨e', herror, rfl⟩
      · cases (endsIn_done.1 hok).1
      · obtain ⟨-, rfl⟩ := endsIn_done.1 herror
        exact ⟨rfl, h₂⟩
  · obtain ⟨-, -, a, ha⟩ := Script.looks_takeSnapshot.endsIn_within htake
    cases ha

/-! ### Runs -/

/-- The scripts that a run is to back up, and the times at which it does so, the last one first. -/
def readings (clock : Clock) : List (String × Nat) → List (String × Int)
  | [] => []
  | (id, _) :: more => readings clock.next more ++ [(id, clock.next.now)]

/-- How a run ends that starts where `log` has been written: it answers what it wrote, and leaves in the
directory what is kept. -/
def Runs (b : Backups) (log : List Written) (stories : List (String × Nat))
    (r : Except Fault (List Written × Clock)) (s' : Service) : Prop :=
  ∃ new clock, r = .ok (new, clock) ∧ new.map Written.due = (readings b.clock stories).filter fits ∧
    Standing b.directory b.limit (new ++ log) s'

theorem endsIn_recordEach {stories : List (String × Nat)} {r : Except Fault (List Written × Clock)}
    (hlimit : 0 ≤ b.limit) (tick : 0 < b.clock.tick) (h : Standing b.directory b.limit log s)
    (later : ∀ w ∈ log, w.time ≤ b.clock.now) (dated : ∀ e ∈ readings b.clock stories, Clock.Dated e.2)
    (hr : (b.recordEach stories).EndsIn (Between b.directory) s r s') : b.Runs log stories r s' := by
  induction stories generalizing b log s r with
  | nil =>
    obtain ⟨rfl, rfl⟩ := endsIn_done.1 hr
    exact ⟨[], b.clock, rfl, rfl, h⟩
  | cons entry stories ih =>
    obtain ⟨id, number⟩ := entry
    have hnow : b.clock.next.now = b.clock.now + b.clock.tick := rfl
    have hdated : Clock.Dated b.clock.next.now := dated (id, _) (by simp [readings])
    have hearlier : ∀ w ∈ log, w.time < b.clock.next.now := fun w hw => by
      have := later w hw
      omega
    rcases endsIn_bind.1 hr with ⟨first, s₁, hfirst, hrest⟩ | ⟨e, hfirst, -⟩
    · obtain ⟨first, hok, hdue, h₁⟩ := endsIn_recordOne hlimit h hdated hearlier hfirst
      cases hok
      obtain ⟨r₁, hrecord, rfl⟩ := endsIn_map.1 hrest
      have hlater : ∀ w ∈ first.toList ++ log, w.time ≤ b.clock.next.now := by
        intro w hw
        rcases List.mem_append.1 hw with hw | hw
        · have hmem := List.mem_map_of_mem (f := Written.due) hw
          rw [hdue] at hmem
          have hreading := List.mem_singleton.1 (List.mem_of_mem_filter hmem)
          exact Int.le_of_eq (congrArg Prod.snd hreading)
        · exact Int.le_of_lt (hearlier w hw)
      obtain ⟨new, clock, rfl, hnew, hstanding⟩ := ih (b := { b with clock := b.clock.next }) hlimit tick h₁
        hlater (fun e he => dated e (by simp [readings, he])) hrecord
      refine ⟨new ++ first.toList, clock, rfl, ?_, ?_⟩
      · rw [List.map_append, hnew, hdue, readings, List.filter_append]
      · rw [List.append_assoc]
        exact hstanding
    · obtain ⟨_, hok, -⟩ := endsIn_recordOne hlimit h hdated hearlier hfirst
      cases hok

/-- A run goes through, and backs up all open stories whose backups have names that are not too long. -/
theorem endsIn_recordAll {r : Except Fault (List Written × Clock)} (hlimit : 0 ≤ b.limit)
    (tick : 0 < b.clock.tick) (h : Standing b.directory b.limit log s)
    (later : ∀ w ∈ log, w.time ≤ b.clock.now)
    (dated : ∀ e ∈ readings b.clock s.openStories, Clock.Dated e.2)
    (hr : b.recordAll.EndsIn (Between b.directory) s r s') : b.Runs log s.openStories r s' := by
  obtain ⟨ws, -, hholds⟩ := h.held
  obtain ⟨place, hleads, -⟩ := Files.Holds.leadsTo hholds
  have hr := endsIn_get.1 hr
  rw [hleads.makeDirectory] at hr
  exact endsIn_recordEach hlimit tick h later dated (endsIn_set.1 hr)

/-- Runs of backups, one after another and each at later times than those before, that begin with an empty
directory; and what they have written, the newest first. -/
inductive Course (directory : String) (limit : Int) : Service → List Written → Prop where
  | start {s : Service} (savable : Savable s) (empty : s.files.list? directory = some []) :
    Course directory limit s []
  | run {s s₁ s' : Service} {log new : List Written} {clock clock' : Clock}
    (course : Course directory limit s log) (between : Between directory s s₁) (tick : 0 < clock.tick)
    (later : ∀ w ∈ log, w.time ≤ clock.now)
    (dated : ∀ e ∈ readings clock s₁.openStories, Clock.Dated e.2)
    (ends : (Backups.mk directory limit clock).recordAll.EndsIn (Between directory) s₁ (.ok (new, clock')) s') :
    Course directory limit s' (new ++ log)

theorem standing_of_empty (savable : Savable s) (empty : s.files.list? directory = some []) :
    Standing directory limit [] s where
  savable := savable
  order := ⟨by simp, .nil⟩
  fit := by simp
  held := ⟨[], kept_nil, by simp, ⟨[], empty, .refl _⟩, by simp⟩

theorem Course.standing (hlimit : 0 ≤ limit) (course : Course directory limit s log) :
    Standing directory limit log s := by
  induction course with
  | start savable empty => exact standing_of_empty savable empty
  | run course between tick later dated ends ih =>
    obtain ⟨new, clock, heq, -, hstanding⟩ :=
      endsIn_recordAll (b := ⟨directory, limit, _⟩) hlimit tick (ih.between between) later dated ends
    cases heq
    exact hstanding

/-! ### What is found of a script -/

/-- The backups of a script that are to be there: the newest ones, as many as are to be kept. -/
def newest (b : Backups) (id : String) (log : List Written) : List Written :=
  (log.filter (·.id = id)).take b.limit.toNat

/-- What is found of a script is what was written for it. -/
structure Faithful (b : Backups) (id : String) (log : List Written) (fs : Files) : Prop where
  listed : b.list id fs = (b.newest id log).map Written.name
  read : ∀ w ∈ b.newest id log,
    (do Json.read (← fs.readText (b.path w.name))) = .ok w.snapshot.toValue
  latest : b.latest id fs = .ok (((log.filter (·.id = id)).head?.map (·.snapshot.toValue)).getD .null)

/-- After each run there are of each script, if its backups cannot be taken for those of another, the newest ones,
as many as are to be kept; they are listed from the newest one, and each is read as what was written. -/
theorem kept_apart (hlimit : 1 ≤ b.limit) (course : Course b.directory b.limit s log)
    (apart : ∀ w ∈ log, w.id = id ∨ Apart id w.id) : b.Faithful id log s.files := by
  have h := course.standing (by omega)
  obtain ⟨ws, hkept, hholds⟩ := h.held
  obtain ⟨hperm, hsorted⟩ := hholds.list id
  have hlisted : b.list id s.files = (b.newest id log).map Written.name := by
    rw [names_eq (h.order.sublist hkept.sublist) (fun w hw => apart w (hkept.sublist.subset hw)) hperm hsorted,
      hkept.own id apart]
    rfl
  have hread : ∀ w ∈ b.newest id log,
      (do Json.read (← s.files.readText (b.path w.name))) = .ok w.snapshot.toValue := by
    intro w hw
    have hws : w ∈ ws := by
      unfold newest at hw
      rw [← hkept.own id apart] at hw
      exact List.mem_of_mem_filter hw
    obtain ⟨hfit, hshort⟩ := h.fit w (hkept.sublist.subset hws)
    exact hholds.read hws (Snapshot.isWritable_toValue.2 hshort) hfit.tidy
  refine ⟨hlisted, hread, ?_⟩
  unfold latest
  rw [hlisted]
  unfold newest at hread ⊢
  obtain ⟨k, hk⟩ : ∃ k, b.limit.toNat = k + 1 := ⟨b.limit.toNat - 1, by omega⟩
  rw [hk] at hread ⊢
  generalize log.filter (·.id = id) = own at hread ⊢
  cases own with
  | nil => rfl
  | cons w own => exact hread w List.mem_cons_self

/-! ### Two scripts -/

section Pair

/-- Two open stories of new scripts, and an empty directory for their backups. -/
def newPair (id id' : String) : Service where
  stories := [{ scriptId := some id }, { scriptId := some id' }]
  openStories := [(id, 0), (id', 1)]
  files := ⟨[(["snapshots"], .directory)]⟩

theorem savable_newPair (id id' : String) : Savable (newPair id id') := by
  have hnew : ∀ (scriptId : Option String) (store : Store),
      (Script.takeSnapshot.alone ⟨{ scriptId }, store⟩).1 = .ok ⟨{}, []⟩ := fun _ _ => rfl
  have hempty : (⟨{}, []⟩ : Snapshot).Fit ∧ (⟨{}, []⟩ : Snapshot).Short :=
    ⟨⟨Entries.once_nil, State.storable_empty, by simp⟩, ⟨State.short_empty, by simp⟩⟩
  intro number snap hsnap
  obtain ⟨scriptId, hstory⟩ : ∃ scriptId, (newPair id id').story number = { scriptId } := by
    rcases number with _ | _ | number
    · exact ⟨some id, rfl⟩
    · exact ⟨some id', rfl⟩
    · exact ⟨none, rfl⟩
  rw [Service.script, hstory, hnew] at hsnap
  cases hsnap
  exact hempty

/-- What a run writes for two scripts whose names are short. -/
theorem course_newPair {id id' : String} (hid : (lead id).utf8ByteSize ≤ 228)
    (hid' : (lead id').utf8ByteSize ≤ 228) :
    ∃ w w', w.due = (id', 2000000) ∧ w'.due = (id, 1000000) ∧
      Course "snapshots" 24 (({} : Backups).recordAll.alone (newPair id id')).2 [w, w'] := by
  have hleads : (newPair id id').files.LeadsTo "snapshots" ["snapshots"] := ⟨by decide, rfl, rfl⟩
  have hempty : (newPair id id').files.list? "snapshots" = some [] :=
    hleads.list?.trans (congrArg some List.mergeSort_nil)
  have start : Course "snapshots" 24 (newPair id id') [] := .start (savable_newPair id id') hempty
  have hdated : Clock.Dated 1000000 ∧ Clock.Dated 2000000 := by decide
  have dated : ∀ e ∈ [(id', (2000000 : Int)), (id, 1000000)], Clock.Dated e.2 := by
    simpa using hdated.symm
  have hends := endsIn_alone (Between.refl "snapshots") ({} : Backups).recordAll (newPair id id')
  obtain ⟨new, clock, hok, hnew, -⟩ := endsIn_recordAll (b := {}) (by decide) (by decide)
    (start.standing (by decide)) (by simp) dated hends
  rw [hok] at hends
  have hdue : new.map Written.due = [(id', 2000000), (id, 1000000)] := by
    refine hnew.trans (List.filter_eq_self.2 fun e he => ?_)
    rcases List.mem_pair.1 he with rfl | rfl
    · exact fits_of_le hdated.2 hid'
    · exact fits_of_le hdated.1 hid
  obtain ⟨w, rest, rfl, hw, hrest⟩ := List.map_eq_cons_iff.1 hdue
  obtain ⟨w', rest, rfl, hw', hrest⟩ := List.map_eq_cons_iff.1 hrest
  obtain rfl := List.map_eq_nil_iff.1 hrest
  have tick : 0 < ({} : Clock).tick := by decide
  exact ⟨w, w', hw, hw', .run start (.refl _ _) tick (by simp) dated hends⟩

theorem lead_small : (lead "a").utf8ByteSize ≤ 228 ∧ (lead "b").utf8ByteSize ≤ 228 ∧
    (lead "a_b").utf8ByteSize ≤ 228 := by decide

/-- Of two scripts with different leads each has its own backup. -/
theorem kept_apart_newPair : let s := (({} : Backups).recordAll.alone (newPair "a" "b")).2
    ∃ w w', w.due = ("b", 2000000) ∧ w'.due = ("a", 1000000) ∧ (1 : Int) ≤ 24 ∧
      Course "snapshots" 24 s [w, w'] ∧ (∀ v ∈ [w, w'], v.id = "a" ∨ Apart "a" v.id) ∧
      ({} : Backups).Faithful "a" [w, w'] s.files := by
  obtain ⟨w, w', hw, hw', course⟩ := course_newPair lead_small.1 lead_small.2.1
  have apart : ∀ v ∈ [w, w'], v.id = "a" ∨ Apart "a" v.id := by
    intro v hv
    rcases List.mem_pair.1 hv with rfl | rfl
    · have hid : v.id = "b" := congrArg Prod.fst hw
      rw [hid]
      exact .inr (by unfold Apart; decide)
    · exact .inl (congrArg Prod.fst hw')
  exact ⟨w, w', hw, hw', by decide, course, apart, kept_apart (b := {}) (by decide) course apart⟩

/-- The lead of the first of two scripts is a prefix of the other's: it has the backup of the other listed among
its own. -/
theorem listed_among : let s := (({} : Backups).recordAll.alone (newPair "a" "a_b")).2
    ∃ w w', w.due = ("a_b", 2000000) ∧ w'.due = ("a", 1000000) ∧ Course "snapshots" 24 s [w, w'] ∧
      w.name ∈ ({} : Backups).list "a" s.files ∧ ¬ ({} : Backups).Faithful "a" [w, w'] s.files := by
  intro s
  obtain ⟨w, w', hw, hw', course⟩ := course_newPair lead_small.1 lead_small.2.2
  have hid : w.id = "a_b" := congrArg Prod.fst hw
  have h : Standing "snapshots" 24 [w, w'] s := course.standing (by decide)
  obtain ⟨ws, hkept, hholds⟩ := h.held
  obtain rfl : ws = [w, w'] := hkept.all (by simp)
  obtain ⟨hperm, -⟩ := Holds.list (b := {}) hholds "a"
  have hlisted : w.name ∈ ({} : Backups).list "a" s.files := by
    refine hperm.mem_iff.2 (List.mem_filter.2 ⟨List.mem_cons_self, (isBackupOf_name _ _ _).2 ?_⟩)
    rw [hid]
    decide
  refine ⟨w, w', hw, hw', course, hlisted, fun faithful => ?_⟩
  rw [faithful.listed] at hlisted
  obtain ⟨v, hv, heq⟩ := List.mem_map.1 hlisted
  obtain ⟨hv, hown⟩ := List.mem_filter.1 (List.mem_of_mem_take hv)
  rcases List.mem_pair.1 hv with rfl | rfl
  · rw [hid] at hown
    exact absurd hown (by decide)
  · exact (List.nodup_cons.1 h.order.nodup).1 (List.mem_singleton.2 heq.symm)

end Pair

end Backups

end StoryState
