import StoryState.Files.Watcher
import StoryState.Proofs.Files.Path
import StoryState.Proofs.Number.Bits

/-!
What the watcher of configurations does when a path has changed: it names the script of the path, unless the
path was acted on not long before (`Watcher.notice_cases`). The path of a configuration has the script that
it belongs to, unless that is named by dots only (`Watcher.scriptOf?_path`).
-/

namespace StoryState

namespace Number

/-- A double can stand for the number. -/
def Bounded (t : Number) : Prop := ∃ x, t.toFloat = .ok x

/-- Numbers for which doubles can stand have a difference. -/
theorem sub_of_bounded {a b : Number} (ha : a.Bounded) (hb : b.Bounded) :
    ∃ d, Number.sub a b = .ok d := by
  obtain ⟨x, hx⟩ := ha
  obtain ⟨y, hy⟩ := hb
  have hfloats : (do return .float ((← a.toFloat) - (← b.toFloat)) : Except Fault Number) =
      .ok (.float (x - y)) := by
    rw [hx, hy]
    rfl
  cases a with
  | float _ => exact ⟨_, hfloats⟩
  | int m =>
    cases b with
    | float _ => exact ⟨_, hfloats⟩
    | int n => exact ⟨_, rfl⟩

/-- Nothing is taken away with zero. -/
theorem sub_zero {a : Number} : Number.sub a (.int 0) = .ok a := by
  cases a with
  | int n => exact congrArg (fun m => Except.ok (Number.int m)) (Int.sub_zero n)
  | float x =>
    obtain ⟨hzero, hsub⟩ := sub_ofInt_zero x
    have hfloat : toFloat (.int 0) = .ok (Float.ofBits 0) := by
      unfold toFloat
      dsimp only
      rw [hzero]
    show (do return .float (x - (← toFloat (.int 0))) : Except Fault Number) = _
    rw [hfloat]
    exact congrArg (fun y => Except.ok (Number.float y)) hsub

end Number

namespace Watcher

variable {w : Watcher} {path id : String} {t u : Number}

/-- A reading of a clock that has run for longer than the pause. -/
structure Reading (t : Number) : Prop where
  late : isLong t = true
  bounded : t.Bounded

/-- When it is `t`, the pause since `u` is not over. -/
def Pausing (u t : Number) : Prop := ∃ span, Number.sub t u = .ok span ∧ isLong span = false

/-- The path of a configuration belongs to its script, unless the script is named by dots only. -/
theorem scriptOf?_path {directory : String} (h : '/' ∉ id.toList) :
    scriptOf? (Config.path directory id) = some id ↔ ∃ c ∈ id.toList, c ≠ '.' := by
  have hname : '/' ∉ (id ++ Files.ending).toList := by
    simpa [Files.ending] using h
  unfold scriptOf? Config.path
  rw [Files.baseName_join hname]
  dsimp only
  rw [Files.dropEnd?_append, Option.isSome_some, if_pos rfl, Files.stem_document]
  by_cases hdots : id.toList.all (· = '.')
  · have hlonger : id ++ Files.ending ≠ id := by
      intro heq
      have hlength := congrArg (fun s => s.toList.length) heq
      simp [Files.ending] at hlength
    simp only [if_pos hdots, Option.some.injEq, hlonger, false_iff]
    simpa using hdots
  · simp only [if_neg hdots, true_iff]
    simpa using hdots

/-- Who names no script keeps no time. -/
theorem eq_of_notice_none {w' : Watcher} (h : w.notice path t = .ok (none, w')) : w' = w := by
  unfold notice at h
  split at h
  · cases h
    rfl
  · generalize Number.sub t _ = span at h
    cases span with
    | error e => cases h
    | ok span =>
      change (if isLong span = true then _ else _) = _ at h
      split at h
      · cases h
      · cases h
        rfl

/-- Who names a script names that of the path, and keeps the time. -/
theorem eq_of_notice_some {w' : Watcher} (h : w.notice path t = .ok (some id, w')) :
    scriptOf? path = some id ∧ w' = { last := w.last.put path t } := by
  unfold notice at h
  split at h
  · cases h
  · rename_i found hfound
    generalize Number.sub t _ = span at h
    cases span with
    | error e => cases h
    | ok span =>
      change (if isLong span = true then _ else _) = _ at h
      split at h
      · cases h
        exact ⟨hfound, rfl⟩
      · cases h

/-- When the path of a script has changed, the script is named and the time is kept, or the pause since the
time that was kept is not over and nothing is done. -/
theorem notice_cases (hpath : scriptOf? path = some id) (reading : Reading t)
    (bounded : ∀ u, Entries.get? path w.last = some u → u.Bounded) :
    w.notice path t = .ok (some id, { last := w.last.put path t }) ∨
      w.notice path t = .ok (none, w) ∧ ∃ u, Entries.get? path w.last = some u ∧ Pausing u t := by
  unfold notice
  rw [hpath]
  cases hlast : Entries.get? path w.last with
  | none =>
    left
    show (Number.sub t (.int 0) >>= _) = _
    rw [Number.sub_zero]
    show (if isLong t = true then _ else _) = _
    rw [if_pos reading.late]
    rfl
  | some u =>
    obtain ⟨span, hspan⟩ := Number.sub_of_bounded reading.bounded (bounded u hlast)
    show (Number.sub t u >>= _) = _ ∨ (Number.sub t u >>= _) = _ ∧ _
    rw [hspan]
    by_cases hlong : isLong span
    · left
      show (if isLong span = true then _ else _) = _
      rw [if_pos hlong]
      rfl
    · right
      refine ⟨?_, u, rfl, span, hspan, by simpa using hlong⟩
      show (if isLong span = true then _ else _) = _
      rw [if_neg hlong]
      rfl

end Watcher

end StoryState
