import StoryState.Files.Config
import StoryState.Proofs.Directive.Renaming
import StoryState.Proofs.Files.Directory
import StoryState.Proofs.Json.Breaks
import StoryState.Proofs.Json.Document
import StoryState.Proofs.Service.Retiring
import StoryState.Proofs.Value.Writable

/-!
Giving a script another configuration. What has been written to its file is what is read
(`Config.load_of_save`). It goes through just if the configuration can be written and
configurations can be read (`reconfigure_iff`); then the story of the script has been opened anew from what the
configuration says (`reconfigured`).
-/

namespace StoryState

/-! ### The file -/

namespace Config

/-- A configuration that has been written is read back, but for the document around it. -/
theorem load_of_save {directory id : String} {config : Value} {fs fs' : Files} (tidy : config.Tidy)
    (h : save directory id config fs = (.ok (), fs')) : load directory id fs' = unwrap config := by
  unfold save at h
  split at h
  · cases h
  · split at h
    · cases h
    · rename_i fs₂ hwrite
      obtain ⟨hrender, rfl⟩ := Prod.mk.inj h
      have hwritable : config.isWritable = true := by
        rw [← Value.isOk_render .pretty]
        cases hr : Json.render .pretty config with
        | error e => rw [hr] at hrender; cases hrender
        | ok document => rfl
      have hdocument := Json.render_eq_draft .pretty hwritable
      have hfile := Files.at?_of_write hwrite
      have hread := Files.readText_of_at? hfile (Json.render_no_return Json.Layout.pretty_plain hdocument)
      have hisFile : fs₂.isFile (path directory id) = true := by rw [Files.isFile, hfile]
      rw [load, if_pos hisFile, hread]
      dsimp only
      rw [Json.read_render Json.Layout.pretty_regular tidy hdocument]
      rfl

end Config

/-! ### The service -/

namespace Service

open StoryState.Task Script

variable {id : String} {config : Value} {σ σ' : Service}

/-- The files behind writing the configuration of a script. -/
def withConfig (id : String) (config : Value) (σ : Service) : Service :=
  { σ with files := (Config.save σ.configs id config σ.files).2 }

theorem alone_saveConfig : (saveConfig id config).alone σ =
    ((Config.save σ.configs id config σ.files).1, σ.withConfig id config) := rfl

/-- What a configuration comes to: it is written, the story is dropped, and the next one is opened. -/
theorem alone_reconfigure (hsave : (Config.save σ.configs id config σ.files).1 = .ok ()) :
    ∃ τ, Retired id (σ.withConfig id config) τ ∧ (reconfigure id config).alone σ =
      (.ok ((openNew id).alone τ).1.toOption.isSome, ((openNew id).alone τ).2) := by
  obtain ⟨b, τ, hretire, hτ⟩ := exists_retired id (σ.withConfig id config)
  refine ⟨τ, hτ, ?_⟩
  unfold reconfigure
  rw [alone_tryCatch_ok, alone_bind, alone_saveConfig, hsave]
  dsimp only
  rw [alone_bind, alone_discard, hretire]
  dsimp only [Except.map]
  rw [alone_bind, alone_discard, alone_find_closed hτ.closed]
  rcases (openNew id).alone τ with ⟨_ | _, τ'⟩ <;> rfl

/-- A configuration that cannot be written changes nothing but the files. -/
theorem alone_reconfigure_error {e : Fault} (hsave : (Config.save σ.configs id config σ.files).1 = .error e) :
    (reconfigure id config).alone σ = (.ok false, σ.withConfig id config) := by
  unfold reconfigure
  rw [alone_tryCatch_ok, alone_bind, alone_saveConfig, hsave]
  rfl

/-- A script can be given a configuration just if this can be written and configurations can be read. -/
theorem reconfigure_iff : ((reconfigure id config).alone σ).1 = .ok true ↔
    (Config.save σ.configs id config σ.files).1 = .ok () ∧ σ.configFault = none := by
  cases hsave : (Config.save σ.configs id config σ.files).1 with
  | error e =>
    rw [alone_reconfigure_error hsave]
    simp
  | ok _ =>
    obtain ⟨τ, hτ, hend⟩ := alone_reconfigure hsave
    have hfault : τ.configFault = σ.configFault := by
      rw [hτ.rest]
      rfl
    rw [hend]
    cases hconfig : τ.configFault with
    | some e =>
      rw [alone_openNew_error hconfig, ← hfault, hconfig]
      simp [Except.toOption]
    | none =>
      obtain ⟨σ', hopened, -⟩ := alone_openNew id hconfig
      rw [hopened, ← hfault, hconfig]
      simp [Except.toOption]

/-- A configuration that makes a state, and that can be written and read: the story of the script is opened with
this state, in which the variables that every script has are registered. -/
theorem exists_reconfigured {fields : Entries Value} {m : State} (tidy : config.Tidy)
    (works : (σ.storeOf id).outage = .none)
    (hsave : (Config.save σ.configs id config σ.files).1 = .ok ()) (hfault : σ.configFault = none)
    (hfields : Config.unwrap config = some fields) (hsome : fields ≠ [])
    (hm : State.ofValue (.object fields) = .ok m) :
    ∃ number σ', (reconfigure id config).alone σ = (.ok true, σ') ∧
      Entries.get? id σ'.openStories = some number ∧ (σ'.story number).global.isOpen = true ∧
      (σ'.story number).global.state = (m.applyRegistrations σ.names systemDirective).2 := by
  obtain ⟨τ, hτ, hgoes⟩ := alone_reconfigure hsave
  have hread : τ.configured id = some (.ok m) := by
    have hload : Config.load σ.configs id (σ.withConfig id config).files = some fields :=
      (Config.load_of_save tidy (Prod.ext hsave rfl)).trans hfields
    rw [hτ.rest]
    exact (configured_of_load hload hsome).trans (congrArg some hm)
  have hconfig : τ.configFault = none := by
    rw [hτ.rest]
    exact hfault
  have hnames : (τ.untouched id).story.names = σ.names := by
    rw [hτ.rest]
    rfl
  have hkept : Script.Kept id (τ.untouched id) := kept_untouched ((hτ.outage id).trans works)
  have hgood : GoodConfig (some (.ok m)) := hread ▸ goodConfig_configured
  have hopen := (hkept.begun hgood).2.1
  have hstate := hkept.memory_begun hgood
  obtain ⟨τ', hopened, -, hscript⟩ := alone_openNew id hconfig
  rw [hread] at hscript
  rw [← hscript] at hopen hstate
  rw [hnames] at hstate
  rw [hopened] at hgoes
  exact ⟨_, _, hgoes, Entries.get?_put_self .., hopen, hstate⟩

/-- A script has been given a configuration that makes a state. Then its story has been opened with this state,
in which the variables that every script has are registered, whatever there was before. -/
theorem reconfigured {fields : Entries Value} {m : State} (tidy : config.Tidy)
    (works : (σ.storeOf id).outage = .none) (hend : (reconfigure id config).alone σ = (.ok true, σ'))
    (hfields : Config.unwrap config = some fields) (hsome : fields ≠ [])
    (hm : State.ofValue (.object fields) = .ok m) :
    ∃ number, Entries.get? id σ'.openStories = some number ∧ (σ'.story number).global.isOpen = true ∧
      (σ'.story number).global.state = (m.applyRegistrations σ.names systemDirective).2 ∧
      (σ.names.ReadsSystem → (σ'.story number).global.state = m.putTexts systemVariables) := by
  obtain ⟨hsave, hfault⟩ := reconfigure_iff.1 (congrArg Prod.fst hend)
  obtain ⟨number, σ'', hend', hnumber, hopen, hstate⟩ :=
    exists_reconfigured tidy works hsave hfault hfields hsome hm
  obtain ⟨-, rfl⟩ := Prod.mk.inj (hend.symm.trans hend')
  exact ⟨number, hnumber, hopen, hstate, fun hreads => hstate.trans (State.applyRegistrations_renamed hreads m)⟩

/-! ### A configuration with one variable -/

/-- A configuration with one variable. -/
def goldFields : Entries Value :=
  [("variables", .object [("gold", .object [("type", .text "string"), ("value", .text "nine")])])]

/-- The state that it makes. -/
def gold : State := { vars := [("gold", .ofText "nine")] }

theorem ofValue_gold : State.ofValue (.object goldFields) = .ok gold := rfl

theorem tidy_gold : (Value.object goldFields).Tidy := by
  simp [goldFields, Value.Tidy, Value.FieldsTidy, Entries.Once]

theorem reconfigured_gold : ∃ number σ', (reconfigure "s" (.object goldFields)).alone {} = (.ok true, σ') ∧
    Entries.get? "s" σ'.openStories = some number ∧
    (σ'.story number).global.state = gold.putTexts systemVariables := by
  have hanswer : ((reconfigure "s" (.object goldFields)).alone {}).1 = .ok true :=
    reconfigure_iff.2 ⟨rfl, rfl⟩
  generalize hend : (reconfigure "s" (.object goldFields)).alone {} = p at hanswer
  obtain ⟨r, σ'⟩ := p
  obtain rfl : r = .ok true := hanswer
  obtain ⟨number, hopen, -, -, hstate⟩ :=
    reconfigured tidy_gold rfl hend rfl (List.cons_ne_nil _ _) ofValue_gold
  exact ⟨number, σ', rfl, hopen, hstate TagNames.readsSystem_standard⟩

/-- The same configuration in the document of a script. -/
def wrappedGold : Value := .object [("variableConfig", .object goldFields)]

/-- The document itself would make the empty state; but it is the configuration inside that the story is opened
with. -/
theorem reconfigured_wrappedGold : State.ofValue wrappedGold = .ok {} ∧
    ∃ number σ', (reconfigure "s" wrappedGold).alone {} = (.ok true, σ') ∧
      Entries.get? "s" σ'.openStories = some number ∧
      (σ'.story number).global.state ≠ (({} : State).applyRegistrations .standard systemDirective).2 := by
  have tidy : wrappedGold.Tidy := by
    rw [wrappedGold, Value.tidy_object]
    simpa [Entries.Once] using tidy_gold
  have works : (storeOf "s" {}).outage = .none := rfl
  have hfields : Config.unwrap wrappedGold = some goldFields := rfl
  obtain ⟨number, σ', hend, hnumber, -, hstate⟩ :=
    exists_reconfigured tidy works rfl rfl hfields (List.cons_ne_nil _ _) ofValue_gold
  refine ⟨rfl, number, σ', hend, hnumber, fun heq => ?_⟩
  rw [hstate, State.applyRegistrations_systemDirective, State.applyRegistrations_systemDirective] at heq
  have hother : "gold" ∉ systemVariables.map Prod.fst := by decide
  have hgold := congrArg (fun m : State => Entries.get? "gold" m.vars) heq
  rw [State.get?_putTexts_of_notMem hother, State.get?_putTexts_of_notMem hother] at hgold
  cases hgold

end Service

end StoryState
