import CapabilityGateway.Settings.Loader

/-!
# Layers of settings

A source of settings is a layer, which may or may not say something on each of the three settings. A
section without its field says nothing, nor does a file that does not load. Merging puts the layer
of the other settings on top of what is there, and what the environment sets is merged like a file
that says the same.

* `GatewaySettings.layer`, `Environment.layer`, `FileTree.layer`: what a source says.
* `GatewaySettings.layer_merge`, `GatewaySettings.withEnvironment_layer`: one layer above another.
* `Environment.fault?`: the environment can ask for a console mode that is none, and that is all.
-/

namespace CapabilityGateway

/-! ## Layers -/

/-- What one source says on each of the settings, if anything. -/
structure Layer where
  consoleMode : Option ConsoleMode
  network : Option Bool
  audit : Option Bool
  deriving DecidableEq

namespace Layer

def silent : Layer := ⟨none, none, none⟩

/-- A layer on top of another: the lower one counts where the upper one is silent. -/
def above (upper lower : Layer) : Layer where
  consoleMode := upper.consoleMode.or lower.consoleMode
  network := upper.network.or lower.network
  audit := upper.audit.or lower.audit

/-- Settings that say what the layer says. -/
def settings (l : Layer) : GatewaySettings where
  console := l.consoleMode.map fun mode => ⟨some mode.word⟩
  network := l.network.map fun b => ⟨some b⟩
  audit := l.audit.map fun b => ⟨some b⟩

end Layer

/-- What settings say. A section that leaves its field unset says nothing. -/
def GatewaySettings.layer (g : GatewaySettings) : Layer := ⟨g.consoleMode?, g.network?, g.audit?⟩

/-- What the environment says. -/
def Environment.layer (env : Environment) : Layer where
  consoleMode := (env.text? .console).bind ConsoleMode.ofText?
  network := (env.text? .network).map isSwitchedOn
  audit := (env.text? .audit).map isSwitchedOn

/-- What a file says. A file that does not load says nothing. -/
def FileTree.layer (files : FileTree) (file : Path) : Layer :=
  match GatewaySettings.load files file with
  | .ok g => g.layer
  | .error _ => .silent

/-- Why a file does not load, if it does not. -/
def FileTree.fault? (files : FileTree) (file : Path) : Option SettingsError :=
  match GatewaySettings.load files file with
  | .ok _ => none
  | .error e => some e

/-- What is wrong with the environment: only a console mode that is none. -/
def Environment.fault? (env : Environment) : Option SettingsError :=
  match env.text? .console with
  | some s =>
    if (ConsoleMode.ofText? s).isSome then none else some (.invalidMode (ConsoleMode.normalized s))
  | none => none

theorem FileTree.load_of_fault {files : FileTree} {file : Path} {e : SettingsError}
    (h : files.fault? file = some e) : GatewaySettings.load files file = .error e := by
  rw [fault?] at h
  split at h
  next => cases h
  next hload => rw [hload, Option.some.inj h]

theorem FileTree.load_of_no_fault {files : FileTree} {file : Path} (h : files.fault? file = none) :
    ∃ g, GatewaySettings.load files file = .ok g ∧ files.layer file = g.layer := by
  rw [fault?] at h
  split at h
  next g hload => exact ⟨g, hload, by rw [layer, hload]⟩
  next => cases h

/-! ## Merging -/

namespace GatewaySettings

/-- A mode that is set is one. -/
def Valid (g : GatewaySettings) : Prop :=
  ∀ mode, g.modeText? = some mode → (ConsoleMode.ofText? mode).isSome

theorem validate_eq_ok {g : GatewaySettings} (h : g.validate = .ok ()) : g.Valid := by
  intro mode hmode
  cases hread : ConsoleMode.ofText? mode with
  | some m => rfl
  | none => simp [validate, hmode, hread] at h

theorem validate_of_valid {g : GatewaySettings} (h : g.Valid) : g.validate = .ok () := by
  rw [validate]
  cases hmode : g.modeText? with
  | none => rfl
  | some mode => exact if_pos (h mode hmode)

theorem valid_of_load {files : FileTree} {file : Path} {g : GatewaySettings}
    (h : load files file = .ok g) : g.Valid := by
  simp only [load] at h
  split at h
  next => cases h
  next => cases h
  next content _ =>
    split at h
    next => cases h
    next g' _ =>
      cases hvalidate : g'.validate with
      | error e => rw [hvalidate] at h; cases h
      | ok u =>
        rw [hvalidate] at h
        cases h
        exact validate_eq_ok hvalidate

theorem valid_empty : empty.Valid := by
  intro mode h
  cases h

/-- A file that is not there does not load. -/
theorem load_of_not_exists {files : FileTree} {file : Path} (h : files.pathExists file = false) :
    ∃ e, load files file = .error e := by
  have hresolve : ∃ e, files.resolve file = .error e := by
    cases hr : files.resolve file with
    | error e => exact ⟨e, rfl⟩
    | ok n => simp [FileTree.pathExists, hr, Except.isOk, Except.toBool] at h
  obtain ⟨e, he⟩ := hresolve
  cases e <;> simp [load, FileTree.readText, he]

theorem modeText?_merge (g other : GatewaySettings) :
    (g.merge other).modeText? = other.modeText?.or g.modeText? := by
  rw [merge]
  cases other.modeText? <;> rfl

theorem network?_merge (g other : GatewaySettings) :
    (g.merge other).network? = other.network?.or g.network? := by
  rw [merge]
  cases other.network? <;> rfl

theorem audit?_merge (g other : GatewaySettings) :
    (g.merge other).audit? = other.audit?.or g.audit? := by
  rw [merge]
  cases other.audit? <;> rfl

/-- Merging puts the layer of the other settings on top. -/
theorem layer_merge (g : GatewaySettings) {other : GatewaySettings} (hother : other.Valid) :
    (g.merge other).layer = other.layer.above g.layer := by
  have hconsole : (g.merge other).consoleMode? = other.consoleMode?.or g.consoleMode? := by
    rw [consoleMode?, modeText?_merge, consoleMode?]
    cases hmode : other.modeText? with
    | none => rfl
    | some mode =>
      obtain ⟨m, hm⟩ := Option.isSome_iff_exists.mp (hother mode hmode)
      simp [hm]
  rw [layer, hconsole, network?_merge, audit?_merge]
  rfl

theorem ofText?_word (mode : ConsoleMode) : ConsoleMode.ofText? mode.word = some mode := by
  cases mode <;> decide +kernel

theorem withEnvironment_of_fault {env : Environment} {e : SettingsError} (h : env.fault? = some e)
    (g : GatewaySettings) : g.withEnvironment env = .error e := by
  rw [Environment.fault?] at h
  split at h
  next s hs =>
    cases hmode : ConsoleMode.ofText? s with
    | none =>
      rw [hmode] at h
      cases h
      simp only [withEnvironment, hs, hmode]
      rfl
    | some mode => simp [hmode] at h
  next => cases h

theorem merge_settings (g : GatewaySettings) (l : Layer) :
    g.merge l.settings =
      ⟨(l.consoleMode.map fun mode => ⟨some mode.word⟩).or g.console,
        (l.network.map fun b => ⟨some b⟩).or g.network,
        (l.audit.map fun b => ⟨some b⟩).or g.audit⟩ := by
  obtain ⟨mode, network, audit⟩ := l
  cases mode <;> cases network <;> cases audit <;> rfl

/-- The environment is merged as a file would be that says the same. -/
theorem withEnvironment_eq_merge {env : Environment} (henv : env.fault? = none)
    (g : GatewaySettings) : g.withEnvironment env = .ok (g.merge env.layer.settings) := by
  rw [merge_settings]
  cases hconsole : env.text? .console with
  | none =>
    cases hnetwork : env.text? .network <;> cases haudit : env.text? .audit <;>
      simp [withEnvironment, Environment.layer, setNetwork, setAudit, hconsole, hnetwork,
        haudit] <;>
      rfl
  | some s =>
    cases hmode : ConsoleMode.ofText? s with
    | none => simp [Environment.fault?, hconsole, hmode] at henv
    | some mode =>
      cases hnetwork : env.text? .network <;> cases haudit : env.text? .audit <;>
        simp [withEnvironment, Environment.layer, setMode, setNetwork, setAudit, hconsole, hmode,
          hnetwork, haudit] <;>
        rfl

theorem valid_settings (l : Layer) : l.settings.Valid := by
  intro mode hmode
  cases h : l.consoleMode with
  | none => simp [modeText?, Layer.settings, h] at hmode
  | some m =>
    obtain rfl : m.word = mode := by simpa [modeText?, Layer.settings, h] using hmode
    rw [ofText?_word]
    rfl

theorem layer_settings (l : Layer) : l.settings.layer = l := by
  obtain ⟨mode, network, audit⟩ := l
  cases mode <;> cases network <;> cases audit <;>
    simp [layer, consoleMode?, modeText?, network?, audit?, Layer.settings, ofText?_word]

theorem withEnvironment_layer {env : Environment} (henv : env.fault? = none) (g : GatewaySettings) :
    ∃ h, g.withEnvironment env = .ok h ∧ h.layer = env.layer.above g.layer := by
  refine ⟨_, withEnvironment_eq_merge henv g, ?_⟩
  rw [layer_merge g (valid_settings _), layer_settings]

end GatewaySettings

end CapabilityGateway
