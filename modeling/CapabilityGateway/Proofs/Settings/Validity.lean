import CapabilityGateway.Proofs.Settings.Merging
import CapabilityGateway.Proofs.Settings.Precedence

/-!
# Loaded settings are valid

Asking settings for their console mode makes no difference between a mode that is not set and one
that cannot be read. This is harmless because settings that come out of loading set a mode that can
be read, or none: a file whose mode is none does not load, the environment stores a mode by its
word, and merging only takes over modes that were there. Nothing of this is checked on the result.

So the effective mode is the default exactly when neither the environment nor a file that loads sets
a mode. The user's file may fail to load, and then it sets nothing.

* `GatewaySettings.Obtained`: settings that were loaded, or merged from such settings.
* `GatewaySettings.Obtained.valid`: they are valid.
* `Load.mode_eq`: whose mode it is that a load stores.
* `Loader.loaded_settings_valid`: validity, and when the mode falls back to the default.
-/

namespace CapabilityGateway

/-- The mode that a file sets. A file that does not load sets none. -/
def FileTree.modeText? (files : FileTree) (file : Path) : Option String :=
  (GatewaySettings.load files file).toOption.bind (·.modeText?)

namespace Load

def files : Load → FileTree
  | .directory files _ _ => files
  | .file files _ _ => files

/-- What comes of the load. -/
def result (loader : Loader) : Load → Except SettingsError Settings
  | .directory files env start => (loader.loadDirectory files env start).1
  | .file files env path => (loader.loadFile files env path).1

/-- The project's file, if there is one. -/
def projectFile? : Load → Option Path
  | .directory files _ start => (Loader.projectRoot? files start).map (·.join projectFile)
  | .file _ _ path => some path

/-- The mode that the project's file sets. -/
def projectMode? (l : Load) : Option String := l.projectFile?.bind l.files.modeText?

/-- The mode that the user's file sets, where the loader finds it. -/
def userMode? (loader : Loader) (l : Load) : Option String :=
  (loader.located l.environment).userFile.bind l.files.modeText?

end Load

namespace GatewaySettings

/-- Settings that come out of loading a file or a directory, the settings that say nothing, and what
is merged from these, in any order and any number of times. -/
inductive Obtained : GatewaySettings → Prop where
  | read {files : FileTree} {file : Path} {g : GatewaySettings} (h : load files file = .ok g) :
      Obtained g
  | loaded {loader : Loader} {l : Load} {s : Settings} (h : l.result loader = .ok s) :
      Obtained s.gateway
  | empty : Obtained empty
  | merged {g : GatewaySettings} {others : List GatewaySettings} (hg : Obtained g)
      (hothers : ∀ c ∈ others, Obtained c) : Obtained (g.mergeAll others)

theorem Valid.merge {g other : GatewaySettings} (hg : g.Valid) (hother : other.Valid) :
    (g.merge other).Valid := by
  intro mode hmode
  rw [modeText?_merge, Option.or_eq_some_iff] at hmode
  rcases hmode with hmode | ⟨-, hmode⟩
  · exact hother mode hmode
  · exact hg mode hmode

theorem Valid.mergeAll {g : GatewaySettings} {others : List GatewaySettings} (hg : g.Valid)
    (hothers : ∀ c ∈ others, c.Valid) : (g.mergeAll others).Valid := by
  induction others generalizing g with
  | nil => exact hg
  | cons c rest ih =>
    obtain ⟨hc, hrest⟩ := List.forall_mem_cons.mp hothers
    exact ih (hg.merge hc) hrest

/-- A mode that is set can be read. -/
theorem Valid.isSome_consoleMode? {g : GatewaySettings} (hg : g.Valid) :
    g.consoleMode?.isSome = g.modeText?.isSome := by
  rw [consoleMode?]
  cases hmode : g.modeText? with
  | none => rfl
  | some mode =>
    have hread : (ConsoleMode.ofText? mode).isSome = true := hg mode hmode
    rw [Option.bind_some, hread, Option.isSome_some]

theorem modeText?_settings (l : Layer) :
    l.settings.modeText? = l.consoleMode.map ConsoleMode.word := by
  rw [modeText?, Layer.settings]
  cases l.consoleMode <;> rfl

end GatewaySettings

open GatewaySettings (Obtained)

namespace Loader

variable {loader : Loader} {files : FileTree} {env : Environment}

/-! ## The parts of a load -/

theorem valid_userSettings : (loader.userSettings files env).Valid := by
  rw [userSettings_eq]
  cases (loader.located env).userFile with
  | none => exact GatewaySettings.valid_empty
  | some file =>
    rw [Option.bind_some]
    cases hload : GatewaySettings.load files file with
    | error e => exact GatewaySettings.valid_empty
    | ok g => exact GatewaySettings.valid_of_load hload

theorem modeText?_userSettings :
    (loader.userSettings files env).modeText? =
      (loader.located env).userFile.bind files.modeText? := by
  rw [userSettings_eq]
  cases (loader.located env).userFile with
  | none => rfl
  | some file =>
    simp only [Option.bind_some, FileTree.modeText?]
    cases GatewaySettings.load files file <;> rfl

theorem combine_eq_ok {project g : GatewaySettings}
    (h : loader.combine files env project = .ok g) :
    env.fault? = none ∧
      g = ((loader.userSettings files env).merge project).merge env.layer.settings := by
  cases henv : env.fault? with
  | some e =>
    rw [combine_of_fault loader files henv] at h
    cases h
  | none =>
    rw [combine, GatewaySettings.withEnvironment_eq_merge henv] at h
    exact ⟨rfl, (Except.ok.inj h).symm⟩

theorem loadProject_eq_ok {start : Path} {root : Option Path} {project : GatewaySettings}
    (h : loadProject files start = .ok (root, project)) :
    project.Valid ∧
      project.modeText? =
        ((projectRoot? files start).map (·.join projectFile)).bind files.modeText? := by
  rw [loadProject] at h
  cases hroot : projectRoot? files start with
  | none =>
    rw [hroot] at h
    cases h
    exact ⟨GatewaySettings.valid_empty, rfl⟩
  | some d =>
    rw [hroot] at h
    cases hload : GatewaySettings.load files (d.join projectFile) with
    | error e => simp [hload, bind, Except.bind] at h
    | ok g =>
      simp only [hload] at h
      cases h
      refine ⟨GatewaySettings.valid_of_load hload, ?_⟩
      simp [FileTree.modeText?, hload, Except.toOption]

theorem eq_ok_of_map {x : Except SettingsError GatewaySettings} {root : Option Path} {s : Settings}
    (h : (fun g => Settings.mk g root) <$> x = .ok s) : x = .ok s.gateway := by
  cases x with
  | error e => cases h
  | ok g =>
    cases h
    rfl

end Loader

/-- What a load gives is merged from the user's settings, the project's and the environment's. -/
theorem Load.exists_project {loader : Loader} {l : Load} {s : Settings}
    (h : l.result loader = .ok s) :
    ∃ project : GatewaySettings, project.Valid ∧ project.modeText? = l.projectMode? ∧
      loader.combine l.files l.environment project = .ok s.gateway := by
  cases l with
  | directory files env start =>
    rw [result, Loader.loadDirectory] at h
    cases hproject : Loader.loadProject files start with
    | error e => simp [hproject] at h
    | ok p =>
      obtain ⟨root, project⟩ := p
      obtain ⟨hvalid, hmode⟩ := Loader.loadProject_eq_ok hproject
      simp only [hproject] at h
      exact ⟨project, hvalid, hmode, Loader.eq_ok_of_map h⟩
  | file files env path =>
    rw [result, Loader.loadFile] at h
    cases hload : GatewaySettings.load files path with
    | error e => simp [hload] at h
    | ok project =>
      simp only [hload] at h
      have hmode : project.modeText? = files.modeText? path := by
        rw [FileTree.modeText?, hload]
        rfl
      exact ⟨project, GatewaySettings.valid_of_load hload, hmode, Loader.eq_ok_of_map h⟩

/-- The mode that a load stores is the environment's, or else the project's, or else the user's. -/
theorem Load.mode_eq {loader : Loader} {l : Load} {s : Settings} (h : l.result loader = .ok s) :
    s.gateway.modeText? =
      (l.environment.layer.consoleMode.map ConsoleMode.word).or
        (l.projectMode?.or (l.userMode? loader)) := by
  obtain ⟨project, -, hmode, hcombine⟩ := exists_project h
  obtain ⟨-, hgateway⟩ := Loader.combine_eq_ok hcombine
  rw [hgateway, GatewaySettings.modeText?_merge, GatewaySettings.modeText?_merge,
    GatewaySettings.modeText?_settings, hmode, Loader.modeText?_userSettings]
  rfl

/-- An environment that does not stand in the way sets a mode if its variable is set to a text. -/
theorem Environment.mode_eq_none_iff {env : Environment} (h : env.fault? = none) :
    env.layer.consoleMode = none ↔ env.text? .console = none := by
  rw [layer]
  rw [fault?] at h
  cases htext : env.text? .console with
  | none => exact iff_of_true rfl rfl
  | some s =>
    cases hmode : ConsoleMode.ofText? s with
    | none => simp [htext, hmode] at h
    | some mode => simp [hmode]

namespace GatewaySettings

theorem Obtained.valid {g : GatewaySettings} (h : Obtained g) : g.Valid := by
  induction h with
  | read h => exact valid_of_load h
  | loaded h =>
    obtain ⟨project, hproject, -, hcombine⟩ := Load.exists_project h
    obtain ⟨-, hgateway⟩ := Loader.combine_eq_ok hcombine
    rw [hgateway]
    exact (Loader.valid_userSettings.merge hproject).merge (valid_settings _)
  | empty => exact valid_empty
  | merged _ _ hg hothers => exact hg.mergeAll hothers

end GatewaySettings

/-- Settings that come out of loading and merging are valid, and they have a console mode exactly
when they store one. After a load the effective mode is the one that is stored, and the load stores
none exactly when the environment sets none, the project's file does not, and the user's file does
not or does not load. -/
theorem Loader.loaded_settings_valid :
    (∀ g, Obtained g → g.validate = .ok () ∧ g.consoleMode?.isSome = g.modeText?.isSome) ∧
    ∀ (loader : Loader) (l : Load) (s : Settings), l.result loader = .ok s →
      (s.gateway.consoleMode? = none ↔
        l.environment.text? .console = none ∧ l.projectMode? = none ∧
          l.userMode? loader = none) ∧
      (s.gateway.consoleMode? = none → s.consoleMode = .discard) ∧
      ∀ text, s.gateway.modeText? = some text →
        ConsoleMode.ofText? text = some s.consoleMode := by
  refine ⟨fun g hg => ⟨GatewaySettings.validate_of_valid hg.valid, hg.valid.isSome_consoleMode?⟩,
    fun loader l s h => ⟨?_, fun hnone => ?_, fun text htext => ?_⟩⟩
  · have hvalid : s.gateway.Valid := (Obtained.loaded h).valid
    obtain ⟨project, -, -, hcombine⟩ := Load.exists_project h
    obtain ⟨henv, -⟩ := Loader.combine_eq_ok hcombine
    rw [← Option.isNone_iff_eq_none, ← Option.not_isSome, hvalid.isSome_consoleMode?,
      Option.not_isSome, Option.isNone_iff_eq_none, Load.mode_eq h, Option.or_eq_none_iff,
      Option.or_eq_none_iff, Option.map_eq_none_iff, Environment.mode_eq_none_iff henv]
  · rw [Settings.consoleMode, hnone]
    rfl
  · have hvalid : s.gateway.Valid := (Obtained.loaded h).valid
    obtain ⟨mode, hmode⟩ := Option.isSome_iff_exists.mp (hvalid text htext)
    have hread : s.gateway.consoleMode? = some mode := by
      rw [GatewaySettings.consoleMode?, htext, Option.bind_some, hmode]
    rw [hmode, Settings.consoleMode, hread]
    rfl

/-- The user's file sets the mode, and merging in settings that say nothing changes nothing about
it. Where the user's file is looked for at another place, nothing sets the mode. -/
theorem Loader.loaded_settings_valid_layered :
    let l := Load.directory layeredFiles layeredEnvironment ⟨"/p/a/b"⟩
    (∃ s, l.result ⟨none⟩ = .ok s ∧
      (s.gateway.mergeAll [.empty, s.gateway]).validate = .ok () ∧
      s.gateway.consoleMode? ≠ none ∧ s.consoleMode = .forward) ∧
    ∃ s, l.result ⟨some ⟨"/h/other.toml"⟩⟩ = .ok s ∧
      s.gateway.consoleMode? = none ∧ s.consoleMode = .discard := by
  intro l
  obtain ⟨hvalid, hmode⟩ := Loader.loaded_settings_valid
  have hroot : projectRoot? layeredFiles ⟨"/p/a/b"⟩ = some ⟨"/p"⟩ := by decide +kernel
  have hfault : projectFault? layeredFiles (projectRoot? layeredFiles ⟨"/p/a/b"⟩) = none := by
    rw [hroot]
    exact Option.isNone_iff_eq_none.mp (by decide +kernel)
  have henv : layeredEnvironment.fault? = none := rfl
  have hproject : l.projectMode? = none := by
    rw [Load.projectMode?, Load.projectFile?, hroot, Option.map_some, Option.bind_some]
    decide +kernel
  constructor
  · obtain ⟨s, hs, -⟩ := exists_load hfault henv ⟨none⟩
    have hobtained : Obtained s.gateway := .loaded (show l.result ⟨none⟩ = .ok s from hs)
    have hmerged : Obtained (s.gateway.mergeAll [.empty, s.gateway]) :=
      .merged hobtained (by simp [hobtained, Obtained.empty])
    obtain ⟨hnone, -, hstored⟩ := hmode ⟨none⟩ l s hs
    have huser : l.userMode? ⟨none⟩ = some "forward" := by decide +kernel
    have htext : s.gateway.modeText? = some "forward" := by
      rw [Load.mode_eq (show l.result ⟨none⟩ = .ok s from hs), hproject, huser]
      rfl
    have hmodes : some ConsoleMode.forward = some s.consoleMode := hstored "forward" htext
    refine ⟨s, hs, (hvalid _ hmerged).1, ?_, (Option.some.inj hmodes).symm⟩
    simp [hnone, huser]
  · obtain ⟨s, hs, -⟩ := exists_load hfault henv ⟨some ⟨"/h/other.toml"⟩⟩
    obtain ⟨hnone, hdefault, -⟩ := hmode _ l s hs
    have huser : l.userMode? ⟨some ⟨"/h/other.toml"⟩⟩ = none := by decide +kernel
    have hunset : s.gateway.consoleMode? = none := hnone.mpr ⟨rfl, hproject, huser⟩
    exact ⟨s, hs, hunset, hdefault hunset⟩

end CapabilityGateway
