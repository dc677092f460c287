import CapabilityGateway.Proofs.Files.Ancestors
import CapabilityGateway.Proofs.Settings.Layers

/-!
# Precedence of settings

Loading from a directory puts the environment above the project's file, and that above the user's
file, setting by setting. It fails when the project's file does not load or the environment asks for
a console mode that is none, and for no other reason.

* `Nearest`: the project's file is the first one upwards.
* `Loader.located_after`: what a loader has loaded before does not matter, as long as the home
  directory is the same.
* `Loader.exists_load`, `Loader.effective_of_load`: when there are settings, and what they say.
* `Loader.loadDirectory_precedence`: the outcome of loading from a directory.
-/

namespace CapabilityGateway

/-! ## The project's file -/

/-- There is a project's file in the directory, whether or not it can be read. -/
def FileTree.HasProject (files : FileTree) (d : Path) : Prop :=
  files.pathExists (d.join projectFile) = true

/-- `root` is the first directory upwards from `start` with a project's file, if there is any. -/
def Nearest (files : FileTree) (start : Path) : Option Path → Prop
  | some root => ∃ k, start.up k = some root ∧ files.HasProject root ∧
      ∀ j < k, ∀ d, start.up j = some d → ¬ files.HasProject d
  | none => ∀ j d, start.up j = some d → ¬ files.HasProject d

theorem Nearest.unique {files : FileTree} {start : Path} :
    ∀ {a b : Option Path}, Nearest files start a → Nearest files start b → a = b
  | none, none, _, _ => rfl
  | none, some _, ha, ⟨k, hk, hproject, _⟩ => absurd hproject (ha k _ hk)
  | some _, none, ⟨k, hk, hproject, _⟩, hb => absurd hproject (hb k _ hk)
  | some a, some b, ⟨i, hi, ha, hbeforeA⟩, ⟨j, hj, hb, hbeforeB⟩ => by
    rcases Nat.lt_trichotomy i j with hij | rfl | hji
    · exact absurd ha (hbeforeB i hij a hi)
    · exact hi.symm.trans hj
    · exact absurd hb (hbeforeA j hji b hj)

theorem Loader.nearest_projectRoot? (files : FileTree) (start : Path) :
    Nearest files start (projectRoot? files start) := by
  cases hroot : projectRoot? files start with
  | none =>
    intro j d hd
    rw [← Path.getElem?_ancestors] at hd
    exact List.find?_eq_none.mp hroot d (List.mem_of_getElem? hd)
  | some root =>
    obtain ⟨hproject, k, hk, hget, hbefore⟩ := List.find?_eq_some_iff_getElem.mp hroot
    refine ⟨k, ?_, hproject, ?_⟩
    · rw [← Path.getElem?_ancestors, List.getElem?_eq_getElem hk, hget]
    · intro j hj d hd
      rw [← Path.getElem?_ancestors, List.getElem?_eq_getElem (Nat.lt_trans hj hk)] at hd
      have hnot := hbefore j hj
      rw [Option.some.inj hd] at hnot
      simpa [FileTree.HasProject] using hnot

/-! ## Earlier loads -/

/-- A load, with what the files and the environment were at the time. -/
inductive Load where
  | directory (files : FileTree) (env : Environment) (start : Path)
  | file (files : FileTree) (env : Environment) (file : Path)

def Load.environment : Load → Environment
  | .directory _ env _ => env
  | .file _ env _ => env

namespace Loader

/-- The loader after a load. -/
def next (loader : Loader) : Load → Loader
  | .directory files env start => (loader.loadDirectory files env start).2
  | .file files env file => (loader.loadFile files env file).2

/-- The loader after some loads. -/
def after (loader : Loader) (loads : List Load) : Loader := loads.foldl next loader

theorem next_cases (loader : Loader) (l : Load) :
    loader.next l = loader ∨ loader.next l = loader.located l.environment := by
  cases l with
  | directory files env start =>
    rw [next, loadDirectory]
    split
    · exact .inl rfl
    · exact .inr rfl
  | file files env file =>
    rw [next, loadFile]
    split
    · exact .inl rfl
    · exact .inr rfl

/-- A load finds the user's file where every other finds it. -/
theorem located_next {env : Environment} (loader : Loader) {l : Load}
    (hhome : l.environment.home = env.home) :
    (loader.next l).located env = loader.located env := by
  rcases next_cases loader l with h | h
  · rw [h]
  · have hfile : userFile? l.environment = userFile? env := by
      rw [userFile?, userDirectory?, hhome]
      rfl
    rw [h, located, located, located, hfile, Option.or_assoc, Option.or_self]

theorem located_after {env : Environment} {loads : List Load}
    (hhome : ∀ l ∈ loads, l.environment.home = env.home) (loader : Loader) :
    (loader.after loads).located env = loader.located env := by
  induction loads generalizing loader with
  | nil => rfl
  | cons l loads ih =>
    have hrest : ∀ l' ∈ loads, l'.environment.home = env.home :=
      fun l' hl' => hhome l' (List.mem_cons_of_mem l hl')
    exact (ih hrest (loader.next l)).trans (located_next loader (hhome l List.mem_cons_self))

/-! ## Loading -/

/-- What the user's file says, where the loader finds it. -/
def userLayer (loader : Loader) (files : FileTree) (env : Environment) : Layer :=
  match (loader.located env).userFile with
  | some file => files.layer file
  | none => .silent

/-- What the project's file says. -/
def projectLayer (files : FileTree) : Option Path → Layer
  | some root => files.layer (root.join projectFile)
  | none => .silent

/-- What is wrong with the project's file. -/
def projectFault? (files : FileTree) : Option Path → Option SettingsError
  | some root => files.fault? (root.join projectFile)
  | none => none

/-- The user's settings, as far as a load takes them into account. -/
def userSettings (loader : Loader) (files : FileTree) (env : Environment) : GatewaySettings :=
  (loader.loadUser files env).toOption.getD .empty

theorem userSettings_eq (loader : Loader) (files : FileTree) (env : Environment) :
    loader.userSettings files env =
      ((loader.located env).userFile.bind fun file =>
        (GatewaySettings.load files file).toOption).getD .empty := by
  rw [userSettings, loadUser]
  cases (loader.located env).userFile with
  | none => rfl
  | some file =>
    cases hexists : files.pathExists file with
    | true => simp only [hexists, if_true, Option.bind_some]
    | false =>
      obtain ⟨e, he⟩ := GatewaySettings.load_of_not_exists hexists
      simp only [hexists, Option.bind_some, he]
      rfl

theorem layer_userSettings (loader : Loader) (files : FileTree) (env : Environment) :
    (loader.userSettings files env).layer = loader.userLayer files env := by
  rw [userSettings_eq, userLayer]
  cases (loader.located env).userFile with
  | none => rfl
  | some file =>
    simp only [Option.bind_some, FileTree.layer]
    cases GatewaySettings.load files file <;> rfl

theorem combine_of_fault (loader : Loader) (files : FileTree) {env : Environment}
    {e : SettingsError} (henv : env.fault? = some e) (project : GatewaySettings) :
    loader.combine files env project = .error e := by
  rw [combine]
  exact GatewaySettings.withEnvironment_of_fault henv _

theorem combine_layer (loader : Loader) (files : FileTree) {env : Environment}
    (henv : env.fault? = none) {project : GatewaySettings} (hproject : project.Valid) :
    ∃ g, loader.combine files env project = .ok g ∧
      g.layer = env.layer.above (project.layer.above (loader.userLayer files env)) := by
  obtain ⟨g, hg, hlayer⟩ := GatewaySettings.withEnvironment_layer henv
    ((loader.userSettings files env).merge project)
  refine ⟨g, hg, ?_⟩
  rw [hlayer, GatewaySettings.layer_merge _ hproject, layer_userSettings]

theorem loadProject_of_fault {files : FileTree} {start : Path} {e : SettingsError}
    (h : projectFault? files (projectRoot? files start) = some e) :
    loadProject files start = .error e := by
  rw [loadProject]
  cases hroot : projectRoot? files start with
  | none => rw [hroot] at h; cases h
  | some root =>
    rw [hroot, projectFault?] at h
    simp only [FileTree.load_of_fault h]
    rfl

theorem loadProject_layer {files : FileTree} {start : Path}
    (h : projectFault? files (projectRoot? files start) = none) :
    ∃ g, loadProject files start = .ok (projectRoot? files start, g) ∧ g.Valid ∧
      g.layer = projectLayer files (projectRoot? files start) := by
  rw [loadProject]
  cases hroot : projectRoot? files start with
  | none => exact ⟨.empty, rfl, GatewaySettings.valid_empty, rfl⟩
  | some root =>
    rw [hroot, projectFault?] at h
    obtain ⟨g, hload, hlayer⟩ := FileTree.load_of_no_fault h
    refine ⟨g, ?_, GatewaySettings.valid_of_load hload, hlayer.symm⟩
    simp only [hload]
    rfl

theorem userLayer_after {env : Environment} {loads : List Load}
    (hhome : ∀ l ∈ loads, l.environment.home = env.home) (loader : Loader) (files : FileTree) :
    (loader.after loads).userLayer files env = loader.userLayer files env := by
  rw [userLayer, userLayer, located_after hhome]

/-- The effective settings are what the layer says, and the defaults where it is silent. -/
structure Effective (s : Settings) (l : Layer) : Prop where
  consoleMode : s.consoleMode = l.consoleMode.getD .discard
  network : s.network = l.network.getD false
  audit : s.audit = l.audit.getD false

theorem effective_layer (g : GatewaySettings) (root : Option Path) :
    Effective ⟨g, root⟩ g.layer :=
  ⟨rfl, rfl, rfl⟩

section Directory

variable {loader : Loader} {files : FileTree} {env : Environment} {start : Path} {s : Settings}

/-- What all sources say for a directory, each above those that it goes before. -/
def directoryLayer (loader : Loader) (files : FileTree) (env : Environment) (start : Path) :
    Layer :=
  env.layer.above
    ((projectLayer files (projectRoot? files start)).above (loader.userLayer files env))

theorem load_of_project_fault {e : SettingsError}
    (h : projectFault? files (projectRoot? files start) = some e) :
    (loader.loadDirectory files env start).1 = .error e := by
  rw [loadDirectory, loadProject_of_fault h]

/-- There are settings when neither the project's file nor the environment is at fault. -/
theorem exists_load (hproject : projectFault? files (projectRoot? files start) = none)
    (henv : env.fault? = none) (loader : Loader) :
    ∃ s, (loader.loadDirectory files env start).1 = .ok s ∧
      Effective s (loader.directoryLayer files env start) := by
  obtain ⟨project, hload, hvalid, hlayer⟩ := loadProject_layer hproject
  obtain ⟨g, hg, hgLayer⟩ := combine_layer loader files henv hvalid
  refine ⟨⟨g, projectRoot? files start⟩, ?_, ?_⟩
  · rw [loadDirectory, hload]
    show (fun g => Settings.mk g _) <$> loader.combine files env project = _
    rw [hg]
    rfl
  · rw [directoryLayer, ← hlayer, ← hgLayer]
    exact effective_layer g _

theorem effective_of_load (h : (loader.loadDirectory files env start).1 = .ok s) :
    projectFault? files (projectRoot? files start) = none ∧ env.fault? = none ∧
      Effective s (loader.directoryLayer files env start) := by
  cases hproject : projectFault? files (projectRoot? files start) with
  | some e =>
    rw [load_of_project_fault hproject] at h
    cases h
  | none =>
    cases henv : env.fault? with
    | some e =>
      obtain ⟨project, hload, -, -⟩ := loadProject_layer hproject
      rw [loadDirectory, hload] at h
      simp only [combine_of_fault loader files henv project] at h
      cases h
    | none =>
      obtain ⟨s', hs', heffective⟩ := exists_load hproject henv loader
      obtain rfl : s' = s := Except.ok.inj (hs'.symm.trans h)
      exact ⟨rfl, rfl, heffective⟩

end Directory

/-- Loading from a directory, with a loader that may have loaded before: the project's file is the
nearest one upwards, a fault in it comes before one in the environment, the user's file never is a
fault, and each setting is that of the first layer that says something on it. -/
theorem loadDirectory_precedence {env : Environment} {earlier : List Load}
    (hhome : ∀ l ∈ earlier, l.environment.home = env.home)
    (initial : Loader) (files : FileTree) (start : Path) :
    ∃ root, Nearest files start root ∧
      match (projectFault? files root).or env.fault? with
      | some e => ((initial.after earlier).loadDirectory files env start).1 = .error e
      | none =>
        ∃ s, ((initial.after earlier).loadDirectory files env start).1 = .ok s ∧
          s.projectRoot = root ∧ s.isProject = root.isSome ∧
          Effective s
            (env.layer.above ((projectLayer files root).above (initial.userLayer files env))) := by
  refine ⟨projectRoot? files start, nearest_projectRoot? files start, ?_⟩
  rw [loadDirectory]
  cases hproject : projectFault? files (projectRoot? files start) with
  | some e => simp [loadProject_of_fault hproject]
  | none =>
    obtain ⟨project, hload, hvalid, hlayer⟩ := loadProject_layer hproject
    simp only [hload, Option.none_or]
    cases henv : env.fault? with
    | some e =>
      simp only [combine_of_fault _ files henv]
      rfl
    | none =>
      obtain ⟨g, hg, hgLayer⟩ := combine_layer (initial.after earlier) files henv hvalid
      refine ⟨⟨g, projectRoot? files start⟩, ?_, rfl, rfl, ?_⟩
      · rw [hg]
        rfl
      · rw [← hlayer, ← userLayer_after hhome, ← hgLayer]
        exact effective_layer g _

/-- A user's file with a console mode and the audit switched on, and below `/p` a project's file
with an empty section and the network switched on. -/
def layeredFiles : FileTree :=
  ((FileTree.empty []).write ⟨"/h/.capgate/config.toml"⟩
      "[console]\nmode = \"forward\"\n[audit]\nenabled = true\n".toUTF8).write
    ⟨"/p/capgate.toml"⟩ "[console]\n[network]\nenabled = true\n".toUTF8

/-- The audit switched off, the network set to what is not text, and a home directory. -/
def layeredEnvironment : Environment where
  setting
    | .audit => some (.text "off")
    | .network => some .notText
    | .console => none
  home := some ⟨"/h"⟩

/-- Each layer decides one of the settings, after a load when nothing was there yet. -/
theorem loadDirectory_precedence_layered :
    (∀ l ∈ [Load.directory (.empty []) layeredEnvironment ⟨"/p"⟩],
      l.environment.home = layeredEnvironment.home) ∧
    ∃ s, (((Loader.mk none).after [.directory (.empty []) layeredEnvironment ⟨"/p"⟩]).loadDirectory
          layeredFiles layeredEnvironment ⟨"/p/a/b"⟩).1 = .ok s ∧
      s.projectRoot = some ⟨"/p"⟩ ∧ s.isProject = true ∧
      s.consoleMode = .forward ∧ s.network = true ∧ s.audit = false := by
  have hhome : ∀ l ∈ [Load.directory (.empty []) layeredEnvironment ⟨"/p"⟩],
      l.environment.home = layeredEnvironment.home := by
    intro l hl
    cases List.mem_singleton.mp hl
    rfl
  refine ⟨hhome, ?_⟩
  obtain ⟨root, hnearest, houtcome⟩ :=
    loadDirectory_precedence hhome ⟨none⟩ layeredFiles ⟨"/p/a/b"⟩
  have hroot : root = some ⟨"/p"⟩ := by
    have hfound : projectRoot? layeredFiles ⟨"/p/a/b"⟩ = some ⟨"/p"⟩ := by decide +kernel
    exact (hnearest.unique (nearest_projectRoot? _ _)).trans hfound
  subst hroot
  have hfault : (projectFault? layeredFiles (some ⟨"/p"⟩)).or layeredEnvironment.fault? = none :=
    Option.isNone_iff_eq_none.mp (by decide +kernel)
  simp only [hfault] at houtcome
  obtain ⟨s, hs, hsRoot, hproject, heffective⟩ := houtcome
  have hlayer : layeredEnvironment.layer.above ((projectLayer layeredFiles (some ⟨"/p"⟩)).above
      (userLayer ⟨none⟩ layeredFiles layeredEnvironment)) =
        ⟨some .forward, some true, some false⟩ := by decide +kernel
  simp only [hlayer] at heffective
  exact ⟨s, hs, hsRoot, hproject, heffective.consoleMode, heffective.network, heffective.audit⟩

end Loader

end CapabilityGateway
