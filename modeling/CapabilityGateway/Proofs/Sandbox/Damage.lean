import CapabilityGateway.Proofs.Files.Contents
import CapabilityGateway.Proofs.Sandbox.Startup

/-!
# Damaged settings

A settings file gets contents that do not load. If it is the project's file, there is no context. If
it is the user's file, nothing changes but that it falls silent, and since it is the lowest source,
with nothing but the defaults below it, the context can do less than before at most.

* `FileTree.Damage`: contents that do not load, for a file that there is.
* `Settings.Within`: settings that ask for no more than others.
* `Loader.projectRoot?_withContents`, `Loader.directoryLayer_damaged`: what damage does to the
  sources.
* `Loader.damage_fails_closed`: what it does to contexts.
-/

namespace CapabilityGateway

/-! ## Silencing the lowest source -/

/-- The settings ask for nothing that the others do not ask for. -/
structure Settings.Within (s s' : Settings) : Prop where
  network : s.network = true → s'.network = true
  forward : s.consoleMode = .forward → s'.consoleMode = .forward

namespace Loader

/-- What a default is not, an upper layer has said. -/
theorem said_above {α : Type} {upper lower : Option α} {default said : α} (hne : default ≠ said)
    (h : (upper.or none).getD default = said) : (upper.or lower).getD default = said := by
  cases upper with
  | none => exact absurd h hne
  | some a => exact h

theorem within_of_silent {s s' : Settings} {upper lower : Layer}
    (h : Effective s (upper.above .silent)) (h' : Effective s' (upper.above lower)) :
    s.Within s' where
  network hs := by
    rw [h.network] at hs
    rw [h'.network]
    exact said_above Bool.false_ne_true hs
  forward hs := by
    rw [h.consoleMode] at hs
    rw [h'.consoleMode]
    exact said_above ConsoleMode.noConfusion hs

end Loader

theorem Layer.above_assoc (a b c : Layer) : a.above (b.above c) = (a.above b).above c := by
  simp only [above, Option.or_assoc]

theorem ContextOptions.requested_subset {o o' : ContextOptions}
    (h : o.network = true → o'.network = true) : o.requested ⊆ o'.requested := by
  cases hnetwork : o.network with
  | false =>
    have hrequested : o.requested = ["console"] := by rw [requested, hnetwork]; rfl
    rw [hrequested, requested]
    cases o'.network <;> simp
  | true =>
    rw [requested, requested, hnetwork, h hnetwork]
    exact List.Subset.refl _

/-! ## Damage -/

/-- At the location there is the file of a path, and with the contents it does not load. -/
structure FileTree.Damage (files : FileTree) (file : Path) (location : Location)
    (content : ByteArray) : Prop where
  found : files.leadsTo file location = true
  rejected : (GatewaySettings.load (files.withContents location content) file).isOk = false

namespace FileTree

variable {files : FileTree} {file other : Path} {location : Location} {content old : ByteArray}

theorem Damage.exists_file (h : files.Damage file location content) :
    ∃ old, files.at? location = some (.file old) := by
  obtain ⟨old, hresolve⟩ := exists_of_leadsTo h.found
  exact ⟨old, at?_of_resolve hresolve⟩

theorem Damage.exists_error (h : files.Damage file location content) :
    ∃ e, GatewaySettings.load (files.withContents location content) file = .error e := by
  have hrejected := h.rejected
  cases hload : GatewaySettings.load (files.withContents location content) file with
  | error e => exact ⟨e, rfl⟩
  | ok g =>
    rw [hload] at hrejected
    cases hrejected

theorem Damage.fault? (h : files.Damage file location content) :
    ∃ e, (files.withContents location content).fault? file = some e := by
  obtain ⟨e, he⟩ := h.exists_error
  exact ⟨e, by rw [FileTree.fault?, he]⟩

theorem Damage.layer (h : files.Damage file location content) :
    (files.withContents location content).layer file = .silent := by
  obtain ⟨e, he⟩ := h.exists_error
  rw [FileTree.layer, he]

theorem load_withContents_of_not (h : files.at? location = some (.file old))
    (hother : files.leadsTo other location = false) :
    GatewaySettings.load (files.withContents location content) other =
      GatewaySettings.load files other := by
  rw [GatewaySettings.load, readText_withContents_of_not h hother, GatewaySettings.load]

end FileTree

namespace Loader

variable {files : FileTree} {start : Path} {location : Location} {content old : ByteArray}

/-- Whether there is a project's file is no matter of contents. -/
theorem projectRoot?_withContents (h : files.at? location = some (.file old)) (start : Path) :
    projectRoot? (files.withContents location content) start = projectRoot? files start := by
  rw [projectRoot?, projectRoot?]
  congr 1
  funext d
  exact FileTree.pathExists_withContents h _

/-- The project's file is at the location. -/
def projectAt (files : FileTree) (start : Path) (location : Location) : Bool :=
  (projectRoot? files start).any fun root => files.leadsTo (root.join projectFile) location

theorem project_withContents (h : files.at? location = some (.file old))
    (hproject : projectAt files start location = false) :
    projectFault? (files.withContents location content) (projectRoot? files start) =
        projectFault? files (projectRoot? files start) ∧
      projectLayer (files.withContents location content) (projectRoot? files start) =
        projectLayer files (projectRoot? files start) := by
  unfold projectAt at hproject
  cases hroot : projectRoot? files start with
  | none => exact ⟨rfl, rfl⟩
  | some root =>
    rw [hroot] at hproject
    have hload : GatewaySettings.load (files.withContents location content)
        (root.join projectFile) = _ := FileTree.load_withContents_of_not h hproject
    constructor
    · rw [projectFault?, projectFault?, FileTree.fault?, FileTree.fault?, hload]
    · rw [projectLayer, projectLayer, FileTree.layer, FileTree.layer, hload]

/-- What the sources say when the user's file is damaged: the same as before, but for that file. -/
theorem directoryLayer_damaged {loader : Loader} {env : Environment} {file : Path}
    (hfile : (loader.located env).userFile = some file)
    (hdamage : files.Damage file location content)
    (hproject : projectAt files start location = false) :
    loader.directoryLayer (files.withContents location content) env start =
      (env.layer.above (projectLayer files (projectRoot? files start))).above .silent := by
  obtain ⟨old, hold⟩ := hdamage.exists_file
  have huser : loader.userLayer (files.withContents location content) env = .silent := by
    rw [userLayer, hfile]
    exact hdamage.layer
  rw [directoryLayer, projectRoot?_withContents hold, (project_withContents hold hproject).2, huser,
    Layer.above_assoc]

theorem load_damaged_project (loader : Loader) (env : Environment) {root : Path}
    (hroot : projectRoot? files start = some root)
    (hdamage : files.Damage (root.join projectFile) location content) :
    ∃ e, (loader.loadDirectory (files.withContents location content) env start).1 = .error e := by
  obtain ⟨old, hold⟩ := hdamage.exists_file
  obtain ⟨e, he⟩ := hdamage.fault?
  refine ⟨e, load_of_project_fault ?_⟩
  rw [projectRoot?_withContents hold, hroot]
  exact he

theorem load_damaged_user {loader : Loader} {env : Environment} {file : Path} {s : Settings}
    (hfile : (loader.located env).userFile = some file)
    (hdamage : files.Damage file location content)
    (hproject : projectAt files start location = false)
    (hload : (loader.loadDirectory files env start).1 = .ok s) :
    ∃ s', (loader.loadDirectory (files.withContents location content) env start).1 = .ok s' ∧
      s'.Within s := by
  obtain ⟨old, hold⟩ := hdamage.exists_file
  obtain ⟨hfault, henv, heffective⟩ := effective_of_load hload
  have hfault' : projectFault? (files.withContents location content)
      (projectRoot? (files.withContents location content) start) = none := by
    rw [projectRoot?_withContents hold, (project_withContents hold hproject).1]
    exact hfault
  obtain ⟨s', hload', heffective'⟩ := exists_load hfault' henv loader
  rw [directoryLayer_damaged hfile hdamage hproject] at heffective'
  rw [directoryLayer, Layer.above_assoc] at heffective
  exact ⟨s', hload', within_of_silent heffective' heffective⟩

/-! ## Contexts -/

theorem network_iff {s : Settings} {l : Layer} (h : Effective s l) :
    s.network = true ↔ l.network = some true := by
  rw [h.network]
  cases l.network <;> simp

/-- Damage to settings fails closed, for a host that offers everything. A damaged project's file
leaves no context. With a damaged user's file that is not the project's file too, there still is a
context if there was one, possibly in another world and by another name; it has no capability that
it did not have, and its console does not forward unless it did. And whatever the files are, a
context has the network exactly when the first source that says something about it switches it
on. -/
theorem damage_fails_closed (loader : Loader) (files : FileTree) (env : Environment) (start : Path)
    (bridge transport : Identity) (logger : Option AuditLogger) :
    let host : HostServices := ⟨some bridge, some transport, logger⟩
    (∀ root location content id w, projectRoot? files start = some root →
      files.Damage (root.join projectFile) location content →
      ∃ e, loader.contextFor (files.withContents location content) env start host id w =
        .error (.settings e)) ∧
    (∀ file location content s id w id' w', (loader.located env).userFile = some file →
      files.Damage file location content → projectAt files start location = false →
      (loader.loadDirectory files env start).1 = .ok s →
      ∃ s' c c',
        (loader.loadDirectory (files.withContents location content) env start).1 = .ok s' ∧
        loader.contextFor files env start host id w = .ok c ∧
        loader.contextFor (files.withContents location content) env start host id' w' = .ok c' ∧
        c'.capabilities ⊆ c.capabilities ∧ (c'.ForwardsTo bridge → c.ForwardsTo bridge)) ∧
    (∀ id w c, loader.contextFor files env start host id w = .ok c →
      (c.global.has "net" = true ↔
        (loader.directoryLayer files env start).network = some true) ∧
      (c.global.has "tls" = true ↔
        (loader.directoryLayer files env start).network = some true)) := by
  intro host
  refine ⟨?_, ?_, ?_⟩
  · intro root location content id w hroot hdamage
    obtain ⟨e, he⟩ := load_damaged_project loader env hroot hdamage
    exact ⟨e, by simp only [contextFor, he]⟩
  · intro file location content s id w id' w' hfile hdamage hproject hload
    obtain ⟨s', hload', hwithin⟩ := load_damaged_user hfile hdamage hproject hload
    obtain ⟨c, hc, hequipped⟩ := contextFor_of_load hload bridge transport logger id w
    obtain ⟨c', hc', hequipped'⟩ := contextFor_of_load hload' bridge transport logger id' w'
    refine ⟨s', c, c', hload', hc, hc', ?_, ?_⟩
    · rw [hequipped.capabilities, hequipped'.capabilities]
      exact ContextOptions.requested_subset hwithin.network
    · rw [hequipped.forwardsTo_iff, hequipped'.forwardsTo_iff]
      exact hwithin.forward
  · intro id w c hc
    obtain ⟨s, hload, hequipped⟩ := load_of_contextFor hc
    obtain ⟨-, -, heffective⟩ := effective_of_load hload
    have hnetwork := network_iff heffective
    constructor
    · rw [hequipped.has_iff, ContextOptions.net_mem_requested]
      exact hnetwork
    · rw [hequipped.has_iff, ContextOptions.tls_mem_requested]
      exact hnetwork

/-- Of two layers, the project's file switches the network on and the user's file lets the console
forward. Damage to the one leaves no context, damage to the other leaves the network. -/
theorem damage_fails_closed_layered :
    let host : HostServices := ⟨some 7, some 8, none⟩
    let w := World.initial ⟨0, 0⟩ fun _ => HostCall.plainAnswer
    let broken := "[console".toUTF8
    let inUser := layeredFiles.withContents ["config.toml", ".capgate", "h"] broken
    let inProject := layeredFiles.withContents ["capgate.toml", "p"] broken
    (∃ e, (Loader.mk none).contextFor inProject layeredEnvironment ⟨"/p/a/b"⟩ host "c" w =
      .error (.settings e)) ∧
    ∃ c c', (Loader.mk none).contextFor layeredFiles layeredEnvironment ⟨"/p/a/b"⟩ host "c" w =
        .ok c ∧
      (Loader.mk none).contextFor inUser layeredEnvironment ⟨"/p/a/b"⟩ host "d" w = .ok c' ∧
      c'.capabilities ⊆ c.capabilities ∧ (c'.ForwardsTo 7 → c.ForwardsTo 7) ∧
      c.global.has "net" = true ∧ c'.global.has "net" = true := by
  intro host w broken inUser inProject
  have hroot : projectRoot? layeredFiles ⟨"/p/a/b"⟩ = some ⟨"/p"⟩ := by decide +kernel
  have hproject : layeredFiles.Damage ((Path.mk "/p").join projectFile) ["capgate.toml", "p"]
      broken := ⟨by decide +kernel, by decide +kernel⟩
  have huser : layeredFiles.Damage ⟨"/h/.capgate/config.toml"⟩ ["config.toml", ".capgate", "h"]
      broken := ⟨by decide +kernel, by decide +kernel⟩
  have hfile : ((Loader.mk none).located layeredEnvironment).userFile =
      some ⟨"/h/.capgate/config.toml"⟩ := by decide +kernel
  have hapart : projectAt layeredFiles ⟨"/p/a/b"⟩ ["config.toml", ".capgate", "h"] = false := by
    decide +kernel
  have hnetwork : ((Loader.mk none).directoryLayer layeredFiles layeredEnvironment
      ⟨"/p/a/b"⟩).network = some true := by decide +kernel
  have hnetworkUser : ((Loader.mk none).directoryLayer inUser layeredEnvironment
      ⟨"/p/a/b"⟩).network = some true := by decide +kernel
  have hloads : ((Loader.mk none).loadDirectory layeredFiles layeredEnvironment
      ⟨"/p/a/b"⟩).1.isOk = true := by decide +kernel
  obtain ⟨hclosed, hwithin, hnet⟩ :=
    damage_fails_closed ⟨none⟩ layeredFiles layeredEnvironment ⟨"/p/a/b"⟩ 7 8 none
  obtain ⟨-, -, hnetUser⟩ :=
    damage_fails_closed ⟨none⟩ inUser layeredEnvironment ⟨"/p/a/b"⟩ 7 8 none
  refine ⟨hclosed _ _ broken "c" w hroot hproject, ?_⟩
  cases hload : ((Loader.mk none).loadDirectory layeredFiles layeredEnvironment ⟨"/p/a/b"⟩).1 with
  | error e =>
    rw [hload] at hloads
    cases hloads
  | ok s =>
    obtain ⟨-, c, c', -, hc, hc', hsubset, hforwards⟩ :=
      hwithin _ _ broken s "c" w "d" w hfile huser hapart hload
    exact ⟨c, c', hc, hc', hsubset, hforwards, (hnet "c" w c hc).1.mpr hnetwork,
      (hnetUser "d" w c' hc').1.mpr hnetworkUser⟩

end Loader

end CapabilityGateway
