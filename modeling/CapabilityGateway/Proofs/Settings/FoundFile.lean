import CapabilityGateway.Proofs.Files.Passage
import CapabilityGateway.Proofs.Settings.Precedence

/-!
# Loading the file that the search finds

Loading from a directory searches upwards for the project's file; loading from a file is told which
file that is. Told the file that the search finds, both give the same error or the same settings.
They learn the directory of the file in different ways, one as the path that the search has come to
and the other as the parent of the path of the file. These two paths need not have the same text,
but they have the same components.

A loader remembers nothing but where the user's file is, so it does not matter what it has loaded
before, or what it loads between the two.

* `Path.parent?_join`: the directory of a file, as the file's path tells it.
* `Settings.SameFrom`: the same error, or the same settings of the same directory.
* `Loader.loadFile_of_found`: the two ways to load agree.
-/

namespace CapabilityGateway

namespace Path

/-- The two paths differ in nothing but segments that stand for nothing. -/
structure SameComponents (p q : Path) : Prop where
  anchor : p.anchor = q.anchor
  components : p.components = q.components

/-- The path of a name in a directory has the components of the directory and then the name. -/
theorem components_join (d : Path) {name : String} (hslash : '/' ∉ name.toList)
    (hname : isFiller name.toList = false) :
    (d.join name).components = d.components ++ [name.toList] := by
  obtain ⟨-, ss, hsegments, hcomponents⟩ := d.segments_join hslash hname
  rw [components, hsegments, List.filter_append, hcomponents, List.filter_singleton, hname]
  rfl

/-- The parent of the path of a name in a directory is the directory, maybe in another spelling. -/
theorem parent?_join (d : Path) {name : String} (hslash : '/' ∉ name.toList)
    (hname : isFiller name.toList = false) :
    ∃ q, (d.join name).parent? = some q ∧ d.SameComponents q := by
  have hjoin := d.components_join hslash hname
  have hne : (d.join name).components ≠ [] := by simp [hjoin]
  cases hparent : (d.join name).parent? with
  | none => exact absurd (parent?_eq_none hparent).1 hne
  | some q =>
    obtain ⟨hcomponents, ⟨-, hanchor⟩ | ⟨hempty, -⟩⟩ := parent?_components hparent
    · rw [hjoin, List.dropLast_concat] at hcomponents
      rw [(d.segments_join hslash hname).1] at hanchor
      exact ⟨q, rfl, hanchor.symm, hcomponents.symm⟩
    · exact absurd hempty hne

end Path

/-- The two results are the same error, or the same settings, found by the first in the directory
`root` and by the second in a directory with the same components. -/
inductive Settings.SameFrom (root : Path) :
    Except SettingsError Settings → Except SettingsError Settings → Prop where
  | fault (e : SettingsError) : SameFrom root (.error e) (.error e)
  | settings (g : GatewaySettings) {directory : Path} (h : root.SameComponents directory) :
      SameFrom root (.ok ⟨g, some root⟩) (.ok ⟨g, some directory⟩)

namespace Loader

variable {loader other : Loader} {files : FileTree} {env : Environment} {start root : Path}

/-- All that a load asks of the loader is where the user's file is. -/
theorem combine_congr (h : loader.located env = other.located env) (project : GatewaySettings) :
    loader.combine files env project = other.combine files env project := by
  rw [combine, loadUser, h, combine, loadUser]

theorem loadProject_of_found (hroot : projectRoot? files start = some root) :
    loadProject files start =
      (GatewaySettings.load files (root.join projectFile)).map (some root, ·) := by
  rw [loadProject, hroot]
  simp only
  cases GatewaySettings.load files (root.join projectFile) <;> rfl

theorem loadProject_of_none (hroot : projectRoot? files start = none) :
    loadProject files start = .ok (none, .empty) := by
  rw [loadProject, hroot]

/-- Two loaders that find the user's file at the same place load the same from the project's file,
whether it is found or given. -/
theorem sameFrom_of_found (hroot : projectRoot? files start = some root)
    (hlocated : loader.located env = other.located env) :
    Settings.SameFrom root (loader.loadDirectory files env start).1
      (other.loadFile files env (root.join projectFile)).1 := by
  have hslash : '/' ∉ projectFile.toList := by decide
  have hname : Path.isFiller projectFile.toList = false := by decide
  obtain ⟨directory, hparent, hsame⟩ := root.parent?_join hslash hname
  rw [loadDirectory, loadProject_of_found hroot, loadFile, hparent]
  cases GatewaySettings.load files (root.join projectFile) with
  | error e => exact .fault e
  | ok project =>
    simp only [Except.map, combine_congr hlocated]
    cases other.combine files env project with
    | error e => exact .fault e
    | ok g => exact .settings g hsame

theorem loader_eq_of_found (hroot : projectRoot? files start = some root) :
    (loader.loadDirectory files env start).2 =
      (loader.loadFile files env (root.join projectFile)).2 := by
  rw [loadDirectory, loadProject_of_found hroot, loadFile]
  cases GatewaySettings.load files (root.join projectFile) <;> rfl

/-- Where there is no project's file, only the environment can be at fault. -/
theorem loadDirectory_of_none (hroot : projectRoot? files start = none) :
    match env.fault? with
    | some e => (loader.loadDirectory files env start).1 = .error e
    | none => ∃ g, (loader.loadDirectory files env start).1 = .ok ⟨g, none⟩ := by
  rw [loadDirectory, loadProject_of_none hroot]
  cases henv : env.fault? with
  | some e => simp [combine_of_fault loader files henv]
  | none =>
    obtain ⟨g, hg, -⟩ := combine_layer loader files henv GatewaySettings.valid_empty
    exact ⟨g, by simp [hg]⟩

/-- Loading from a directory and loading from the first project's file upwards agree, on a loader in
any state. They also agree when one of the two comes after other loads that find the same home
directory. Where there is no such file, loading from the directory fails with the environment alone,
and what it gives belongs to no project. -/
theorem loadFile_of_found (loader : Loader) (files : FileTree) (env : Environment) {start : Path}
    {root : Option Path} (hroot : Nearest files start root) :
    match root with
    | some a =>
      Settings.SameFrom a (loader.loadDirectory files env start).1
          (loader.loadFile files env (a.join projectFile)).1 ∧
        (loader.loadDirectory files env start).2 =
          (loader.loadFile files env (a.join projectFile)).2 ∧
        ∀ between : List Load, (∀ l ∈ between, l.environment.home = env.home) →
          Settings.SameFrom a (loader.loadDirectory files env start).1
              ((loader.after between).loadFile files env (a.join projectFile)).1 ∧
            Settings.SameFrom a ((loader.after between).loadDirectory files env start).1
              (loader.loadFile files env (a.join projectFile)).1
    | none =>
      match env.fault? with
      | some e => (loader.loadDirectory files env start).1 = .error e
      | none => ∃ g, (loader.loadDirectory files env start).1 = .ok ⟨g, none⟩ := by
  have hfound : projectRoot? files start = root :=
    (nearest_projectRoot? files start).unique hroot
  cases root with
  | some a =>
    refine ⟨sameFrom_of_found hfound rfl, loader_eq_of_found hfound, fun between hhome => ?_⟩
    have hlocated : (loader.after between).located env = loader.located env :=
      located_after hhome loader
    exact ⟨sameFrom_of_found hfound hlocated.symm, sameFrom_of_found hfound hlocated⟩
  | none => exact loadDirectory_of_none hfound

/-- The project's file is found from an odd spelling of `/p`. Before it is loaded as a given file,
the loader fails once and finds nothing once. -/
theorem loadFile_of_found_respelled :
    let between := [Load.file layeredFiles layeredEnvironment ⟨"/h"⟩,
      Load.directory (.empty []) layeredEnvironment ⟨"/p"⟩]
    Nearest layeredFiles ⟨"/./p/.//"⟩ (some ⟨"/./p/.//"⟩) ∧
      (∀ l ∈ between, l.environment.home = layeredEnvironment.home) ∧
      ∃ g directory,
        ((Loader.mk none).loadDirectory layeredFiles layeredEnvironment ⟨"/./p/.//"⟩).1 =
            .ok ⟨g, some ⟨"/./p/.//"⟩⟩ ∧
          (((Loader.mk none).after between).loadFile layeredFiles layeredEnvironment
            ⟨"/./p/.//capgate.toml"⟩).1 = .ok ⟨g, some directory⟩ ∧
          directory.components = [['p']] := by
  intro between
  have hroot : projectRoot? layeredFiles ⟨"/./p/.//"⟩ = some ⟨"/./p/.//"⟩ := by decide +kernel
  have hnearest : Nearest layeredFiles ⟨"/./p/.//"⟩ (some ⟨"/./p/.//"⟩) :=
    hroot ▸ nearest_projectRoot? layeredFiles ⟨"/./p/.//"⟩
  have hhome : ∀ l ∈ between, l.environment.home = layeredEnvironment.home := by
    intro l hl
    simp only [between, List.mem_cons, List.not_mem_nil, or_false] at hl
    rcases hl with rfl | rfl <;> rfl
  obtain ⟨-, -, hlater⟩ := loadFile_of_found ⟨none⟩ layeredFiles layeredEnvironment hnearest
  obtain ⟨hsame, -⟩ := hlater between hhome
  have hfault : projectFault? layeredFiles (projectRoot? layeredFiles ⟨"/./p/.//"⟩) = none := by
    rw [hroot]
    exact Option.isNone_iff_eq_none.mp (by decide +kernel)
  obtain ⟨s, hs, -⟩ := exists_load hfault (show layeredEnvironment.fault? = none from rfl) ⟨none⟩
  have hjoin : (Path.mk "/./p/.//").join projectFile = ⟨"/./p/.//capgate.toml"⟩ := by
    decide +kernel
  rw [hjoin] at hsame
  refine ⟨hnearest, hhome, ?_⟩
  rw [hs] at hsame ⊢
  generalize (((Loader.mk none).after between).loadFile layeredFiles layeredEnvironment
    ⟨"/./p/.//capgate.toml"⟩).1 = r at hsame ⊢
  have hcomponents : (Path.mk "/./p/.//").components = [['p']] := by decide +kernel
  cases hsame with
  | settings g h => exact ⟨g, _, rfl, rfl, h.components.symm.trans hcomponents⟩

end Loader

end CapabilityGateway
