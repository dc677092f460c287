import CapabilityGateway.Proofs.Files.Contents
import CapabilityGateway.Proofs.Files.Passage
import CapabilityGateway.Proofs.Settings.Precedence
import Mathlib.Data.List.Find

/-!
# The search for the project's file

Loading from a directory looks for the project's file in the ancestors of a path, so it looks in the
directories that the path passes through, the last one first. For a path that only goes down these
are the directory that it leads to and those around it, up to the root, or up to the working
directory if the path is relative. Two such paths to one directory find the same file.

A path that goes up on its way has been in directories that are not around the one that it leads to,
and the search looks in these as well.

* `Loader.projectLocation?`: where the file lies that is found.
* `Loader.projectLocation?_eq`: it is the first one on the way back.
* `Loader.loadDirectory_around`: the search from paths that only go down.
-/

namespace CapabilityGateway

/-- There is a project's file in the directory at a place. -/
def FileTree.holdsProject (files : FileTree) (l : Location) : Bool :=
  (files.at? (projectFile :: l)).isSome

/-- An error without the name of the file. -/
def SettingsError.unnamed : SettingsError → SettingsError
  | .notFound _ => .notFound ⟨""⟩
  | .malformed _ complaint => .malformed ⟨""⟩ complaint
  | e => e

/-- What a load gives, however the paths are spelled: the settings and whether they are those of a
project, or what is wrong. -/
def Settings.outcome (r : Except SettingsError Settings) :
    Except SettingsError (GatewaySettings × Bool) :=
  (r.map fun s => (s.gateway, s.isProject)).mapError SettingsError.unnamed

theorem GatewaySettings.load_unnamed {files : FileTree} {a b : Path}
    (h : files.resolve a = files.resolve b) :
    (load files a).mapError SettingsError.unnamed =
      (load files b).mapError SettingsError.unnamed := by
  have hread : files.readText a = files.readText b := by
    rw [FileTree.readText, h, FileTree.readText]
  rw [load, load, hread]
  cases files.readText b with
  | error failure => cases failure <;> rfl
  | ok content =>
    simp only
    cases ofToml content with
    | error complaint => rfl
    | ok g => rfl

namespace Loader

variable {files : FileTree} {p q : Path} {l : Location}

/-- Where the project's file lies that is found from a directory. -/
def projectLocation? (files : FileTree) (start : Path) : Option Location :=
  (projectRoot? files start).bind fun root =>
    (files.resolve (root.join projectFile)).toOption.map (·.1)

/-! ## Where the search looks -/

theorem resolve_projectFile {d : Path} (h : files.Solid (files.start d) d.components) :
    files.resolve (d.join projectFile) =
      match files.at? (projectFile :: files.locate d) with
      | some n => .ok (projectFile :: files.locate d, n)
      | none => .error .missing :=
  FileTree.resolve_join h (by decide) (by decide) (by decide)

theorem pathExists_projectFile {d : Path} (h : files.Solid (files.start d) d.components) :
    files.pathExists (d.join projectFile) = files.holdsProject (files.locate d) := by
  rw [FileTree.pathExists, resolve_projectFile h, FileTree.holdsProject]
  cases files.at? (projectFile :: files.locate d) <;> rfl

/-- Every ancestor is reached through directories. -/
theorem solid_of_mem_ancestors (h : files.Solid (files.start p) p.components) {d : Path}
    (hd : d ∈ p.ancestors) : files.Solid (files.start d) d.components := by
  obtain ⟨k, hk⟩ := List.mem_iff_getElem?.mp hd
  rw [Path.getElem?_ancestors] at hk
  rw [FileTree.start_up files hk, Path.components_up hk]
  exact h.take _

theorem find?_passage (files : FileTree) (p : Path) (f : Location → Bool) :
    (p.ancestors.map files.locate).find? f = (files.passage p).find? f := by
  rw [FileTree.locate_ancestors, List.find?_append]
  cases hfind : (files.passage p).find? f with
  | some l => rfl
  | none =>
    have hstart : files.start p ∈ files.passage p :=
      List.mem_map.mpr ⟨p.components.length, by simp, by simp⟩
    have hf : f (files.start p) = false := by
      simpa using List.find?_eq_none.mp hfind _ hstart
    split <;> simp [hf]

/-- From a path that leads to a directory, the file that is found is the first one in the
directories that the path passes through, the last one first. -/
theorem projectLocation?_eq (h : files.Solid (files.start p) p.components) :
    projectLocation? files p =
      ((files.passage p).find? files.holdsProject).map (projectFile :: ·) := by
  have hroot : projectRoot? files p = p.ancestors.find? (files.holdsProject ∘ files.locate) :=
    List.find?_congr fun d hd => pathExists_projectFile (solid_of_mem_ancestors h hd)
  rw [projectLocation?, ← find?_passage, List.find?_map, hroot]
  cases hfind : p.ancestors.find? (files.holdsProject ∘ files.locate) with
  | none => rfl
  | some root =>
    have hsolid := solid_of_mem_ancestors h (List.mem_of_find?_eq_some hfind)
    have hholds : files.holdsProject (files.locate root) = true :=
      List.find?_some (p := files.holdsProject ∘ files.locate) hfind
    obtain ⟨n, hn⟩ := Option.isSome_iff_exists.mp hholds
    rw [Option.bind_some, resolve_projectFile hsolid, hn]
    rfl

/-! ## What is loaded -/

theorem resolve_projectRoot {root : Path} (h : projectRoot? files p = some root) :
    ∃ location n, files.resolve (root.join projectFile) = .ok (location, n) ∧
      projectLocation? files p = some location := by
  have hexists : files.pathExists (root.join projectFile) = true :=
    List.find?_some (p := fun d : Path => files.pathExists (d.join projectFile)) h
  rw [FileTree.pathExists] at hexists
  rw [projectLocation?, h, Option.bind_some]
  cases hresolve : files.resolve (root.join projectFile) with
  | error e =>
    rw [hresolve] at hexists
    cases hexists
  | ok r => exact ⟨r.1, r.2, rfl, rfl⟩

/-- A project's settings and whether there is a project, or what is wrong with its file. -/
def projectOutcome (r : Except SettingsError (Option Path × GatewaySettings)) :
    Except SettingsError (Bool × GatewaySettings) :=
  (r.map fun s => (s.1.isSome, s.2)).mapError SettingsError.unnamed

theorem projectOutcome_loadProject (files : FileTree) (p : Path) :
    projectOutcome (loadProject files p) =
      match projectRoot? files p with
      | some root =>
        ((GatewaySettings.load files (root.join projectFile)).mapError SettingsError.unnamed).map
          (true, ·)
      | none => .ok (false, .empty) := by
  rw [loadProject]
  cases projectRoot? files p with
  | none => rfl
  | some root =>
    simp only
    cases GatewaySettings.load files (root.join projectFile) <;> rfl

/-- The same file says the same, whatever it is called. -/
theorem projectOutcome_of_same (h : projectLocation? files p = projectLocation? files q) :
    projectOutcome (loadProject files p) = projectOutcome (loadProject files q) := by
  rw [projectOutcome_loadProject, projectOutcome_loadProject]
  cases hp : projectRoot? files p with
  | none =>
    cases hq : projectRoot? files q with
    | none => rfl
    | some b =>
      obtain ⟨location, n, -, hlocation⟩ := resolve_projectRoot hq
      rw [hlocation, projectLocation?, hp] at h
      cases h
  | some a =>
    obtain ⟨location, n, hresolve, hlocation⟩ := resolve_projectRoot hp
    cases hq : projectRoot? files q with
    | none =>
      rw [hlocation, projectLocation?, hq] at h
      cases h
    | some b =>
      obtain ⟨location', n', hresolve', hlocation'⟩ := resolve_projectRoot hq
      rw [hlocation, hlocation'] at h
      obtain rfl := Option.some.inj h
      have hn : some n = some n' := by
        rw [← FileTree.at?_of_resolve hresolve, ← FileTree.at?_of_resolve hresolve']
      obtain rfl := Option.some.inj hn
      simp only [GatewaySettings.load_unnamed (hresolve.trans hresolve'.symm)]

/-- A load depends on the project's file through what that says. -/
theorem outcome_loadDirectory (loader : Loader) (files : FileTree) (env : Environment) (p : Path) :
    Settings.outcome (loader.loadDirectory files env p).1 =
        (match projectOutcome (loadProject files p) with
        | .error e => .error e
        | .ok (found, project) =>
          ((loader.combine files env project).mapError SettingsError.unnamed).map (·, found)) ∧
      (loader.loadDirectory files env p).2 =
        match projectOutcome (loadProject files p) with
        | .error _ => loader
        | .ok _ => loader.located env := by
  rw [loadDirectory]
  cases loadProject files p with
  | error e => exact ⟨rfl, rfl⟩
  | ok r =>
    refine ⟨?_, rfl⟩
    simp only [projectOutcome, Except.map, Except.mapError]
    cases loader.combine files env r.2 <;> rfl

/-- The search for the project's file from a directory. It looks where the path passes through, the
last place first. When the path only goes down, this is the directory and those around it, as far as
the root, or the working directory if the path is relative. So it is the same for every such path to
the directory, and so is what is loaded. -/
theorem loadDirectory_around (hp : files.resolve p = .ok (l, .directory)) :
    projectLocation? files p =
        ((files.passage p).find? files.holdsProject).map (projectFile :: ·) ∧
      (p.Descends →
        files.start p <:+ l ∧ files.passage p = FileTree.around (files.start p) l ∧
        ∀ q, files.resolve q = .ok (l, .directory) → q.Descends → files.start q = files.start p →
          projectLocation? files q = projectLocation? files p ∧
          ∀ (loader : Loader) (env : Environment),
            Settings.outcome (loader.loadDirectory files env q).1 =
                Settings.outcome (loader.loadDirectory files env p).1 ∧
              (loader.loadDirectory files env q).2 = (loader.loadDirectory files env p).2) := by
  obtain ⟨hsolid, hlocate⟩ := FileTree.solid_of_resolve hp
  have hfound := projectLocation?_eq hsolid
  refine ⟨hfound, fun hdescends => ?_⟩
  obtain ⟨hstart, hpassage⟩ := FileTree.passage_of_descends (t := files) hdescends
  rw [hlocate] at hstart hpassage
  refine ⟨hstart, hpassage, fun q hq hdescendsQ hstartQ => ?_⟩
  obtain ⟨hsolidQ, hlocateQ⟩ := FileTree.solid_of_resolve hq
  have hpassageQ : files.passage q = files.passage p := by
    rw [hpassage, (FileTree.passage_of_descends hdescendsQ).2, hlocateQ, hstartQ]
  have hsame : projectLocation? files q = projectLocation? files p := by
    rw [projectLocation?_eq hsolidQ, hpassageQ, hfound]
  refine ⟨hsame, fun loader env => ?_⟩
  obtain ⟨houtcomeQ, hafterQ⟩ := loader.outcome_loadDirectory files env q
  obtain ⟨houtcome, hafter⟩ := loader.outcome_loadDirectory files env p
  rw [houtcomeQ, houtcome, hafterQ, hafter, projectOutcome_of_same hsame]
  exact ⟨rfl, rfl⟩

/-- The only project's file is in `/w/x`. -/
def belowFiles : FileTree :=
  (FileTree.empty []).write ⟨"/w/x/capgate.toml"⟩ "[network]\nenabled = true\n".toUTF8

/-- Two ways of writing `/w/x/y`, from where the file in `/w/x` is found. -/
theorem loadDirectory_around_below :
    let files := belowFiles.makeDirectory ⟨"/w/x/y"⟩
    files.resolve ⟨"/w/./x//y/"⟩ = .ok (["y", "x", "w"], .directory) ∧
      projectLocation? files ⟨"/w/./x//y/"⟩ = some ["capgate.toml", "x", "w"] ∧
      projectLocation? files ⟨"/w/x/y"⟩ = some ["capgate.toml", "x", "w"] := by
  intro files
  have hp : files.resolve ⟨"/w/./x//y/"⟩ = .ok (["y", "x", "w"], .directory) := rfl
  have hq : files.resolve ⟨"/w/x/y"⟩ = .ok (["y", "x", "w"], .directory) := rfl
  obtain ⟨hfound, hdown⟩ := loadDirectory_around hp
  obtain ⟨-, hpassage, hsame⟩ := hdown (by decide)
  have hlocation : projectLocation? files ⟨"/w/./x//y/"⟩ = some ["capgate.toml", "x", "w"] := by
    rw [hfound, hpassage]
    rfl
  exact ⟨hp, hlocation, (hsame ⟨"/w/x/y"⟩ hq (by decide) rfl).1.trans hlocation⟩

/-- From `/w/x/..`, which is `/w`, the search finds the file in `/w/x`, where the path has been.
From `/w` it finds none. -/
theorem loadDirectory_up_and_down :
    belowFiles.resolve ⟨"/w/x/.."⟩ = .ok (["w"], .directory) ∧
      belowFiles.resolve ⟨"/w"⟩ = .ok (["w"], .directory) ∧
      projectLocation? belowFiles ⟨"/w/x/.."⟩ = some ["capgate.toml", "x", "w"] ∧
      projectLocation? belowFiles ⟨"/w"⟩ = none := by
  exact ⟨rfl, rfl, by decide +kernel, by decide +kernel⟩

end Loader

end CapabilityGateway
