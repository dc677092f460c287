import CapabilityGateway.Settings.Environment
import CapabilityGateway.Settings.Error

/-!
# Loading settings

Settings come from up to four places. The user's own file says least, the project's file goes before
it, the environment goes before both, and what none of them sets has a default. The project's file
is looked for in a directory and then in the directories around it, as the path spells them out.

The user's file cannot stand in the way: when it is missing or broken, it says nothing.

A loader finds out where the user's file is when it first needs it, and then stays with that.
-/

namespace CapabilityGateway

/-- The name of a project's file. -/
def projectFile : String := "capgate.toml"

namespace GatewaySettings

/-- The settings themselves, if the mode they set is one. -/
def validate (g : GatewaySettings) : Except SettingsError Unit :=
  match g.modeText? with
  | some mode =>
    if (ConsoleMode.ofText? mode).isSome then .ok ()
    else .error (.invalidMode (ConsoleMode.normalized mode))
  | none => .ok ()

/-- The settings of a file. -/
def load (files : FileTree) (file : Path) : Except SettingsError GatewaySettings :=
  match files.readText file with
  | .error .missing => .error (.notFound file)
  | .error failure => .error (.unreadable failure)
  | .ok content =>
    match ofToml content with
    | .error complaint => .error (.malformed file complaint)
    | .ok g => do
      g.validate
      return g

/-- The settings with what the environment sets. A mode is stored by its word. -/
def withEnvironment (env : Environment) (g : GatewaySettings) :
    Except SettingsError GatewaySettings := do
  let g ←
    match env.text? .console with
    | some s =>
      match ConsoleMode.ofText? s with
      | some mode => pure (g.setMode mode.word)
      | none => .error (.invalidMode (ConsoleMode.normalized s))
    | none => pure g
  let g :=
    match env.text? .network with
    | some s => g.setNetwork (isSwitchedOn s)
    | none => g
  return match env.text? .audit with
    | some s => g.setAudit (isSwitchedOn s)
    | none => g

end GatewaySettings

/-- The directory of the user's own files. -/
def userDirectory? (env : Environment) : Option Path := env.home.map (·.join ".capgate")

/-- The user's own settings file. -/
def userFile? (env : Environment) : Option Path := (userDirectory? env).map (·.join "config.toml")

/-- Settings as they were loaded. -/
structure Settings where
  gateway : GatewaySettings
  /-- The directory of the project's file. -/
  projectRoot : Option Path

namespace Settings

def consoleMode (s : Settings) : ConsoleMode := s.gateway.consoleMode?.getD .discard

def network (s : Settings) : Bool := s.gateway.network?.getD false

def audit (s : Settings) : Bool := s.gateway.audit?.getD false

def isProject (s : Settings) : Bool := s.projectRoot.isSome

end Settings

structure Loader where
  /-- The user's file, once it is known. -/
  userFile : Option Path

namespace Loader

/-- The nearest directory upwards with a project's file. -/
def projectRoot? (files : FileTree) (start : Path) : Option Path :=
  start.ancestors.find? fun d => files.pathExists (d.join projectFile)

/-- The project's settings and where they were found. -/
def loadProject (files : FileTree) (start : Path) :
    Except SettingsError (Option Path × GatewaySettings) :=
  match projectRoot? files start with
  | some root => do return (some root, ← GatewaySettings.load files (root.join projectFile))
  | none => .ok (none, .empty)

/-- The loader once it knows the user's file. -/
def located (loader : Loader) (env : Environment) : Loader :=
  ⟨loader.userFile.or (userFile? env)⟩

/-- The user's settings; a missing file says nothing. -/
def loadUser (loader : Loader) (files : FileTree) (env : Environment) :
    Except SettingsError GatewaySettings :=
  match (loader.located env).userFile with
  | some file => if files.pathExists file then GatewaySettings.load files file else .ok .empty
  | none => .error .homeNotFound

/-- The settings of a project over those of the user and under those of the environment. -/
def combine (loader : Loader) (files : FileTree) (env : Environment) (project : GatewaySettings) :
    Except SettingsError GatewaySettings :=
  let user := (loader.loadUser files env).toOption.getD .empty
  (user.merge project).withEnvironment env

/-- The settings for a directory, and the loader afterwards. -/
def loadDirectory (loader : Loader) (files : FileTree) (env : Environment) (start : Path) :
    Except SettingsError Settings × Loader :=
  match loadProject files start with
  | .error e => (.error e, loader)
  | .ok (root, project) =>
    ((fun g => ⟨g, root⟩) <$> loader.combine files env project, loader.located env)

/-- The settings with a given file in place of the project's, and the loader afterwards. -/
def loadFile (loader : Loader) (files : FileTree) (env : Environment) (file : Path) :
    Except SettingsError Settings × Loader :=
  match GatewaySettings.load files file with
  | .error e => (.error e, loader)
  | .ok project =>
    ((fun g => ⟨g, file.parent?⟩) <$> loader.combine files env project, loader.located env)

end Loader

end CapabilityGateway
