import CapabilityGateway.Settings.ConsoleMode

/-!
# Gateway settings

What a configuration file can say: a mode for the console, and a switch each for the network and the
audit. Every section may be missing, and a section that is there may leave its field unset.

Merging takes over what the other settings set and nothing else, so an empty section in them neither
adds a section nor erases a field.
-/

namespace CapabilityGateway

structure ConsoleSection where
  mode : Option String
  deriving DecidableEq

structure SwitchSection where
  enabled : Option Bool
  deriving DecidableEq

structure GatewaySettings where
  console : Option ConsoleSection
  network : Option SwitchSection
  audit : Option SwitchSection
  deriving DecidableEq

namespace GatewaySettings

/-- Settings that say nothing. -/
def empty : GatewaySettings := ⟨none, none, none⟩

/-- The mode as it is written. -/
def modeText? (g : GatewaySettings) : Option String := g.console.bind (·.mode)

/-- The console mode, if one is written that can be read. -/
def consoleMode? (g : GatewaySettings) : Option ConsoleMode := g.modeText?.bind ConsoleMode.ofText?

def network? (g : GatewaySettings) : Option Bool := g.network.bind (·.enabled)

def audit? (g : GatewaySettings) : Option Bool := g.audit.bind (·.enabled)

/-- The settings with the mode set. -/
def setMode (g : GatewaySettings) (mode : String) : GatewaySettings :=
  { g with console := some ⟨some mode⟩ }

def setNetwork (g : GatewaySettings) (b : Bool) : GatewaySettings :=
  { g with network := some ⟨some b⟩ }

def setAudit (g : GatewaySettings) (b : Bool) : GatewaySettings :=
  { g with audit := some ⟨some b⟩ }

/-- The settings with everything taken over that the other settings set. -/
def merge (g other : GatewaySettings) : GatewaySettings where
  console :=
    match other.modeText? with
    | some mode => some ⟨some mode⟩
    | none => g.console
  network :=
    match other.network? with
    | some b => some ⟨some b⟩
    | none => g.network
  audit :=
    match other.audit? with
    | some b => some ⟨some b⟩
    | none => g.audit

end GatewaySettings

end CapabilityGateway
