import CapabilityGateway.Audit.Entry
import CapabilityGateway.Audit.Event
import CapabilityGateway.Audit.Timestamp
import CapabilityGateway.Capability.Console
import CapabilityGateway.Capability.Error
import CapabilityGateway.Capability.Install
import CapabilityGateway.Capability.Name
import CapabilityGateway.Capability.Network
import CapabilityGateway.Capability.Set
import CapabilityGateway.Dictionary
import CapabilityGateway.Files.Path
import CapabilityGateway.Files.Tree
import CapabilityGateway.Guest.Display
import CapabilityGateway.Guest.Equality
import CapabilityGateway.Guest.Fault
import CapabilityGateway.Guest.Namespace
import CapabilityGateway.Guest.Stringify
import CapabilityGateway.Guest.Value
import CapabilityGateway.Host.Bridge
import CapabilityGateway.Host.Call
import CapabilityGateway.Host.Reference
import CapabilityGateway.Host.Trace
import CapabilityGateway.Host.World
import CapabilityGateway.Json.Text
import CapabilityGateway.Number.Binary64
import CapabilityGateway.Number.Decimal
import CapabilityGateway.Number.Rounding
import CapabilityGateway.Number.Shortest
import CapabilityGateway.Sandbox.Context
import CapabilityGateway.Sandbox.Options
import CapabilityGateway.Settings.ConsoleMode
import CapabilityGateway.Settings.Environment
import CapabilityGateway.Settings.Error
import CapabilityGateway.Settings.Gateway
import CapabilityGateway.Settings.Loader
import CapabilityGateway.Settings.Schema
import CapabilityGateway.Text.Blank
import CapabilityGateway.Text.CodePoints
import CapabilityGateway.Text.Inspect
import CapabilityGateway.Text.LowerCase
import CapabilityGateway.Text.Printable
import CapabilityGateway.Text.Quoted
import CapabilityGateway.Toml.Grammar
import CapabilityGateway.Toml.Reader
import CapabilityGateway.Toml.Scalar
import CapabilityGateway.Toml.Tree
import CapabilityGateway.Toml.Value
import CapabilityGateway.Proofs.Dictionary
import CapabilityGateway.Proofs.Namespace.Edit
import CapabilityGateway.Proofs.Audit.Recording
import CapabilityGateway.Proofs.Installation.Plan
import CapabilityGateway.Proofs.Installation.Exactness
import CapabilityGateway.Proofs.Namespace.History
import CapabilityGateway.Proofs.Namespace.Permanence
import CapabilityGateway.Proofs.Namespace.Registry
import CapabilityGateway.Proofs.Namespace.OrderedDictionary
import CapabilityGateway.Proofs.Sandbox.Construction
import CapabilityGateway.Proofs.Guest.Renaming
import CapabilityGateway.Proofs.Sandbox.Guest
import CapabilityGateway.Proofs.Sandbox.Isolation
import CapabilityGateway.Proofs.Console.Forwarding
import CapabilityGateway.Proofs.Installation.Reinstallation
import CapabilityGateway.Proofs.Settings.Precedence
import CapabilityGateway.Proofs.Guest.Projection
import CapabilityGateway.Proofs.Installation.Trail
import CapabilityGateway.Proofs.Audit.Calls
import CapabilityGateway.Proofs.Sandbox.Session
import CapabilityGateway.Proofs.Sandbox.Lifecycle
import CapabilityGateway.Proofs.Files.Contents
import CapabilityGateway.Proofs.Sandbox.Startup
import CapabilityGateway.Proofs.Sandbox.Damage
import CapabilityGateway.Proofs.Sandbox.Reports
import CapabilityGateway.Proofs.Files.Passage
import CapabilityGateway.Proofs.Settings.Search
import CapabilityGateway.Proofs.Toml.Keys
import CapabilityGateway.Proofs.Settings.Strictness
import CapabilityGateway.Proofs.Number.Nearest
import CapabilityGateway.Proofs.Number.ReadBack
import CapabilityGateway.Proofs.Number.Fewest
import CapabilityGateway.Proofs.Json.NumberValue
import CapabilityGateway.Proofs.Guest.NumberText
import CapabilityGateway.Proofs.Guest.Framing
import CapabilityGateway.Proofs.Guest.Equality
import CapabilityGateway.Proofs.Guest.Appearance
import CapabilityGateway.Proofs.Installation.Faults
import CapabilityGateway.Proofs.Installation.Pieces
import CapabilityGateway.Proofs.Settings.Merging
import CapabilityGateway.Proofs.Host.Code
import CapabilityGateway.Proofs.Host.Reentry
import CapabilityGateway.Proofs.Settings.Validity
import CapabilityGateway.Proofs.Settings.FoundFile
import CapabilityGateway.Proofs.Text.LowerCase
import CapabilityGateway.Proofs.Settings.Spelling
import CapabilityGateway.Proofs.Audit.JsonLine
import CapabilityGateway.Proofs.Audit.LogLine
import CapabilityGateway.Proofs.Sandbox.Vetting
import CapabilityGateway.Proofs.Guest.Objects
import CapabilityGateway.Proofs.Network.Relay
