import InputActions.Action
import InputActions.Chain
import InputActions.CommandLine.Arguments
import InputActions.CommandLine.Files
import InputActions.CommandLine.Parameter
import InputActions.CommandLine.Run
import InputActions.CommandLine.Usage
import InputActions.Config
import InputActions.Event
import InputActions.Failure
import InputActions.Geometry
import InputActions.Host
import InputActions.Interchange
import InputActions.Json.Basic
import InputActions.Json.Reader
import InputActions.Json.Record
import InputActions.Json.Token
import InputActions.Json.Writer
import InputActions.Key.Basic
import InputActions.Key.Layout
import InputActions.Main
import InputActions.Modifiers
import InputActions.Motion
import InputActions.Numeric.Binary64
import InputActions.Numeric.Shortest
import InputActions.Numeric.Word
import InputActions.Payload
import InputActions.Pending
import InputActions.Replay
import InputActions.Session.Activity
import InputActions.Session.Inputs
import InputActions.Session.Progress
import InputActions.Session.Schedule
import InputActions.Session.Script
import InputActions.Session.Wait
import InputActions.Session.World
import InputActions.Settings
import InputActions.SettingsFile
import InputActions.Source
import InputActions.Store
import InputActions.Text.Grapheme
import InputActions.Text.Integer
import InputActions.Text.Property.Blank
import InputActions.Text.Property.Cluster
import InputActions.Text.Property.Extend
import InputActions.Text.Property.Invisible
import InputActions.Text.Property.Ranges
import InputActions.Text.Quoted
import InputActions.ViewportText
import InputActions.Yaml.Basic
import InputActions.Yaml.Reader
import InputActions.Yaml.Writer
import InputActions.Proofs.Accord
import InputActions.Proofs.Apart
import InputActions.Proofs.Arriving
import InputActions.Proofs.Asking
import InputActions.Proofs.Cadence
import InputActions.Proofs.Centering
import InputActions.Proofs.Chronicle
import InputActions.Proofs.Conflicting
import InputActions.Proofs.Conserving
import InputActions.Proofs.Continuing
import InputActions.Proofs.Device
import InputActions.Proofs.Flags
import InputActions.Proofs.Forgetting
import InputActions.Proofs.Framing
import InputActions.Proofs.Gliding
import InputActions.Proofs.Grammar
import InputActions.Proofs.InTurn
import InputActions.Proofs.Inside
import InputActions.Proofs.Interleaving
import InputActions.Proofs.Joining
import InputActions.Proofs.Keeping
import InputActions.Proofs.Landing
import InputActions.Proofs.Latency
import InputActions.Proofs.Linking
import InputActions.Proofs.Naming
import InputActions.Proofs.Pairing
import InputActions.Proofs.Physical
import InputActions.Proofs.Placing
import InputActions.Proofs.PressOrder
import InputActions.Proofs.Punctuality
import InputActions.Proofs.Reaching
import InputActions.Proofs.Reading
import InputActions.Proofs.Readmitting
import InputActions.Proofs.Refusing
import InputActions.Proofs.Registering
import InputActions.Proofs.Registry
import InputActions.Proofs.Release
import InputActions.Proofs.Replaying
import InputActions.Proofs.Reporting
import InputActions.Proofs.Restoring
import InputActions.Proofs.Resuming
import InputActions.Proofs.Retrying
import InputActions.Proofs.Rounding
import InputActions.Proofs.Sampling
import InputActions.Proofs.Section
import InputActions.Proofs.Spelling
import InputActions.Proofs.Standing
import InputActions.Proofs.Staying
import InputActions.Proofs.Stray
import InputActions.Proofs.Striking
import InputActions.Proofs.Surface
import InputActions.Proofs.Telling
import InputActions.Proofs.TickOrder
import InputActions.Proofs.Timekeeping
import InputActions.Proofs.Timetable
import InputActions.Proofs.Tolerance
import InputActions.Proofs.Transposing
import InputActions.Proofs.Trigger
import InputActions.Proofs.Truth
import InputActions.Proofs.Typing
import InputActions.Proofs.Underway
