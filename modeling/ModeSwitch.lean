import ModeSwitch.AttrPath
import ModeSwitch.CommandLine.Arguments
import ModeSwitch.CommandLine.Program
import ModeSwitch.CommandLine.Wording
import ModeSwitch.Config
import ModeSwitch.Config.Decoding
import ModeSwitch.Config.Loading
import ModeSwitch.Config.Validation
import ModeSwitch.Decimal.Binary
import ModeSwitch.Decimal.Shortest
import ModeSwitch.Device
import ModeSwitch.Failure
import ModeSwitch.Host.Environment
import ModeSwitch.Host.FileTree
import ModeSwitch.Host.Lookup
import ModeSwitch.Host.Program
import ModeSwitch.Host.Shell.Arithmetic
import ModeSwitch.Host.Shell.Builtin
import ModeSwitch.Host.Shell.Builtin.Names
import ModeSwitch.Host.Shell.Builtin.Surroundings
import ModeSwitch.Host.Shell.Builtin.Texts
import ModeSwitch.Host.Shell.Builtin.Variables
import ModeSwitch.Host.Shell.Command
import ModeSwitch.Host.Shell.Condition
import ModeSwitch.Host.Shell.Execution
import ModeSwitch.Host.Shell.Expansion
import ModeSwitch.Host.Shell.Field
import ModeSwitch.Host.Shell.Form
import ModeSwitch.Host.Shell.Format
import ModeSwitch.Host.Shell.Fraction
import ModeSwitch.Host.Shell.Home
import ModeSwitch.Host.Shell.Invocation
import ModeSwitch.Host.Shell.Number
import ModeSwitch.Host.Shell.Octets
import ModeSwitch.Host.Shell.Process
import ModeSwitch.Host.Shell.Reader
import ModeSwitch.Host.Shell.Redirections
import ModeSwitch.Host.Shell.Search
import ModeSwitch.Host.Shell.Search.Reader
import ModeSwitch.Host.Shell.Signal
import ModeSwitch.Host.Shell.State
import ModeSwitch.Host.Shell.Token
import ModeSwitch.Host.Shell.Tools
import ModeSwitch.Host.Shell.Tools.Changing
import ModeSwitch.Host.Shell.Tools.Copying
import ModeSwitch.Host.Shell.Tools.Expr
import ModeSwitch.Host.Shell.Tools.Files
import ModeSwitch.Host.Shell.Tools.Given
import ModeSwitch.Host.Shell.Tools.Grep
import ModeSwitch.Host.Shell.Tools.Moving
import ModeSwitch.Host.Shell.Tools.Parts
import ModeSwitch.Host.Shell.Tools.Quoting
import ModeSwitch.Host.Shell.Tools.Surroundings
import ModeSwitch.Host.Shell.Tools.Words
import ModeSwitch.Journal
import ModeSwitch.Journal.Filter
import ModeSwitch.Journal.Pattern
import ModeSwitch.Journal.Pattern.Reader
import ModeSwitch.Listing
import ModeSwitch.Main
import ModeSwitch.Mode
import ModeSwitch.Notification
import ModeSwitch.Notifier.Services
import ModeSwitch.Notifier.Template
import ModeSwitch.Procedure
import ModeSwitch.Proofs.Config.Soundness
import ModeSwitch.Proofs.Device.Recording
import ModeSwitch.Proofs.Interleaving.Completion
import ModeSwitch.Proofs.Interleaving.Exclusion
import ModeSwitch.Proofs.Interleaving.Linearization
import ModeSwitch.Proofs.Interleaving.Phases
import ModeSwitch.Proofs.Interleaving.System
import ModeSwitch.Proofs.Interleaving.Termination
import ModeSwitch.Proofs.Interleaving.Transactions
import ModeSwitch.Proofs.Mode.Encoding
import ModeSwitch.Proofs.Notification.Tray
import ModeSwitch.Proofs.Procedure.Holding
import ModeSwitch.Proofs.Procedure.Requests
import ModeSwitch.Proofs.Procedure.Runs
import ModeSwitch.Proofs.Session.Display
import ModeSwitch.Proofs.Session.Observations
import ModeSwitch.Proofs.Session.Operations
import ModeSwitch.Proofs.Settings.Changes
import ModeSwitch.Proofs.Settings.Concurrency
import ModeSwitch.Proofs.Settings.Display
import ModeSwitch.Proofs.Settings.Registers
import ModeSwitch.Proofs.Settings.Slots
import ModeSwitch.Proofs.Store.Attributes
import ModeSwitch.Proofs.Toggle.Observation
import ModeSwitch.Proofs.Toggle.Protocol
import ModeSwitch.Session
import ModeSwitch.Session.Benches
import ModeSwitch.Settings
import ModeSwitch.Snapshot
import ModeSwitch.Store.Files
import ModeSwitch.Store.Memory
import ModeSwitch.Text.Blank
import ModeSwitch.Text.Controls
import ModeSwitch.Text.Letter
import ModeSwitch.Text.Quoted
import ModeSwitch.Text.Similarity
import ModeSwitch.Text.Unseen
import ModeSwitch.Text.Utf8
import ModeSwitch.Toggle
import ModeSwitch.Toggle.Dump
import ModeSwitch.Watch
import ModeSwitch.Yaml.Content
import ModeSwitch.Yaml.Decode
import ModeSwitch.Yaml.Document
import ModeSwitch.Yaml.Node
import ModeSwitch.Yaml.Position
import ModeSwitch.Yaml.Problem
import ModeSwitch.Yaml.Scalar
import ModeSwitch.Yaml.Source
import ModeSwitch.Yaml.Token
import ModeSwitch.Yaml.Token.Block
import ModeSwitch.Yaml.Token.Tag
import ModeSwitch.Yaml.Token.Text
import ModeSwitch.Yaml.Tokens
import ModeSwitch.Proofs.Procedure.Agreement
import ModeSwitch.Proofs.Session.Agreement
import ModeSwitch.Proofs.Session.Requests
import ModeSwitch.Proofs.Session.Invariants
import ModeSwitch.Proofs.Session.Omission
import ModeSwitch.Proofs.Session.Failures
import ModeSwitch.Proofs.Notification.Services
import ModeSwitch.Proofs.Session.Panics
import ModeSwitch.Proofs.Session.Services
import ModeSwitch.Proofs.Settings.Views
import ModeSwitch.Proofs.Device.Looking
import ModeSwitch.Proofs.Session.Queries
import ModeSwitch.Proofs.Snapshot.Difference
import ModeSwitch.Proofs.Procedure.Notes
import ModeSwitch.Proofs.Session.Notes
import ModeSwitch.Proofs.Session.Watching
import ModeSwitch.Proofs.Config.Loading
import ModeSwitch.Proofs.Settings.Addressing
import ModeSwitch.Proofs.Yaml.Steps
import ModeSwitch.Proofs.Yaml.Scalars
import ModeSwitch.Proofs.Yaml.Fields
import ModeSwitch.Proofs.Yaml.Records
import ModeSwitch.Proofs.Yaml.Contents
import ModeSwitch.Proofs.Yaml.Tagged
import ModeSwitch.Proofs.Config.Parts
import ModeSwitch.Proofs.Config.Writing
import ModeSwitch.Proofs.Config.Toggles
import ModeSwitch.Proofs.Config.Notifiers
import ModeSwitch.Proofs.Config.Devices
import ModeSwitch.Proofs.Config.Encoding
import ModeSwitch.Proofs.Config.RoundTrip
import ModeSwitch.Proofs.Procedure.Courses
import ModeSwitch.Proofs.Toggle.Conversation
import ModeSwitch.Proofs.Config.Faults
import ModeSwitch.Proofs.Notifier.Substitution
import ModeSwitch.Proofs.CommandLine.Attempts
import ModeSwitch.Proofs.Text.ByteOrder
import ModeSwitch.Proofs.Text.LineEnds
import ModeSwitch.Proofs.Snapshot.Merging
import ModeSwitch.Proofs.Mode.Grammar
import ModeSwitch.Proofs.Toggle.Recognition
import ModeSwitch.Proofs.Text.Quoting
import ModeSwitch.Proofs.Listing.Descriptions
import ModeSwitch.Proofs.Listing.Lines
import ModeSwitch.Proofs.Notifier.Locality
import ModeSwitch.Proofs.Settings.Effects
import ModeSwitch.Proofs.Settings.Commutation
import ModeSwitch.Proofs.Settings.Reordering
import ModeSwitch.Proofs.AttrPath.Spelling
import ModeSwitch.Proofs.Store.Identity
import ModeSwitch.Proofs.Settings.Locks
