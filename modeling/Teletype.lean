import Teletype.Action
import Teletype.Attributes.Basic
import Teletype.Attributes.Flag
import Teletype.Attributes.Listing
import Teletype.Command.Basic
import Teletype.Command.Escape
import Teletype.Command.Format
import Teletype.Command.Shell
import Teletype.Command.Toolbox
import Teletype.CommandLine.Basic
import Teletype.CommandLine.Diagnosis
import Teletype.CommandLine.Failure
import Teletype.CommandLine.FileTree
import Teletype.CommandLine.Request
import Teletype.Config
import Teletype.Console.Basic
import Teletype.Console.Keyboard
import Teletype.Console.MouseRecord
import Teletype.Description.Basic
import Teletype.Description.Builtin
import Teletype.Description.Capability
import Teletype.Description.Reading
import Teletype.Description.Source
import Teletype.Device.Basic
import Teletype.Device.Bridge
import Teletype.Device.Console
import Teletype.Device.SharedBridge
import Teletype.Device.SharedStream
import Teletype.Device.Stream
import Teletype.Device.System
import Teletype.Discipline.Basic
import Teletype.Discipline.Session
import Teletype.Error
import Teletype.Main
import Teletype.Output
import Teletype.PolledReader
import Teletype.Proofs.Action
import Teletype.Proofs.Bridge.Delivery
import Teletype.Proofs.Bridge.Steps
import Teletype.Proofs.Console.Changes
import Teletype.Proofs.Console.Closers
import Teletype.Proofs.Console.Closing
import Teletype.Proofs.Console.InputMode
import Teletype.Proofs.Console.Mouse
import Teletype.Proofs.Console.Opening
import Teletype.Proofs.Console.Typing
import Teletype.Proofs.Console.Views
import Teletype.Proofs.Description.Bare
import Teletype.Proofs.Description.Fields
import Teletype.Proofs.Description.Layout
import Teletype.Proofs.Description.Pieces
import Teletype.Proofs.Description.Printing
import Teletype.Proofs.Description.Statement
import Teletype.Proofs.Discipline.Chunks
import Teletype.Proofs.Discipline.Echo
import Teletype.Proofs.Discipline.Editing
import Teletype.Proofs.Discipline.Feeding
import Teletype.Proofs.Discipline.Influence
import Teletype.Proofs.Discipline.Interrupts
import Teletype.Proofs.Discipline.Mode
import Teletype.Proofs.Discipline.Run
import Teletype.Proofs.Discipline.Scene
import Teletype.Proofs.Discipline.Screen
import Teletype.Proofs.Discipline.Translation
import Teletype.Proofs.Pump.LostResume
import Teletype.Proofs.Pump.Overlap
import Teletype.Proofs.Pump.Ownership
import Teletype.Proofs.Pump.SelfPause
import Teletype.Proofs.Pump.Sequential
import Teletype.Proofs.Queue.Alike
import Teletype.Proofs.Queue.Counting
import Teletype.Proofs.Queue.History
import Teletype.Proofs.Queue.Polling
import Teletype.Proofs.Queue.Stream
import Teletype.Proofs.Report.Decimal
import Teletype.Proofs.Report.Field
import Teletype.Proofs.Report.Outline
import Teletype.Proofs.Report.Reading
import Teletype.Proofs.Report.Rendering
import Teletype.Proofs.Report.Search
import Teletype.Proofs.Signal.Agenda
import Teletype.Proofs.Signal.Raising
import Teletype.Proofs.Signal.Registry
import Teletype.Proofs.Signal.Returning
import Teletype.Proofs.Stream.Pausing
import Teletype.Proofs.Stream.Round
import Teletype.Proofs.Stty.Differences
import Teletype.Proofs.Stty.ReadBack
import Teletype.Proofs.Stty.Refusals
import Teletype.Proofs.Stty.Values
import Teletype.Proofs.Stty.Words
import Teletype.Proofs.Template.Cursor
import Teletype.Proofs.Template.Escapes
import Teletype.Proofs.Template.Faults
import Teletype.Proofs.Template.Format
import Teletype.Proofs.Template.Moderate
import Teletype.Proofs.Template.Numbers
import Teletype.Proofs.Template.Token
import Teletype.Proofs.Template.Tree
import Teletype.Proofs.Terminal.Frozen
import Teletype.Proofs.Terminal.Keeping
import Teletype.Proofs.Terminal.Latest
import Teletype.Proofs.Terminal.Ledger
import Teletype.Proofs.Terminal.LeftBehind
import Teletype.Proofs.Terminal.Refusing
import Teletype.Proofs.Termios.Bits
import Teletype.Proofs.Termios.RoundTrip
import Teletype.Proofs.Text
import Teletype.Proofs.Tty.Restoring
import Teletype.Proofs.Tty.Transparent
import Teletype.Pump.Basic
import Teletype.Pump.Sequential
import Teletype.Pump.Shared
import Teletype.Queue
import Teletype.Report.Cursor
import Teletype.Report.Mouse
import Teletype.Report.Supply
import Teletype.Signal.Agenda
import Teletype.Signal.Bare
import Teletype.Signal.Basic
import Teletype.Signal.Owner
import Teletype.Signal.Registry
import Teletype.Sink
import Teletype.Stty.Client
import Teletype.Stty.Listing
import Teletype.Stty.Request
import Teletype.Stty.Script
import Teletype.Stty.Tool
import Teletype.Template.Conversion
import Teletype.Template.Cursor
import Teletype.Template.Escape
import Teletype.Template.Expand
import Teletype.Template.Param
import Teletype.Terminal.Basic
import Teletype.Terminal.Open
import Teletype.Terminal.Operation
import Teletype.Terminal.Process
import Teletype.Terminal.Reentrant
import Teletype.Terminal.Report
import Teletype.Terminal.SharedConsole
import Teletype.Terminal.SharedHandlers
import Teletype.Termios
import Teletype.Text.Blank
import Teletype.Text.Caret
import Teletype.Text.Numeral
import Teletype.Text.Units
import Teletype.Text.Utf8
import Teletype.Text.Word
import Teletype.Toml.Document
import Teletype.Toml.Node
import Teletype.Toml.Scalar
import Teletype.Tty.Basic
import Teletype.Tty.Settings
