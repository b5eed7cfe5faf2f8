import Lamplighter.Assoc
import Lamplighter.Bulb.Basic
import Lamplighter.Bulb.Record
import Lamplighter.Color.Hue
import Lamplighter.Color.Named
import Lamplighter.Color.Physical
import Lamplighter.Command.Action
import Lamplighter.Command.Clause
import Lamplighter.Command.Effect
import Lamplighter.Command.Error
import Lamplighter.Command.Targets
import Lamplighter.CommandLine.Act
import Lamplighter.CommandLine.Arguments
import Lamplighter.CommandLine.Discover
import Lamplighter.CommandLine.Outcome
import Lamplighter.Discovery.Listing
import Lamplighter.Discovery.Search
import Lamplighter.Event.Basic
import Lamplighter.Event.Frame
import Lamplighter.Event.Hub
import Lamplighter.Json.Basic
import Lamplighter.Json.Display
import Lamplighter.Json.Reader
import Lamplighter.Json.Writer
import Lamplighter.Main
import Lamplighter.Network.Basic
import Lamplighter.Network.Bench
import Lamplighter.Network.Lan
import Lamplighter.Network.Record
import Lamplighter.Number.Binary64
import Lamplighter.Number.Numeral
import Lamplighter.Number.Power
import Lamplighter.Number.Rounding
import Lamplighter.Number.Shortest
import Lamplighter.Proofs.Assoc
import Lamplighter.Proofs.Color.Reading
import Lamplighter.Proofs.Command.Color
import Lamplighter.Proofs.Command.Copies
import Lamplighter.Proofs.Command.Keeping
import Lamplighter.Proofs.Command.Key
import Lamplighter.Proofs.Command.Lettercase
import Lamplighter.Proofs.Command.Levels
import Lamplighter.Proofs.Command.Names
import Lamplighter.Proofs.Command.Scan
import Lamplighter.Proofs.Command.Sentence
import Lamplighter.Proofs.Command.Speed
import Lamplighter.Proofs.CommandLine.Posted
import Lamplighter.Proofs.Discovery.Answers
import Lamplighter.Proofs.Discovery.Asking
import Lamplighter.Proofs.Discovery.Beside
import Lamplighter.Proofs.Discovery.Entries
import Lamplighter.Proofs.Discovery.Hearing
import Lamplighter.Proofs.Discovery.Searching
import Lamplighter.Proofs.Discovery.Together
import Lamplighter.Proofs.Event.Window
import Lamplighter.Proofs.Json.Printed
import Lamplighter.Proofs.Json.Written
import Lamplighter.Proofs.Network.Recorded
import Lamplighter.Proofs.Network.Tables
import Lamplighter.Proofs.Network.Tidings
import Lamplighter.Proofs.Number.Magnitude
import Lamplighter.Proofs.Number.Nearest
import Lamplighter.Proofs.Run.Account
import Lamplighter.Proofs.Run.Again
import Lamplighter.Proofs.Run.Alert
import Lamplighter.Proofs.Run.Alone
import Lamplighter.Proofs.Run.Attendance
import Lamplighter.Proofs.Run.Backdrop
import Lamplighter.Proofs.Run.Backed
import Lamplighter.Proofs.Run.Balance
import Lamplighter.Proofs.Run.Broadcast
import Lamplighter.Proofs.Run.Capture
import Lamplighter.Proofs.Run.Completion
import Lamplighter.Proofs.Run.Conservation
import Lamplighter.Proofs.Run.Corner
import Lamplighter.Proofs.Run.Dealings
import Lamplighter.Proofs.Run.Decision
import Lamplighter.Proofs.Run.Deeds
import Lamplighter.Proofs.Run.Fair
import Lamplighter.Proofs.Run.Gist
import Lamplighter.Proofs.Run.Hosting
import Lamplighter.Proofs.Run.Inquiry
import Lamplighter.Proofs.Run.Ledger
import Lamplighter.Proofs.Run.Lively
import Lamplighter.Proofs.Run.Locality
import Lamplighter.Proofs.Run.Lockstep
import Lamplighter.Proofs.Run.Messages
import Lamplighter.Proofs.Run.Namesakes
import Lamplighter.Proofs.Run.Neighbours
import Lamplighter.Proofs.Run.Opening
import Lamplighter.Proofs.Run.Outline
import Lamplighter.Proofs.Run.Passage
import Lamplighter.Proofs.Run.Prompt
import Lamplighter.Proofs.Run.Queue
import Lamplighter.Proofs.Run.Reached
import Lamplighter.Proofs.Run.Recital
import Lamplighter.Proofs.Run.Release
import Lamplighter.Proofs.Run.Resolution
import Lamplighter.Proofs.Run.RoundTrip
import Lamplighter.Proofs.Run.Saving
import Lamplighter.Proofs.Run.Scale
import Lamplighter.Proofs.Run.Scene
import Lamplighter.Proofs.Run.Serial
import Lamplighter.Proofs.Run.Series
import Lamplighter.Proofs.Run.Solo
import Lamplighter.Proofs.Run.Standing
import Lamplighter.Proofs.Run.Steady
import Lamplighter.Proofs.Run.Stepping
import Lamplighter.Proofs.Run.Stillness
import Lamplighter.Proofs.Run.Stock
import Lamplighter.Proofs.Run.Story
import Lamplighter.Proofs.Run.Strokes
import Lamplighter.Proofs.Run.Succession
import Lamplighter.Proofs.Run.Telling
import Lamplighter.Proofs.Run.Timely
import Lamplighter.Proofs.Run.Touches
import Lamplighter.Proofs.Run.Trace
import Lamplighter.Proofs.Run.Tracking
import Lamplighter.Proofs.Run.Upshot
import Lamplighter.Proofs.Run.Waiting
import Lamplighter.Proofs.Run.Yield
import Lamplighter.Proofs.Server.Service
import Lamplighter.Proofs.Server.Streaming
import Lamplighter.Proofs.Snapshot.Codec
import Lamplighter.Proofs.Snapshot.Configuration
import Lamplighter.Proofs.Snapshot.Store
import Lamplighter.Proofs.Snapshot.Table
import Lamplighter.Proofs.Snapshot.Transaction
import Lamplighter.Proofs.Snapshot.Unreadable
import Lamplighter.Proofs.Text.Digits
import Lamplighter.Proofs.Text.Solid
import Lamplighter.Proofs.Timeline.Renaming
import Lamplighter.Proofs.Timeline.Upcoming
import Lamplighter.Run.Basic
import Lamplighter.Run.Control
import Lamplighter.Run.Course
import Lamplighter.Run.Errand
import Lamplighter.Run.Fault
import Lamplighter.Run.Local
import Lamplighter.Run.Play
import Lamplighter.Run.Query
import Lamplighter.Run.Session
import Lamplighter.Server.Address
import Lamplighter.Server.Front
import Lamplighter.Server.Intake
import Lamplighter.Server.Stream
import Lamplighter.Settings
import Lamplighter.Snapshot.Codec
import Lamplighter.Snapshot.Files
import Lamplighter.Snapshot.Record
import Lamplighter.Snapshot.Store
import Lamplighter.Snapshot.Table
import Lamplighter.Text.CaseTable
import Lamplighter.Text.DigitTable
import Lamplighter.Text.Digits
import Lamplighter.Text.Lowercase
import Lamplighter.Text.PrintableTable
import Lamplighter.Text.Quoted
import Lamplighter.Text.Words
import Lamplighter.Timeline.Agenda
import Lamplighter.Timeline.Calendar
import Lamplighter.Timeline.Moment
