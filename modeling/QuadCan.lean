import QuadCan.Batch
import QuadCan.Bench.Basic
import QuadCan.Bench.Link
import QuadCan.Bench.Terminal
import QuadCan.Bus.Rate
import QuadCan.Bus.SamplePoint
import QuadCan.Bus.Setting
import QuadCan.Bus.Timing
import QuadCan.Channel
import QuadCan.Command
import QuadCan.Config
import QuadCan.Counters
import QuadCan.Engine.Basic
import QuadCan.Engine.Show
import QuadCan.Fault
import QuadCan.Frame.Basic
import QuadCan.Frame.Encode
import QuadCan.Frame.Form
import QuadCan.Frame.Lemmas
import QuadCan.Frame.Length
import QuadCan.Frame.Parse
import QuadCan.Frame.Show
import QuadCan.Frame.WellFormed
import QuadCan.Hub.Basic
import QuadCan.Hub.Delivery
import QuadCan.Hub.Event
import QuadCan.Hub.Journal
import QuadCan.Hub.Observer
import QuadCan.Hub.Show
import QuadCan.Line.Route
import QuadCan.Line.Splitter
import QuadCan.Proofs.Frame.Line
import QuadCan.Proofs.Text.Ascii
import QuadCan.Proofs.Text.Decimal
import QuadCan.Proofs.Text.Numeral
import QuadCan.Serial.Connection
import QuadCan.Text.Decimal
import QuadCan.Text.Duration
import QuadCan.Text.Hex
import QuadCan.Text.Hex.Lemmas
import QuadCan.Text.Hidden
import QuadCan.Text.Hidden.Marks
import QuadCan.Text.Hidden.Unassigned
import QuadCan.Text.Quoted
import QuadCan.Text.Record
import QuadCan.Text.Utf8
import QuadCan.Text.Utf8.Lemmas
import QuadCan.Proofs.Frame.RoundTrip
import QuadCan.Proofs.Frame.Offsets
import QuadCan.Proofs.Frame.Grammar
import QuadCan.Proofs.Frame.Arrival
import QuadCan.Proofs.Frame.Extension
import QuadCan.Proofs.Frame.Canonical
import QuadCan.Proofs.Engine.Outflow
import QuadCan.Proofs.Hub.Gains
import QuadCan.Proofs.Hub.Mail
import QuadCan.Proofs.Line.Stream
import QuadCan.Proofs.Line.Reads
import QuadCan.Proofs.Line.Turns
import QuadCan.Proofs.Line.Lines
import QuadCan.Proofs.Engine.Steps
import QuadCan.Proofs.Engine.Refinement
import QuadCan.Proofs.Engine.Conservation
import QuadCan.Proofs.Engine.Reopen
import QuadCan.Proofs.Engine.Writes
import QuadCan.Proofs.Engine.Batches
import QuadCan.Proofs.Engine.Lifecycle
import QuadCan.Proofs.Link.Addressing
import QuadCan.Proofs.Link.Loopback
import QuadCan.Proofs.Link.Splitting
import QuadCan.Proofs.Text.Repair
import QuadCan.Proofs.Command.Decoding
import QuadCan.Proofs.Hub.Roster
import QuadCan.Proofs.Hub.Isolation
import QuadCan.Proofs.Engine.Inflow
import QuadCan.Proofs.Engine.Closing
import QuadCan.Proofs.Engine.Finishing
import QuadCan.Proofs.Engine.Balance
import QuadCan.Proofs.Line.Kinds
import QuadCan.Proofs.Hub.Tally
import QuadCan.Proofs.Engine.Tally
import QuadCan.Proofs.Engine.Intake
import QuadCan.Proofs.Engine.Ledger
import QuadCan.Proofs.Link.Noise
import QuadCan.Proofs.Batch.Packing
import QuadCan.Proofs.Engine.Packing
import QuadCan.Proofs.Line.Looks
import QuadCan.Proofs.Hub.Submission
import QuadCan.Proofs.Engine.Configuration
import QuadCan.Proofs.Bus.Exactness
import QuadCan.Proofs.Frame.Fields
