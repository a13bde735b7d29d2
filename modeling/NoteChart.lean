import NoteChart.Binary64.Order
import NoteChart.Channel
import NoteChart.Chart
import NoteChart.Chart.Compile
import NoteChart.Chart.Modifier
import NoteChart.Command.Arguments
import NoteChart.Command.Run
import NoteChart.Command.Summary
import NoteChart.Decimal.Numeral
import NoteChart.Decimal.Shortest
import NoteChart.Density
import NoteChart.Digest.Blocks
import NoteChart.Digest.Md5
import NoteChart.Digest.Sha256
import NoteChart.Gauge.AutoShift
import NoteChart.Gauge.Basic
import NoteChart.Gauge.Element
import NoteChart.Gauge.Kind
import NoteChart.Gauge.Ladder
import NoteChart.Grade
import NoteChart.Json.Chart
import NoteChart.Json.Config
import NoteChart.Json.Event
import NoteChart.Json.Gauge
import NoteChart.Json.Lane
import NoteChart.Json.Parser
import NoteChart.Json.Printer
import NoteChart.Json.Result
import NoteChart.Json.Shape
import NoteChart.Json.Value
import NoteChart.Judgment
import NoteChart.Lamp
import NoteChart.Lane
import NoteChart.Main
import NoteChart.Measure
import NoteChart.ObjectId
import NoteChart.Play.Config
import NoteChart.Play.Cursor
import NoteChart.Play.Replay
import NoteChart.Play.Result
import NoteChart.Play.Session
import NoteChart.Random.ChaCha
import NoteChart.Random.Shuffle
import NoteChart.Score
import NoteChart.Source
import NoteChart.Source.Reading
import NoteChart.Tempo
import NoteChart.Text.Decoding
import NoteChart.Text.Japanese.EucJp
import NoteChart.Text.Japanese.Kanji208
import NoteChart.Text.Japanese.Kanji212
import NoteChart.Text.Japanese.ShiftJis
import NoteChart.Text.Quoted
import NoteChart.Text.Utf16
import NoteChart.Text.Utf8
import NoteChart.Text.Visibility
import NoteChart.Timeline
import NoteChart.Proofs.Binary64.Rounding
import NoteChart.Proofs.Binary64.Unpacked
import NoteChart.Proofs.Binary64.Digits
import NoteChart.Proofs.Binary64.Arithmetic
import NoteChart.Proofs.Binary64.Order
import NoteChart.Proofs.Binary64.Precision
import NoteChart.Proofs.Binary64.Scientific
import NoteChart.Proofs.Cells
import NoteChart.Proofs.Channel
import NoteChart.Proofs.Gauge.Dominance
import NoteChart.Proofs.Gauge.AutoShift
import NoteChart.Proofs.Gauge.Update
import NoteChart.Proofs.Limits
import NoteChart.Proofs.Measure
import NoteChart.Proofs.Play.Account
import NoteChart.Proofs.Play.Autoplay
import NoteChart.Proofs.Play.Exhausting
import NoteChart.Proofs.Play.Flags
import NoteChart.Proofs.Play.Judging
import NoteChart.Proofs.Play.Move
import NoteChart.Proofs.Play.Replaying
import NoteChart.Proofs.Play.Survival
import NoteChart.Proofs.Play.Sweep
import NoteChart.Proofs.Play.Tally
import NoteChart.Proofs.Play.Ticking
import NoteChart.Proofs.Roll
import NoteChart.Proofs.Routing
import NoteChart.Proofs.Source.Reading
import NoteChart.Proofs.Standstill
import NoteChart.Proofs.Timeline
import NoteChart.Proofs.Binary64.Distance
import NoteChart.Proofs.Play.Searching
import NoteChart.Proofs.KeyOrder
import NoteChart.Proofs.Play.Rearranging
import NoteChart.Proofs.Play.Lanes
import NoteChart.Proofs.Interleaving
import NoteChart.Proofs.Play.Failing
import NoteChart.Proofs.Play.Background
import NoteChart.Proofs.Causality
import NoteChart.Proofs.Source.Joining
import NoteChart.Proofs.Play.Restarting
import NoteChart.Proofs.Play.Scoring
import NoteChart.Proofs.Decimal.Digits
import NoteChart.Proofs.Decimal.Shortest
import NoteChart.Proofs.Json.Forms
import NoteChart.Proofs.Json.Literals
import NoteChart.Proofs.Json.Numbers
import NoteChart.Proofs.Json.Rendering
import NoteChart.Proofs.Json.RoundTrip
import NoteChart.Proofs.Json.Shape
import NoteChart.Proofs.Play.Clearing
import NoteChart.Proofs.Play.FullCombo
import NoteChart.Proofs.Play.Progress
import NoteChart.Proofs.CellOrder
import NoteChart.Proofs.Play.LogOrder
import NoteChart.Proofs.Play.Faultless
import NoteChart.Proofs.Fronts
import NoteChart.Proofs.Gauge.Bounds
import NoteChart.Proofs.Gauge.Fairness
import NoteChart.Proofs.Play.Scorebook
import NoteChart.Proofs.Binary64.Tenfold
import NoteChart.Proofs.Density
import NoteChart.Proofs.Source.Faults
import NoteChart.Proofs.Source.WellFormed
import NoteChart.Proofs.Source.Bytes
import NoteChart.Proofs.Tempo
import NoteChart.Proofs.Modifiers
import NoteChart.Proofs.Gauge.Settling
import NoteChart.Proofs.Source.Noise
import NoteChart.Proofs.Text.Utf8
import NoteChart.Proofs.Text.Decoding
import NoteChart.Proofs.UsedLanes
import NoteChart.Proofs.Grade
import NoteChart.Proofs.Lamp
import NoteChart.Proofs.Play.Cursor
import NoteChart.Proofs.Windows
import NoteChart.Proofs.Building
