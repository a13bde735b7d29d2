import NoteChart.Proofs.Timeline
import NoteChart.Proofs.Windows

/-!
A roll: any number of lines with the same note at the start of the first measure. All its notes are
at time 0.
-/
namespace NoteChart

open Text Binary64

def rollText (n : Nat) : String :=
  String.ofList (List.replicate n "#00011:01\n".toList).flatten

def rollRow (line : Nat) : Row := ⟨0x11, "01", line⟩

def rollSource (n : Nat) : Source := ⟨(List.range' 1 n).map fun line => .row 0 (rollRow line)⟩

def rollNote : Note := ⟨0.0, 0x11, ⟨.p1, .key 1⟩, ⟨1⟩⟩

theorem lines_roll (n : Nat) :
    lines (List.replicate n "#00011:01\n".toList).flatten =
      List.replicate n "#00011:01".toList := by
  induction n with
  | zero => rfl
  | succ n ih =>
    rw [List.replicate_succ, List.flatten_cons, List.replicate_succ, ← ih]
    rfl

theorem read_roll (line : Nat) :
    Statement.read line "#00011:01".toList = .ok (some (.row 0 (rollRow line))) := rfl

theorem readAll_roll (n line : Nat) :
    Statement.readAll line (List.replicate n "#00011:01".toList) =
      .ok ((List.range' line n).map fun line => .row 0 (rollRow line)) := by
  induction n generalizing line with
  | zero => rfl
  | succ n ih =>
    rw [List.replicate_succ, Statement.readAll, read_roll, ih]
    rfl

theorem parse_roll (n : Nat) : Source.parse (rollText n) = .ok (rollSource n) := by
  unfold Source.parse rollText
  rw [String.toList_ofList, lines_roll, readAll_roll]
  rfl

def rollCell : Cell := ⟨.note ⟨.p1, .key 1⟩, 0x11, 1, 0.0⟩

theorem rollRow_cells (line : Nat) : (rollRow line).cells = [rollCell] := by
  have raw : (rollRow 0).rawCells = [(0x30, 0x31)] := by decide +kernel
  have content : Content.ofChannel 0x11 = .note ⟨.p1, .key 1⟩ := by decide +kernel
  have value : cellValue? (.note ⟨.p1, .key 1⟩) (0x30, 0x31) = some 1 := by decide +kernel
  have position : Float.ofNat 0 / Float.ofNat 1 = 0.0 := by decide +kernel
  have same : (rollRow line).rawCells = [(0x30, 0x31)] := raw
  have kind : (rollRow line).content = .note ⟨.p1, .key 1⟩ := content
  unfold Row.cells
  rw [same, kind]
  simp only [List.zipIdx_cons, List.zipIdx_nil, List.filterMap_cons, List.filterMap_nil,
    Row.cellAt?, kind, value, List.length_singleton, position]
  rfl

theorem measureCells_roll (lines : List Nat) :
    measureCells (lines.map rollRow) = List.replicate lines.length rollCell := by
  have byChannel : (lines.map rollRow).mergeSort (fun a b => a.channel ≤ b.channel) =
      lines.map rollRow := by
    apply List.mergeSort_of_pairwise
    rw [List.pairwise_map]
    exact List.pairwise_of_forall fun _ _ => by simp [rollRow]
  have cells : (lines.map rollRow).flatMap Row.cells = List.replicate lines.length rollCell := by
    simp only [List.flatMap_map, rollRow_cells]
    rw [← List.map_eq_flatMap, List.map_const']
  have inOrder : (List.replicate lines.length rollCell).Pairwise
      fun a b => a.precedes b = true := by
    rw [List.pairwise_replicate]
    exact Or.inr (by decide +kernel)
  unfold measureCells
  dsimp only
  rw [byChannel, cells, List.mergeSort_of_pairwise inOrder]

theorem rollSource_rows (n : Nat) : (rollSource n).rows 0 = (List.range' 1 n).map rollRow := by
  simp [rollSource, Source.rows, List.filterMap_map, Function.comp_def, Statement.row?]

theorem rollSource_tempo (n : Nat) : (rollSource n).initialTempo = defaultTempo := by
  simp [rollSource, Source.initialTempo, Source.header?, List.filterMap_map, Function.comp_def,
    Statement.header?]

theorem measureLength_roll (lines : List Nat) : measureLength (lines.map rollRow) = 1.0 := by
  have none : (lines.map rollRow).filter (fun row => row.content = .measureLength) = [] := by
    refine List.filter_eq_nil_iff.mpr ?_
    intro row inside
    obtain ⟨line, -, rfl⟩ := List.mem_map.mp inside
    have content : (rollRow line).content = (rollRow 0).content := rfl
    rw [content]
    decide +kernel
  simp [measureLength, none]

theorem walkCells_roll (source : Source) (n : Nat) {clock : Clock}
    (still : clock.pass (measureSpan (rollCell.position - 0.0) 1.0 clock.bpm) = clock) :
    walkCells source 1.0 (List.replicate n rollCell) 0.0 clock =
      (List.replicate n (.note { rollNote with time := clock.time }),
        clock.pass (measureSpan (1.0 - 0.0) 1.0 clock.bpm)) := by
  induction n with
  | zero => rfl
  | succ n ih =>
    rw [List.replicate_succ, List.replicate_succ, walkCells]
    dsimp only
    rw [still]
    change (_ ++ (walkCells source 1.0 (List.replicate n rollCell) 0.0 clock).1,
      (walkCells source 1.0 (List.replicate n rollCell) 0.0 clock).2) = _
    rw [ih]
    rfl

theorem rollSource_measures (n : Nat) :
    (rollSource (n + 1)).measures = [0] := by
  have all : (rollSource (n + 1)).statements.filterMap Statement.measure? =
      List.replicate (n + 1) 0 := by
    simp [rollSource, List.filterMap_map, Function.comp_def, Statement.measure?,
      List.map_const', List.length_range']
  have last : (rollSource (n + 1)).lastMeasure? = some 0 := by
    rw [Source.lastMeasure?, all, List.max?_replicate_of_pos (Nat.succ_pos n)]
  rw [Source.measures, last]
  rfl

theorem roll_notes (n : Nat) :
    (Chart.ofSource (rollSource n)).notes = List.replicate n rollNote := by
  change (rollSource n).timeline.1.filterMap Event.note? = _
  cases n with
  | zero => rfl
  | succ n =>
    have walk : (rollSource (n + 1)).timeline.1 =
        (walkMeasure (rollSource (n + 1)) 0 ⟨0.0, defaultTempo⟩).1 ++ [] := by
      rw [Source.timeline, rollSource_measures, rollSource_tempo]
      rfl
    have still : (⟨0.0, defaultTempo⟩ : Clock).pass
        (measureSpan (rollCell.position - 0.0) 1.0 defaultTempo) = ⟨0.0, defaultTempo⟩ := by
      decide +kernel
    rw [walk, walkMeasure, rollSource_rows, measureCells_roll, measureLength_roll,
      walkCells_roll _ _ still, List.length_range', List.append_nil]
    exact List.filterMap_replicate_of_some rfl

theorem roll_fits (n : Nat) :
    Density.overflows ((Chart.ofSource (rollSource n)).notes.map Note.time) = false := by
  rw [roll_notes, List.map_replicate]
  refine Density.not_overflows ?_ ?_
  · exact List.pairwise_replicate.mpr (Or.inr (Binary64.le_refl Binary64.isNumber_zero))
  · intro t inside
    rw [List.eq_of_mem_replicate inside]
    decide +kernel

theorem ofText_roll (arithmetic : Chart.Arithmetic) (n : Nat) :
    ∃ chart, Chart.ofText arithmetic (rollText n) = .ok chart ∧
      chart.notes = List.replicate n rollNote ∧ chart.noteCount = n ∧ chart.rank = defaultRank := by
  have rank : (rollSource n).rank = defaultRank := by
    simp [rollSource, Source.rank, Source.header?, List.filterMap_map, Function.comp_def,
      Statement.header?]
  have notes := roll_notes n
  have count : (Chart.ofSource (rollSource n)).noteCount = n := by
    change (Chart.ofSource (rollSource n)).notes.length = n
    rw [notes, List.length_replicate]
  obtain ⟨md5, sha256, made⟩ := Chart.ofText_of_parse arithmetic (parse_roll n) (roll_fits n)
  exact ⟨_, made, notes, count, rank⟩

theorem roll_times {chart : Chart} {n : Nat} (notes : chart.notes = List.replicate n rollNote) :
    ∀ t ∈ chart.notes.map Note.time, t = 0.0 := by
  rw [notes, List.map_replicate]
  intro t inside
  rw [List.eq_of_mem_replicate inside]
  rfl

theorem roll_early {chart : Chart} {n : Nat} (notes : chart.notes = List.replicate n rollNote) :
    ∀ note ∈ chart.notes, note.time < 1e12 := by
  intro note inside
  rw [roll_times notes _ (List.mem_map_of_mem inside)]
  decide +kernel

theorem roll_sorted {chart : Chart} {n : Nat} (notes : chart.notes = List.replicate n rollNote) :
    (chart.notes.map Note.time).Pairwise (· ≤ ·) := by
  rw [notes, List.map_replicate, List.pairwise_replicate]
  exact Or.inr (Binary64.le_refl isNumber_zero)

end NoteChart
