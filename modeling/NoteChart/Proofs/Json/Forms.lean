import NoteChart.Json.Chart
import NoteChart.Json.Config
import NoteChart.Json.Result
import NoteChart.Proofs.Gauge.AutoShift
import NoteChart.Proofs.Json.Shape

/-!
Charts, settings and results are read back from their JSON forms, as long as their doubles are
finite. Of the settings every field is written, so no default is used; and the gauges at the end of
a play are read back whether they are on record or not.
-/
namespace NoteChart

open Json

@[simp] theorem Side.ofJson?_toJson (side : Side) : ofJson? side.toJson = some side := by
  cases side <;> rfl

@[simp] theorem Role.ofJson?_toJson (role : Role) : ofJson? role.toJson = some role := by
  cases role with
  | scratch => rfl
  | key n =>
    change (Json.nat n.toNat).uint8?.map key = _
    rw [uint8?_nat]
    rfl

@[simp] theorem Lane.ofJson?_toJson (lane : Lane) : ofJson? lane.toJson = some lane := by
  rw [ofJson?, toJson]
  refine (fields?_bind (by rfl) (by decide) _).trans ?_
  refine (Fields.required_bind rfl (Side.ofJson?_toJson _) _).trans ?_
  refine (Fields.required_bind rfl (Role.ofJson?_toJson _) _).trans ?_
  rfl

@[simp] theorem Layer.ofJson?_toJson (layer : Layer) : ofJson? layer.toJson = some layer := by
  cases layer <;> rfl

@[simp] theorem ObjectId.ofJson?_toJson (id : ObjectId) : ofJson? id.toJson = some id := by
  simp [ofJson?, toJson]

theorem Note.ofJson?_toJson {note : Note} (finite : note.time.isFinite = true) :
    ofJson? note.toJson = some note := by
  rw [ofJson?, toJson]
  refine (fields?_bind (by rfl) (by decide) _).trans ?_
  refine (Fields.required_bind rfl (float?_ofFloat finite) _).trans ?_
  refine (Fields.required_bind rfl (uint16?_nat _) _).trans ?_
  refine (Fields.required_bind rfl (Lane.ofJson?_toJson _) _).trans ?_
  refine (Fields.required_bind rfl (ObjectId.ofJson?_toJson _) _).trans ?_
  rfl

theorem Sound.ofJson?_toJson {sound : Sound} (finite : sound.time.isFinite = true) :
    ofJson? sound.toJson = some sound := by
  rw [ofJson?, toJson]
  refine (fields?_bind (by rfl) (by decide) _).trans ?_
  refine (Fields.required_bind rfl (float?_ofFloat finite) _).trans ?_
  refine (Fields.required_bind rfl (ObjectId.ofJson?_toJson _) _).trans ?_
  rfl

theorem Picture.ofJson?_toJson {picture : Picture} (finite : picture.time.isFinite = true) :
    ofJson? picture.toJson = some picture := by
  rw [ofJson?, toJson]
  refine (fields?_bind (by rfl) (by decide) _).trans ?_
  refine (Fields.required_bind rfl (float?_ofFloat finite) _).trans ?_
  refine (Fields.required_bind rfl (Layer.ofJson?_toJson _) _).trans ?_
  refine (Fields.required_bind rfl (ObjectId.ofJson?_toJson _) _).trans ?_
  rfl

theorem TempoChange.ofJson?_toJson {change : TempoChange} (time : change.time.isFinite = true)
    (bpm : change.bpm.isFinite = true) : ofJson? change.toJson = some change := by
  rw [ofJson?, toJson]
  refine (fields?_bind (by rfl) (by decide) _).trans ?_
  refine (Fields.required_bind rfl (float?_ofFloat time) _).trans ?_
  refine (Fields.required_bind rfl (float?_ofFloat bpm) _).trans ?_
  rfl

theorem Freeze.ofJson?_toJson {freeze : Freeze} (time : freeze.time.isFinite = true)
    (duration : freeze.duration.isFinite = true) : ofJson? freeze.toJson = some freeze := by
  rw [ofJson?, toJson]
  refine (fields?_bind (by rfl) (by decide) _).trans ?_
  refine (Fields.required_bind rfl (float?_ofFloat time) _).trans ?_
  refine (Fields.required_bind rfl (float?_ofFloat duration) _).trans ?_
  rfl

namespace Chart

def figures (chart : Chart) : List Float :=
  [chart.initialTempo, chart.minTempo, chart.maxTempo, chart.mainTempo, chart.middleTempo,
    chart.total, chart.duration, chart.startDensity, chart.averageDensity, chart.peakDensity]

def floats (chart : Chart) : List Float :=
  chart.notes.map Note.time ++ chart.sounds.map Sound.time ++ chart.pictures.map Picture.time ++
    chart.tempoChanges.flatMap (fun change => [change.time, change.bpm]) ++
    chart.freezes.flatMap (fun freeze => [freeze.time, freeze.duration]) ++ chart.figures

/-- All doubles of the chart are finite, and its notes are counted by a word. -/
structure IsWritable (chart : Chart) : Prop where
  finite : ∀ x ∈ chart.floats, x.isFinite = true
  counted : chart.noteCount < UInt64.size

theorem ofJson?_toJson {chart : Chart} (writable : chart.IsWritable) :
    ofJson? chart.toJson = some chart := by
  obtain ⟨finite, counted⟩ := writable
  simp only [floats, List.forall_mem_append, List.forall_mem_map, List.forall_mem_flatMap] at finite
  obtain ⟨⟨⟨⟨⟨notes, sounds⟩, pictures⟩, changes⟩, freezes⟩, figures⟩ := finite
  have notes := list?_ofList fun note inside => Note.ofJson?_toJson (notes note inside)
  have sounds := list?_ofList fun sound inside => Sound.ofJson?_toJson (sounds sound inside)
  have pictures := list?_ofList fun picture inside =>
    Picture.ofJson?_toJson (pictures picture inside)
  have changes := list?_ofList fun change inside =>
    TempoChange.ofJson?_toJson (changes change inside _ (by simp))
      (changes change inside _ (by simp))
  have freezes := list?_ofList fun freeze inside =>
    Freeze.ofJson?_toJson (freezes freeze inside _ (by simp)) (freezes freeze inside _ (by simp))
  simp only [Chart.figures, List.forall_mem_cons] at figures
  have distinct : fieldNames.Nodup := by decide +kernel
  rw [ofJson?, toJson]
  refine (fields?_bind (by rfl) distinct _).trans ?_
  rw [ofFields?]
  iterate 4 refine (Fields.required_bind rfl (text?_text _) _).trans ?_
  refine (Fields.required_bind rfl (uint32?_nat _) _).trans ?_
  refine (Fields.required_bind rfl notes _).trans ?_
  refine (Fields.required_bind rfl sounds _).trans ?_
  refine (Fields.required_bind rfl pictures _).trans ?_
  refine (Fields.required_bind rfl changes _).trans ?_
  refine (Fields.required_bind rfl freezes _).trans ?_
  iterate 5 refine (Fields.required_bind rfl (float?_ofFloat (by simp [figures])) _).trans ?_
  refine (Fields.required_bind rfl (uint8?_nat _) _).trans ?_
  refine (Fields.required_bind rfl (float?_ofFloat (by simp [figures])) _).trans ?_
  refine (Fields.required_bind rfl (below?_nat counted) _).trans ?_
  iterate 4 refine (Fields.required_bind rfl (float?_ofFloat (by simp [figures])) _).trans ?_
  iterate 2 refine (Fields.required_bind rfl (text?_text _) _).trans ?_
  rfl

end Chart

@[simp] theorem GaugeKind.ofJson?_toJson (kind : GaugeKind) : ofJson? kind.toJson = some kind := by
  cases kind <;> rfl

namespace JudgeWindows

def floats (windows : JudgeWindows) : List Float :=
  [windows.pgreat, windows.great, windows.good, windows.bad, windows.poor]

theorem ofJson?_toJson {windows : JudgeWindows}
    (finite : ∀ x ∈ windows.floats, x.isFinite = true) :
    ofJson? windows.toJson = some windows := by
  simp only [floats, List.forall_mem_cons] at finite
  rw [ofJson?, toJson]
  refine (fields?_bind (by rfl) (by decide) _).trans ?_
  iterate 5 refine (Fields.required_bind rfl (float?_ofFloat (by simp [finite])) _).trans ?_
  rfl

end JudgeWindows

namespace LaneModifier

@[simp] theorem ofJson?_toJson (modifier : LaneModifier) :
    ofJson? modifier.toJson = some modifier := by
  cases modifier with
  | identity => rfl
  | mirror => rfl
  | random seed =>
    have tag : Json.case? Tag.cases (.text "Random") = some .random := rfl
    rw [toJson, record, ofJson?, keepKnown?_record (by simp) (by simp), Option.bind_eq_bind,
      Option.bind_some]
    refine (Fields.required_bind rfl tag _).trans ?_
    change (Json.nat seed.toNat).uint64?.map random = _
    rw [uint64?_nat]
    rfl

end LaneModifier

namespace PlayConfig

def floats (config : PlayConfig) : List Float :=
  config.inputOffset :: config.windows?.toList.flatMap JudgeWindows.floats

theorem ofJson?_toJson {config : PlayConfig} (finite : ∀ x ∈ config.floats, x.isFinite = true) :
    ofJson? config.toJson = some config := by
  simp only [floats, List.forall_mem_cons, List.forall_mem_flatMap, Option.mem_toList] at finite
  obtain ⟨offset, windows⟩ := finite
  have windows : optional? JudgeWindows.ofJson? (.ofOption JudgeWindows.toJson config.windows?) =
      some config.windows? :=
    optional?_ofOption (fun w given => JudgeWindows.ofJson?_toJson (windows w given)) nofun
  have distinct : fieldNames.Nodup := by decide +kernel
  rw [ofJson?, toJson]
  refine (fields?_bind (by rfl) distinct _).trans ?_
  refine (Fields.withDefault_bind rfl (GaugeKind.ofJson?_toJson _) _).trans ?_
  refine (Fields.withDefault_bind rfl (bool?_bool _) _).trans ?_
  refine (Fields.withDefault_bind rfl (GaugeKind.ofJson?_toJson _) _).trans ?_
  refine (Fields.withDefault_bind rfl (bool?_bool _) _).trans ?_
  refine (Fields.withDefault_bind rfl (float?_ofFloat offset) _).trans ?_
  refine (Fields.withDefault_bind rfl windows _).trans ?_
  refine (Fields.withDefault_bind rfl (bool?_bool _) _).trans ?_
  refine (Fields.withDefault_bind rfl (LaneModifier.ofJson?_toJson _) _).trans ?_
  rfl

end PlayConfig

@[simp] theorem JudgeCounts.ofJson?_toJson (counts : JudgeCounts) :
    ofJson? counts.toJson = some counts := by
  rw [ofJson?, toJson]
  refine (fields?_bind (by rfl) (by decide) _).trans ?_
  iterate 5 refine (Fields.required_bind rfl (uint32?_nat _) _).trans ?_
  rfl

@[simp] theorem Lamp.ofJson?_toJson (lamp : Lamp) : ofJson? lamp.toJson = some lamp := by
  cases lamp <;> rfl

@[simp] theorem Grade.ofJson?_toJson (grade : Grade) : ofJson? grade.toJson = some grade := by
  cases grade <;> rfl

namespace PerGauge

theorem get_set {α : Type} (p : PerGauge α) (kind other : GaugeKind) (a : α) :
    (p.set kind a).get other = if other = kind then a else p.get other := by
  cases kind <;> cases other <;> rfl

theorem ext_get {α : Type} {p q : PerGauge α} (same : ∀ kind, p.get kind = q.get kind) : p = q := by
  obtain ⟨⟩ := p
  obtain ⟨⟩ := q
  simpa using ⟨same .assist, same .easy, same .groove, same .hard, same .exHard, same .hazard⟩

def members (values : PerGauge (Option Float)) (kinds : List GaugeKind) : List (String × Json) :=
  kinds.filterMap fun kind => (values.get kind).map fun value => (kind.name, .ofFloat value)

theorem enter?_members {values : PerGauge (Option Float)} (kinds : List GaugeKind)
    (finite : ∀ kind, ∀ x ∈ values.get kind, x.isFinite = true) (before : PerGauge (Option Float)) :
    ∃ after,
      before.enter? ((values.members kinds).map fun (name, value) => (some name, value)) =
        some after ∧
      ∀ kind, after.get kind =
        if kind ∈ kinds then (values.get kind).or (before.get kind) else before.get kind := by
  induction kinds generalizing before with
  | nil => exact ⟨before, rfl, fun kind => rfl⟩
  | cons first rest ih =>
    cases value : values.get first with
    | none =>
      obtain ⟨after, entered, each⟩ := ih before
      refine ⟨after, by simpa [members, value] using entered, ?_⟩
      intro kind
      rw [each]
      by_cases same : kind = first
      · simp [same, value]
      · simp [same]
    | some x =>
      obtain ⟨after, entered, each⟩ := ih (before.set first (some x))
      have named : GaugeKind.cases.lookup first.name = some first := by cases first <;> rfl
      have read := float?_ofFloat (finite first x value)
      refine ⟨after, by simpa [members, value, enter?, named, read] using entered, ?_⟩
      intro kind
      rw [each, get_set]
      by_cases same : kind = first
      · simp [same, value]
      · simp [same]

theorem ofJson?_toJson {values : PerGauge (Option Float)}
    (finite : ∀ kind, ∀ x ∈ values.get kind, x.isFinite = true) :
    ofJson? values.toJson = some values := by
  obtain ⟨after, entered, each⟩ := enter?_members GaugeKind.all finite (replicate none)
  have same : after = values := by
    refine ext_get fun kind => ?_
    have empty : (replicate (none : Option Float)).get kind = none := by cases kind <;> rfl
    rw [each, if_pos kind.mem_all, empty, Option.or_none]
  rw [same] at entered
  exact entered

end PerGauge

namespace PlayResult

def floats (result : PlayResult) : List Float :=
  result.finalGauges.toList.flatMap Option.toList

theorem ofJson?_toJson {result : PlayResult} (finite : ∀ x ∈ result.floats, x.isFinite = true) :
    ofJson? result.toJson = some result := by
  have gauges : PerGauge.ofJson? result.finalGauges.toJson = some result.finalGauges := by
    refine PerGauge.ofJson?_toJson fun kind x given => finite x ?_
    refine List.mem_flatMap.mpr ⟨result.finalGauges.get kind, ?_, Option.mem_toList.mpr given⟩
    cases kind <;> simp [PerGauge.toList, PerGauge.get]
  have distinct : fieldNames.Nodup := by decide +kernel
  rw [ofJson?, toJson, toFields]
  refine (fields?_bind (by rfl) distinct _).trans ?_
  refine (Fields.required_bind rfl (Lamp.ofJson?_toJson _) _).trans ?_
  refine (Fields.required_bind rfl (Grade.ofJson?_toJson _) _).trans ?_
  iterate 2 refine (Fields.required_bind rfl (uint32?_nat _) _).trans ?_
  refine (Fields.required_bind rfl (JudgeCounts.ofJson?_toJson _) _).trans ?_
  iterate 5 refine (Fields.required_bind rfl (uint32?_nat _) _).trans ?_
  refine (Fields.required_bind rfl (GaugeKind.ofJson?_toJson _) _).trans ?_
  refine (Fields.required_bind rfl gauges _).trans ?_
  refine (Fields.required_bind rfl (bool?_bool _) _).trans ?_
  rfl

end PlayResult
end NoteChart
