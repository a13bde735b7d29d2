import NoteChart.Proofs.Json.Forms
import NoteChart.Proofs.Json.Rendering

/-!
Charts, settings and results survive being written to a text and read again, on one line or over
several. Their forms are made of words, doubles, texts, lists and records alone, so the text is read
back as the form, and the form as what it was made from.
-/
namespace NoteChart

namespace Json

@[simp] theorem isPlain_text (s : String) : (text s).IsPlain := .text s

@[simp] theorem isPlain_bool (b : Bool) : (Json.bool b).IsPlain := .bool b

theorem isPlain_nat {n : Nat} (word : n < UInt64.size) : (nat n).IsPlain :=
  .integer (Int.le_trans (by decide) (Int.natCast_nonneg n)) (Int.ofNat_lt.mpr word)

@[simp] theorem isPlain_uint8 (n : UInt8) : (nat n.toNat).IsPlain :=
  isPlain_nat (n.toNat_lt_size.trans (by decide))

@[simp] theorem isPlain_uint16 (n : UInt16) : (nat n.toNat).IsPlain :=
  isPlain_nat (n.toNat_lt_size.trans (by decide))

@[simp] theorem isPlain_uint32 (n : UInt32) : (nat n.toNat).IsPlain :=
  isPlain_nat (n.toNat_lt_size.trans (by decide))

@[simp] theorem isPlain_uint64 (n : UInt64) : (nat n.toNat).IsPlain := isPlain_nat n.toNat_lt_size

@[simp] theorem isPlain_ofFloat (x : Float) : (ofFloat x).IsPlain := by
  unfold ofFloat
  split_ifs with finite
  · exact .real finite
  · exact .null

theorem isPlain_ofList {α : Type} {form : α → Json} (plain : ∀ a, (form a).IsPlain)
    (items : List α) : (ofList form items).IsPlain := by
  refine .array fun item inside => ?_
  obtain ⟨a, -, rfl⟩ := List.mem_map.mp inside
  exact plain a

theorem isPlain_ofOption {α : Type} {form : α → Json} (plain : ∀ a, (form a).IsPlain)
    (a? : Option α) : (ofOption form a?).IsPlain := by
  cases a? with
  | none => exact .null
  | some a => exact plain a

theorem IsPlain.parse? {j : Json} (plain : j.IsPlain) :
    ∀ text ∈ [j.compact, j.pretty], Json.parse? text = some j := by
  simp [Json.parse?, compact, pretty, parseChars?_render plain]

end Json

open Json

@[simp] theorem Lane.toJson_isPlain (lane : Lane) : lane.toJson.IsPlain := by
  have side : lane.side.toJson.IsPlain := by cases lane.side <;> exact .text _
  have role : lane.role.toJson.IsPlain := by
    cases lane.role with
    | scratch => exact .text _
    | key n => exact .record (by simp)
  exact .record (by simp [side, role])

@[simp] theorem Layer.toJson_isPlain (layer : Layer) : layer.toJson.IsPlain := by
  cases layer <;> exact .text _

@[simp] theorem ObjectId.toJson_isPlain (id : ObjectId) : id.toJson.IsPlain := isPlain_uint16 _

theorem Note.toJson_isPlain (note : Note) : note.toJson.IsPlain := .record (by simp)

theorem Sound.toJson_isPlain (sound : Sound) : sound.toJson.IsPlain := .record (by simp)

theorem Picture.toJson_isPlain (picture : Picture) : picture.toJson.IsPlain := .record (by simp)

theorem TempoChange.toJson_isPlain (change : TempoChange) : change.toJson.IsPlain :=
  .record (by simp)

theorem Freeze.toJson_isPlain (freeze : Freeze) : freeze.toJson.IsPlain := .record (by simp)

theorem Chart.toJson_isPlain {chart : Chart} (counted : chart.noteCount < UInt64.size) :
    chart.toJson.IsPlain :=
  .record (by simp [isPlain_ofList, isPlain_nat counted, Note.toJson_isPlain, Sound.toJson_isPlain,
    Picture.toJson_isPlain, TempoChange.toJson_isPlain, Freeze.toJson_isPlain])

@[simp] theorem GaugeKind.toJson_isPlain (kind : GaugeKind) : kind.toJson.IsPlain := .text _

theorem JudgeWindows.toJson_isPlain (windows : JudgeWindows) : windows.toJson.IsPlain :=
  .record (by simp)

theorem LaneModifier.toJson_isPlain (modifier : LaneModifier) : modifier.toJson.IsPlain := by
  cases modifier <;> exact .record (by simp)

theorem PlayConfig.toJson_isPlain (config : PlayConfig) : config.toJson.IsPlain :=
  .record (by simp [isPlain_ofOption, JudgeWindows.toJson_isPlain, LaneModifier.toJson_isPlain])

theorem JudgeCounts.toJson_isPlain (counts : JudgeCounts) : counts.toJson.IsPlain :=
  .record (by simp)

theorem PerGauge.toJson_isPlain (values : PerGauge (Option Float)) : values.toJson.IsPlain := by
  refine .record fun member inside => ?_
  obtain ⟨kind, -, given⟩ := List.mem_filterMap.mp inside
  obtain ⟨value, -, rfl⟩ := Option.map_eq_some_iff.mp given
  exact isPlain_ofFloat value

theorem PlayResult.toJson_isPlain (result : PlayResult) : result.toJson.IsPlain :=
  .record (by simp [toFields, Lamp.toJson, Grade.toJson, JudgeCounts.toJson_isPlain,
    PerGauge.toJson_isPlain])

/-- Charts, settings and results whose doubles are finite are read back from their texts. -/
theorem read_of_written :
    (∀ chart : Chart, chart.IsWritable →
      ∀ text ∈ [chart.toJson.compact, chart.toJson.pretty],
        (Json.parse? text).bind Chart.ofJson? = some chart) ∧
    (∀ config : PlayConfig, (∀ x ∈ config.floats, x.isFinite = true) →
      ∀ text ∈ [config.toJson.compact, config.toJson.pretty],
        (Json.parse? text).bind PlayConfig.ofJson? = some config) ∧
    (∀ result : PlayResult, (∀ x ∈ result.floats, x.isFinite = true) →
      ∀ text ∈ [result.toJson.compact, result.toJson.pretty],
        (Json.parse? text).bind PlayResult.ofJson? = some result) := by
  refine ⟨fun chart writable text either => ?_, fun config finite text either => ?_,
    fun result finite text either => ?_⟩
  · rw [(Chart.toJson_isPlain writable.counted).parse? text either, Option.bind_some]
    exact Chart.ofJson?_toJson writable
  · rw [config.toJson_isPlain.parse? text either, Option.bind_some]
    exact PlayConfig.ofJson?_toJson finite
  · rw [result.toJson_isPlain.parse? text either, Option.bind_some]
    exact PlayResult.ofJson?_toJson finite

theorem read_of_written_examples :
    let chart : Chart :=
      { Chart.empty with
        title := "\"A\" \\ B"
        notes := [{ time := 1000.5, channel := 0x11, lane := ⟨.p1, .key 1⟩, sample := ⟨1⟩ },
          { time := 1250.0, channel := 0x16, lane := ⟨.p1, .scratch⟩, sample := ⟨1295⟩ }]
        sounds := [{ time := 0.1, sample := ⟨2⟩ }]
        pictures := [{ time := -0.0, layer := .poor, image := ⟨3⟩ }]
        tempoChanges := [{ time := 500.0, bpm := 1e300 }]
        freezes := [{ time := 750.0, duration := 5e-324 }]
        noteCount := 2 }
    let config : PlayConfig :=
      { PlayConfig.standard with
        windows? := some ⟨20.0, 40.5, 105.0, 150.0, 150.0⟩
        modifier := .random 18446744073709551615 }
    let result : PlayResult :=
      { lamp := .normal, grade := .aaa, exScore := 4, maxExScore := 4, counts := ⟨2, 0, 0, 0, 0⟩
        fast := 1, slow := 0, maxCombo := 2, comboBreaks := 0, emptyPoors := 0
        activeGauge := .groove
        finalGauges := (PerGauge.replicate none).set .groove (some 80.1) |>.set .hard (some 0.0)
        failed := false }
    (Json.parse? chart.toJson.pretty).bind Chart.ofJson? = some chart ∧
      (Json.parse? config.toJson.compact).bind PlayConfig.ofJson? = some config ∧
      (Json.parse? result.toJson.pretty).bind PlayResult.ofJson? = some result := by
  intro chart config result
  exact ⟨read_of_written.1 chart ⟨by decide +kernel, by decide⟩ _ (by simp),
    read_of_written.2.1 config (by decide +kernel) _ (by simp),
    read_of_written.2.2 result (by decide +kernel) _ (by simp)⟩

end NoteChart
