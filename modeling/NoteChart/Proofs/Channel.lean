import NoteChart.Channel

/-!
What channels mean. The sixteen lanes and seven more channels have cells; each of these channels has
one content, and no other channel shares it.
-/
namespace NoteChart

def Lane.ofChannel? (channel : UInt16) : Option Lane :=
  Lane.all.find? fun lane => lane.channel = channel

theorem Lane.ofChannel?_channel {channel : UInt16} {lane : Lane}
    (found : ofChannel? channel = some lane) : lane.channel = channel := by
  have same := List.find?_some found
  exact of_decide_eq_true same

def Layer.channels : List (UInt16 × Layer) := [(0x04, .base), (0x06, .poor), (0x07, .overlay)]

def Layer.ofChannel? (channel : UInt16) : Option Layer := Layer.channels.lookup channel

/-- The channels whose cells stand at positions in a measure. -/
def cellChannels : List UInt16 :=
  [0x01, 0x03, 0x04, 0x06, 0x07, 0x08, 0x09] ++ Lane.all.map Lane.channel

namespace Content

def played? : Content → Option Lane
  | .note lane => some lane
  | _ => none

def shown? : Content → Option Layer
  | .image layer => some layer
  | _ => none

theorem lane?_mem {channel : UInt16} {lane : Lane} (found : lane? channel = some lane) :
    lane ∈ Lane.all ∧ lane.channel = channel := by
  have whole {side role : UInt16} (high : channel / 16 = side) (low : channel % 16 = role) :
      channel = .ofNat (side.toNat * 16 + role.toNat) := by
    rw [← high, ← low, UInt16.toNat_div, UInt16.toNat_mod]
    exact (UInt16.ofNat_toNat.symm.trans (congrArg _ (Nat.div_add_mod' _ _).symm))
  unfold lane? at found
  dsimp only at found
  split at found
  · rename_i side role side_found role_found
    cases found
    split at side_found
    all_goals cases side_found
    all_goals
      rename_i high
      split at role_found
      all_goals cases role_found
      all_goals
        rename_i low
        rw [whole high low]
        decide
  · cases found

theorem lane?_listed : ∀ lane ∈ Lane.all, lane? lane.channel = some lane := by
  decide

theorem listed_lane : ∀ lane ∈ Lane.all, Lane.ofChannel? lane.channel = some lane ∧
    Layer.ofChannel? lane.channel = none ∧ lane.channel ∉ [0x01, 0x03, 0x08, 0x09] := by
  decide

theorem listed_layer : ∀ entry ∈ Layer.channels, Lane.ofChannel? entry.1 = none ∧
    Layer.ofChannel? entry.1 = some entry.2 ∧ entry.1 ∉ [0x01, 0x03, 0x08, 0x09] := by
  decide

inductive IsOf (channel : UInt16) : Content → Prop
  | sound (code : channel = 0x01) : IsOf channel .sound
  | measureLength (code : channel = 0x02) : IsOf channel .measureLength
  | tempoValue (code : channel = 0x03) : IsOf channel .tempoValue
  | image {layer : Layer} (code : (channel, layer) ∈ Layer.channels) : IsOf channel (.image layer)
  | tempoName (code : channel = 0x08) : IsOf channel .tempoName
  | stopName (code : channel = 0x09) : IsOf channel .stopName
  | note {lane : Lane} (listed : lane ∈ Lane.all) (code : channel = lane.channel) :
    IsOf channel (.note lane)
  | nothing (other : channel ∉ 0x02 :: cellChannels) : IsOf channel .nothing

theorem ofChannel_isOf (channel : UInt16) : IsOf channel (ofChannel channel) := by
  unfold ofChannel
  split
  · exact .sound rfl
  · exact .measureLength rfl
  · exact .tempoValue rfl
  · exact .image (by decide)
  · exact .image (by decide)
  · exact .image (by decide)
  · exact .tempoName rfl
  · exact .stopName rfl
  · split
    · rename_i lane found
      obtain ⟨listed, same⟩ := lane?_mem found
      exact .note listed same.symm
    · rename_i missing
      refine .nothing ?_
      intro inside
      rcases List.mem_cons.mp inside with length | inside
      · contradiction
      · rcases List.mem_append.mp inside with other | lane
        · simp_all
        · obtain ⟨known, listed, rfl⟩ := List.mem_map.mp lane
          rw [lane?_listed known listed] at missing
          cases missing

namespace IsOf

variable {channel : UInt16} {content : Content}

theorem hasCells (found : IsOf channel content) :
    content.hasCells = true ↔ channel ∈ cellChannels := by
  cases found with
  | sound code => simp [code, Content.hasCells, cellChannels]
  | measureLength code =>
    rw [code]
    decide
  | tempoValue code => simp [code, Content.hasCells, cellChannels]
  | image code =>
    refine iff_of_true rfl (List.mem_append_left _ ?_)
    simp only [Layer.channels, List.mem_cons, Prod.mk.injEq, List.not_mem_nil, or_false] at code
    rcases code with ⟨rfl, -⟩ | ⟨rfl, -⟩ | ⟨rfl, -⟩ <;> decide
  | tempoName code => simp [code, Content.hasCells, cellChannels]
  | stopName code => simp [code, Content.hasCells, cellChannels]
  | note listed code =>
    rw [code]
    exact iff_of_true rfl (List.mem_append_right _ (List.mem_map_of_mem listed))
  | nothing other =>
    refine iff_of_false (by decide) ?_
    intro inside
    exact other (List.mem_cons_of_mem _ inside)

theorem lane (found : IsOf channel content) : Lane.ofChannel? channel = content.played? := by
  cases found with
  | sound code => rw [code]; rfl
  | measureLength code => rw [code]; rfl
  | tempoValue code => rw [code]; rfl
  | image code => exact (listed_layer _ code).1
  | tempoName code => rw [code]; rfl
  | stopName code => rw [code]; rfl
  | note listed code =>
    rw [code]
    exact (listed_lane _ listed).1
  | nothing other =>
    refine List.find?_eq_none.mpr ?_
    intro lane listed same
    refine other (List.mem_cons_of_mem _ (List.mem_append_right _ ?_))
    rw [← of_decide_eq_true same]
    exact List.mem_map_of_mem listed

theorem layer (found : IsOf channel content) : Layer.ofChannel? channel = content.shown? := by
  cases found with
  | sound code => rw [code]; rfl
  | measureLength code => rw [code]; rfl
  | tempoValue code => rw [code]; rfl
  | image code => exact (listed_layer _ code).2.1
  | tempoName code => rw [code]; rfl
  | stopName code => rw [code]; rfl
  | note listed code =>
    rw [code]
    exact (listed_lane _ listed).2.1
  | nothing other =>
    have listed : ∀ entry ∈ Layer.channels, entry.1 ∈ 0x02 :: cellChannels := by decide
    refine List.lookup_eq_none_iff.mpr ?_
    intro entry inside
    rw [bne_iff_ne]
    rintro rfl
    exact other (listed entry inside)

theorem code (found : IsOf channel content) :
    (channel = 0x01 ↔ content = .sound) ∧ (channel = 0x03 ↔ content = .tempoValue) ∧
      (channel = 0x08 ↔ content = .tempoName) ∧ (channel = 0x09 ↔ content = .stopName) := by
  cases found with
  | sound code => simp [code]
  | measureLength code => simp [code]
  | tempoValue code => simp [code]
  | image code => simpa using (listed_layer _ code).2.2
  | tempoName code => simp [code]
  | stopName code => simp [code]
  | note listed code =>
    rw [code]
    simpa using (listed_lane _ listed).2.2
  | nothing other =>
    simp [cellChannels] at other
    simp [other]

theorem length (found : IsOf channel content) : channel = 0x02 ↔ content = .measureLength := by
  have lanes : ∀ lane ∈ Lane.all, lane.channel ≠ 0x02 := by decide
  have layers : ∀ entry ∈ Layer.channels, entry.1 ≠ 0x02 := by decide
  cases found with
  | sound code => simp [code]
  | measureLength code => simp [code]
  | tempoValue code => simp [code]
  | image code => simpa using layers _ code
  | tempoName code => simp [code]
  | stopName code => simp [code]
  | note listed code =>
    rw [code]
    simpa using lanes _ listed
  | nothing other =>
    rw [List.mem_cons, not_or] at other
    simp [other.1]

end IsOf
end Content
end NoteChart
