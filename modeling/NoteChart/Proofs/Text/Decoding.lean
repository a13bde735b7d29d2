import NoteChart.Text.Decoding
import NoteChart.Proofs.Text.Utf8

/-!
Files in UTF-8. Whatever the other encodings are that a file may be tried as, one in UTF-8 is not tried
as any of them, and where a mark at the start promises UTF-8 nothing has to be replaced.
-/
namespace NoteChart.Text

/-- A reading as UTF-8 if that meets no error, else as the first of two other readings that meets
none, else as the first of them with replacements. -/
def decodeElse (first second : List UInt8 → List (Option Char)) (bytes : List UInt8) : List Char :=
  match clean? (Utf8.decode bytes) with
  | some text => text
  | none =>
    match clean? (first bytes) with
    | some text => text
    | none =>
      match clean? (second bytes) with
      | some text => text
      | none => patched (first bytes)

theorem decodeUnmarked_eq : decodeUnmarked =
    decodeElse (heedingMark Japanese.ShiftJis.decode) (heedingMark Japanese.EucJp.decode) := rfl

@[simp] theorem clean?_some (text : List Char) : clean? (text.map some) = some text := by
  induction text with
  | nil => rfl
  | cons c rest ih => simp [clean?, ih]

@[simp] theorem patched_some (text : List Char) : patched (text.map some) = text := by
  unfold patched
  rw [List.map_map]
  exact List.map_id text

theorem decodeElse_encode (first second : List UInt8 → List (Option Char)) (text : List Char) :
    decodeElse first second (Utf8.encode text) = text := by
  simp [decodeElse, Utf8.decode_encode]

theorem encode_mark {text : List Char} {body : List UInt8}
    (marked : Utf8.encode text = 0xEF :: 0xBB :: 0xBF :: body) : text.head? = some '\uFEFF' := by
  have read : text.map some = some (Utf8.join3 0xEF 0xBB 0xBF) :: Utf8.decode body := by
    rw [← Utf8.decode_encode, marked]
    exact Utf8.decode_three (by decide) (by decide) (by decide) body
  obtain ⟨c, rest, rfl, same, -⟩ := List.map_eq_cons_iff.mp read
  rw [Option.some.inj same]
  change some (Utf8.join3 0xEF 0xBB 0xBF) = some '\uFEFF'
  decide

theorem decodeFile_unmarked {bytes : List UInt8}
    (unmarked : ∀ body, bytes ≠ 0xEF :: 0xBB :: 0xBF :: body) :
    decodeFile bytes = decodeUnmarked bytes := by
  unfold decodeFile
  split
  · exact absurd rfl (unmarked _)
  · rfl

/-- A text that was written in UTF-8 is read back from its file, after the mark of UTF-8 and also
without it, unless the text itself begins with that character. No error is met, so the other
encodings play no part, whatever they would read, and nothing is replaced. -/
theorem decodeFile_encode (text : List Char) :
    decodeFile (0xEF :: 0xBB :: 0xBF :: Utf8.encode text) = text ∧
      (text.head? ≠ some '\uFEFF' → decodeFile (Utf8.encode text) = text) ∧
      (∀ first second, decodeElse first second (Utf8.encode text) = text) ∧
      Utf8.decode (Utf8.encode text) = text.map some := by
  refine ⟨?_, ?_, fun first second => decodeElse_encode first second text,
    Utf8.decode_encode text⟩
  · change patched (Utf8.decode (Utf8.encode text)) = text
    rw [Utf8.decode_encode, patched_some]
  · intro plain
    rw [decodeFile_unmarked fun body marked => plain (encode_mark marked), decodeUnmarked_eq,
      decodeElse_encode]

theorem decodeFile_encode_of_each_length :
    ['a', 'é', 'あ', '😀'].head? ≠ some '\uFEFF' ∧
      decodeFile [0x61, 0xC3, 0xA9, 0xE3, 0x81, 0x82, 0xF0, 0x9F, 0x98, 0x80] =
        ['a', 'é', 'あ', '😀'] ∧
      decodeFile [0xEF, 0xBB, 0xBF, 0xEF, 0xBB, 0xBF] = ['\uFEFF'] := by
  have plain : ['a', 'é', 'あ', '😀'].head? ≠ some '\uFEFF' := by decide
  obtain ⟨-, unmarked, -, -⟩ := decodeFile_encode ['a', 'é', 'あ', '😀']
  obtain ⟨marked, -, -, -⟩ := decodeFile_encode ['\uFEFF']
  exact ⟨plain, unmarked plain, marked⟩

end NoteChart.Text
