import NoteChart.Text.Utf8
import NoteChart.Text.Utf16
import NoteChart.Text.Japanese.ShiftJis
import NoteChart.Text.Japanese.EucJp

/-!
Chart files carry no note of their encoding. A UTF-8 mark at the start settles it; otherwise the
first of UTF-8, Shift_JIS and EUC-JP that reads the file without an error is taken, and
Shift_JIS with replacement characters if none does.
-/
namespace NoteChart.Text

def clean? : List (Option Char) → Option (List Char)
  | [] => some []
  | some c :: rest => (clean? rest).map (c :: ·)
  | none :: _ => none

def patched (read : List (Option Char)) : List Char := read.map (·.getD '\uFFFD')

/-- A UTF-16 mark at the start overrules the decoder that was asked for. -/
def heedingMark (decode : List UInt8 → List (Option Char)) : List UInt8 → List (Option Char)
  | 0xFF :: 0xFE :: body => Utf16.decode .little body
  | 0xFE :: 0xFF :: body => Utf16.decode .big body
  | bytes => decode bytes

def decodeUnmarked (bytes : List UInt8) : List Char :=
  let shiftJis := heedingMark Japanese.ShiftJis.decode bytes
  match clean? (Utf8.decode bytes) with
  | some text => text
  | none =>
    match clean? shiftJis with
    | some text => text
    | none =>
      match clean? (heedingMark Japanese.EucJp.decode bytes) with
      | some text => text
      | none => patched shiftJis

def decodeFile : List UInt8 → List Char
  | 0xEF :: 0xBB :: 0xBF :: body => patched (Utf8.decode body)
  | bytes => decodeUnmarked bytes

end NoteChart.Text
