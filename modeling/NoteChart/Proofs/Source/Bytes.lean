import NoteChart.Proofs.Source.WellFormed

/-!
Reading a text by its bytes. The form of a row can be told from places in the UTF-8 bytes of a line,
and its measure and data cut out at these places. A cut may fail, inside a character or past the
end; but the bytes in front of the places where a row is cut are ASCII, so they are characters of
their own and no cut fails: a text says by its bytes what it says by its characters.
-/
namespace NoteChart

open Text Decimal

namespace Text

def byteChar (b : UInt8) : Char := Char.ofNat b.toNat

/-- Cuts a text after so many bytes. There is no result inside a character, or past the end. -/
def cutAt? : Nat → List Char → Option (List Char × List Char)
  | 0, text => some ([], text)
  | _ + 1, [] => none
  | n + 1, c :: rest =>
    if c.utf8Size ≤ n + 1 then
      (cutAt? (n + 1 - c.utf8Size) rest).map fun (front, back) => (c :: front, back)
    else none

def digitsFirst : List UInt8 → Bool
  | a :: b :: c :: _ => isDigit (byteChar a) && isDigit (byteChar b) && isDigit (byteChar c)
  | _ => false

end Text

namespace Statement

def readRowBytes? (line : Nat) (text : List Char) :
    Option (Except SourceError (Option Statement)) :=
  match Utf8.encode text with
  | _ :: _ :: _ :: high :: low :: colon :: _ =>
    if byteChar colon = ':' then
      match hexDigit? (byteChar high), hexDigit? (byteChar low) with
      | some h, some l =>
        (cutAt? 3 text).bind fun (digits, _) =>
          match wholeNat? digits with
          | none => some (.ok none)
          | some measure =>
            (cutAt? 6 text).map fun (_, rest) =>
              let channel := UInt16.ofNat (h * 16 + l)
              let data := trim rest
              if data = [] then .ok none
              else if (Utf8.encode data).any fun b => (byteChar b).isAlphanum then
                .ok (some (.row measure { channel, data := String.ofList data, line }))
              else .error (.noCells line measure channel (String.ofList data))
      | _, _ => some (.ok none)
    else some (.ok none)
  | _ => some (.ok none)

def readBytes? (line : Nat) (text : List Char) : Option (Except SourceError (Option Statement)) :=
  match trim text with
  | '#' :: rest =>
    if digitsFirst (Utf8.encode rest) then readRowBytes? line rest
    else some (.ok (readHeader rest))
  | _ => some (.ok none)

def readAllBytes? (line : Nat) : List (List Char) → Option (Except SourceError (List Statement))
  | [] => some (.ok [])
  | text :: rest =>
    (readBytes? line text).bind fun
      | .error e => some (.error e)
      | .ok said => (readAllBytes? (line + 1) rest).map fun
        | .error e => .error e
        | .ok others => .ok (said.toList ++ others)

end Statement

/-- Reads a text by the bytes of its lines. There is no result if a cut fails. -/
def Source.parseBytes? (text : String) : Option (Except SourceError Source) :=
  (Statement.readAllBytes? 1 (lines text.toList)).map fun
    | .error e => .error e
    | .ok statements => .ok ⟨statements⟩

namespace Text

theorem byteChar_toNat (b : UInt8) : (byteChar b).toNat = b.toNat :=
  ofNat_toNat_of_lt (b.toNat_lt.trans (by decide))

theorem encodeChar_ascii {c : Char} (ascii : c.toNat < 0x80) :
    ∃ b, String.utf8EncodeChar c = [b] ∧ byteChar b = c := by
  refine ⟨.ofNat c.toNat, ?_, ?_⟩
  · simp only [String.utf8EncodeChar]
    exact if_pos (by change c.toNat ≤ 127; omega)
  · rw [byteChar, UInt8.toNat_ofNat_of_lt' (ascii.trans (by decide)), Char.ofNat_toNat]

theorem encodeChar_high {c : Char} (high : 0x80 ≤ c.toNat) :
    String.utf8EncodeChar c ≠ [] ∧ ∀ b ∈ String.utf8EncodeChar c, 0x80 ≤ b.toNat := by
  have beyond : ¬c.val.toNat ≤ 127 := by
    change ¬c.toNat ≤ 127
    omega
  simp only [String.utf8EncodeChar, beyond, if_false]
  split_ifs <;> simp [UInt8.toNat_ofNat'] <;> omega

theorem encode_cons_ascii {c : Char} (ascii : c.toNat < 0x80) (rest : List Char) :
    ∃ b, Utf8.encode (c :: rest) = b :: Utf8.encode rest ∧ byteChar b = c := by
  obtain ⟨b, one, same⟩ := encodeChar_ascii ascii
  exact ⟨b, by simp [Utf8.encode, one], same⟩

theorem encode_eq_cons {text : List Char} {b : UInt8} {bytes : List UInt8}
    (encoded : Utf8.encode text = b :: bytes) (ascii : (byteChar b).toNat < 0x80) :
    ∃ rest, text = byteChar b :: rest ∧ Utf8.encode rest = bytes := by
  rw [byteChar_toNat] at ascii
  cases text with
  | nil => cases encoded
  | cons c rest =>
    by_cases low : c.toNat < 0x80
    · obtain ⟨b', first, same⟩ := encode_cons_ascii low rest
      rw [first] at encoded
      cases encoded
      exact ⟨rest, by rw [same], rfl⟩
    · obtain ⟨some, high⟩ := encodeChar_high (Nat.le_of_not_lt low)
      obtain ⟨first, others, whole⟩ := List.exists_cons_of_ne_nil some
      rw [Utf8.encode, List.flatMap_cons, whole] at encoded
      cases encoded
      rw [whole] at high
      exact absurd ascii (Nat.not_lt.mpr (high b List.mem_cons_self))

theorem utf8Size_ascii {c : Char} (ascii : c.toNat < 0x80) : c.utf8Size = 1 := by
  rw [← String.length_utf8EncodeChar]
  obtain ⟨b, one, -⟩ := encodeChar_ascii ascii
  rw [one]
  rfl

theorem isDigit_ascii {c : Char} (digit : isDigit c = true) : c.toNat < 0x80 := by
  simp only [isDigit, Bool.and_eq_true, decide_eq_true_eq, char_le_iff] at digit
  have code : '9'.toNat = 57 := by decide
  omega

theorem hexDigit?_ascii {c : Char} {n : Nat} (digit : hexDigit? c = some n) : c.toNat < 0x80 := by
  by_contra high
  rw [(not_digit (Nat.le_of_not_lt high)).1] at digit
  cases digit

theorem isAlphanum_ascii {c : Char} (letter : c.isAlphanum = true) : c.toNat < 0x80 := by
  simp only [Char.isAlphanum, Char.isAlpha, Char.isUpper, Char.isLower, Char.isDigit,
    Bool.or_eq_true, Bool.and_eq_true, decide_eq_true_eq, UInt32.le_iff_toNat_le] at letter
  simp at letter
  omega

theorem any_isAlphanum_encode (text : List Char) :
    ((Utf8.encode text).any fun b => (byteChar b).isAlphanum) = text.any Char.isAlphanum := by
  unfold Utf8.encode
  rw [List.any_flatMap]
  congr 1
  funext c
  by_cases low : c.toNat < 0x80
  · obtain ⟨b, one, same⟩ := encodeChar_ascii low
    simp [one, same]
  · have beyond : ¬c.isAlphanum = true := fun letter => low (isAlphanum_ascii letter)
    rw [Bool.eq_false_iff.mpr beyond, List.any_eq_false]
    intro b inside letter
    have high := (encodeChar_high (Nat.le_of_not_lt low)).2 b inside
    have ascii := isAlphanum_ascii letter
    rw [byteChar_toNat] at ascii
    omega

theorem encode_length_cons (c : Char) (text : List Char) :
    (Utf8.encode (c :: text)).length = c.utf8Size + (Utf8.encode text).length := by
  simp [Utf8.encode]

/-- A text can be cut where so many bytes are whole characters, and nowhere else. -/
theorem cutAt?_eq_some {n : Nat} {text front back : List Char} :
    cutAt? n text = some (front, back) ↔ text = front ++ back ∧ (Utf8.encode front).length = n := by
  fun_induction cutAt? n text generalizing front with
  | case1 text =>
    cases front with
    | nil => simp [Utf8.encode]
    | cons c front =>
      have size := c.utf8Size_pos
      simp [encode_length_cons]
      omega
  | case2 n =>
    cases front with
    | nil => simp [Utf8.encode]
    | cons c front => simp
  | case3 n c rest fits ih =>
    cases front with
    | nil => simp [Utf8.encode]
    | cons d front =>
      simp only [Option.map_eq_some_iff, Prod.exists, Prod.mk.injEq, List.cons.injEq,
        List.cons_append, encode_length_cons]
      constructor
      · rintro ⟨front', back', cut, ⟨rfl, rfl⟩, rfl⟩
        obtain ⟨rfl, size⟩ := ih.mp cut
        exact ⟨⟨rfl, rfl⟩, by omega⟩
      · rintro ⟨⟨rfl, rfl⟩, size⟩
        exact ⟨front, back, ih.mpr ⟨rfl, by omega⟩, ⟨rfl, rfl⟩, rfl⟩
  | case4 n c rest wide =>
    cases front with
    | nil => simp [Utf8.encode]
    | cons d front =>
      simp only [reduceCtorEq, List.cons_append, List.cons.injEq, encode_length_cons, false_iff]
      rintro ⟨⟨rfl, rfl⟩, size⟩
      omega

theorem encode_length_ascii {text : List Char} (ascii : ∀ c ∈ text, c.toNat < 0x80) :
    (Utf8.encode text).length = text.length := by
  induction text with
  | nil => rfl
  | cons c rest ih =>
    obtain ⟨first, others⟩ := List.forall_mem_cons.mp ascii
    rw [encode_length_cons, utf8Size_ascii first, ih others, List.length_cons, Nat.add_comm]

theorem cutAt?_ascii (front back : List Char) (ascii : ∀ c ∈ front, c.toNat < 0x80) :
    cutAt? front.length (front ++ back) = some (front, back) :=
  cutAt?_eq_some.mpr ⟨rfl, encode_length_ascii ascii⟩

theorem digitsFirst_iff {text : List Char} :
    digitsFirst (Utf8.encode text) = true ↔ BeginsAsRow text := by
  constructor
  · intro first
    unfold digitsFirst at first
    split at first
    · rename_i a b c bytes encoded
      simp only [Bool.and_eq_true] at first
      obtain ⟨⟨da, db⟩, dc⟩ := first
      obtain ⟨second, rfl, encoded'⟩ := encode_eq_cons encoded (isDigit_ascii da)
      obtain ⟨third, rfl, encoded''⟩ := encode_eq_cons encoded' (isDigit_ascii db)
      obtain ⟨rest, rfl, -⟩ := encode_eq_cons encoded'' (isDigit_ascii dc)
      exact ⟨_, _, _, rest, rfl, da, db, dc⟩
    · cases first
  · rintro ⟨a, b, c, rest, rfl, da, db, dc⟩
    obtain ⟨x, first, rfl⟩ := encode_cons_ascii (isDigit_ascii da) (b :: c :: rest)
    obtain ⟨y, second, rfl⟩ := encode_cons_ascii (isDigit_ascii db) (c :: rest)
    obtain ⟨z, third, rfl⟩ := encode_cons_ascii (isDigit_ascii dc) rest
    rw [first, second, third]
    simp [digitsFirst, da, db, dc]

end Text

namespace Statement

theorem readRow_other {line measure : Nat} {text : List Char}
    (other : ¬∃ high low h l rest, text = high :: low :: ':' :: rest ∧
      hexDigit? high = some h ∧ hexDigit? low = some l) :
    readRow line measure text = .ok none := by
  unfold readRow
  split
  · rename_i high low rest
    split
    · rename_i h l dh dl
      exact absurd ⟨high, low, h, l, rest, rfl, dh, dl⟩ other
    · rfl
  · rfl

theorem row_of_bytes {text : List Char} {high low colon : UInt8} {tail : List UInt8} {h l : Nat}
    (encoded : Utf8.encode text = high :: low :: colon :: tail) (mark : byteChar colon = ':')
    (dh : hexDigit? (byteChar high) = some h) (dl : hexDigit? (byteChar low) = some l) :
    ∃ rest, text = byteChar high :: byteChar low :: ':' :: rest := by
  obtain ⟨second, rfl, encoded'⟩ := encode_eq_cons encoded (hexDigit?_ascii dh)
  obtain ⟨third, rfl, encoded''⟩ := encode_eq_cons encoded' (hexDigit?_ascii dl)
  obtain ⟨rest, rfl, -⟩ := encode_eq_cons encoded'' (by rw [mark]; decide)
  exact ⟨rest, by rw [mark]⟩

theorem readRowBytes?_eq (line : Nat) {a b c : Char} (rest : List Char)
    (digits : isDigit a = true ∧ isDigit b = true ∧ isDigit c = true) :
    readRowBytes? line (a :: b :: c :: rest) = some (readRow line (value [a, b, c]) rest) := by
  obtain ⟨da, db, dc⟩ := digits
  obtain ⟨x, first, -⟩ := encode_cons_ascii (isDigit_ascii da) (b :: c :: rest)
  obtain ⟨y, second, -⟩ := encode_cons_ascii (isDigit_ascii db) (c :: rest)
  obtain ⟨z, third, -⟩ := encode_cons_ascii (isDigit_ascii dc) rest
  rw [readRowBytes?, first, second, third]
  by_cases form : ∃ high low h l data, rest = high :: low :: ':' :: data ∧
      hexDigit? high = some h ∧ hexDigit? low = some l
  · obtain ⟨high, low, h, l, data, rfl, dh, dl⟩ := form
    have colon : ':'.toNat < 0x80 := by decide
    obtain ⟨u, fourth, hu⟩ := encode_cons_ascii (hexDigit?_ascii dh) (low :: ':' :: data)
    obtain ⟨v, fifth, hv⟩ := encode_cons_ascii (hexDigit?_ascii dl) (':' :: data)
    obtain ⟨w, sixth, hw⟩ := encode_cons_ascii colon data
    have measure : cutAt? 3 (a :: b :: c :: high :: low :: ':' :: data) =
        some ([a, b, c], high :: low :: ':' :: data) :=
      cutAt?_ascii [a, b, c] _ (by simp [isDigit_ascii, da, db, dc])
    have start : cutAt? 6 (a :: b :: c :: high :: low :: ':' :: data) =
        some ([a, b, c, high, low, ':'], data) :=
      cutAt?_ascii [a, b, c, high, low, ':'] data
        (by simp [isDigit_ascii, da, db, dc, hexDigit?_ascii dh, hexDigit?_ascii dl])
    have number : wholeNat? [a, b, c] = some (value [a, b, c]) := by simp [wholeNat?, da, db, dc]
    simp only [fourth, fifth, sixth, hu, hv, hw, dh, dl, measure, start, number, if_true,
      Option.bind_some, Option.map_some, any_isAlphanum_encode, readRow]
  · rw [readRow_other form]
    split
    · rename_i high low colon tail same
      have encoded := (List.cons.inj (List.cons.inj (List.cons.inj same).2).2).2
      split_ifs with mark
      · split
        · rename_i h l dh dl
          obtain ⟨data, same⟩ := row_of_bytes encoded mark dh dl
          exact absurd ⟨_, _, h, l, data, same, dh, dl⟩ form
        · rfl
      · rfl
    · rfl

theorem read_header {line : Nat} {text rest : List Char} (form : trim text = '#' :: rest)
    (noRow : ¬BeginsAsRow rest) : read line text = .ok (readHeader rest) := by
  unfold read
  rw [form]
  split
  · rename_i a b c rest same
    cases same
    refine if_neg ?_
    simp only [Bool.and_eq_true, and_assoc]
    exact fun digits => noRow ⟨a, b, c, rest, rfl, digits⟩
  · rename_i same
    cases same
    rfl
  · rename_i other
    exact absurd rfl (other rest)

theorem readBytes?_eq (line : Nat) (text : List Char) :
    readBytes? line text = some (read line text) := by
  unfold readBytes?
  split
  · rename_i rest form
    by_cases begins : BeginsAsRow rest
    · rw [if_pos (digitsFirst_iff.mpr begins)]
      obtain ⟨a, b, c, rest, rfl, digits⟩ := begins
      rw [readRowBytes?_eq line rest digits]
      simp [read, form, digits]
    · rw [if_neg (mt digitsFirst_iff.mp begins), read_header form begins]
  · rename_i other
    unfold read
    split
    · rename_i form
      exact absurd form (other _)
    · rename_i form
      exact absurd form (other _)
    · rfl

theorem readAllBytes?_eq (line : Nat) (texts : List (List Char)) :
    readAllBytes? line texts = some (readAll line texts) := by
  induction texts generalizing line with
  | nil => rfl
  | cons text rest ih =>
    rw [readAllBytes?, readBytes?_eq, readAll]
    cases read line text with
    | error e => rfl
    | ok said =>
      have others := ih (line + 1)
      cases later : readAll (line + 1) rest <;> simp [others, later]

end Statement

namespace Source

/-- A source that was read keeps to what is asked of its headers, names, measures and rows, with the
numbers of the rows' lines within the lines of the text. Reading any text by its bytes cuts it
between characters only, and gives what the text says. -/
theorem parse_well_formed (text : String) :
    (∀ source, parse text = .ok source → source.IsWellFormed (lines text.toList).length) ∧
      parseBytes? text = some (parse text) := by
  refine ⟨fun source accepted => parse_isWellFormed accepted, ?_⟩
  rw [parseBytes?, Statement.readAllBytes?_eq, parse]
  cases Statement.readAll 1 (lines text.toList) <;> rfl

theorem parse_well_formed_of_wide :
    ∃ source, parse "#001é:01\n#00111:あ1 \n#TITLE あ\n#BPM0a 150\n#00あ:01" = .ok source ∧
      source.IsWellFormed 5 ∧ source.header? "TITLE" = some "あ" ∧
      source.rows 1 = [⟨0x11, "あ1", 2⟩] ∧
      parseBytes? "#001é:01\n#00111:あ1 \n#TITLE あ\n#BPM0a 150\n#00あ:01" = some (.ok source) := by
  have accepted : parse "#001é:01\n#00111:あ1 \n#TITLE あ\n#BPM0a 150\n#00あ:01" =
      .ok ⟨[.row 1 ⟨0x11, "あ1", 2⟩, .header "TITLE" "あ", .tempo ⟨10⟩ 150.0]⟩ := by
    decide +kernel
  obtain ⟨keeps, bytes⟩ :=
    parse_well_formed "#001é:01\n#00111:あ1 \n#TITLE あ\n#BPM0a 150\n#00あ:01"
  rw [accepted] at bytes
  exact ⟨_, accepted, keeps _ accepted, rfl, rfl, bytes⟩

end Source
end NoteChart
