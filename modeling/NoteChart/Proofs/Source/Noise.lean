import NoteChart.Proofs.Source.Bytes
import NoteChart.Proofs.Source.Joining

/-!
What reading passes over. Blanks around a line, carriage returns among them, and the case of ASCII
letters in a key or a channel are noise: a text says the same with any other noise, or has the same
fault, told in the same words. Every line is trimmed before it is read, so each edit is seen to leave
a trimmed line that is read in the same way.
-/
namespace NoteChart

open Text Decimal

namespace Text

def withReturns (text : List Char) : List Char :=
  text.flatMap fun c => if c = '\n' then ['\r', '\n'] else [c]

def IsBlanks (text : List Char) : Prop := ∀ c ∈ text, isBlank c = true

def SameLetters (text text' : List Char) : Prop := text.map Char.toUpper = text'.map Char.toUpper

instance (text : List Char) : Decidable (IsBlanks text) := List.decidableBAll _ text

instance (text text' : List Char) : Decidable (SameLetters text text') :=
  inferInstanceAs (Decidable (_ = _))

end Text

/-- Edits of a line: blanks at its ends, the case of the key of a header, and the case of the channel
of a row. A key goes up to the first blank, and does not begin with the three digits of a row. -/
inductive Noise : List Char → List Char → Prop
  | blanks (front line back : List Char) (before : IsBlanks front) (after : IsBlanks back) :
    Noise line (front ++ line ++ back)
  | key (front key key' rest : List Char) (before : IsBlanks front) (noRow : ¬BeginsAsRow key)
    (solid : ∀ c ∈ key, isBlank c = false) (ends : ∀ c ∈ rest.head?, isBlank c = true)
    (same : SameLetters key key') :
    Noise (front ++ ('#' :: key ++ rest)) (front ++ ('#' :: key' ++ rest))
  | channel (front rest : List Char) {a b c high low high' low' : Char} (before : IsBlanks front)
    (digits : isDigit a = true ∧ isDigit b = true ∧ isDigit c = true)
    (same : SameLetters [high, low] [high', low']) :
    Noise (front ++ (['#', a, b, c, high, low, ':'] ++ rest))
      (front ++ (['#', a, b, c, high', low', ':'] ++ rest))
  | trans {first second third : List Char} (one : Noise first second)
    (other : Noise second third) : Noise first third

/-- The lines of two texts, cut at their newlines, differ in noise only. -/
def SameButNoise (text text' : List Char) : Prop :=
  List.Forall₂ Noise (text.splitOn '\n') (text'.splitOn '\n')

namespace Text

variable {front back line rest : List Char}

theorem trimStart_blanks (blanks : IsBlanks front) (line : List Char) :
    trimStart (front ++ line) = trimStart line :=
  List.dropWhile_append_of_pos blanks

theorem trimEnd_blanks (blanks : IsBlanks back) (line : List Char) :
    trimEnd (line ++ back) = trimEnd line := by
  unfold trimEnd
  rw [List.reverse_append, List.dropWhile_append_of_pos]
  intro c inside
  exact blanks c (List.mem_reverse.mp inside)

theorem trim_blanks (before : IsBlanks front) (after : IsBlanks back) (line : List Char) :
    trim (front ++ line ++ back) = trim line := by
  unfold trim
  rw [List.append_assoc, trimStart_blanks before]
  cases solid : trimStart line with
  | nil =>
    have none : trimStart (line ++ back) = [] := by
      have all : IsBlanks line := by simpa [trimStart, IsBlanks] using solid
      rw [trimStart_blanks all]
      simpa [trimStart, IsBlanks] using after
    rw [none]
  | cons c rest =>
    have kept : trimStart (line ++ back) = c :: rest ++ back := by
      unfold trimStart at solid ⊢
      rw [List.dropWhile_append, solid]
      rfl
    rw [kept, trimEnd_blanks after]

theorem trimEnd_solid (ends : ∀ c ∈ front.getLast?, isBlank c = false) (rest : List Char) :
    trimEnd (front ++ rest) = front ++ trimEnd rest := by
  unfold trimEnd
  rw [List.reverse_append, List.dropWhile_append]
  split
  · rename_i none
    rw [List.isEmpty_iff.mp none]
    cases reversed : front.reverse with
    | nil => simp [List.reverse_eq_nil_iff.mp reversed]
    | cons c others =>
      have last : isBlank c = false := by
        apply ends
        rw [← List.head?_reverse, reversed]
        rfl
      rw [List.dropWhile_cons_of_neg (by simp [last]), ← reversed]
      simp
  · simp

theorem trim_line {more : List Char} (before : IsBlanks front)
    (ends : ∀ c ∈ ('#' :: more).getLast?, isBlank c = false) (rest : List Char) :
    trim (front ++ ('#' :: more ++ rest)) = '#' :: (more ++ trimEnd rest) := by
  have start : trimStart ('#' :: more ++ rest) = '#' :: more ++ rest :=
    List.dropWhile_cons_of_neg (by decide)
  unfold trim
  rw [trimStart_blanks before, start, trimEnd_solid ends]
  rfl

theorem trimEnd_split (rest : List Char) : ∃ back, IsBlanks back ∧ rest = trimEnd rest ++ back := by
  refine ⟨(rest.reverse.takeWhile isBlank).reverse, ?_, ?_⟩
  · intro c inside
    exact List.mem_takeWhile_imp (List.mem_reverse.mp inside)
  · unfold trimEnd
    rw [← List.reverse_append, List.takeWhile_append_dropWhile, List.reverse_reverse]

theorem trim_trimEnd (rest : List Char) : trim (trimEnd rest) = trim rest := by
  obtain ⟨back, after, whole⟩ := trimEnd_split rest
  have before : IsBlanks [] := by simp [IsBlanks]
  calc trim (trimEnd rest)
      = trim ([] ++ trimEnd rest ++ back) := (trim_blanks before after _).symm
    _ = trim rest := by rw [List.nil_append, ← whole]

theorem head_trimEnd {c : Char} (first : c ∈ (trimEnd rest).head?) : c ∈ rest.head? := by
  obtain ⟨back, -, whole⟩ := trimEnd_split rest
  rw [whole, List.head?_append, Option.mem_def.mp first]
  rfl

theorem hexDigit?_small : ∀ n : Fin 26,
    hexDigit? (Char.ofNat (97 + n)).toUpper = hexDigit? (Char.ofNat (97 + n)) := by
  decide

theorem hexDigit?_toUpper (c : Char) : hexDigit? c.toUpper = hexDigit? c := by
  rcases small_or_same c with ⟨n, rfl⟩ | ⟨-, same⟩
  · exact hexDigit?_small n
  · rw [same]

theorem hexDigit?_of_same {c c' : Char} (same : c.toUpper = c'.toUpper) :
    hexDigit? c = hexDigit? c' := by
  rw [← hexDigit?_toUpper, same, hexDigit?_toUpper]

variable {key key' : List Char}

theorem SameLetters.isBlank (same : SameLetters key key')
    (solid : ∀ c ∈ key, isBlank c = false) : ∀ c ∈ key', isBlank c = false := by
  intro c inside
  have raised := List.mem_map_of_mem (f := Char.toUpper) inside
  rw [← same] at raised
  obtain ⟨d, given, alike⟩ := List.mem_map.mp raised
  rw [← (isRaised_toUpper c).blank, ← alike, (isRaised_toUpper d).blank]
  exact solid d given

theorem SameLetters.noRow (same : SameLetters key key') (noRow : ¬BeginsAsRow key) :
    ¬BeginsAsRow key' := by
  rintro ⟨a, b, c, rest, rfl, digits⟩
  refine noRow (BeginsAsRow.of_raised ?_)
  rw [same]
  refine ⟨a.toUpper, b.toUpper, c.toUpper, rest.map Char.toUpper, rfl, ?_⟩
  simpa only [(isRaised_toUpper _).digit] using digits

theorem isDigit_blank {c : Char} (blank : isBlank c = true) : isDigit c = false := by
  by_contra digit
  rw [Bool.not_eq_false] at digit
  simp only [isDigit, Bool.and_eq_true, decide_eq_true_eq, char_le_iff] at digit
  have codes : '0'.toNat = 48 ∧ '9'.toNat = 57 := by decide
  simp only [isBlank, Bool.or_eq_true, Bool.and_eq_true, decide_eq_true_eq, beq_iff_eq] at blank
  omega

theorem BeginsAsRow.of_append {key rest : List Char} (ends : ∀ c ∈ rest.head?, isBlank c = true)
    (begins : BeginsAsRow (key ++ rest)) : BeginsAsRow key := by
  obtain ⟨a, b, c, more, same, da, db, dc⟩ := begins
  have stops {d : Char} {others : List Char} (digit : isDigit d = true) : rest ≠ d :: others := by
    rintro rfl
    rw [isDigit_blank (ends d rfl)] at digit
    cases digit
  rcases key with _ | ⟨x, _ | ⟨y, _ | ⟨z, others⟩⟩⟩
  · exact absurd same (stops da)
  · exact absurd (List.cons.inj same).2 (stops db)
  · exact absurd (List.cons.inj (List.cons.inj same).2).2 (stops dc)
  · cases same
    exact ⟨a, b, c, others, rfl, da, db, dc⟩

end Text

namespace Statement

variable {n : Nat} {line line' : List Char}

theorem read_congr (same : trim line = trim line') : read n line = read n line' := by
  unfold read
  rw [same]

/-- A key ends at the first blank, and only its letters count. -/
theorem readHeader_append {key rest : List Char} (solid : ∀ c ∈ key, isBlank c = false)
    (ends : ∀ c ∈ rest.head?, isBlank c = true) :
    readHeader (key ++ rest) =
      if key = [] || trim rest = [] then none else ofHeader (key.map Char.toUpper) (trim rest) := by
  have none : rest.takeWhile (fun c => !isBlank c) = [] := by
    cases rest with
    | nil => rfl
    | cons c rest => simp [ends c rfl]
  have all : rest.dropWhile (fun c => !isBlank c) = rest := by
    cases rest with
    | nil => rfl
    | cons c rest => simp [ends c rfl]
  have solid' : ∀ c ∈ key, (!isBlank c) = true := by simpa using solid
  unfold readHeader
  rw [List.takeWhile_append_of_pos solid', List.dropWhile_append_of_pos solid', none, all,
    List.append_nil]

theorem read_key {front key rest : List Char} (before : IsBlanks front) (noRow : ¬BeginsAsRow key)
    (solid : ∀ c ∈ key, isBlank c = false) (ends : ∀ c ∈ rest.head?, isBlank c = true) :
    read n (front ++ ('#' :: key ++ rest)) = .ok
      (if key = [] || trim rest = [] then none
      else ofHeader (key.map Char.toUpper) (trim rest)) := by
  have last : ∀ c ∈ ('#' :: key).getLast?, isBlank c = false := by
    intro c last
    rcases List.mem_cons.mp (List.mem_of_getLast? last) with rfl | inside
    · decide
    · exact solid c inside
  have ends' : ∀ c ∈ (trimEnd rest).head?, isBlank c = true :=
    fun c first => ends c (head_trimEnd first)
  have form := trim_line before last rest
  rw [read_header form (mt (BeginsAsRow.of_append ends') noRow), readHeader_append solid ends',
    trim_trimEnd]

theorem read_channel {front rest : List Char} {a b c high low : Char} (before : IsBlanks front)
    (digits : isDigit a = true ∧ isDigit b = true ∧ isDigit c = true) :
    read n (front ++ (['#', a, b, c, high, low, ':'] ++ rest)) =
      readRow n (value [a, b, c]) (high :: low :: ':' :: trimEnd rest) := by
  have last : ∀ d ∈ ['#', a, b, c, high, low, ':'].getLast?, isBlank d = false := by
    simp
    decide
  have form := trim_line before last rest
  unfold read
  rw [form]
  simp [digits]

theorem readRow_letters {high low high' low' : Char} (same : SameLetters [high, low] [high', low'])
    (measure : Nat) (rest : List Char) :
    readRow n measure (high :: low :: ':' :: rest) =
      readRow n measure (high' :: low' :: ':' :: rest) := by
  obtain ⟨first, second⟩ : high.toUpper = high'.toUpper ∧ low.toUpper = low'.toUpper := by
    simpa [SameLetters] using same
  simp only [readRow, hexDigit?_of_same first, hexDigit?_of_same second]

theorem read_noise (noise : Noise line line') : read n line' = read n line := by
  induction noise with
  | blanks front line back before after => exact read_congr (trim_blanks before after line)
  | key front key key' rest before noRow solid ends same =>
    have nonempty : key' = [] ↔ key = [] := by
      rw [← List.map_eq_nil_iff (f := Char.toUpper), ← same, List.map_eq_nil_iff]
    rw [read_key before noRow solid ends,
      read_key before (same.noRow noRow) (same.isBlank solid) ends, same]
    simp only [nonempty]
  | channel front rest before digits same =>
    rw [read_channel before digits, read_channel before digits, readRow_letters same]
  | trans one other first second => exact second.trans first

theorem readAll_noise {texts texts' : List (List Char)} (noise : List.Forall₂ Noise texts texts') :
    readAll n texts' = readAll n texts := by
  induction noise generalizing n with
  | nil => rfl
  | cons here later ih => rw [readAll, readAll, read_noise here, ih]

end Statement

namespace Text

theorem splitOn_newline (rest : List Char) :
    ('\n' :: rest).splitOn '\n' = [] :: rest.splitOn '\n' :=
  List.splitOn_append_cons_self [] rest

theorem splitOn_other {c : Char} (other : c ≠ '\n') (rest : List Char) :
    (c :: rest).splitOn '\n' = (rest.splitOn '\n').modifyHead (c :: ·) := by
  unfold List.splitOn
  rw [List.splitOnP_cons_eq_if_modifyHead, if_neg (by simpa using other)]

theorem splitOn_lines (text : List Char) :
    text.splitOn '\n' = lines text ∨ text.splitOn '\n' = lines text ++ [[]] := by
  induction text with
  | nil => exact Or.inr (List.splitOn_nil '\n')
  | cons c rest ih =>
    unfold lines
    split_ifs with newline
    · rw [newline, splitOn_newline]
      exact ih.imp (congrArg ([] :: ·)) (congrArg ([] :: ·))
    · rw [splitOn_other newline]
      cases split : lines rest with
      | nil =>
        rw [lines_eq_nil split]
        exact Or.inl rfl
      | cons line others =>
        rw [split] at ih
        rcases ih with same | more
        · exact Or.inl (by rw [same]; rfl)
        · exact Or.inr (by rw [more]; rfl)

theorem splitOn_withReturns (text : List Char) :
    List.Forall₂ (fun line line' => line' = line ∨ line' = line ++ ['\r'])
      (text.splitOn '\n') ((withReturns text).splitOn '\n') := by
  induction text with
  | nil => exact .cons (Or.inl rfl) .nil
  | cons c rest ih =>
    by_cases newline : c = '\n'
    · have returned : withReturns (c :: rest) = '\r' :: '\n' :: withReturns rest := by
        simp [withReturns, newline]
      rw [returned, newline, splitOn_newline, splitOn_other (by decide), splitOn_newline]
      exact .cons (Or.inr rfl) ih
    · have kept : withReturns (c :: rest) = c :: withReturns rest := by
        simp [withReturns, newline]
      rw [kept, splitOn_other newline, splitOn_other newline]
      generalize rest.splitOn '\n' = pieces, (withReturns rest).splitOn '\n' = pieces' at ih ⊢
      cases ih with
      | nil => exact .nil
      | cons here later =>
        refine .cons ?_ later
        exact here.imp (congrArg (c :: ·)) (congrArg (c :: ·))

end Text

theorem withReturns_noise (text : List Char) : SameButNoise text (withReturns text) := by
  refine (splitOn_withReturns text).imp ?_
  have none : IsBlanks [] := by simp [IsBlanks]
  rintro line line' (same | same)
  · rw [same]
    simpa using Noise.blanks [] line [] none none
  · rw [same]
    have mark : IsBlanks ['\r'] := by
      intro c inside
      rw [List.mem_singleton.mp inside]
      decide
    simpa using Noise.blanks [] line ['\r'] none mark

namespace Source

theorem readAll_splitOn (n : Nat) (text : List Char) :
    Statement.readAll n (text.splitOn '\n') = Statement.readAll n (lines text) := by
  have blank (n : Nat) : Statement.readAll n [[]] = .ok [] := rfl
  rcases splitOn_lines text with same | more
  · rw [same]
  · rw [more, Statement.readAll_append, blank]
    cases Statement.readAll n (lines text) <;> simp

theorem parse_congr {text other : String} (noise : SameButNoise text.toList other.toList) :
    parse other = parse text := by
  unfold parse
  rw [← readAll_splitOn, ← readAll_splitOn, Statement.readAll_noise noise]

/-- A text with noise of any kind on any of its lines is read as the text without it: the source is
the same, or the fault, with its line and data. So is a text with a carriage return before each of
its newlines. -/
theorem parse_through_noise (text : String) :
    parse (String.ofList (withReturns text.toList)) = parse text ∧
      ∀ other : String, SameButNoise text.toList other.toList → parse other = parse text := by
  refine ⟨parse_congr ?_, fun other noise => parse_congr noise⟩
  rw [String.toList_ofList]
  exact withReturns_noise text.toList

theorem parse_through_noise_of_each_kind :
    SameButNoise "#aé b\n#0010a:01".toList "\t#Aé b \r\n #0010A:01".toList ∧
      parse "\t#Aé b \r\n #0010A:01" = .ok ⟨[.header "Aé" "b", .row 1 ⟨0x0A, "01", 2⟩]⟩ ∧
      parse (String.ofList (withReturns "#TITLE\n#00111:--\n".toList)) =
        .error (.noCells 2 1 0x11 "--") := by
  have header : Noise ['#', 'a', 'é', ' ', 'b'] ['\t', '#', 'A', 'é', ' ', 'b', ' ', '\r'] := by
    have letters : Noise ['#', 'a', 'é', ' ', 'b'] ['#', 'A', 'é', ' ', 'b'] :=
      .key [] ['a', 'é'] ['A', 'é'] [' ', 'b'] (by decide) (by simp [BeginsAsRow])
        (by simp [isBlank]) (by simp [isBlank]) (by decide)
    exact letters.trans (.blanks ['\t'] _ [' ', '\r'] (by decide) (by decide))
  have row : Noise ['#', '0', '0', '1', '0', 'a', ':', '0', '1']
      [' ', '#', '0', '0', '1', '0', 'A', ':', '0', '1'] := by
    have letters : Noise ['#', '0', '0', '1', '0', 'a', ':', '0', '1']
        ['#', '0', '0', '1', '0', 'A', ':', '0', '1'] :=
      .channel [] ['0', '1'] (by decide) (by decide) (by decide)
    exact letters.trans (.blanks [' '] _ [] (by decide) (by decide))
  have noise : SameButNoise "#aé b\n#0010a:01".toList "\t#Aé b \r\n #0010A:01".toList :=
    .cons header (.cons row .nil)
  have plain : parse "#aé b\n#0010a:01" =
      .ok ⟨[.header "Aé" "b", .row 1 ⟨0x0A, "01", 2⟩]⟩ := by decide +kernel
  have faulty : parse "#TITLE\n#00111:--\n" = .error (.noCells 2 1 0x11 "--") := by rfl
  obtain ⟨-, same⟩ := parse_through_noise "#aé b\n#0010a:01"
  obtain ⟨returned, -⟩ := parse_through_noise "#TITLE\n#00111:--\n"
  exact ⟨noise, (same _ noise).trans plain, returned.trans faulty⟩

end Source
end NoteChart
