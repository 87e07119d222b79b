import Tillbook.Json.Reader
import Tillbook.Proofs.Digits

/-!
# Texts of values

Which texts spell a value, by a grammar that knows nothing of the reader's order of work, and
that the reader takes each of them for the value that it spells.  A number may have any sign,
fraction and exponent; a character of a string may stand for itself or be escaped.

## Main definitions

* `Numeral` — a number as it is written.
* `Piece.Spells` — the ways to write a part of a string.
* `Phrase` — a value, the elements of an array or the members of an object.
* `Phrase.Spells` — the texts of a phrase, without blanks.
* `Legible` — the text that is written for a value is one of its texts.

## Main statements

* `number?_numeral`, `pieces?_of_spelled` — the reader takes numbers and strings whole.
* `Phrase.Spells.reads` — so it does with every phrase.
* `read?_of_spells` — a text that spells a value is read as that value.
* `legible_word`, `legible_str`, `legible_arr`, `legible_object` — the text that is written for a
  value spells it.
-/

namespace Tillbook

namespace Json

/-! ## Numbers -/

/-- The exponent of a number as it is written. -/
structure Exponent where
  letter : Char
  sign : List Char
  digits : List Char
  isLetter : letter = 'e' ∨ letter = 'E'
  isSign : sign = [] ∨ sign = ['+'] ∨ sign = ['-']
  filled : digits ≠ []
  areDigits : ∀ c ∈ digits, c.isDigit = true

namespace Exponent

/-- The number that an exponent denotes. -/
def value (e : Exponent) : Int := (if e.sign = ['-'] then -1 else 1) * Text.value e.digits

/-- The text of an exponent. -/
def chars (e : Exponent) : List Char := e.letter :: (e.sign ++ e.digits)

end Exponent

/-- A number as it is written.  There is no point if there is no fraction. -/
structure Numeral where
  negative : Bool
  whole : List Char
  fraction : List Char
  exponent : Option Exponent
  filled : whole ≠ []
  areDigits : ∀ c ∈ whole, c.isDigit = true
  short : whole.head? = some '0' → whole.length = 1
  areFraction : ∀ c ∈ fraction, c.isDigit = true

namespace Numeral

/-- The text of a fraction. -/
def fractionChars (n : Numeral) : List Char :=
  if n.fraction = [] then [] else '.' :: n.fraction

/-- The text of the exponent, if there is one. -/
def exponentChars (n : Numeral) : List Char := (n.exponent.map (·.chars)).getD []

/-- The text of a number. -/
def chars (n : Numeral) : List Char :=
  (if n.negative then ['-'] else []) ++ (n.whole ++ (n.fractionChars ++ n.exponentChars))

/-- The number is written as a whole one, and a word of 64 bits with or without a sign holds it. -/
def IsWhole (n : Numeral) : Prop :=
  n.fraction = [] ∧ n.exponent = none ∧
    if n.negative then 0 < Text.value n.whole ∧ 2 * Text.value n.whole ≤ UInt64.size
    else Text.value n.whole < UInt64.size

instance (n : Numeral) : Decidable n.IsWhole :=
  inferInstanceAs (Decidable (_ ∧ _ ∧ _))

/-- The value of a number. -/
def value (n : Numeral) : Json :=
  if n.IsWhole then
    .int (if n.negative then -(Text.value n.whole : Int) else Text.value n.whole)
  else .decimal (isFiniteDecimal n.whole n.fraction ((n.exponent.map (·.value)).getD 0))

end Numeral

/-- What follows a number does not go on with it. -/
def Ends (rest : List Char) : Prop :=
  ∀ c ∈ rest.head?, c.isDigit = false ∧ c ≠ '.' ∧ c ≠ 'e' ∧ c ≠ 'E'

theorem ends_cons {c : Char} {rest : List Char}
    (h : c.isDigit = false ∧ c ≠ '.' ∧ c ≠ 'e' ∧ c ≠ 'E') : Ends (c :: rest) := by
  simpa [Ends] using h

theorem spanDigits_append {ds rest : List Char} (digits : ∀ c ∈ ds, c.isDigit = true)
    (ends : ∀ c ∈ rest.head?, c.isDigit = false) : spanDigits (ds ++ rest) = (ds, rest) := by
  unfold spanDigits
  rw [List.takeWhile_append_of_pos digits, List.dropWhile_append_of_pos digits]
  cases rest with
  | nil => simp
  | cons c rest =>
    have other : c.isDigit = false := ends c rfl
    simp [other]

theorem fraction?_numeral (n : Numeral) {rest : List Char}
    (ends : ∀ c ∈ rest.head?, c.isDigit = false ∧ c ≠ '.') :
    fraction? (n.fractionChars ++ rest) = some (n.fraction, rest) := by
  unfold Numeral.fractionChars
  by_cases none : n.fraction = []
  · rw [if_pos none, none, List.nil_append]
    cases rest with
    | nil => rfl
    | cons c rest =>
      have other : c ≠ '.' := (ends c rfl).2
      simp [fraction?, other]
  · rw [if_neg none, List.cons_append, fraction?,
      spanDigits_append n.areFraction fun c hc => (ends c hc).1]
    simp [none]

theorem exponent?_numeral (n : Numeral) {rest : List Char} (ends : Ends rest) :
    exponent? (n.exponentChars ++ rest) = some (n.exponent.map (·.value), rest) := by
  unfold Numeral.exponentChars
  cases n.exponent with
  | none =>
    cases rest with
    | nil => rfl
    | cons c rest =>
      obtain ⟨-, -, small, large⟩ := ends c rfl
      simp [exponent?, small, large]
  | some e =>
    have digits := spanDigits_append e.areDigits fun c hc => (ends c hc).1
    obtain ⟨d, ds, first⟩ := List.exists_cons_of_ne_nil e.filled
    have plain : d ≠ '-' ∧ d ≠ '+' := by
      have digit : d.isDigit = true := e.areDigits d (by rw [first]; exact List.mem_cons_self)
      constructor <;>
      · rintro rfl
        exact absurd digit (by decide)
    simp only [Option.map_some, Option.getD_some, Exponent.chars, List.cons_append,
      List.append_assoc, exponent?, e.isLetter, if_true]
    rcases e.isSign with sign | sign | sign
    · simp only [sign, List.nil_append, first, List.cons_append]
      split
      · next r read => exact absurd (List.cons.inj read).1 plain.1
      · next r read => exact absurd (List.cons.inj read).1 plain.2
      · rw [← List.cons_append, ← first, digits]
        simp [sign, e.filled, Exponent.value]
    · simp [sign, digits, e.filled, Exponent.value]
    · simp [sign, digits, e.filled, Exponent.value]

/-- Digits end where the exponent begins. -/
theorem ends_exponentChars (n : Numeral) {rest : List Char} (ends : Ends rest) :
    ∀ c ∈ (n.exponentChars ++ rest).head?, c.isDigit = false ∧ c ≠ '.' := by
  intro c hc
  unfold Numeral.exponentChars at hc
  cases given : n.exponent with
  | none =>
    rw [given] at hc
    exact ⟨(ends c hc).1, (ends c hc).2.1⟩
  | some e =>
    obtain rfl : e.letter = c := by simpa [given, Exponent.chars] using hc
    rcases e.isLetter with letter | letter <;> rw [letter] <;> decide

/-- Digits end at the point. -/
theorem ends_fractionChars (n : Numeral) {rest : List Char}
    (ends : ∀ c ∈ rest.head?, c.isDigit = false) :
    ∀ c ∈ (n.fractionChars ++ rest).head?, c.isDigit = false := by
  intro c hc
  unfold Numeral.fractionChars at hc
  split at hc
  · exact ends c hc
  · obtain rfl : '.' = c := by simpa using hc
    decide

/-- The reader takes a number whole. -/
theorem number?_numeral (n : Numeral) {rest : List Char} (ends : Ends rest) :
    number? (n.chars ++ rest) = some (n.value, rest) := by
  have tail := ends_exponentChars n ends
  have point := ends_fractionChars n fun c hc => (tail c hc).1
  obtain ⟨d, ds, first⟩ := List.exists_cons_of_ne_nil n.filled
  have unsigned : d ≠ '-' := by
    have digit : d.isDigit = true := n.areDigits d (by rw [first]; exact List.mem_cons_self)
    rintro rfl
    exact absurd digit (by decide)
  have whole := spanDigits_append n.areDigits point
  have short : ¬(n.whole = [] ∨ n.whole.head? = some '0' ∧ 1 < n.whole.length) := by
    rintro (none | ⟨zero, long⟩)
    · exact n.filled none
    · have := n.short zero
      omega
  unfold number?
  split
  next negative cs sign =>
  obtain ⟨rfl, rfl⟩ : n.negative = negative ∧
      n.whole ++ (n.fractionChars ++ (n.exponentChars ++ rest)) = cs := by
    unfold Numeral.chars at sign
    cases minus : n.negative with
    | true => simpa [minus] using sign
    | false =>
      rw [minus, if_neg Bool.false_ne_true, List.nil_append, first] at sign
      split at sign
      · next r read => exact absurd (List.cons.inj read).1 unsigned
      · simpa [first] using sign
  simp only [whole, if_neg short, fraction?_numeral n tail, exponent?_numeral n ends,
    Option.bind_eq_bind, Option.bind_some, List.isEmpty_iff, Option.map_eq_none_iff]
  unfold Numeral.value
  by_cases fits : n.IsWhole
  · rw [if_pos fits]
    exact if_pos fits
  · rw [if_neg fits]
    exact if_neg fits

/-! ## Strings -/

/-- The ways to write a part of a string. -/
inductive Piece.Spells : Piece → List Char → Prop
  | plain {c : Char} (h : 32 ≤ c.toNat ∧ c ≠ '"' ∧ c ≠ '\\') : Spells (.char c) [c]
  | escaped {letter c : Char} (h : escaped? letter = some c) : Spells (.char c) ['\\', letter]
  | numbered {a b c d : Char} {n : Nat} (h : hexValues? a b c d = some n) :
      Spells (.ofNumber n) ['\\', 'u', a, b, c, d]

/-- The texts of the parts of a string, one after the other. -/
inductive PiecesSpelled : List Piece → List Char → Prop
  | nil : PiecesSpelled [] []
  | cons {p : Piece} {ps : List Piece} {cs ds : List Char} (first : p.Spells cs)
      (rest : PiecesSpelled ps ds) : PiecesSpelled (p :: ps) (cs ++ ds)

/-- The reader takes one part at a time. -/
theorem pieces?_append {p : Piece} {cs : List Char} (h : p.Spells cs) (rest : List Char) :
    pieces? (cs ++ rest) = (pieces? rest).map fun (ps, r) => (p :: ps, r) := by
  cases h with
  | @plain c h =>
    obtain ⟨visible, quote, escape⟩ := h
    have plain : ¬(c.toNat < 32 ∨ c = '\\') := by
      rintro (low | same)
      · omega
      · exact escape same
    rw [List.singleton_append, pieces?.eq_def]
    split
    · next none => nomatch none
    · next read => exact absurd (List.cons.inj read).1 quote
    · next read => exact absurd (List.cons.inj read).1 escape
    · next read => exact absurd (List.cons.inj read).1 escape
    · next c' r read =>
      obtain ⟨rfl, rfl⟩ := List.cons.inj read
      rw [if_neg plain]
      cases pieces? rest <;> rfl
  | @escaped letter c h =>
    have other : letter ≠ 'u' := by
      rintro rfl
      nomatch h
    rw [List.cons_append, List.singleton_append, pieces?.eq_def]
    simp [other, h]
    cases pieces? rest <;> rfl
  | @numbered a b c d n h =>
    simp [pieces?, h]
    cases pieces? rest <;> rfl

/-- The reader takes a string whole. -/
theorem pieces?_of_spelled {ps : List Piece} {cs : List Char} (h : PiecesSpelled ps cs)
    (rest : List Char) : pieces? (cs ++ '"' :: rest) = some (ps, rest) := by
  induction h with
  | nil => simp [pieces?]
  | cons first _ ih => rw [List.append_assoc, pieces?_append first, ih, Option.map_some]

theorem stringTail_of_spelled {ps : List Piece} {cs : List Char} (h : PiecesSpelled ps cs)
    (rest : List Char) : stringTail (cs ++ '"' :: rest) = some (join? ps, rest) := by
  rw [stringTail, pieces?_of_spelled h, Option.map_some]

/-! ## Values -/

/-- A value, the elements of an array or the members of an object. -/
inductive Phrase where
  | value (j : Json)
  | elements (es : List Json)
  | members (ms : List (String × Json))

namespace Phrase

/-- The texts of a phrase, without blanks. -/
inductive Spells : Phrase → List Char → Prop
  | null : Spells (.value .null) ['n', 'u', 'l', 'l']
  | yes : Spells (.value (.bool true)) ['t', 'r', 'u', 'e']
  | no : Spells (.value (.bool false)) ['f', 'a', 'l', 's', 'e']
  | number (n : Numeral) : Spells (.value n.value) n.chars
  | string {ps : List Piece} {cs : List Char} (h : PiecesSpelled ps cs) :
      Spells (.value (ofString (join? ps))) ('"' :: (cs ++ ['"']))
  | emptyArr : Spells (.value (.arr [])) ['[', ']']
  | arr {es : List Json} {cs : List Char} (h : Spells (.elements es) cs) :
      Spells (.value (.arr es)) ('[' :: (cs ++ [']']))
  | emptyObject : Spells (.value (.object [])) ['\x7b', '\x7d']
  | object {ms : List (String × Json)} {cs : List Char} (h : Spells (.members ms) cs) :
      Spells (.value (.object ms)) ('\x7b' :: (cs ++ ['\x7d']))
  | lastElement {e : Json} {cs : List Char} (h : Spells (.value e) cs) :
      Spells (.elements [e]) cs
  | element {e : Json} {es : List Json} {cs ds : List Char} (first : Spells (.value e) cs)
      (rest : Spells (.elements es) ds) : Spells (.elements (e :: es)) (cs ++ ',' :: ds)
  | lastMember {name : String} {ps : List Piece} {e : Json} {cs ds : List Char}
      (named : PiecesSpelled ps cs) (text : join? ps = some name.toList)
      (h : Spells (.value e) ds) :
      Spells (.members [(name, e)]) ('"' :: (cs ++ '"' :: ':' :: ds))
  | member {name : String} {ps : List Piece} {e : Json} {ms : List (String × Json)}
      {cs ds es : List Char} (named : PiecesSpelled ps cs) (text : join? ps = some name.toList)
      (first : Spells (.value e) ds) (rest : Spells (.members ms) es) :
      Spells (.members ((name, e) :: ms)) ('"' :: (cs ++ '"' :: ':' :: (ds ++ ',' :: es)))

/-- The reader takes a text for a phrase, as long as there is fuel for each of its characters. -/
def ReadFrom : Phrase → List Char → Prop
  | .value j, cs => ∀ fuel rest, cs.length ≤ fuel → Ends rest →
      value? fuel (cs ++ rest) = some (j, rest)
  | .elements es, cs => ∀ fuel rest, cs.length < fuel →
      elements? fuel (cs ++ ']' :: rest) = some (es, rest)
  | .members ms, cs => ∀ fuel rest, cs.length < fuel →
      members? fuel (cs ++ '\x7d' :: rest) = some (ms.map fun m => (some m.1, m.2), rest)

end Phrase

/-- A character with which a value can begin. -/
def Starts (c : Char) : Prop := isSpace c = false ∧ c ≠ ']' ∧ c ≠ '\x7d'

instance (c : Char) : Decidable (Starts c) := inferInstanceAs (Decidable (_ ∧ _ ∧ _))

theorem skip_cons {c : Char} (h : isSpace c = false) (r : List Char) : skip (c :: r) = c :: r := by
  simp [skip, h]

theorem digit_plain {c : Char} (h : c.isDigit = true) :
    Starts c ∧ c ≠ '"' ∧ c ≠ '[' ∧ c ≠ '\x7b' ∧ c ≠ 'n' ∧ c ≠ 't' ∧ c ≠ 'f' := by
  refine ⟨⟨?_, ?_, ?_⟩, ?_, ?_, ?_, ?_, ?_, ?_⟩
  · cases space : isSpace c with
    | false => rfl
    | true =>
      simp only [isSpace, Bool.or_eq_true, beq_iff_eq] at space
      rcases space with ((rfl | rfl) | rfl) | rfl <;> exact absurd h (by decide)
  all_goals
    rintro rfl
    exact absurd h (by decide)

namespace Numeral

/-- A number begins with its sign or with a digit. -/
theorem exists_first (n : Numeral) :
    ∃ c r, n.chars = c :: r ∧ Starts c ∧
      c ≠ '"' ∧ c ≠ '[' ∧ c ≠ '\x7b' ∧ c ≠ 'n' ∧ c ≠ 't' ∧ c ≠ 'f' := by
  obtain ⟨d, ds, first⟩ := List.exists_cons_of_ne_nil n.filled
  unfold chars
  cases n.negative with
  | true => exact ⟨'-', _, rfl, by decide, by decide⟩
  | false =>
    refine ⟨d, _, by rw [if_neg Bool.false_ne_true, List.nil_append, first, List.cons_append], ?_⟩
    exact digit_plain (n.areDigits d (by rw [first]; exact List.mem_cons_self))

end Numeral

namespace Phrase

/-- No text of a phrase is empty, and a blank or a closing bracket does not begin it. -/
theorem Spells.exists_first {p : Phrase} {cs : List Char} (h : p.Spells cs) :
    ∃ c r, cs = c :: r ∧ Starts c := by
  have symbol (c : Char) (r : List Char) (starts : Starts c) :
      ∃ c' r', c :: r = c' :: r' ∧ Starts c' := ⟨c, r, rfl, starts⟩
  induction h with
  | number n =>
    obtain ⟨c, r, text, starts, -⟩ := n.exists_first
    exact ⟨c, r, text, starts⟩
  | lastElement _ ih => exact ih
  | element _ _ ih _ =>
    obtain ⟨c, r, rfl, starts⟩ := ih
    exact ⟨c, _, rfl, starts⟩
  | _ => exact symbol _ _ (by decide)

/-- The reader takes every text of a phrase whole. -/
theorem Spells.reads {p : Phrase} {cs : List Char} (h : p.Spells cs) : p.ReadFrom cs := by
  induction h with
  | null | yes | no =>
    intro fuel rest long _
    cases fuel with
    | zero => simp at long
    | succ fuel => rfl
  | number n =>
    intro fuel rest long ends
    obtain ⟨c, r, text, ⟨space, -, -⟩, quote, array, object, n', t, f⟩ := n.exists_first
    cases fuel with
    | zero => simp [text] at long
    | succ fuel =>
      rw [← number?_numeral n ends, value?, text, List.cons_append, skip_cons space]
      split
      · next none => nomatch none
      · next read => exact absurd (List.cons.inj read).1 quote
      · next read => exact absurd (List.cons.inj read).1 array
      · next read => exact absurd (List.cons.inj read).1 object
      · next read => exact absurd (List.cons.inj read).1 n'
      · next read => exact absurd (List.cons.inj read).1 t
      · next read => exact absurd (List.cons.inj read).1 f
      · rfl
  | @string ps cs h =>
    intro fuel rest long _
    cases fuel with
    | zero => simp at long
    | succ fuel =>
      have tail := stringTail_of_spelled h rest
      simp [value?, skip_cons (c := '"') (by decide), tail]
  | emptyArr | emptyObject =>
    intro fuel rest long _
    cases fuel with
    | zero => simp at long
    | succ fuel => rfl
  | @arr es cs h ih =>
    intro fuel rest long _
    obtain ⟨c, r, rfl, space, closing, -⟩ := h.exists_first
    cases fuel with
    | zero => simp at long
    | succ fuel =>
      have elements := ih fuel rest (by simp at long ⊢; omega)
      rw [List.cons_append, List.append_assoc, List.singleton_append, value?,
        skip_cons (c := '[') (by decide)]
      simp only [List.cons_append, skip_cons space] at elements ⊢
      split
      · next read => exact absurd (List.cons.inj read).1 closing
      · rw [elements, Option.map_some]
  | @object ms cs h ih =>
    intro fuel rest long _
    obtain ⟨c, r, rfl, space, -, closing⟩ := h.exists_first
    cases fuel with
    | zero => simp at long
    | succ fuel =>
      have members := ih fuel rest (by simp at long ⊢; omega)
      rw [List.cons_append, List.append_assoc, List.singleton_append, value?,
        skip_cons (c := '\x7b') (by decide)]
      simp only [List.cons_append, skip_cons space] at members ⊢
      split
      · next read => exact absurd (List.cons.inj read).1 closing
      · rw [members]
        rfl
  | @lastElement e cs h ih =>
    intro fuel rest long
    cases fuel with
    | zero => omega
    | succ fuel =>
      have first := ih fuel (']' :: rest) (by omega) (ends_cons (by decide))
      simp [elements?, first, skip_cons (c := ']') (by decide)]
  | @element e es cs ds first rest ihFirst ihRest =>
    intro fuel after long
    cases fuel with
    | zero => omega
    | succ fuel =>
      simp only [List.length_append, List.length_cons] at long
      have first := ihFirst fuel (',' :: (ds ++ ']' :: after)) (by omega) (ends_cons (by decide))
      have rest := ihRest fuel after (by omega)
      simp [elements?, first, rest, skip_cons (c := ',') (by decide)]
  | @lastMember name ps e cs ds named text h ih =>
    intro fuel after long
    cases fuel with
    | zero => omega
    | succ fuel =>
      simp only [List.length_append, List.length_cons] at long
      have tail := stringTail_of_spelled named (':' :: (ds ++ '\x7d' :: after))
      have value := ih fuel ('\x7d' :: after) (by omega) (ends_cons (by decide))
      simp [members?, tail, text, value, skip_cons (c := '"') (by decide),
        skip_cons (c := ':') (by decide), skip_cons (c := '\x7d') (by decide)]
  | @member name ps e ms cs ds es named text first rest ihFirst ihRest =>
    intro fuel after long
    cases fuel with
    | zero => omega
    | succ fuel =>
      simp only [List.length_append, List.length_cons] at long
      have tail := stringTail_of_spelled named (':' :: (ds ++ ',' :: (es ++ '\x7d' :: after)))
      have value := ihFirst fuel (',' :: (es ++ '\x7d' :: after)) (by omega)
        (ends_cons (by decide))
      have members := ihRest fuel after (by omega)
      simp [members?, tail, text, value, members, skip_cons (c := '"') (by decide),
        skip_cons (c := ':') (by decide), skip_cons (c := ',') (by decide)]

end Phrase

/-- A word as it is written. -/
def wordNumeral (n : Int64) : Numeral where
  negative := decide (n.toInt < 0)
  whole := Text.digits n.toInt.natAbs
  fraction := []
  exponent := none
  filled := Text.digits_ne_nil _
  areDigits := Text.isDigit_of_mem_digits _
  short := by
    intro zero
    rw [Text.head?_digits_eq_zero zero, Text.digits]
    rfl
  areFraction := by simp

/-- A word is small enough to be kept as a whole number. -/
theorem value_wordNumeral (n : Int64) : (wordNumeral n).value = word n := by
  have low := n.le_toInt
  have high := n.toInt_lt
  have whole : (wordNumeral n).IsWhole := by
    refine ⟨rfl, rfl, ?_⟩
    simp only [wordNumeral, Text.value_digits, decide_eq_true_eq, UInt64.size]
    split <;> omega
  rw [Numeral.value, if_pos whole, word]
  simp only [wordNumeral, Text.value_digits, decide_eq_true_eq]
  congr 1
  split <;> omega

/-- The text that is written for a value is one that spells it. -/
def Legible (j : Json) : Prop := (Phrase.value j).Spells j.chars

theorem legible_null : Legible .null := .null

theorem legible_bool : ∀ b, Legible (.bool b)
  | true => .yes
  | false => .no

theorem legible_word (n : Int64) : Legible (word n) := by
  have chars : (word n).chars = (wordNumeral n).chars := by
    simp only [word, Json.chars, Text.ofInt, Numeral.chars, Numeral.fractionChars,
      Numeral.exponentChars, wordNumeral]
    by_cases negative : n.toInt < 0 <;> simp [negative]
  rw [Legible, chars, ← value_wordNumeral]
  exact .number _

/-- Two digits are enough for a control. -/
theorem hexValues?_hexDigit {n : Nat} (h : n < 32) :
    hexValues? '0' '0' (hexDigit (n / 16)) (hexDigit (n % 16)) = some n := by
  revert h
  revert n
  decide

/-- The way in which a character is written is one of the ways to write it. -/
theorem spells_charText (c : Char) : (Piece.char c).Spells (charText c) := by
  fun_cases charText c with
  | case1 quote => exact .escaped (by rw [quote]; rfl)
  | case2 _ escape => exact .escaped (by rw [escape]; rfl)
  | case3 _ _ line => exact .escaped (by rw [line]; rfl)
  | case4 _ _ _ turn => exact .escaped (by rw [turn]; rfl)
  | case5 _ _ _ _ tab => exact .escaped (by rw [tab]; rfl)
  | case6 _ _ _ _ _ back => exact .escaped (by rw [← Char.ofNat_toNat c, back]; rfl)
  | case7 _ _ _ _ _ _ form => exact .escaped (by rw [← Char.ofNat_toNat c, form]; rfl)
  | case8 _ _ _ _ _ _ _ low =>
    have number : Piece.ofNumber c.toNat = .char c := by
      rw [Piece.ofNumber, if_neg (by omega), Char.ofNat_toNat]
    rw [← number]
    exact .numbered (hexValues?_hexDigit low)
  | case9 quote escape _ _ _ _ _ visible => exact .plain ⟨by omega, quote, escape⟩

theorem join?_map_char (cs : List Char) : join? (cs.map .char) = some cs := by
  induction cs with
  | nil => rfl
  | cons c cs ih => rw [List.map_cons, join?, ih, Option.map_some]

theorem piecesSpelled_charText (cs : List Char) :
    PiecesSpelled (cs.map .char) (cs.flatMap charText) := by
  induction cs with
  | nil => exact .nil
  | cons c cs ih => exact .cons (spells_charText c) ih

theorem legible_str (s : String) : Legible (.str s) := by
  have spells := Phrase.Spells.string (piecesSpelled_charText s.toList)
  rwa [join?_map_char, ofString, String.ofList_toList] at spells

theorem legible_optional {f : α → Json} (h : ∀ a, Legible (f a)) :
    ∀ a, Legible (optional f a)
  | none => legible_null
  | some a => h a

theorem spells_elementChars {e : Json} {es : List Json} (h : ∀ e' ∈ e :: es, Legible e') :
    (Phrase.elements (e :: es)).Spells (elementChars (e :: es)) := by
  induction es generalizing e with
  | nil => exact .lastElement (h e List.mem_cons_self)
  | cons e' es ih =>
    have rest := ih fun e'' he => h e'' (List.mem_cons_of_mem e he)
    exact .element (h e List.mem_cons_self) rest

theorem legible_arr {es : List Json} (h : ∀ e ∈ es, Legible e) : Legible (.arr es) := by
  cases es with
  | nil => exact .emptyArr
  | cons e es => exact .arr (spells_elementChars h)

theorem spells_memberChars {m : String × Json} {ms : List (String × Json)}
    (h : ∀ m' ∈ m :: ms, Legible m'.2) :
    (Phrase.members (m :: ms)).Spells
      (memberChars ((m :: ms).map fun m' => (some m'.1, m'.2))) := by
  have name (s : String) := piecesSpelled_charText s.toList
  have text (s : String) := join?_map_char s.toList
  induction ms generalizing m with
  | nil =>
    have member := Phrase.Spells.lastMember (name m.1) (text m.1) (h m List.mem_cons_self)
    simpa [memberChars, quote] using member
  | cons m' ms ih =>
    have rest := ih fun m'' hm => h m'' (List.mem_cons_of_mem m hm)
    have members := Phrase.Spells.member (name m.1) (text m.1) (h m List.mem_cons_self) rest
    simpa [memberChars, quote] using members

theorem legible_object {ms : List (String × Json)} (h : ∀ m ∈ ms, Legible m.2) :
    Legible (object ms) := by
  cases ms with
  | nil => exact .emptyObject
  | cons m ms => exact .object (spells_memberChars h)

end Json

end Tillbook
