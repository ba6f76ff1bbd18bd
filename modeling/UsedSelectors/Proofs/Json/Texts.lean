import UsedSelectors.Proofs.Json.Written
import UsedSelectors.Proofs.Script.Units

/-!
# JSON texts

A text is JSON for a value when it spells the tokens of the value, with blanks anywhere between
them. The characters of a string may be escaped; an escape by number stands for a unit of UTF-16.
There are no truth values and no numbers but whole ones, as values have none. What is written for a
value is such a text, whichever way of spelling strings is taken.
-/

namespace UsedSelectors.Json

open Script.Escape

inductive Token where
  | beginArray
  | endArray
  | beginObject
  | endObject
  | colon
  | comma
  | null
  | number (n : Int)
  | string (s : String)
  deriving DecidableEq

def Token.ofMark? : Char → Option Token
  | '[' => some beginArray
  | ']' => some endArray
  | '\x7b' => some beginObject
  | '\x7d' => some endObject
  | ':' => some colon
  | ',' => some comma
  | _ => none

def isBlank (c : Char) : Bool := c == ' ' || c == '\t' || c == '\n' || c == '\r'

def escapedLetters : List (Char × Char) :=
  [('"', '"'), ('\\', '\\'), ('/', '/'), ('b', '\x08'), ('f', '\x0c'), ('n', '\n'), ('r', '\r'),
    ('t', '\t')]

mutual

def tokens : Json → List Token → List Token
  | null, rest => .null :: rest
  | number n, rest => .number n :: rest
  | string s, rest => .string s :: rest
  | array items, rest => .beginArray :: itemTokens items (.endArray :: rest)
  | object members, rest => .beginObject :: memberTokens members (.endObject :: rest)

def itemTokens : List Json → List Token → List Token
  | [], rest => rest
  | item :: items, rest => item.tokens (moreItemTokens items rest)

def moreItemTokens : List Json → List Token → List Token
  | [], rest => rest
  | item :: items, rest => .comma :: item.tokens (moreItemTokens items rest)

def memberTokens : List (String × Json) → List Token → List Token
  | [], rest => rest
  | (name, value) :: members, rest =>
    .string name :: .colon :: value.tokens (moreMemberTokens members rest)

def moreMemberTokens : List (String × Json) → List Token → List Token
  | [], rest => rest
  | (name, value) :: members, rest =>
    .comma :: .string name :: .colon :: value.tokens (moreMemberTokens members rest)

end

/-! ## The grammar -/

/-- Characters between quotes, and the units of UTF-16 or the characters they stand for. -/
inductive SpelledUnits : Text → List Char → Prop where
  | nil : SpelledUnits [] []
  | plain {c : Char} {units : Text} {text : List Char} (notControl : 0x20 ≤ c.toNat)
      (notQuote : c ≠ '"') (notBackslash : c ≠ '\\') (rest : SpelledUnits units text) :
      SpelledUnits (.ofChar c :: units) (c :: text)
  | letter {letter c : Char} {units : Text} {text : List Char}
      (listed : (letter, c) ∈ escapedLetters) (rest : SpelledUnits units text) :
      SpelledUnits (.ofChar c :: units) ('\\' :: letter :: text)
  | number {a b c d : Char} {unit : CodePoint} {units : Text} {text : List Char}
      (hex : fixedHex? 4 [a, b, c, d] = some unit.val) (rest : SpelledUnits units text) :
      SpelledUnits (unit :: units) ('\\' :: 'u' :: a :: b :: c :: d :: text)

inductive SpelledNumber : Int → List Char → Prop where
  | natural (n : Nat) : SpelledNumber n (Nat.toDigits 10 n)
  | negative (n : Nat) : SpelledNumber (-n) ('-' :: Nat.toDigits 10 n)

def NoDigit (text : List Char) : Prop := ∀ c ∈ text.head?, c.isDigit = false

inductive Spelled : List Token → List Char → Prop where
  | nil : Spelled [] []
  | blank {c : Char} {ts : List Token} {text : List Char} (h : isBlank c = true)
      (rest : Spelled ts text) : Spelled ts (c :: text)
  | mark {c : Char} {t : Token} {ts : List Token} {text : List Char}
      (h : Token.ofMark? c = some t) (rest : Spelled ts text) : Spelled (t :: ts) (c :: text)
  | null {ts : List Token} {text : List Char} (rest : Spelled ts text) :
      Spelled (.null :: ts) ('n' :: 'u' :: 'l' :: 'l' :: text)
  | number {n : Int} {digits : List Char} {ts : List Token} {text : List Char}
      (h : SpelledNumber n digits) (ends : NoDigit text) (rest : Spelled ts text) :
      Spelled (.number n :: ts) (digits ++ text)
  | string {s : String} {units : Text} {inside : List Char} {ts : List Token} {text : List Char}
      (h : SpelledUnits units inside) (joined : joinPairs units = .ofString s)
      (rest : Spelled ts text) : Spelled (.string s :: ts) ('"' :: (inside ++ '"' :: text))

/-- A text is JSON for a value. -/
def IsTextOf (value : Json) (text : String) : Prop := Spelled (value.tokens []) text.toList

/-! ## What is written for strings and numbers -/

theorem spelledUnits_escape {units : Text} {text : List Char} (c : Char)
    (rest : SpelledUnits units text) : SpelledUnits (.ofChar c :: units) (escape c ++ text) := by
  have control : ∀ n < 0x20, fixedHex? 4 (hexDigits 4 n) = some n := by decide
  have letter {d e : Char} (same : c = e) (listed : (d, e) ∈ escapedLetters) :
      SpelledUnits (.ofChar c :: units) ('\\' :: d :: text) := by
    rw [same]
    exact .letter listed rest
  unfold escape
  split_ifs with quote backslash backspace formFeed lineFeed carriageReturn tab small
  · exact letter (beq_iff_eq.mp quote) (by decide)
  · exact letter (beq_iff_eq.mp backslash) (by decide)
  · exact letter (beq_iff_eq.mp backspace) (by decide)
  · exact letter (beq_iff_eq.mp formFeed) (by decide)
  · exact letter (beq_iff_eq.mp lineFeed) (by decide)
  · exact letter (beq_iff_eq.mp carriageReturn) (by decide)
  · exact letter (beq_iff_eq.mp tab) (by decide)
  · exact .number (control c.toNat small) rest
  · exact .plain (Nat.le_of_not_lt small) (mt beq_iff_eq.mpr quote)
      (mt beq_iff_eq.mpr backslash) rest

theorem spelledUnits_escaped (s : String) : SpelledUnits (Text.ofString s) (escaped s) := by
  rw [escaped, Text.ofString]
  induction s.toList with
  | nil => exact .nil
  | cons c cs ih => exact spelledUnits_escape c ih

/-! ## Spellings -/

def IsSpellingOf (s : String) (text : List Char) : Prop :=
  ∃ units, SpelledUnits units text ∧ joinPairs units = .ofString s

/-- A way to spell strings. -/
structure Spelling where
  spell : String → List Char
  spells : ∀ s, IsSpellingOf s (spell s)

def Spelling.plain : Spelling where
  spell := escaped
  spells s := ⟨_, spelledUnits_escaped s, joinPairs_of_isScalar (Text.isScalar_ofString s)⟩

theorem noControl_of_fixedHex? {digits : List Char} {n : Nat}
    (hex : fixedHex? digits.length digits = some n) : NoControl digits := by
  unfold fixedHex? at hex
  dsimp only at hex
  rw [List.take_length] at hex
  split at hex
  · rename_i same
    intro c member
    have isDigit := List.filterMap_length_eq_length.mp same c member
    unfold hexValue? at isDigit
    dsimp only at isDigit
    split_ifs at isDigit with decimal small capital
    · exact Nat.le_trans (by decide) (of_decide_eq_true (Bool.and_eq_true_iff.mp decimal).1)
    · exact Nat.le_trans (by decide) (of_decide_eq_true (Bool.and_eq_true_iff.mp small).1)
    · exact Nat.le_trans (by decide) (of_decide_eq_true (Bool.and_eq_true_iff.mp capital).1)
    · cases isDigit
  · cases hex

theorem noControl_of_spelledUnits {units : Text} {text : List Char}
    (h : SpelledUnits units text) : NoControl text := by
  have letters : ∀ entry ∈ escapedLetters, 0x20 ≤ entry.1.toNat := by decide
  induction h with
  | nil => exact noControl_nil
  | plain notControl _ _ _ ih => exact ih.cons notControl
  | letter listed _ ih => exact (ih.cons (letters _ listed)).cons (by decide)
  | @number a b c d _ _ _ hex _ ih =>
      have clean : NoControl [a, b, c, d] := noControl_of_fixedHex? hex
      have digits := List.forall_mem_append.mpr ⟨clean, ih⟩
      exact (NoControl.cons (by decide) digits).cons (by decide)

theorem Spelling.clean (spelling : Spelling) (s : String) : NoControl (spelling.spell s) := by
  obtain ⟨_, spelled, _⟩ := spelling.spells s
  exact noControl_of_spelledUnits spelled

variable {ts : List Token} {rest : List Char} (spelling : Spelling)

theorem spelled_writeString (s : String) (after : Spelled ts rest) :
    Spelled (.string s :: ts) (writeString spelling.spell s rest) := by
  obtain ⟨_, spelled, joined⟩ := spelling.spells s
  exact .string spelled joined after

theorem spelledNumber_toString (n : Int) : SpelledNumber n (toString n).toList := by
  rcases toString_cases n with ⟨m, rfl, same⟩ | ⟨m, rfl, same⟩
  · rw [same]
    exact .natural m
  · rw [same]
    exact .negative m

theorem spelled_writeNumber (n : Int) (after : Spelled ts rest) (ends : NoDigit rest) :
    Spelled (.number n :: ts) (writeNumber n rest) :=
  .number (spelledNumber_toString n) ends after

/-! ## What is written for values -/

theorem noDigit_writeMoreItems (items : List Json) (ends : NoDigit rest) :
    NoDigit (writeMoreItems spelling.spell items rest) := by
  cases items with
  | nil => exact ends
  | cons item items =>
      rw [writeMoreItems, NoDigit]
      simp

theorem noDigit_writeMoreMembers (members : List (String × Json)) (ends : NoDigit rest) :
    NoDigit (writeMoreMembers spelling.spell members rest) := by
  cases members with
  | nil => exact ends
  | cons member members =>
      rw [writeMoreMembers, NoDigit]
      simp

mutual

theorem spelled_write : (value : Json) → {ts : List Token} → {rest : List Char} →
    Spelled ts rest → NoDigit rest → Spelled (value.tokens ts) (value.write spelling.spell rest)
  | null, _, _, after, _ => .null after
  | number n, _, _, after, ends => spelled_writeNumber n after ends
  | string s, _, _, after, _ => spelled_writeString spelling s after
  | array items, _, _, after, _ =>
      .mark rfl (spelled_writeItems items (.mark rfl after) (by simp [NoDigit]))
  | object members, _, _, after, _ =>
      .mark rfl (spelled_writeMembers members (.mark rfl after) (by simp [NoDigit]))

theorem spelled_writeItems : (items : List Json) → {ts : List Token} → {rest : List Char} →
    Spelled ts rest → NoDigit rest →
      Spelled (itemTokens items ts) (writeItems spelling.spell items rest)
  | [], _, _, after, _ => after
  | item :: items, _, _, after, ends =>
      spelled_write item (spelled_writeMoreItems items after ends)
        (noDigit_writeMoreItems spelling items ends)

theorem spelled_writeMoreItems : (items : List Json) → {ts : List Token} → {rest : List Char} →
    Spelled ts rest → NoDigit rest →
      Spelled (moreItemTokens items ts) (writeMoreItems spelling.spell items rest)
  | [], _, _, after, _ => after
  | item :: items, _, _, after, ends =>
      .mark rfl (spelled_write item (spelled_writeMoreItems items after ends)
        (noDigit_writeMoreItems spelling items ends))

theorem spelled_writeMembers : (members : List (String × Json)) → {ts : List Token} →
    {rest : List Char} → Spelled ts rest → NoDigit rest →
      Spelled (memberTokens members ts) (writeMembers spelling.spell members rest)
  | [], _, _, after, _ => after
  | (name, value) :: members, _, _, after, ends =>
      spelled_writeString spelling name (.mark rfl (spelled_write value
        (spelled_writeMoreMembers members after ends)
        (noDigit_writeMoreMembers spelling members ends)))

theorem spelled_writeMoreMembers : (members : List (String × Json)) → {ts : List Token} →
    {rest : List Char} → Spelled ts rest → NoDigit rest →
      Spelled (moreMemberTokens members ts) (writeMoreMembers spelling.spell members rest)
  | [], _, _, after, _ => after
  | (name, value) :: members, _, _, after, ends =>
      .mark rfl (spelled_writeString spelling name (.mark rfl (spelled_write value
        (spelled_writeMoreMembers members after ends)
        (noDigit_writeMoreMembers spelling members ends))))

end

/-- What is written for a value is JSON for it. -/
theorem isTextOf_layout (value : Json) : value.IsTextOf (value.layout spelling.spell) := by
  rw [IsTextOf, layout, String.toList_ofList]
  exact spelled_write spelling value .nil (by simp [NoDigit])

end UsedSelectors.Json
