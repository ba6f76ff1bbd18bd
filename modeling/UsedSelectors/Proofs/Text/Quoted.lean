import UsedSelectors.Proofs.Script.Decoding
import UsedSelectors.Text.Lines
import UsedSelectors.Text.Quoted

/-!
# Reading quoted texts back

A quoted text is one line of printable characters, whatever was put between the quotes. Reading it
up to its closing quote, with every escape undone, gives back just the text that was quoted, so two
texts are never quoted alike.
-/

namespace UsedSelectors

open Script.Escape

def IsPrintable (cs : List Char) : Prop := ∀ c ∈ cs, isPrintableChar c = true

/-- The control characters below the space, and those from U+007F to U+009F. -/
def IsControl (c : Char) : Prop := c.toNat < 0x20 ∨ (0x7F ≤ c.toNat ∧ c.toNat < 0xA0)

variable {c : Char} {cs more : List Char}

theorem IsPrintable.append (first : IsPrintable cs) (second : IsPrintable more) :
    IsPrintable (cs ++ more) :=
  List.forall_mem_append.mpr ⟨first, second⟩

theorem isPrintableChar_of_ascii (notControl : 0x20 ≤ c.toNat) (ascii : c.toNat < 0x7F) :
    isPrintableChar c = true := by
  have outside : ∀ run ∈ unprintableRuns, run.2 < 0x20 ∨ 0x7F ≤ run.1 := by decide +kernel
  rw [isPrintableChar, isPrintableCode, Bool.not_eq_true', List.any_eq_false]
  intro run listed inside
  have := outside run listed
  simp only [Bool.and_eq_true, decide_eq_true_eq] at inside
  omega

theorem not_isPrintableChar_of_mem {low high : Nat} (listed : (low, high) ∈ unprintableRuns)
    (above : low ≤ c.toNat) (below : c.toNat ≤ high) : ¬ isPrintableChar c = true := by
  rw [isPrintableChar, isPrintableCode, Bool.not_eq_true', Bool.not_eq_false, List.any_eq_true]
  refine ⟨(low, high), listed, ?_⟩
  rw [Bool.and_eq_true, decide_eq_true_eq, decide_eq_true_eq]
  exact ⟨above, below⟩

theorem not_isControl_of_isPrintableChar (printable : isPrintableChar c = true) :
    ¬ IsControl c ∧ isLineEnd c = false := by
  have first : (0x0, 0x1F) ∈ unprintableRuns := by decide
  have second : (0x7F, 0xA0) ∈ unprintableRuns := by decide
  have separators : (0x2028, 0x202F) ∈ unprintableRuns := by decide +kernel
  have outside {low high : Nat} (listed : (low, high) ∈ unprintableRuns) :
      ¬ (low ≤ c.toNat ∧ c.toNat ≤ high) := by
    rintro ⟨above, below⟩
    exact not_isPrintableChar_of_mem listed above below printable
  have := outside first
  have := outside second
  have := outside separators
  constructor
  · rw [IsControl]
    omega
  · rw [Bool.eq_false_iff]
    simp only [isLineEnd, ne_eq, Bool.or_eq_true, Bool.and_eq_true, decide_eq_true_eq, beq_iff_eq]
    omega

theorem isPrintable_toString (n : Nat) : IsPrintable (toString n).toList := by
  intro c member
  rw [show (toString n).toList = Nat.toDigits 10 n from Nat.toList_repr] at member
  have digit := Nat.isDigit_of_mem_toDigits (by decide) (by decide) member
  simp only [Char.isDigit, Bool.and_eq_true, decide_eq_true_eq, ge_iff_le] at digit
  have low : 48 ≤ c.toNat := UInt32.le_iff_toNat_le.mp digit.1
  have high : c.toNat ≤ 57 := UInt32.le_iff_toNat_le.mp digit.2
  exact isPrintableChar_of_ascii (by omega) (by omega)

namespace Quoted

/-! ## Printable -/

theorem isPrintable_hexDigits (places n : Nat) : IsPrintable (hexDigits places n) := by
  have digit : ∀ d < 16, 0x20 ≤ (hexDigit d).toNat ∧ (hexDigit d).toNat < 0x7F := by decide
  induction places generalizing n with
  | zero => exact List.forall_mem_nil _
  | succ places ih =>
      obtain ⟨notControl, ascii⟩ := digit (n % 16) (Nat.mod_lt n (by decide))
      exact (ih (n / 16)).append
        (List.forall_mem_singleton.mpr (isPrintableChar_of_ascii notControl ascii))

theorem isPrintable_quoteFor (cs : List Char) : isPrintableChar (quoteFor cs) = true := by
  rw [quoteFor]
  split <;> exact isPrintableChar_of_ascii (by decide) (by decide)

theorem isPrintable_escape {quote : Char} (printable : isPrintableChar quote = true) (c : Char) :
    IsPrintable (escape quote c) := by
  have pair {d : Char} (printable : isPrintableChar d = true) : IsPrintable ['\\', d] :=
    List.forall_mem_cons.mpr ⟨isPrintableChar_of_ascii (by decide) (by decide),
      List.forall_mem_singleton.mpr printable⟩
  have letter {d : Char} (notControl : 0x20 ≤ d.toNat) (ascii : d.toNat < 0x7F) :
      IsPrintable ['\\', d] := pair (isPrintableChar_of_ascii notControl ascii)
  unfold escape
  dsimp only
  split_ifs with marked tab lineFeed carriageReturn plain small medium
  · rw [Bool.or_eq_true, beq_iff_eq, beq_iff_eq] at marked
    rcases marked with rfl | rfl
    · exact pair printable
    · exact letter (by decide) (by decide)
  · exact letter (by decide) (by decide)
  · exact letter (by decide) (by decide)
  · exact letter (by decide) (by decide)
  · exact List.forall_mem_singleton.mpr plain
  · exact (letter (by decide) (by decide)).append (isPrintable_hexDigits 2 c.toNat)
  · exact (letter (by decide) (by decide)).append (isPrintable_hexDigits 4 c.toNat)
  · exact (letter (by decide) (by decide)).append (isPrintable_hexDigits 8 c.toNat)

theorem isPrintable_encode (cs : List Char) : IsPrintable (encode cs) := by
  have quote := isPrintable_quoteFor cs
  refine IsPrintable.append (List.forall_mem_cons.mpr ⟨quote, ?_⟩)
    (List.forall_mem_singleton.mpr quote)
  intro d member
  obtain ⟨c, _, inEscape⟩ := List.mem_flatMap.mp member
  exact isPrintable_escape quote c d inEscape

/-! ## Reading back -/

def letters : List (Char × Char) :=
  [('\\', '\\'), ('\'', '\''), ('"', '"'), ('t', '\t'), ('n', '\n'), ('r', '\r')]

def places : List (Char × Nat) := [('x', 2), ('u', 4), ('U', 8)]

/-- What the escape with a letter stands for, and how many characters it takes after the letter. -/
def readEscape? (letter : Char) (rest : List Char) : Option (Char × Nat) :=
  match places.lookup letter with
  | some count => (fixedHex? count rest).map fun n => (Char.ofNat n, count)
  | none => (letters.lookup letter).map fun c => (c, 0)

def readInside (quote : Char) : List Char → Option (List Char)
  | [] => none
  | c :: rest =>
    if c = quote then if rest = [] then some [] else none
    else if c = '\\' then
      match rest with
      | [] => none
      | letter :: rest =>
        match readEscape? letter rest with
        | none => none
        | some (d, count) => (readInside quote (rest.drop count)).map (d :: ·)
    else (readInside quote rest).map (c :: ·)
termination_by cs => cs.length
decreasing_by all_goals simp only [List.length_drop, List.length_cons]; omega

def decode : List Char → Option (List Char)
  | [] => none
  | quote :: rest => if quote = '\'' ∨ quote = '"' then readInside quote rest else none

variable {quote : Char} {rest : List Char}

theorem readInside_of_readEscape? {letter : Char} (inside : List Char)
    (isQuote : quote = '\'' ∨ quote = '"')
    (found : readEscape? letter (inside ++ rest) = some (c, inside.length)) :
    readInside quote ('\\' :: letter :: (inside ++ rest)) =
      (readInside quote rest).map (c :: ·) := by
  have notQuote : '\\' ≠ quote := by rcases isQuote with rfl | rfl <;> decide
  rw [readInside, if_neg notQuote, if_pos rfl, found]
  dsimp only
  rw [List.drop_left]

theorem readInside_letter {letter : Char} (isQuote : quote = '\'' ∨ quote = '"')
    (listed : (letter, c) ∈ letters) :
    readInside quote ('\\' :: letter :: rest) = (readInside quote rest).map (c :: ·) := by
  have all : ∀ entry ∈ letters, places.lookup entry.1 = none ∧
      letters.lookup entry.1 = some entry.2 := by decide
  obtain ⟨noPlaces, known⟩ := all _ listed
  refine readInside_of_readEscape? [] isQuote ?_
  rw [readEscape?, noPlaces, known]
  rfl

theorem readInside_hexDigits {letter : Char} {count : Nat} (isQuote : quote = '\'' ∨ quote = '"')
    (listed : (letter, count) ∈ places) (small : c.toNat < 16 ^ count) :
    readInside quote ('\\' :: letter :: (hexDigits count c.toNat ++ rest)) =
      (readInside quote rest).map (c :: ·) := by
  have all : ∀ entry ∈ places, places.lookup entry.1 = some entry.2 := by decide
  obtain ⟨digits, written, rfl, same⟩ := HexDigit.exists_hexDigits_eq small
  refine readInside_of_readEscape? _ isQuote ?_
  rw [readEscape?, all _ listed, written, List.length_map]
  dsimp only
  rw [fixedHex?_char, same, Option.map_some, Char.ofNat_toNat]

theorem readInside_plain (notQuote : c ≠ quote) (notBackslash : c ≠ '\\') :
    readInside quote (c :: rest) = (readInside quote rest).map (c :: ·) := by
  rw [readInside.eq_def]
  dsimp only
  rw [if_neg notQuote, if_neg notBackslash]

/-- What is written for one character is read as that character, whatever follows. -/
theorem readInside_escape (isQuote : quote = '\'' ∨ quote = '"') (c : Char) (rest : List Char) :
    readInside quote (escape quote c ++ rest) = (readInside quote rest).map (c :: ·) := by
  have letter {d e : Char} (same : c = e) (listed : (d, e) ∈ letters) :
      readInside quote ('\\' :: d :: rest) = (readInside quote rest).map (c :: ·) := by
    rw [same]
    exact readInside_letter isQuote listed
  unfold escape
  dsimp only
  split_ifs with marked tab lineFeed carriageReturn plain small medium
  · rw [Bool.or_eq_true, beq_iff_eq, beq_iff_eq] at marked
    refine letter rfl ?_
    rcases marked with rfl | rfl
    · rcases isQuote with rfl | rfl <;> decide
    · decide
  · exact letter (beq_iff_eq.mp tab) (by decide)
  · exact letter (beq_iff_eq.mp lineFeed) (by decide)
  · exact letter (beq_iff_eq.mp carriageReturn) (by decide)
  · rw [Bool.or_eq_true, not_or, beq_iff_eq, beq_iff_eq] at marked
    exact readInside_plain marked.1 marked.2
  · exact readInside_hexDigits isQuote (by decide) small
  · exact readInside_hexDigits isQuote (by decide) medium
  · exact readInside_hexDigits isQuote (by decide) (UInt32.toNat_lt c.val)

theorem quoteFor_cases (cs : List Char) : quoteFor cs = '\'' ∨ quoteFor cs = '"' := by
  rw [quoteFor]
  split
  · exact .inr rfl
  · exact .inl rfl

/-- A quoted text is read back as it was. -/
theorem decode_encode (cs : List Char) : decode (encode cs) = some cs := by
  have isQuote := quoteFor_cases cs
  have inside (more : List Char) :
      readInside (quoteFor cs) (more.flatMap (escape (quoteFor cs)) ++ [quoteFor cs]) =
        some more := by
    induction more with
    | nil => rw [List.flatMap_nil, List.nil_append, readInside, if_pos rfl, if_pos rfl]
    | cons c more ih =>
        rw [List.flatMap_cons, List.append_assoc, readInside_escape isQuote, ih]
        rfl
  rw [encode, List.cons_append, decode, if_pos isQuote]
  exact inside cs

end Quoted

theorem quoted_injective {s t : String} (same : quoted s = quoted t) : s = t := by
  have read := congrArg (fun q => Quoted.decode q.toList) same
  simp only [quoted, String.toList_ofList, Quoted.decode_encode, Option.some.injEq] at read
  exact String.toList_inj.mp read

end UsedSelectors
