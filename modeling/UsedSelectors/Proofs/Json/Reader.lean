import UsedSelectors.Proofs.Encoding.Writable
import UsedSelectors.Proofs.Json.Texts

/-!
# Reading JSON

A text is cut into tokens, and these are put together with a stack of the arrays and objects that
are still open. Every JSON text is read as the value that it is a text of, so it is the text of no
other value.
-/

namespace UsedSelectors

theorem CodePoint.ofNat?_val (c : CodePoint) : CodePoint.ofNat? c.val = some c := by
  rw [CodePoint.ofNat?, dif_pos c.isLt]

theorem CodePoint.val_of_ofNat? {n : Nat} {c : CodePoint} (h : CodePoint.ofNat? n = some c) :
    n = c.val := by
  rw [CodePoint.ofNat?] at h
  split at h
  · cases h
    rfl
  · cases h

namespace Json

open Script.Escape

/-! ## Tokens -/

theorem mem_escapedLetters_iff {letter c : Char} :
    (letter, c) ∈ escapedLetters ↔ escapedLetters.lookup letter = some c := by
  constructor
  · have each : ∀ entry ∈ escapedLetters, escapedLetters.lookup entry.1 = some entry.2 := by decide
    exact each (letter, c)
  · intro found
    obtain ⟨before, after, same, _⟩ := List.lookup_eq_some_iff.mp found
    rw [same]
    exact List.mem_append_right _ List.mem_cons_self

def readUnits : List Char → Option (Text × List Char)
  | [] => none
  | c :: rest =>
    if c = '"' then some ([], rest)
    else if c = '\\' then
      match rest with
      | 'u' :: a :: b :: c :: d :: rest =>
        match (fixedHex? 4 [a, b, c, d]).bind CodePoint.ofNat?, readUnits rest with
        | some unit, some (units, after) => some (unit :: units, after)
        | _, _ => none
      | letter :: rest =>
        match escapedLetters.lookup letter, readUnits rest with
        | some c, some (units, after) => some (.ofChar c :: units, after)
        | _, _ => none
      | [] => none
    else if c.toNat < 0x20 then none
    else (readUnits rest).map fun (units, after) => (.ofChar c :: units, after)

def readString (cs : List Char) : Option (String × List Char) :=
  match readUnits cs with
  | some (units, after) => (joinPairs units).toString?.map fun s => (s, after)
  | none => none

/-- Reads all digits that come next, if they are those of a number. -/
def readDigits (cs : List Char) : Option (Nat × List Char) :=
  let digits := cs.takeWhile Char.isDigit
  let n := Nat.ofDigitChars 10 digits 0
  -- Digits that begin with a zero are not those of their number, and neither are none at all.
  if Nat.toDigits 10 n = digits then some (n, cs.dropWhile Char.isDigit) else none

def readNumber (c : Char) (rest : List Char) : Option (Int × List Char) :=
  if c = '-' then (readDigits rest).map fun (n, after) => (-n, after)
  else (readDigits (c :: rest)).map fun (n, after) => (n, after)

def readNull : List Char → Option (Token × List Char)
  | 'u' :: 'l' :: 'l' :: after => some (.null, after)
  | _ => none

def readToken (c : Char) (rest : List Char) : Option (Token × List Char) :=
  match Token.ofMark? c with
  | some t => some (t, rest)
  | none =>
    if c = '"' then (readString rest).map fun (s, after) => (.string s, after)
    else if c = 'n' then readNull rest
    else (readNumber c rest).map fun (n, after) => (.number n, after)

theorem readUnits_sound {cs after : List Char} {units : Text}
    (h : readUnits cs = some (units, after)) :
    ∃ inside, cs = inside ++ '"' :: after ∧ SpelledUnits units inside := by
  fun_induction readUnits cs generalizing units after with
  | case1 => cases h
  | case2 =>
      cases h
      exact ⟨[], rfl, .nil⟩
  | case3 a b c d rest unit units' after' read isUnit _ ih =>
      cases h
      obtain ⟨inside, rfl, spelled⟩ := ih read
      obtain ⟨n, hex, isPoint⟩ := Option.bind_eq_some_iff.mp isUnit
      rw [CodePoint.val_of_ofNat? isPoint] at hex
      exact ⟨_, rfl, .number hex spelled⟩
  | case4 => cases h
  | case5 letter rest _ c units' after' read isLetter _ ih =>
      cases h
      obtain ⟨inside, rfl, spelled⟩ := ih read
      exact ⟨_, rfl, .letter (mem_escapedLetters_iff.mpr isLetter) spelled⟩
  | case6 => cases h
  | case7 => cases h
  | case8 => cases h
  | case9 c rest notQuote notBackslash notControl ih =>
      obtain ⟨⟨units', after'⟩, read, same⟩ := Option.map_eq_some_iff.mp h
      cases same
      obtain ⟨inside, rfl, spelled⟩ := ih read
      exact ⟨_, rfl, .plain (Nat.le_of_not_lt notControl) notQuote notBackslash spelled⟩

theorem readUnits_complete {units : Text} {inside : List Char} (h : SpelledUnits units inside)
    (after : List Char) : readUnits (inside ++ '"' :: after) = some (units, after) := by
  induction h with
  | nil =>
      rw [List.nil_append, readUnits.eq_def]
      exact if_pos rfl
  | plain notControl notQuote notBackslash _ ih =>
      rw [List.cons_append, readUnits.eq_def]
      dsimp only
      rw [if_neg notQuote, if_neg notBackslash, if_neg (Nat.not_lt.mpr notControl), ih]
      rfl
  | @letter letter c units text listed _ ih =>
      have notNumber : letter ≠ 'u' := by
        rintro rfl
        revert listed
        simp [escapedLetters]
      rw [List.cons_append, List.cons_append, readUnits, if_neg (by decide), if_pos rfl,
        mem_escapedLetters_iff.mp listed, ih]
      intro _ _ _ _ _ same
      exact absurd same notNumber
  | number hex _ ih =>
      rw [List.cons_append, List.cons_append, List.cons_append, List.cons_append,
        List.cons_append, List.cons_append, readUnits, if_neg (by decide), if_pos rfl, hex,
        Option.bind_some, CodePoint.ofNat?_val, ih]

theorem readDigits_sound {cs after : List Char} {n : Nat} (h : readDigits cs = some (n, after)) :
    cs = Nat.toDigits 10 n ++ after ∧ NoDigit after := by
  rw [readDigits] at h
  split at h
  · rename_i isNumber
    cases h
    refine ⟨by rw [isNumber, List.takeWhile_append_dropWhile], ?_⟩
    intro c hc
    have := List.head?_dropWhile_not Char.isDigit cs
    rw [Option.mem_def.mp hc] at this
    simpa using this
  · cases h

theorem readDigits_complete (n : Nat) {after : List Char} (ends : NoDigit after) :
    readDigits (Nat.toDigits 10 n ++ after) = some (n, after) := by
  have digits : ∀ c ∈ Nat.toDigits 10 n, c.isDigit = true :=
    fun c hc => Nat.isDigit_of_mem_toDigits (by decide) (by decide) hc
  have stops : after.takeWhile Char.isDigit = [] ∧ after.dropWhile Char.isDigit = after := by
    cases after with
    | nil => exact ⟨rfl, rfl⟩
    | cons c after =>
        have notDigit : ¬ c.isDigit = true := by simp [ends c rfl]
        exact ⟨List.takeWhile_cons_of_neg notDigit, List.dropWhile_cons_of_neg notDigit⟩
  rw [readDigits, List.takeWhile_append_of_pos digits, List.dropWhile_append_of_pos digits,
    stops.1, stops.2, List.append_nil, Nat.ofDigitChars_ten_toDigits, if_pos rfl]

theorem readNumber_sound {c : Char} {rest after : List Char} {n : Int}
    (h : readNumber c rest = some (n, after)) :
    ∃ digits, c :: rest = digits ++ after ∧ digits ≠ [] ∧ SpelledNumber n digits ∧
      NoDigit after := by
  rw [readNumber] at h
  split at h
  · rename_i minus
    obtain ⟨⟨m, _⟩, read, same⟩ := Option.map_eq_some_iff.mp h
    cases same
    obtain ⟨rfl, ends⟩ := readDigits_sound read
    exact ⟨_, by rw [minus]; rfl, List.cons_ne_nil _ _, .negative m, ends⟩
  · obtain ⟨⟨m, _⟩, read, same⟩ := Option.map_eq_some_iff.mp h
    cases same
    obtain ⟨digits, ends⟩ := readDigits_sound read
    exact ⟨_, digits, Nat.toDigits_ne_nil, .natural m, ends⟩

theorem readToken_sound {c : Char} {rest after : List Char} {t : Token}
    (h : readToken c rest = some (t, after)) : after.length ≤ rest.length ∧
      ∀ ts, Spelled ts after → Spelled (t :: ts) (c :: rest) := by
  unfold readToken at h
  split at h
  · rename_i isMark
    cases h
    exact ⟨Nat.le_refl _, fun _ => .mark isMark⟩
  · split_ifs at h with quote isNull
    · obtain ⟨⟨s, _⟩, read, same⟩ := Option.map_eq_some_iff.mp h
      cases same
      rw [readString] at read
      split at read
      · rename_i units _ readInside
        obtain ⟨inside, rfl, spelled⟩ := readUnits_sound readInside
        obtain ⟨_, joined, same⟩ := Option.map_eq_some_iff.mp read
        cases same
        rw [quote]
        refine ⟨by simp only [List.length_append, List.length_cons]; omega, fun ts => ?_⟩
        exact .string spelled (Text.toString?_eq_some_iff.mp joined).symm
      · cases read
    · unfold readNull at h
      split at h
      · cases h
        rw [isNull]
        refine ⟨by simp only [List.length_cons]; omega, fun ts => .null⟩
      · cases h
    · obtain ⟨⟨n, _⟩, read, same⟩ := Option.map_eq_some_iff.mp h
      cases same
      obtain ⟨digits, cut, notEmpty, spelled, ends⟩ := readNumber_sound read
      have positive := List.length_pos_iff.mpr notEmpty
      have lengths := congrArg List.length cut
      rw [List.length_cons, List.length_append] at lengths
      refine ⟨by omega, fun ts after => ?_⟩
      rw [cut]
      exact .number spelled ends after

def lex : List Char → Option (List Token)
  | [] => some []
  | c :: rest =>
    if isBlank c then lex rest
    else
      match h : readToken c rest with
      | some (t, after) =>
        -- Every token takes a character at least.
        have : after.length ≤ rest.length := (readToken_sound h).1
        (lex after).map (t :: ·)
      | none => none
termination_by cs => cs.length

theorem lex_sound {cs : List Char} {ts : List Token} (h : lex cs = some ts) : Spelled ts cs := by
  fun_induction lex cs generalizing ts with
  | case1 =>
      cases h
      exact .nil
  | case2 c rest blank ih => exact .blank blank (ih h)
  | case3 c rest _ t after read _ ih =>
      obtain ⟨more, lexed, rfl⟩ := Option.map_eq_some_iff.mp h
      exact (readToken_sound read).2 more (ih lexed)
  | case4 => cases h

theorem lex_of_readToken {c : Char} {rest after : List Char} {t : Token} {ts : List Token}
    (notBlank : isBlank c = false) (read : readToken c rest = some (t, after))
    (lexed : lex after = some ts) : lex (c :: rest) = some (t :: ts) := by
  rw [lex, notBlank, if_neg Bool.false_ne_true]
  split
  · rename_i read'
    cases read.symm.trans read'
    rw [lexed]
    rfl
  · rename_i notRead
    cases read.symm.trans notRead

theorem isBlank_of_ofMark? {c : Char} {t : Token} (h : Token.ofMark? c = some t) :
    isBlank c = false := by
  unfold Token.ofMark? at h
  split at h <;> first | rfl | cases h

theorem readToken_of_number {c : Char} (begins : c.isDigit = true ∨ c = '-') (rest : List Char) :
    isBlank c = false ∧
      readToken c rest = (readNumber c rest).map fun (n, after) => (.number n, after) := by
  have others (d : Char) (h : d.isDigit = false ∧ d ≠ '-') : c ≠ d := by
    rintro rfl
    rcases begins with digit | minus
    · rw [h.1] at digit
      cases digit
    · exact h.2 minus
  have notMark : Token.ofMark? c = none := by
    unfold Token.ofMark?
    split
    · exact absurd rfl (others '[' (by decide))
    · exact absurd rfl (others ']' (by decide))
    · exact absurd rfl (others '\x7b' (by decide))
    · exact absurd rfl (others '\x7d' (by decide))
    · exact absurd rfl (others ':' (by decide))
    · exact absurd rfl (others ',' (by decide))
    · rfl
  constructor
  · simp only [isBlank, Bool.or_eq_false_iff, beq_eq_false_iff_ne]
    exact ⟨⟨⟨others ' ' (by decide), others '\t' (by decide)⟩, others '\n' (by decide)⟩,
      others '\r' (by decide)⟩
  · rw [readToken, notMark]
    dsimp only
    rw [if_neg (others '"' (by decide)), if_neg (others 'n' (by decide))]

theorem lex_complete {ts : List Token} {cs : List Char} (h : Spelled ts cs) :
    lex cs = some ts := by
  induction h with
  | nil => rw [lex]
  | blank isBlank _ ih => rw [lex, if_pos isBlank, ih]
  | mark isMark _ ih =>
      refine lex_of_readToken (isBlank_of_ofMark? isMark) ?_ ih
      rw [readToken, isMark]
  | null _ ih => exact lex_of_readToken (by decide) rfl ih
  | @number n digits ts text spelled ends _ ih =>
      cases spelled with
      | natural m =>
          have read := readDigits_complete m ends
          have digits : ∀ c ∈ Nat.toDigits 10 m, c.isDigit = true :=
            fun c hc => Nat.isDigit_of_mem_toDigits (by decide) (by decide) hc
          cases same : Nat.toDigits 10 m with
          | nil => exact absurd same Nat.toDigits_ne_nil
          | cons c rest =>
              rw [same] at read digits
              have digit := digits c List.mem_cons_self
              have notMinus : c ≠ '-' := by
                rintro rfl
                cases digit
              obtain ⟨notBlank, token⟩ := readToken_of_number (.inl digit) (rest ++ text)
              refine lex_of_readToken notBlank (token.trans ?_) ih
              rw [readNumber, if_neg notMinus, ← List.cons_append, read]
              rfl
      | negative m =>
          obtain ⟨notBlank, token⟩ := readToken_of_number (.inr rfl) (Nat.toDigits 10 m ++ text)
          refine lex_of_readToken notBlank (token.trans ?_) ih
          rw [readNumber, if_pos rfl, readDigits_complete m ends]
          rfl
  | @string s units inside ts text spelled joined _ ih =>
      have read : readString (inside ++ '"' :: text) = some (s, text) := by
        rw [readString, readUnits_complete spelled]
        dsimp only
        rw [Text.toString?_eq_some_iff.mpr joined.symm, Option.map_some]
      refine lex_of_readToken (by decide) ?_ ih
      exact congrArg (Option.map _) read

/-! ## Values -/

/-- An array or object that is still open, with what has been read of it. -/
inductive Frame where
  | items (before : List Json)
  | members (before : List (String × Json)) (name : String)

mutual

/-- Reads a value inside open arrays and objects, and what follows it. -/
def readValue (stack : List Frame) : List Token → Option Json
  | .null :: ts => readAfter stack null ts
  | .number n :: ts => readAfter stack (number n) ts
  | .string s :: ts => readAfter stack (string s) ts
  | .beginArray :: .endArray :: ts => readAfter stack (array []) ts
  | .beginArray :: ts => readValue (.items [] :: stack) ts
  | .beginObject :: .endObject :: ts => readAfter stack (object []) ts
  | .beginObject :: .string name :: .colon :: ts => readValue (.members [] name :: stack) ts
  | _ => none

def readAfter : List Frame → Json → List Token → Option Json
  | [], value, [] => some value
  | .items before :: stack, value, .comma :: ts => readValue (.items (before ++ [value]) :: stack) ts
  | .items before :: stack, value, .endArray :: ts => readAfter stack (array (before ++ [value])) ts
  | .members before name :: stack, value, .comma :: .string next :: .colon :: ts =>
    readValue (.members (before ++ [(name, value)]) next :: stack) ts
  | .members before name :: stack, value, .endObject :: ts =>
    readAfter stack (object (before ++ [(name, value)])) ts
  | _, _, _ => none

end

mutual

theorem readValue_tokens : (value : Json) → (stack : List Frame) → (ts : List Token) →
    readValue stack (value.tokens ts) = readAfter stack value ts
  | null, _, _ => by rw [tokens, readValue]
  | number n, _, _ => by rw [tokens, readValue]
  | string s, _, _ => by rw [tokens, readValue]
  | array [], _, _ => by rw [tokens, itemTokens, readValue]
  | array (item :: items), stack, ts => by
      -- A value comes first, so the array is not taken for an empty one.
      have notEnd (more : List Token) : ∀ after, item.tokens more ≠ .endArray :: after := by
        cases item <;> intro after same <;> cases same
      rw [tokens, itemTokens, readValue, readValue_tokens item, readAfter_moreItemTokens items]
      · rfl
      · exact notEnd _
  | object [], _, _ => by rw [tokens, memberTokens, readValue]
  | object ((name, value) :: members), stack, ts => by
      rw [tokens, memberTokens, readValue, readValue_tokens value,
        readAfter_moreMemberTokens members]
      rfl

theorem readAfter_moreItemTokens : (items : List Json) → (stack : List Frame) →
    (before : List Json) → (value : Json) → (ts : List Token) →
    readAfter (.items before :: stack) value (moreItemTokens items (.endArray :: ts)) =
      readAfter stack (array (before ++ value :: items)) ts
  | [], _, _, _, _ => by rw [moreItemTokens, readAfter]
  | item :: items, stack, before, value, ts => by
      rw [moreItemTokens, readAfter, readValue_tokens item, readAfter_moreItemTokens items,
        List.append_assoc, List.singleton_append]

theorem readAfter_moreMemberTokens : (members : List (String × Json)) → (stack : List Frame) →
    (before : List (String × Json)) → (name : String) → (value : Json) → (ts : List Token) →
    readAfter (.members before name :: stack) value (moreMemberTokens members (.endObject :: ts)) =
      readAfter stack (object (before ++ (name, value) :: members)) ts
  | [], _, _, _, _, _ => by rw [moreMemberTokens, readAfter]
  | (next, item) :: members, stack, before, name, value, ts => by
      rw [moreMemberTokens, readAfter, readValue_tokens item, readAfter_moreMemberTokens members,
        List.append_assoc, List.singleton_append]

end

def heldItems : List Json → List Token → List Token
  | [], rest => rest
  | item :: items, rest => item.tokens (.comma :: heldItems items rest)

def heldMembers : List (String × Json) → List Token → List Token
  | [], rest => rest
  | (name, value) :: members, rest =>
    .string name :: .colon :: value.tokens (.comma :: heldMembers members rest)

def openTokens : List Frame → List Token → List Token
  | [], rest => rest
  | .items before :: stack, rest => openTokens stack (.beginArray :: heldItems before rest)
  | .members before name :: stack, rest =>
    openTokens stack (.beginObject :: heldMembers before (.string name :: .colon :: rest))

theorem heldItems_append (items : List Json) (value : Json) (rest : List Token) :
    heldItems (items ++ [value]) rest = heldItems items (value.tokens (.comma :: rest)) := by
  induction items with
  | nil => rfl
  | cons item items ih => rw [List.cons_append, heldItems, ih, heldItems]

theorem itemTokens_append (items : List Json) (value : Json) (rest : List Token) :
    itemTokens (items ++ [value]) rest = heldItems items (value.tokens rest) := by
  have more (items : List Json) : moreItemTokens (items ++ [value]) rest =
      .comma :: heldItems items (value.tokens rest) := by
    induction items with
    | nil => rfl
    | cons item items ih => rw [List.cons_append, moreItemTokens, ih, heldItems]
  cases items with
  | nil => rfl
  | cons item items => rw [List.cons_append, itemTokens, more, heldItems]

theorem heldMembers_append (members : List (String × Json)) (name : String) (value : Json)
    (rest : List Token) : heldMembers (members ++ [(name, value)]) rest =
      heldMembers members (.string name :: .colon :: value.tokens (.comma :: rest)) := by
  induction members with
  | nil => rfl
  | cons member members ih => rw [List.cons_append, heldMembers, ih, heldMembers]

theorem memberTokens_append (members : List (String × Json)) (name : String) (value : Json)
    (rest : List Token) : memberTokens (members ++ [(name, value)]) rest =
      heldMembers members (.string name :: .colon :: value.tokens rest) := by
  have more (members : List (String × Json)) :
      moreMemberTokens (members ++ [(name, value)]) rest =
        .comma :: heldMembers members (.string name :: .colon :: value.tokens rest) := by
    induction members with
    | nil => rfl
    | cons member members ih => rw [List.cons_append, moreMemberTokens, ih, heldMembers]
  cases members with
  | nil => rfl
  | cons member members => rw [List.cons_append, memberTokens, more, heldMembers]

theorem readValue_sound {whole : Json} (stack : List Frame) (ts : List Token)
    (h : readValue stack ts = some whole) : whole.tokens [] = openTokens stack ts := by
  -- The two functions call each other, so what is left after a value is told along with it.
  refine (readValue.mutual_induct
    (fun stack ts => readValue stack ts = some whole → whole.tokens [] = openTokens stack ts)
    (fun stack value ts => readAfter stack value ts = some whole →
      whole.tokens [] = openTokens stack (value.tokens ts))
    ?null ?number ?string ?emptyArray ?array ?emptyObject ?object ?noValue
    ?done ?nextItem ?endArray ?nextMember ?endObject ?noEnd).1 stack ts h
  case null | emptyArray | emptyObject =>
    intro stack ts ih read
    rw [readValue] at read
    exact ih read
  case number | string | object =>
    intro stack _ ts ih read
    rw [readValue] at read
    exact ih read
  case array =>
    intro stack ts notEnd ih read
    rw [readValue] at read
    · exact ih read
    · exact notEnd
  case noValue =>
    intro ts stack _ _ _ _ _ _ _ read
    rw [readValue] at read
    · cases read
    all_goals assumption
  case done =>
    intro value read
    rw [readAfter] at read
    cases read
    rfl
  case nextItem =>
    intro before stack value ts ih read
    rw [readAfter] at read
    rw [ih read, openTokens, heldItems_append, openTokens]
  case endArray =>
    intro before stack value ts ih read
    rw [readAfter] at read
    rw [ih read, tokens, itemTokens_append, openTokens]
  case nextMember =>
    intro before name stack value next ts ih read
    rw [readAfter] at read
    rw [ih read, openTokens, heldMembers_append, openTokens]
  case endObject =>
    intro before name stack value ts ih read
    rw [readAfter] at read
    rw [ih read, tokens, memberTokens_append, openTokens]
  case noEnd =>
    intro ts stack value _ _ _ _ _ read
    rw [readAfter] at read
    · cases read
    all_goals assumption

def read? (text : String) : Option Json := (lex text.toList).bind (readValue [])

variable {value : Json} {text : String}

/-- A text is read as the value that it is JSON for, and no other text is read. -/
theorem read?_eq_some_iff : read? text = some value ↔ value.IsTextOf text := by
  rw [read?, Option.bind_eq_some_iff, IsTextOf]
  constructor
  · rintro ⟨ts, lexed, read⟩
    rw [readValue_sound [] ts read]
    exact lex_sound lexed
  · intro spelled
    exact ⟨_, lex_complete spelled, by rw [readValue_tokens, readAfter]⟩

theorem read?_layout (spelling : Spelling) (value : Json) :
    read? (value.layout spelling.spell) = some value :=
  read?_eq_some_iff.mpr (isTextOf_layout spelling value)

/-! ## What values are made of -/

def member? (name : String) : Json → Option Json
  | object members => members.lookup name
  | _ => none

def asString? : Json → Option String
  | string s => some s
  | _ => none

def asOption? : Json → Option (Option String)
  | null => some none
  | string s => some (some s)
  | _ => none

def asItems? : Json → Option (List Json)
  | array items => some items
  | _ => none

theorem asOption?_ofOption (s : Option String) : (ofOption s).asOption? = some s := by
  cases s <;> rfl

end Json

end UsedSelectors
