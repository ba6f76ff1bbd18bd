import UsedSelectors.Extraction
import UsedSelectors.Proofs.Component.Contributions
import UsedSelectors.Proofs.Encoding.Writable
import UsedSelectors.Proofs.Markup.LongReference

/-!
# Modules that fail

A module that breaks the grammar fails with a syntax error. A module that follows it can fail too,
in three ways: it has a surrogate in it, an attribute has nothing in it that could be its name, or a
plain string has a character reference with too many digits. The texts of nodes are never to blame,
if the parser cuts the text of a module between characters.
-/

namespace UsedSelectors.Component

open SyntaxTree Attempts Markup.CharacterReference

/-- The text of every node of a tree can be decoded. -/
def TextsDecode (source : ByteArray) (root : SyntaxTree) : Prop :=
  ∀ a t, root.at? a = some t → ∃ cs, t.text source = .ok cs

/-- An attribute that cannot be read although its texts can be. -/
inductive IsUnreadable (source : ByteArray) (A : SyntaxTree) : Prop where
  | unnamed (none : A.namedChildren = [])
  | long {value : SyntaxTree} {cs : List Char} (second : A.namedChildren[1]? = some value)
      (plain : value.type = "string") (text : value.text source = .ok cs)
      (long : HasLongReference (insideQuotes cs))

variable {source : ByteArray} {root : SyntaxTree}

/-! ## Attributes -/

theorem exists_at?_of_mem_reachedAttributes {A : SyntaxTree} (h : A ∈ reachedAttributes root) :
    ∃ a, root.at? a = some A := by
  obtain ⟨e, he, hA⟩ := List.mem_flatMap.mp h
  obtain ⟨a, place⟩ := exists_elementPlace_of_mem he
  obtain ⟨b, ofElement⟩ := (inOrder_attributeNodes e).mem_iff.mp hA
  refine ⟨a ++ b, ?_⟩
  rw [at?_append, place.at?]
  exact ofElement.at?

/-- The literal value of a node is found out unless there are too many digits in it. -/
theorem exists_literalValue?_of_texts {value : SyntaxTree} {a : Address}
    (texts : TextsDecode source root) (found : root.at? a = some value) :
    (∃ found, literalValue? source value = .ok found) ↔
      ∀ cs, value.type = "string" → value.text source = .ok cs →
        ¬ HasLongReference (insideQuotes cs) := by
  rw [exists_literalValue?_iff]
  constructor
  · rintro ⟨decodes, _⟩ cs plain text long
    obtain ⟨cs', text', decoded, hdecoded⟩ := decodes plain
    obtain rfl := Except.ok.inj (text.symm.trans text')
    obtain ⟨e, failed⟩ := (exists_decode_eq_error_iff _).mpr long
    rw [hdecoded] at failed
    cases failed
  · intro short
    refine ⟨fun plain => ?_, fun inner holds => ?_⟩
    · obtain ⟨cs, text⟩ := texts a value found
      refine ⟨cs, text, ?_⟩
      cases decoded : decode (insideQuotes cs) with
      | ok chars => exact ⟨chars, rfl⟩
      | error e =>
          exact (short cs plain text ((exists_decode_eq_error_iff _).mp ⟨e, decoded⟩)).elim
    · obtain ⟨b, hb⟩ := exists_at?_of_mem_children found
        (List.mem_of_mem_filter (List.mem_of_find?_eq_some holds.first))
      exact texts b inner hb

/-- An attribute whose texts can be decoded is read unless it is unreadable. -/
theorem exists_attributeOf_iff {A : SyntaxTree} {a : Address} (texts : TextsDecode source root)
    (found : root.at? a = some A) :
    (∃ attr, attributeOf source A = .ok attr) ↔ ¬ IsUnreadable source A := by
  constructor
  · rintro ⟨attr, read⟩ unreadable
    obtain ⟨name, cs, hname, _, _, hvalue⟩ := (attributeOf_eq_ok_iff source).mp read
    cases unreadable with
    | unnamed none =>
        rw [none] at hname
        cases hname
    | long second plain text long =>
        obtain ⟨impossible, _⟩ | ⟨value, second', literal⟩ := hvalue
        · rw [second] at impossible
          cases impossible
        · obtain rfl := Option.some.inj (second.symm.trans second')
          obtain ⟨b, hb⟩ := exists_at?_of_mem_children found
            (List.mem_of_mem_filter (List.mem_of_getElem? second))
          exact (exists_literalValue?_of_texts texts hb).mp ⟨_, literal⟩ _ plain text long
  · intro readable
    obtain ⟨name, hname⟩ : ∃ name, A.namedChildren.head? = some name := by
      rw [← Option.isSome_iff_exists, List.isSome_head?]
      simpa using fun none => readable (.unnamed none)
    obtain ⟨b, hb⟩ := exists_at?_of_mem_children found
      (List.mem_of_mem_filter (List.mem_of_head? hname))
    obtain ⟨cs, hcs⟩ := texts b name hb
    cases second : A.namedChildren[1]? with
    | none =>
        exact ⟨⟨String.ofList cs, none⟩, (attributeOf_eq_ok_iff source).mpr
          ⟨name, cs, hname, hcs, rfl, .inl ⟨second, rfl⟩⟩⟩
    | some value =>
        obtain ⟨b, hb⟩ := exists_at?_of_mem_children found
          (List.mem_of_mem_filter (List.mem_of_getElem? second))
        obtain ⟨literal, hliteral⟩ := (exists_literalValue?_of_texts texts hb).mpr
          fun cs plain text long => readable (.long second plain text long)
        exact ⟨⟨String.ofList cs, literal⟩, (attributeOf_eq_ok_iff source).mpr
          ⟨name, cs, hname, hcs, rfl, .inr ⟨value, second, hliteral⟩⟩⟩

/-! ## Trees of modules -/

/-- A tree whose texts can be decoded gives element trees exactly when it has no syntax error and
no attribute that is reached is unreadable. -/
theorem exists_rootsOf_iff (texts : TextsDecode source root) :
    (∃ roots, rootsOf source root = .ok roots) ↔
      root.label.hasError = false ∧ ∀ A ∈ reachedAttributes root, ¬ IsUnreadable source A := by
  rw [exists_rootsOf_eq_ok_iff]
  refine and_congr_right fun _ => ?_
  constructor
  · intro readable A hA
    obtain ⟨a, found⟩ := exists_at?_of_mem_reachedAttributes hA
    obtain ⟨e, he, hA⟩ := List.mem_flatMap.mp hA
    exact (exists_attributeOf_iff texts found).mp ((readable e he).exists_attribute hA)
  · intro readable e he
    cases htag : openingTag? e with
    | none => exact ⟨_, shapeOf_of_openingTag?_eq_none source htag⟩
    | some tag =>
        obtain ⟨a, place⟩ := exists_elementPlace_of_mem he
        obtain ⟨b, inTag⟩ := openingTag?_eq_some_iff.mp htag
        obtain ⟨i, name, ofTag⟩ := inTag.name
        have found : root.at? (a ++ b) = some tag := by
          rw [at?_append, place.at?]
          exact inTag.opening.at?
        obtain ⟨c, hc⟩ := exists_at?_of_mem_children found (List.mem_of_getElem? ofTag.child)
        obtain ⟨cs, hcs⟩ := texts c name hc
        refine isReadable_of_attributes htag (child?_eq_some_iff.mpr ⟨i, ofTag⟩) hcs fun A hA => ?_
        have reached : A ∈ reachedAttributes root := List.mem_flatMap.mpr ⟨e, he, hA⟩
        obtain ⟨d, hd⟩ := exists_at?_of_mem_reachedAttributes reached
        exact (exists_attributeOf_iff texts hd).mpr (readable A reached)

theorem exists_at?_of_firstMistakeIn {pending : List SyntaxTree} {t : SyntaxTree}
    (h : firstMistakeIn pending = some t) : ∃ u ∈ pending, ∃ a, u.at? a = some t := by
  induction pending using firstMistakeIn.induct with
  | case1 =>
      rw [firstMistakeIn] at h
      cases h
  | case2 u rest isMistake =>
      rw [firstMistakeIn, if_pos isMistake] at h
      obtain rfl := Option.some.inj h
      exact ⟨u, List.mem_cons_self, [], rfl⟩
  | case3 u rest notMistake ih =>
      rw [firstMistakeIn, if_neg notMistake] at h
      obtain ⟨v, hv, a, found⟩ := ih h
      obtain hv | hv := List.mem_append.mp hv
      · obtain ⟨i, hi⟩ := List.mem_iff_getElem?.mp (List.mem_of_mem_filter hv)
        refine ⟨u, List.mem_cons_self, i :: a, ?_⟩
        simp [SyntaxTree.at?, hi, found]
      · exact ⟨v, List.mem_cons_of_mem _ hv, a, found⟩

/-- A tree with a mistake fails with a syntax error. -/
theorem exists_parse_of_hasError (texts : TextsDecode source root)
    (hasError : root.label.hasError = true) : ∃ e, rootsOf source root = .error (.parse e) := by
  rw [rootsOf, if_pos hasError, syntaxFailure]
  cases hmistake : root.firstMistake? with
  | none => exact ⟨_, rfl⟩
  | some t =>
      obtain ⟨u, hu, a, found⟩ := exists_at?_of_firstMistakeIn hmistake
      obtain rfl := List.mem_singleton.mp hu
      obtain ⟨cs, hcs⟩ := texts a t found
      obtain ⟨mistake, hmistake⟩ : ∃ mistake, mistakeAt source t = .ok mistake := by
        rw [mistakeAt, hcs]
        split
        · exact ⟨_, rfl⟩
        · exact ⟨_, rfl⟩
      dsimp only
      rw [hmistake]
      exact ⟨_, rfl⟩

theorem attributeOf_ne_parse {A : SyntaxTree} {e : ParseError} :
    attributeOf source A ≠ .error (.parse e) := by
  have literal (value : SyntaxTree) : literalValue? source value ≠ .error (.parse e) := by
    by_cases plain : value.type = "string"
    · rw [literalValue?_of_plain plain]
      simp [bind_eq_error_iff, mapError_eq_error_iff, pure, Except.pure]
    by_cases holds : ∃ inner, HoldsLiteral value inner
    · obtain ⟨inner, holds⟩ := holds
      rw [literalValue?_of_holdsLiteral holds]
      simp [bind_eq_error_iff, mapError_eq_error_iff, pure, Except.pure]
    · rw [literalValue?_of_neither plain (not_exists.mp holds)]
      simp
  have named (name : SyntaxTree) (value : Option Text) :
      (do
        let cs ← (name.text source).mapError .undecodable
        return ⟨String.ofList cs, value⟩ : Except Failure Attribute) ≠ .error (.parse e) := by
    simp [bind_eq_error_iff, mapError_eq_error_iff, pure, Except.pure]
  intro failed
  rw [attributeOf] at failed
  split at failed
  · split at failed
    · cases failed
    · exact named _ none failed
  · obtain valueFailed | ⟨value, _, nameFailed⟩ := bind_eq_error_iff.mp failed
    · exact literal _ valueFailed
    · split at nameFailed
      · cases nameFailed
      · exact named _ value nameFailed

theorem rootsOf_ne_parse (noError : root.label.hasError = false) {e : ParseError} :
    rootsOf source root ≠ .error (.parse e) := by
  intro failed
  obtain ⟨t, _, unread⟩ := exists_unreadable_of_rootsOf noError failed
  unfold shapeOf at unread
  split at unread
  · cases unread
  · rename_i tag htag
    obtain attributesFailed | ⟨_, _, nameFailed⟩ := bind_eq_error_iff.mp unread
    · obtain ⟨A, _, attributeFailed⟩ := exists_mem_of_mapM_eq_error attributesFailed
      exact attributeOf_ne_parse attributeFailed
    · split at nameFailed
      · cases nameFailed
      · simp [bind_eq_error_iff, mapError_eq_error_iff, pure, Except.pure] at nameFailed

/-- A parsed module fails without a syntax error exactly when it follows the grammar and an
attribute of it that is reached is unreadable. -/
theorem exists_failure_of_rootsOf_iff (texts : TextsDecode source root) :
    (∃ failure, rootsOf source root = .error failure ∧ ∀ e, failure ≠ .parse e) ↔
      root.label.hasError = false ∧ ∃ A ∈ reachedAttributes root, IsUnreadable source A := by
  constructor
  · rintro ⟨failure, h, other⟩
    cases noError : root.label.hasError with
    | true =>
        obtain ⟨e, parseFailed⟩ := exists_parse_of_hasError texts noError
        exact (other e (Except.error.inj (h.symm.trans parseFailed))).elim
    | false =>
        refine ⟨rfl, ?_⟩
        by_contra readable
        push Not at readable
        obtain ⟨trees, htrees⟩ := (exists_rootsOf_iff texts).mpr ⟨noError, readable⟩
        rw [htrees] at h
        cases h
  · rintro ⟨noError, A, hA, unreadable⟩
    cases h : rootsOf source root with
    | ok trees =>
        exact (((exists_rootsOf_iff texts).mp ⟨trees, h⟩).2 A hA unreadable).elim
    | error failure =>
        refine ⟨failure, rfl, ?_⟩
        rintro e rfl
        exact rootsOf_ne_parse noError h

end UsedSelectors.Component

namespace UsedSelectors.Parsers

open Component Encoding

/-- The texts of the nodes of every script can be decoded: a parser cuts a script between
characters. -/
def TextsDecode (parsers : Parsers) : Prop :=
  ∀ script, Component.TextsDecode script.toUTF8 (parsers.script script)

variable {parsers : Parsers} {contents : Text}

theorem readers_component_ofString (script : String) :
    parsers.readers .component (.ofString script) =
      rootsOf script.toUTF8 (parsers.script script) := by
  rw [readers, writable_ofString]

/-- The trees of a module are those of its syntax tree. -/
theorem exists_rootsOf_of_readers {trees : List Node}
    (h : parsers.readers .component contents = .ok trees) :
    ∃ script, Text.ofString script = contents ∧
      rootsOf script.toUTF8 (parsers.script script) = .ok trees := by
  rw [readers] at h
  split at h
  · cases h
  · rename_i script written
    exact ⟨script, writable_eq_ok_iff.mp written, h⟩

/-- A module fails without a syntax error exactly when it has a surrogate in it, or when it follows
the grammar and an attribute of it that is reached is unreadable. -/
theorem exists_failure_iff (texts : parsers.TextsDecode) :
    (∃ failure, parsers.readers .component contents = .error failure ∧ ∀ e, failure ≠ .parse e) ↔
      ¬ contents.IsScalar ∨ ∃ script, Text.ofString script = contents ∧
        (parsers.script script).label.hasError = false ∧
          ∃ A ∈ reachedAttributes (parsers.script script), IsUnreadable script.toUTF8 A := by
  constructor
  · intro fails
    by_cases scalar : contents.IsScalar
    · obtain ⟨script, written⟩ := exists_writable_iff.mpr scalar
      obtain rfl := writable_eq_ok_iff.mp written
      rw [readers_component_ofString] at fails
      exact .inr ⟨script, rfl, (exists_failure_of_rootsOf_iff (texts script)).mp fails⟩
    · exact .inl scalar
  · rintro (surrogate | ⟨script, rfl, unread⟩)
    · rw [readers]
      split
      · exact ⟨_, rfl, fun _ => Failure.noConfusion⟩
      · rename_i script written
        exact absurd (exists_writable_iff.mp ⟨script, written⟩) surrogate
    · rw [readers_component_ofString]
      exact (exists_failure_of_rootsOf_iff (texts script)).mpr unread

end UsedSelectors.Parsers
