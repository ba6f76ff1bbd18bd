import UsedSelectors.Files.FileReport
import UsedSelectors.Proofs.Component.FirstMistake
import UsedSelectors.Proofs.Text.Quoted
import UsedSelectors.Proofs.Text.Trimmed

/-!
# How an unexpected text is reported

When the first mistake of a module is a text that should not be there, the error quotes the first
line of it, or says that there is nothing to be quoted. The quotation can be read back, and the
whole message is one line of printable characters whatever the text is.
-/

namespace UsedSelectors.Component

open SyntaxTree

/-- What is shown of a text: the first forty characters of its first line, once it is trimmed. -/
def IsSnippet (cs snippet : List Char) : Prop :=
  ∃ inside line, IsTrimmed cs inside ∧ IsFirstLine inside line ∧ snippet = line.take 40

structure SaysUnexpected (cs : List Char) (detail : String) : Prop where
  token : detail = "unexpected token" ↔ ∀ c ∈ cs, isBlankChar c = true
  snippet : (∃ c ∈ cs, isBlankChar c = false) →
    ∃ snippet : String, IsSnippet cs snippet.toList ∧ snippet ≠ "" ∧
      (∀ c ∈ snippet.toList, isLineEnd c = false) ∧ detail = "unexpected " ++ quoted snippet ∧
      Quoted.decode (quoted snippet).toList = some snippet.toList ∧
      ∀ other : String, IsSnippet cs other.toList ∨ detail = "unexpected " ++ quoted other →
        other = snippet

variable {source : ByteArray} {root t : SyntaxTree} {cs snippet : List Char}

/-! ## Snippets -/

theorem IsSnippet.eq_take (shown : IsSnippet cs snippet) :
    snippet = ((trimChars cs).takeWhile fun c => !isLineEnd c).take 40 := by
  obtain ⟨_, _, trimmed, first, rfl⟩ := shown
  rw [first.eq_takeWhile, trimmed.eq_trimChars]

theorem IsSnippet.isLineEnd_eq_false (shown : IsSnippet cs snippet) :
    ∀ c ∈ snippet, isLineEnd c = false := by
  obtain ⟨_, line, _, first, rfl⟩ := shown
  intro c member
  exact first.oneLine c (List.mem_of_mem_take member)

theorem IsSnippet.ne_nil (shown : IsSnippet cs snippet)
    (notBlank : ∃ c ∈ cs, isBlankChar c = false) : snippet ≠ [] := by
  obtain ⟨inside, line, trimmed, first, rfl⟩ := shown
  have visible := first.ne_nil (trimmed.ne_nil_iff.mpr notBlank) trimmed.start
  rwa [ne_eq, List.take_eq_nil_iff, not_or, and_iff_right (by decide)]

/-! ## Wording -/

theorem ofText_of_blank (blank : ∀ c ∈ cs, isBlankChar c = true) :
    Mistake.ofText cs = .unexpectedToken := by
  have nothing : trimChars cs = [] := (isTrimmed_trimChars cs).eq_nil_iff.mpr blank
  rw [Mistake.ofText, nothing]
  rfl

theorem exists_ofText_of_not_blank (notBlank : ∃ c ∈ cs, isBlankChar c = false) :
    ∃ snippet, IsSnippet cs snippet ∧ Mistake.ofText cs = .unexpected (String.ofList snippet) := by
  have trimmed := isTrimmed_trimChars cs
  have first := isFirstLine_takeWhile (trimChars cs)
  have found := firstLine?_eq_some_iff.mpr ⟨trimmed.ne_nil_iff.mpr notBlank, first⟩
  refine ⟨_, ⟨_, _, trimmed, first, rfl⟩, ?_⟩
  rw [Mistake.ofText, found]
  rfl

/-- A quoted snippet is never taken for the word that stands for nothing to be shown. -/
theorem unexpected_ne_unexpectedToken (snippet : String) :
    "unexpected " ++ quoted snippet ≠ "unexpected token" := by
  intro same
  have token : "unexpected token" = "unexpected " ++ "token" := rfl
  rw [token, String.append_right_inj] at same
  have begins := congrArg (fun s => s.toList.head?) same
  simp only [quoted, String.toList_ofList, Quoted.encode, List.cons_append,
    List.head?_cons] at begins
  rcases Quoted.quoteFor_cases snippet.toList with single | double
  · rw [single] at begins
    revert begins
    decide
  · rw [double] at begins
    revert begins
    decide

theorem saysUnexpected_ofText (cs : List Char) :
    SaysUnexpected cs (Mistake.ofText cs).message := by
  by_cases blank : ∀ c ∈ cs, isBlankChar c = true
  · rw [ofText_of_blank blank]
    refine ⟨⟨fun _ => blank, fun _ => rfl⟩, ?_⟩
    rintro ⟨c, member, notBlank⟩
    rw [blank c member] at notBlank
    cases notBlank
  · have notBlank : ∃ c ∈ cs, isBlankChar c = false := by simpa using blank
    obtain ⟨snippet, shown, said⟩ := exists_ofText_of_not_blank notBlank
    rw [said]
    constructor
    · constructor
      · intro token
        exact absurd token (unexpected_ne_unexpectedToken _)
      · intro all
        exact absurd all blank
    · intro _
      refine ⟨String.ofList snippet, ?_, ?_, ?_, rfl, ?_, ?_⟩
      · rwa [String.toList_ofList]
      · intro nothing
        apply shown.ne_nil notBlank
        rw [← String.toList_ofList (l := snippet), nothing]
        rfl
      · rw [String.toList_ofList]
        exact shown.isLineEnd_eq_false
      · rw [quoted, String.toList_ofList, Quoted.decode_encode]
      · rintro other (shown' | same)
        · rw [shown.eq_take, ← shown'.eq_take, String.ofList_toList]
        · exact (quoted_injective ((String.append_right_inj _).mp same)).symm

/-! ## One printable line -/

theorem isPrintable_toList_append {s u : String} (first : IsPrintable s.toList)
    (second : IsPrintable u.toList) : IsPrintable (s ++ u).toList := by
  rw [String.toList_append]
  exact first.append second

theorem isPrintable_of_ascii {s : String}
    (ascii : s.toList.all (fun c => 0x20 ≤ c.toNat && c.toNat < 0x7F) = true) :
    IsPrintable s.toList := by
  intro c member
  have inRange := List.all_eq_true.mp ascii c member
  rw [Bool.and_eq_true, decide_eq_true_eq, decide_eq_true_eq] at inRange
  exact isPrintableChar_of_ascii inRange.1 inRange.2

theorem isPrintable_message_ofText (cs : List Char) :
    IsPrintable (Mistake.ofText cs).message.toList := by
  rw [Mistake.ofText]
  split
  · exact isPrintable_of_ascii (by decide)
  · refine isPrintable_toList_append (isPrintable_of_ascii (by decide)) ?_
    change IsPrintable (String.ofList (Quoted.encode _)).toList
    rw [String.toList_ofList]
    exact Quoted.isPrintable_encode _

theorem message_errorAt (mistake : Mistake) :
    (mistake.errorAt source t).message = "component parse error at " ++
      toString (t.label.row + 1) ++ ":" ++ toString (columnAt source t.label.start) ++ ": " ++
        mistake.message := by
  have begins : "component parse error at " = "component" ++ " parse error" ++ " at " := rfl
  rw [begins]
  simp only [Mistake.errorAt, ParseError.message, ParseError.location, Option.getD_some,
    String.append_assoc]
  rfl

theorem isPrintable_message_errorAt {mistake : Mistake}
    (said : IsPrintable mistake.message.toList) :
    IsPrintable (mistake.errorAt source t).message.toList := by
  have begins : IsPrintable "component parse error at ".toList := isPrintable_of_ascii (by decide)
  have colon : IsPrintable ":".toList := isPrintable_of_ascii (by decide)
  have ends : IsPrintable ": ".toList := isPrintable_of_ascii (by decide)
  have line := isPrintable_toString (t.label.row + 1)
  have column := isPrintable_toString (columnAt source t.label.start)
  rw [message_errorAt]
  have upToLine := isPrintable_toList_append begins line
  have upToColumn := isPrintable_toList_append (isPrintable_toList_append upToLine colon) column
  exact isPrintable_toList_append (isPrintable_toList_append upToColumn ends) said

/--
When the first mistake of a module is a text that should not be there, the error says that a token
is unexpected exactly if there is nothing but white space in that text; otherwise it quotes what is
shown of its first line, from which this can be read back. The message has the place of the mistake
in front of that, and is a single line of printable characters, so neither a line end nor a control
character of the module gets into the report or the log.
-/
theorem syntaxFailure_of_unexpected (found : root.firstMistake? = some t)
    (present : t.label.isMissing = false) (text : t.text source = .ok cs) :
    ∃ e detail, syntaxFailure source root = .parse e ∧
      (root.label.hasError = true → rootsOf source root = .error (.parse e)) ∧
      e.detail = some detail ∧ SaysUnexpected cs detail ∧
      e.message = "component parse error at " ++ toString (t.label.row + 1) ++ ":" ++
        toString (columnAt source t.label.start) ++ ": " ++ detail ∧
      IsPrintable e.message.toList ∧
      (∀ c ∈ e.message.toList, ¬ IsControl c ∧ isLineEnd c = false) ∧
      ∀ path, (FileOutcome.failed path .component e).report.error = some (.ofString e.message) ∧
        ∀ record ∈ (FileOutcome.failed path .component e).records,
          record.message = .ofString "Extraction failed for " ++ path.text ++
            .ofString (": " ++ e.message) := by
  have read : mistakeAt source t = .ok (.ofText cs) :=
    mistakeAt_eq_ok_iff.mpr (.inr ⟨present, cs, text, rfl⟩)
  have fails := syntaxFailure_of_firstMistake? found read
  have printable : IsPrintable ((Mistake.ofText cs).errorAt source t).message.toList :=
    isPrintable_message_errorAt (isPrintable_message_ofText cs)
  refine ⟨_, _, fails, ?_, rfl, saysUnexpected_ofText cs, message_errorAt _, printable, ?_, ?_⟩
  · intro flagged
    rw [rootsOf, if_pos flagged, fails]
  · intro c member
    exact not_isControl_of_isPrintableChar (printable c member)
  · intro path
    refine ⟨rfl, fun record logged => ?_⟩
    cases List.mem_singleton.mp logged
    rfl

/-- A module of which the first line has a quote and a tab in it. -/
def quotedLineText : String := "  'a\tb\u2028c"

def quotedLineError : SyntaxTree := .node ⟨"ERROR", true, false, true, 0, 10, 0⟩ none []

def quotedLineTree : SyntaxTree :=
  .node ⟨"program", true, false, true, 0, 10, 0⟩ none [quotedLineError]

/-- Only what is in front of the line separator is shown, and the tab is escaped. -/
theorem syntaxFailure_of_unexpected_quotedLineTree :
    quotedLineTree.firstMistake? = some quotedLineError ∧
      quotedLineError.text quotedLineText.toUTF8 = .ok quotedLineText.toList ∧
      ∃ e detail, syntaxFailure quotedLineText.toUTF8 quotedLineTree = .parse e ∧
        e.detail = some detail ∧ SaysUnexpected quotedLineText.toList detail ∧
        IsPrintable e.message.toList := by
  have found : quotedLineTree.firstMistake? = some quotedLineError := by
    simp [quotedLineTree, quotedLineError, firstMistake?, firstMistakeIn, isMistake, isSuspect,
      SyntaxTree.type, SyntaxTree.label, SyntaxTree.children]
  have text : quotedLineError.text quotedLineText.toUTF8 = .ok quotedLineText.toList := by
    decide +kernel
  obtain ⟨e, detail, fails, _, shown, said, _, printable, _⟩ :=
    syntaxFailure_of_unexpected found rfl text
  exact ⟨found, text, e, detail, fails, shown, said, printable⟩

example : syntaxFailure quotedLineText.toUTF8 quotedLineTree =
    .parse ⟨"component", some "unexpected \"'a\\tb\"", some 1, some 1⟩ := by
  decide +kernel

end UsedSelectors.Component
