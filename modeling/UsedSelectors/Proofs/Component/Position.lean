import UsedSelectors.Builtin
import UsedSelectors.Proofs.Component.FirstMistake
import UsedSelectors.Proofs.Text.Position

/-!
# Where a syntax error is

The position of a syntax error is that of the offset at which the first mistake begins. A parser
that counts rows right and begins nodes between characters has this position lead back to the
mistake. The one that is built in does both.
-/

namespace UsedSelectors.Component

open Parsing SyntaxTree

theorem countsRows_of_isPlaced {text : String} {root : SyntaxTree} (placed : IsPlaced text root) :
    CountsRows text.toUTF8 root := by
  intro a t found
  obtain ⟨before, isPrefix, offset, row⟩ := (placed a t found).1
  rw [offset, row, (offsetAt_place isPrefix).1]

theorem position_of_syntaxFailure {source : ByteArray} {root : SyntaxTree} {e : ParseError}
    (counts : CountsRows source root) (failed : syntaxFailure source root = .parse e) :
    (root.firstMistake? = none ∧ e.line = none ∧ e.column = none) ∨
      ∃ t, root.firstMistake? = some t ∧ e.line = some (lineAt source t.label.start) ∧
        e.column = some (columnAt source t.label.start) := by
  rw [syntaxFailure] at failed
  cases found : root.firstMistake? with
  | none =>
      rw [found] at failed
      cases failed
      exact .inl ⟨rfl, rfl, rfl⟩
  | some t =>
      rw [found] at failed
      dsimp only at failed
      cases read : mistakeAt source t with
      | error fault =>
          rw [read] at failed
          cases failed
      | ok mistake =>
          rw [read] at failed
          cases failed
          obtain ⟨a, first⟩ := firstMistake?_eq_some_iff.mp found
          exact .inr ⟨t, rfl, line_errorAt mistake counts first.place.at?, rfl⟩

/-- Where a module has a syntax error with a position, the line and the column lead to an offset
between two of its characters, or to its end. -/
theorem exists_offsetAt_of_rootsOf {text : String} {root : SyntaxTree} {e : ParseError}
    (placed : IsPlaced text root) (failed : rootsOf text.toUTF8 root = .error (.parse e)) :
    (e.line = none ∧ e.column = none) ∨
      ∃ line column offset : Nat, e.line = some line ∧ e.column = some column ∧
        offsetAt text.toList line column = some offset ∧ IsOffset text.toList offset := by
  cases flagged : root.label.hasError with
  | false => exact absurd failed (rootsOf_ne_parse flagged)
  | true =>
      rw [rootsOf, if_pos flagged] at failed
      rcases position_of_syntaxFailure (countsRows_of_isPlaced placed)
        (Except.error.inj failed) with ⟨_, line, column⟩ | ⟨t, found, line, column⟩
      · exact .inl ⟨line, column⟩
      · obtain ⟨a, first⟩ := firstMistake?_eq_some_iff.mp found
        obtain ⟨before, isPrefix, offset, _⟩ := (placed a t first.place.at?).1
        obtain ⟨_, _, _, _, _, back⟩ := offsetAt_place isPrefix
        rw [← offset] at back
        exact .inr ⟨lineAt text.toUTF8 t.label.start, columnAt text.toUTF8 t.label.start,
          t.label.start, line, column, back, before, isPrefix, offset⟩

/--
The column of an offset is the number of characters that begin on its line before it, counted from
one, also if the offset is inside a character. The line and the column of an offset between
characters lead back to it; they grow with the offset and never go beyond the end of the line. A
syntax error has the line and the column of the offset at which the first mistake begins, if the
parser has counted the rows right.
-/
theorem positions_leadBack (text : String) :
    (∀ offset ≤ text.toUTF8.size, ∃ start, IsLineStart text.toUTF8 offset start ∧
      columnAt text.toUTF8 offset = (charsBegun text.toList start offset).card + 1) ∧
    (∀ before, before <+: text.toList →
      lineAt text.toUTF8 (encoded before).length = before.count '\n' + 1 ∧
      ∃ line,
        (pieces '\n' text.toList)[lineAt text.toUTF8 (encoded before).length - 1]? = some line ∧
        1 ≤ columnAt text.toUTF8 (encoded before).length ∧
        columnAt text.toUTF8 (encoded before).length ≤ line.length + 1 ∧
        offsetAt text.toList (lineAt text.toUTF8 (encoded before).length)
          (columnAt text.toUTF8 (encoded before).length) = some (encoded before).length) ∧
    StrictMonoOn (place text.toUTF8) {n | IsOffset text.toList n} ∧
    Set.InjOn (place text.toUTF8) {n | IsOffset text.toList n} ∧
    ∀ root e, CountsRows text.toUTF8 root → syntaxFailure text.toUTF8 root = .parse e →
      (root.firstMistake? = none ∧ e.line = none ∧ e.column = none) ∨
        ∃ t, root.firstMistake? = some t ∧ e.line = some (lineAt text.toUTF8 t.label.start) ∧
          e.column = some (columnAt text.toUTF8 t.label.start) :=
  ⟨fun _ inside => exists_lineStart text inside, fun _ isPrefix => offsetAt_place isPrefix,
    strictMonoOn_place text, (strictMonoOn_place text).injOn,
    fun _ _ counts failed => position_of_syntaxFailure counts failed⟩

/-- A module with characters of several bytes on both of its lines. -/
def wideText : String := "é;\n'é' 😀"

/-- A tree for the module, in which the last character is an error. -/
def wideTree : SyntaxTree :=
  .node ⟨"program", true, false, true, 0, 13, 0⟩ none
    [plainNode "expression_statement" 0 3 none [plainNode "identifier" 0 2 none []],
      .node ⟨"expression_statement", true, false, false, 4, 8, 1⟩ none
        [.node ⟨"string", true, false, false, 4, 8, 1⟩ none []],
      .node ⟨"ERROR", true, false, true, 9, 13, 1⟩ none []]

def wideError : ParseError := ⟨"component", some "unexpected '😀'", some 2, some 5⟩

theorem isOffset_wideText : IsOffset wideText.toList 4 ∧ IsOffset wideText.toList 9 :=
  ⟨⟨['é', ';', '\n'], ⟨['\'', 'é', '\'', ' ', '😀'], by decide⟩, by decide⟩,
    ⟨['é', ';', '\n', '\'', 'é', '\'', ' '], ⟨['😀'], by decide⟩, by decide⟩⟩

theorem countsRows_wideTree : CountsRows wideText.toUTF8 wideTree := by
  simp only [CountsRows, wideTree, plainNode, forall_at?_node, List.forall_mem_cons,
    List.not_mem_nil, IsEmpty.forall_iff, implies_true, and_true]
  decide +kernel

theorem positions_leadBack_wideText :
    11 ≤ wideText.toUTF8.size ∧
      (∃ start, IsLineStart wideText.toUTF8 11 start ∧
        columnAt wideText.toUTF8 11 = (charsBegun wideText.toList start 11).card + 1) ∧
      ['é', ';', '\n', '\''] <+: wideText.toList ∧
      offsetAt wideText.toList (lineAt wideText.toUTF8 5) (columnAt wideText.toUTF8 5) = some 5 ∧
      place wideText.toUTF8 4 < place wideText.toUTF8 9 ∧
      place wideText.toUTF8 4 ≠ place wideText.toUTF8 9 ∧
      CountsRows wideText.toUTF8 wideTree ∧
      syntaxFailure wideText.toUTF8 wideTree = .parse wideError ∧
      ∃ t, wideTree.firstMistake? = some t ∧
        wideError.line = some (lineAt wideText.toUTF8 t.label.start : Int) ∧
        wideError.column = some (columnAt wideText.toUTF8 t.label.start : Int) := by
  have inside : 11 ≤ wideText.toUTF8.size := by decide +kernel
  have isPrefix : ['é', ';', '\n', '\''] <+: wideText.toList :=
    ⟨['é', '\'', ' ', '😀'], by decide⟩
  have failed : syntaxFailure wideText.toUTF8 wideTree = .parse wideError := by decide +kernel
  obtain ⟨isOffset, isOffset'⟩ := isOffset_wideText
  obtain ⟨columns, back, grows, apart, position⟩ := positions_leadBack wideText
  obtain ⟨_, _, _, _, _, back⟩ := back _ isPrefix
  refine ⟨inside, columns 11 inside, isPrefix, back, grows isOffset isOffset' (by decide), ?_,
    countsRows_wideTree, failed, ?_⟩
  · intro same
    exact absurd (apart isOffset isOffset' same) (by decide)
  · rcases position wideTree wideError countsRows_wideTree failed with ⟨_, none, _⟩ | found
    · cases none
    · exact found

end UsedSelectors.Component

/-! ## The parser that is built in -/

namespace UsedSelectors.Parsers

open Component Parsing

theorem isPlaced_broken (script : String) : IsPlaced script .broken :=
  isPlaced_node.mpr ⟨⟨isRowedOffset_zero _, (isRowedOffset_zero _).isOffset⟩, by simp⟩

theorem isPlaced_builtin (script : String) : IsPlaced script (builtin.script script) := by
  change IsPlaced script ((Script.parse script).getD .broken)
  cases parsed : Script.parse script with
  | none => exact isPlaced_broken script
  | some tree =>
      unfold Script.parse at parsed
      generalize Script.language.get = language at parsed
      exact isPlaced_of_parse parsed

theorem textsDecode_builtin : builtin.TextsDecode :=
  fun script _ _ found => (isPlaced_builtin script).exists_text found

theorem countsRows_builtin (script : String) :
    CountsRows script.toUTF8 (builtin.script script) :=
  countsRows_of_isPlaced (isPlaced_builtin script)

end UsedSelectors.Parsers
