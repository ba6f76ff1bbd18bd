import UsedSelectors.Proofs.Component.LiteralValue
import UsedSelectors.Proofs.Component.Reached
import UsedSelectors.Proofs.Markup.Escaped

/-!
# Escaped attribute values

The literal value of a plain string in an element is the text that was escaped to write it. A
backslash escapes nothing there, and a text that looks like a reference stays what it is.
-/

namespace UsedSelectors.Component

open Markup.CharacterReference (Piece)

theorem insideQuotes_append (first last : Char) (cs : List Char) :
    insideQuotes (first :: (cs ++ [last])) = cs :=
  List.dropLast_concat

variable {source : ByteArray} {value : SyntaxTree}

theorem literalValue?_pieces (plain : value.type = "string") {quote : Char} {pieces : List Piece}
    (text : value.text source = .ok (quote :: (pieces.flatMap Piece.written ++ [quote]))) :
    literalValue? source value = .ok (some (.ofChars (pieces.map Piece.char))) := by
  have decoded := Markup.CharacterReference.decode_flatMap_written pieces
  rw [literalValue?_of_plain plain, text]
  change ((Markup.CharacterReference.decode (insideQuotes _)).mapError Failure.tooManyDigits >>=
    fun decoded => pure (some (Text.ofChars decoded))) = _
  rw [insideQuotes_append, decoded]
  rfl

/-- A plain string is read piece by piece as the characters that the pieces stand for. A text whose
ampersands and quotes are escaped can be put between quotes, and is then read back as it is. -/
theorem literalValue?_spec (plain : value.type = "string") :
    (∀ (quote : Char) (pieces : List Piece),
      value.text source = .ok (quote :: (pieces.flatMap Piece.written ++ [quote])) →
        literalValue? source value = .ok (some (.ofChars (pieces.map Piece.char)))) ∧
    ∀ (quote : Char) (cs : List Char), quote = '"' ∨ quote = '\'' →
      quote ∉ cs.flatMap (fun c => (Piece.ofChar c).written) ∧
      (value.text source =
          .ok (quote :: (cs.flatMap (fun c => (Piece.ofChar c).written) ++ [quote])) →
        literalValue? source value = .ok (some (.ofChars cs))) := by
  refine ⟨fun quote pieces => literalValue?_pieces plain, fun quote cs isQuote => ⟨?_, ?_⟩⟩
  · intro member
    obtain ⟨c, _, here⟩ := List.mem_flatMap.mp member
    exact Piece.quote_notMem_written_ofChar isQuote c here
  · intro text
    have same : (cs.map Piece.ofChar).map Piece.char = cs := by
      rw [List.map_map]
      exact (List.map_congr_left fun c _ => Piece.char_ofChar c).trans (List.map_id _)
    rw [← List.flatMap_map] at text
    rw [literalValue?_pieces plain text, same]

/-- An escaped reference, a backslash, and references to numbers with zeros in front. -/
def escapedText : String := "\"&amp;amp;\\n&#0065;&lt;&#X01f600;\""

def escapedNode : SyntaxTree := plainNode "string" 0 34 none []

/-- What looks like a reference once it has been decoded is not decoded again. -/
theorem literalValue?_spec_escapedNode :
    escapedNode.type = "string" ∧
      (∃ pieces : List Piece, escapedNode.text escapedText.toUTF8 =
        .ok ('"' :: (pieces.flatMap Piece.written ++ ['"']))) ∧
      literalValue? escapedText.toUTF8 escapedNode = .ok (some ("&amp;\\nA<😀" : String)) := by
  obtain ⟨pieces, text, chars⟩ : ∃ pieces : List Piece,
      escapedNode.text escapedText.toUTF8 =
        .ok ('"' :: (pieces.flatMap Piece.written ++ ['"'])) ∧
      pieces.map Piece.char = "&amp;\\nA<😀".toList := by
    refine ⟨['&', 'a', 'm', 'p', ';', '\\', 'n'].map Piece.ofChar ++
      [.decimal [0, 0, 6, 5] 'A' (by decide) (by decide) ⟨by decide, by decide, by decide⟩,
        .named ['l', 't'] '<' (by decide),
        .hexadecimal 'X' [⟨0, false⟩, ⟨1, false⟩, ⟨15, false⟩, ⟨6, false⟩, ⟨0, false⟩, ⟨0, false⟩]
          '😀' (.inr rfl) (by decide) ⟨by decide, by decide, by decide⟩], ?_, ?_⟩
    · decide +kernel
    · decide
  have value := (literalValue?_spec rfl).1 '"' pieces text
  rw [chars] at value
  exact ⟨rfl, ⟨pieces, text⟩, value⟩

end UsedSelectors.Component
