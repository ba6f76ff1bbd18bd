import UsedSelectors.Component.Roots
import UsedSelectors.Proofs.Attempts

/-!
# Literal values

A value node is a plain string, or braces that hold a script literal, or it has no literal value.
-/

namespace UsedSelectors.Component

open Attempts

/-- A value node is made of braces that hold one script literal and nothing after it. -/
structure HoldsLiteral (value inner : SyntaxTree) : Prop where
  type : value.type = "jsx_expression"
  first : firstNamed? value = some inner
  alone : afterFirstNamed value = []
  literal : isScriptLiteral inner = true

variable {source : ByteArray} {value inner : SyntaxTree}

/-- A plain string is read as markup. -/
theorem literalValue?_of_plain (plain : value.type = "string") :
    literalValue? source value = (do
      let cs ← (value.text source).mapError .undecodable
      let decoded ← (Markup.CharacterReference.decode (insideQuotes cs)).mapError .tooManyDigits
      return some (Text.ofChars decoded)) := by
  rw [literalValue?, if_pos plain, quotedText]
  cases value.text source <;> rfl

/-- A literal in braces is read as script. -/
theorem literalValue?_of_holdsLiteral (holds : HoldsLiteral value inner) :
    literalValue? source value = (do
      let cs ← (inner.text source).mapError .undecodable
      return some (Script.Escape.decode (insideQuotes cs))) := by
  rw [literalValue?, holds.type, if_neg (by simp), if_pos rfl, holds.first]
  dsimp only
  rw [holds.alone, holds.literal, if_neg (by simp), quotedText]
  cases inner.text source <;> rfl

theorem literalValue?_of_neither (notPlain : value.type ≠ "string")
    (none : ∀ inner, ¬ HoldsLiteral value inner) : literalValue? source value = .ok .none := by
  rw [literalValue?, if_neg notPlain]
  split
  · rename_i type
    split
    · rfl
    · rename_i inner first
      rw [if_pos]
      by_contra other
      have literal : afterFirstNamed value = [] ∧ isScriptLiteral inner = true := by
        simpa using other
      exact none inner ⟨type, first, literal.1, literal.2⟩
  · rfl

theorem HoldsLiteral.not_plain (holds : HoldsLiteral value inner) : value.type ≠ "string" := by
  rw [holds.type]
  simp

theorem exists_literalValue?_iff :
    (∃ found, literalValue? source value = .ok found) ↔
      (value.type = "string" → ∃ cs, value.text source = .ok cs ∧
        ∃ decoded, Markup.CharacterReference.decode (insideQuotes cs) = .ok decoded) ∧
      ∀ inner, HoldsLiteral value inner → ∃ cs, inner.text source = .ok cs := by
  by_cases plain : value.type = "string"
  · rw [literalValue?_of_plain plain]
    simp only [bind_eq_ok_iff, mapError_eq_ok_iff, pure, Except.pure]
    constructor
    · rintro ⟨_, cs, hcs, decoded, hdecoded, _⟩
      exact ⟨fun _ => ⟨cs, hcs, decoded, hdecoded⟩, fun inner holds =>
        (holds.not_plain plain).elim⟩
    · rintro ⟨readable, _⟩
      obtain ⟨cs, hcs, decoded, hdecoded⟩ := readable plain
      exact ⟨_, cs, hcs, decoded, hdecoded, rfl⟩
  by_cases holds : ∃ inner, HoldsLiteral value inner
  · obtain ⟨inner, holds⟩ := holds
    rw [literalValue?_of_holdsLiteral holds]
    simp only [bind_eq_ok_iff, mapError_eq_ok_iff, pure, Except.pure]
    constructor
    · rintro ⟨_, cs, hcs, _⟩
      refine ⟨fun impossible => (plain impossible).elim, fun other holds' => ?_⟩
      obtain rfl := Option.some.inj (holds'.first.symm.trans holds.first)
      exact ⟨cs, hcs⟩
    · rintro ⟨_, readable⟩
      obtain ⟨cs, hcs⟩ := readable inner holds
      exact ⟨_, cs, hcs, rfl⟩
  · have none : ∀ inner, ¬ HoldsLiteral value inner := not_exists.mp holds
    rw [literalValue?_of_neither plain none]
    exact ⟨fun _ => ⟨fun impossible => (plain impossible).elim, fun inner holds =>
      (none inner holds).elim⟩, fun _ => ⟨_, rfl⟩⟩

end UsedSelectors.Component
