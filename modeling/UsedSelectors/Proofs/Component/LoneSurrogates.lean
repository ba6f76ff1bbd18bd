import UsedSelectors.Proofs.Component.LiteralValue
import UsedSelectors.Proofs.Component.Reached
import UsedSelectors.Proofs.Script.Units
import UsedSelectors.Proofs.Selector

/-!
# Attributes with a surrogate that is left alone

The selectors of a module have no surrogates in them, but for those of attributes whose value is a
literal in braces with escapes that leave a surrogate alone. Plain strings have none, since no
character reference stands for one.
-/

namespace UsedSelectors.Component

open Attempts Script.Escape

/-- An attribute of a kind whose value is a literal in braces, and the escapes in the literal leave
a surrogate without the other half of its pair. -/
inductive HasLoneSurrogate (source : ByteArray) (kind : SelectorKind) (A : SyntaxTree) : Prop where
  | intro {name value inner : SyntaxTree} {nameChars cs : List Char}
      (first : A.namedChildren.head? = some name) (nameText : name.text source = .ok nameChars)
      (known : String.ofList nameChars ∈ kind.attributeNames)
      (second : A.namedChildren[1]? = some value) (holds : HoldsLiteral value inner)
      (text : inner.text source = .ok cs) (alone : ¬ Paired (replace (insideQuotes cs))) :
      HasLoneSurrogate source kind A

variable {source : ByteArray} {kind : SelectorKind} {A : SyntaxTree}

/-- A literal value has no surrogates, unless it is that of a literal in braces. -/
theorem isScalar_of_literalValue? {value : SyntaxTree} {found : Text}
    (literal : literalValue? source value = .ok (some found))
    (braced : ∀ inner cs, HoldsLiteral value inner → inner.text source = .ok cs →
      Paired (replace (insideQuotes cs))) : found.IsScalar := by
  by_cases plain : value.type = "string"
  · rw [literalValue?_of_plain plain] at literal
    obtain ⟨cs, _, literal⟩ := bind_eq_ok_iff.mp literal
    obtain ⟨decoded, _, literal⟩ := bind_eq_ok_iff.mp literal
    cases literal
    exact Text.isScalar_ofChars decoded
  by_cases holds : ∃ inner, HoldsLiteral value inner
  · obtain ⟨inner, holds⟩ := holds
    rw [literalValue?_of_holdsLiteral holds] at literal
    obtain ⟨cs, text, literal⟩ := bind_eq_ok_iff.mp literal
    cases literal
    exact isScalar_decode_iff.mpr (braced inner cs holds (mapError_eq_ok_iff.mp text))
  · rw [literalValue?_of_neither plain (not_exists.mp holds)] at literal
    cases literal

theorem HoldsLiteral.literalValue? {value inner : SyntaxTree} {cs : List Char}
    (holds : HoldsLiteral value inner) (text : inner.text source = .ok cs) :
    Component.literalValue? source value = .ok (some (decode (insideQuotes cs))) := by
  rw [literalValue?_of_holdsLiteral holds, text]
  rfl

/-- The selector of an attribute has a surrogate only if one is left alone in the attribute, and
then the attribute has a selector. -/
theorem forall_selectorOf?_isScalar :
    (∀ selector, selectorOf? source kind A = some selector → selector.IsScalar) ↔
      ¬ HasLoneSurrogate source kind A := by
  constructor
  · intro scalar lone
    obtain ⟨first, nameText, known, second, holds, text, alone⟩ := lone
    refine alone (isScalar_decode_iff.mp ((SelectorKind.forall_selector?_isScalar kind).mp ?_))
    intro selector gives
    exact scalar selector ((selectorOf?_eq_some_iff source kind).mpr
      ⟨_, _, _, _, first, nameText, known, second, holds.literalValue? text, gives⟩)
  · intro notLone selector hselector
    obtain ⟨name, nameChars, value, found, first, nameText, known, second, literal, gives⟩ :=
      (selectorOf?_eq_some_iff source kind).mp hselector
    refine (SelectorKind.forall_selector?_isScalar kind).mpr ?_ selector gives
    refine isScalar_of_literalValue? literal fun inner cs holds text => ?_
    by_contra alone
    exact notLone (.intro first nameText known second holds text alone)

/-- The selectors of a module have no surrogates exactly when none is left alone in an attribute
that is reached. -/
theorem forall_walkPre_isScalar {root : SyntaxTree} {roots : List Node}
    (h : rootsOf source root = .ok roots) :
    (∀ selector ∈ Node.walkPre kind roots, selector.IsScalar) ↔
      ∀ A ∈ reachedAttributes root, ¬ HasLoneSurrogate source kind A := by
  rw [walkPre_of_rootsOf h kind]
  constructor
  · intro scalar A reached
    refine forall_selectorOf?_isScalar.mp fun selector hselector => ?_
    exact scalar selector (List.mem_filterMap.mpr ⟨A, reached, hselector⟩)
  · intro notLone selector hselector
    obtain ⟨A, reached, hselector⟩ := List.mem_filterMap.mp hselector
    exact forall_selectorOf?_isScalar.mpr (notLone A reached) selector hselector

end UsedSelectors.Component
