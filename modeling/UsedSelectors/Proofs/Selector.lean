import UsedSelectors.Proofs.Attempts
import UsedSelectors.Proofs.Encoding.Writable
import UsedSelectors.Proofs.Text.Words
import UsedSelectors.Proofs.Traversal
import UsedSelectors.Selector

/-!
# What selectors look like

A class selector is the words of an attribute value with a dot in front of each, so the white space
of the value is of no consequence but for where it separates words. An id selector is the value
itself behind its sign. A surrogate in a value is in the selector that it gives. A walk lists one
selector for each attribute that has something to give, in the order in which the elements are
visited.
-/

/-! ## Code points -/

namespace UsedSelectors

theorem CodePoint.isSurrogate_of_isBlank {c : CodePoint} (blank : c.isBlank = true) :
    c.isSurrogate = false := by
  cases surrogate : c.isSurrogate with
  | false => rfl
  | true =>
      simp only [isSurrogate, Bool.and_eq_true, decide_eq_true_eq] at surrogate
      simp only [isBlank, isBlankCode, Bool.or_eq_true, Bool.and_eq_true, decide_eq_true_eq,
        beq_iff_eq] at blank
      omega

namespace Text

theorem isScalar_filter_notBlank {t : Text} :
    IsScalar (t.filter fun c => !c.isBlank) ↔ t.IsScalar := by
  constructor
  · intro scalar c hc
    cases blank : c.isBlank with
    | true => exact CodePoint.isSurrogate_of_isBlank blank
    | false => exact scalar c (List.mem_filter.mpr ⟨hc, by simp [blank]⟩)
  · intro scalar c hc
    exact scalar c (List.mem_filter.mp hc).1

theorem forall_mem_words_isScalar {t : Text} : (∀ word ∈ t.words, word.IsScalar) ↔ t.IsScalar := by
  rw [← isScalar_flatten, flatten_words, isScalar_filter_notBlank]

end Text

/-- A value gives selectors without surrogates exactly when it has none. -/
theorem SelectorKind.forall_selector?_isScalar (kind : SelectorKind) {value : Text} :
    (∀ selector, kind.selector? value = some selector → selector.IsScalar) ↔ value.IsScalar := by
  cases kind with
  | className =>
      have dotted (words : List Text) : Text.IsScalar (words.flatMap fun word =>
          Selector.dot :: word) ↔ ∀ word ∈ words, word.IsScalar := by
        rw [List.flatMap_def, Text.isScalar_flatten, List.forall_mem_map]
        simp [Text.isScalar_cons, Selector.dot, CodePoint.isSurrogate_ofChar]
      rw [← Text.forall_mem_words_isScalar, ← dotted]
      simp only [selector?, Selector.ofClass?]
      cases value.words with
      | nil => simp [Text.isScalar_nil]
      | cons word words => simp
  | ident =>
      simp only [selector?, Selector.ofId?]
      cases value with
      | nil => simp [Text.isScalar_nil]
      | cons c value => simp [Text.isScalar_cons, Selector.hash, CodePoint.isSurrogate_ofChar]

/-! ## Words and walks -/

open Attempts Text

namespace Selector

structure IsClassSelector (value selector : Text) : Prop where
  joined : ∃ words, Runs value words ∧ words ≠ [] ∧ selector = dot :: [dot].intercalate words ∧
    words.flatten = value.filter fun c => !c.isBlank
  solid : IsSolid selector
  again : ofClass? selector.tail = some selector

variable {value selector : Text} {words : List Text}

theorem isBlank_dot : dot.isBlank = false := by decide

theorem isSolid_intercalate (solid : ∀ word ∈ words, IsSolid word) :
    IsSolid ([dot].intercalate words) := by
  induction words with
  | nil => exact List.forall_mem_nil _
  | cons word words ih =>
      obtain ⟨first, solid⟩ := List.forall_mem_cons.mp solid
      cases words with
      | nil => rwa [List.intercalate_singleton]
      | cons next words =>
          rw [List.intercalate_cons_cons]
          refine List.forall_mem_append.mpr ⟨List.forall_mem_append.mpr ⟨first, ?_⟩, ih solid⟩
          exact List.forall_mem_singleton.mpr isBlank_dot

theorem intercalate_ne_nil (notEmpty : words ≠ []) (each : ∀ word ∈ words, word ≠ []) :
    [dot].intercalate words ≠ [] := by
  cases words with
  | nil => exact absurd rfl notEmpty
  | cons word words =>
      have first := (List.forall_mem_cons.mp each).1
      cases words with
      | nil => rwa [List.intercalate_singleton]
      | cons next words =>
          rw [List.intercalate_cons_cons, List.append_assoc]
          exact List.append_ne_nil_of_left_ne_nil first _

theorem flatMap_dot (notEmpty : words ≠ []) :
    words.flatMap (fun word => dot :: word) = dot :: [dot].intercalate words := by
  induction words with
  | nil => exact absurd rfl notEmpty
  | cons word words ih =>
      cases words with
      | nil => rw [List.flatMap_singleton, List.intercalate_singleton]
      | cons next words =>
          rw [List.flatMap_cons, ih (List.cons_ne_nil _ _), List.intercalate_cons_cons,
            List.append_assoc]
          rfl

theorem ofClass?_eq_none_iff : ofClass? value = none ↔ IsBlank value := by
  rw [← words_eq_nil_iff, ofClass?]
  cases value.words with
  | nil => simp
  | cons word words => simp

theorem ofClass?_eq_some_iff : ofClass? value = some selector ↔
    ∃ words, Runs value words ∧ words ≠ [] ∧ selector = dot :: [dot].intercalate words := by
  simp only [runs_iff]
  rw [ofClass?]
  cases value.words with
  | nil => simp
  | cons word words =>
      have joined := flatMap_dot (List.cons_ne_nil word words)
      simp [← joined, eq_comm]

/-- The value of a class attribute matters by its words alone. -/
theorem ofClass?_congr {other : Text} (same : value.words = other.words) :
    ofClass? value = ofClass? other := by
  rw [ofClass?, same, ofClass?]

theorem ofClass?_of_isSolid (notEmpty : value ≠ []) (solid : IsSolid value) :
    ofClass? value = some (dot :: value) := by
  refine ofClass?_eq_some_iff.mpr ⟨[value], runs_iff.mpr (words_of_isSolid notEmpty solid),
    List.cons_ne_nil _ _, ?_⟩
  rw [List.intercalate_singleton]

theorem exists_of_ofClass? (gives : ofClass? value = some selector) :
    ∃ rest, rest ≠ [] ∧ IsSolid rest ∧ selector = dot :: rest := by
  obtain ⟨words, runs, notEmpty, rfl⟩ := ofClass?_eq_some_iff.mp gives
  have each := runs.forall_mem
  exact ⟨_, intercalate_ne_nil notEmpty fun word member => (each word member).1,
    isSolid_intercalate fun word member => (each word member).2, rfl⟩

theorem isClassSelector (gives : ofClass? value = some selector) :
    IsClassSelector value selector := by
  obtain ⟨words, runs, someWord, joined⟩ := ofClass?_eq_some_iff.mp gives
  obtain ⟨rest, notEmpty, solid, rfl⟩ := exists_of_ofClass? gives
  exact {
    joined := ⟨words, runs, someWord, joined, runs.flatten_eq⟩
    solid := isSolid_cons.mpr ⟨isBlank_dot, solid⟩
    again := ofClass?_of_isSolid notEmpty solid }

end Selector

namespace SelectorKind

def HasContent : SelectorKind → Text → Prop
  | className, value => ¬ IsBlank value
  | ident, value => value ≠ []

/-- An attribute of a name that is asked for, with a value that there is something in. -/
def Contributes (kind : SelectorKind) (attr : Attribute) : Prop :=
  attr.name ∈ kind.attributeNames ∧ ∃ value ∈ attr.value, kind.HasContent value

/-- The selector of a value: the words of a class behind dots, or the id itself behind its sign. -/
def Gives : SelectorKind → Text → Text → Prop
  | className, value, selector => ∃ words, Runs value words ∧ words ≠ [] ∧
      selector = Selector.dot :: [Selector.dot].intercalate words
  | ident, value, selector => value ≠ [] ∧ selector = Selector.hash :: value

instance (kind : SelectorKind) : DecidablePred kind.HasContent := fun value => by
  cases kind <;> unfold HasContent <;> infer_instance

instance (kind : SelectorKind) : DecidablePred kind.Contributes := fun attr => by
  unfold Contributes
  infer_instance

variable {kind : SelectorKind} {value selector : Text} {attr : Attribute}

theorem selector?_eq_some_iff :
    kind.selector? value = some selector ↔ kind.Gives value selector := by
  cases kind with
  | className => exact Selector.ofClass?_eq_some_iff
  | ident =>
      change Selector.ofId? value = some selector ↔ _
      rw [Selector.ofId?, Gives]
      cases value with
      | nil => simp
      | cons c value => simp [eq_comm]

theorem isSome_selector?_iff : (kind.selector? value).isSome = true ↔ kind.HasContent value := by
  rw [← not_iff_not, Bool.not_eq_true, Option.isSome_eq_false_iff, Option.isNone_iff_eq_none]
  cases kind with
  | className =>
      rw [HasContent, not_not]
      exact Selector.ofClass?_eq_none_iff
  | ident =>
      change Selector.ofId? value = none ↔ _
      rw [Selector.ofId?, HasContent]
      cases value with
      | nil => simp
      | cons c value => simp

theorem ofAttribute?_eq_some_iff : kind.ofAttribute? attr = some selector ↔
    attr.name ∈ kind.attributeNames ∧ ∃ value ∈ attr.value, kind.Gives value selector := by
  simp only [← selector?_eq_some_iff, Option.mem_def]
  rw [ofAttribute?, Option.ite_none_right_eq_some, List.contains_iff_mem, Option.bind_eq_some_iff]

theorem isSome_ofAttribute?_iff :
    (kind.ofAttribute? attr).isSome = true ↔ kind.Contributes attr := by
  simp only [Option.isSome_iff_exists, ofAttribute?_eq_some_iff, Contributes,
    ← isSome_selector?_iff, ← selector?_eq_some_iff]
  constructor
  · rintro ⟨selector, named, value, isValue, gives⟩
    exact ⟨named, value, isValue, selector, gives⟩
  · rintro ⟨named, value, isValue, selector, gives⟩
    exact ⟨selector, named, value, isValue, gives⟩

end SelectorKind

namespace Order

variable (order : Order) (kind : SelectorKind) (roots : List Node)

theorem walk_eq_filterMap : order.walk kind roots =
    ((order.visited roots).flatMap PlacedElement.attributes).filterMap kind.ofAttribute? := by
  rw [List.filterMap_flatMap]
  exact order.walk_eq_flatMap kind roots

theorem walk_forall₂_gives :
    List.Forall₂ (fun attr selector => ∃ value ∈ attr.value, kind.Gives value selector)
      (((order.visited roots).flatMap PlacedElement.attributes).filter kind.Contributes)
      (order.walk kind roots) := by
  have each := forall₂_filterMap kind.ofAttribute?
    ((order.visited roots).flatMap PlacedElement.attributes)
  rw [← walk_eq_filterMap] at each
  have same (attr : Attribute) :
      (kind.ofAttribute? attr).isSome = decide (kind.Contributes attr) := by
    rw [Bool.eq_iff_iff, decide_eq_true_iff, SelectorKind.isSome_ofAttribute?_iff]
  simp only [same] at each
  exact each.imp fun _ _ given => (SelectorKind.ofAttribute?_eq_some_iff.mp given).2

variable {order kind roots} {selector : Text}

theorem exists_gives_of_mem_walk (listed : selector ∈ order.walk kind roots) :
    ∃ e ∈ Node.elements roots, ∃ attr ∈ e.attributes, ∃ value ∈ attr.value,
      kind.Gives value selector := by
  obtain ⟨attr, member, gives⟩ := exists_mem_of_forall₂ (order.walk_forall₂_gives kind roots) listed
  obtain ⟨e, visited, inElement⟩ := List.mem_flatMap.mp (List.mem_of_mem_filter member)
  exact ⟨e, (order.visited_perm roots).mem_iff.mp visited, attr, inElement, gives⟩

theorem exists_of_mem_walk_className (listed : selector ∈ order.walk .className roots) :
    ∃ rest, rest ≠ [] ∧ IsSolid rest ∧ selector = Selector.dot :: rest := by
  obtain ⟨_, _, _, _, _, _, gives⟩ := exists_gives_of_mem_walk listed
  exact Selector.exists_of_ofClass? (Selector.ofClass?_eq_some_iff.mpr gives)

end Order

/-- A class attribute gives no selector just if it is blank, and otherwise its words behind dots;
which white space there is between the words, and how much at the ends, does not matter. Whatever
the order, a walk lists one selector for each attribute of an element that has something to give:
for a class a dot and a text without white space, for an id its sign and the value. -/
theorem Selector.normalization :
    (∀ value, Selector.ofClass? value = none ↔ IsBlank value) ∧
    (∀ value selector, Selector.ofClass? value = some selector →
      Selector.IsClassSelector value selector) ∧
    (∀ before gap other after, IsBlank gap → gap ≠ [] → IsBlank other → other ≠ [] →
      Selector.ofClass? (before ++ gap ++ after) = Selector.ofClass? (before ++ other ++ after)) ∧
    (∀ front value back, IsBlank front → IsBlank back →
      Selector.ofClass? (front ++ value ++ back) = Selector.ofClass? value) ∧
    ∀ (order : Order) (roots : List Node),
      (order.visited roots).Perm (Node.elements roots) ∧
      (∀ kind, List.Forall₂ (fun attr selector => ∃ value ∈ attr.value, kind.Gives value selector)
        (((order.visited roots).flatMap PlacedElement.attributes).filter kind.Contributes)
        (order.walk kind roots)) ∧
      (∀ selector ∈ order.walk .className roots,
        ∃ rest, rest ≠ [] ∧ IsSolid rest ∧ selector = Selector.dot :: rest) ∧
      ∀ selector ∈ order.walk .ident roots, ∃ e ∈ Node.elements roots, ∃ attr ∈ e.attributes,
        ∃ value ∈ attr.value, value ≠ [] ∧ selector = Selector.hash :: value := by
  refine ⟨fun _ => Selector.ofClass?_eq_none_iff, fun _ _ => Selector.isClassSelector, ?_, ?_, ?_⟩
  · intro before gap other after blank notEmpty otherBlank otherNotEmpty
    apply Selector.ofClass?_congr
    rw [words_append_blank_append before after blank notEmpty,
      words_append_blank_append before after otherBlank otherNotEmpty]
  · intro front value back blankFront blankBack
    apply Selector.ofClass?_congr
    rw [words_append_blank _ blankBack, words_blank_append blankFront]
  · intro order roots
    exact ⟨order.visited_perm roots, fun kind => order.walk_forall₂_gives kind roots,
      fun _ => Order.exists_of_mem_walk_className, fun _ => Order.exists_gives_of_mem_walk⟩

theorem Selector.normalization_of_two_words :
    IsBlank ("\u0085" : String) ∧ IsBlank (" \u00A0" : String) ∧
      Selector.ofClass? ("\x1Ca" : String) = some (".a" : String) ∧
      Selector.ofClass? (Text.ofString "a" ++ Text.ofString "\u0085" ++ Text.ofString "b") =
        Selector.ofClass? (Text.ofString "a" ++ Text.ofString " \u00A0" ++ Text.ofString "b") ∧
      Selector.IsClassSelector ("\x1Ca" : String) (".a" : String) := by
  have blank : IsBlank ("\u0085" : String) := by decide
  have otherBlank : IsBlank (" \u00A0" : String) := by decide
  have gives : Selector.ofClass? ("\x1Ca" : String) = some (".a" : String) := by decide
  obtain ⟨_, known, replaced, _⟩ := Selector.normalization
  exact ⟨blank, otherBlank, gives, replaced _ _ _ _ blank (by decide) otherBlank (by decide),
    known _ _ gives⟩

end UsedSelectors
