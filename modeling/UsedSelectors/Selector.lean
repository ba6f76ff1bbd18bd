import UsedSelectors.Text.Lines
import UsedSelectors.Tree

/-!
# Selectors

A class attribute gives one selector that joins all its class names; an id attribute gives its
value as it stands. Attributes without a value, or with nothing in it, give none.
-/

namespace UsedSelectors

inductive SelectorKind where
  | className
  | ident
  deriving DecidableEq, Inhabited

namespace Selector

def dot : CodePoint := .ofChar '.'

def hash : CodePoint := .ofChar '#'

/-- One selector for all class names of an attribute value: a dot in front of each of them. -/
def ofClass? (value : Text) : Option Text :=
  match value.words with
  | [] => none
  | words => some (words.flatMap (fun word => dot :: word))

/-- The selector for an id, which is not changed in any way. -/
def ofId? (value : Text) : Option Text :=
  if value.isEmpty then none else some (hash :: value)

end Selector

namespace SelectorKind

def attributeNames : SelectorKind → List String
  | className => ["class", "className"]
  | ident => ["id"]

def selector? : SelectorKind → Text → Option Text
  | className => Selector.ofClass?
  | ident => Selector.ofId?

/-- The selector that an attribute gives, if it is one for the kind and has a value. -/
def ofAttribute? (kind : SelectorKind) (attr : Attribute) : Option Text :=
  if kind.attributeNames.contains attr.name then attr.value.bind kind.selector? else none

def ofAttributes (kind : SelectorKind) (attributes : List Attribute) : List Text :=
  attributes.filterMap kind.ofAttribute?

end SelectorKind

end UsedSelectors
