import UsedSelectors.Text.Quoted

/-!
# Modes

A mode is a way to read element trees from a source: markup documents, or modules with components.
Each mode has its own order of listing selectors.
-/

namespace UsedSelectors

inductive Mode where
  | markup
  | component
  deriving DecidableEq, Inhabited

structure UnknownMode where
  name : String
  deriving DecidableEq

namespace UnknownMode

def message (e : UnknownMode) : String :=
  s!"Unknown mode: {quoted e.name} (expected 'markup' or 'component')"

end UnknownMode

namespace Mode

def name : Mode → String
  | markup => "markup"
  | component => "component"

def ofName (name : String) : Except UnknownMode Mode :=
  if name = markup.name then .ok markup
  else if name = component.name then .ok component
  else .error ⟨name⟩

end Mode

end UsedSelectors
