import UsedSelectors.Markup.Rules
import UsedSelectors.Text.Lines
import UsedSelectors.Tree

/-!
# Documents

A document is read from any text whatever: what is missing is made, and what cannot stand where it
is written is moved or left out. Its trees are those of the root element and of the comments and
document types beside it: from any of these the whole row is found by going back to the first one
and then forward to the last.
-/

/-! ## Siblings -/

namespace UsedSelectors.Markup

structure Siblings (α : Type) where
  /-- The siblings in front of the node, nearest first. -/
  before : List α
  here : α
  /-- The siblings after the node, nearest first. -/
  after : List α

namespace Siblings

variable {α : Type}

def previous? : Siblings α → Option (Siblings α)
  | ⟨[], _, _⟩ => none
  | ⟨node :: before, here, after⟩ => some ⟨before, node, here :: after⟩

def next? : Siblings α → Option (Siblings α)
  | ⟨_, _, []⟩ => none
  | ⟨before, here, node :: after⟩ => some ⟨here :: before, node, after⟩

def first (s : Siblings α) : Siblings α :=
  match _h : s.previous? with
  | none => s
  | some t => t.first
termination_by s.before.length
decreasing_by
  obtain ⟨before, here, after⟩ := s
  cases before <;> simp only [previous?, Option.some.injEq, reduceCtorEq] at _h
  subst _h; simp

def onward (s : Siblings α) : List α :=
  match _h : s.next? with
  | none => [s.here]
  | some t => s.here :: t.onward
termination_by s.after.length
decreasing_by
  obtain ⟨before, here, after⟩ := s
  cases after <;> simp only [next?, Option.some.injEq, reduceCtorEq] at _h
  subst _h; simp

def all (s : Siblings α) : List α := s.first.onward

def find? (test : α → Bool) (before : List α) : List α → Option (Siblings α)
  | [] => none
  | node :: after =>
    if test node then some ⟨before, node, after⟩ else find? test (node :: before) after

end Siblings

/-! ## Documents -/

inductive DocumentNode where
  | element (name : String) (attributes : List TagAttribute) (children : List DocumentNode)
  | leaf (kind : Option String)
  deriving Inhabited

namespace DocumentNode

def children : DocumentNode → List DocumentNode
  | element _ _ children => children
  | leaf _ => []

def isElement : DocumentNode → Bool
  | element .. => true
  | leaf _ => false

mutual

def size : DocumentNode → Nat
  | element _ _ children => sizeList children + 1
  | leaf _ => 1

def sizeList : List DocumentNode → Nat
  | [] => 0
  | n :: ns => size n + sizeList ns

end

theorem sizeList_eq_totalWeight (ns : List DocumentNode) : sizeList ns = totalWeight size ns := by
  induction ns with
  | nil => rfl
  | cons n ns ih => simp [sizeList, ih]

def attributeOf (attr : TagAttribute) : Attribute := ⟨attr.name, attr.value.map Text.ofString⟩

def shape : DocumentNode → Shape
  | element name attributes _ => .element name (attributes.map attributeOf)
  | leaf kind => .other (kind.getD "unknown")

def view : TreeView DocumentNode Empty where
  shape n := .ok n.shape
  children := children
  weight := size
  children_lt n := by cases n <;> simp [children, size, sizeList_eq_totalWeight]

def build (n : DocumentNode) : Node :=
  match view.build n with
  | .ok tree => tree

end DocumentNode

/-- A document: its root among the nodes beside it, unless it is empty. -/
structure Document where
  root : Option (Siblings DocumentNode)

namespace Document

def topLevel (document : Document) : List DocumentNode :=
  match document.root with
  | none => []
  | some siblings => siblings.all

def roots (document : Document) : List Node := document.topLevel.map DocumentNode.build

end Document

namespace Dom

def treeOf (dom : Dom) : (depth : Nat) → NodeId → DocumentNode
  | 0, _ => .leaf none
  | depth + 1, id =>
    match dom.entries[id]? with
    | none => .leaf none
    | some entry =>
      match entry.kind with
      | .element data =>
        .element data.shownName data.attributes (entry.children.toList.map (dom.treeOf depth))
      | .text => .leaf (some "-text")
      | .comment => .leaf (some "-comment")
      | .doctype => .leaf (some "-doctype")
      | .container => .leaf none

/-- The document that is in the store; no node is deeper than there are nodes. -/
def toDocument (dom : Dom) : Document :=
  let nodes := (dom.children document).toList.map (dom.treeOf dom.entries.size)
  ⟨Siblings.find? DocumentNode.isElement [] nodes⟩

end Dom

def parse (contents : String) : Document :=
  (Builder.initial.read (unifyLineBreaks contents.toList)).dom.toDocument

end UsedSelectors.Markup
