import UsedSelectors.Text.CodePoint

/-!
# Element trees

The tree that selectors are read from, whatever the language of the source: elements with their
attributes in source order, and all other nodes, of which only the kind is kept.

A parser's tree is turned into an element tree node by node. Each node is converted to a `Shape`,
or the conversion fails; only the children of elements are looked at. When an element is expanded
all its children are converted in order, and then the elements among them are expanded, the last
one first, each with all that is inside it: so with several nodes that cannot be converted it is
settled which of them is reported. The open elements stand on an explicit stack, so a deep
document needs no deep recursion, and the nodes that were converted and expanded are recorded.
-/

namespace UsedSelectors

/-- An attribute as written in the source. It has no value when none is given, or when the value
is not a literal. -/
structure Attribute where
  name : String
  value : Option Text
  deriving DecidableEq, Inhabited

/-- A node of the tree. Nodes other than elements are leaves. -/
inductive Node where
  | element (name : String) (attributes : List Attribute) (children : List Node)
  /-- Text, a comment, a document type, an embedded expression, a fragment. -/
  | other (kind : String)
  deriving Inhabited

namespace Node

def children : Node → List Node
  | element _ _ cs => cs
  | other _ => []

mutual

def size : Node → Nat
  | element _ _ cs => sizeList cs + 1
  | other _ => 1

def sizeList : List Node → Nat
  | [] => 0
  | n :: ns => size n + sizeList ns

end

end Node

/-! ## Trees from the nodes of a parser -/

inductive Shape where
  | element (name : String) (attributes : List Attribute)
  | other (kind : String)
  deriving DecidableEq

def totalWeight {β : Type} (weight : β → Nat) (items : List β) : Nat :=
  -- A fold and not `List.sum`, whose zero depends on the algebra that is imported.
  (items.map weight).foldr (· + ·) 0

@[simp] theorem totalWeight_nil {β : Type} (weight : β → Nat) : totalWeight weight [] = 0 := rfl

@[simp] theorem totalWeight_cons {β : Type} (weight : β → Nat) (item : β) (items : List β) :
    totalWeight weight (item :: items) = weight item + totalWeight weight items := rfl

@[simp] theorem totalWeight_append {β : Type} (weight : β → Nat) (a b : List β) :
    totalWeight weight (a ++ b) = totalWeight weight a + totalWeight weight b := by
  induction a with
  | nil => simp
  | cons item items ih => simp [ih, Nat.add_assoc]

theorem totalWeight_map {β γ : Type} (weight : γ → Nat) (f : β → γ) (items : List β) :
    totalWeight weight (items.map f) = totalWeight (fun item => weight (f item)) items := by
  induction items with
  | nil => rfl
  | cons item items ih => simp [ih]

@[simp] theorem totalWeight_reverse {β : Type} (weight : β → Nat) (items : List β) :
    totalWeight weight items.reverse = totalWeight weight items := by
  induction items with
  | nil => rfl
  | cons item items ih => simp [ih, Nat.add_comm]

structure TreeView (α ε : Type) where
  shape : α → Except ε Shape
  children : α → List α
  weight : α → Nat
  /-- The children together weigh less than their parent. -/
  children_lt : ∀ node, totalWeight weight (children node) < weight node

/-- An element under construction. Its children are finished from the last one to the first. -/
structure OpenElement (α : Type) where
  name : String
  attributes : List Attribute
  /-- The converted children that are still to be finished, last one first. -/
  pending : List (α × Shape)
  /-- The finished children, which follow the pending ones, in order. -/
  finished : List Node

/-- What a conversion has done: the nodes whose shape was asked for and the nodes whose children
were asked for, in the order of asking, last one first. -/
structure Visits (α : Type) where
  /-- The nodes whose shape was asked for. -/
  converted : List α
  /-- The nodes whose children were asked for. -/
  expanded : List α

namespace TreeView

variable {α ε : Type} (view : TreeView α ε)

def frameWeight (frame : OpenElement α) : Nat :=
  2 * totalWeight (fun p => view.weight p.1) frame.pending + 1

def stackWeight (stack : List (OpenElement α)) : Nat :=
  totalWeight view.frameWeight stack

def pendingChildren (node : α) (shapes : List Shape) : List (α × Shape) :=
  ((view.children node).zip shapes).reverse

theorem totalWeight_pendingChildren_lt (node : α) (shapes : List Shape) :
    totalWeight (fun p => view.weight p.1) (view.pendingChildren node shapes) <
      view.weight node := by
  have zip_le : ∀ (nodes : List α) (shapes : List Shape),
      totalWeight (fun p => view.weight p.1) (nodes.zip shapes) ≤
        totalWeight view.weight nodes := by
    intro nodes
    induction nodes with
    | nil => simp
    | cons n ns ih =>
      intro shapes
      cases shapes with
      | nil => simp
      | cons s ss => have := ih ss; simp; omega
  have := zip_le (view.children node) shapes
  have := view.children_lt node
  simp only [pendingChildren, totalWeight_reverse]
  omega

/-- Finishes all open elements: `top` is the innermost one, `outer` are those around it. -/
def close (top : OpenElement α) (outer : List (OpenElement α)) (visits : Visits α) :
    Except ε (Node × Visits α) :=
  match _hp : top.pending with
  | [] =>
    let node := Node.element top.name top.attributes top.finished
    match outer with
    | [] => .ok (node, visits)
    | parent :: rest => close ⟨parent.name, parent.attributes, parent.pending,
        node :: parent.finished⟩ rest visits
  | (_, .other kind) :: before =>
    close ⟨top.name, top.attributes, before, .other kind :: top.finished⟩ outer visits
  | (node, .element name attributes) :: before =>
    match (view.children node).mapM view.shape with
    | .error e => .error e
    | .ok shapes =>
      close ⟨name, attributes, view.pendingChildren node shapes, []⟩
        (⟨top.name, top.attributes, before, top.finished⟩ :: outer)
        ⟨(view.children node).reverse ++ visits.converted, node :: visits.expanded⟩
termination_by view.stackWeight (top :: outer)
decreasing_by
  · simp [stackWeight, frameWeight]
  · have : 0 < view.weight ‹α› := Nat.lt_of_le_of_lt (Nat.zero_le _) (view.children_lt _)
    simp [stackWeight, frameWeight, _hp]; omega
  · have := view.totalWeight_pendingChildren_lt node shapes
    simp [stackWeight, frameWeight, _hp]; omega

/-- The element tree of a node, with the visits that were made to find it. -/
def trace (root : α) : Except ε (Node × Visits α) := do
  match ← view.shape root with
  | .other kind => .ok (.other kind, ⟨[root], []⟩)
  | .element name attributes =>
    let shapes ← (view.children root).mapM view.shape
    view.close ⟨name, attributes, view.pendingChildren root shapes, []⟩ []
      ⟨(view.children root).reverse ++ [root], [root]⟩

def build (root : α) : Except ε Node := (view.trace root).map Prod.fst

end TreeView

end UsedSelectors
