import UsedSelectors.Proofs.Tree.Draft

/-!
# Conversion of a whole tree

What a finite tree is converted to is said by recursion on its nodes, without a stack. The builder
gives just that tree, and on the way it asks for the shape of every node that it comes to once, and
for the children of those nodes that are elements once.
-/

namespace UsedSelectors

def Shape.isElement : Shape → Bool
  | element _ _ => true
  | other _ => false

/-- A finite tree, or many of them: the children of each node, and no way down without an end. -/
structure Branching (α : Type) where
  children : α → List α
  wellFounded : WellFounded fun child node => child ∈ children node

namespace Branching

variable {α ε : Type} (branching : Branching α) (convert : α → Shape)

/-- What a node is converted to with all that is inside it: an element has what its children are
converted to, in their order. -/
def tree (node : α) : Node :=
  match convert node with
  | .other kind => .other kind
  | .element name attributes =>
    .element name attributes ((branching.children node).attach.map fun child => tree child.1)
termination_by branching.wellFounded.wrap node
decreasing_by exact child.2

/-- The nodes that are come to from a node, going on from elements only: one for each place. -/
def reached (node : α) : List α :=
  match convert node with
  | .other _ => [node]
  | .element _ _ => node :: (branching.children node).attach.flatMap fun child => reached child.1
termination_by branching.wellFounded.wrap node
decreasing_by exact child.2

def weight (node : α) : Nat :=
  totalWeight (fun child => weight child.1) (branching.children node).attach + 1
termination_by branching.wellFounded.wrap node
decreasing_by exact child.2

theorem tree_of_other {node : α} {kind : String} (h : convert node = .other kind) :
    branching.tree convert node = .other kind := by
  rw [tree, h]

theorem tree_of_element {node : α} {name : String} {attributes : List Attribute}
    (h : convert node = .element name attributes) :
    branching.tree convert node =
      .element name attributes ((branching.children node).map (branching.tree convert)) := by
  rw [tree, h]
  simp

theorem reached_of_other {node : α} {kind : String} (h : convert node = .other kind) :
    branching.reached convert node = [node] := by
  rw [reached, h]

theorem reached_of_element {node : α} {name : String} {attributes : List Attribute}
    (h : convert node = .element name attributes) :
    branching.reached convert node =
      node :: (branching.children node).flatMap (branching.reached convert) := by
  rw [reached, h]
  simp

theorem weight_eq (node : α) :
    branching.weight node = totalWeight branching.weight (branching.children node) + 1 := by
  rw [weight, ← totalWeight_map branching.weight Subtype.val, List.attach_map_subtype_val]

/-- A view that reads the nodes of a finite tree in a way that never fails. -/
structure ReadBy (view : TreeView α ε) : Prop where
  shape : ∀ node, view.shape node = .ok (convert node)
  children : ∀ node, view.children node = branching.children node

/-- Every finite tree is read by some view. -/
theorem exists_readBy : ∃ view : TreeView α ε, branching.ReadBy convert view := by
  refine ⟨⟨fun node => .ok (convert node), branching.children, branching.weight, ?_⟩, ?_⟩
  · intro node
    rw [branching.weight_eq node]
    exact Nat.lt_succ_self _
  · exact ⟨fun _ => rfl, fun _ => rfl⟩

variable {branching convert} {view : TreeView α ε}

/-- What the stack computes for converted nodes is their recursive conversion. Every node that is
reached has been converted, and those of them that are elements have been expanded. -/
theorem ReadBy.exists_grows (reads : branching.ReadBy convert view) (nodes : List α) :
    ∃ made, view.Grows nodes (nodes.map (branching.tree convert)) made ∧
      (made.converted ++ nodes).Perm (nodes.flatMap (branching.reached convert)) ∧
      made.expanded.Perm
        ((nodes.flatMap (branching.reached convert)).filter fun node =>
          (convert node).isElement) := by
  induction hweight : totalWeight view.weight nodes using Nat.strongRecOn generalizing nodes with
  | ind weight ih =>
      cases nodes with
      | nil => exact ⟨⟨[], []⟩, .nil, .nil, .nil⟩
      | cons node nodes =>
          have lighter := view.children_lt node
          rw [totalWeight_cons] at hweight
          obtain ⟨later, grown, converted, expanded⟩ := ih _ (by omega) nodes rfl
          have shape := reads.shape node
          cases hshape : convert node with
          | other kind =>
              rw [hshape] at shape
              refine ⟨later, ?_, ?_, ?_⟩
              · rw [List.map_cons, branching.tree_of_other convert hshape]
                exact .other shape grown
              · rw [List.flatMap_cons, branching.reached_of_other convert hshape]
                exact List.perm_middle.trans (converted.cons node)
              · rw [List.flatMap_cons, branching.reached_of_other convert hshape,
                  List.filter_append, List.filter_cons_of_neg (by simp [hshape, Shape.isElement])]
                exact expanded
          | element name attributes =>
              rw [hshape] at shape
              obtain ⟨inner, below, innerConverted, innerExpanded⟩ :=
                ih _ (by omega) (view.children node) rfl
              rw [reads.children node] at innerConverted innerExpanded
              refine ⟨⟨inner.converted ++ (view.children node).reverse ++ later.converted,
                inner.expanded ++ node :: later.expanded⟩, ?_, ?_, ?_⟩
              · rw [List.map_cons, branching.tree_of_element convert hshape, ← reads.children node]
                exact .element shape below grown
              · rw [List.flatMap_cons, branching.reached_of_element convert hshape]
                refine List.perm_middle.trans (.cons node ?_)
                rw [List.append_assoc]
                refine .append ?_ converted
                rw [reads.children node]
                exact ((List.reverse_perm _).append_left _).trans innerConverted
              · rw [List.flatMap_cons, branching.reached_of_element convert hshape,
                  List.cons_append, List.filter_cons_of_pos (by simp [hshape, Shape.isElement]),
                  List.filter_append]
                exact List.perm_middle.trans (.cons node (innerExpanded.append expanded))

/--
The builder gives the recursive conversion of a finite tree, whether it keeps a stack of open
elements or appends children where their parent already stands. It asks for the shape of every
node that is reached once, and for the children of the elements among these once; and there is a
view of every finite tree.
-/
theorem trace_eq_tree (branching : Branching α) (convert : α → Shape) :
    (∃ view : TreeView α ε, branching.ReadBy convert view) ∧
    ∀ view : TreeView α ε, branching.ReadBy convert view → ∀ root, ∃ visits,
      view.appended root = .ok (branching.tree convert root, visits) ∧
      view.trace root = .ok (branching.tree convert root, visits) ∧
      view.build root = .ok (branching.tree convert root) ∧
      visits.converted.Perm (branching.reached convert root) ∧
      visits.expanded.Perm
        ((branching.reached convert root).filter fun node => (convert node).isElement) := by
  refine ⟨branching.exists_readBy convert, fun view reads root => ?_⟩
  obtain ⟨made, grows, converted, expanded⟩ := reads.exists_grows [root]
  rw [List.flatMap_singleton] at converted expanded
  have found := TreeView.trace_of_grows grows
  refine ⟨_, (view.appended_eq_trace root).trans found, found, ?_, converted, expanded⟩
  rw [TreeView.build, found]
  rfl

/-! ## Numbers as a tree -/

def ofNumbers : Branching Nat where
  children := List.range
  wellFounded := Subrelation.wf List.mem_range.mp Nat.lt_wfRel.wf

def numberShape : Nat → Shape
  | 0 => .other "zero"
  | n + 1 => .element (toString (n + 1)) []

/-- A tree in which equal nodes stand at several places. -/
theorem trace_eq_tree_ofNumbers :
    ∃ view : TreeView Nat Empty, ofNumbers.ReadBy numberShape view ∧ ∃ visits,
      view.appended 3 = .ok (ofNumbers.tree numberShape 3, visits) ∧
      view.trace 3 = .ok (ofNumbers.tree numberShape 3, visits) ∧
      view.build 3 = .ok (ofNumbers.tree numberShape 3) ∧
      visits.converted.Perm (ofNumbers.reached numberShape 3) ∧
      visits.expanded.Perm
        ((ofNumbers.reached numberShape 3).filter fun node => (numberShape node).isElement) := by
  obtain ⟨⟨view, reads⟩, each⟩ := trace_eq_tree (ε := Empty) ofNumbers numberShape
  exact ⟨view, reads, each view reads 3⟩

end Branching

end UsedSelectors
