import UsedSelectors.Extraction
import UsedSelectors.Proofs.Markup.Siblings
import UsedSelectors.Proofs.Markup.Values
import UsedSelectors.Proofs.Traversal
import UsedSelectors.Proofs.Tree.Conversion

/-!
# The top level of a document

Whichever node on the top level of a document is its root, the trees of the document are those of
all the nodes there, in their order, each converted by recursion. Elements whose attributes have
names of their own give at most one selector of each kind.
-/

namespace UsedSelectors

/-! ## Selectors of one element -/

/-- The attributes have names of their own, and none is named as only modules name it. -/
structure PlacedElement.HasOwnNames (e : PlacedElement) : Prop where
  nodup : (e.attributes.map (·.name)).Nodup
  notClassName : "className" ∉ e.attributes.map (·.name)

/-- If only attributes of one name give something, no more than one does. -/
theorem length_filterMap_le_one {β : Type} {gives? : Attribute → Option β} (name : String)
    {attributes : List Attribute} (nodup : (attributes.map (·.name)).Nodup)
    (only : ∀ attr ∈ attributes, ∀ b, gives? attr = some b → attr.name = name) :
    (attributes.filterMap gives?).length ≤ 1 := by
  induction attributes with
  | nil => exact Nat.zero_le 1
  | cons attr attributes ih =>
      obtain ⟨fresh, nodup⟩ := List.nodup_cons.mp nodup
      obtain ⟨first, others⟩ := List.forall_mem_cons.mp only
      cases given : gives? attr with
      | none =>
          rw [List.filterMap_cons_none given]
          exact ih nodup others
      | some b =>
          have nothing : attributes.filterMap gives? = [] := by
            rw [List.filterMap_eq_nil_iff]
            intro other member
            by_contra something
            obtain ⟨c, hc⟩ := Option.ne_none_iff_exists'.mp something
            have same : other.name = attr.name :=
              (others other member c hc).trans (first b given).symm
            exact fresh (List.mem_map.mpr ⟨other, member, same⟩)
          rw [List.filterMap_cons_some given, nothing]
          exact Nat.le_refl 1

theorem PlacedElement.HasOwnNames.length_selectors_le {e : PlacedElement} (own : e.HasOwnNames)
    (kind : SelectorKind) : (e.selectors kind).length ≤ 1 := by
  have named (attr : Attribute) (selector : Text)
      (gives : kind.ofAttribute? attr = some selector) : attr.name ∈ kind.attributeNames := by
    rw [SelectorKind.ofAttribute?] at gives
    split_ifs at gives with listed
    exact List.contains_iff_mem.mp listed
  cases kind with
  | className =>
      refine length_filterMap_le_one "class" own.nodup fun attr member selector gives => ?_
      rcases List.mem_cons.mp (named attr selector gives) with same | other
      · exact same
      · have camelCase := List.mem_singleton.mp other
        refine absurd ?_ own.notClassName
        rw [← camelCase]
        exact List.mem_map_of_mem member
  | ident =>
      refine length_filterMap_le_one "id" own.nodup fun attr _ selector gives => ?_
      exact List.mem_singleton.mp (named attr selector gives)

namespace Markup

/-! ## Conversion of document nodes -/

theorem DocumentNode.size_lt_of_mem {node child : DocumentNode} (h : child ∈ node.children) :
    child.size < node.size := by
  have below := DocumentNode.view.children_lt node
  have part : child.size ≤ totalWeight DocumentNode.size node.children := by
    obtain ⟨front, back, same⟩ := List.append_of_mem h
    rw [same, totalWeight_append, totalWeight_cons]
    omega
  exact Nat.lt_of_le_of_lt part below

/-- A node of a document with all that is inside it, as a finite tree. -/
def DocumentNode.branching : Branching DocumentNode where
  children := DocumentNode.children
  wellFounded := Subrelation.wf DocumentNode.size_lt_of_mem (measure DocumentNode.size).wf

theorem DocumentNode.build_eq_tree (n : DocumentNode) :
    n.build = DocumentNode.branching.tree DocumentNode.shape n := by
  have reads : DocumentNode.branching.ReadBy DocumentNode.shape DocumentNode.view :=
    ⟨fun _ => rfl, fun _ => rfl⟩
  obtain ⟨_, grows, _, _⟩ := reads.exists_grows [n]
  have built := TreeView.build_of_grows grows
  rw [view_build_eq] at built
  exact Except.ok.inj built

/-! ## Roots -/

theorem roots_eq (document : Document) :
    document.roots =
      document.topLevel.map (DocumentNode.branching.tree DocumentNode.shape) :=
  List.map_congr_left fun n _ => n.build_eq_tree

/--
A row of linked nodes, of which any may be the root of a document, is the top level of that
document: steps to either side follow the links, each node is found once, in order, and the trees
of the document are the recursive conversions of all of them. Without a root there are none. Where
all attributes have names of their own, every element of a document gives at most one selector of a
kind, and these are listed by depth, and in document order at each depth.
-/
theorem roots_of_isRow {α : Type} {links : Links α} {row : List α} (isRow : links.IsRow row)
    (label : α → DocumentNode) :
    row.Nodup ∧
    (∀ a ∈ row, (∃ s : Siblings DocumentNode, s.Shows links label a) ∧
      ∀ s : Siblings DocumentNode, s.Shows links label a →
        Option.Rel (Siblings.Shows links label) s.previous? (links.previous? a) ∧
        Option.Rel (Siblings.Shows links label) s.next? (links.next? a) ∧
        Document.topLevel ⟨some s⟩ = row.map label ∧
        Document.roots ⟨some s⟩ =
          (row.map label).map (DocumentNode.branching.tree DocumentNode.shape)) ∧
    Document.topLevel ⟨none⟩ = [] ∧ Document.roots ⟨none⟩ = [] ∧
    ∀ document : Document, (∀ e ∈ Node.elements document.roots, e.HasOwnNames) →
      ∀ kind, (∀ e ∈ Node.elements document.roots, (e.selectors kind).length ≤ 1) ∧
        Mode.markup.order.walk kind document.roots =
          (List.range (Node.height document.roots)).flatMap fun depth =>
            (Node.elementsOn depth document.roots).flatMap (·.selectors kind) := by
  refine ⟨isRow.nodup, fun a member => ?_, rfl, rfl, fun document own kind => ?_⟩
  · refine ⟨Siblings.exists_shows isRow label member, fun s shown => ?_⟩
    have found : Document.topLevel ⟨some s⟩ = row.map label :=
      Siblings.all_of_shows isRow member shown
    refine ⟨shown.rel_previous? isRow.inverse, shown.rel_next? isRow.inverse, found, ?_⟩
    rw [roots_eq, found]
  · constructor
    · intro e member
      exact (own e member).length_selectors_le kind
    · exact Node.walkLevels_eq kind fun _ => Node.depth_lt_height

def threeLinks : Links (Fin 3) where
  previous? n := if n = 0 then none else some (n - 1)
  next? n := if n = 2 then none else some (n + 1)

/-- A document type, an element with a class and an id, and a comment. -/
def besideRoot : Fin 3 → DocumentNode
  | 0 => .leaf (some "-doctype")
  | 1 => .element "p" [⟨"class", some "a"⟩, ⟨"id", some "b"⟩] []
  | 2 => .leaf (some "-comment")

theorem isRow_threeLinks : threeLinks.IsRow [0, 1, 2] where
  inverse := by decide
  linked := by simp [threeLinks]
  first := by simp [threeLinks]
  last := by simp [threeLinks]

/-- The nodes in front of the root element and after it are found from that element. -/
theorem roots_of_isRow_besideRoot :
    threeLinks.IsRow [0, 1, 2] ∧ ∃ s : Siblings DocumentNode, s.Shows threeLinks besideRoot 1 ∧
      Document.topLevel ⟨some s⟩ = [0, 1, 2].map besideRoot ∧
      (∀ e ∈ Node.elements (Document.roots ⟨some s⟩), e.HasOwnNames) ∧
      ∀ kind, ∀ e ∈ Node.elements (Document.roots ⟨some s⟩), (e.selectors kind).length ≤ 1 := by
  obtain ⟨_, each, _, _, selectors⟩ := roots_of_isRow isRow_threeLinks besideRoot
  obtain ⟨⟨s, shown⟩, whole⟩ := each 1 (by decide)
  obtain ⟨_, _, found, trees⟩ := whole s shown
  have own : ∀ e ∈ Node.elements (Document.roots ⟨some s⟩), e.HasOwnNames := by
    have doctype : DocumentNode.shape (besideRoot 0) = .other "-doctype" := rfl
    have element : DocumentNode.shape (besideRoot 1) =
      .element "p" ([⟨"class", some "a"⟩, ⟨"id", some "b"⟩].map DocumentNode.attributeOf) := rfl
    have comment : DocumentNode.shape (besideRoot 2) = .other "-comment" := rfl
    intro e member
    simp only [trees, List.map_cons, List.map_nil, Branching.tree_of_other _ _ doctype,
      Branching.tree_of_element _ _ element, Branching.tree_of_other _ _ comment,
      Node.elements_cons_other, Node.elements_cons_element] at member
    obtain rfl := List.mem_singleton.mp member
    exact ⟨by decide, by decide⟩
  exact ⟨isRow_threeLinks, s, shown, found, own, fun kind => (selectors _ own kind).1⟩

end Markup

end UsedSelectors
