import UsedSelectors.Markup.Document
import UsedSelectors.Proofs.Selector
import UsedSelectors.Proofs.Tree.Growth
import UsedSelectors.Traversal

/-!
# The values in documents

Whatever nodes a tree grows from, its attributes are those that the nodes were read with. In
documents the values of attributes are strings, so no selector of a document has a surrogate.
-/

namespace UsedSelectors

inductive Node.AllAttributes (p : Attribute → Prop) : Node → Prop where
  | element {name : String} {attributes : List Attribute} {children : List Node}
      (here : ∀ attr ∈ attributes, p attr) (below : ∀ child ∈ children, AllAttributes p child) :
      AllAttributes p (.element name attributes children)
  | other {kind : String} : AllAttributes p (.other kind)

namespace Node

variable {p : Attribute → Prop} {kind : SelectorKind}

theorem AllAttributes.children {n child : Node} (all : n.AllAttributes p)
    (h : child ∈ n.children) : child.AllAttributes p := by
  cases all with
  | element _ below => exact below child h
  | other => cases h

theorem exists_of_mem_walkLevels {level : List Node} {selector : Text}
    (all : ∀ n ∈ level, n.AllAttributes p) (h : selector ∈ walkLevels kind level) :
    ∃ attr, p attr ∧ kind.ofAttribute? attr = some selector := by
  induction level using walkLevels.induct with
  | case1 level empty =>
      rw [walkLevels, if_pos empty] at h
      cases h
  | case2 level notEmpty ih =>
      rw [walkLevels, if_neg notEmpty] at h
      obtain here | deeper := List.mem_append.mp h
      · obtain ⟨attributes, hattributes, here⟩ := List.mem_flatMap.mp here
        obtain ⟨attr, hattr, gives⟩ := List.mem_filterMap.mp here
        obtain ⟨n, hn, hof⟩ := List.mem_filterMap.mp hattributes
        cases all n hn with
        | element owned below =>
            cases hof
            exact ⟨attr, owned attr hattr, gives⟩
        | other => cases hof
      · refine ih (fun child hchild => ?_) deeper
        obtain ⟨n, hn, hchild⟩ := List.mem_flatMap.mp hchild
        exact (all n hn).children hchild

end Node

theorem TreeView.Grows.allAttributes {α ε : Type} {view : TreeView α ε} {p : Attribute → Prop}
    (read : ∀ node name attributes, view.shape node = .ok (.element name attributes) →
      ∀ attr ∈ attributes, p attr)
    {nodes : List α} {trees : List Node} {visits : Visits α}
    (grows : view.Grows nodes trees visits) :
    ∀ tree ∈ trees, tree.AllAttributes p := by
  induction grows with
  | nil =>
      intro tree h
      cases h
  | other shape rest ih => exact List.forall_mem_cons.mpr ⟨.other, ih⟩
  | element shape below rest ihBelow ihRest =>
      exact List.forall_mem_cons.mpr ⟨.element (read _ _ _ shape) ihBelow, ihRest⟩

namespace Markup

/-- An attribute has no value with a surrogate in it. -/
def HasScalarValue (attr : Attribute) : Prop := ∀ value, attr.value = some value → value.IsScalar

theorem hasScalarValue_attributeOf (attr : TagAttribute) :
    HasScalarValue (DocumentNode.attributeOf attr) := by
  intro value hvalue
  obtain ⟨s, _, rfl⟩ := Option.map_eq_some_iff.mp hvalue
  exact Text.isScalar_ofString s

theorem view_build_eq (n : DocumentNode) : DocumentNode.view.build n = .ok n.build := by
  rw [DocumentNode.build]
  cases DocumentNode.view.build n with
  | ok tree => rfl
  | error impossible => cases impossible

theorem allAttributes_build (n : DocumentNode) : n.build.AllAttributes HasScalarValue := by
  obtain ⟨visits, grows⟩ := (TreeView.build_eq_ok_iff _ _ _).mp (view_build_eq n)
  refine grows.allAttributes (fun node name attributes shape attr hattr => ?_) _
    (List.mem_singleton_self _)
  cases node with
  | element _ given _ =>
      cases shape
      obtain ⟨source, _, rfl⟩ := List.mem_map.mp hattr
      exact hasScalarValue_attributeOf source
  | leaf _ => cases shape

theorem isScalar_of_mem_walkLevels {kind : SelectorKind} {document : Document} {selector : Text}
    (h : selector ∈ Node.walkLevels kind document.roots) : selector.IsScalar := by
  have all : ∀ n ∈ document.roots, n.AllAttributes HasScalarValue := by
    intro n hn
    obtain ⟨top, _, rfl⟩ := List.mem_map.mp hn
    exact allAttributes_build top
  obtain ⟨attr, scalar, gives⟩ := Node.exists_of_mem_walkLevels all h
  rw [SelectorKind.ofAttribute?] at gives
  split at gives
  · obtain ⟨value, hvalue, gives⟩ := Option.bind_eq_some_iff.mp gives
    exact (SelectorKind.forall_selector?_isScalar kind).mpr (scalar value hvalue) selector gives
  · cases gives

end Markup

end UsedSelectors
