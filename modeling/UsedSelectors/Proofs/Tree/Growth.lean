import UsedSelectors.Proofs.Attempts
import UsedSelectors.Tree

/-!
# What the stack of open elements computes

Building a tree with a stack of open elements comes to the same as a recursion on the nodes: the
children of an element are the trees of its children, in their order. `Grows` is that recursion for
a list of converted nodes, with the visits it makes; `Stuck` says which error it meets. Every list
of converted nodes either grows or is stuck, and the stack follows both.
-/

namespace UsedSelectors.TreeView

open Attempts

variable {α ε : Type}

/--
Converted nodes grow into trees. The visits are those that are made while the elements among the
nodes are expanded, the last element first.
-/
inductive Grows (view : TreeView α ε) : List α → List Node → Visits α → Prop where
  | nil : Grows view [] [] ⟨[], []⟩
  | other {node : α} {kind : String} {nodes : List α} {trees : List Node} {visits : Visits α}
      (shape : view.shape node = .ok (.other kind)) (rest : Grows view nodes trees visits) :
      Grows view (node :: nodes) (.other kind :: trees) visits
  | element {node : α} {name : String} {attributes : List Attribute} {nodes : List α}
      {children trees : List Node} {inner later : Visits α}
      (shape : view.shape node = .ok (.element name attributes))
      (below : Grows view (view.children node) children inner)
      (rest : Grows view nodes trees later) :
      Grows view (node :: nodes) (.element name attributes children :: trees)
        ⟨inner.converted ++ (view.children node).reverse ++ later.converted,
          inner.expanded ++ node :: later.expanded⟩

/--
Converted nodes do not grow into trees, because of an error below them. The elements are expanded
from the last one on, so whatever comes after the element in question grows.
-/
inductive Stuck (view : TreeView α ε) (error : ε) : List α → Prop where
  | conversion {node : α} {name : String} {attributes : List Attribute} {nodes : List α}
      {trees : List Node} {visits : Visits α}
      (shape : view.shape node = .ok (.element name attributes))
      (failed : (view.children node).mapM view.shape = .error error)
      (rest : Grows view nodes trees visits) : Stuck view error (node :: nodes)
  | inside {node : α} {name : String} {attributes : List Attribute} {nodes : List α}
      {shapes : List Shape} {trees : List Node} {visits : Visits α}
      (shape : view.shape node = .ok (.element name attributes))
      (converted : (view.children node).mapM view.shape = .ok shapes)
      (inner : Stuck view error (view.children node))
      (rest : Grows view nodes trees visits) : Stuck view error (node :: nodes)
  | later {node : α} {nodes : List α} (rest : Stuck view error nodes) :
      Stuck view error (node :: nodes)

theorem reverse_zip_cons_append (node : α) (nodes : List α) (shape : Shape) (shapes : List Shape)
    (before : List (α × Shape)) :
    ((node :: nodes).zip (shape :: shapes)).reverse ++ before =
      (nodes.zip shapes).reverse ++ (node, shape) :: before := by
  simp only [List.zip_cons_cons, List.reverse_cons, List.append_assoc, List.cons_append,
    List.nil_append]

/-! ## One step of the stack -/

section Steps

variable (view : TreeView α ε) (name : String) (attributes : List Attribute)
  (before : List (α × Shape)) (finished : List Node) (outer : List (OpenElement α))
  (visits : Visits α)

theorem close_other (node : α) (kind : String) :
    view.close ⟨name, attributes, (node, .other kind) :: before, finished⟩ outer visits =
      view.close ⟨name, attributes, before, .other kind :: finished⟩ outer visits := by
  rw [close]

theorem close_element {node : α} {inner : String} {given : List Attribute} {shapes : List Shape}
    (h : (view.children node).mapM view.shape = .ok shapes) :
    view.close ⟨name, attributes, (node, .element inner given) :: before, finished⟩ outer visits =
      view.close ⟨inner, given, view.pendingChildren node shapes, []⟩
        (⟨name, attributes, before, finished⟩ :: outer)
        ⟨(view.children node).reverse ++ visits.converted, node :: visits.expanded⟩ := by
  rw [close]
  simp only [h]

theorem close_element_error {node : α} {inner : String} {given : List Attribute} {error : ε}
    (h : (view.children node).mapM view.shape = .error error) :
    view.close ⟨name, attributes, (node, .element inner given) :: before, finished⟩ outer visits =
      .error error := by
  rw [close]
  simp only [h]

theorem close_parent (parent : OpenElement α) :
    view.close ⟨name, attributes, [], finished⟩ (parent :: outer) visits =
      view.close ⟨parent.name, parent.attributes, parent.pending,
        .element name attributes finished :: parent.finished⟩ outer visits := by
  rw [close]

theorem close_root :
    view.close ⟨name, attributes, [], finished⟩ [] visits =
      .ok (.element name attributes finished, visits) := by
  rw [close]

end Steps

/-! ## Whole runs -/

theorem Grows.converted {view : TreeView α ε} {nodes : List α} {trees : List Node}
    {made : Visits α} (grows : Grows view nodes trees made) :
    ∃ shapes, nodes.mapM view.shape = .ok shapes := by
  induction grows with
  | nil => exact ⟨[], rfl⟩
  | other shape rest ih =>
      obtain ⟨shapes, hshapes⟩ := ih
      exact ⟨_ :: shapes, by rw [List.mapM_cons, shape, hshapes]; rfl⟩
  | element shape below rest ihBelow ihRest =>
      obtain ⟨shapes, hshapes⟩ := ihRest
      exact ⟨_ :: shapes, by rw [List.mapM_cons, shape, hshapes]; rfl⟩

theorem Grows.eq_singleton {view : TreeView α ε} {node : α} {trees : List Node}
    {made : Visits α} (grows : Grows view [node] trees made) : ∃ tree, trees = [tree] := by
  cases grows with
  | other shape rest => cases rest; exact ⟨_, rfl⟩
  | element shape below rest => cases rest; exact ⟨_, rfl⟩

theorem Grows.close {view : TreeView α ε} {nodes : List α} {trees : List Node}
    {made : Visits α} (grows : Grows view nodes trees made) {shapes : List Shape}
    (converted : nodes.mapM view.shape = .ok shapes) (name : String)
    (attributes : List Attribute) (before : List (α × Shape)) (finished : List Node)
    (outer : List (OpenElement α)) (visits : Visits α) :
    view.close ⟨name, attributes, (nodes.zip shapes).reverse ++ before, finished⟩ outer visits =
      view.close ⟨name, attributes, before, trees ++ finished⟩ outer
        ⟨made.converted ++ visits.converted, made.expanded ++ visits.expanded⟩ := by
  induction grows generalizing shapes name attributes before finished outer visits with
  | nil => simp
  | other shape rest ih =>
      obtain ⟨first, others, hfirst, hothers, rfl⟩ := mapM_cons_eq_ok_iff.mp converted
      obtain rfl : .other _ = first := Except.ok.inj (shape.symm.trans hfirst)
      rw [reverse_zip_cons_append, ih hothers, close_other]
      rfl
  | @element node inner given nodes children trees below later shape grown rest ihBelow ihRest =>
      obtain ⟨first, others, hfirst, hothers, rfl⟩ := mapM_cons_eq_ok_iff.mp converted
      obtain rfl : .element inner given = first := Except.ok.inj (shape.symm.trans hfirst)
      obtain ⟨shapes, hshapes⟩ := grown.converted
      rw [reverse_zip_cons_append, ihRest hothers, close_element view _ _ _ _ _ _ hshapes]
      -- The element is opened with nothing finished, and closed when all its children are.
      have inside := ihBelow hshapes inner given [] []
        (⟨name, attributes, before, trees ++ finished⟩ :: outer)
      rw [List.append_nil, List.append_nil] at inside
      rw [pendingChildren, inside, close_parent]
      simp only [List.append_assoc, List.cons_append]

theorem Stuck.close {view : TreeView α ε} {error : ε} {nodes : List α}
    (stuck : Stuck view error nodes) {shapes : List Shape}
    (converted : nodes.mapM view.shape = .ok shapes) (name : String)
    (attributes : List Attribute) (before : List (α × Shape)) (finished : List Node)
    (outer : List (OpenElement α)) (visits : Visits α) :
    view.close ⟨name, attributes, (nodes.zip shapes).reverse ++ before, finished⟩ outer visits =
      .error error := by
  induction stuck generalizing shapes name attributes before finished outer visits with
  | conversion shape failed rest =>
      obtain ⟨first, others, hfirst, hothers, rfl⟩ := mapM_cons_eq_ok_iff.mp converted
      obtain rfl : .element _ _ = first := Except.ok.inj (shape.symm.trans hfirst)
      rw [reverse_zip_cons_append, rest.close hothers, close_element_error view _ _ _ _ _ _ failed]
  | @inside node inner given nodes shapes trees made shape hshapes stuck rest ih =>
      obtain ⟨first, others, hfirst, hothers, rfl⟩ := mapM_cons_eq_ok_iff.mp converted
      obtain rfl : .element inner given = first := Except.ok.inj (shape.symm.trans hfirst)
      have inside := ih hshapes inner given [] []
        (⟨name, attributes, before, trees ++ finished⟩ :: outer)
      rw [List.append_nil] at inside
      rw [reverse_zip_cons_append, rest.close hothers, close_element view _ _ _ _ _ _ hshapes,
        pendingChildren, inside]
  | later rest ih =>
      obtain ⟨first, others, hfirst, hothers, rfl⟩ := mapM_cons_eq_ok_iff.mp converted
      rw [reverse_zip_cons_append, ih hothers]

/-- Converted nodes grow, unless an error below them keeps them from it. -/
theorem grows_or_stuck (view : TreeView α ε) (nodes : List α) {shapes : List Shape}
    (converted : nodes.mapM view.shape = .ok shapes) :
    (∃ trees visits, Grows view nodes trees visits) ∨ ∃ error, Stuck view error nodes := by
  -- The children of a node weigh less than the node, and so does what follows it.
  induction hweight : totalWeight view.weight nodes using Nat.strongRecOn
    generalizing nodes shapes with
  | ind weight ih =>
      cases nodes with
      | nil => exact .inl ⟨[], _, .nil⟩
      | cons node nodes =>
          obtain ⟨first, others, hfirst, hothers, rfl⟩ := mapM_cons_eq_ok_iff.mp converted
          have below := view.children_lt node
          rw [totalWeight_cons] at hweight
          obtain ⟨trees, visits, rest⟩ | ⟨error, rest⟩ := ih _ (by omega) nodes hothers rfl
          · cases first with
            | other kind => exact .inl ⟨_, _, .other hfirst rest⟩
            | element name attributes =>
                cases hshapes : (view.children node).mapM view.shape with
                | error error => exact .inr ⟨error, .conversion hfirst hshapes rest⟩
                | ok shapes =>
                    obtain ⟨children, inner, grown⟩ | ⟨error, inner⟩ :=
                      ih _ (by omega) (view.children node) hshapes rfl
                    · exact .inl ⟨_, _, .element hfirst grown rest⟩
                    · exact .inr ⟨error, .inside hfirst hshapes inner rest⟩
          · exact .inr ⟨error, .later rest⟩

theorem trace_of_grows {view : TreeView α ε} {root : α} {tree : Node} {made : Visits α}
    (grows : Grows view [root] [tree] made) :
    view.trace root = .ok (tree, ⟨made.converted ++ [root], made.expanded⟩) := by
  cases grows with
  | other shape rest =>
      cases rest
      simp [trace, shape, bind, Except.bind]
  | @element _ name given _ _ _ _ _ shape below rest =>
      cases rest
      obtain ⟨shapes, hshapes⟩ := below.converted
      have run := below.close hshapes name given [] [] []
      simp only [List.append_nil] at run
      simp [trace, shape, hshapes, bind, Except.bind, pendingChildren, run, close_root]

/-- A node that grows into a tree has that tree. -/
theorem build_of_grows {view : TreeView α ε} {root : α} {tree : Node} {visits : Visits α}
    (grows : Grows view [root] [tree] visits) : view.build root = .ok tree := by
  rw [build, trace_of_grows grows]
  rfl

theorem build_of_stuck {view : TreeView α ε} {root : α} {error : ε}
    (stuck : Stuck view error [root]) : view.build root = .error error := by
  cases stuck with
  | conversion hshape failed rest =>
      simp [build, trace, hshape, failed, bind, Except.bind, Except.map]
  | @inside _ name given _ _ _ _ hshape hshapes inner rest =>
      have run := inner.close hshapes name given [] [] []
      simp only [List.append_nil] at run
      simp [build, trace, hshape, hshapes, bind, Except.bind, Except.map, pendingChildren, run]
  | later rest => cases rest

/--
The trees that the builder makes are those that nodes grow into: what the stack does is the
recursion on the nodes.
-/
theorem build_eq_ok_iff (view : TreeView α ε) (root : α) (tree : Node) :
    view.build root = .ok tree ↔ ∃ visits, Grows view [root] [tree] visits := by
  constructor
  · intro built
    cases hshape : view.shape root with
    | error error => simp [build, trace, hshape, bind, Except.bind, Except.map] at built
    | ok shape =>
        have converted : [root].mapM view.shape = .ok [shape] := by
          rw [List.mapM_cons, hshape]; rfl
        obtain ⟨trees, visits, grows⟩ | ⟨error, stuck⟩ := grows_or_stuck view [root] converted
        · obtain ⟨grown, rfl⟩ := grows.eq_singleton
          rw [build_of_grows grows] at built
          exact ⟨visits, Except.ok.inj built ▸ grows⟩
        · rw [build_of_stuck stuck] at built
          cases built
  · rintro ⟨visits, grows⟩
    exact build_of_grows grows

end UsedSelectors.TreeView
