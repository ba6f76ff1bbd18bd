import UsedSelectors.Proofs.Tree.Growth

/-!
# Trees grown by appending

The stack of open elements holds what is finished of a tree apart from what is still to be done. The
same tree comes about when every element is put into it without children as soon as it is converted,
and its children are appended to it there when its turn comes: a `Draft` is the tree so far together
with the elements that still wait for their children, each with its place in the tree. The element
that was put in last has its turn first, so branches are filled in another order than that of the
source. What holds all the way is that nodes which are put in stand at their place as the trees they
grow into before any element that has waited longer has its turn.
-/

namespace UsedSelectors

namespace Node

/-- Changes the node at a place, which is given by the child indices on the way to it. -/
def modifyAt (change : Node → Node) : List Nat → Node → Node
  | [], n => change n
  | i :: place, element name attributes children =>
    element name attributes (children.modify i (modifyAt change place))
  | _ :: _, other kind => other kind

def childCount : List Nat → Node → Nat
  | [], n => n.children.length
  | i :: place, n => (n.children[i]?.map (childCount place)).getD 0

def append (more : List Node) : Node → Node
  | element name attributes children => element name attributes (children ++ more)
  | other kind => other kind

theorem append_nil (n : Node) : append [] n = n := by
  cases n with
  | element name attributes children => rw [append, List.append_nil]
  | other kind => rfl

theorem append_append (first more : List Node) (n : Node) :
    append more (append first n) = append (first ++ more) n := by
  cases n with
  | element name attributes children => simp only [append, List.append_assoc]
  | other kind => rfl

theorem modifyAt_id {change : Node → Node} (same : ∀ n, change n = n) (place : List Nat)
    (n : Node) :
    modifyAt change place n = n := by
  induction place generalizing n with
  | nil => exact same n
  | cons i place ih =>
      cases n with
      | element name attributes children =>
          have inside : modifyAt change place = id := funext ih
          rw [modifyAt, inside, List.modify_id]
      | other kind => rfl

theorem modifyAt_modifyAt (first second : Node → Node) (place : List Nat) (n : Node) :
    modifyAt second place (modifyAt first place n) =
      modifyAt (fun m => second (first m)) place n := by
  induction place generalizing n with
  | nil => rfl
  | cons i place ih =>
      cases n with
      | element name attributes children =>
          simp only [modifyAt, List.modify_modify_eq]
          congr 2
          exact funext ih
      | other kind => rfl

theorem modify_length_append {α : Type} (change : α → α) (items : List α) (a : α) (more : List α) :
    (items ++ a :: more).modify items.length change = items ++ change a :: more := by
  induction items with
  | nil => rfl
  | cons item items ih => rw [List.cons_append, List.length_cons, List.modify_succ_cons, ih]; rfl

theorem modify_congr {α : Type} {first second : α → α} {items : List α} {i : Nat}
    (agree : ∀ a, items[i]? = some a → first a = second a) :
    items.modify i first = items.modify i second := by
  apply List.ext_getElem?
  intro j
  rw [List.getElem?_modify, List.getElem?_modify]
  by_cases same : i = j
  · subst same
    cases item : items[i]? with
    | none => rfl
    | some a => simp [agree a item]
  · simp [same]

theorem modifyAt_append_cons (change : Node → Node) (place : List Nat) (n child : Node)
    (more : List Node) :
    modifyAt change (place ++ [childCount place n]) (modifyAt (append (child :: more)) place n) =
      modifyAt (append (change child :: more)) place n := by
  induction place generalizing n with
  | nil =>
      cases n with
      | element name attributes children =>
          simp only [List.nil_append, modifyAt, append, childCount, Node.children,
            modify_length_append]
      | other kind => rfl
  | cons i place ih =>
      cases n with
      | element name attributes children =>
          simp only [List.cons_append, modifyAt, List.modify_modify_eq]
          congr 1
          apply modify_congr
          intro c child
          have count : childCount (i :: place) (element name attributes children) =
              childCount place c := by
            simp [childCount, Node.children, child]
          rw [count]
          exact ih c
      | other kind => rfl

end Node

def Shape.node : Shape → Node
  | element name attributes => .element name attributes []
  | other kind => .other kind

/-- A tree in the making. -/
structure Draft (α : Type) where
  tree : Node
  waiting : List (α × List Nat)
  visits : Visits α

namespace TreeView

open Attempts

variable {α ε : Type} (view : TreeView α ε)

/-- Puts a converted node behind the children of the element at a place. An element has to wait for
its own children. -/
def addChild (place : List Nat) (draft : Draft α) (child : α × Shape) : Draft α where
  tree := draft.tree.modifyAt (.append [child.2.node]) place
  waiting :=
    match child.2 with
    | .element _ _ => (child.1, place ++ [draft.tree.childCount place]) :: draft.waiting
    | .other _ => draft.waiting
  visits := ⟨child.1 :: draft.visits.converted, draft.visits.expanded⟩

/-- Converts nodes one after the other and puts each behind the children of the element at a
place. -/
def addChildren (place : List Nat) : List α → Draft α → Except ε (Draft α)
  | [], draft => .ok draft
  | child :: rest, draft => do
    let shape ← view.shape child
    addChildren place rest (addChild place draft (child, shape))

def waitingWeight (waiting : List (α × List Nat)) : Nat :=
  totalWeight (fun entry => view.weight entry.1) waiting

theorem waitingWeight_addChildren {place : List Nat} {nodes : List α} {draft next : Draft α}
    (h : view.addChildren place nodes draft = .ok next) :
    view.waitingWeight next.waiting ≤
      totalWeight view.weight nodes + view.waitingWeight draft.waiting := by
  induction nodes generalizing draft with
  | nil =>
      cases h
      simp
  | cons child rest ih =>
      obtain ⟨shape, _, h⟩ := bind_eq_ok_iff.mp h
      have rest := ih h
      have one : view.waitingWeight (addChild place draft (child, shape)).waiting ≤
          view.weight child + view.waitingWeight draft.waiting := by
        cases shape with
        | element name attributes => simp [addChild, waitingWeight]
        | other kind => simp [addChild]
      rw [totalWeight_cons]
      omega

/-- Gives all elements that wait their children, the last one first. -/
def appendAll (draft : Draft α) : Except ε (Node × Visits α) :=
  match _hw : draft.waiting with
  | [] => .ok (draft.tree, draft.visits)
  | (node, place) :: waiting =>
    match _hn : view.addChildren place (view.children node)
        ⟨draft.tree, waiting, draft.visits.converted, node :: draft.visits.expanded⟩ with
    | .error e => .error e
    | .ok next => appendAll next
termination_by view.waitingWeight draft.waiting
decreasing_by
  have := view.waitingWeight_addChildren _hn
  have := view.children_lt node
  simp only [_hw, waitingWeight, totalWeight_cons] at *
  omega

/-- The tree of a node, grown by appending, with the visits that are made. -/
def appended (root : α) : Except ε (Node × Visits α) := do
  let shape ← view.shape root
  let waiting :=
    match shape with
    | .element _ _ => [(root, [])]
    | .other _ => []
  view.appendAll ⟨shape.node, waiting, [root], []⟩

/-! ## One turn -/

theorem addChildren_eq (place : List Nat) (nodes : List α) (draft : Draft α) :
    view.addChildren place nodes draft =
      (nodes.mapM view.shape).map fun shapes =>
        (nodes.zip shapes).foldl (addChild place) draft := by
  induction nodes generalizing draft with
  | nil => rfl
  | cons child rest ih =>
      rw [addChildren, List.mapM_cons]
      cases view.shape child with
      | error e => rfl
      | ok shape =>
          have restAdded := ih (addChild place draft (child, shape))
          cases converted : rest.mapM view.shape with
          | error e =>
              rw [converted] at restAdded
              exact restAdded
          | ok shapes =>
              rw [converted] at restAdded
              exact restAdded

section Turns

variable (tree : Node) (waiting : List (α × List Nat)) (visits : Visits α) (place : List Nat)

theorem appendAll_nil : view.appendAll ⟨tree, [], visits⟩ = .ok (tree, visits) := by
  rw [appendAll]

theorem appendAll_cons (node : α) :
    view.appendAll ⟨tree, (node, place) :: waiting, visits⟩ =
      ((view.children node).mapM view.shape).bind fun shapes =>
        view.appendAll (((view.children node).zip shapes).foldl (addChild place)
          ⟨tree, waiting, visits.converted, node :: visits.expanded⟩) := by
  have added := view.addChildren_eq place (view.children node)
    ⟨tree, waiting, visits.converted, node :: visits.expanded⟩
  rw [appendAll]
  dsimp only
  split
  · rename_i e failed
    rw [map_eq_error_iff.mp (added.symm.trans failed)]
    rfl
  · rename_i next found
    obtain ⟨shapes, converted, rfl⟩ := map_eq_ok_iff.mp (added.symm.trans found)
    rw [converted]
    rfl

end Turns

/-! ## Whole runs -/

/-- When converted nodes have been put in and grow, the elements among them are filled with the
trees of their children, and those that waited before have their turn after that. -/
theorem Grows.appendAll {view : TreeView α ε} {nodes : List α} {trees : List Node}
    {made : Visits α} (grows : Grows view nodes trees made) {shapes : List Shape}
    (converted : nodes.mapM view.shape = .ok shapes) (place : List Nat) (draft : Draft α) :
    view.appendAll ((nodes.zip shapes).foldl (addChild place) draft) =
      view.appendAll ⟨draft.tree.modifyAt (.append trees) place, draft.waiting,
        made.converted ++ (nodes.reverse ++ draft.visits.converted),
        made.expanded ++ draft.visits.expanded⟩ := by
  induction grows generalizing shapes place draft with
  | nil =>
      obtain rfl : shapes = [] := by simpa [pure, Except.pure, eq_comm] using converted
      rw [Node.modifyAt_id Node.append_nil]
      rfl
  | @other node kind nodes trees made shape rest ih =>
      obtain ⟨first, others, hfirst, hothers, rfl⟩ := mapM_cons_eq_ok_iff.mp converted
      obtain rfl : .other kind = first := Except.ok.inj (shape.symm.trans hfirst)
      rw [List.zip_cons_cons, List.foldl_cons, ih hothers]
      simp only [addChild, Node.modifyAt_modifyAt, Node.append_append, Shape.node,
        List.reverse_cons, List.append_assoc, List.cons_append, List.nil_append]
  | @element node inner given nodes children trees below later shape grown rest ihBelow ihRest =>
      obtain ⟨first, others, hfirst, hothers, rfl⟩ := mapM_cons_eq_ok_iff.mp converted
      obtain rfl : .element inner given = first := Except.ok.inj (shape.symm.trans hfirst)
      obtain ⟨shapes, hshapes⟩ := grown.converted
      rw [List.zip_cons_cons, List.foldl_cons, ihRest hothers]
      -- The nodes that follow have been filled by now, and the element is the next to be.
      simp only [addChild]
      rw [appendAll_cons, hshapes, Except.bind, ihBelow hshapes]
      simp only [Node.modifyAt_modifyAt, Node.append_append, List.cons_append, List.nil_append,
        Node.modifyAt_append_cons, Shape.node, List.reverse_cons, List.append_assoc]
      rfl

theorem Stuck.appendAll {view : TreeView α ε} {error : ε} {nodes : List α}
    (stuck : Stuck view error nodes) {shapes : List Shape}
    (converted : nodes.mapM view.shape = .ok shapes) (place : List Nat) (draft : Draft α) :
    view.appendAll ((nodes.zip shapes).foldl (addChild place) draft) = .error error := by
  induction stuck generalizing shapes place draft with
  | conversion shape failed rest =>
      obtain ⟨first, others, hfirst, hothers, rfl⟩ := mapM_cons_eq_ok_iff.mp converted
      obtain rfl : .element _ _ = first := Except.ok.inj (shape.symm.trans hfirst)
      rw [List.zip_cons_cons, List.foldl_cons, rest.appendAll hothers]
      simp only [addChild]
      rw [appendAll_cons, failed]
      rfl
  | inside shape hshapes stuck rest ih =>
      obtain ⟨first, others, hfirst, hothers, rfl⟩ := mapM_cons_eq_ok_iff.mp converted
      obtain rfl : .element _ _ = first := Except.ok.inj (shape.symm.trans hfirst)
      rw [List.zip_cons_cons, List.foldl_cons, rest.appendAll hothers]
      simp only [addChild]
      rw [appendAll_cons, hshapes]
      exact ih hshapes _ _
  | later rest ih =>
      obtain ⟨first, others, hfirst, hothers, rfl⟩ := mapM_cons_eq_ok_iff.mp converted
      rw [List.zip_cons_cons, List.foldl_cons]
      exact ih hothers _ _

/-- Appending gives the same trees as the stack of open elements, with the same visits, and fails
with the same errors. -/
theorem appended_eq_trace (root : α) : view.appended root = view.trace root := by
  rw [appended, trace]
  cases hshape : view.shape root with
  | error e => rfl
  | ok shape =>
      cases shape with
      | other kind => exact appendAll_nil view _ _
      | element name attributes =>
          simp only [bind, Except.bind]
          rw [appendAll_cons]
          cases hshapes : (view.children root).mapM view.shape with
          | error e => rfl
          | ok shapes =>
              rw [Except.bind]
              obtain ⟨trees, made, grows⟩ | ⟨error, stuck⟩ :=
                grows_or_stuck view (view.children root) hshapes
              · have run := grows.close hshapes name attributes [] [] []
                rw [List.append_nil, List.append_nil] at run
                rw [grows.appendAll hshapes, appendAll_nil]
                dsimp only
                rw [pendingChildren, run, close_root]
                rfl
              · have run := stuck.close hshapes name attributes [] [] []
                rw [List.append_nil] at run
                rw [stuck.appendAll hshapes]
                dsimp only
                rw [pendingChildren, run]

end TreeView

end UsedSelectors
