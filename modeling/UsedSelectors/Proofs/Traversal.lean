import Mathlib.Data.List.Basic
import UsedSelectors.Traversal

/-!
# Walks and depth

Both orders of a walk go through the same elements. `Node.elements` lists the elements of a forest
in pre-order by recursion on the nodes, each with its depth. A walk in pre-order gives the selectors
of just this list, and a walk by levels those of the list sorted by depth, elements of one depth
keeping their order. So the two differ in nothing but order, and nodes other than elements have no
part in them.
-/

namespace UsedSelectors

/-- An element of a forest, with the number of elements around it. -/
structure PlacedElement where
  depth : Nat
  name : String
  attributes : List Attribute

namespace PlacedElement

def selectors (kind : SelectorKind) (e : PlacedElement) : List Text :=
  kind.ofAttributes e.attributes

/-- The element as it stands inside one more. -/
def deeper (e : PlacedElement) : PlacedElement := { e with depth := e.depth + 1 }

end PlacedElement

namespace Node

mutual

/-- The elements of a tree in pre-order, when its root is at a depth. -/
def elementsAt (depth : Nat) : Node → List PlacedElement
  | element name attributes children =>
    ⟨depth, name, attributes⟩ :: elementsFrom (depth + 1) children
  | other _ => []

/-- The elements of the trees of a list in pre-order, when their roots are at a depth. -/
def elementsFrom (depth : Nat) : List Node → List PlacedElement
  | [] => []
  | n :: ns => elementsAt depth n ++ elementsFrom depth ns

end

def elements (roots : List Node) : List PlacedElement := elementsFrom 0 roots

def elementsOn (depth : Nat) (roots : List Node) : List PlacedElement :=
  (elements roots).filter (·.depth = depth)

/-- How many depths there are, down to that of the deepest element. -/
def height (roots : List Node) : Nat := ((elements roots).map (·.depth + 1)).foldr max 0

/-- A forest from which nodes that are no elements have been left out, at any places. -/
inductive LeavesOut : List Node → List Node → Prop where
  | nil : LeavesOut [] []
  | left {kind : String} {ns ms : List Node} (rest : LeavesOut ns ms) :
      LeavesOut (other kind :: ns) ms
  | kept {kind : String} {ns ms : List Node} (rest : LeavesOut ns ms) :
      LeavesOut (other kind :: ns) (other kind :: ms)
  | element {name : String} {attributes : List Attribute} {children fewer ns ms : List Node}
      (below : LeavesOut children fewer) (rest : LeavesOut ns ms) :
      LeavesOut (element name attributes children :: ns) (element name attributes fewer :: ms)

/-! ## Elements with their depth -/

theorem elementsFrom_append (depth : Nat) (ns ms : List Node) :
    elementsFrom depth (ns ++ ms) = elementsFrom depth ns ++ elementsFrom depth ms := by
  induction ns with
  | nil => rfl
  | cons n ns ih => rw [List.cons_append, elementsFrom, elementsFrom, ih, List.append_assoc]

mutual

theorem elementsAt_succ (depth : Nat) (n : Node) :
    elementsAt (depth + 1) n = (elementsAt depth n).map PlacedElement.deeper := by
  cases n with
  | element name attributes children =>
      rw [elementsAt, elementsAt, elementsFrom_succ (depth + 1) children]
      rfl
  | other kind => rw [elementsAt, elementsAt, List.map_nil]

theorem elementsFrom_succ (depth : Nat) (ns : List Node) :
    elementsFrom (depth + 1) ns = (elementsFrom depth ns).map PlacedElement.deeper := by
  cases ns with
  | nil => rw [elementsFrom, elementsFrom, List.map_nil]
  | cons n ns =>
      rw [elementsFrom, elementsFrom, elementsAt_succ depth n, elementsFrom_succ depth ns,
        List.map_append]

end

theorem elements_cons_element (name : String) (attributes : List Attribute)
    (children ns : List Node) :
    elements (element name attributes children :: ns) =
      ⟨0, name, attributes⟩ :: (elements children).map PlacedElement.deeper ++ elements ns := by
  rw [elements, elementsFrom, elementsAt, elementsFrom_succ]
  rfl

theorem elements_cons_other (kind : String) (ns : List Node) :
    elements (other kind :: ns) = elements ns := by
  rw [elements, elementsFrom, elementsAt]
  rfl

theorem elements_append (ns ms : List Node) : elements (ns ++ ms) = elements ns ++ elements ms :=
  elementsFrom_append 0 ns ms

theorem flatMap_selectors_deeper (kind : SelectorKind) (es : List PlacedElement) :
    (es.map PlacedElement.deeper).flatMap (·.selectors kind) = es.flatMap (·.selectors kind) := by
  rw [List.flatMap_map]
  rfl

theorem depth_lt_height {roots : List Node} {e : PlacedElement} (h : e ∈ elements roots) :
    e.depth < height roots := by
  rw [height]
  generalize elements roots = es at h
  induction es with
  | nil => cases h
  | cons first rest ih =>
      rw [List.map_cons, List.foldr_cons]
      rcases List.mem_cons.mp h with rfl | h
      · exact Nat.lt_of_lt_of_le (Nat.lt_succ_self _) (Nat.le_max_left _ _)
      · exact Nat.lt_of_lt_of_le (ih h) (Nat.le_max_right _ _)

theorem flatMap_elementsOn_zero (kind : SelectorKind) (roots : List Node) :
    (elementsOn 0 roots).flatMap (·.selectors kind) = levelSelectors kind roots := by
  induction roots with
  | nil => rfl
  | cons n ns ih =>
      have notZero (es : List PlacedElement) :
          (es.map PlacedElement.deeper).filter (·.depth = 0) = [] := by
        simp [List.filter_eq_nil_iff, PlacedElement.deeper]
      rw [elementsOn, levelSelectors] at ih
      rw [elementsOn, levelSelectors]
      cases n with
      | element name attributes children =>
          rw [elements_cons_element, List.cons_append, List.filter_cons_of_pos (by simp),
            List.filter_append, notZero, List.nil_append, List.flatMap_cons, ih]
          rfl
      | other k =>
          rw [elements_cons_other, ih]
          rfl

theorem elementsOn_succ (depth : Nat) (roots : List Node) :
    elementsOn (depth + 1) roots =
      (elementsOn depth (nextLevel roots)).map PlacedElement.deeper := by
  have lessDeep (es : List PlacedElement) :
      (es.map PlacedElement.deeper).filter (·.depth = depth + 1) =
        (es.filter (·.depth = depth)).map PlacedElement.deeper := by
    rw [List.filter_map]
    congr 1
    refine List.filter_congr fun e _ => ?_
    simp [PlacedElement.deeper]
  induction roots with
  | nil => rfl
  | cons n ns ih =>
      rw [elementsOn, elementsOn] at ih
      rw [elementsOn, elementsOn, nextLevel, List.flatMap_cons]
      cases n with
      | element name attributes children =>
          rw [elements_cons_element, List.cons_append, List.filter_cons_of_neg (by simp),
            List.filter_append, lessDeep, ih, Node.children, elements_append,
            List.filter_append, List.map_append]
          rfl
      | other k =>
          rw [elements_cons_other, ih]
          rfl

/-! ## The two orders -/

theorem walkPre_eq (kind : SelectorKind) (roots : List Node) :
    walkPre kind roots = (elements roots).flatMap (·.selectors kind) := by
  -- The nodes still to be visited stand at several depths, which the selectors do not show.
  induction roots using walkPre.induct with
  | case1 => rw [walkPre]; rfl
  | case2 _ rest ih => rw [walkPre, ih, elements_cons_other]
  | case3 name attributes children rest ih =>
      rw [walkPre, ih, elements_append, List.flatMap_append, elements_cons_element,
        List.cons_append, List.flatMap_cons, List.flatMap_append, flatMap_selectors_deeper]
      rfl

theorem elements_eq_nil_of_isEmpty {level : List Node}
    (h : (attributeLists level).isEmpty = true) : elements level = [] := by
  induction level with
  | nil => rfl
  | cons n ns ih =>
      cases n with
      | element name attributes children => simp [attributeLists, attributes?] at h
      | other kind =>
          rw [elements_cons_other]
          exact ih (by simpa [attributeLists, attributes?] using h)

theorem exists_mem_elements_of_isEmpty {level : List Node}
    (h : ¬(attributeLists level).isEmpty = true) : ∃ e, e ∈ elements level := by
  induction level with
  | nil => simp [attributeLists] at h
  | cons n ns ih =>
      cases n with
      | element name attributes children =>
          rw [elements_cons_element]
          exact ⟨_, List.mem_cons_self⟩
      | other kind =>
          rw [elements_cons_other]
          exact ih (by simpa [attributeLists, attributes?] using h)

theorem deeper_mem_elements {level : List Node} {e : PlacedElement}
    (h : e ∈ elements (nextLevel level)) : e.deeper ∈ elements level := by
  have here : e ∈ elementsOn e.depth (nextLevel level) := List.mem_filter.mpr ⟨h, by simp⟩
  have above : e.deeper ∈ elementsOn (e.depth + 1) level := by
    rw [elementsOn_succ]
    exact List.mem_map_of_mem here
  exact List.mem_of_mem_filter above

/--
A walk by levels gives the selectors of the elements depth by depth. It may stop at a level without
elements, since there are none below it.
-/
theorem walkLevels_eq (kind : SelectorKind) {level : List Node} {bound : Nat}
    (below : ∀ e ∈ elements level, e.depth < bound) :
    walkLevels kind level =
      (List.range bound).flatMap fun depth =>
        (elementsOn depth level).flatMap (·.selectors kind) := by
  induction level using walkLevels.induct generalizing bound with
  | case1 level last =>
      have none : elements level = [] := elements_eq_nil_of_isEmpty last
      rw [walkLevels, if_pos last]
      simp [elementsOn, none]
  | case2 level notLast ih =>
      obtain ⟨first, hfirst⟩ := exists_mem_elements_of_isEmpty notLast
      have positive : 0 < bound := Nat.lt_of_le_of_lt (Nat.zero_le _) (below first hfirst)
      obtain ⟨bound, rfl⟩ := Nat.exists_eq_succ_of_ne_zero (Nat.ne_of_gt positive)
      have deeper : ∀ e ∈ elements (nextLevel level), e.depth < bound := by
        intro e he
        exact Nat.lt_of_succ_lt_succ (below e.deeper (deeper_mem_elements he))
      rw [walkLevels, if_neg notLast, ih deeper, List.range_succ_eq_map, List.flatMap_cons,
        flatMap_elementsOn_zero, List.flatMap_map]
      simp only [elementsOn_succ, flatMap_selectors_deeper]

/-! ## Sorting by depth -/

theorem filter_lt_append_filter_eq {α : Type} (key : α → Nat) {items : List α} {bound : Nat}
    (sorted : items.Pairwise fun a b => key a ≤ key b) (below : ∀ a ∈ items, key a < bound + 1) :
    (items.filter fun a => key a < bound) ++ (items.filter fun a => key a = bound) = items := by
  induction items with
  | nil => rfl
  | cons a items ih =>
      obtain ⟨least, sorted⟩ := List.pairwise_cons.mp sorted
      obtain ⟨aBelow, below⟩ := List.forall_mem_cons.mp below
      by_cases h : key a < bound
      · rw [List.filter_cons_of_pos (by simpa using h),
          List.filter_cons_of_neg (by simpa using Nat.ne_of_lt h), List.cons_append,
          ih sorted below]
      · -- From here on everything is at the bound.
        have atBound : ∀ b ∈ a :: items, key b = bound := by
          intro b hb
          rcases List.mem_cons.mp hb with rfl | hb
          · omega
          · have := least b hb
            have := below b hb
            omega
        have noneBelow : (a :: items).filter (fun b => key b < bound) = [] := by
          refine List.filter_eq_nil_iff.mpr fun b hb => ?_
          simp [atBound b hb]
        have allAt : (a :: items).filter (fun b => key b = bound) = a :: items := by
          refine List.filter_eq_self.mpr fun b hb => ?_
          simp [atBound b hb]
        rw [noneBelow, allAt, List.nil_append]

theorem eq_flatMap_filter_of_sorted {α : Type} (key : α → Nat) {items : List α} {bound : Nat}
    (sorted : items.Pairwise fun a b => key a ≤ key b) (below : ∀ a ∈ items, key a < bound) :
    items = (List.range bound).flatMap fun n => items.filter fun a => key a = n := by
  induction bound generalizing items with
  | zero =>
      cases items with
      | nil => rfl
      | cons a items => exact absurd (below a List.mem_cons_self) (Nat.not_lt_zero _)
  | succ bound ih =>
      have lower := ih (sorted.filter fun a => key a < bound) fun a ha => by
        simpa using (List.mem_filter.mp ha).2
      have sameParts : ((List.range bound).flatMap fun n =>
            (items.filter fun a => key a < bound).filter fun a => key a = n) =
          (List.range bound).flatMap fun n => items.filter fun a => key a = n := by
        refine List.flatMap_congr fun n hn => ?_
        have := List.mem_range.mp hn
        rw [List.filter_filter]
        refine List.filter_congr fun a _ => ?_
        by_cases same : key a = n
        · simp [same, this]
        · simp [same]
      rw [List.range_succ, List.flatMap_append, List.flatMap_singleton, ← sameParts, ← lower,
        filter_lt_append_filter_eq key sorted below]

theorem filter_mergeSort {α : Type} (key : α → Nat) (items : List α) (n : Nat) :
    ((items.mergeSort fun a b => key a ≤ key b).filter fun a => key a = n) =
      items.filter fun a => key a = n := by
  have sub : (items.filter fun a => key a = n).Sublist
      (items.mergeSort fun a b => key a ≤ key b) := by
    apply List.sublist_mergeSort
    · simp only [decide_eq_true_eq]
      exact fun a b c => Nat.le_trans
    · simp only [Bool.or_eq_true, decide_eq_true_eq]
      exact fun a b => Nat.le_total _ _
    · refine List.pairwise_of_forall_mem_list fun a ha b hb => ?_
      have ha := (List.mem_filter.mp ha).2
      have hb := (List.mem_filter.mp hb).2
      simp only [decide_eq_true_eq] at ha hb ⊢
      omega
    · exact List.filter_sublist
  have subFiltered := sub.filter fun a => key a = n
  rw [List.filter_filter] at subFiltered
  simp only [Bool.and_self] at subFiltered
  refine (subFiltered.eq_of_length ?_).symm
  exact ((List.mergeSort_perm items _).filter _).length_eq.symm

theorem mergeSort_eq_flatMap_filter {α : Type} (key : α → Nat) {items : List α} {bound : Nat}
    (below : ∀ a ∈ items, key a < bound) :
    (items.mergeSort fun a b => key a ≤ key b) =
      (List.range bound).flatMap fun n => items.filter fun a => key a = n := by
  have sorted : (items.mergeSort fun a b => key a ≤ key b).Pairwise fun a b => key a ≤ key b := by
    have pairwise : (items.mergeSort fun a b => key a ≤ key b).Pairwise
        fun a b => decide (key a ≤ key b) = true := by
      apply List.pairwise_mergeSort
      · simp only [decide_eq_true_eq]
        exact fun a b c => Nat.le_trans
      · simp only [Bool.or_eq_true, decide_eq_true_eq]
        exact fun a b => Nat.le_total _ _
    simpa using pairwise
  rw [eq_flatMap_filter_of_sorted key sorted fun a ha => below a (List.mem_mergeSort.mp ha)]
  simp only [filter_mergeSort]

theorem walkLevels_eq_mergeSort (kind : SelectorKind) (roots : List Node) :
    walkLevels kind roots =
      ((elements roots).mergeSort fun a b => a.depth ≤ b.depth).flatMap (·.selectors kind) := by
  rw [walkLevels_eq kind fun e => depth_lt_height,
    mergeSort_eq_flatMap_filter PlacedElement.depth fun e => depth_lt_height, List.flatMap_assoc]
  rfl

/-! ## Nodes that are no elements -/

theorem LeavesOut.elementsFrom_eq {roots fewer : List Node} (leaves : LeavesOut roots fewer)
    (depth : Nat) : elementsFrom depth fewer = elementsFrom depth roots := by
  induction leaves generalizing depth with
  | nil => rfl
  | left rest ih =>
      rw [elementsFrom, elementsAt, List.nil_append]
      exact ih depth
  | kept rest ih => rw [elementsFrom, elementsFrom, ih depth]
  | element below rest ihBelow ihRest =>
      rw [elementsFrom, elementsFrom, elementsAt, elementsAt, ihBelow, ihRest]

end Node

/-! ## Both orders together -/

/-- The elements of a forest in the order in which they are visited. -/
def Order.visited (order : Order) (roots : List Node) : List PlacedElement :=
  match order with
  | .level => (Node.elements roots).mergeSort fun a b => a.depth ≤ b.depth
  | .pre => Node.elements roots

theorem Order.visited_perm (order : Order) (roots : List Node) :
    (order.visited roots).Perm (Node.elements roots) := by
  cases order with
  | level => exact List.mergeSort_perm _ _
  | pre => exact .refl _

theorem Order.walk_eq_flatMap (order : Order) (kind : SelectorKind) (roots : List Node) :
    order.walk kind roots = (order.visited roots).flatMap (·.selectors kind) := by
  cases order with
  | level => exact Node.walkLevels_eq_mergeSort kind roots
  | pre => exact Node.walkPre_eq kind roots

theorem Order.walk_perm (order other : Order) (kind : SelectorKind) (roots : List Node) :
    (order.walk kind roots).Perm (other.walk kind roots) := by
  rw [walk_eq_flatMap, walk_eq_flatMap]
  exact ((order.visited_perm roots).trans (other.visited_perm roots).symm).flatMap_right _

theorem Order.exists_of_mem_walk (order : Order) {kind : SelectorKind} {roots : List Node}
    {selector : Text} (h : selector ∈ order.walk kind roots) :
    ∃ attr, kind.ofAttribute? attr = some selector := by
  rw [walk_eq_flatMap] at h
  obtain ⟨e, _, inElement⟩ := List.mem_flatMap.mp h
  obtain ⟨attr, _, gives⟩ := List.mem_filterMap.mp inElement
  exact ⟨attr, gives⟩

theorem Order.walk_congr (order : Order) (kind : SelectorKind) {roots others : List Node}
    (same : Node.elements others = Node.elements roots) :
    order.walk kind others = order.walk kind roots := by
  have sameOrder : order.visited others = order.visited roots := by
    cases order with
    | level => rw [visited, visited, same]
    | pre => exact same
  rw [walk_eq_flatMap, walk_eq_flatMap, sameOrder]

/--
A walk in pre-order gives the selectors of the elements of a forest in pre-order. A walk by levels
gives them depth by depth, down to the deepest element, and this is the pre-order sorted by depth.
The two have the same selectors equally often, and neither changes when nodes that are no elements
are left out anywhere.
-/
theorem Order.walk_spec (kind : SelectorKind) (roots : List Node) :
    Order.pre.walk kind roots = (Node.elements roots).flatMap (·.selectors kind) ∧
    Order.level.walk kind roots =
      ((List.range (Node.height roots)).flatMap fun depth =>
        (Node.elementsOn depth roots).flatMap (·.selectors kind)) ∧
    Order.level.walk kind roots =
      ((Node.elements roots).mergeSort fun a b => a.depth ≤ b.depth).flatMap (·.selectors kind) ∧
    (Order.level.walk kind roots).Perm (Order.pre.walk kind roots) ∧
    ∀ fewer, Node.LeavesOut roots fewer → ∀ order : Order,
      order.walk kind fewer = order.walk kind roots :=
  ⟨Node.walkPre_eq kind roots, Node.walkLevels_eq kind fun _ => Node.depth_lt_height,
    Node.walkLevels_eq_mergeSort kind roots, Order.walk_perm .level .pre kind roots,
    fun _ leaves order => order.walk_congr kind (leaves.elementsFrom_eq 0)⟩

def withId (id : String) (children : List Node) : Node :=
  .element "p" [⟨"id", some (Text.ofString id)⟩] children

/-- A forest whose first tree goes deeper than its last one, with other nodes between. -/
def unevenForest : List Node :=
  [.other "text", withId "a" [.other "text", withId "b" [withId "c" []]], withId "d" []]

theorem Order.walk_spec_unevenForest :
    Node.LeavesOut unevenForest [withId "a" [withId "b" [withId "c" []]], withId "d" []] ∧
      ∀ order : Order,
        order.walk .ident [withId "a" [withId "b" [withId "c" []]], withId "d" []] =
          order.walk .ident unevenForest := by
  have leaves : Node.LeavesOut unevenForest
      [withId "a" [withId "b" [withId "c" []]], withId "d" []] :=
    .left (.element (.left (.element (.element .nil .nil) .nil)) (.element .nil .nil))
  obtain ⟨_, _, _, _, unchanged⟩ := Order.walk_spec .ident unevenForest
  exact ⟨leaves, unchanged _ leaves⟩

example :
    Order.pre.walk .ident unevenForest = ["#a", "#b", "#c", "#d"].map Text.ofString ∧
      Order.level.walk .ident unevenForest = ["#a", "#d", "#b", "#c"].map Text.ofString := by
  constructor <;> cbv

end UsedSelectors
