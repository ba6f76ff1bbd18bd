import UsedSelectors.Component.Roots
import UsedSelectors.Proofs.Tree.Growth
import UsedSelectors.Traversal

/-!
# The elements that extraction reaches

Of a module's syntax tree only some elements count: those that are returned, and those inside them
that no other node stands between. Extraction reads the attributes of just these elements, in their
order. It gives trees exactly when each of the elements can be read, and the selectors of the trees
are those of the attributes, one by one.
-/

namespace UsedSelectors.Component

open Attempts

/-! ## Reached elements -/

theorem size_lt_of_mem_contentOf {t c : SyntaxTree} (h : c ∈ contentOf t) : c.size < t.size := by
  have hm : c ∈ t.children := by
    unfold contentOf at h
    split at h
    · exact List.mem_of_mem_filter (List.mem_of_mem_filter h)
    · cases h
  have := size_le_of_mem hm
  rw [t.size_eq]; omega

theorem contentOf_eq_filter {t : SyntaxTree} (type : t.type = "jsx_element") :
    contentOf t = t.children.filter fun c =>
      c.type != "jsx_opening_element" && c.type != "jsx_closing_element" && c.label.isNamed := by
  rw [contentOf, if_pos (by simpa using type), SyntaxTree.namedChildren, List.filter_filter]

/-- The element that a node is, and the elements inside it that only elements stand around. -/
def elementsBelow (t : SyntaxTree) : List SyntaxTree :=
  match openingTag? t with
  | none => []
  | some _ => t :: (contentOf t).attach.flatMap fun inner => elementsBelow inner.1
termination_by t.size
decreasing_by exact size_lt_of_mem_contentOf inner.2

def attributeNodes (t : SyntaxTree) : List SyntaxTree :=
  match openingTag? t with
  | none => []
  | some tag => tag.namedChildren.filter (·.type == "jsx_attribute")

def reachedElements (root : SyntaxTree) : List SyntaxTree :=
  (returnedElements root).flatMap elementsBelow

/-- The attribute nodes of the elements that extraction reaches. -/
def reachedAttributes (root : SyntaxTree) : List SyntaxTree :=
  (reachedElements root).flatMap attributeNodes

def selectorOf? (source : ByteArray) (kind : SelectorKind) (t : SyntaxTree) : Option Text :=
  (attributeOf source t).toOption.bind kind.ofAttribute?

/-- Whether an element can be read: its name and its attributes. -/
def IsReadable (source : ByteArray) (t : SyntaxTree) : Prop := ∃ shape, shapeOf source t = .ok shape

theorem elementsBelow_eq_nil {t : SyntaxTree} (h : openingTag? t = none) :
    elementsBelow t = [] := by
  rw [elementsBelow, h]

theorem elementsBelow_eq_cons {t tag : SyntaxTree} (h : openingTag? t = some tag) :
    elementsBelow t = t :: (contentOf t).flatMap elementsBelow := by
  rw [elementsBelow, h]
  simp only [← List.flatMap_map, List.attach_map_subtype_val]

/-! ## What a node is read as -/

theorem isSome_name_of_openingTag? {t tag : SyntaxTree} (h : openingTag? t = some tag) :
    (tag.child? "name").isSome := by
  unfold openingTag? at h
  exact (Option.filter_eq_some_iff.mp h).2

theorem shapeOf_of_openingTag?_eq_none (source : ByteArray) {t : SyntaxTree}
    (h : openingTag? t = none) : shapeOf source t = .ok (.other t.type) := by
  rw [shapeOf, h]

theorem shapeOf_eq_ok_iff (source : ByteArray) {t tag : SyntaxTree} {shape : Shape}
    (h : openingTag? t = some tag) :
    shapeOf source t = .ok shape ↔
      ∃ attributes name cs, attributesOf source tag = .ok attributes ∧
        tag.child? "name" = some name ∧ name.text source = .ok cs ∧
        shape = .element (String.ofList cs) attributes := by
  obtain ⟨name, hname⟩ := Option.isSome_iff_exists.mp (isSome_name_of_openingTag? h)
  rw [shapeOf, h]
  simp only [bind_eq_ok_iff, hname, mapError_eq_ok_iff, Option.some.injEq]
  constructor
  · rintro ⟨attributes, hattributes, cs, hcs, hshape⟩
    cases hshape
    exact ⟨attributes, name, cs, hattributes, rfl, hcs, rfl⟩
  · rintro ⟨attributes, _, cs, hattributes, rfl, hcs, rfl⟩
    exact ⟨attributes, hattributes, cs, hcs, rfl⟩

theorem openingTag?_eq_none_of_shapeOf {source : ByteArray} {t : SyntaxTree} {kind : String}
    (h : shapeOf source t = .ok (.other kind)) : openingTag? t = none := by
  cases htag : openingTag? t with
  | none => rfl
  | some tag =>
      obtain ⟨attributes, name, cs, _, _, _, impossible⟩ := (shapeOf_eq_ok_iff source htag).mp h
      cases impossible

theorem exists_openingTag?_of_shapeOf {source : ByteArray} {t : SyntaxTree} {name : String}
    {attributes : List Attribute} (h : shapeOf source t = .ok (.element name attributes)) :
    ∃ tag, openingTag? t = some tag ∧ attributesOf source tag = .ok attributes := by
  cases htag : openingTag? t with
  | none =>
      rw [shapeOf_of_openingTag?_eq_none source htag] at h
      cases h
  | some tag =>
      obtain ⟨found, _, _, hattributes, _, _, hshape⟩ := (shapeOf_eq_ok_iff source htag).mp h
      cases hshape
      exact ⟨tag, rfl, hattributes⟩

theorem ofAttributes_of_attributesOf {source : ByteArray} {kind : SelectorKind}
    {tag : SyntaxTree} {attributes : List Attribute}
    (h : attributesOf source tag = .ok attributes) :
    kind.ofAttributes attributes =
      (tag.namedChildren.filter (·.type == "jsx_attribute")).filterMap
        (selectorOf? source kind) := by
  rw [attributesOf, mapM_eq_ok_iff] at h
  rw [SelectorKind.ofAttributes]
  generalize tag.namedChildren.filter (·.type == "jsx_attribute") = nodes at h ⊢
  induction h with
  | nil => rfl
  | cons found rest ih =>
      simp only [List.filterMap_cons, selectorOf?, found, Except.toOption, Option.bind_some, ih]

theorem type_of_mem_attributeNodes {e A : SyntaxTree} (h : A ∈ attributeNodes e) :
    A.type = "jsx_attribute" := by
  unfold attributeNodes at h
  split at h
  · cases h
  · simpa using (List.mem_filter.mp h).2

theorem IsReadable.exists_attribute {source : ByteArray} {e A : SyntaxTree}
    (readable : IsReadable source e) (h : A ∈ attributeNodes e) :
    ∃ attr, attributeOf source A = .ok attr := by
  obtain ⟨shape, hshape⟩ := readable
  unfold attributeNodes at h
  split at h
  · cases h
  · rename_i tag htag
    obtain ⟨attributes, _, _, hattributes, _⟩ := (shapeOf_eq_ok_iff source htag).mp hshape
    exact exists_mapM_eq_ok_iff.mp ⟨attributes, hattributes⟩ A h

theorem isReadable_of_attributes {source : ByteArray} {e tag name : SyntaxTree} {cs : List Char}
    (htag : openingTag? e = some tag) (hname : tag.child? "name" = some name)
    (text : name.text source = .ok cs)
    (attributes : ∀ A ∈ attributeNodes e, ∃ attr, attributeOf source A = .ok attr) :
    IsReadable source e := by
  rw [attributeNodes, htag] at attributes
  obtain ⟨found, hfound⟩ := exists_mapM_eq_ok_iff.mpr attributes
  exact ⟨_, (shapeOf_eq_ok_iff source htag).mpr ⟨found, name, cs, hfound, hname, text, rfl⟩⟩

theorem attributeOf_eq_ok_iff (source : ByteArray) {t : SyntaxTree} {attr : Attribute} :
    attributeOf source t = .ok attr ↔
      ∃ name cs, t.namedChildren.head? = some name ∧ name.text source = .ok cs ∧
        attr.name = String.ofList cs ∧
          ((t.namedChildren[1]? = none ∧ attr.value = none) ∨
            ∃ value, t.namedChildren[1]? = some value ∧
              literalValue? source value = .ok attr.value) := by
  obtain ⟨attrName, attrValue⟩ := attr
  rw [attributeOf]
  cases t.namedChildren.head? with
  | none => cases t.namedChildren[1]? <;> simp [bind_eq_ok_iff]
  | some name =>
      cases t.namedChildren[1]? with
      | none =>
          simp only [bind_eq_ok_iff, mapError_eq_ok_iff, pure, Except.pure, Except.ok.injEq,
            Attribute.mk.injEq]
          constructor
          · rintro ⟨_, rfl, cs, hcs, rfl, rfl⟩
            exact ⟨name, cs, rfl, hcs, rfl, .inl ⟨trivial, rfl⟩⟩
          · rintro ⟨_, cs, hname, hcs, rfl, ⟨_, rfl⟩ | ⟨_, impossible, _⟩⟩
            · cases hname
              exact ⟨none, rfl, cs, hcs, rfl, rfl⟩
            · cases impossible
      | some value =>
          simp only [bind_eq_ok_iff, mapError_eq_ok_iff, pure, Except.pure, Except.ok.injEq,
            Attribute.mk.injEq]
          constructor
          · rintro ⟨found, hfound, cs, hcs, rfl, rfl⟩
            exact ⟨name, cs, rfl, hcs, rfl, .inr ⟨value, rfl, hfound⟩⟩
          · rintro ⟨_, cs, hname, hcs, rfl, ⟨impossible, _⟩ | ⟨_, hvalue, hfound⟩⟩
            · cases impossible
            · cases hname
              cases hvalue
              exact ⟨attrValue, hfound, cs, hcs, rfl, rfl⟩

/-- An attribute node gives a selector if its name is one of the kind's and its literal value
gives one. -/
theorem selectorOf?_eq_some_iff (source : ByteArray) (kind : SelectorKind) {t : SyntaxTree}
    {selector : Text} :
    selectorOf? source kind t = some selector ↔
      ∃ name cs value found, t.namedChildren.head? = some name ∧ name.text source = .ok cs ∧
        String.ofList cs ∈ kind.attributeNames ∧ t.namedChildren[1]? = some value ∧
        literalValue? source value = .ok (some found) ∧ kind.selector? found = some selector := by
  unfold selectorOf?
  constructor
  · intro h
    obtain ⟨attr, hattr, hselector⟩ := Option.bind_eq_some_iff.mp h
    cases hread : attributeOf source t with
    | error failure =>
        rw [hread] at hattr
        cases hattr
    | ok read =>
        rw [hread] at hattr
        obtain rfl := Option.some.inj hattr
        obtain ⟨name, cs, hname, hcs, hof, hvalue⟩ := (attributeOf_eq_ok_iff source).mp hread
        rw [SelectorKind.ofAttribute?] at hselector
        split at hselector
        · rename_i known
          obtain ⟨found, hfound, hselector⟩ := Option.bind_eq_some_iff.mp hselector
          rw [hfound] at hvalue
          rw [hof] at known
          obtain ⟨_, impossible⟩ | ⟨value, hsecond, hliteral⟩ := hvalue
          · cases impossible
          · exact ⟨name, cs, value, found, hname, hcs, by simpa using known, hsecond, hliteral,
              hselector⟩
        · cases hselector
  · rintro ⟨name, cs, value, found, hname, hcs, known, hsecond, hliteral, hselector⟩
    have hread : attributeOf source t = .ok ⟨String.ofList cs, some found⟩ :=
      (attributeOf_eq_ok_iff source).mpr
        ⟨name, cs, hname, hcs, rfl, .inr ⟨value, hsecond, hliteral⟩⟩
    rw [hread]
    simpa [Except.toOption, SelectorKind.ofAttribute?, known] using hselector

/-! ## The trees of an element -/

theorem walkPre_of_grows {source : ByteArray} (kind : SelectorKind) {nodes : List SyntaxTree}
    {trees : List Node} {visits : Visits SyntaxTree}
    (grows : (view source).Grows nodes trees visits) :
    Node.walkPre kind trees =
      ((nodes.flatMap elementsBelow).flatMap attributeNodes).filterMap
        (selectorOf? source kind) := by
  induction grows with
  | nil => simp [Node.walkPre]
  | @other node kindName nodes trees visits shape rest ih =>
      rw [List.flatMap_cons, elementsBelow_eq_nil (openingTag?_eq_none_of_shapeOf shape)]
      simpa [Node.walkPre] using ih
  | @element node name attributes nodes children trees inner later shape below rest ihBelow ihRest =>
      obtain ⟨tag, htag, hattributes⟩ := exists_openingTag?_of_shapeOf shape
      have hnodes : attributeNodes node = tag.namedChildren.filter (·.type == "jsx_attribute") := by
        rw [attributeNodes, htag]
      rw [Node.walkPre, Node.walkPre_append, ihBelow, ihRest,
        ofAttributes_of_attributesOf hattributes, List.flatMap_cons, elementsBelow_eq_cons htag]
      simp only [List.cons_append, List.flatMap_cons, List.flatMap_append, List.filterMap_append,
        hnodes]
      rfl

theorem isReadable_of_grows {source : ByteArray} {nodes : List SyntaxTree}
    {trees : List Node} {visits : Visits SyntaxTree}
    (grows : (view source).Grows nodes trees visits) :
    ∀ t ∈ nodes.flatMap elementsBelow, IsReadable source t := by
  induction grows with
  | nil => simp
  | other shape rest ih =>
      rw [List.flatMap_cons, elementsBelow_eq_nil (openingTag?_eq_none_of_shapeOf shape)]
      exact ih
  | element shape below rest ihBelow ihRest =>
      obtain ⟨tag, htag, _⟩ := exists_openingTag?_of_shapeOf shape
      rw [List.flatMap_cons, elementsBelow_eq_cons htag]
      intro t ht
      rcases List.mem_append.mp ht with ht | ht
      · rcases List.mem_cons.mp ht with rfl | ht
        · exact ⟨_, shape⟩
        · exact ihBelow t ht
      · exact ihRest t ht

theorem mem_elementsBelow_self {source : ByteArray} {t : SyntaxTree} {failure : Failure}
    (h : shapeOf source t = .error failure) : t ∈ elementsBelow t := by
  cases htag : openingTag? t with
  | none =>
      rw [shapeOf_of_openingTag?_eq_none source htag] at h
      cases h
  | some tag =>
      rw [elementsBelow_eq_cons htag]
      exact List.mem_cons_self

theorem exists_unreadable_of_stuck {source : ByteArray} {failure : Failure}
    {nodes : List SyntaxTree} (stuck : (view source).Stuck failure nodes) :
    ∃ t ∈ nodes.flatMap elementsBelow, shapeOf source t = .error failure := by
  induction stuck with
  | conversion shape failed rest =>
      obtain ⟨tag, htag, _⟩ := exists_openingTag?_of_shapeOf shape
      obtain ⟨child, hchild, hfailure⟩ := exists_mem_of_mapM_eq_error failed
      refine ⟨child, ?_, hfailure⟩
      rw [List.flatMap_cons, elementsBelow_eq_cons htag]
      refine List.mem_append_left _ (List.mem_cons_of_mem _ ?_)
      exact List.mem_flatMap.mpr ⟨child, hchild, mem_elementsBelow_self hfailure⟩
  | inside shape _ _ _ ih =>
      obtain ⟨tag, htag, _⟩ := exists_openingTag?_of_shapeOf shape
      obtain ⟨t, ht, hfailure⟩ := ih
      refine ⟨t, ?_, hfailure⟩
      rw [List.flatMap_cons, elementsBelow_eq_cons htag]
      exact List.mem_append_left _ (List.mem_cons_of_mem _ ht)
  | later _ ih =>
      obtain ⟨t, ht, hfailure⟩ := ih
      exact ⟨t, List.mem_append_right _ ht, hfailure⟩

theorem exists_unreadable_of_build {source : ByteArray} {t : SyntaxTree} {failure : Failure}
    (failed : (view source).build t = .error failure) :
    ∃ u ∈ elementsBelow t, shapeOf source u = .error failure := by
  cases hshape : shapeOf source t with
  | error e =>
      have hsame : (view source).build t = .error e := by
        simp [TreeView.build, TreeView.trace, view, hshape, bind, Except.bind, Except.map]
      obtain rfl : e = failure := Except.error.inj (hsame.symm.trans failed)
      exact ⟨t, mem_elementsBelow_self hshape, hshape⟩
  | ok shape =>
      have converted : [t].mapM (view source).shape = .ok [shape] :=
        mapM_cons_eq_ok_iff.mpr ⟨shape, [], hshape, rfl, rfl⟩
      obtain ⟨trees, visits, grows⟩ | ⟨e, stuck⟩ :=
        TreeView.grows_or_stuck (view source) [t] converted
      · obtain ⟨tree, rfl⟩ := grows.eq_singleton
        rw [TreeView.build_of_grows grows] at failed
        cases failed
      · rw [TreeView.build_of_stuck stuck] at failed
        obtain rfl := Except.error.inj failed
        obtain ⟨u, hu, hfailure⟩ := exists_unreadable_of_stuck stuck
        rw [List.flatMap_singleton] at hu
        exact ⟨u, hu, hfailure⟩

/-! ## The trees of a module -/

theorem rootsOf_eq_ok_iff {source : ByteArray} {root : SyntaxTree} {roots : List Node} :
    rootsOf source root = .ok roots ↔
      root.label.hasError = false ∧
        (returnedElements root).mapM (view source).build = .ok roots := by
  rw [rootsOf]
  cases root.label.hasError <;> simp

theorem walkPre_of_rootsOf {source : ByteArray} {root : SyntaxTree} {roots : List Node}
    (h : rootsOf source root = .ok roots) (kind : SelectorKind) :
    Node.walkPre kind roots = (reachedAttributes root).filterMap (selectorOf? source kind) := by
  obtain ⟨_, built⟩ := rootsOf_eq_ok_iff.mp h
  rw [mapM_eq_ok_iff] at built
  rw [reachedAttributes, reachedElements]
  clear h
  generalize returnedElements root = returned at built ⊢
  induction built with
  | nil => simp [Node.walkPre]
  | @cons t tree ts trees first rest ih =>
      obtain ⟨visits, grows⟩ := (TreeView.build_eq_ok_iff _ _ _).mp first
      have hfirst := walkPre_of_grows kind grows
      rw [List.flatMap_singleton] at hfirst
      rw [← List.singleton_append, Node.walkPre_append, hfirst, ih, List.flatMap_cons,
        List.flatMap_append, List.filterMap_append]

/-- A module without syntax errors that gives no trees has a reached element that cannot be read,
and the failure is that element's. -/
theorem exists_unreadable_of_rootsOf {source : ByteArray} {root : SyntaxTree} {failure : Failure}
    (noError : root.label.hasError = false) (h : rootsOf source root = .error failure) :
    ∃ t ∈ reachedElements root, shapeOf source t = .error failure := by
  rw [rootsOf, noError] at h
  obtain ⟨returned, hreturned, failed⟩ := exists_mem_of_mapM_eq_error h
  obtain ⟨t, ht, hfailure⟩ := exists_unreadable_of_build failed
  exact ⟨t, List.mem_flatMap.mpr ⟨returned, hreturned, ht⟩, hfailure⟩

/-- A module gives trees exactly when it has no syntax error and every reached element can be
read. -/
theorem exists_rootsOf_eq_ok_iff {source : ByteArray} {root : SyntaxTree} :
    (∃ roots, rootsOf source root = .ok roots) ↔
      root.label.hasError = false ∧ ∀ t ∈ reachedElements root, IsReadable source t := by
  constructor
  · rintro ⟨roots, h⟩
    obtain ⟨noError, built⟩ := rootsOf_eq_ok_iff.mp h
    refine ⟨noError, fun t ht => ?_⟩
    obtain ⟨returned, hreturned, hbelow⟩ := List.mem_flatMap.mp ht
    obtain ⟨tree, hbuilt⟩ := exists_mapM_eq_ok_iff.mp ⟨roots, built⟩ returned hreturned
    obtain ⟨visits, grows⟩ := (TreeView.build_eq_ok_iff _ _ _).mp hbuilt
    exact isReadable_of_grows grows t (by rwa [List.flatMap_singleton])
  · rintro ⟨noError, readable⟩
    cases h : rootsOf source root with
    | ok roots => exact ⟨roots, rfl⟩
    | error failure =>
        obtain ⟨t, ht, hfailure⟩ := exists_unreadable_of_rootsOf noError h
        obtain ⟨shape, hshape⟩ := readable t ht
        rw [hshape] at hfailure
        cases hfailure

/-- A node as it stands in a module without errors, with a name of its own. -/
def plainNode (type : String) (start stop : Nat) (field : Option String)
    (children : List SyntaxTree) : SyntaxTree :=
  .node ⟨type, true, false, false, start, stop, 0⟩ field children

end UsedSelectors.Component
