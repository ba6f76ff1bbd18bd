import UsedSelectors.Proofs.Component.LiteralValue
import UsedSelectors.Proofs.Component.Place

/-!
# The attributes that contribute

Extraction follows the statements of a module, takes off parentheses, grows trees from a stack and
walks these in pre-order. What comes out is given by the places alone: one entry for each attribute
that stands at a place of the module and has a selector, in the pre-order of the syntax tree.
-/

namespace UsedSelectors.Component

open SyntaxTree Attempts

/-- In each element with two tags the opening one comes before all else. -/
def TagsFirst (t : SyntaxTree) : Prop :=
  ∀ a e, t.at? a = some e → e.type = "jsx_element" → ∀ i tag, FieldAt e "open_tag" i tag →
    i = 0 ∧ tag.type = "jsx_opening_element"

theorem TagsFirst.below {t u : SyntaxTree} {a : Address} (h : TagsFirst t)
    (found : t.at? a = some u) : TagsFirst u := by
  intro b e he
  refine h (a ++ b) e ?_
  rw [at?_append, found]
  exact he

/-! ## Attributes in order -/

theorem inOrder_attributesOfTag (tag : SyntaxTree) :
    InOrder (tag.namedChildren.filter (·.type == "jsx_attribute"))
      (fun a A => ∃ i, a = [i] ∧ NamedAt tag i A ∧ A.type = "jsx_attribute") := by
  have listed := InOrder.belowFilter (t := tag) (g := fun c => [c])
    (p := fun c => c.type == "jsx_attribute" && c.label.isNamed) fun c _ _ => .here c
  rw [List.flatMap_singleton'] at listed
  rw [namedChildren, List.filter_filter]
  refine listed.congr fun a A => ?_
  constructor
  · rintro ⟨i, c, b, hc, test, rfl, rfl, rfl⟩
    obtain ⟨type, named⟩ := Bool.and_eq_true_iff.mp test
    exact ⟨i, rfl, ⟨hc, named⟩, by simpa using type⟩
  · rintro ⟨i, rfl, ⟨hc, named⟩, type⟩
    exact ⟨i, A, [], hc, by simp [type, named], rfl, rfl, rfl⟩

theorem inOrder_attributeNodes (e : SyntaxTree) : InOrder (attributeNodes e) (AttributeOf e) := by
  have whole := InOrder.picked (fun tag => openingTag?_eq_some_iff (e := e))
    (fun _ _ _ _ => NamedTag.unique) fun _ tag _ => inOrder_attributesOfTag tag
  have same : attributeNodes e = (openingTag? e).toList.flatMap fun tag =>
      tag.namedChildren.filter (·.type == "jsx_attribute") := by
    unfold attributeNodes
    cases openingTag? e with
    | none => rfl
    | some tag => simp
  rw [same]
  refine whole.congr fun a A => ?_
  constructor
  · rintro ⟨b, tag, _, inTag, ⟨i, rfl, ofTag, type⟩, rfl⟩
    exact .intro inTag ofTag type
  · rintro ⟨inTag, ofTag, type⟩
    exact ⟨_, _, _, inTag, ⟨_, rfl, ofTag, type⟩, rfl⟩

/-- The node at an address is an attribute of an element below a node. -/
inductive AttributeBelow (t : SyntaxTree) : Address → SyntaxTree → Prop where
  | intro {a b : Address} {e A : SyntaxTree} (below : ElementBelow t a e)
      (ofElement : AttributeOf e b A) : AttributeBelow t (a ++ b) A

theorem ElementBelow.isElement {t e : SyntaxTree} {a : Address} (h : ElementBelow t a e) :
    IsElement t := by
  cases h with
  | here element => exact element
  | inside _ element _ _ => exact element

theorem IsElement.type_ne {e : SyntaxTree} (h : IsElement e) :
    e.type ≠ "jsx_opening_element" ∧ e.type ≠ "jsx_closing_element" := by
  obtain ⟨_, _, opening, _⟩ := h
  cases opening with
  | selfClosing type => simp [type]
  | paired type _ => simp [type]

/-- The place of an attribute that is inside an element, but not its own. -/
def IsInner (t : SyntaxTree) (a : Address) (A : SyntaxTree) : Prop :=
  t.type = "jsx_element" ∧ ∃ i c b, NamedAt t i c ∧
    (c.type ≠ "jsx_opening_element" ∧ c.type ≠ "jsx_closing_element") ∧
    a = i :: b ∧ AttributeBelow c b A

theorem attributeBelow_iff {t A : SyntaxTree} {a : Address} (element : IsElement t) :
    AttributeBelow t a A ↔ AttributeOf t a A ∨ IsInner t a A := by
  constructor
  · rintro ⟨below, ofElement⟩
    cases below with
    | here => exact .inl ofElement
    | inside type _ child rest =>
        exact .inr ⟨type, _, _, _, child, rest.isElement.type_ne, rfl, rest, ofElement⟩
  · rintro (ofElement | ⟨type, i, c, _, child, _, rfl, rest, ofElement⟩)
    · exact .intro (.here element) ofElement
    · exact .intro (.inside type element child rest) ofElement

theorem AttributeOf.lt_inner {t A B : SyntaxTree} {a b : Address} (tags : TagsFirst t)
    (own : AttributeOf t a A) (inner : IsInner t b B) : a < b := by
  obtain ⟨type, i, c, b, child, ⟨notOpening, _⟩, rfl, _⟩ := inner
  obtain ⟨⟨opening, _⟩, _, _⟩ := own
  cases opening with
  | selfClosing type' =>
      rw [type] at type'
      simp at type'
  | paired _ opens =>
      obtain ⟨rfl, isOpening⟩ := tags [] t rfl type _ _ opens
      refine List.cons_lt_cons_iff.mpr (.inl (Nat.pos_of_ne_zero ?_))
      rintro rfl
      obtain rfl := Option.some.inj (opens.child.symm.trans child.child)
      exact notOpening isOpening

/-- The attributes in the content of an element are found in pre-order if those below each node of
it are. -/
theorem inOrder_inner {t : SyntaxTree} (tags : TagsFirst t)
    (below : ∀ c ∈ contentOf t, TagsFirst c →
      InOrder ((elementsBelow c).flatMap attributeNodes) (AttributeBelow c)) :
    InOrder ((contentOf t).flatMap fun c => (elementsBelow c).flatMap attributeNodes)
      (IsInner t) := by
  by_cases type : t.type = "jsx_element"
  · rw [contentOf_eq_filter type] at below ⊢
    have listed := InOrder.belowFilter (t := t)
      (p := fun c => c.type != "jsx_opening_element" && c.type != "jsx_closing_element" &&
        c.label.isNamed)
      (g := fun c => (elementsBelow c).flatMap attributeNodes) (R := AttributeBelow) ?_
    · refine listed.congr fun a A => ?_
      simp only [Bool.and_eq_true, bne_iff_ne]
      constructor
      · rintro ⟨i, c, b, hc, ⟨apart, named⟩, rfl, below⟩
        exact ⟨type, i, c, b, ⟨hc, named⟩, apart, rfl, below⟩
      · rintro ⟨_, i, c, b, ⟨hc, named⟩, apart, rfl, below⟩
        exact ⟨i, c, b, hc, ⟨apart, named⟩, rfl, below⟩
    · intro c hc test
      obtain ⟨i, hi⟩ := List.mem_iff_getElem?.mp hc
      refine below c (List.mem_filter.mpr ⟨hc, test⟩) (tags.below (a := [i]) ?_)
      simp [SyntaxTree.at?, hi]
  · rw [contentOf, if_neg (by simpa using type)]
    exact .nil fun _ _ impossible => type impossible.1

theorem inOrder_attributesBelow (t : SyntaxTree) (tags : TagsFirst t) :
    InOrder ((elementsBelow t).flatMap attributeNodes) (AttributeBelow t) := by
  induction t using elementsBelow.induct with
  | case1 t hnone =>
      rw [elementsBelow_eq_nil hnone]
      refine .nil ?_
      rintro _ _ ⟨below, _⟩
      have found := isElement_iff.mp below.isElement
      rw [hnone] at found
      cases found
  | case2 t tag htag ih =>
      have element : IsElement t := isElement_iff.mpr (by rw [htag]; rfl)
      have inner := inOrder_inner tags fun c hc tagsBelow => ih ⟨c, hc⟩ tagsBelow
      rw [elementsBelow_eq_cons htag, List.flatMap_cons, List.flatMap_assoc]
      -- An element is followed by its content: its own attributes come first since its tag does.
      have whole := (inOrder_attributeNodes t).append inner fun a A b B own within =>
        own.lt_inner tags within
      exact whole.congr fun a A => (attributeBelow_iff element).symm

theorem inOrder_reachedAttributes {root : SyntaxTree} (tags : TagsFirst root) :
    InOrder (reachedAttributes root) (AttributePlace root) := by
  have ofStatement (body : SyntaxTree) (a : Address) (found : root.at? a = some body) :=
    InOrder.belowFilter (t := body) (p := fun c => c.label.isNamed)
      (g := fun inner => (returnedElement? inner).toList.flatMap fun e =>
        (elementsBelow e).flatMap attributeNodes)
      (R := fun inner c A => ∃ b e d, ReturnedBy inner b e ∧ AttributeBelow e d A ∧ c = b ++ d)
      fun inner hinner _ => InOrder.picked (fun e => returnedElement?_eq_some_iff)
        (fun _ _ _ _ => ReturnedBy.unique) fun b e returned =>
          inOrder_attributesBelow e (by
            obtain ⟨i, hi⟩ := List.mem_iff_getElem?.mp hinner
            refine (tags.below found).below (a := i :: b) ?_
            simp [SyntaxTree.at?, hi, returned.at?])
  have ofModule := InOrder.belowFilter (t := root) (p := fun c => c.label.isNamed)
      (g := fun statement => (exportedBody? statement).toList.flatMap fun body =>
        body.namedChildren.flatMap fun inner =>
          (returnedElement? inner).toList.flatMap fun e => (elementsBelow e).flatMap attributeNodes)
      fun statement hstatement _ => InOrder.picked (fun body => exportedBody?_eq_some_iff)
        (fun _ _ _ _ => ExportedBody.unique) fun a body exported => by
          obtain ⟨i, hi⟩ := List.mem_iff_getElem?.mp hstatement
          exact ofStatement body (i :: a) (by simp [SyntaxTree.at?, hi, exported.at?])
  have same : reachedAttributes root = root.namedChildren.flatMap fun statement =>
      (exportedBody? statement).toList.flatMap fun body =>
        body.namedChildren.flatMap fun inner =>
          (returnedElement? inner).toList.flatMap fun e =>
            (elementsBelow e).flatMap attributeNodes := by
    simp only [reachedAttributes, reachedElements, returnedElements,
      List.filterMap_eq_flatMap_toList, List.flatMap_assoc]
  rw [same]
  refine ofModule.congr fun a A => ?_
  constructor
  · rintro ⟨i, statement, _, hi, named, rfl, b, body, _, exported,
      ⟨j, inner, _, hj, named', rfl, c, e, d, returned, ⟨below, ofElement⟩, rfl⟩, rfl⟩
    have place := AttributePlace.intro
      (.intro (.intro ⟨hi, named⟩ exported ⟨hj, named'⟩ returned) below) ofElement
    simpa using place
  · rintro ⟨⟨⟨⟨hi, named⟩, exported, ⟨hj, named'⟩, returned⟩, below⟩, ofElement⟩
    refine ⟨_, _, _, hi, named, ?_, _, _, _, exported, ⟨_, _, _, hj, named', rfl, _, _, _, returned,
      .intro below ofElement, rfl⟩, rfl⟩
    simp

/-! ## What can be read -/

/-- Every attribute node has something that is its name. -/
def AttributesNamed (root : SyntaxTree) : Prop :=
  ∀ a A, root.at? a = some A → A.type = "jsx_attribute" → A.namedChildren ≠ []

/-- The nodes of a module whose text extraction reads. -/
inductive IsRead (root : SyntaxTree) : SyntaxTree → Prop where
  | tagName {a b : Address} {i : Nat} {e tag name : SyntaxTree} (element : ElementPlace root a e)
      (inTag : NamedTag e b tag) (ofTag : FieldAt tag "name" i name) : IsRead root name
  | name {a : Address} {A name : SyntaxTree} (place : AttributePlace root a A)
      (first : A.namedChildren.head? = some name) : IsRead root name
  | plain {a : Address} {A value : SyntaxTree} (place : AttributePlace root a A)
      (second : A.namedChildren[1]? = some value) (type : value.type = "string") :
      IsRead root value
  | braced {a : Address} {A value inner : SyntaxTree} (place : AttributePlace root a A)
      (second : A.namedChildren[1]? = some value) (holds : HoldsLiteral value inner) :
      IsRead root inner

theorem IsRead.exists_at? {root t : SyntaxTree} (h : IsRead root t) :
    ∃ a, root.at? a = some t := by
  cases h with
  | @tagName a b _ _ tag _ element inTag ofTag =>
      have found : root.at? (a ++ b) = some tag := by
        rw [at?_append, element.at?]
        exact inTag.opening.at?
      exact exists_at?_of_mem_children found (List.mem_of_getElem? ofTag.child)
  | name place first =>
      exact exists_at?_of_mem_children place.at?
        (List.mem_of_mem_filter (List.mem_of_head? first))
  | plain place second =>
      exact exists_at?_of_mem_children place.at?
        (List.mem_of_mem_filter (List.mem_of_getElem? second))
  | braced place second holds =>
      obtain ⟨b, hb⟩ := exists_at?_of_mem_children place.at?
        (List.mem_of_mem_filter (List.mem_of_getElem? second))
      exact exists_at?_of_mem_children hb
        (List.mem_of_mem_filter (List.mem_of_find?_eq_some holds.first))

/-- The texts that are read begin and end at whole characters, and plain strings can be decoded. -/
structure Readable (source : ByteArray) (root : SyntaxTree) : Prop where
  texts : ∀ t, IsRead root t → ∃ cs, t.text source = .ok cs
  references : ∀ a A value cs, AttributePlace root a A → A.namedChildren[1]? = some value →
    value.type = "string" → value.text source = .ok cs →
    ∃ decoded, Markup.CharacterReference.decode (insideQuotes cs) = .ok decoded

theorem exists_elementBelow_of_mem {t e : SyntaxTree} (h : e ∈ elementsBelow t) :
    ∃ a, ElementBelow t a e := by
  induction t using elementsBelow.induct with
  | case1 t hnone =>
      rw [elementsBelow_eq_nil hnone] at h
      cases h
  | case2 t tag htag ih =>
      have element : IsElement t := isElement_iff.mpr (by rw [htag]; rfl)
      rw [elementsBelow_eq_cons htag] at h
      rcases List.mem_cons.mp h with rfl | h
      · exact ⟨[], .here element⟩
      · obtain ⟨c, hc, he⟩ := List.mem_flatMap.mp h
        obtain ⟨a, below⟩ := ih ⟨c, hc⟩ he
        rw [contentOf] at hc
        split at hc
        · rename_i type
          obtain ⟨hchild, named⟩ := List.mem_filter.mp (List.mem_of_mem_filter hc)
          obtain ⟨i, hi⟩ := List.mem_iff_getElem?.mp hchild
          exact ⟨i :: a, .inside (by simpa using type) element ⟨hi, by simpa using named⟩ below⟩
        · cases hc

theorem exists_elementPlace_of_mem {root e : SyntaxTree} (h : e ∈ reachedElements root) :
    ∃ a, ElementPlace root a e := by
  obtain ⟨returned, hreturned, hbelow⟩ := List.mem_flatMap.mp h
  obtain ⟨body, hbody, hinner⟩ := List.mem_flatMap.mp hreturned
  obtain ⟨statement, hstatement, exported⟩ := List.mem_filterMap.mp hbody
  obtain ⟨inner, hinner, isReturned⟩ := List.mem_filterMap.mp hinner
  obtain ⟨hstatement, named⟩ := List.mem_filter.mp hstatement
  obtain ⟨hinner, named'⟩ := List.mem_filter.mp hinner
  obtain ⟨i, hi⟩ := List.mem_iff_getElem?.mp hstatement
  obtain ⟨j, hj⟩ := List.mem_iff_getElem?.mp hinner
  obtain ⟨a, ha⟩ := exportedBody?_eq_some_iff.mp exported
  obtain ⟨b, hb⟩ := returnedElement?_eq_some_iff.mp isReturned
  obtain ⟨c, below⟩ := exists_elementBelow_of_mem hbelow
  exact ⟨_, .intro (.intro ⟨hi, named⟩ ha ⟨hj, named'⟩ hb) below⟩

theorem Readable.literalValue {source : ByteArray} {root A value : SyntaxTree} {a : Address}
    (readable : Readable source root) (place : AttributePlace root a A)
    (second : A.namedChildren[1]? = some value) :
    ∃ found, literalValue? source value = .ok found := by
  refine exists_literalValue?_iff.mpr ⟨fun plain => ?_, fun inner holds => ?_⟩
  · obtain ⟨cs, hcs⟩ := readable.texts value (.plain place second plain)
    exact ⟨cs, hcs, readable.references a A value cs place second plain hcs⟩
  · exact readable.texts inner (.braced place second holds)

theorem Readable.attribute {source : ByteArray} {root A : SyntaxTree} {a : Address}
    (readable : Readable source root) (named : AttributesNamed root)
    (place : AttributePlace root a A) : ∃ found, attributeOf source A = .ok found := by
  have type : A.type = "jsx_attribute" := by
    obtain ⟨_, _, _, type⟩ := place
    exact type
  obtain ⟨name, hname⟩ : ∃ name, A.namedChildren.head? = some name := by
    rw [← Option.isSome_iff_exists, List.isSome_head?]
    simpa using named a A place.at? type
  obtain ⟨cs, hcs⟩ := readable.texts name (.name place hname)
  cases hsecond : A.namedChildren[1]? with
  | none =>
      exact ⟨⟨String.ofList cs, none⟩, (attributeOf_eq_ok_iff source).mpr
        ⟨name, cs, hname, hcs, rfl, .inl ⟨hsecond, rfl⟩⟩⟩
  | some value =>
      obtain ⟨found, hfound⟩ := readable.literalValue place hsecond
      exact ⟨⟨String.ofList cs, found⟩, (attributeOf_eq_ok_iff source).mpr
        ⟨name, cs, hname, hcs, rfl, .inr ⟨value, hsecond, hfound⟩⟩⟩

theorem Readable.isReadable {source : ByteArray} {root e : SyntaxTree}
    (readable : Readable source root) (named : AttributesNamed root)
    (h : e ∈ reachedElements root) : IsReadable source e := by
  obtain ⟨a, place⟩ := exists_elementPlace_of_mem h
  cases htag : openingTag? e with
  | none => exact ⟨_, shapeOf_of_openingTag?_eq_none source htag⟩
  | some tag =>
      obtain ⟨b, inTag⟩ := openingTag?_eq_some_iff.mp htag
      obtain ⟨i, name, ofTag⟩ := inTag.name
      obtain ⟨cs, hcs⟩ := readable.texts name (.tagName place inTag ofTag)
      refine isReadable_of_attributes htag (child?_eq_some_iff.mpr ⟨i, ofTag⟩) hcs fun A hA => ?_
      obtain ⟨c, ofElement⟩ := (inOrder_attributeNodes e).mem_iff.mp hA
      exact readable.attribute named (.intro place ofElement)

/-! ## What contributes -/

/-- The selector of a kind that the attribute node at an address contributes: its name is one of
the kind's names, and its second named child has a literal value that gives the selector. -/
inductive Contributes (source : ByteArray) (root : SyntaxTree) (kind : SelectorKind)
    (a : Address) (selector : Text) : Prop where
  | intro {A name value : SyntaxTree} {cs : List Char} {found : Text}
      (place : AttributePlace root a A) (first : A.namedChildren.head? = some name)
      (text : name.text source = .ok cs) (known : String.ofList cs ∈ kind.attributeNames)
      (second : A.namedChildren[1]? = some value)
      (literal : literalValue? source value = .ok (some found))
      (gives : kind.selector? found = some selector) :
      Contributes source root kind a selector

theorem contributes_iff {source : ByteArray} {root : SyntaxTree} {kind : SelectorKind}
    {a : Address} {selector : Text} :
    Contributes source root kind a selector ↔
      ∃ A, AttributePlace root a A ∧ selectorOf? source kind A = some selector := by
  constructor
  · rintro ⟨place, first, text, known, second, literal, gives⟩
    exact ⟨_, place, (selectorOf?_eq_some_iff source kind).mpr
      ⟨_, _, _, _, first, text, known, second, literal, gives⟩⟩
  · rintro ⟨A, place, hselector⟩
    obtain ⟨_, _, _, _, first, text, known, second, literal, gives⟩ :=
      (selectorOf?_eq_some_iff source kind).mp hselector
    exact .intro place first text known second literal gives

open Classical in
/--
A readable module gives trees, and the selectors that are listed for it are, one by one and in the
pre-order of the syntax tree, those of the attributes that contribute.
-/
theorem walk_forall₂_contributes {source : ByteArray} {root : SyntaxTree}
    (noError : root.label.hasError = false) (tags : TagsFirst root) (named : AttributesNamed root)
    (readable : Readable source root) (kind : SelectorKind) :
    ∃ roots, rootsOf source root = .ok roots ∧
      List.Forall₂ (Contributes source root kind)
        (root.addresses.filter fun a => ∃ selector, Contributes source root kind a selector)
        (Order.pre.walk kind roots) := by
  obtain ⟨roots, hroots⟩ := exists_rootsOf_eq_ok_iff.mpr
    ⟨noError, fun e he => readable.isReadable named he⟩
  refine ⟨roots, hroots, ?_⟩
  have inPlaces := (inOrder_reachedAttributes tags).forall₂_filterMap
    (fun _ _ place => place.at?) (selectorOf? source kind)
  simp only [← contributes_iff] at inPlaces
  rw [Order.walk, walkPre_of_rootsOf hroots kind]
  exact inPlaces

def nestedText : String := "export function F() \x7b return <a id=\"x\"><b class=\"y\"/></a>; \x7d"

def nestedTree : SyntaxTree :=
  plainNode "program" 0 60 none
    [plainNode "export_statement" 0 60 none
      [plainNode "function_declaration" 7 60 (some "declaration")
        [plainNode "statement_block" 20 60 (some "body")
          [plainNode "return_statement" 22 58 none
            [plainNode "jsx_element" 29 57 none
              [plainNode "jsx_opening_element" 29 39 (some "open_tag")
                [plainNode "identifier" 30 31 (some "name") [],
                  plainNode "jsx_attribute" 32 38 none
                    [plainNode "property_identifier" 32 34 none [],
                      plainNode "string" 35 38 none []]],
                plainNode "jsx_self_closing_element" 39 53 none
                  [plainNode "identifier" 40 41 (some "name") [],
                    plainNode "jsx_attribute" 42 51 none
                      [plainNode "property_identifier" 42 47 none [],
                        plainNode "string" 48 51 none []]],
                plainNode "jsx_closing_element" 53 57 (some "close_tag") []]]]]]]

theorem tagsFirst_nestedTree : TagsFirst nestedTree := by
  unfold TagsFirst
  simp only [nestedTree, plainNode, forall_at?_node, List.forall_mem_cons, List.not_mem_nil,
    IsEmpty.forall_iff, implies_true, and_true, SyntaxTree.type, SyntaxTree.label,
    String.reduceEq, true_and, forall_const]
  intro i tag opens
  obtain ⟨rfl, rfl⟩ := opens.unique ⟨rfl, rfl, fun j hj => absurd hj (Nat.not_lt_zero j)⟩
  exact ⟨rfl, rfl⟩

theorem attributesNamed_nestedTree : AttributesNamed nestedTree := by
  unfold AttributesNamed
  simp [nestedTree, plainNode, forall_at?_node, SyntaxTree.type, SyntaxTree.label, namedChildren,
    children]

theorem readable_nestedTree : Readable nestedText.toUTF8 nestedTree := by
  have nodes : ∀ a u, nestedTree.at? a = some u →
      (u.text nestedText.toUTF8).isOk = true ∧ (u.type = "string" →
        ((u.text nestedText.toUTF8).toOption.bind fun cs =>
          (Markup.CharacterReference.decode (insideQuotes cs)).toOption).isSome = true) := by
    simp only [nestedTree, plainNode, forall_at?_node, List.forall_mem_cons, List.not_mem_nil,
      IsEmpty.forall_iff, implies_true, and_true]
    decide +kernel
  constructor
  · intro t isRead
    obtain ⟨a, found⟩ := isRead.exists_at?
    obtain ⟨readable, _⟩ := nodes a t found
    cases h : t.text nestedText.toUTF8 with
    | ok cs => exact ⟨cs, rfl⟩
    | error e =>
        rw [h] at readable
        cases readable
  · intro a A value cs place second type text
    obtain ⟨b, found⟩ := exists_at?_of_mem_children place.at?
      (List.mem_of_mem_filter (List.mem_of_getElem? second))
    obtain ⟨_, decodes⟩ := nodes b value found
    have decodes := decodes type
    rw [text] at decodes
    cases h : Markup.CharacterReference.decode (insideQuotes cs) with
    | ok decoded => exact ⟨decoded, rfl⟩
    | error e =>
        simp [h, Except.toOption] at decodes

open Classical in
/-- The module with an element inside another one has what is asked for. -/
theorem walk_forall₂_contributes_nestedTree :
    nestedTree.label.hasError = false ∧ TagsFirst nestedTree ∧ AttributesNamed nestedTree ∧
      Readable nestedText.toUTF8 nestedTree ∧
      ∃ roots, rootsOf nestedText.toUTF8 nestedTree = .ok roots ∧
        List.Forall₂ (Contributes nestedText.toUTF8 nestedTree .className)
          (nestedTree.addresses.filter fun a =>
            ∃ selector, Contributes nestedText.toUTF8 nestedTree .className a selector)
          (Order.pre.walk .className roots) :=
  ⟨rfl, tagsFirst_nestedTree, attributesNamed_nestedTree, readable_nestedTree,
    walk_forall₂_contributes rfl tagsFirst_nestedTree attributesNamed_nestedTree
      readable_nestedTree .className⟩

end UsedSelectors.Component
