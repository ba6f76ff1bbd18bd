import UsedSelectors.Proofs.Component.Reached
import UsedSelectors.Proofs.SyntaxTree.Address

/-!
# Places of a module

Where the attributes stand that count for a module, said by paths of its syntax tree alone: the
body of an exported function, the element that one of its statements returns, the elements inside
it, and the attributes in their opening tags. None of this mentions how a tree is walked. Each
helper that picks a child is shown to pick the one at such a place.
-/

namespace UsedSelectors.Component

open SyntaxTree

/-! ## Children -/

structure FirstAt (p : SyntaxTree → Prop) (t : SyntaxTree) (i : Nat) (c : SyntaxTree) : Prop where
  child : t.children[i]? = some c
  holds : p c
  first : ∀ j < i, ∀ d, t.children[j]? = some d → ¬ p d

/-- The child at an index is the one that fills a field: the first such child. -/
abbrev FieldAt (t : SyntaxTree) (field : String) : Nat → SyntaxTree → Prop :=
  FirstAt (fun c => c.field = some field) t

/-- The child at an index is the first named one that is no comment. -/
abbrev FirstNamedAt : SyntaxTree → Nat → SyntaxTree → Prop :=
  FirstAt (fun c => c.label.isNamed = true ∧ c.type ≠ "comment")

structure NamedAt (t : SyntaxTree) (i : Nat) (c : SyntaxTree) : Prop where
  child : t.children[i]? = some c
  named : c.label.isNamed = true

namespace FirstAt

variable {p : SyntaxTree → Prop} {t c d : SyntaxTree} {i j : Nat}

theorem unique (one : FirstAt p t i c) (other : FirstAt p t j d) : i = j ∧ c = d := by
  obtain hlt | rfl | hlt := Nat.lt_trichotomy i j
  · exact (other.first i hlt c one.child one.holds).elim
  · exact ⟨rfl, Option.some.inj (one.child.symm.trans other.child)⟩
  · exact (one.first j hlt d other.child other.holds).elim

theorem find?_eq_some_iff {test : SyntaxTree → Bool} (same : ∀ u, test u = true ↔ p u) :
    t.children.find? test = some c ↔ ∃ i, FirstAt p t i c := by
  rw [List.find?_eq_some_iff_getElem]
  constructor
  · rintro ⟨found, i, hi, rfl, before⟩
    refine ⟨i, List.getElem?_eq_getElem hi, (same _).mp found, ?_⟩
    intro j hj d hd hp
    obtain ⟨_, rfl⟩ := List.getElem?_eq_some_iff.mp hd
    have untrue := before j hj
    rw [(same _).mpr hp] at untrue
    cases untrue
  · rintro ⟨i, here⟩
    obtain ⟨hi, hc⟩ := List.getElem?_eq_some_iff.mp here.child
    refine ⟨(same c).mpr here.holds, i, hi, hc, ?_⟩
    intro j hj
    have absent := here.first j hj _ (List.getElem?_eq_getElem (Nat.lt_trans hj hi))
    rw [← same] at absent
    simpa using absent

end FirstAt

theorem child?_eq_some_iff {t c : SyntaxTree} {field : String} :
    t.child? field = some c ↔ ∃ i, FieldAt t field i c :=
  FirstAt.find?_eq_some_iff fun u => by simp

theorem firstNamed?_eq_some_iff {t c : SyntaxTree} :
    firstNamed? t = some c ↔ ∃ i, FirstNamedAt t i c := by
  rw [firstNamed?, namedChildren, List.find?_filter]
  exact FirstAt.find?_eq_some_iff fun u => by simp

/-! ## From the module to an attribute -/

/-- The body at an address is that of a function declaration which a statement exports by name. -/
inductive ExportedBody (statement : SyntaxTree) : Address → SyntaxTree → Prop where
  | intro {i j : Nat} {declaration body : SyntaxTree}
      (exports : statement.type = "export_statement")
      (byName : ∀ c ∈ statement.children, c.type ≠ "default")
      (declares : FieldAt statement "declaration" i declaration)
      (function : declaration.type = "function_declaration" ∨
        declaration.type = "generator_function_declaration")
      (hasBody : FieldAt declaration "body" j body) :
      ExportedBody statement [i, j] body

/-- Inside the parentheses around an expression, or outright, there is another one. -/
inductive Unwrapped : SyntaxTree → Address → SyntaxTree → Prop where
  | bare {t : SyntaxTree} (type : t.type ≠ "parenthesized_expression") : Unwrapped t [] t
  | parenthesized {t inner e : SyntaxTree} {i : Nat} {a : Address}
      (type : t.type = "parenthesized_expression") (first : FirstNamedAt t i inner)
      (rest : Unwrapped inner a e) : Unwrapped t (i :: a) e

/-- The opening tag of an element. A self-closing element is its own opening tag. -/
inductive OpeningTag (e : SyntaxTree) : Address → SyntaxTree → Prop where
  | selfClosing (type : e.type = "jsx_self_closing_element") : OpeningTag e [] e
  | paired {i : Nat} {tag : SyntaxTree} (type : e.type = "jsx_element")
      (opens : FieldAt e "open_tag" i tag) : OpeningTag e [i] tag

structure NamedTag (e : SyntaxTree) (a : Address) (tag : SyntaxTree) : Prop where
  opening : OpeningTag e a tag
  name : ∃ i n, FieldAt tag "name" i n

/-- The node is an element that has a tag name. -/
def IsElement (e : SyntaxTree) : Prop := ∃ a tag, NamedTag e a tag

/-- The element at an address is what a return statement returns. -/
inductive ReturnedBy (statement : SyntaxTree) : Address → SyntaxTree → Prop where
  | intro {i : Nat} {a : Address} {argument e : SyntaxTree}
      (returns : statement.type = "return_statement")
      (first : FirstNamedAt statement i argument) (unwrapped : Unwrapped argument a e)
      (element : IsElement e) : ReturnedBy statement (i :: a) e

/-- The element at an address is what an exported function of a module returns. -/
inductive Returned (root : SyntaxTree) : Address → SyntaxTree → Prop where
  | intro {i j : Nat} {a b : Address} {statement body inner e : SyntaxTree}
      (inModule : NamedAt root i statement) (exported : ExportedBody statement a body)
      (inBody : NamedAt body j inner) (returned : ReturnedBy inner b e) :
      Returned root (i :: (a ++ j :: b)) e

/-- An element is inside another one, or it is this one, with only elements in between. -/
inductive ElementBelow : SyntaxTree → Address → SyntaxTree → Prop where
  | here {t : SyntaxTree} (element : IsElement t) : ElementBelow t [] t
  | inside {t c e : SyntaxTree} {i : Nat} {a : Address} (type : t.type = "jsx_element")
      (element : IsElement t) (child : NamedAt t i c) (rest : ElementBelow c a e) :
      ElementBelow t (i :: a) e

/-- The element at an address counts for the module. -/
inductive ElementPlace (root : SyntaxTree) : Address → SyntaxTree → Prop where
  | intro {a b : Address} {returned e : SyntaxTree} (isReturned : Returned root a returned)
      (below : ElementBelow returned b e) : ElementPlace root (a ++ b) e

/-- The node at an address is an attribute in the opening tag of an element. -/
inductive AttributeOf (e : SyntaxTree) : Address → SyntaxTree → Prop where
  | intro {a : Address} {i : Nat} {tag A : SyntaxTree} (inTag : NamedTag e a tag)
      (ofTag : NamedAt tag i A) (type : A.type = "jsx_attribute") : AttributeOf e (a ++ [i]) A

/-- The attribute at an address counts for the module. -/
inductive AttributePlace (root : SyntaxTree) : Address → SyntaxTree → Prop where
  | intro {a b : Address} {e A : SyntaxTree} (element : ElementPlace root a e)
      (ofElement : AttributeOf e b A) : AttributePlace root (a ++ b) A

/-! ## What is at a place -/

theorem OpeningTag.at? {e tag : SyntaxTree} {a : Address} (h : OpeningTag e a tag) :
    e.at? a = some tag := by
  cases h with
  | selfClosing => rfl
  | paired _ opens => simp [SyntaxTree.at?, opens.child]

theorem ExportedBody.at? {statement body : SyntaxTree} {a : Address}
    (h : ExportedBody statement a body) : statement.at? a = some body := by
  cases h with
  | intro _ _ declares _ hasBody => simp [SyntaxTree.at?, declares.child, hasBody.child]

theorem Unwrapped.at? {t e : SyntaxTree} {a : Address} (h : Unwrapped t a e) :
    t.at? a = some e := by
  induction h with
  | bare => rfl
  | parenthesized _ first _ ih => simpa [SyntaxTree.at?, first.child] using ih

theorem ReturnedBy.at? {statement e : SyntaxTree} {a : Address} (h : ReturnedBy statement a e) :
    statement.at? a = some e := by
  cases h with
  | intro _ first unwrapped _ => simpa [SyntaxTree.at?, first.child] using unwrapped.at?

theorem Returned.at? {root e : SyntaxTree} {a : Address} (h : Returned root a e) :
    root.at? a = some e := by
  cases h with
  | intro inModule exported inBody returned =>
      simp [SyntaxTree.at?, SyntaxTree.at?_append, inModule.child, exported.at?, inBody.child,
        returned.at?]

theorem ElementBelow.at? {t e : SyntaxTree} {a : Address} (h : ElementBelow t a e) :
    t.at? a = some e := by
  induction h with
  | here => rfl
  | inside _ _ child _ ih => simpa [SyntaxTree.at?, child.child] using ih

theorem ElementPlace.at? {root e : SyntaxTree} {a : Address} (h : ElementPlace root a e) :
    root.at? a = some e := by
  cases h with
  | intro isReturned below =>
      rw [SyntaxTree.at?_append, isReturned.at?]
      exact below.at?

theorem AttributeOf.at? {e A : SyntaxTree} {a : Address} (h : AttributeOf e a A) :
    e.at? a = some A := by
  cases h with
  | intro inTag ofTag _ =>
      rw [SyntaxTree.at?_append, inTag.opening.at?]
      simp [SyntaxTree.at?, ofTag.child]

theorem AttributePlace.at? {root A : SyntaxTree} {a : Address} (h : AttributePlace root a A) :
    root.at? a = some A := by
  cases h with
  | intro element ofElement =>
      rw [SyntaxTree.at?_append, element.at?]
      exact ofElement.at?

/-! ## What the helpers pick -/

/-- The helper for opening tags finds those that have a name. -/
theorem openingTag?_eq_some_iff {e tag : SyntaxTree} :
    openingTag? e = some tag ↔ ∃ a, NamedTag e a tag := by
  have hname : (tag.child? "name").isSome = true ↔ ∃ i n, FieldAt tag "name" i n := by
    rw [Option.isSome_iff_exists, exists_comm]
    exact exists_congr fun n => child?_eq_some_iff
  rw [openingTag?, Option.filter_eq_some_iff, hname]
  constructor
  · rintro ⟨opens, name⟩
    split at opens
    · rename_i type
      cases opens
      exact ⟨[], .selfClosing (by simpa using type), name⟩
    · split at opens
      · rename_i type
        obtain ⟨i, hi⟩ := child?_eq_some_iff.mp opens
        exact ⟨[i], .paired (by simpa using type) hi, name⟩
      · cases opens
  · rintro ⟨a, opening, name⟩
    refine ⟨?_, name⟩
    cases opening with
    | selfClosing type => simp [type]
    | paired type opens => simpa [type] using child?_eq_some_iff.mpr ⟨_, opens⟩

theorem NamedTag.unique {e tag other : SyntaxTree} {a b : Address} (one : NamedTag e a tag)
    (two : NamedTag e b other) : a = b ∧ tag = other := by
  obtain ⟨opening, _⟩ := one
  obtain ⟨opening', _⟩ := two
  cases opening with
  | selfClosing type =>
      cases opening' with
      | selfClosing => exact ⟨rfl, rfl⟩
      | paired type' =>
          rw [type] at type'
          simp at type'
  | paired type opens =>
      cases opening' with
      | selfClosing type' =>
          rw [type] at type'
          simp at type'
      | paired _ opens' =>
          obtain ⟨rfl, rfl⟩ := opens.unique opens'
          exact ⟨rfl, rfl⟩

theorem isElement_iff {e : SyntaxTree} : IsElement e ↔ (openingTag? e).isSome = true := by
  rw [Option.isSome_iff_exists, IsElement, exists_comm]
  exact exists_congr fun tag => openingTag?_eq_some_iff.symm

theorem exportedBody?_eq_some_iff {statement body : SyntaxTree} :
    exportedBody? statement = some body ↔ ∃ a, ExportedBody statement a body := by
  unfold exportedBody?
  constructor
  · intro h
    split at h
    · cases h
    rename_i exports
    split at h
    · cases h
    rename_i byName
    split at h
    · cases h
    rename_i declaration hdeclaration
    split at h
    · rename_i function
      obtain ⟨i, declares⟩ := child?_eq_some_iff.mp hdeclaration
      obtain ⟨j, hasBody⟩ := child?_eq_some_iff.mp h
      exact ⟨[i, j], .intro (by simpa using exports) (by simpa using byName) declares
        (by simpa using function) hasBody⟩
    · cases h
  · rintro ⟨_, ⟨exports, byName, declares, function, hasBody⟩⟩
    rw [if_neg (by simpa using exports), if_neg (by simpa using byName),
      child?_eq_some_iff.mpr ⟨_, declares⟩]
    dsimp only
    rw [if_pos (by simpa using function)]
    exact child?_eq_some_iff.mpr ⟨_, hasBody⟩

theorem ExportedBody.unique {statement body other : SyntaxTree} {a b : Address}
    (one : ExportedBody statement a body) (two : ExportedBody statement b other) :
    a = b ∧ body = other := by
  obtain ⟨_, _, declares, _, hasBody⟩ := one
  obtain ⟨_, _, declares', _, hasBody'⟩ := two
  obtain ⟨rfl, rfl⟩ := declares.unique declares'
  obtain ⟨rfl, rfl⟩ := hasBody.unique hasBody'
  exact ⟨rfl, rfl⟩

theorem unparenthesized?_eq_some_iff {t e : SyntaxTree} :
    unparenthesized? t = some e ↔ ∃ a, Unwrapped t a e := by
  induction t using unparenthesized?.induct with
  | case1 t type absent =>
      rw [unparenthesized?_eq, if_pos type, absent]
      constructor
      · intro h
        cases h
      · rintro ⟨_, unwrapped⟩
        cases unwrapped with
        | bare notType => exact (notType type).elim
        | parenthesized _ first _ =>
            rw [firstNamed?_eq_some_iff.mpr ⟨_, first⟩] at absent
            cases absent
  | case2 t type inner found ih =>
      rw [unparenthesized?_eq, if_pos type, found, Option.bind_some, ih]
      constructor
      · rintro ⟨a, ha⟩
        obtain ⟨i, hi⟩ := firstNamed?_eq_some_iff.mp found
        exact ⟨i :: a, .parenthesized type hi ha⟩
      · rintro ⟨_, unwrapped⟩
        cases unwrapped with
        | bare notType => exact (notType type).elim
        | parenthesized _ first rest =>
            rw [firstNamed?_eq_some_iff.mpr ⟨_, first⟩] at found
            cases found
            exact ⟨_, rest⟩
  | case3 t notType =>
      rw [unparenthesized?_eq, if_neg notType]
      constructor
      · intro h
        cases h
        exact ⟨[], .bare notType⟩
      · rintro ⟨_, unwrapped⟩
        cases unwrapped with
        | bare => rfl
        | parenthesized type => exact (notType type).elim

theorem Unwrapped.unique {t e e' : SyntaxTree} {a b : Address} (one : Unwrapped t a e)
    (other : Unwrapped t b e') : a = b ∧ e = e' := by
  induction one generalizing b with
  | bare notType =>
      cases other with
      | bare => exact ⟨rfl, rfl⟩
      | parenthesized type => exact (notType type).elim
  | parenthesized type first _ ih =>
      cases other with
      | bare notType => exact (notType type).elim
      | parenthesized _ first' rest' =>
          obtain ⟨rfl, rfl⟩ := first.unique first'
          obtain ⟨rfl, rfl⟩ := ih rest'
          exact ⟨rfl, rfl⟩

theorem returnedElement?_eq_some_iff {statement e : SyntaxTree} :
    returnedElement? statement = some e ↔ ∃ a, ReturnedBy statement a e := by
  unfold returnedElement?
  by_cases returns : statement.type = "return_statement"
  · simp only [returns, bne_self_eq_false, Bool.false_eq_true, if_false,
      Option.filter_eq_some_iff, Option.bind_eq_some_iff, firstNamed?_eq_some_iff,
      unparenthesized?_eq_some_iff, ← isElement_iff]
    constructor
    · rintro ⟨⟨argument, ⟨i, first⟩, a, unwrapped⟩, element⟩
      exact ⟨i :: a, .intro returns first unwrapped element⟩
    · rintro ⟨_, ⟨_, first, unwrapped, element⟩⟩
      exact ⟨⟨_, ⟨_, first⟩, _, unwrapped⟩, element⟩
  · rw [if_pos (by simpa using returns)]
    constructor
    · intro h
      cases h
    · rintro ⟨_, ⟨returns', _, _, _⟩⟩
      exact (returns returns').elim

theorem ReturnedBy.unique {statement e e' : SyntaxTree} {a b : Address}
    (one : ReturnedBy statement a e) (other : ReturnedBy statement b e') : a = b ∧ e = e' := by
  obtain ⟨_, first, unwrapped, _⟩ := one
  obtain ⟨_, first', unwrapped', _⟩ := other
  obtain ⟨rfl, rfl⟩ := first.unique first'
  obtain ⟨rfl, rfl⟩ := unwrapped.unique unwrapped'
  exact ⟨rfl, rfl⟩

end UsedSelectors.Component
