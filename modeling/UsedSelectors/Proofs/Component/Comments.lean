import UsedSelectors.Proofs.Component.LiteralValue
import UsedSelectors.Proofs.Component.Reached
import UsedSelectors.Proofs.SyntaxTree.Commented

/-!
# Comments in a module

Comments that are put into a module leave its elements and their attributes as they were. An
attribute keeps its name; its value is the same too, unless a comment comes between the name and
the value or after a literal in braces. In these two cases the value is hidden, and whether that
changes what is listed depends on whether it gave a selector.
-/

namespace UsedSelectors.SyntaxTree.Commented

open Component Attempts

/-! ## Related choices -/

section Related

variable {α β : Type} {R : α → α → Prop} {S : β → β → Prop} {a b : Option α}

theorem isSome_eq_of_rel (h : Option.Rel R a b) : b.isSome = a.isSome := by
  cases h <;> rfl

theorem exists_of_rel_left (h : Option.Rel R a b) {x : α} (hx : a = some x) :
    ∃ y, b = some y ∧ R x y := by
  subst hx
  cases h with
  | some hxy => exact ⟨_, rfl, hxy⟩

theorem exists_of_rel_right (h : Option.Rel R a b) {y : α} (hy : b = some y) :
    ∃ x, a = some x ∧ R x y := by
  subst hy
  cases h with
  | some hxy => exact ⟨_, rfl, hxy⟩

theorem eq_none_of_rel (h : Option.Rel R a b) (ha : a = none) : b = none := by
  subst ha
  cases h with
  | none => rfl

theorem rel_filter (h : Option.Rel R a b) {p : α → Bool} (same : ∀ x y, R x y → p y = p x) :
    Option.Rel R (a.filter p) (b.filter p) := by
  cases h with
  | none => exact .none
  | @some x y hxy =>
      rw [Option.filter_some, Option.filter_some, same x y hxy]
      split
      · exact .some hxy
      · exact .none

theorem rel_bind (h : Option.Rel R a b) {f g : α → Option β}
    (related : ∀ x y, R x y → Option.Rel S (f x) (g y)) : Option.Rel S (a.bind f) (b.bind g) := by
  cases h with
  | none => exact .none
  | some hxy => exact related _ _ hxy

theorem forall₂_flatMap_toList (h : Option.Rel R a b) {f g : α → List β}
    (related : ∀ x y, R x y → List.Forall₂ S (f x) (g y)) :
    List.Forall₂ S (a.toList.flatMap f) (b.toList.flatMap g) := by
  cases h with
  | none => exact .nil
  | some hxy =>
      rw [Option.toList_some, Option.toList_some, List.flatMap_singleton, List.flatMap_singleton]
      exact related _ _ hxy

end Related

variable {source source' : ByteArray} {t t' : SyntaxTree}

/-! ## The same choices -/

theorem child? (h : Commented source source' t t') (field : String) :
    Option.Rel (Commented source source') (t.child? field) (t'.child? field) :=
  h.children_added.find? (fun u _ noField => by rw [noField]; rfl)
    fun u u' kept => by rw [kept.field_eq]

theorem firstNamed? (h : Commented source source' t t') :
    Option.Rel (Commented source source') (Component.firstNamed? t) (Component.firstNamed? t') := by
  rw [Component.firstNamed?, Component.firstNamed?, namedChildren, namedChildren,
    List.find?_filter, List.find?_filter]
  refine h.children_added.find? (fun u isComment _ => ?_) fun u u' kept => ?_
  · simp [isComment]
  · rw [kept.isNamed_eq, kept.type_eq]

theorem openingTag? (h : Commented source source' t t') :
    Option.Rel (Commented source source') (Component.openingTag? t) (Component.openingTag? t') := by
  unfold Component.openingTag?
  refine rel_filter ?_ fun tag tag' kept => isSome_eq_of_rel (kept.child? "name")
  rw [h.type_eq]
  split
  · exact .some h
  · split
    · exact h.child? "open_tag"
    · exact .none

theorem exportedBody? (h : Commented source source' t t') :
    Option.Rel (Commented source source') (Component.exportedBody? t)
      (Component.exportedBody? t') := by
  have byDefault : t'.children.any (·.type == "default") =
      t.children.any (·.type == "default") := by
    rw [← List.isSome_find?, ← List.isSome_find?]
    refine isSome_eq_of_rel (h.children_added.find? (fun u isComment _ => ?_) fun u u' kept => ?_)
    · simp [isComment]
    · rw [kept.type_eq]
  have hdeclaration := h.child? "declaration"
  unfold Component.exportedBody?
  rw [h.type_eq, byDefault]
  split
  · exact .none
  split
  · exact .none
  generalize t.child? "declaration" = declaration at hdeclaration ⊢
  generalize t'.child? "declaration" = declaration' at hdeclaration ⊢
  cases hdeclaration with
  | none => exact .none
  | some kept =>
      dsimp only
      rw [kept.type_eq]
      split
      · exact kept.child? "body"
      · exact .none

theorem unparenthesized? (h : Commented source source' t t') :
    Option.Rel (Commented source source') (Component.unparenthesized? t)
      (Component.unparenthesized? t') := by
  induction t using unparenthesized?.induct generalizing t' with
  | case1 t type absent =>
      have absent' := eq_none_of_rel h.firstNamed? absent
      rw [unparenthesized?_eq, unparenthesized?_eq, h.type_eq, if_pos type, if_pos type, absent,
        absent']
      exact .none
  | case2 t type inner found ih =>
      obtain ⟨inner', found', kept⟩ := exists_of_rel_left h.firstNamed? found
      rw [unparenthesized?_eq, unparenthesized?_eq, h.type_eq, if_pos type, if_pos type, found,
        found']
      exact ih kept
  | case3 t notType =>
      rw [unparenthesized?_eq, unparenthesized?_eq, h.type_eq, if_neg notType, if_neg notType]
      exact .some h

theorem returnedElement? (h : Commented source source' t t') :
    Option.Rel (Commented source source') (Component.returnedElement? t)
      (Component.returnedElement? t') := by
  unfold Component.returnedElement?
  rw [h.type_eq]
  split
  · exact .none
  · exact rel_filter (rel_bind h.firstNamed? fun _ _ kept => kept.unparenthesized?)
      fun _ _ kept => isSome_eq_of_rel kept.openingTag?

/-! ## The same elements and attributes -/

theorem openingTag?_eq_none_of_comment {u : SyntaxTree} (isComment : u.type = "comment") :
    Component.openingTag? u = none := by
  rw [Component.openingTag?, isComment]
  rfl

theorem elementsBelow (h : Commented source source' t t') :
    List.Forall₂ (Commented source source') (Component.elementsBelow t)
      (Component.elementsBelow t') := by
  induction t using elementsBelow.induct generalizing t' with
  | case1 t hnone =>
      have hnone' := eq_none_of_rel h.openingTag? hnone
      rw [elementsBelow_eq_nil hnone, elementsBelow_eq_nil hnone']
      exact .nil
  | case2 t tag hsome ih =>
      obtain ⟨tag', hsome', _⟩ := exists_of_rel_left h.openingTag? hsome
      rw [elementsBelow_eq_cons hsome, elementsBelow_eq_cons hsome']
      refine .cons h ?_
      unfold contentOf at ih ⊢
      rw [h.type_eq]
      split
      · rename_i type
        rw [namedChildren, namedChildren, List.filter_filter, List.filter_filter]
        refine h.children_added.flatMap_filter (fun u isComment _ => ?_)
          (fun u u' kept => ?_) fun u u' hu passes kept => ?_
        · exact elementsBelow_eq_nil (openingTag?_eq_none_of_comment isComment)
        · rw [kept.type_eq, kept.isNamed_eq]
        · refine ih ⟨u, ?_⟩ kept
          rw [if_pos type, namedChildren, List.filter_filter]
          exact List.mem_filter.mpr ⟨hu, passes⟩
      · exact .nil

theorem attributeNodes (h : Commented source source' t t') :
    List.Forall₂ (Commented source source') (Component.attributeNodes t)
      (Component.attributeNodes t') := by
  have htag := h.openingTag?
  unfold Component.attributeNodes
  generalize Component.openingTag? t = tag at htag ⊢
  generalize Component.openingTag? t' = tag' at htag ⊢
  cases htag with
  | none => exact .nil
  | some kept =>
      dsimp only
      rw [namedChildren, namedChildren, List.filter_filter, List.filter_filter]
      refine kept.children_added.filter (fun u isComment => ?_) fun u u' same => ?_
      · simp [isComment]
      · rw [same.type_eq, same.isNamed_eq]

theorem reachedElements (h : Commented source source' t t') :
    List.Forall₂ (Commented source source') (Component.reachedElements t)
      (Component.reachedElements t') := by
  simp only [Component.reachedElements, returnedElements, List.filterMap_eq_flatMap_toList,
    List.flatMap_assoc]
  refine h.children_added.flatMap_filter (fun u isComment _ => ?_)
    (fun u u' kept => kept.isNamed_eq) fun u u' _ _ kept => ?_
  · simp [Component.exportedBody?, isComment]
  refine forall₂_flatMap_toList kept.exportedBody? fun body body' kept => ?_
  refine kept.children_added.flatMap_filter (fun u isComment _ => ?_)
    (fun u u' kept => kept.isNamed_eq) fun u u' _ _ kept => ?_
  · simp [Component.returnedElement?, isComment]
  exact forall₂_flatMap_toList kept.returnedElement? fun e e' kept => kept.elementsBelow

theorem reachedAttributes (h : Commented source source' t t') :
    List.Forall₂ (Commented source source') (Component.reachedAttributes t)
      (Component.reachedAttributes t') :=
  List.rel_flatMap h.reachedElements fun _ _ kept => kept.attributeNodes

end UsedSelectors.SyntaxTree.Commented

namespace UsedSelectors.Component

open SyntaxTree Attempts

variable {source source' : ByteArray}

/-! ## Hidden values -/

/-- The value of an attribute cannot be seen: a comment comes right after the name, or there is
something else in the braces after what they hold first. -/
inductive HidesValue (A : SyntaxTree) : Prop where
  | comment {value : SyntaxTree} (second : A.namedChildren[1]? = some value)
      (isComment : value.type = "comment") : HidesValue A
  | braces {value : SyntaxTree} (second : A.namedChildren[1]? = some value)
      (type : value.type = "jsx_expression") (more : afterFirstNamed value ≠ []) : HidesValue A

theorem HidesValue.literalValue? {A value : SyntaxTree} (hides : HidesValue A)
    (second : A.namedChildren[1]? = some value) : literalValue? source value = .ok none := by
  cases hides with
  | comment second' isComment =>
      obtain rfl := Option.some.inj (second.symm.trans second')
      refine literalValue?_of_neither (by simp [isComment]) fun inner holds => ?_
      have type := holds.type
      rw [isComment] at type
      simp at type
  | braces second' type more =>
      obtain rfl := Option.some.inj (second.symm.trans second')
      exact literalValue?_of_neither (by simp [type]) fun inner holds => more holds.alone

theorem isText_of_isScriptLiteral {t : SyntaxTree} (literal : isScriptLiteral t = true) :
    t.isText false = true := by
  obtain plain | template := Bool.or_eq_true_iff.mp literal
  · rw [isText, plain]
    rfl
  · obtain ⟨template, _⟩ := Bool.and_eq_true_iff.mp template
    rw [isText, template, Bool.or_true]
    rfl

theorem isScriptLiteral_of_commented {t t' : SyntaxTree} (h : Commented source source' t t') :
    isScriptLiteral t' = isScriptLiteral t := by
  have substitution := Commented.isSome_eq_of_rel (h.children_added.find?
    (p := fun c => c.label.isNamed && c.type == "template_substitution")
    (fun u isComment _ => by simp [isComment]) fun u u' kept => by
      rw [kept.isNamed_eq, kept.type_eq])
  rw [List.isSome_find?, List.isSome_find?] at substitution
  have same := congrArg Bool.not substitution
  rw [List.not_any_eq_all_not, List.not_any_eq_all_not] at same
  simp only [Bool.not_and] at same
  rw [isScriptLiteral, isScriptLiteral, h.type_eq, namedChildren, namedChildren, List.all_filter,
    List.all_filter]
  simp only [bne, same]

/-- Braces with comments put in hold the same literal, if nothing comes after it now. -/
theorem holdsLiteral_of_commented {value value' : SyntaxTree}
    (h : Commented source source' value value')
    (alone : value'.type = "jsx_expression" → afterFirstNamed value' = []) :
    (∀ inner, HoldsLiteral value inner →
      ∃ inner', HoldsLiteral value' inner' ∧ Commented source source' inner inner') ∧
      ∀ inner', HoldsLiteral value' inner' → ∃ inner, HoldsLiteral value inner := by
  constructor
  · intro inner holds
    obtain ⟨inner', first', kept⟩ := Commented.exists_of_rel_left h.firstNamed? holds.first
    have type := h.type_eq.trans holds.type
    have literal := (isScriptLiteral_of_commented kept).trans holds.literal
    exact ⟨inner', ⟨type, first', alone type, literal⟩, kept⟩
  · intro inner' holds
    obtain ⟨inner, first, kept⟩ := Commented.exists_of_rel_right h.firstNamed? holds.first
    have literal := (isScriptLiteral_of_commented kept).symm.trans holds.literal
    refine ⟨inner, h.type_eq.symm.trans holds.type, first, ?_, literal⟩
    -- What is left after the comments in front has not become less.
    have fewer := h.children_added.length_dropWhile_le
    have alone' := holds.alone
    unfold afterFirstNamed namedChildren at alone' ⊢
    rw [List.drop_eq_nil_iff] at alone' ⊢
    exact Nat.le_trans fewer alone'

theorem literalValue?_of_commented {value value' : SyntaxTree}
    (h : Commented source source' value value')
    (alone : value'.type = "jsx_expression" → afterFirstNamed value' = []) :
    literalValue? source' value' = literalValue? source value := by
  obtain ⟨kept, back⟩ := holdsLiteral_of_commented h alone
  by_cases plain : value.type = "string"
  · rw [literalValue?_of_plain plain, literalValue?_of_plain (h.type_eq.trans plain),
      h.text_eq (by simp [isText, plain])]
  by_cases holds : ∃ inner, HoldsLiteral value inner
  · obtain ⟨inner, holds⟩ := holds
    obtain ⟨inner', holds', same⟩ := kept inner holds
    rw [literalValue?_of_holdsLiteral holds, literalValue?_of_holdsLiteral holds',
      same.text_eq (isText_of_isScriptLiteral holds.literal)]
  · rw [literalValue?_of_neither plain (not_exists.mp holds), literalValue?_of_neither]
    · rwa [h.type_eq]
    · exact fun inner' holds' => holds (back inner' holds')

/-- An attribute keeps its name, and its value unless it is hidden. -/
theorem attributeOf_of_commented {A A' : SyntaxTree} {attr : Attribute}
    (h : Commented source source' A A') (type : A.type = "jsx_attribute")
    (read : attributeOf source A = .ok attr) :
    ∃ value', attributeOf source' A' = .ok ⟨attr.name, value'⟩ ∧
      (HidesValue A' → value' = none) ∧ (¬ HidesValue A' → value' = attr.value) := by
  obtain ⟨name, cs, hhead, hcs, hname, hvalue⟩ := (attributeOf_eq_ok_iff source).mp read
  obtain ⟨others, hothers⟩ := List.head?_eq_some_iff.mp hhead
  have added := h.children_added
  rw [type] at added
  obtain ⟨name', rest, rest', hnamed', rfl, htext, added⟩ := added.name hothers
  have hnamed' : A'.namedChildren = name' :: rest'.filter (·.label.isNamed) := hnamed'
  have second : A.namedChildren[1]? = (rest.filter (·.label.isNamed)).head? := by
    rw [hothers, List.getElem?_cons_succ, List.head?_eq_getElem?]
  have second' : A'.namedChildren[1]? = (rest'.filter (·.label.isNamed)).head? := by
    rw [hnamed', List.getElem?_cons_succ, List.head?_eq_getElem?]
  have reads {value' : Option Text}
      (hvalue' : (A'.namedChildren[1]? = none ∧ value' = none) ∨
        ∃ v, A'.namedChildren[1]? = some v ∧ literalValue? source' v = .ok value') :
      attributeOf source' A' = .ok ⟨attr.name, value'⟩ :=
    (attributeOf_eq_ok_iff source').mpr
      ⟨name', cs, by rw [hnamed']; rfl, htext.trans hcs, hname, hvalue'⟩
  by_cases hides : HidesValue A'
  · refine ⟨none, reads ?_, fun _ => rfl, fun visible => (visible hides).elim⟩
    cases hsecond : A'.namedChildren[1]? with
    | none => exact .inl ⟨rfl, rfl⟩
    | some v => exact .inr ⟨v, rfl, hides.literalValue? hsecond⟩
  · refine ⟨attr.value, reads ?_, fun impossible => (hides impossible).elim, fun _ => rfl⟩
    obtain ⟨u, hu, isComment⟩ | related := added.head?
    · exact (hides (.comment (second'.trans hu) isComment)).elim
    · rw [← second, ← second'] at related
      obtain ⟨absent, none⟩ | ⟨v, hv, hliteral⟩ := hvalue
      · exact .inl ⟨Commented.eq_none_of_rel related absent, none⟩
      · obtain ⟨v', hv', kept⟩ := Commented.exists_of_rel_left related hv
        refine .inr ⟨v', hv', ?_⟩
        rw [literalValue?_of_commented kept fun braced => ?_]
        · exact hliteral
        · by_contra more
          exact hides (.braces hv' braced more)

/-- An attribute gives the same selector as before, unless its value is hidden. -/
theorem selectorOf?_of_commented {A A' : SyntaxTree} {attr : Attribute}
    (h : Commented source source' A A') (type : A.type = "jsx_attribute")
    (read : attributeOf source A = .ok attr) (kind : SelectorKind) :
    (HidesValue A' → selectorOf? source' kind A' = none) ∧
      (¬ HidesValue A' → selectorOf? source' kind A' = selectorOf? source kind A) := by
  obtain ⟨value', read', hidden, visible⟩ := attributeOf_of_commented h type read
  unfold selectorOf?
  rw [read, read']
  constructor
  · intro hides
    rw [hidden hides]
    simp [Except.toOption, SelectorKind.ofAttribute?]
  · intro shows
    rw [visible shows]

/-! ## Modules -/

theorem isReadable_of_commented {e e' : SyntaxTree} (h : Commented source source' e e')
    (readable : IsReadable source e) : IsReadable source' e' := by
  cases htag : openingTag? e with
  | none =>
      have htag' := Commented.eq_none_of_rel h.openingTag? htag
      exact ⟨_, shapeOf_of_openingTag?_eq_none source' htag'⟩
  | some tag =>
      obtain ⟨tag', htag', kept⟩ := Commented.exists_of_rel_left h.openingTag? htag
      have ⟨_, hshape⟩ := readable
      obtain ⟨_, name, cs, _, hname, hcs, _⟩ := (shapeOf_eq_ok_iff source htag).mp hshape
      obtain ⟨name', hname', same⟩ := Commented.exists_of_rel_left (kept.child? "name") hname
      have field : name.field = some "name" := by simpa using List.find?_some hname
      have text := same.text_eq (by simp [isText, field])
      refine isReadable_of_attributes htag' hname' (text.trans hcs) fun A' hA' => ?_
      obtain ⟨A, hA, keptA⟩ := exists_mem_of_forall₂ h.attributeNodes hA'
      obtain ⟨attr, read⟩ := readable.exists_attribute hA
      obtain ⟨value', read', _⟩ :=
        attributeOf_of_commented keptA (type_of_mem_attributeNodes hA) read
      exact ⟨_, read'⟩

section Hidden

variable {α β : Type} {f f' : α → Option β} {Hidden : α → Prop} {l l' : List α}

theorem length_filterMap_le_of_hidden (h : List.Forall₂ (fun a a' =>
      (Hidden a' → f' a' = none) ∧ (¬ Hidden a' → f' a' = f a)) l l') :
    (l'.filterMap f').length ≤ (l.filterMap f).length := by
  induction h with
  | nil => exact Nat.le_refl _
  | @cons a a' l l' here _ ih =>
      rw [List.filterMap_cons, List.filterMap_cons]
      by_cases hides : Hidden a'
      · rw [here.1 hides]
        cases f a with
        | none => exact ih
        | some b => exact Nat.le_succ_of_le ih
      · rw [here.2 hides]
        cases f a with
        | none => exact ih
        | some b => exact Nat.succ_le_succ ih

/-- What is found at some items is found again exactly when nothing of it is hidden. -/
theorem filterMap_eq_iff_of_hidden (h : List.Forall₂ (fun a a' =>
      (Hidden a' → f' a' = none) ∧ (¬ Hidden a' → f' a' = f a)) l l') :
    l'.filterMap f' = l.filterMap f ↔
      ∀ p ∈ l.zip l', (f p.1).isSome = true → ¬ Hidden p.2 := by
  induction h with
  | nil => simp
  | @cons a a' l l' here later ih =>
      rw [List.filterMap_cons, List.filterMap_cons, List.zip_cons_cons, List.forall_mem_cons, ← ih]
      have fewer := length_filterMap_le_of_hidden later
      by_cases hides : Hidden a'
      · rw [here.1 hides]
        cases f a with
        | none => simp
        | some b =>
            -- One entry is lost here, and none can be won further on.
            constructor
            · intro same
              have lengths : (l'.filterMap f').length = (l.filterMap f).length + 1 :=
                congrArg List.length same
              omega
            · rintro ⟨visible, _⟩
              exact (visible rfl hides).elim
      · rw [here.2 hides]
        cases f a with
        | none => simp
        | some b => simp [hides]

end Hidden

/--
A module with comments put in gives trees if the module does. The same selectors of a kind are
listed for it exactly when no attribute that gave one has its value hidden.
-/
theorem walk_eq_iff_of_commented {root root' : SyntaxTree} {roots : List Node}
    (h : Commented source source' root root') (read : rootsOf source root = .ok roots) :
    ∃ roots', rootsOf source' root' = .ok roots' ∧
      (reachedAttributes root').length = (reachedAttributes root).length ∧
      ∀ kind, Order.pre.walk kind roots' = Order.pre.walk kind roots ↔
        ∀ p ∈ (reachedAttributes root).zip (reachedAttributes root'),
          (selectorOf? source kind p.1).isSome = true → ¬ HidesValue p.2 := by
  obtain ⟨noError, readable⟩ := exists_rootsOf_eq_ok_iff.mp ⟨roots, read⟩
  obtain ⟨roots', read'⟩ : ∃ roots', rootsOf source' root' = .ok roots' := by
    refine exists_rootsOf_eq_ok_iff.mpr ⟨h.hasError_eq.trans noError, fun e' he' => ?_⟩
    obtain ⟨e, he, kept⟩ := exists_mem_of_forall₂ h.reachedElements he'
    exact isReadable_of_commented kept (readable e he)
  refine ⟨roots', read', h.reachedAttributes.length_eq.symm, fun kind => ?_⟩
  rw [Order.walk, Order.walk, walkPre_of_rootsOf read kind, walkPre_of_rootsOf read' kind]
  refine filterMap_eq_iff_of_hidden ?_
  refine List.forall₂_iff_zip.mpr ⟨h.reachedAttributes.length_eq, fun {A A'} paired => ?_⟩
  have kept := List.forall₂_zip h.reachedAttributes paired
  obtain ⟨e, he, hA⟩ := List.mem_flatMap.mp (List.of_mem_zip paired).1
  obtain ⟨attr, hattr⟩ := (readable e he).exists_attribute hA
  exact selectorOf?_of_commented kept (type_of_mem_attributeNodes hA) hattr kind

/-! ## A comment after a literal -/

def bracedText : String := "export function F() \x7b return <a class=\x7b\"b\"\x7d/>; \x7d"

def commentedText : String :=
  "export function F() \x7b return <a class=\x7b\"b\" /* c */\x7d/>; \x7d"

/-- The nodes of these modules, with what comes after the literal and how long it is. -/
def bracedTree (length : Nat) (comments : List SyntaxTree) : SyntaxTree :=
  plainNode "program" 0 (48 + length) none
    [plainNode "export_statement" 0 (48 + length) none
      [plainNode "function_declaration" 7 (48 + length) (some "declaration")
        [plainNode "statement_block" 20 (48 + length) (some "body")
          [plainNode "return_statement" 22 (46 + length) none
            [plainNode "jsx_self_closing_element" 29 (45 + length) none
              [plainNode "identifier" 30 31 (some "name") [],
                plainNode "jsx_attribute" 32 (43 + length) none
                  [plainNode "property_identifier" 32 37 none [],
                    plainNode "jsx_expression" 38 (43 + length) none
                      (plainNode "string" 39 42 none [] :: comments)]]]]]]]

def commentNode : SyntaxTree := plainNode "comment" 43 50 none []

theorem commented_bracedTree :
    Commented bracedText.toUTF8 commentedText.toUTF8 (bracedTree 0 [])
      (bracedTree 8 [commentNode]) := by
  refine ⟨false, ?_⟩
  repeat' first
    | exact .nil
    | exact .comment rfl rfl rfl .nil
    | refine .keep rfl rfl (by decide +kernel) ?_ ?_

/-- The module with the comment gives trees, as it did without. -/
theorem walk_eq_iff_of_commented_bracedTree :
    ∃ roots, rootsOf bracedText.toUTF8 (bracedTree 0 []) = .ok roots ∧
      Commented bracedText.toUTF8 commentedText.toUTF8 (bracedTree 0 [])
        (bracedTree 8 [commentNode]) ∧
      ∃ roots', rootsOf commentedText.toUTF8 (bracedTree 8 [commentNode]) = .ok roots' ∧
        (reachedAttributes (bracedTree 8 [commentNode])).length =
          (reachedAttributes (bracedTree 0 [])).length ∧
        ∀ kind, Order.pre.walk kind roots' = Order.pre.walk kind roots ↔
          ∀ p ∈ (reachedAttributes (bracedTree 0 [])).zip
              (reachedAttributes (bracedTree 8 [commentNode])),
            (selectorOf? bracedText.toUTF8 kind p.1).isSome = true → ¬ HidesValue p.2 := by
  have listed : ((rootsOf bracedText.toUTF8 (bracedTree 0 [])).toOption.map
      (Order.pre.walk .className)).isSome = true := by
    decide +kernel
  cases read : rootsOf bracedText.toUTF8 (bracedTree 0 []) with
  | error failure =>
      rw [read] at listed
      cases listed
  | ok roots =>
      exact ⟨roots, rfl, commented_bracedTree, walk_eq_iff_of_commented commented_bracedTree read⟩

/-- Nothing is listed any more once a comment comes after the literal. -/
theorem walk_bracedTree_commented :
    Commented bracedText.toUTF8 commentedText.toUTF8 (bracedTree 0 [])
        (bracedTree 8 [commentNode]) ∧
      (rootsOf bracedText.toUTF8 (bracedTree 0 [])).toOption.map (Order.pre.walk .className) =
        some [Text.ofChars ['.', 'b']] ∧
      (rootsOf commentedText.toUTF8 (bracedTree 8 [commentNode])).toOption.map
        (Order.pre.walk .className) = some [] :=
  ⟨commented_bracedTree, by decide +kernel, by decide +kernel⟩

end UsedSelectors.Component
