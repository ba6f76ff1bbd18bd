import Mathlib.Data.List.Forall2
import UsedSelectors.Component.Failure

/-!
# Syntax trees with comments put in

Comments may stand almost anywhere in a module. A syntax tree with comments put in has all the
nodes it had before, with the same types, flags and fields; what has changed is where they are in
the text. The text itself stays the same for the nodes whose text is read: names, strings and
templates. No comment comes before the name of an attribute.

A choice among children that leaves comments out of account makes the same choices in both trees.
-/

namespace UsedSelectors

/-- What a label says, at the place of another one. -/
def SyntaxLabel.movedTo (label place : SyntaxLabel) : SyntaxLabel :=
  { label with start := place.start, stop := place.stop, row := place.row }

namespace SyntaxTree

/-- Whether the text of a node is read, of which it may be known that it is the first child with a
name of its own in an attribute. -/
def isText (namesAttribute : Bool) (t : SyntaxTree) : Bool :=
  t.type == "string" || t.type == "template_string" || t.field == some "name" ||
    (namesAttribute && t.label.isNamed)

/--
The second list is the first one with comments put in, at any depth. The flag says that the name of
an attribute is still to come, and that no comment may stand before it.
-/
inductive CommentsAdded (source source' : ByteArray) :
    Bool → List SyntaxTree → List SyntaxTree → Prop where
  | nil {nameAhead : Bool} : CommentsAdded source source' nameAhead [] []
  | comment {c : SyntaxTree} {ts ts' : List SyntaxTree} (isComment : c.type = "comment")
      (named : c.label.isNamed = true) (noField : c.field = none)
      (rest : CommentsAdded source source' false ts ts') :
      CommentsAdded source source' false ts (c :: ts')
  | keep {nameAhead : Bool} {t t' : SyntaxTree} {ts ts' : List SyntaxTree}
      (label : t'.label = t.label.movedTo t'.label)
      (field : t'.field = t.field)
      (text : t.isText nameAhead = true → t'.text source' = t.text source)
      (inside : CommentsAdded source source' (t.type == "jsx_attribute") t.children t'.children)
      (rest : CommentsAdded source source' (nameAhead && !t.label.isNamed) ts ts') :
      CommentsAdded source source' nameAhead (t :: ts) (t' :: ts')

/-- The second node is the first one with comments put in. -/
def Commented (source source' : ByteArray) (t t' : SyntaxTree) : Prop :=
  ∃ nameAhead, CommentsAdded source source' nameAhead [t] [t']

variable {source source' : ByteArray}

namespace Commented

variable {t t' : SyntaxTree}

theorem label_eq (h : Commented source source' t t') :
    t'.label = t.label.movedTo t'.label := by
  obtain ⟨_, added⟩ := h
  cases added with
  | comment _ _ _ rest => cases rest
  | keep label _ _ _ _ => exact label

theorem type_eq (h : Commented source source' t t') : t'.type = t.type := by
  rw [type, h.label_eq, type, SyntaxLabel.movedTo]

theorem isNamed_eq (h : Commented source source' t t') : t'.label.isNamed = t.label.isNamed := by
  rw [h.label_eq, SyntaxLabel.movedTo]

theorem hasError_eq (h : Commented source source' t t') :
    t'.label.hasError = t.label.hasError := by
  rw [h.label_eq, SyntaxLabel.movedTo]

theorem field_eq (h : Commented source source' t t') : t'.field = t.field := by
  obtain ⟨_, added⟩ := h
  cases added with
  | comment _ _ _ rest => cases rest
  | keep _ field _ _ _ => exact field

theorem text_eq (h : Commented source source' t t') (isText : t.isText false = true) :
    t'.text source' = t.text source := by
  obtain ⟨nameAhead, added⟩ := h
  cases added with
  | comment _ _ _ rest => cases rest
  | keep _ _ text _ _ =>
      refine text ?_
      rw [SyntaxTree.isText, Bool.false_and, Bool.or_false] at isText
      rw [SyntaxTree.isText, isText, Bool.true_or]

theorem children_added (h : Commented source source' t t') :
    CommentsAdded source source' (t.type == "jsx_attribute") t.children t'.children := by
  obtain ⟨_, added⟩ := h
  cases added with
  | comment _ _ _ rest => cases rest
  | keep _ _ _ inside _ => exact inside

end Commented

namespace CommentsAdded

variable {nameAhead : Bool} {t t' : SyntaxTree} {ts ts' : List SyntaxTree}

theorem commented (label : t'.label = t.label.movedTo t'.label)
    (field : t'.field = t.field)
    (text : t.isText nameAhead = true → t'.text source' = t.text source)
    (inside : CommentsAdded source source' (t.type == "jsx_attribute") t.children t'.children) :
    Commented source source' t t' :=
  ⟨nameAhead, .keep label field text inside .nil⟩

/-- A search that passes over comments finds the same node. -/
theorem find? (h : CommentsAdded source source' nameAhead ts ts') {p : SyntaxTree → Bool}
    (comment : ∀ u, u.type = "comment" → u.field = none → p u = false)
    (same : ∀ t t', Commented source source' t t' → p t' = p t) :
    Option.Rel (Commented source source') (ts.find? p) (ts'.find? p) := by
  induction h with
  | nil => exact .none
  | @comment c ts ts' isComment named noField rest ih =>
      rw [List.find?_cons, comment c isComment noField]
      exact ih
  | @keep nameAhead t t' ts ts' label field text inside rest ihInside ih =>
      have kept := commented label field text inside
      rw [List.find?_cons, List.find?_cons, same t t' kept]
      cases p t with
      | true => exact .some kept
      | false => exact ih

/-- What is listed for the nodes that pass a test corresponds if it does for the nodes that are
kept, and if nothing is listed for comments. -/
theorem flatMap_filter (h : CommentsAdded source source' nameAhead ts ts')
    {p : SyntaxTree → Bool} {g : SyntaxTree → List SyntaxTree}
    (comment : ∀ u, u.type = "comment" → p u = true → g u = [])
    (same : ∀ t t', Commented source source' t t' → p t' = p t)
    (kept : ∀ t t', t ∈ ts → p t = true → Commented source source' t t' →
      List.Forall₂ (Commented source source') (g t) (g t')) :
    List.Forall₂ (Commented source source') ((ts.filter p).flatMap g)
      ((ts'.filter p).flatMap g) := by
  induction h with
  | nil => exact .nil
  | @comment c ts ts' isComment named noField rest ih =>
      rw [List.filter_cons]
      split
      · rename_i passes
        rw [List.flatMap_cons, comment c isComment passes]
        exact ih kept
      · exact ih kept
  | @keep nameAhead t t' ts ts' label field text inside rest ihInside ih =>
      have here := commented label field text inside
      have later := ih fun u u' hu => kept u u' (List.mem_cons_of_mem _ hu)
      rw [List.filter_cons, List.filter_cons, same t t' here]
      split
      · rename_i passes
        rw [List.flatMap_cons, List.flatMap_cons]
        exact List.rel_append (kept t t' List.mem_cons_self passes here) later
      · exact later

theorem filter (h : CommentsAdded source source' nameAhead ts ts') {p : SyntaxTree → Bool}
    (comment : ∀ u, u.type = "comment" → p u = false)
    (same : ∀ t t', Commented source source' t t' → p t' = p t) :
    List.Forall₂ (Commented source source') (ts.filter p) (ts'.filter p) := by
  have listed := h.flatMap_filter (g := fun u => [u])
    (fun u isComment passes => by
      rw [comment u isComment] at passes
      cases passes)
    same fun _ _ _ _ kept => .cons kept .nil
  rwa [List.flatMap_singleton', List.flatMap_singleton'] at listed

/-- The name of an attribute is kept, with its text; comments may only come after it. -/
theorem name (h : CommentsAdded source source' true ts ts') {name : SyntaxTree}
    {others : List SyntaxTree} (hname : ts.filter (·.label.isNamed) = name :: others) :
    ∃ name' rest rest', ts'.filter (·.label.isNamed) = name' :: rest'.filter (·.label.isNamed) ∧
      others = rest.filter (·.label.isNamed) ∧ name'.text source' = name.text source ∧
      CommentsAdded source source' false rest rest' := by
  generalize hahead : true = nameAhead at h
  induction h with
  | nil => cases hname
  | comment => cases hahead
  | @keep _ t t' ts ts' label field text inside rest ihInside ih =>
      subst hahead
      have named := (commented label field text inside).isNamed_eq
      rw [List.filter_cons] at hname
      rw [List.filter_cons, named]
      cases hnamed : t.label.isNamed with
      | true =>
          rw [hnamed] at hname rest
          obtain ⟨rfl, rfl⟩ := List.cons.inj hname
          exact ⟨t', ts, ts', rfl, rfl, text (by simp [isText, hnamed]), rest⟩
      | false =>
          rw [hnamed] at hname ih
          exact ih hname rfl

theorem head? (h : CommentsAdded source source' false ts ts') :
    (∃ u, (ts'.filter (·.label.isNamed)).head? = some u ∧ u.type = "comment") ∨
      Option.Rel (Commented source source') (ts.filter (·.label.isNamed)).head?
        (ts'.filter (·.label.isNamed)).head? := by
  generalize hahead : false = nameAhead at h
  induction h with
  | nil => exact .inr .none
  | comment isComment named _ _ _ =>
      rw [List.filter_cons_of_pos (by exact named)]
      exact .inl ⟨_, rfl, isComment⟩
  | @keep _ t t' ts ts' label field text inside rest ihInside ih =>
      subst hahead
      have kept := commented label field text inside
      rw [List.filter_cons, List.filter_cons, kept.isNamed_eq]
      cases t.label.isNamed with
      | true => exact .inr (.some kept)
      | false => exact ih rfl

theorem length_named_le (h : CommentsAdded source source' nameAhead ts ts') :
    (ts.filter (·.label.isNamed)).length ≤ (ts'.filter (·.label.isNamed)).length := by
  induction h with
  | nil => exact Nat.le_refl _
  | comment _ named _ _ ih =>
      rw [List.filter_cons_of_pos (by exact named), List.length_cons]
      exact Nat.le_succ_of_le ih
  | @keep _ t t' _ _ label field text inside _ _ ih =>
      rw [List.filter_cons, List.filter_cons, (commented label field text inside).isNamed_eq]
      cases t.label.isNamed with
      | true => exact Nat.succ_le_succ ih
      | false => exact ih

theorem length_dropWhile_le (h : CommentsAdded source source' nameAhead ts ts') :
    ((ts.filter (·.label.isNamed)).dropWhile (·.type == "comment")).length ≤
      ((ts'.filter (·.label.isNamed)).dropWhile (·.type == "comment")).length := by
  induction h with
  | nil => exact Nat.le_refl _
  | @comment c ts ts' isComment named _ _ ih =>
      rw [List.filter_cons_of_pos (by exact named), List.dropWhile_cons_of_pos]
      · exact ih
      · exact beq_iff_eq.mpr isComment
  | @keep _ t t' ts ts' label field text inside rest _ ih =>
      have kept := commented label field text inside
      rw [List.filter_cons, List.filter_cons, kept.isNamed_eq]
      cases t.label.isNamed with
      | false => exact ih
      | true =>
          rw [if_pos rfl, if_pos rfl, List.dropWhile_cons, List.dropWhile_cons, kept.type_eq]
          cases t.type == "comment" with
          | true => exact ih
          | false => exact Nat.succ_le_succ rest.length_named_le

end CommentsAdded

end SyntaxTree

end UsedSelectors
