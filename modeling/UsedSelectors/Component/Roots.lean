import UsedSelectors.Component.Failure
import UsedSelectors.Markup.CharacterReference
import UsedSelectors.Script.Escape
import UsedSelectors.Tree

/-!
# Component trees

The trees of a module are the elements that its exported function declarations return, in the
order of the text. Default exports do not count, and only return statements directly in the body
of a function do. Comments and parentheses around what is returned are passed over.

An attribute of such an element has a literal value when it is a plain string, or when its braces
hold a single string or a template without substitutions. A plain string is read as markup, with
character references; a literal in braces is read as script, with escapes.
-/

/-! ## Literal values -/

namespace UsedSelectors.Component

/-- The first child that has a name of its own and is no comment. -/
def firstNamed? (t : SyntaxTree) : Option SyntaxTree :=
  t.namedChildren.find? (·.type != "comment")

def afterFirstNamed (t : SyntaxTree) : List SyntaxTree :=
  (t.namedChildren.dropWhile (·.type == "comment")).drop 1

def insideQuotes (cs : List Char) : List Char := (cs.drop 1).dropLast

def quotedText (source : ByteArray) (t : SyntaxTree) : Except Failure (List Char) :=
  ((t.text source).mapError .undecodable).map insideQuotes

def isScriptLiteral (t : SyntaxTree) : Bool :=
  t.type == "string" ||
    (t.type == "template_string" && t.namedChildren.all (·.type != "template_substitution"))

def literalValue? (source : ByteArray) (value : SyntaxTree) : Except Failure (Option Text) :=
  if value.type = "string" then do
    let cs ← quotedText source value
    let decoded ← (Markup.CharacterReference.decode cs).mapError .tooManyDigits
    return some (Text.ofChars decoded)
  else if value.type = "jsx_expression" then
    match firstNamed? value with
    | none => .ok none
    | some inner =>
      if !(afterFirstNamed value).isEmpty || !isScriptLiteral inner then .ok none
      else do
        let cs ← quotedText source inner
        return some (Script.Escape.decode cs)
  else .ok none

/-- The attribute that a node stands for: its first named child is the name, the second one the
value. -/
def attributeOf (source : ByteArray) (t : SyntaxTree) : Except Failure Attribute := do
  let value ← match t.namedChildren[1]? with
    | none => pure none
    | some value => literalValue? source value
  match t.namedChildren.head? with
  | none => .error .unnamedAttribute
  | some name =>
    let cs ← (name.text source).mapError .undecodable
    return ⟨String.ofList cs, value⟩

/-! ## Returned elements -/

def exportedBody? (statement : SyntaxTree) : Option SyntaxTree :=
  if statement.type != "export_statement" then none
  else if statement.children.any (·.type == "default") then none
  else
    match statement.child? "declaration" with
    | none => none
    | some declaration =>
      if declaration.type == "function_declaration" ||
          declaration.type == "generator_function_declaration" then
        declaration.child? "body"
      else none

/-- The opening tag of an element that has a name; a fragment has none. -/
def openingTag? (t : SyntaxTree) : Option SyntaxTree :=
  let opening :=
    if t.type == "jsx_self_closing_element" then some t
    else if t.type == "jsx_element" then t.child? "open_tag"
    else none
  opening.filter (fun tag => (tag.child? "name").isSome)

theorem size_le_of_mem {t : SyntaxTree} {ts : List SyntaxTree} (h : t ∈ ts) :
    t.size ≤ SyntaxTree.sizeList ts := by
  induction ts with
  | nil => simp at h
  | cons u us ih =>
    simp only [SyntaxTree.sizeList]
    rcases List.mem_cons.mp h with rfl | h
    · omega
    · have := ih h; omega

theorem size_lt_of_firstNamed? {t inner : SyntaxTree} (h : firstNamed? t = some inner) :
    inner.size < t.size := by
  have hm : inner ∈ t.children :=
    (List.mem_filter.mp (List.mem_of_find?_eq_some h)).1
  have := size_le_of_mem hm
  rw [t.size_eq]; omega

def unparenthesized? (t : SyntaxTree) : Option SyntaxTree :=
  if t.type = "parenthesized_expression" then
    match _h : firstNamed? t with
    | none => none
    | some inner => unparenthesized? inner
  else some t
termination_by t.size
decreasing_by exact size_lt_of_firstNamed? _h

theorem unparenthesized?_eq (t : SyntaxTree) :
    unparenthesized? t =
      if t.type = "parenthesized_expression" then (firstNamed? t).bind unparenthesized?
      else some t := by
  rw [unparenthesized?]
  split
  · split
    · rename_i h
      rw [h, Option.bind_none]
    · rename_i h
      rw [h, Option.bind_some]
  · rfl

def returnedElement? (statement : SyntaxTree) : Option SyntaxTree :=
  if statement.type != "return_statement" then none
  else
    ((firstNamed? statement).bind unparenthesized?).filter (fun t => (openingTag? t).isSome)

def attributesOf (source : ByteArray) (tag : SyntaxTree) : Except Failure (List Attribute) :=
  (tag.namedChildren.filter (·.type == "jsx_attribute")).mapM (attributeOf source)

/-- What a node of a component is: an element if it has an opening tag with a name. -/
def shapeOf (source : ByteArray) (t : SyntaxTree) : Except Failure Shape :=
  match openingTag? t with
  | none => .ok (.other t.type)
  | some tag => do
    let attributes ← attributesOf source tag
    match tag.child? "name" with
    | none => return .other t.type
    | some name =>
      let cs ← (name.text source).mapError .undecodable
      return .element (String.ofList cs) attributes

def contentOf (t : SyntaxTree) : List SyntaxTree :=
  if t.type == "jsx_element" then
    t.namedChildren.filter
      (fun c => c.type != "jsx_opening_element" && c.type != "jsx_closing_element")
  else []

theorem sizeList_eq_totalWeight (ts : List SyntaxTree) :
    SyntaxTree.sizeList ts = totalWeight SyntaxTree.size ts := by
  induction ts with
  | nil => rfl
  | cons t ts ih => simp [SyntaxTree.sizeList, ih]

def view (source : ByteArray) : TreeView SyntaxTree Failure where
  shape := shapeOf source
  children := contentOf
  weight := SyntaxTree.size
  children_lt t := by
    rw [← sizeList_eq_totalWeight, t.size_eq]
    unfold contentOf SyntaxTree.namedChildren
    split
    · have := SyntaxTree.sizeList_filter_le
        (fun c => c.type != "jsx_opening_element" && c.type != "jsx_closing_element")
        (t.children.filter (·.label.isNamed))
      have := SyntaxTree.sizeList_filter_le (·.label.isNamed) t.children
      omega
    · simp [SyntaxTree.sizeList]

def returnedElements (root : SyntaxTree) : List SyntaxTree :=
  (root.namedChildren.filterMap exportedBody?).flatMap
    (fun body => body.namedChildren.filterMap returnedElement?)

def rootsOf (source : ByteArray) (root : SyntaxTree) : Except Failure (List Node) :=
  if root.label.hasError then .error (syntaxFailure source root)
  else (returnedElements root).mapM (view source).build

end UsedSelectors.Component
