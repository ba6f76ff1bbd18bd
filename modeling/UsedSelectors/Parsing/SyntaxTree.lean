/-!
# Syntax trees

What a parser makes of a text: nodes with a type, a range of bytes and children. Nodes that stand
for something the text lacks are missing nodes, and a node of type `ERROR` holds what could not be
read. A child may fill a field of its parent.
-/

namespace UsedSelectors

/-- What is said about a node of a syntax tree, apart from its place. -/
structure SyntaxLabel where
  type : String
  /-- Whether it has a name of its own, unlike a mark or a keyword. -/
  isNamed : Bool
  /-- Whether the text lacks it. -/
  isMissing : Bool
  hasError : Bool
  /-- The first byte. -/
  start : Nat
  stop : Nat
  /-- The row of the first byte, from zero. -/
  row : Nat
  deriving DecidableEq, Inhabited

inductive SyntaxTree where
  | node (label : SyntaxLabel) (field : Option String) (children : List SyntaxTree)
  deriving Inhabited

namespace SyntaxTree

def label : SyntaxTree → SyntaxLabel
  | node l _ _ => l

def field : SyntaxTree → Option String
  | node _ f _ => f

def children : SyntaxTree → List SyntaxTree
  | node _ _ cs => cs

def type (t : SyntaxTree) : String := t.label.type

def namedChildren (t : SyntaxTree) : List SyntaxTree :=
  t.children.filter (·.label.isNamed)

def child? (t : SyntaxTree) (field : String) : Option SyntaxTree :=
  t.children.find? (fun c => c.field == some field)

mutual

def size : SyntaxTree → Nat
  | node _ _ cs => sizeList cs + 1

def sizeList : List SyntaxTree → Nat
  | [] => 0
  | t :: ts => size t + sizeList ts

end

theorem size_eq (t : SyntaxTree) : t.size = sizeList t.children + 1 := by
  cases t; simp [size, children]

theorem sizeList_append (a b : List SyntaxTree) : sizeList (a ++ b) = sizeList a + sizeList b := by
  induction a with
  | nil => simp [sizeList]
  | cons t ts ih => simp [sizeList, ih, Nat.add_assoc]

theorem sizeList_filter_le (p : SyntaxTree → Bool) (ts : List SyntaxTree) :
    sizeList (ts.filter p) ≤ sizeList ts := by
  induction ts with
  | nil => simp
  | cons t ts ih =>
    by_cases h : p t
    · simp [List.filter, h, sizeList, ih]
    · simp [List.filter, h, sizeList]; omega

end SyntaxTree

end UsedSelectors
