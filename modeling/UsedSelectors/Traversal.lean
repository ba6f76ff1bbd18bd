import UsedSelectors.Selector
import UsedSelectors.Text.Quoted

/-!
# Walking a tree

Selectors are listed either level by level, every element of one depth before the next depth, or
in pre-order, an element before what is inside it. Only elements lead on to deeper nodes.
-/

namespace UsedSelectors

inductive Order where
  /-- All elements of a depth, then those one deeper. -/
  | level
  /-- An element, then the elements inside it. -/
  | pre
  deriving DecidableEq, Inhabited

structure UnknownOrder where
  name : String

namespace UnknownOrder

def message (e : UnknownOrder) : String := s!"Unknown traversal order: {quoted e.name}"

end UnknownOrder

namespace Order

def name : Order → String
  | level => "level"
  | pre => "pre"

def ofName (name : String) : Except UnknownOrder Order :=
  if name = level.name then .ok level
  else if name = pre.name then .ok pre
  else .error ⟨name⟩

end Order

namespace Node

theorem sizeList_append (a b : List Node) : sizeList (a ++ b) = sizeList a + sizeList b := by
  induction a with
  | nil => simp [sizeList]
  | cons n ns ih => simp [sizeList, ih]; omega

def nextLevel (level : List Node) : List Node := level.flatMap Node.children

theorem sizeList_nextLevel (level : List Node) :
    sizeList (nextLevel level) + level.length = sizeList level := by
  induction level with
  | nil => simp [nextLevel, sizeList]
  | cons n ns ih =>
    have h : sizeList (n.children) + 1 = n.size := by cases n <;> simp [children, size, sizeList]
    simp only [nextLevel, List.flatMap_cons, sizeList_append, List.length_cons, sizeList]
    simp only [nextLevel] at ih
    omega

def attributes? : Node → Option (List Attribute)
  | element _ as _ => some as
  | other _ => none

def attributeLists (level : List Node) : List (List Attribute) := level.filterMap attributes?

def levelSelectors (kind : SelectorKind) (level : List Node) : List Text :=
  (attributeLists level).flatMap kind.ofAttributes

/-- The selectors of a level and of all levels below it. A level without elements is the last one,
whatever other nodes are on it. -/
def walkLevels (kind : SelectorKind) (level : List Node) : List Text :=
  if (attributeLists level).isEmpty then []
  else levelSelectors kind level ++ walkLevels kind (nextLevel level)
termination_by sizeList level
decreasing_by
  have := sizeList_nextLevel level
  cases level with
  | nil => simp [attributeLists] at *
  | cons n ns => simp only [List.length_cons] at this; omega

/-- The selectors of a list of nodes still to be visited, the first one with all that is inside it
before the rest. -/
def walkPre (kind : SelectorKind) : List Node → List Text
  | [] => []
  | other _ :: rest => walkPre kind rest
  | element _ attributes children :: rest =>
    kind.ofAttributes attributes ++ walkPre kind (children ++ rest)
termination_by pending => sizeList pending
decreasing_by
  · simp [sizeList, size]
  · simp [sizeList, size, sizeList_append]

theorem walkPre_append (kind : SelectorKind) (first rest : List Node) :
    walkPre kind (first ++ rest) = walkPre kind first ++ walkPre kind rest := by
  induction first using walkPre.induct with
  | case1 => simp [walkPre]
  | case2 _ others ih => simpa [walkPre] using ih
  | case3 _ attributes children others ih => simpa [walkPre] using ih

end Node

def Order.walk (order : Order) (kind : SelectorKind) (roots : List Node) : List Text :=
  match order with
  | .level => Node.walkLevels kind roots
  | .pre => Node.walkPre kind roots

end UsedSelectors
