import UsedSelectors.Parsing.Language
import UsedSelectors.Parsing.SyntaxTree

/-!
# Subtrees

Nodes as the parser builds them. All places are counted in characters of the text. A subtree knows
what its errors cost: the parser follows the readings that cost least.
-/

namespace UsedSelectors.Parsing

structure SubtreeInfo where
  symbol : Nat
  front : Nat
  start : Nat
  stop : Nat
  isExtra : Bool := false
  isMissing : Bool := false
  isKeyword : Bool := false
  lexState : Nat := 0
  shape : Nat := 0
  shownChildren : Nat := 0
  shownBelow : Nat := 0
  ownCost : Nat := 0
  preference : Int := 0
  deriving Inhabited

inductive Subtree where
  | node (info : SubtreeInfo) (children : List Subtree)
  deriving Inhabited

namespace Subtree

def info : Subtree → SubtreeInfo
  | node i _ => i

def children : Subtree → List Subtree
  | node _ cs => cs

def modify (f : SubtreeInfo → SubtreeInfo) : Subtree → Subtree
  | node i cs => node (f i) cs

def symbol (t : Subtree) : Nat := t.info.symbol

def costPerRecovery : Nat := 500

def costPerMissing : Nat := 110

def costPerSkippedTree : Nat := 100

def costPerSkippedByte : Nat := 1

def costPerSkippedLine : Nat := 30

def cost (t : Subtree) : Nat :=
  if t.info.isMissing then costPerMissing + costPerRecovery else t.info.ownCost

/-- A token that was read in the text. The end of the text is an extra. -/
def leaf (symbol front start stop lexState : Nat) (isKeyword : Bool) : Subtree :=
  .node { symbol, front, start, stop, lexState, isKeyword, isExtra := symbol == 0 } []

def missing (symbol place : Nat) : Subtree :=
  .node { symbol, front := place, start := place, stop := place, isMissing := true } []

def isErrorSymbol (lang : Language) (symbol : Nat) : Bool :=
  symbol == lang.error || symbol == lang.errorRun

/-- Adds up what the children of a node give it. The aliases are those of the children that are not
extras. -/
def addChildren (lang : Language) : List (Option Alias) → List Subtree → SubtreeInfo → SubtreeInfo
  | _, [], info => info
  | aliases, child :: rest, info =>
    let symbol := child.symbol
    let isShown := (lang.info symbol).isVisible
    let skipped :=
      if isErrorSymbol lang info.symbol && !child.info.isExtra &&
          !(symbol == lang.error && child.children.isEmpty) then
        if isShown then costPerSkippedTree else costPerSkippedTree * child.info.shownChildren
      else 0
    let own := if symbol == lang.errorRun then 0 else child.cost
    let isRenamed := !child.info.isExtra && symbol != 0 && (aliases.head?.join).isSome
    let shown := if isRenamed || isShown then 1 else 0
    let info := { info with
      ownCost := info.ownCost + own + skipped
      preference := info.preference + child.info.preference
      shownBelow := info.shownBelow + child.info.shownBelow + shown
      shownChildren := info.shownChildren + (if shown = 1 then 1 else child.info.shownChildren) }
    addChildren lang (if child.info.isExtra then aliases else aliases.drop 1) rest info

/-- A phrase with its children. A phrase without children stands at `place`. -/
def ofChildren (lang : Language) (source : Source) (symbol shape place : Nat)
    (children : List Subtree) : Subtree :=
  let first := (children.head?.map (·.info)).getD
    { symbol, front := place, start := place, stop := place }
  let stop := (children.getLast?.map (·.info.stop)).getD place
  let info := addChildren lang (lang.shape shape).aliases children
    { symbol, front := first.front, start := first.start, stop, shape }
  let penalty :=
    if isErrorSymbol lang symbol then
      costPerRecovery + costPerSkippedByte * source.bytesBetween info.start info.stop +
        costPerSkippedLine * source.rowsBetween info.start info.stop
    else 0
  .node { info with ownCost := info.ownCost + penalty } children

/-- How many nodes a subtree adds to those that show. Tokens passed over count, so that progress is
seen. -/
def weight (lang : Language) (t : Subtree) : Nat :=
  t.info.shownBelow + (if (lang.info t.symbol).isVisible then 1 else 0) +
    if t.symbol == lang.errorRun then 1 else 0

def splitTrailing (children : List Subtree) : List Subtree × List Subtree :=
  let back := children.reverse
  let extras := back.takeWhile (·.info.isExtra)
  ((back.drop extras.length).reverse, extras.reverse)

mutual

/-- An order of subtrees: by symbol, by number of children, then by the children. -/
def order (lang : Language) : Subtree → Subtree → Ordering
  | .node i cs, .node j ds =>
    let rank := fun symbol => lang.ranks.getD symbol symbol
    (compare (rank i.symbol) (rank j.symbol)).then <|
      (compare cs.length ds.length).then (orderList lang cs ds)

def orderList (lang : Language) : List Subtree → List Subtree → Ordering
  | c :: cs, d :: ds => (order lang c d).then (orderList lang cs ds)
  | _, _ => .eq

end

/-- Whether the second of two readings of the same text is better: it costs less, or it is
preferred, or it comes first in the order. -/
def isBetter (lang : Language) (left right : Subtree) : Bool :=
  if right.cost != left.cost then right.cost < left.cost
  else if right.info.preference != left.info.preference then
    left.info.preference < right.info.preference
  else if 0 < left.cost then true
  else left.order lang right == .gt

def isEquivalent (source : Source) (left right : Subtree) : Bool :=
  left.symbol == right.symbol &&
    ((0 < left.cost && 0 < right.cost) ||
      (source.bytesBetween left.info.front left.info.start ==
          source.bytesBetween right.info.front right.info.start &&
        source.bytesBetween left.info.start left.info.stop ==
          source.bytesBetween right.info.start right.info.stop &&
        left.children.length == right.children.length &&
        left.info.isExtra == right.info.isExtra))

end Subtree

namespace SyntaxTree

def fillFirst (field : Option String) : List SyntaxTree → List SyntaxTree
  | .node label own children :: rest => .node label (own <|> field) children :: rest
  | [] => []

mutual

/-- The nodes that show of a subtree: itself under its own name or an alias, or its children. -/
def ofSubtree (lang : Language) (source : Source) (shownAs : Option Alias)
    (field : Option String) : Subtree → List SyntaxTree
  | .node info children =>
    let symbol := lang.info info.symbol
    let shape := lang.shape info.shape
    let below := ofSubtrees lang source shape 0 children
    let name := match shownAs with
      | some other => if info.symbol = 0 then none else some (other.name, other.isNamed)
      | none => if symbol.isVisible then some (symbol.name, symbol.isNamed) else none
    match name with
    | none => fillFirst field below
    | some (type, isNamed) =>
      [.node { type, isNamed, isMissing := info.isMissing
               hasError := info.isMissing || info.ownCost != 0
               start := source.bytes.getD info.start 0
               stop := source.bytes.getD info.stop 0
               row := source.rows.getD info.start 0 } field below]

/-- The nodes that show of the children of a node; `place` counts those that are not extras. -/
def ofSubtrees (lang : Language) (source : Source) (shape : NodeShape) (place : Nat) :
    List Subtree → List SyntaxTree
  | [] => []
  | child :: rest =>
    if child.info.isExtra then
      ofSubtree lang source none none child ++ ofSubtrees lang source shape place rest
    else
      let field := (shape.fields.find? fun entry => entry.1 == place && !entry.2.2).map (·.2.1)
      ofSubtree lang source (shape.aliases[place]?).join field child ++
        ofSubtrees lang source shape (place + 1) rest

end

end SyntaxTree

end UsedSelectors.Parsing
