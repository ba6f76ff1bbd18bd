import UsedSelectors.Parsing.Closure

/-!
# The table of actions

A state of the parser is a set of items. For each token a state has a list of actions: to finish a
phrase, or to take the token and go to another state. Precedences and associations decide between
several actions as far as they can; what they leave open is tried side by side.
-/

namespace UsedSelectors.Parsing

/-- What a node shows beyond its phrase: the names its children are shown under, and the fields
they fill; an inherited field is one that a hidden child passes on. -/
structure NodeShape where
  aliases : List (Option Alias)
  fields : List (Nat × String × Bool)
  deriving BEq, Hashable, Inhabited

inductive Action where
  /-- Takes the token and goes to a state. A shift that only competes with the end of a repetition
  is marked. -/
  | shift (state : Nat) (isRepetition : Bool)
  | shiftExtra
  /-- Finishes a phrase of `count` steps; `shape` is the number of its node shape. -/
  | reduce (symbol count : Nat) (preference : Int) (shape : Nat)
  | accept
  | recover
  deriving BEq, Hashable, Inhabited

/-- A state of the parser: the actions for each token, and the state after each phrase. -/
structure TableState where
  core : Nat
  actions : Array (List Action)
  /-- The state after each phrase, plus one; zero where a phrase cannot follow. -/
  gotos : Array Nat
  deriving Inhabited

/-- The states of the parser. State 0 is for errors, and parsing starts in state 1. -/
structure Table where
  states : Array TableState
  /-- The node shapes; the first one is plain. -/
  shapes : Array NodeShape
  deriving Inhabited

namespace Precedence

def hasRank (names : List String) (p : Precedence) : Rank → Bool
  | .precedence n => p == .named n
  | .rule n => names.contains n

/-- Compares two places in one list of ranks; the first one met binds more tightly. -/
def compareIn (left right : Rank → Bool) : List Rank → Bool → Bool → Option Ordering
  | [], _, _ => none
  | rank :: rest, sawLeft, sawRight =>
    if left rank then
      if sawRight then some .lt else compareIn left right rest true sawRight
    else if right rank then
      if sawLeft then some .gt else compareIn left right rest sawLeft true
    else compareIn left right rest sawLeft sawRight

/-- Which of two constructs binds more tightly. Numbers are compared with one another, where
nothing said counts as zero; names by the first list that has both of them or of their phrases. -/
def compare (ranks : List (List Rank)) (left : Precedence) (leftNames : List String)
    (right : Precedence) (rightNames : List String) : Ordering :=
  let byName := (ranks.findSome? fun list =>
    compareIn (hasRank leftNames left) (hasRank rightNames right) list false false).getD .eq
  match left, right with
  | .level m, .level n => if m != 0 || n != 0 then Ord.compare m n else byName
  | .level m, .unset => if m != 0 then Ord.compare m 0 else byName
  | .unset, .level n => if n != 0 then Ord.compare 0 n else byName
  | _, _ => byName

end Precedence

structure Finishing where
  precedence : Precedence := .unset
  phrases : List Nat := []
  left : Bool := false
  right : Bool := false
  neither : Bool := false
  deriving Inhabited

structure TableBuilder where
  table : ItemTable
  ranks : List (List Rank)
  sets : Array ItemSet
  stateOf : Std.HashMap ItemSet Nat
  coreOf : Std.HashMap (Array Nat) Nat
  cores : Array Nat
  shapes : Array NodeShape
  states : Array TableState

namespace TableBuilder

def state (b : TableBuilder) (set : ItemSet) : Nat × TableBuilder :=
  match b.stateOf[set]? with
  | some i => (i, b)
  | none =>
    let i := b.sets.size
    let core := b.coreOf.getD set.items b.coreOf.size
    (i, { b with
      sets := b.sets.push set
      stateOf := b.stateOf.insert set i
      coreOf := b.coreOf.insertIfNew set.items core
      cores := b.cores.push core })

def shape (b : TableBuilder) (shape : NodeShape) : Nat × TableBuilder :=
  match b.shapes.findIdx? (· == shape) with
  | some i => (i, b)
  | none => (b.shapes.size, { b with shapes := b.shapes.push shape })

end TableBuilder

namespace ItemTable

def nameOf (table : ItemTable) (phrase : Nat) : String :=
  (table.phrases.phrases.getD phrase default).name

def shapeOf (table : ItemTable) (item : Item) : NodeShape where
  aliases := ((item.production.steps.map (·.shownAs)).reverse.dropWhile (·.isNone)).reverse
  fields := item.production.steps.zipIdx.flatMap fun (step, i) =>
    (step.field.toList.map fun name => (i, name, false)) ++
      match step.symbol with
      | .rule child =>
        if item.inherits && table.phrases.isHidden child then
          (table.phrases.fields.getD child []).map fun name => (i, name, true)
        else []
      | _ => []

/-- The items of a closure with what may follow them: those that phrases start with, then those
that it was made from. -/
def entries (table : ItemTable) (closure : Closure) : Array (Nat × TokenSet) :=
  (closure.phrases.flatMap fun (phrase, tokens) =>
    (table.openingItems.getD phrase #[]).map fun item => (item, tokens)) ++
  closure.kernel.items.zip closure.kernel.follow

end ItemTable

namespace TableBuilder

/-- Adds the action of a finished item before a token. An action that binds more tightly than
those before replaces them, one that binds less tightly is left out. -/
def addFinished (b : TableBuilder) (info : ItemInfo) (action : Action)
    (actions : List Action) (known : Finishing) : List Action × Finishing :=
  let name := b.table.nameOf info.phrase
  let names := known.phrases.map b.table.nameOf
  let order := if actions.isEmpty then .eq
    else Precedence.compare b.ranks info.precedence [name] known.precedence names
  if order == .lt then (actions, known)
  else
    let known := if order == .gt then {} else known
    let actions := if order == .gt then [action] else actions ++ [action]
    (actions, { known with
      precedence := info.precedence
      phrases := if known.phrases.contains info.phrase then known.phrases
        else info.phrase :: known.phrases
      left := known.left || info.associativity == some .left
      right := known.right || info.associativity == some .right
      neither := known.neither || info.associativity == none })

/-- Decides between finishing phrases and taking a token. `competing` are the items that would take
the token, with their precedences. -/
def decide (b : TableBuilder) (reduces : List Action) (shift : Nat) (known : Finishing)
    (competing : List ItemInfo) (finished : List Nat) : List Action :=
  let phrases : List Nat := finished ++ competing.map (·.phrase)
  let isRepetition : Bool := match phrases with
    | first :: _ =>
      (b.table.phrases.phrases.getD first default).visibility == .auxiliary &&
        phrases.all fun p => p == first
    | [] => false
  if isRepetition then reduces ++ [.shift shift true]
  else
    let names := known.phrases.map b.table.nameOf
    let orders := competing.map fun info =>
      Precedence.compare b.ranks info.precedence [b.table.nameOf info.phrase]
        known.precedence names
    let isMore := orders.contains .gt
    let isLess := orders.contains .lt
    if isMore && !isLess then [.shift shift false]
    else if isLess && !isMore then reduces
    else if !isLess && !isMore && known.left && !known.neither && !known.right then reduces
    else if !isLess && !isMore && !known.left && !known.neither && known.right then
      [.shift shift false]
    else reduces ++ [.shift shift false]

def addState (b : TableBuilder) (i : Nat) (extras : List Nat) : TableBuilder := Id.run do
  let g := b.table.phrases
  let mut b := b
  let closure := b.table.close (b.sets.getD i default)
  let entries := b.table.entries closure
  let mut actions : Array (List Action) := Array.replicate g.tokenCount []
  let mut known : Array Finishing := Array.replicate g.tokenCount {}
  let mut moves : Array (Array (Nat × TokenSet)) := Array.replicate g.symbolCount #[]
  for (item, tokens) in entries do
    let info := b.table.infos.getD item default
    match info.next with
    | some symbol => moves := moves.modify symbol (·.push (info.successor, tokens))
    | none =>
      let mut action := Action.accept
      if info.phrase < g.phrases.size then
        let full := b.table.items.getD item default
        let (shape, more) := b.shape (b.table.shapeOf full)
        b := more
        action := .reduce (g.tokenCount + info.phrase) info.read full.production.preference shape
      for token in [0:g.tokenCount] do
        if tokens.testBit token then
          let (list, finishing) := b.addFinished info action (actions.getD token [])
            (known.getD token {})
          actions := actions.set! token list
          known := known.set! token finishing
  let mut gotos : Array Nat := Array.replicate g.phrases.size 0
  for symbol in [0:g.symbolCount] do
    let found := moves.getD symbol #[]
    if !found.isEmpty then
      let (next, more) := b.state (ItemSet.ofEntries found)
      b := more
      if g.tokenCount ≤ symbol then gotos := gotos.set! (symbol - g.tokenCount) (next + 1)
      else
        let reduces := actions.getD symbol []
        if reduces.isEmpty then actions := actions.set! symbol [.shift next false]
        else
          let competing := (entries.toList.map fun e => b.table.infos.getD e.1 default).filter
            fun info => 0 < info.read && match info.next with
              | some s => (b.table.firsts.getD s 0).testBit symbol
              | none => false
          let finished := (entries.toList.filter fun e =>
            e.2.testBit symbol && (b.table.infos.getD e.1 default).next.isNone).map fun e =>
              (b.table.infos.getD e.1 default).phrase
          let list := b.decide reduces next (known.getD symbol {}) competing
            (finished.filter (· < g.phrases.size))
          actions := actions.set! symbol list
  for token in extras do
    if (actions.getD token []).isEmpty then actions := actions.set! token [.shiftExtra]
  return { b with states := b.states.push ⟨b.cores.getD i 0, actions, gotos⟩ }

end TableBuilder

def ItemTable.build (table : ItemTable) (ranks : List (List Rank)) : Table := Id.run do
  let g := table.phrases
  let mut b : TableBuilder := {
    table := table, ranks := ranks, sets := #[], stateOf := {}, coreOf := {}, cores := #[]
    shapes := #[⟨[], []⟩], states := #[] }
  let (_, more) := b.state ⟨#[], #[]⟩
  b := more
  let start := (table.items.findIdx? (· == g.start.normal)).getD 0
  let (_, more) := b.state ⟨#[start], #[TokenSet.single 0]⟩
  b := more
  let extras := g.source.extras.map g.number
  -- the number of states is far below this bound
  for i in [0:1000000] do
    if i < b.sets.size then b := b.addState i extras else break
  return ⟨b.states, b.shapes⟩

end UsedSelectors.Parsing
