import Std.Data.HashMap
import UsedSelectors.Parsing.Production

/-!
# Items

An item is a production with a place in it up to which it has been read. What was read matters
only as far as the finished node shows it, so items that agree in what is still to come and in
what the node shows are one item. Items are numbered in an order that puts those with less read
first; the numbers stand for the items from then on.
-/

namespace UsedSelectors.Parsing

structure Item where
  phrase : Nat
  /-- The production. Of the steps that were read only what the node shows is kept. -/
  production : Production
  read : Nat
  inherits : Bool
  deriving BEq, Hashable, Inhabited

namespace Precedence

def order : Precedence → Precedence → Ordering
  | .unset, .unset => .eq
  | .unset, _ => .lt
  | _, .unset => .gt
  | .level m, .level n => compare m n
  | .level _, .named _ => .lt
  | .named _, .level _ => .gt
  | .named s, .named t => compare s t

end Precedence

def orderOption {α : Type} (order : α → α → Ordering) : Option α → Option α → Ordering
  | none, none => .eq
  | none, some _ => .lt
  | some _, none => .gt
  | some a, some b => order a b

namespace Step

/-- The order of the symbols: tokens of the scanner, tokens of the lexer, phrases. -/
def symbolKey : Sym → Nat × Nat
  | .scanned i => (0, i)
  | .token i => (1, i)
  | .rule i => (2, i)

def orderAlias (a b : Alias) : Ordering :=
  (compare a.name b.name).then (compare a.isNamed.toNat b.isNamed.toNat)

def orderShown (a b : Step) : Ordering :=
  (orderOption orderAlias a.shownAs b.shownAs).then (orderOption compare a.field b.field)

def associativityKey : Option Associativity → Nat
  | none => 0
  | some .left => 1
  | some .right => 2

def order (a b : Step) : Ordering :=
  let s := symbolKey a.symbol
  let t := symbolKey b.symbol
  (compare s.1 t.1).then <| (compare s.2 t.2).then <|
    (a.precedence.order b.precedence).then <|
    (compare (associativityKey a.associativity) (associativityKey b.associativity)).then <|
    orderShown a b

def orderList : Nat → List Step → List Step → Ordering
  | read, a :: as, b :: bs =>
    (if 0 < read then orderShown a b else order a b).then (orderList (read - 1) as bs)
  | _, _, _ => .eq

end Step

namespace Item

def last? (item : Item) : Option Step :=
  if item.read = 0 then none else item.production.steps[item.read - 1]?

def next? (item : Item) : Option Step := item.production.steps[item.read]?

def precedence (item : Item) : Precedence :=
  match item.last? with
  | some step => step.precedence
  | none => .unset

def associativity (item : Item) : Option Associativity := item.last?.bind (·.associativity)

/-- Keeps of a step that was read only what the node shows; the last one also keeps how it binds,
and the symbol is kept where fields are passed on. -/
def forget (inherits isLast : Bool) (step : Step) : Step where
  symbol := if inherits then step.symbol else .token 0
  precedence := if isLast then step.precedence else .unset
  associativity := if isLast then step.associativity else none
  shownAs := step.shownAs
  field := step.field

def normal (item : Item) : Item :=
  { item with production := { item.production with
      steps := item.production.steps.zipIdx.map fun (step, i) =>
        if i < item.read then forget item.inherits (i + 1 == item.read) step else step } }

def order (a b : Item) : Ordering :=
  (compare a.read b.read).then <| (compare a.phrase b.phrase).then <|
    (compare a.production.preference b.production.preference).then <|
    (compare a.production.steps.length b.production.steps.length).then <|
    (a.precedence.order b.precedence).then <|
    (compare (Step.associativityKey a.associativity)
      (Step.associativityKey b.associativity)).then <|
    (compare a.inherits.toNat b.inherits.toNat).then <|
    Step.orderList a.read a.production.steps b.production.steps

end Item

structure Phrases where
  source : Separated
  phrases : Array Phrase
  fields : Array (List String)

namespace Phrases

def isHidden (g : Phrases) (phrase : Nat) : Bool :=
  match g.phrases[phrase]? with
  | some p => p.visibility == .hidden || p.visibility == .auxiliary
  | none => false

def joinFields (found more : List String) : List String :=
  more.foldl (fun found name => if found.contains name then found else found ++ [name]) found

def fieldsOf (source : Separated) (phrases : Array Phrase) (fields : Array (List String))
    (phrase : Phrase) : List String :=
  (phrase.productions.flatMap (·.steps)).foldl (fun found step =>
    let found := joinFields found step.field.toList
    match step.symbol with
    | .rule i =>
      let child := phrases.getD i default
      if step.shownAs.isNone && !source.groups.contains i &&
          (child.visibility == .hidden || child.visibility == .auxiliary) then
        joinFields found (fields.getD i [])
      else found
    | _ => found) []

/-- The phrases of a grammar. Fields are passed on through a few hidden phrases at most. -/
def ofPhrases (source : Separated) (phrases : Array Phrase) : Phrases where
  source := source
  phrases := phrases
  fields := (List.range 12).foldl (fun fields _ =>
    phrases.map (fieldsOf source phrases fields)) (phrases.map fun _ => [])

def successor (g : Phrases) (item : Item) : Item :=
  let passes := match item.next? with
    | some step => match step.symbol with
      | .rule i => g.isHidden i && !(g.fields.getD i []).isEmpty
      | _ => false
    | none => false
  { item with read := item.read + 1, inherits := item.inherits || passes }

/-- Puts a production of an inlined phrase in the place of a step. What holds for the step holds
for what it is replaced by. -/
def inlineAt (outer : Production) (read : Nat) (step : Step) (inner : Production) : Production :=
  let steps := inner.steps.map fun s =>
    { s with
      shownAs := step.shownAs <|> s.shownAs
      field := step.field <|> s.field }
  let last := fun (s : Step) =>
    { s with
      precedence := if s.precedence == .unset then step.precedence else s.precedence
      associativity := s.associativity <|> step.associativity }
  let steps := match steps.getLast? with
    | some s => steps.dropLast ++ [last s]
    | none => steps
  { steps := outer.steps.take read ++ steps ++ outer.steps.drop (read + 1)
    preference := Production.strongerPreference outer.preference inner.preference }

/-- The productions that stand for one whose next step is an inlined phrase; inlined phrases are
nested `depth` deep at most. -/
def expand (g : Phrases) : Nat → Nat → Production → List Production
  | 0, _, production => [production]
  | depth + 1, read, production =>
    match production.steps[read]? with
    | some step => match step.symbol with
      | .rule i =>
        if g.source.inlined.contains i then
          ((g.phrases.getD i default).productions.map
            (inlineAt production read step)).flatMap (g.expand depth read)
        else [production]
      | _ => [production]
    | none => [production]

def expandItem (g : Phrases) (item : Item) : List Item :=
  ((g.expand 12 item.read item.production).map fun p => { item with production := p }).eraseDups

def openings (g : Phrases) (phrase : Nat) : List Item :=
  ((g.phrases.getD phrase default).productions.flatMap fun p =>
    g.expandItem ⟨phrase, p, 0, false⟩).eraseDups

def start (g : Phrases) : Item :=
  ⟨g.phrases.size, ⟨[⟨.rule 0, .unset, none, none, none⟩], 0⟩, 0, false⟩

/-- All items that reading can lead to: those that phrases start with, and those after a step. -/
def items (g : Phrases) : Array Item := Id.run do
  let mut known : Std.HashMap Item Unit := {}
  let mut queue : Array Item := #[]
  for item in g.start :: (List.range g.phrases.size).flatMap g.openings do
    if !known.contains item then
      known := known.insert item ()
      queue := queue.push item
  -- the numbers of items are far below this bound
  for i in [0:1000000] do
    match queue[i]? with
    | none => break
    | some item =>
      let more := (if item.next?.isSome then [(g.successor item).normal] else []) ++
        (g.expandItem item).map Item.normal
      for next in more do
        if !known.contains next then
          known := known.insert next ()
          queue := queue.push next
  return queue.qsort fun a b => a.order b == .lt

end Phrases

end UsedSelectors.Parsing
