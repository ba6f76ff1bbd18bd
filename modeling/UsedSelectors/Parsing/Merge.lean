import UsedSelectors.Parsing.Overlap

/-!
# Merging states

States with the same items can share one set of actions if no token that only one of them takes
could be mistaken for a token of the other. States that only ever finish a hidden phrase of one
step are passed over.
-/

namespace UsedSelectors.Parsing

structure TokenFacts where
  phrases : Phrases
  overlaps : OverlapTable
  together : Array TokenSet
  /-- The words that are matched as names first. -/
  keywords : TokenSet

namespace TableState

def tokens (s : TableState) : TokenSet :=
  s.actions.size.fold (fun i _ (set : Nat) =>
    if (s.actions.getD i []).isEmpty then set else set ||| TokenSet.single i) 0

def mapTargets (f : Nat → Nat) (s : TableState) : TableState :=
  { s with
    actions := s.actions.map fun list => list.map fun
      | .shift next isRepetition => .shift (f next) isRepetition
      | action => action
    gotos := s.gotos.map fun next => if next = 0 then 0 else f (next - 1) + 1 }

def targets (s : TableState) : List Nat :=
  (s.actions.toList.flatMap fun list => list.filterMap fun
    | .shift next _ => some next
    | _ => none) ++
  s.gotos.toList.filterMap fun next => if next = 0 then none else some (next - 1)

def weight (s : TableState) : Nat :=
  s.actions.foldl (fun n list => if list.isEmpty then n else n + 1) 0 +
    s.gotos.foldl (fun n next => if next = 0 then n else n + 1) 0

def join (s t : TableState) : TableState :=
  { s with
    actions := s.actions.zipWith (fun a b => if a.isEmpty then b else a) t.actions
    gotos := s.gotos.zipWith (fun a b => if a = 0 then b else a) t.gotos }

end TableState

/-- States in groups: the members of each group, and the group of each state. -/
structure Grouping where
  members : Array (List Nat)
  groupOf : Array Nat
  deriving Inhabited

namespace Grouping

/-- Goes through the members of a group in order and takes out those that clash with the member at
hand; the others stay. -/
def takeOut (clashes : Nat → Nat → Bool) : List Nat → List Nat × List Nat
  | [] => ([], [])
  | i :: rest =>
    let (stay, out) := takeOut clashes (rest.filter fun j => !clashes i j)
    (i :: stay, rest.filter (clashes i) ++ out)
termination_by members => members.length
decreasing_by
  exact Nat.lt_succ_of_le (by simpa using List.length_filter_le (fun j => !clashes i j.1) rest.attach)

/-- Splits groups until each new group has been looked at once; tells whether anything changed. -/
def split (clashes : Array Nat → Nat → Nat → Bool) (grouping : Grouping) : Grouping × Bool :=
  Id.run do
  let mut members := grouping.members
  let mut groupOf := grouping.groupOf
  let mut changed := false
  -- there are no more groups than states
  for g in [0:1000000] do
    if g < members.size then
      match members.getD g [] with
      | _ :: _ :: _ =>
        let current := groupOf
        let (stay, out) := takeOut (clashes current) (members.getD g [])
        if !out.isEmpty then
          changed := true
          members := members.set! g stay
          for i in out do
            groupOf := groupOf.set! i members.size
          members := members.push out
      | _ => pure ()
    else break
  return (⟨members, groupOf⟩, changed)

end Grouping

namespace TokenFacts

/-- The tokens that no state may be given in addition: those that the scanner has a hand in. -/
def scannedTokens (facts : TokenFacts) : TokenSet :=
  let g := facts.phrases
  g.source.scanned.zipIdx.foldl (fun (set : Nat) (token, i) =>
    set ||| match token.shared with
      | some t => TokenSet.single (g.firstToken + t)
      | none => TokenSet.single (1 + i)) 0

/-- For each token, those that it could be mistaken for; a name and a keyword do not count. -/
def clashMasks (facts : TokenFacts) : Array TokenSet :=
  let g := facts.phrases
  let n := g.source.tokens.size
  let word := g.source.word
  let mask := fun i => n.fold (fun j _ (set : Nat) =>
    if (word == j && facts.keywords.testBit i) || (word == i && facts.keywords.testBit j) ||
        !(facts.overlaps.get i j).conflicts then set
    else set ||| TokenSet.single (g.firstToken + j)) 0
  (Array.range g.tokenCount).map fun token =>
    if token < g.firstToken then 0 else mask (token - g.firstToken)

def forbidden (scanned : TokenSet) (masks : Array TokenSet) (tokens : TokenSet) : TokenSet :=
  masks.size.fold (fun token _ (set : Nat) =>
    if (masks.getD token 0) &&& tokens = 0 then set else set ||| TokenSet.single token) scanned

end TokenFacts

structure MergeView where
  tokens : TokenSet
  forbidden : TokenSet
  actions : List (Nat × List Action)
  targets : List (Nat × Nat)
  /-- The state that each symbol leads to, plus one; zero for none. -/
  targetOf : Array Nat
  deriving Inhabited

namespace Table

def actionsDiffer (groupOf : Array Nat) : List Action → List Action → Bool
  | [], [] => false
  | .shift s r :: as, .shift t q :: bs =>
    groupOf.getD s 0 != groupOf.getD t 0 || r != q || actionsDiffer groupOf as bs
  | a :: as, b :: bs => a != b || actionsDiffer groupOf as bs
  | _, _ => true

def target? (actions : List Action) : Option Nat :=
  match actions.getLast? with
  | some (.shift next _) => some next
  | _ => none

def viewOf (scanned : TokenSet) (masks : Array TokenSet) (s : TableState) : MergeView :=
  let targetOf := (s.actions.map fun list => match target? list with
    | some next => next + 1
    | none => 0) ++ s.gotos
  { tokens := s.tokens
    forbidden := TokenFacts.forbidden scanned masks s.tokens
    actions := (s.actions.zipIdx.filter fun entry => !entry.1.isEmpty).toList.map fun entry =>
      (entry.2, entry.1)
    targets := (targetOf.zipIdx.filter fun entry => entry.1 != 0).toList.map fun entry =>
      (entry.2, entry.1 - 1)
    targetOf := targetOf }

def statesClash (states : Array TableState) (views : Array MergeView) (groupOf : Array Nat)
    (i j : Nat) : Bool :=
  let left := views.getD i default
  let right := views.getD j default
  let shared := left.tokens &&& right.tokens
  let other := states.getD j default
  (left.tokens ^^^ shared) &&& right.forbidden != 0 ||
    (right.tokens ^^^ shared) &&& left.forbidden != 0 ||
    left.actions.any fun (token, list) =>
      match other.actions.getD token [] with
      | [] => false
      | actions => actionsDiffer groupOf list actions

def targetsDiffer (views : Array MergeView) (groupOf : Array Nat) (i j : Nat) : Bool :=
  let other := (views.getD j default).targetOf
  (views.getD i default).targets.any fun (symbol, next) =>
    let there := other.getD symbol 0
    there != 0 && groupOf.getD next 0 != groupOf.getD (there - 1) 0

def mergeable (table : Table) (facts : TokenFacts) : Grouping := Id.run do
  let states := table.states
  let cores := states.foldl (fun n s => max n (s.core + 1)) 0
  let mut members : Array (List Nat) := Array.replicate cores []
  for i in [0:states.size] do
    let i := states.size - 1 - i
    members := members.modify (states.getD i default).core (i :: ·)
  let mut grouping : Grouping := ⟨members, states.map (·.core)⟩
  let views := states.map (viewOf facts.scannedTokens facts.clashMasks)
  grouping := (grouping.split (statesClash states views)).1
  -- each round makes new groups, of which there are no more than states
  for _ in [0:1000000] do
    let (next, changed) := grouping.split (targetsDiffer views)
    grouping := next
    if !changed then break
  return grouping

/-- Merges the states of each group. The groups of states 0 and 1 come first. -/
def merge (table : Table) (facts : TokenFacts) : Table :=
  let grouping := table.mergeable facts
  let n := grouping.members.size
  let first := grouping.groupOf.getD 0 0
  let second := grouping.groupOf.getD 1 1
  -- exchanges group `first` with 0, then what is now at the place of `second` with 1
  let swap := fun (a b i : Nat) => if i = a then b else if i = b then a else i
  let place := fun i => swap (swap first 0 second) 1 (swap first 0 i)
  let states := (Array.range n).map fun g =>
    let old := swap first 0 (swap (swap first 0 second) 1 g)
    match grouping.members.getD old [] with
    | [] => default
    | i :: rest =>
      (rest.foldl (fun (s : TableState) j => s.join (table.states.getD j default))
        (table.states.getD i default)).mapTargets
        fun next => place (grouping.groupOf.getD next 0)
  { table with states := states }

def renamed (g : Phrases) (usual : UsualAliases) : List Nat :=
  (usual.map fun entry => g.number entry.1) ++
    (g.phrases.toList.flatMap fun phrase => phrase.productions.flatMap fun production =>
      production.steps.filterMap fun step => step.shownAs.map fun _ => g.number step.symbol).eraseDups

/-- The phrase that a state finishes whatever follows, if the phrase has one step and does not
show. -/
def onlyPhrase? (g : Phrases) (renamed : List Nat) (s : TableState) : Option Nat :=
  let actions := (s.actions.toList.flatten).filter (· != .shiftExtra)
  match actions with
  | .reduce symbol 1 0 0 :: _ =>
    let phrase := symbol - g.tokenCount
    if g.isHidden phrase && !g.source.groups.contains phrase && !renamed.contains symbol &&
        actions.all (fun action => match action with
          | .reduce other 1 0 0 => other == symbol
          | _ => false) then some phrase
    else none
  | _ => none

def skipUnits (table : Table) (g : Phrases) (usual : UsualAliases) : Table :=
  let renamed := renamed g usual
  let units := table.states.map (onlyPhrase? g renamed)
  let follow := fun (s : TableState) (next : Nat) =>
    -- hidden phrases of one step are nested a few levels deep
    (List.range 40).foldl (fun next _ =>
      match units.getD next none with
      | some phrase =>
        let goto := s.gotos.getD phrase 0
        if goto = 0 then next else goto - 1
      | none => next) next
  { table with states := table.states.map fun s => s.mapTargets (follow s) }

def dropUnused (table : Table) : Table :=
  let used := table.states.foldl (fun (used : Array Bool) s =>
    s.targets.foldl (fun used next => used.set! next true) used)
    (table.states.mapIdx fun i _ => i < 2)
  let places := (used.foldl (fun (places, n) isUsed =>
    (places.push n, if isUsed then n + 1 else n)) ((#[] : Array Nat), 0)).1
  { table with
    states := (table.states.zipIdx.filter fun entry => used.getD entry.2 false).map fun entry =>
      entry.1.mapTargets fun next => places.getD next 0 }

/-- Puts states with more entries first, after 0 and 1. -/
def sortBySize (table : Table) : Table :=
  let order := ((List.range table.states.size).drop 2).mergeSort fun i j =>
    (table.states.getD j default).weight ≤ (table.states.getD i default).weight
  let order := (0 :: 1 :: order).toArray
  let places := order.zipIdx.foldl (fun (places : Array Nat) (i, place) => places.set! i place)
    (Array.replicate table.states.size 0)
  { table with
    states := order.map fun i =>
      (table.states.getD i default).mapTargets fun next => places.getD next 0 }

end Table

end UsedSelectors.Parsing
