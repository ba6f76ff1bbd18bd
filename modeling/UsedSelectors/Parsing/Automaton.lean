import UsedSelectors.Parsing.Separate

/-!
# The automaton of the tokens

All tokens of a grammar share one nondeterministic automaton. A state waits for a character,
branches without reading, or ends a token. White space in front of a token is read by states of
the token itself; they are marked, so that a token's own characters can be told from them.
-/

namespace UsedSelectors.Parsing

inductive State where
  | step (set : CharSet) (inFront : Bool) (precedence : Int) (next : Nat)
  | split (first second : Nat)
  | finish (token : Nat) (precedence : Int)
  deriving Inhabited

/-- The automaton: its states, the token each state belongs to, where each token starts, and how
much each token is preferred when several end at the same place. -/
structure Automaton where
  states : Array State
  owners : Array Nat
  starts : Array Nat
  /-- How much a token is preferred for its form: literal texts before patterns, and tokens that
  follow immediately before others. -/
  ranks : Array Nat
  deriving Inhabited

namespace Automaton

def push (a : Automaton) (s : State) : Nat × Automaton :=
  (a.states.size, { a with states := a.states.push s, owners := a.owners.push a.starts.size })

structure Place where
  inFront : Bool
  precedence : Int

mutual

/-- Adds the states of a rule in front of `next`; the first component is where to start. -/
def add (place : Place) : Rule → Nat → Automaton → Nat × Automaton
  | .text s, next, a =>
    s.toList.foldr (fun c (next, a) =>
      a.push (.step (.single c) place.inFront place.precedence next)) (next, a)
  | .chars set, next, a => a.push (.step set place.inFront place.precedence next)
  | .pattern r, next, a => add place r next a
  | .marked m r, next, a =>
    match m.precedence with
    | .level n => add { place with precedence := n } r next a
    | _ => add place r next a
  | .seq rs, next, a => addSeq place rs next a
  | .choice rs, next, a => addChoice place rs next a
  | .repeated r, next, a =>
    let (loop, a) := a.push (.split next next)
    let (first, a) := add place r loop a
    (first, { a with states := a.states.set! loop (.split first next) })
  | _, next, a => (next, a)

def addSeq (place : Place) : List Rule → Nat → Automaton → Nat × Automaton
  | [], next, a => (next, a)
  | r :: rs, next, a =>
    let (next, a) := addSeq place rs next a
    add place r next a

def addChoice (place : Place) : List Rule → Nat → Automaton → Nat × Automaton
  | [], next, a => (next, a)
  | [r], next, a => add place r next a
  | r :: rs, next, a =>
    let (other, a) := addChoice place rs next a
    let (first, a) := add place r next a
    a.push (.split first other)

end

def finalPrecedence : Rule → Int
  | .marked m _ => match m.precedence with
    | .level n => n
    | _ => 0
  | _ => 0

def formRank : Rule → Nat
  | .text _ => 2
  | .marked m r => formRank r + (if m.isImmediate then 1 else 0)
  | _ => 0

def isImmediate : Rule → Bool
  | .marked m _ => m.isImmediate
  | _ => false

def addToken (separators : Rule) (rule : Rule) (a : Automaton) : Automaton :=
  let token := a.starts.size
  let (final, a) := a.push (.finish token (finalPrecedence rule))
  let (start, a) := add ⟨false, 0⟩ rule final a
  if isImmediate rule then
    { a with starts := a.starts.push start, ranks := a.ranks.push (formRank rule) }
  else
    -- the text in front is read in a loop that leads to the token
    let (loop, a) := a.push (.split start start)
    let (front, a) := add ⟨true, 0⟩ separators loop a
    let a := { a with states := a.states.set! loop (.split front start) }
    { a with starts := a.starts.push loop, ranks := a.ranks.push (formRank rule) }

def ofGrammar (grammar : Separated) : Automaton :=
  grammar.tokens.foldl (fun a token => a.addToken (Rule.oneOf grammar.separators) token.rule)
    ⟨#[], #[], #[], #[]⟩

def insertSorted (n : Nat) : List Nat → List Nat
  | [] => [n]
  | m :: ms => if n < m then n :: m :: ms else if n == m then m :: ms else m :: insertSorted n ms

def reach (a : Automaton) : Nat → Nat → List Nat → List Nat
  | 0, _, found => found
  | fuel + 1, i, found =>
    match a.states.getD i default with
    | .split first second => reach a fuel second (reach a fuel first found)
    | _ => insertSorted i found

/-- The reading and ending states that some states lead to without reading. Splits lead to one
another only a few steps deep. -/
def settle (a : Automaton) (states : List Nat) : List Nat :=
  states.foldl (fun found i => reach a 40 i found) []

def owner (a : Automaton) (state : Nat) : Nat := a.owners.getD state 0

/-- The tokens that some states belong to; the states are in increasing order. -/
def ownersOf (a : Automaton) (states : List Nat) : List Nat :=
  states.foldr (fun s found =>
    let token := a.owner s
    match found with
    | next :: _ => if next == token then found else token :: found
    | [] => [token]) []

structure Move where
  set : CharSet
  inFront : Bool
  precedence : Int
  next : List Nat
  deriving Inhabited

/-- Adds a step to moves with disjoint sets of characters: a move is cut in two where only a part
of its characters takes the step. -/
def addStep (set : CharSet) (inFront : Bool) (precedence : Int) (next : Nat) :
    List Move → List Move
  | [] => if set.isEmpty then [] else [⟨set, inFront, precedence, [next]⟩]
  | move :: rest =>
    let shared := move.set.inter set
    if shared.isEmpty then move :: addStep set inFront precedence next rest
    else
      let both : Move := ⟨shared, move.inFront && inFront, max move.precedence precedence,
        insertSorted next move.next⟩
      let others := addStep (set.diff shared) inFront precedence next rest
      let alone := move.set.diff shared
      if alone.isEmpty then both :: others else both :: { move with set := alone } :: others

def joinMoves (moves : List Move) : List Move :=
  moves.foldl (fun joined move =>
    let isSame := fun (other : Move) => other.next == move.next &&
      other.inFront == move.inFront && other.precedence == move.precedence
    if joined.any isSame then
      joined.map fun other =>
        if isSame other then { other with set := other.set.union move.set } else other
    else joined ++ [move]) []

def moves (a : Automaton) (states : List Nat) : List Move :=
  joinMoves (states.foldl (fun moves i =>
    match a.states.getD i default with
    | .step set inFront precedence next => addStep set inFront precedence next moves
    | _ => moves) [])

def finished (a : Automaton) (states : List Nat) : List (Nat × Int) :=
  states.filterMap fun i =>
    match a.states.getD i default with
    | .finish token precedence => some (token, precedence)
    | _ => none

def isInFront (a : Automaton) (states : List Nat) : Bool :=
  states.any fun i =>
    match a.states.getD i default with
    | .step _ inFront _ _ => inFront
    | _ => false

def nextChars (a : Automaton) (states : List Nat) : List (CharSet × Bool) :=
  states.filterMap fun i =>
    match a.states.getD i default with
    | .step set inFront _ _ => some (set, inFront)
    | _ => none

def prefersToken (a : Automaton) (left right : Nat × Int) : Bool :=
  if left.2 != right.2 then right.2 < left.2
  else
    let leftRank := a.ranks.getD left.1 0
    let rightRank := a.ranks.getD right.1 0
    if leftRank != rightRank then rightRank < leftRank else left.1 < right.1

def prefersMove (a : Automaton) (move : Move) (ended : Nat × Int) (inFront : Bool) : Bool :=
  if move.precedence < ended.2 then false
  else if move.precedence == ended.2 then
    !move.inFront && !(inFront && (a.ownersOf move.next).any (· != ended.1))
  else true

def best? (a : Automaton) (ended : List (Nat × Int)) : Option (Nat × Int) :=
  ended.foldl (fun best entry =>
    match best with
    | some other => if a.prefersToken other entry then some other else some entry
    | none => some entry) none

end Automaton

end UsedSelectors.Parsing
