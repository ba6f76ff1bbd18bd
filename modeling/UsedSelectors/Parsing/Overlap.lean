import UsedSelectors.Parsing.Automaton
import UsedSelectors.Parsing.Table

/-!
# Overlaps of tokens

What two tokens have in common decides which of them may be looked for in the same state: whether
they match the same text, whether one goes on where the other ends, and whether what goes on could
also start a token that may follow. Words that only ever match what a name matches are keywords.
-/

namespace UsedSelectors.Parsing

structure Overlap where
  endsBefore : Bool := false
  goesOn : Bool := false
  goesOnValidly : Bool := false
  endsInFront : Bool := false
  winsSame : Bool := false
  hasOther : Bool := false
  deriving BEq, Inhabited

namespace Overlap

def conflicts (o : Overlap) : Bool := o.goesOnValidly || o.endsInFront || o.winsSame

def overlaps (o : Overlap) : Bool := o.endsInFront || o.endsBefore || o.winsSame || o.goesOn

end Overlap

namespace Automaton

/-- Both sides of an overlap under construction: that of the first token and of the second. -/
abbrev Overlaps := Overlap × Overlap

def onSide (isFirst : Bool) (f : Overlap → Overlap) (o : Overlaps) : Overlaps :=
  if isFirst then (f o.1, o.2) else (o.1, f o.2)

/-- Looks at the tokens that end in some states; gives the preferred one. -/
def overlapOfEnds (a : Automaton) (i : Nat) (inFront : Bool) :
    List (Nat × Int) → Option (Nat × Int) → Overlaps → Option (Nat × Int) × Overlaps
  | [], best, o => (best, o)
  | (token, precedence) :: rest, best, o =>
    if inFront then (best, onSide (token == i) ({ · with endsInFront := true }) o)
    else
      match best with
      | none => overlapOfEnds a i inFront rest (some (token, precedence)) o
      | some other =>
        if other.1 == token then overlapOfEnds a i inFront rest best o
        else
          let winner := if a.prefersToken other (token, precedence) then other
            else (token, precedence)
          overlapOfEnds a i inFront rest (some winner)
            (onSide (winner.1 == i) ({ · with winsSame := true }) o)

def overlapOfMove (a : Automaton) (i : Nat) (following : Nat → CharSet) (j : Nat)
    (inFront : Bool) (ended : Option (Nat × Int)) (move : Move) (o : Overlaps) : Overlaps :=
  match ended with
  | none => o
  | some ended =>
    let owners := a.ownersOf move.next
    match owners.getLast? with
    | none => o
    | some longer =>
      if owners.contains ended.1 then o
      else if a.prefersMove move ended inFront then
        let other := if longer == i then j else i
        onSide (longer == i) (fun side =>
          { side with
            goesOn := true
            goesOnValidly := side.goesOnValidly || move.set.meets (following other) }) o
      else onSide (ended.1 == i) ({ · with endsBefore := true }) o

/-- What two tokens do to one another: all states that both can reach with the same text are looked
at. `following` gives the characters that may follow a token. -/
def overlap (a : Automaton) (following : Nat → CharSet) (i j : Nat) : Overlaps := Id.run do
  let mut o : Overlaps := ({}, {})
  let mut visited : List (List Nat) := []
  let mut pending : List (List Nat) := [[a.starts.getD j 0, a.starts.getD i 0]]
  -- no more sets of states are visited than the two tokens can reach together
  for _ in [0:100000] do
    match pending with
    | [] => break
    | states :: rest =>
      pending := rest
      match a.ownersOf (states.mergeSort (· ≤ ·)) with
      | [only] => o := onSide (only == i) ({ · with hasOther := true }) o
      | _ =>
        let settled := a.settle states
        let inFront := a.isInFront settled
        let (ended, next) := a.overlapOfEnds i inFront (a.finished settled) none o
        o := next
        for move in a.moves settled do
          o := a.overlapOfMove i following j inFront ended move o
          if !visited.contains move.next then
            visited := move.next :: visited
            pending := move.next :: pending
  return o

def startChars (a : Automaton) (token : Nat) : CharSet :=
  (a.nextChars (a.settle [a.starts.getD token 0])).foldl (fun set chars => set.union chars.1)
    CharSet.empty

end Automaton

structure OverlapTable where
  size : Nat
  entries : Array Overlap
  deriving Inhabited

namespace OverlapTable

def get (t : OverlapTable) (i j : Nat) : Overlap := t.entries.getD (i * t.size + j) {}

def isShorterOrLonger (t : OverlapTable) (i j : Nat) : Bool :=
  let here := t.get i j
  (here.goesOnValidly || here.endsInFront) && !(t.get j i).endsInFront

end OverlapTable

namespace ItemTable

def lexerTokens (table : ItemTable) (s : TokenSet) : TokenSet := s >>> table.phrases.firstToken

def followingTokens (table : ItemTable) : Array TokenSet := Id.run do
  let g := table.phrases
  let n := g.source.tokens.size
  let mut result : Array TokenSet := Array.replicate n 0
  let productions := g.phrases.toList.flatMap (·.productions)
  for production in productions do
    for (left, right) in production.steps.zip (production.steps.drop 1) do
      let ends := table.lexerTokens (table.lasts.getD (g.number left.symbol) 0)
      let starts := table.lexerTokens (table.firsts.getD (g.number right.symbol) 0)
      for i in [0:n] do
        if ends.testBit i then result := result.modify i (· ||| starts)
  for extra in g.source.extras do
    match extra with
    | .token t =>
      result := result.map (· ||| TokenSet.single t)
      result := result.set! t ((1 <<< n) - 1)
    | _ => pure ()
  return result

end ItemTable

def OverlapTable.ofGrammar (a : Automaton) (following : Array TokenSet) : OverlapTable := Id.run do
  let n := a.starts.size
  let starts := (Array.range n).map a.startChars
  let chars := following.map fun tokens =>
    CharSet.ofRuns ((TokenSet.toList n tokens).flatMap fun t => (starts.getD t default).runs)
  let mut entries : Array Overlap := Array.replicate (n * n) {}
  for i in [0:n] do
    for j in [0:i] do
      let (first, second) := a.overlap (fun t => chars.getD t default) i j
      entries := entries.set! (i * n + j) first
      entries := entries.set! (j * n + i) second
  return ⟨n, entries⟩

end UsedSelectors.Parsing
