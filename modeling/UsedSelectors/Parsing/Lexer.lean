import Std.Data.HashMap
import UsedSelectors.Parsing.Automaton

/-!
# The lexer

A deterministic form of the automaton of the tokens. It reads the longest token, apart from those
that give way to a shorter one, and skips white space in front. A set of tokens has a state to
start in.
-/

namespace UsedSelectors.Parsing

structure LexState where
  /-- The token that ends here; the end of the text counts as one. -/
  ends : Option Nat
  atEnd : Option Nat
  /-- Where characters lead; the flag is set in front of a token. -/
  moves : List (CharSet × Nat × Bool)
  deriving Inhabited

structure Lexer where
  states : Array LexState
  deriving Inhabited

/-- The lexer under construction. Tokens are numbered from `firstToken` on, and 0 is the end of the
text. -/
structure LexerBuilder where
  automaton : Automaton
  /-- The number of the first token. -/
  firstToken : Nat
  /-- The states of the automaton that each state stands for, settled, and whether the end of the
  text is looked for. -/
  sets : Array (List Nat × Bool)
  stateOf : Std.HashMap (List Nat × Bool) Nat
  states : Array LexState

namespace LexerBuilder

def state (b : LexerBuilder) (states : List Nat) (atEnd : Bool) : Nat × LexerBuilder :=
  let key := (b.automaton.settle states, atEnd)
  match b.stateOf[key]? with
  | some i => (i, b)
  | none =>
    (b.sets.size, { b with
      sets := b.sets.push key, stateOf := b.stateOf.insert key b.sets.size })

def addState (b : LexerBuilder) (i : Nat) : LexerBuilder := Id.run do
  let a := b.automaton
  let (states, lookForEnd) := b.sets.getD i ([], false)
  let best := a.best? (a.finished states)
  let inFront := a.isInFront states
  let mut b := b
  let mut atEnd := none
  if lookForEnd then
    let (next, more) := b.state [] false
    b := more
    atEnd := some next
  let mut moves : Array (CharSet × Nat × Bool) := #[]
  for move in a.moves states do
    let goesOn := match best with
      | some ended => a.prefersMove move ended inFront
      | none => true
    if goesOn then
      let (next, more) := b.state move.next (lookForEnd && move.inFront)
      b := more
      moves := moves.push (move.set, next, move.inFront)
  let ends := match best with
    | some ended => some (b.firstToken + ended.1)
    | none => if states.isEmpty then some 0 else none
  return { b with states := b.states.push ⟨ends, atEnd, moves.toList⟩ }

def finish (b : LexerBuilder) : Lexer := Id.run do
  let mut b := b
  -- the number of states is far below this bound
  for i in [b.states.size:1000000] do
    if i < b.sets.size then b := b.addState i else break
  return ⟨b.states⟩

end LexerBuilder

/-- A text as a parser reads it: its characters, with the number of bytes and of lines in front of
each. Both arrays of numbers have one entry more, for the end. -/
structure Source where
  chars : Array Char
  bytes : Array Nat
  rows : Array Nat
  deriving Inhabited

namespace Source

def ofString (s : String) : Source := Id.run do
  let mut chars : Array Char := #[]
  let mut bytes : Array Nat := #[0]
  let mut rows : Array Nat := #[0]
  let mut byte := 0
  let mut row := 0
  for c in s.toList do
    chars := chars.push c
    byte := byte + c.utf8Size
    row := if c = '\n' then row + 1 else row
    bytes := bytes.push byte
    rows := rows.push row
  return ⟨chars, bytes, rows⟩

def size (s : Source) : Nat := s.chars.size

/-- The number of the character at a place; the end of the text counts as zero. -/
def code (s : Source) (i : Nat) : Nat :=
  match s.chars[i]? with
  | some c => c.toNat
  | none => 0

def bytesBetween (s : Source) (i j : Nat) : Nat := s.bytes.getD j 0 - s.bytes.getD i 0

def rowsBetween (s : Source) (i j : Nat) : Nat := s.rows.getD j 0 - s.rows.getD i 0

/-- Where a token may start that is looked for at a place: a byte order mark at the start of the
text is passed over. -/
def enter (s : Source) (i : Nat) : Nat := if i = 0 && s.code 0 = 0xFEFF then 1 else i

end Source

structure Reading where
  found : Option (Nat × Nat)
  start : Nat
  reached : Nat
  deriving Inhabited

namespace Lexer

/-- Reads on in a state; each step but the last one takes a character. -/
def readFrom (lexer : Lexer) (source : Source) : Nat → Nat → Reading → Reading
  | 0, _, reading => reading
  | fuel + 1, state, reading =>
    let here := lexer.states.getD state default
    let reading := match here.ends with
      | some token => { reading with found := some (token, reading.reached) }
      | none => reading
    let isEnd := source.size ≤ reading.reached
    match (if isEnd then here.atEnd else none) with
    | some next => readFrom lexer source fuel next reading
    | none =>
      if isEnd then reading
      else
        let code := source.code reading.reached
        match here.moves.find? (fun move => move.1.contains code) with
        | none => reading
        | some (_, next, inFront) =>
          let place := reading.reached + 1
          readFrom lexer source fuel next
            { reading with reached := place, start := if inFront then place else reading.start }

def read (lexer : Lexer) (source : Source) (state place : Nat) : Reading :=
  let start := source.enter place
  lexer.readFrom source (source.size + 4) state ⟨none, start, start⟩

end Lexer

end UsedSelectors.Parsing
