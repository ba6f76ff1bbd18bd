import UsedSelectors.Parsing.Lexer
import UsedSelectors.Parsing.Merge

/-!
# Languages

A grammar made ready for parsing: the table of actions with merged states, the lexer, and for each
state which tokens are looked for. Keywords are looked for as names and told apart afterwards.
Where several states can do with a common set of tokens they share it.
-/

namespace UsedSelectors.Parsing

structure SymbolInfo where
  name : String
  isVisible : Bool
  isNamed : Bool
  deriving Inhabited

/-- A grammar made ready for parsing. Symbol 0 is the end of the text. -/
structure Language where
  symbols : Array SymbolInfo
  tokenCount : Nat
  /-- The number of the first token of the lexer. -/
  firstToken : Nat
  tokenOrder : Array Nat
  ranks : Array Nat
  word : Nat
  table : Table
  lexer : Lexer
  lexStarts : Array Nat
  /-- The tokens of the scanner that are looked for in each state, numbered from zero. -/
  scans : Array Nat
  keywordStart : Nat
  deriving Inhabited

namespace Language

def errorRun (lang : Language) : Nat := lang.symbols.size

def error (lang : Language) : Nat := lang.symbols.size + 1

def info (lang : Language) (symbol : Nat) : SymbolInfo :=
  match lang.symbols[symbol]? with
  | some info => info
  | none => if symbol = lang.error then ⟨"ERROR", true, true⟩ else ⟨"", false, false⟩

def actions (lang : Language) (state token : Nat) : List Action :=
  match lang.table.states[state]? with
  | some s => s.actions.getD token []
  | none => []

/-- The state after a symbol; 0 if the symbol cannot follow. -/
def next (lang : Language) (state symbol : Nat) : Nat :=
  if symbol < lang.tokenCount then
    match (lang.actions state symbol).getLast? with
    | some (.shift s _) => s
    | some .shiftExtra => state
    | _ => 0
  else
    match lang.table.states[state]? with
    | some s => s.gotos.getD (symbol - lang.tokenCount) 0 - 1
    | none => 0

def shape (lang : Language) (i : Nat) : NodeShape := lang.table.shapes.getD i default

end Language

/-- The tokens that occur together with each token in a state, and the same for the states without
the token of words. All are tokens of the lexer, numbered from zero. -/
def tokensTogether (g : Phrases) (table : Table) : Array TokenSet × Array TokenSet := Id.run do
  let n := g.source.tokens.size
  let mut all : Array TokenSet := Array.replicate n 0
  let mut wordless : Array TokenSet := Array.replicate n 0
  for s in table.states do
    let tokens := s.tokens >>> g.firstToken
    let hasWord := tokens.testBit g.source.word
    for i in [0:n] do
      if tokens.testBit i then
        all := all.modify i (· ||| tokens)
        if !hasWord then wordless := wordless.modify i (· ||| tokens)
  return (all, wordless)

/-- Whether all characters of a set are letters or underscores; enough of them are looked at to tell
words from patterns. -/
def isWordSet (set : CharSet) : Bool :=
  set.runs.all fun run => run.2 < 0x80 && (List.range (run.2 + 1 - run.1)).all fun k =>
    let c := Char.ofNat (run.1 + k)
    c.isAlpha || c == '_'

/-- The tokens that are matched as names first: words that match nothing that is not a name, and
whose texts would clash with no other token if they were names. -/
def keywordTokens (g : Phrases) (a : Automaton) (overlaps : OverlapTable)
    (wordless : Array TokenSet) : TokenSet :=
  let n := g.source.tokens.size
  let word := g.source.word
  let candidates := (List.range n).filter fun i =>
    (a.nextChars (a.settle [a.starts.getD i 0])).all (fun chars => chars.2 || isWordSet chars.1) &&
      (overlaps.get i word).winsSame && !(overlaps.get i word).hasOther
  let keywords := candidates.filter fun i =>
    !candidates.any fun j => j != i && (overlaps.get j i).winsSame
  let kept := keywords.filter fun i =>
    (List.range n).all fun j =>
      candidates.contains j || !(wordless.getD i 0).testBit j ||
        overlaps.get i j == overlaps.get word j
  kept.foldl (fun (set : Nat) i => set ||| TokenSet.single i) 0

/-- The tokens that can be told from all others after an error; a token that could be mistaken for
one of those is not looked for. -/
def recoveryTokens (g : Phrases) (overlaps : OverlapTable) (together : Array TokenSet)
    (keywords : TokenSet) : List Nat :=
  let n := g.source.tokens.size
  let clash := fun i j =>
    !(together.getD i 0).testBit j && overlaps.isShorterOrLonger i j
  let free := (List.range n).filter fun i =>
    !(List.range n).any fun j => j != i && clash i j
  (List.range n).filter fun i =>
    free.contains i || keywords.testBit i || g.source.word == i || !free.any (clash i)

/-- Gives state 0 its actions: it takes every token that can be told after an error. -/
def Table.addRecovery (table : Table) (g : Phrases) (tokens : List Nat) : Table :=
  let scanned := (g.source.scanned.zipIdx.filter fun entry => entry.1.shared.isNone).toList.map
    fun entry => 1 + entry.2
  let all := 0 :: scanned ++ tokens.map (g.firstToken + ·)
  { table with
    states := table.states.modify 0 fun s =>
      { s with
        actions := all.foldl (fun actions token => actions.modify token fun list =>
          if list.isEmpty || token = 0 then [.recover] else list) s.actions } }

/-- Whether the tokens of two states can be looked for together: none of them could be mistaken for
another one that is looked for alone. -/
def canShare (n : Nat) (overlaps : OverlapTable) (together : Array TokenSet)
    (s t : TokenSet) : Bool :=
  (List.range n).all fun i =>
    let inS := s.testBit i
    let inT := t.testBit i
    if inS == inT then true
    else
      let without := if inS then t else s
      (List.range n).all fun j => !without.testBit j ||
        (!(overlaps.get i j).conflicts && !(overlaps.get i j).endsBefore &&
          ((together.getD i 0).testBit j ||
            (!(overlaps.get i j).overlaps && !(overlaps.get j i).overlaps)))

/-- The tokens that are looked for in each state. The first component has the sets, the second one
the set of each state. The end of the text is bit `n`. -/
def lexSets (g : Phrases) (overlaps : OverlapTable) (together : Array TokenSet)
    (keywords : TokenSet) (table : Table) : Array TokenSet × Array Nat := Id.run do
  let n := g.source.tokens.size
  let mut sets : Array TokenSet := #[]
  let mut setNumbers : Array Nat := #[]
  let mut known : Std.HashMap TokenSet Nat := {}
  for s in table.states do
    let tokens := s.tokens
    let own := tokens >>> g.firstToken
    let plain := own ^^^ (own &&& keywords)
    let words := if own &&& keywords != 0 then plain ||| TokenSet.single g.source.word else plain
    let wanted := if tokens.testBit 0 then words ||| TokenSet.single n else words
    match known[wanted]? with
    | some i => setNumbers := setNumbers.push i
    | none =>
      match sets.findIdx? (fun other => canShare n overlaps together other wanted) with
      | some i =>
        sets := sets.modify i (· ||| wanted)
        setNumbers := setNumbers.push i
        known := known.insert wanted i
      | none =>
        setNumbers := setNumbers.push sets.size
        known := known.insert wanted sets.size
        sets := sets.push wanted
  return (sets, setNumbers)

def Visibility.info (v : Visibility) (name : String) : SymbolInfo where
  name := name
  isVisible := v == .plain || v == .named
  isNamed := v == .named || v == .hidden

/-- How the symbols of a grammar show; an alias that a symbol always has counts. -/
def symbolInfos (g : Phrases) (usual : UsualAliases) : Array SymbolInfo :=
  let shown := fun (s : Sym) (info : SymbolInfo) =>
    match usual.lookup s with
    | some other => { name := other.name, isVisible := true, isNamed := other.isNamed }
    | none => info
  #[⟨"end", false, true⟩] ++
    (g.source.scanned.mapIdx fun i t => shown (.scanned i) (t.visibility.info t.name)) ++
    (g.source.tokens.mapIdx fun i t => shown (.token i) (t.visibility.info t.name)) ++
    (g.phrases.mapIdx fun i p => shown (.rule i) (p.visibility.info p.name))

/-- The tokens in the order in which they are tried: that of words first, then those of the lexer,
then those of the scanner. -/
def tokenOrder (g : Phrases) : Array Nat :=
  let tokens := (List.range g.source.tokens.size).filter (· != g.source.word)
  let scanned := (g.source.scanned.zipIdx.filter fun entry => entry.1.shared.isNone).toList.map
    fun entry => 1 + entry.2
  ((g.firstToken + g.source.word) :: tokens.map (g.firstToken + ·) ++ scanned).toArray

def Grammar.compile (grammar : Grammar) : Language := Id.run do
  let source := grammar.separate
  let flat := source.flatten
  let usual := usualAliases source flat
  let g := Phrases.ofPhrases source (flat.map (·.dropUsual usual))
  let items := g.itemTable
  let full := items.build grammar.precedences
  let a := Automaton.ofGrammar source
  let overlaps := OverlapTable.ofGrammar a items.followingTokens
  let (together, wordless) := tokensTogether g full
  let keywords := keywordTokens g a overlaps wordless
  let recovering := full.addRecovery g (recoveryTokens g overlaps together keywords)
  let merged := recovering.merge { phrases := g, overlaps, together, keywords }
  let table := ((merged.skipUnits g usual).dropUnused).sortBySize
  let (sets, setNumbers) := lexSets g overlaps together keywords table
  let n := source.tokens.size
  let startsOf := fun (set : TokenSet) => (TokenSet.toList n set).map fun t => a.starts.getD t 0
  let mut builder : LexerBuilder :=
    { automaton := a, firstToken := g.firstToken, sets := #[], stateOf := {}, states := #[] }
  let (keywordStart, more) := builder.state (startsOf keywords) false
  builder := more
  let mut starts : Array Nat := #[]
  for set in sets do
    let (start, more) := builder.state (startsOf set) (set.testBit n)
    builder := more
    starts := starts.push start
  let scanOf := fun (s : TableState) =>
    source.scanned.zipIdx.foldl (fun (scan : Nat) (token, i) =>
      let symbol := match token.shared with
        | some t => g.firstToken + t
        | none => 1 + i
      if (s.actions.getD symbol []).isEmpty then scan else scan ||| (1 <<< i)) 0
  let order := tokenOrder g
  let ranks := order.zipIdx.foldl (fun (ranks : Array Nat) (token, i) => ranks.set! token (i + 1))
    (Array.range g.symbolCount)
  return {
    symbols := symbolInfos g usual
    tokenCount := g.tokenCount
    firstToken := g.firstToken
    tokenOrder := order
    ranks := ranks
    word := g.firstToken + source.word
    table := table
    lexer := builder.finish
    lexStarts := setNumbers.map fun i => starts.getD i 0
    scans := table.states.map scanOf
    keywordStart := keywordStart }

end UsedSelectors.Parsing
