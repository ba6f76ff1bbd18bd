import UsedSelectors.Parsing.Item

/-!
# Closures of item sets

Symbols are numbered here: the end of the text is 0, then come the tokens of the scanner, those of
the lexer, and the phrases. A set of tokens is a number whose bits are the tokens. The closure of
a set of items adds the phrases that may start at the place of an item, each with the tokens that
may follow it.
-/

namespace UsedSelectors.Parsing

abbrev TokenSet := Nat

namespace TokenSet

def single (token : Nat) : TokenSet := 1 <<< token

def toList (bound : Nat) (s : TokenSet) : List Nat := (List.range bound).filter s.testBit

end TokenSet

structure ItemInfo where
  phrase : Nat
  read : Nat
  next : Option Nat
  afterNext : Option Nat
  successor : Nat
  /-- The items that stand for this one where its next symbol is inlined; else only itself. -/
  expansion : List Nat
  precedence : Precedence
  associativity : Option Associativity
  deriving Inhabited

structure Opening where
  phrase : Nat
  follow : TokenSet
  atEnd : Bool
  deriving Inhabited

structure ItemTable where
  phrases : Phrases
  items : Array Item
  infos : Array ItemInfo
  openingItems : Array (Array Nat)
  openings : Array (Array Opening)
  firsts : Array TokenSet
  lasts : Array TokenSet

namespace Phrases

def tokenCount (g : Phrases) : Nat := 1 + g.source.scanned.size + g.source.tokens.size

def symbolCount (g : Phrases) : Nat := g.tokenCount + g.phrases.size

def number (g : Phrases) : Sym → Nat
  | .scanned i => 1 + i
  | .token i => 1 + g.source.scanned.size + i
  | .rule i => g.tokenCount + i

def firstToken (g : Phrases) : Nat := 1 + g.source.scanned.size

/-- Improves the sets of a table of all symbols until nothing changes; a phrase takes over the set
of a step of each of its productions. Phrases are nested through one another `rounds` deep at
most. -/
def spread (g : Phrases) (pick : List Step → Option Step) (rounds : Nat) : Array TokenSet :=
  let start : Array TokenSet := (Array.range g.symbolCount).map fun s =>
    if s < g.tokenCount then TokenSet.single s else 0
  (List.range rounds).foldl (fun sets _ =>
    g.phrases.zipIdx.foldl (fun sets (phrase, i) =>
      let found := phrase.productions.foldl (fun (found : Nat) production =>
        match pick production.steps with
        | some step => found ||| sets.getD (g.number step.symbol) 0
        | none => found) (sets.getD (g.tokenCount + i) 0)
      sets.set! (g.tokenCount + i) found) sets) start

def openingsOf (g : Phrases) (firsts : Array TokenSet) (phrase : Nat) : Array Opening := Id.run do
  let mut follow : Array TokenSet := g.phrases.map fun _ => 0
  let mut atEnd : Array Bool := g.phrases.map fun _ => false
  let mut seen : Array Bool := g.phrases.map fun _ => false
  let mut pending : List (Nat × TokenSet × Bool) := [(phrase, 0, true)]
  -- each entry adds a token or a flag to one of finitely many phrases
  for _ in [0:10000000] do
    match pending with
    | [] => break
    | (i, tokens, toEnd) :: rest =>
      pending := rest
      let old := follow.getD i 0
      let isNew := if toEnd then !atEnd.getD i false else old ||| tokens != old
      if toEnd then atEnd := atEnd.set! i true else follow := follow.set! i (old ||| tokens)
      seen := seen.set! i true
      if isNew then
        for production in (g.phrases.getD i default).productions do
          match production.steps with
          | ⟨.rule first, _, _, _, _⟩ :: [] => pending := (first, tokens, toEnd) :: pending
          | ⟨.rule first, _, _, _, _⟩ :: second :: _ =>
            pending := (first, firsts.getD (g.number second.symbol) 0, false) :: pending
          | _ => pure ()
  let mut found : Array Opening := #[]
  for i in [0:g.phrases.size] do
    if seen.getD i false && !g.source.inlined.contains i then
      found := found.push ⟨i, follow.getD i 0, atEnd.getD i false⟩
  return found

def itemTable (g : Phrases) : ItemTable :=
  let items := g.items
  let numbers : Std.HashMap Item Nat :=
    items.zipIdx.foldl (fun numbers (item, i) => numbers.insert item i) {}
  let numberOf := fun (item : Item) => numbers.getD item.normal 0
  let firsts := g.spread (·.head?) 40
  { phrases := g
    items := items
    infos := items.map fun item =>
      { phrase := item.phrase
        read := item.read
        next := item.next?.map (g.number ·.symbol)
        afterNext := item.production.steps[item.read + 1]?.map (g.number ·.symbol)
        successor := if item.next?.isSome then numberOf (g.successor item) else 0
        expansion := (g.expandItem item).map numberOf
        precedence := item.precedence
        associativity := item.associativity }
    openingItems := (Array.range g.phrases.size).map fun i =>
      ((g.openings i).map numberOf).toArray
    openings := (Array.range g.phrases.size).map (g.openingsOf firsts)
    firsts := firsts
    lasts := g.spread (·.getLast?) 40 }

end Phrases

structure ItemSet where
  /-- The items in increasing order. -/
  items : Array Nat
  follow : Array TokenSet
  deriving BEq, Hashable, Inhabited

namespace ItemSet

def ofEntries (entries : Array (Nat × TokenSet)) : ItemSet := Id.run do
  let sorted := if entries.size < 2 then entries else entries.qsort fun a b => a.1 < b.1
  let mut items : Array Nat := Array.emptyWithCapacity sorted.size
  let mut follow : Array TokenSet := Array.emptyWithCapacity sorted.size
  for (item, tokens) in sorted do
    if items.back? == some item then
      follow := follow.modify (follow.size - 1) (· ||| tokens)
    else
      items := items.push item
      follow := follow.push tokens
  return ⟨items, follow⟩

end ItemSet

/-- A closed set of items: the items it was made from, and the phrases that may start, each with
the tokens that may follow it. -/
structure Closure where
  kernel : ItemSet
  /-- The phrases that may start, in increasing order. -/
  phrases : Array (Nat × TokenSet)
  deriving Inhabited

namespace ItemTable

def close (table : ItemTable) (set : ItemSet) : Closure := Id.run do
  let g := table.phrases
  let mut entries : Array (Nat × TokenSet) := #[]
  for item in set.items, tokens in set.follow do
    for other in (table.infos.getD item default).expansion do
      entries := entries.push (other, tokens)
  let kernel := ItemSet.ofEntries entries
  let mut follow : Array TokenSet := g.phrases.map fun _ => 0
  for item in kernel.items, tokens in kernel.follow do
    let info := table.infos.getD item default
    match info.next with
    | some symbol =>
      if g.tokenCount ≤ symbol then
        let behind := match info.afterNext with
          | some next => table.firsts.getD next 0
          | none => tokens
        for opening in table.openings.getD (symbol - g.tokenCount) #[] do
          let more := if opening.atEnd then opening.follow ||| behind else opening.follow
          follow := follow.modify opening.phrase (· ||| more)
    | none => pure ()
  let mut phrases : Array (Nat × TokenSet) := #[]
  for i in [0:follow.size] do
    let tokens := follow.getD i 0
    if tokens != 0 then phrases := phrases.push (i, tokens)
  return ⟨kernel, phrases⟩

end ItemTable

end UsedSelectors.Parsing
