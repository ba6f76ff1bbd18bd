import UsedSelectors.Parsing.Rule

/-!
# Tokens and phrases

A grammar is taken apart into tokens, which the lexer knows, and phrases, which are built from
symbols. Each literal text, pattern or marked token becomes one token however often it is used. A
rule that is nothing but a token used nowhere else gives the token its name.
-/

namespace UsedSelectors.Parsing

inductive Visibility where
  | hidden
  /-- Not at all; it was made up to express a repetition or a pattern. -/
  | auxiliary
  | plain
  | named
  deriving BEq, Inhabited

structure Definition where
  name : String
  visibility : Visibility
  rule : Rule
  deriving Inhabited

structure ScannedToken where
  name : String
  visibility : Visibility
  shared : Option Nat
  deriving Inhabited

structure Separated where
  tokens : Array Definition
  /-- The rules on symbols; the first one is for a whole text. -/
  phrases : Array Definition
  scanned : Array ScannedToken
  separators : List Rule
  extras : List Sym
  inlined : List Nat
  groups : List Nat
  word : Nat

namespace Rule

mutual

def mapSym (f : Sym → Sym) : Rule → Rule
  | .sym s => .sym (f s)
  | .choice rs => .choice (mapSymList f rs)
  | .seq rs => .seq (mapSymList f rs)
  | .repeated r => .repeated (mapSym f r)
  | .marked m r => .marked m (mapSym f r)
  | r => r

def mapSymList (f : Sym → Sym) : List Rule → List Rule
  | [] => []
  | r :: rs => mapSym f r :: mapSymList f rs

end

mutual

def resolve (f : String → Rule) : Rule → Rule
  | .ref name => f name
  | .choice rs => .choice (resolveList f rs)
  | .seq rs => .seq (resolveList f rs)
  | .repeated r => .repeated (resolve f r)
  | .marked m r => .marked m (resolve f r)
  | r => r

def resolveList (f : String → Rule) : List Rule → List Rule
  | [] => []
  | r :: rs => resolve f r :: resolveList f rs

end

end Rule

abbrev FoundTokens := Array (Definition × Nat)

namespace FoundTokens

def use (rule : Rule) (text : Option String) (found : FoundTokens) : Rule × FoundTokens :=
  match found.findIdx? (fun entry => entry.1.rule == rule) with
  | some i => (.sym (.token i), found.modify i (fun entry => (entry.1, entry.2 + 1)))
  | none =>
    let definition : Definition := match text with
      | some s => ⟨s, .plain, rule⟩
      | none => ⟨"", .auxiliary, rule⟩
    (.sym (.token found.size), found.push (definition, 1))

mutual

def extract : Rule → FoundTokens → Rule × FoundTokens
  | .text s, found => use (.text s) (some s) found
  | .pattern r, found => use (.pattern r) none found
  | .marked m r, found =>
    if m.isToken then
      let text := match r with
        | .text s => some s
        | _ => none
      use (if { m with isToken := false } == ({} : Marks) then r else .marked m r) text found
    else
      let (r, found) := extract r found
      (.marked m r, found)
  | .repeated r, found =>
    let (r, found) := extract r found
    (.repeated r, found)
  | .choice rs, found =>
    let (rs, found) := extractList rs found
    (.choice rs, found)
  | .seq rs, found =>
    let (rs, found) := extractList rs found
    (.seq rs, found)
  | r, found => (r, found)

def extractList : List Rule → FoundTokens → List Rule × FoundTokens
  | [], found => ([], found)
  | r :: rs, found =>
    let (r, found) := extract r found
    let (rs, found) := extractList rs found
    (r :: rs, found)

end

end FoundTokens

namespace Grammar

/-- How a rule shows: a name with an underscore in front, or that of a group, is hidden. -/
def visibilityOf (grammar : Grammar) (name : String) : Visibility :=
  if name.startsWith "_" || grammar.groups.contains name then .hidden else .named

def lookup (grammar : Grammar) (name : String) : Rule :=
  match grammar.rules.findIdx? (fun rule => rule.1 == name) with
  | some i => .sym (.rule i)
  | none =>
    match grammar.scanned.findIdx? (· == .ref name) with
    | some i => .sym (.scanned i)
    | none => .blank

def numbersOf (grammar : Grammar) (move : Sym → Sym) (names : List String) : List Nat :=
  names.filterMap fun name =>
    match grammar.lookup name with
    | .sym s => match move s with
      | .rule i => some i
      | _ => none
    | _ => none

def separate (grammar : Grammar) : Separated := Id.run do
  let mut found : FoundTokens := #[]
  let mut rules : Array Definition := #[]
  for (name, rule) in grammar.rules do
    let (rule, more) := FoundTokens.extract (rule.resolve grammar.lookup) found
    found := more
    rules := rules.push ⟨name, grammar.visibilityOf name, rule⟩
  let mut scanned : Array Rule := #[]
  for rule in grammar.scanned do
    let (rule, more) := FoundTokens.extract (rule.resolve grammar.lookup) found
    found := more
    scanned := scanned.push rule
  -- a rule that is one token used nowhere else becomes that token
  let mut phrases : Array Definition := #[]
  let mut places : Array Sym := #[]
  for definition in rules, i in [0:rules.size] do
    match definition.rule with
    | .sym (.token t) =>
      let token := found.getD t default
      if 0 < i && token.2 == 1 &&
          (token.1.visibility == .auxiliary || definition.visibility != .hidden) then
        found := found.modify t
          (fun entry => (⟨definition.name, definition.visibility, entry.1.rule⟩, entry.2))
        places := places.push (.token t)
      else
        places := places.push (.rule phrases.size)
        phrases := phrases.push definition
    | _ =>
      places := places.push (.rule phrases.size)
      phrases := phrases.push definition
  let move : Sym → Sym := fun s => match s with
    | .rule i => places.getD i s
    | _ => s
  let tokens := found.map (·.1)
  let mut separators : List Rule := []
  let mut extras : List Sym := []
  for rule in grammar.extras do
    match rule.resolve grammar.lookup with
    | .sym s => extras := extras ++ [move s]
    | other =>
      match tokens.findIdx? (fun token => token.rule == other) with
      | some i => extras := extras ++ [.token i]
      | none => separators := separators ++ [other]
  let scannedTokens := scanned.zipIdx.map fun (rule, i) =>
    match rule.mapSym move with
    | .sym (.token t) =>
      let token := tokens.getD t default
      { name := token.name, visibility := token.visibility, shared := some t : ScannedToken }
    | _ =>
      let name := match grammar.scanned[i]? with
        | some (.ref name) => name
        | _ => ""
      { name := name, visibility := grammar.visibilityOf name, shared := none }
  let word := match grammar.lookup grammar.word with
    | .sym s => match move s with
      | .token t => t
      | _ => tokens.size
    | _ => tokens.size
  return {
    tokens := tokens
    phrases := phrases.map fun d => { d with rule := d.rule.mapSym move }
    scanned := scannedTokens
    separators := separators
    extras := extras
    inlined := grammar.numbersOf move grammar.inlined
    groups := grammar.numbersOf move grammar.groups
    word := word }

end Grammar

end UsedSelectors.Parsing
