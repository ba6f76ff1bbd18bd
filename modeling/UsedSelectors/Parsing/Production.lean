import UsedSelectors.Parsing.Separate

/-!
# Productions

Phrases become lists of productions, and a production is a sequence of symbols with what is said
about each. Repetitions become phrases of their own that grow by doubling. An alias that a symbol
always has is kept with the symbol and not with its uses.
-/

namespace UsedSelectors.Parsing

structure Step where
  symbol : Sym
  precedence : Precedence
  associativity : Option Associativity
  shownAs : Option Alias
  field : Option String
  deriving BEq, Hashable, Inhabited

structure Production where
  steps : List Step
  preference : Int
  deriving BEq, Hashable, Inhabited

structure Phrase where
  name : String
  visibility : Visibility
  productions : List Production
  deriving Inhabited

/-- The phrases that were made up for repetitions: for what is repeated, and their numbers. -/
structure Repetitions where
  start : Nat
  contents : Array Rule

namespace Repetitions

def use (content : Rule) (reps : Repetitions) : Rule × Repetitions :=
  match reps.contents.findIdx? (· == content) with
  | some i => (.sym (.rule (reps.start + i)), reps)
  | none =>
    (.sym (.rule (reps.start + reps.contents.size)),
      { reps with contents := reps.contents.push content })

mutual

def expand : Rule → Repetitions → Rule × Repetitions
  | .repeated r, reps =>
    let (r, reps) := expand r reps
    use r reps
  | .marked m r, reps =>
    let (r, reps) := expand r reps
    (.marked m r, reps)
  | .choice rs, reps =>
    let (rs, reps) := expandList rs reps
    (.choice rs, reps)
  | .seq rs, reps =>
    let (rs, reps) := expandList rs reps
    (.seq rs, reps)
  | r, reps => (r, reps)

def expandList : List Rule → Repetitions → List Rule × Repetitions
  | [], reps => ([], reps)
  | r :: rs, reps =>
    let (r, reps) := expand r reps
    let (rs, reps) := expandList rs reps
    (r :: rs, reps)

end

/-- What the phrase of number `i` stands for: two of itself, or what is repeated. -/
def ruleOf (i : Nat) (content : Rule) : Rule :=
  Rule.oneOf [.seq [.sym (.rule i), .sym (.rule i)], content]

end Repetitions

namespace Rule

mutual

def variants : Rule → List Rule
  | .seq rs => variantsSeq [.blank] rs
  | .choice rs => variantsChoice rs
  | .marked m r => (variants r).map (.marked m)
  | r => [r]

def variantsSeq (front : List Rule) : List Rule → List Rule
  | [] => front
  | r :: rs =>
    let here := variants r
    variantsSeq (front.flatMap fun entry => here.map fun next => .seq [entry, next]) rs

def variantsChoice : List Rule → List Rule
  | [] => []
  | r :: rs => variants r ++ variantsChoice rs

end

end Rule

structure Surroundings where
  /-- The precedences of the marks around, innermost first. -/
  precedences : List Precedence
  /-- The associations of the marks around, innermost first. -/
  associativities : List Associativity
  shownAs : Option Alias
  field : Option String

namespace Surroundings

def enter (here : Surroundings) (m : Marks) : Surroundings where
  precedences := if m.precedence == .unset then here.precedences
    else m.precedence :: here.precedences
  associativities := m.associativity.toList ++ here.associativities
  shownAs := m.shownAs <|> here.shownAs
  field := m.field <|> here.field

def step (here : Surroundings) (s : Sym) : Step where
  symbol := s
  precedence := here.precedences.headD .unset
  associativity := here.associativities.head?
  shownAs := here.shownAs
  field := here.field

end Surroundings

namespace Production

def strongerPreference (a b : Int) : Int := if a.natAbs < b.natAbs then b else a

def mapLast (f : Step → Step) (p : Production) : Production :=
  match p.steps.getLast? with
  | some last => { p with steps := p.steps.dropLast ++ [f last] }
  | none => p

mutual

/-- Adds the symbols of a rule without choices; `atEnd` tells whether nothing follows. A mark with
a precedence does not reach beyond its end. -/
def add (here : Surroundings) (atEnd : Bool) : Rule → Production → Production
  | .seq rs, p => addSeq here atEnd rs p
  | .marked m r, p =>
    let inside := add (here.enter m) atEnd r
      { p with preference := strongerPreference p.preference m.preference }
    if atEnd || inside.steps.length == p.steps.length then inside
    else
      let inside := if m.precedence == .unset then inside
        else inside.mapLast ({ · with precedence := here.precedences.headD .unset })
      if m.associativity.isNone then inside
      else inside.mapLast ({ · with associativity := here.associativities.head? })
  | .sym s, p => { p with steps := p.steps ++ [here.step s] }
  | _, p => p

def addSeq (here : Surroundings) (atEnd : Bool) : List Rule → Production → Production
  | [], p => p
  | [r], p => add here atEnd r p
  | r :: rs, p => addSeq here atEnd rs (add here false r p)

end

def ofRule (rule : Rule) : List Production :=
  (rule.variants.map fun r => add ⟨[], [], none, none⟩ true r ⟨[], 0⟩).eraseDups

end Production

def Separated.flatten (grammar : Separated) : Array Phrase := Id.run do
  let mut reps : Repetitions := ⟨grammar.phrases.size, #[]⟩
  let mut phrases : Array Phrase := #[]
  for definition in grammar.phrases do
    let (rule, more) := reps.expand definition.rule
    reps := more
    phrases := phrases.push
      ⟨definition.name, definition.visibility, Production.ofRule rule⟩
  for content in reps.contents, i in [0:reps.contents.size] do
    phrases := phrases.push
      ⟨"", .auxiliary, Production.ofRule (Repetitions.ruleOf (reps.start + i) content)⟩
  return phrases

abbrev UsualAliases := List (Sym × Alias)

/-- How a symbol is used: its aliases with the number of uses, and whether it is used without. -/
structure AliasUse where
  symbol : Sym
  /-- The aliases with their numbers of uses, in the order of first use. -/
  aliases : List (Alias × Nat)
  isPlain : Bool
  deriving Inhabited

namespace AliasUse

def countAlias (shownAs : Alias) : List (Alias × Nat) → List (Alias × Nat)
  | [] => [(shownAs, 1)]
  | (other, n) :: rest =>
    if other == shownAs then (other, n + 1) :: rest else (other, n) :: countAlias shownAs rest

def count (step : Step) : List AliasUse → List AliasUse
  | [] => [match step.shownAs with
    | some shownAs => ⟨step.symbol, [(shownAs, 1)], false⟩
    | none => ⟨step.symbol, [], true⟩]
  | entry :: rest =>
    if entry.symbol == step.symbol then
      (match step.shownAs with
        | some shownAs => { entry with aliases := countAlias shownAs entry.aliases }
        | none => { entry with isPlain := true }) :: rest
    else entry :: count step rest

def most : List (Alias × Nat) → Option (Alias × Nat)
  | [] => none
  | entry :: rest =>
    match most rest with
    | some other => if entry.2 < other.2 then some other else some entry
    | none => some entry

def usual? (entry : AliasUse) : Option (Sym × Alias) :=
  if entry.isPlain then none else (most entry.aliases).map fun best => (entry.symbol, best.1)

end AliasUse

/-- The aliases that symbols always have; a symbol that is replaced by what it stands for, or that
may stand anywhere, has none. -/
def usualAliases (grammar : Separated) (phrases : Array Phrase) : UsualAliases :=
  let steps := phrases.toList.flatMap fun phrase => phrase.productions.flatMap (·.steps)
  let uses := (steps.filter fun step => match step.symbol with
    | .rule i => !grammar.inlined.contains i
    | _ => true).foldl (fun uses step => AliasUse.count step uses) []
  uses.filterMap fun entry =>
    if grammar.extras.contains entry.symbol then none else entry.usual?

/-- Leaves out the aliases that are usual, unless another production of the same phrase needs the
same alias at the same place for another symbol. -/
def Phrase.dropUsual (usual : UsualAliases) (phrase : Phrase) : Phrase :=
  let isUsual := fun (step : Step) => step.shownAs.isSome && usual.lookup step.symbol == step.shownAs
  let dropAt := fun (i j : Nat) (step : Step) =>
    isUsual step && !(phrase.productions.zipIdx.any fun (other, k) =>
      k != i && match other.steps[j]? with
        | some there => there.shownAs == step.shownAs && usual.lookup there.symbol != step.shownAs
        | none => false)
  { phrase with
    productions := phrase.productions.zipIdx.map fun (production, i) =>
      { production with
        steps := production.steps.zipIdx.map fun (step, j) =>
          if dropAt i j step then { step with shownAs := none } else step } }

end UsedSelectors.Parsing
