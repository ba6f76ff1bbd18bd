import UsedSelectors.Parsing.CharSet

/-!
# Grammar rules

A grammar is a list of named rules. A rule is built from literal texts, sets of characters and
references to other rules; marks add precedences, names of fields and aliases, or say that what
they enclose is one token.
-/

namespace UsedSelectors.Parsing

/-- How tightly a construct binds: not at all, by a number, or by its place in the grammar's lists
of names. -/
inductive Precedence where
  | unset
  | level (n : Int)
  | named (name : String)
  deriving BEq, Hashable, Inhabited

inductive Associativity where
  | left
  | right
  deriving BEq, Hashable, Inhabited

structure Alias where
  name : String
  isNamed : Bool
  deriving BEq, Hashable, Inhabited

structure Marks where
  precedence : Precedence := .unset
  associativity : Option Associativity := none
  preference : Int := 0
  field : Option String := none
  shownAs : Option Alias := none
  isToken : Bool := false
  isImmediate : Bool := false
  deriving BEq, Hashable, Inhabited

/-- A grammar symbol: a token of the lexer, a token of the hand-written scanner, or a rule. -/
inductive Sym where
  | token (i : Nat)
  | scanned (i : Nat)
  | rule (i : Nat)
  deriving BEq, Hashable, Inhabited

inductive Rule where
  | blank
  | text (s : String)
  | chars (set : CharSet)
  | pattern (r : Rule)
  | ref (name : String)
  | sym (s : Sym)
  | choice (alternatives : List Rule)
  | seq (parts : List Rule)
  | repeated (r : Rule)
  | marked (marks : Marks) (r : Rule)
  deriving BEq, Hashable, Inhabited

namespace Rule

/-- The alternatives of a choice, each one once; a choice inside a choice is opened. -/
def alternatives (rules : List Rule) : List Rule :=
  (rules.flatMap fun
    | .choice inner => inner
    | r => [r]).foldl (fun found r => if found.contains r then found else found ++ [r]) []

def oneOf (rules : List Rule) : Rule := .choice (alternatives rules)

def optional (r : Rule) : Rule := oneOf [r, .blank]

def many (r : Rule) : Rule := oneOf [.repeated r, .blank]

/-- Changes the marks of a rule; marks around a token are kept apart from those outside. -/
def mark (change : Marks → Marks) : Rule → Rule
  | .marked marks r => if marks.isToken then .marked (change {}) (.marked marks r)
    else .marked (change marks) r
  | r => .marked (change {}) r

def field (name : String) (r : Rule) : Rule := r.mark ({ · with field := name })

def shownAs (name : String) (r : Rule) : Rule := r.mark ({ · with shownAs := some ⟨name, true⟩ })

def shownAsText (name : String) (r : Rule) : Rule :=
  r.mark ({ · with shownAs := some ⟨name, false⟩ })

def binds (name : String) (r : Rule) : Rule := r.mark ({ · with precedence := .named name })

def bindsAt (n : Int) (r : Rule) : Rule := r.mark ({ · with precedence := .level n })

/-- Associates to the left; without a name the precedence is zero. -/
def leftAssoc (precedence : Precedence) (r : Rule) : Rule :=
  r.mark ({ · with precedence := precedence, associativity := some Associativity.left })

/-- Associates to the right; without a name the precedence is zero. -/
def rightAssoc (precedence : Precedence) (r : Rule) : Rule :=
  r.mark ({ · with precedence := precedence, associativity := some Associativity.right })

def preferred (n : Int) (r : Rule) : Rule := r.mark ({ · with preference := n })

def token (r : Rule) : Rule := r.mark ({ · with isToken := true })

def immediate (r : Rule) : Rule := r.mark ({ · with isToken := true, isImmediate := true })

def commaSep1 (r : Rule) : Rule := .seq [r, many (.seq [.text ",", r])]

def commaSep (r : Rule) : Rule := optional (commaSep1 r)

end Rule

inductive Rank where
  | precedence (name : String)
  | rule (name : String)
  deriving BEq, Inhabited

/-- A grammar: rules in the order of their numbers, and what holds for all of them. -/
structure Grammar where
  /-- The rules with their names; the first one is for a whole text. -/
  rules : List (String × Rule)
  /-- The tokens of the scanner. A reference to a rule, or a text, shares the token of the lexer. -/
  scanned : List Rule
  extras : List Rule
  inlined : List String
  groups : List String
  /-- Lists of what binds more tightly first. -/
  precedences : List (List Rank)
  word : String

end UsedSelectors.Parsing
