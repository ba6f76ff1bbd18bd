import UsedSelectors.Parsing.Stack

/-!
# Parsing

All readings of a text are followed side by side. A reading that cannot go on waits; when all
readings wait, the best one is mended: a token that the text lacks is put in, or the parser goes
back to an earlier state, or it passes over tokens until it can go on. The reading whose errors
cost least becomes the syntax tree.
-/

namespace UsedSelectors.Parsing

structure Scanned where
  token : Nat
  start : Nat
  stop : Nat

/-- A hand-written lexer for the tokens that need it: given the tokens that are looked for, as bits,
and a place. -/
abbrev Scanner := Source → Nat → Nat → Option Scanned

structure Job where
  lang : Language
  scanner : Scanner
  source : Source

structure Parser where
  stack : Stack
  finished : Option Subtree
  accepted : Nat
  cache : Option (Nat × Subtree)
  deriving Inhabited

structure Standing where
  cost : Nat
  weight : Nat
  preference : Int
  isInError : Bool

inductive Comparison where
  /-- The first one is so much better that the second one is given up. -/
  | takeLeft
  /-- The first one is better. -/
  | preferLeft
  | equal
  | preferRight
  /-- The second one is so much better that the first one is given up. -/
  | takeRight
  deriving DecidableEq

namespace Standing

def maxCostDifference : Nat := 18 * Subtree.costPerSkippedTree

def compare (a b : Standing) : Comparison :=
  if !a.isInError && b.isInError then
    if a.cost < b.cost then .takeLeft else .preferLeft
  else if a.isInError && !b.isInError then
    if b.cost < a.cost then .takeRight else .preferRight
  else if a.cost < b.cost then
    if maxCostDifference < (b.cost - a.cost) * (1 + a.weight) then .takeLeft else .preferLeft
  else if b.cost < a.cost then
    if maxCostDifference < (a.cost - b.cost) * (1 + b.weight) then .takeRight else .preferRight
  else if b.preference < a.preference then .preferLeft
  else if a.preference < b.preference then .preferRight
  else .equal

end Standing

def maxVersions : Nat := 6

def maxExtraVersions : Nat := 4

namespace Job

def scansOf (job : Job) (state : Nat) : Nat := job.lang.scans.getD state 0

def lexStart (job : Job) (state : Nat) : Nat := job.lang.lexStarts.getD state 0

/-- A token of the scanner at a place. A token without text is refused while an error is mended,
and where it would change nothing. -/
def scan? (job : Job) (stack : Stack) (v state : Nat) (inError : Bool) (place : Nat) :
    Option Scanned :=
  let wanted := job.scansOf (if inError then 0 else state)
  if wanted = 0 then none
  else
    match job.scanner job.source wanted place with
    | none => none
    | some found =>
      let refused := found.stop ≤ place &&
        (inError || !stack.hasAdvanced v || job.lang.next state (1 + found.token) == state)
      if refused then none else some found

/-- The token of a word: the keyword, if it is one that the state can do with, or the name. -/
def word (job : Job) (state start stop : Nat) : Nat × Bool :=
  let reading := job.lang.lexer.read job.source job.lang.keywordStart start
  match reading.found with
  | some (keyword, stop') =>
    if stop' == stop && !(job.lang.actions state keyword).isEmpty then (keyword, true)
    else (job.lang.word, true)
  | none => (job.lang.word, false)

/-- The error that covers what no token starts with: from where it was found, up to where a token
can be read again. -/
def lexError (job : Job) (stack : Stack) (v state front : Nat) :
    Nat → Nat → Option (Nat × Nat) → Subtree
  | 0, place, _ => .leaf job.lang.error front place place state false
  | fuel + 1, place, skipped =>
    let reading := job.lang.lexer.read job.source (job.lexStart 0) place
    let isFound := (job.scan? stack v state true place).isSome || reading.found.isSome
    let (start, stop) := skipped.getD (reading.start, reading.start)
    let finish := fun (stop : Nat) => Subtree.leaf job.lang.error front start stop state false
    if isFound && skipped.isSome then finish stop
    else if reading.reached = stop then
      if job.source.size ≤ stop then finish stop
      else job.lexError stack v state front fuel (stop + 1) (some (start, stop + 1))
    else job.lexError stack v state front fuel reading.reached (some (start, reading.reached))

def token? (job : Job) (stack : Stack) (v state front : Nat) (inError : Bool) : Option Subtree :=
  match job.scan? stack v state inError front with
  | some found =>
    some (.leaf (1 + found.token) front found.start found.stop state false)
  | none =>
    let start := job.lexStart (if inError then 0 else state)
    let reading := job.lang.lexer.read job.source start front
    match reading.found with
    | none => none
    | some (token, stop) =>
      let (token, isKeyword) :=
        if token = job.lang.word then job.word state reading.start stop else (token, false)
      some (.leaf token front reading.start stop state isKeyword)

/-- The next token of a version in a state: one that the state can do with, else any token, else an
error. -/
def lex (job : Job) (stack : Stack) (v state : Nat) : Subtree :=
  let front := stack.place v
  match (if state = 0 then none else job.token? stack v state front false) with
  | some token => token
  | none =>
    match job.token? stack v state front true with
    | some token => token
    | none => job.lexError stack v state front (job.source.size + 2) front none

/-- Whether a token can be used that was read in another state. -/
def canReuse (job : Job) (state : Nat) (token : Subtree) : Bool :=
  let symbol := token.symbol
  let old := token.info.lexState
  !(job.lang.actions state symbol).isEmpty && job.lexStart old == job.lexStart state &&
    job.scansOf old == job.scansOf state &&
    (symbol != job.lang.word || (!token.info.isKeyword && old == state))

end Job

namespace Parser

def standing (p : Parser) (v : Nat) : Standing :=
  let isPaused := p.stack.isPaused v
  { cost := p.stack.cost v + if isPaused then Subtree.costPerSkippedTree else 0
    weight := p.stack.weightSinceError v
    preference := (p.stack.top v).preference
    isInError := isPaused || p.stack.state v = 0 }

def mapStack (p : Parser) (f : Stack → Stack) : Parser := { p with stack := f p.stack }

/-- The next token of a version: the one that was read last, if it can be used, or a new one. -/
def lookahead (job : Job) (p : Parser) (v state : Nat) : Subtree × Parser :=
  let place := p.stack.place v
  let old := match p.cache with
    | some (at', token) => if at' = place && job.canReuse state token then some token else none
    | none => none
  match old with
  | some token => (token, p)
  | none =>
    let token := job.lex p.stack v state
    (token, { p with cache := some (place, token) })

/-- Joins the ways that end in the same version to one phrase; `parent` is the best one so far with
the extras behind it. -/
def bestOf (job : Job) (symbol shape place : Nat) :
    List Popped → Subtree × List Subtree → Subtree × List Subtree
  | [], best => best
  | next :: rest, (parent, extras) =>
    let (children, others) := Subtree.splitTrailing next.subtrees
    let plain := Subtree.ofChildren job.lang job.source symbol 0 place children
    if parent.isBetter job.lang plain then
      bestOf job symbol shape place rest
        (Subtree.ofChildren job.lang job.source symbol shape place children, others)
    else bestOf job symbol shape place rest (parent, extras)

def mergeBack (job : Job) (stack : Stack) (except v : Nat) : List Nat → Option Stack
  | [] => none
  | w :: rest =>
    if w = except then mergeBack job stack except v rest
    else match stack.merge? job.lang job.source w v with
      | some merged => some merged
      | none => mergeBack job stack except v rest

/-- Puts finished phrases on the versions that going back has led to; those beyond a limit are left
out. `removed` counts versions that are gone. -/
def pushPhrases (job : Job) (limit v symbol shape : Nat) (preference : Int) :
    Nat → List Popped → Nat → Stack → Stack
  | 0, _, _, stack => stack
  | _, [], _, stack => stack
  | fuel + 1, slice :: rest, removed, stack =>
    let same := rest.takeWhile (·.version == slice.version)
    let others := rest.drop same.length
    let w := slice.version - removed
    if limit < w then
      pushPhrases job limit v symbol shape preference fuel others (removed + 1) (stack.remove w)
    else
      let place := stack.place w
      let (children, extras) := Subtree.splitTrailing slice.subtrees
      let first := Subtree.ofChildren job.lang job.source symbol shape place children
      let (parent, extras) := bestOf job symbol shape place same (first, extras)
      let parent := parent.modify fun info =>
        { info with preference := info.preference + preference }
      let next := job.lang.next (stack.state w) symbol
      let stack := stack.push job.lang w (some parent) next
      let stack := extras.foldl (fun stack extra => stack.push job.lang w (some extra) next) stack
      match mergeBack job stack v w (List.range w) with
      | some merged => pushPhrases job limit v symbol shape preference fuel others (removed + 1) merged
      | none => pushPhrases job limit v symbol shape preference fuel others removed stack

/-- Finishes a phrase of `count` steps on a version. Gives the first new version, if there is one
that was not merged. -/
def reduce (job : Job) (p : Parser) (v symbol count : Nat) (preference : Int) (shape : Nat) :
    Option Nat × Parser :=
  let before := p.stack.count
  let limit := maxVersions + maxExtraVersions + p.stack.haltedCount
  let (popped, stack) := p.stack.popCount v count
  let stack := pushPhrases job limit v symbol shape preference (popped.length + 1) popped 0 stack
  (if before < stack.count then some before else none, { p with stack })

/-- Finishes a text: what lies on the stack becomes the children of its phrase. -/
def accept (job : Job) (p : Parser) (v : Nat) (lookahead : Subtree) : Parser :=
  let stack := p.stack.push job.lang v (some lookahead) 1
  let (popped, stack) := stack.popAll v
  let trees := popped.filterMap fun slice =>
    let back := slice.subtrees.reverse
    let extras := back.takeWhile (·.info.isExtra)
    match back.drop extras.length with
    | [] => none
    | root :: front =>
      some (Subtree.ofChildren job.lang job.source root.symbol root.info.shape root.info.start
        (front.reverse ++ root.children ++ extras.reverse))
  let finished := trees.foldl (fun best tree =>
    match best with
    | none => some tree
    | some old => if old.isBetter job.lang tree then some tree else some old) p.finished
  let stack := match popped with
    | first :: _ => stack.remove first.version
    | [] => stack
  { p with
    stack := stack.halt v
    finished := finished
    accepted := p.accepted + popped.length }

/-- The phrases that a state can finish before one of some tokens, and whether it can take one of
them. -/
def potentialActions (job : Job) (state : Nat) (tokens : List Nat) : List Action × Bool :=
  tokens.foldl (fun (found, canShift) token =>
    (job.lang.actions state token).foldl (fun (found, canShift) action =>
      match action with
      | .shift _ isRepetition => (found, canShift || !isRepetition)
      | .recover => (found, true)
      | .reduce symbol count _ _ =>
        let isKnown := found.any fun other => match other with
          | .reduce s c _ _ => s == symbol && c == count
          | _ => false
        if count = 0 || isKnown then (found, canShift) else (found ++ [action], canShift)
      | _ => (found, canShift)) (found, canShift)) ([], false)

/-- Makes all reductions that could come before one of some tokens, in a version and in those that
result. Tells whether one of them can then take the token. With `only`, the versions that cannot
are left out. -/
def reduceAll (job : Job) (tokens : List Nat) (only : Bool) (start before : Nat) :
    Nat → Nat → Nat → Bool → Parser → Bool × Parser
  | 0, _, _, can, p => (can, p)
  | fuel + 1, round, v, can, p =>
    let count := p.stack.count
    if count ≤ v then (can, p)
    else
      match mergeBack job p.stack count v ((List.range v).drop before) with
      | some merged => reduceAll job tokens only start before fuel (round + 1) v can
          { p with stack := merged }
      | none =>
        let (reductions, canShift) := potentialActions job (p.stack.state v) tokens
        let (last, p) := reductions.foldl (fun (_, p) action =>
          match action with
          | .reduce symbol count preference shape => reduce job p v symbol count preference shape
          | _ => (none, p)) ((none : Option Nat), p)
        let next := if v = start then count else v + 1
        if canShift then reduceAll job tokens only start before fuel (round + 1) next true p
        else
          match (if round < maxVersions then last else none) with
          | some new => reduceAll job tokens only start before fuel (round + 1) v can
              (p.mapStack (·.renumber new v))
          | none =>
            let p := if only then p.mapStack (·.remove v) else p
            reduceAll job tokens only start before fuel (round + 1) next can p

/-- Bounds the rounds in which reductions are made. -/
def reductionRounds : Nat := 100000

/-- Whether some version is better than a reading at a version's place would be at some cost. Looking
at a version notes its weight. -/
def betterExists (p : Parser) (v : Nat) (isInError : Bool) (cost : Nat) : Bool × Parser := Id.run do
  match p.finished with
  | some tree => if tree.cost ≤ cost then return (true, p)
  | none => pure ()
  let mut p := p.mapStack (·.noteWeight v)
  let place := p.stack.place v
  let own : Standing :=
    { cost, isInError, preference := (p.stack.top v).preference
      weight := p.stack.weightSinceError v }
  for i in [0:p.stack.count] do
    if i != v && p.stack.isActive i && place ≤ p.stack.place i then
      p := p.mapStack (·.noteWeight i)
      match own.compare (p.standing i) with
      | .takeRight => return (true, p)
      | .preferRight => if p.stack.canMerge i v then return (true, p)
      | _ => pure ()
  return (false, p)

/-- Takes a version back to an earlier state: what lies between becomes an error. Tells whether there
was a way. -/
def recoverTo (job : Job) (p : Parser) (v depth goal : Nat) : Bool × Parser := Id.run do
  let (popped, stack) := p.stack.popCount v depth
  let mut stack := stack
  let mut previous : Option Nat := none
  for slice in popped do
    if previous != some slice.version then
      if stack.state slice.version != goal then
        stack := stack.halt slice.version
      else
        let (errors, more) := stack.popError job.lang slice.version
        stack := more
        let before := errors.flatMap (·.children)
        let (children, extras) := Subtree.splitTrailing (before ++ slice.subtrees)
        if !children.isEmpty then
          let error := (Subtree.ofChildren job.lang job.source job.lang.error 0 0 children).modify
            ({ · with isExtra := true })
          stack := stack.push job.lang slice.version (some error) goal
        for extra in extras do
          stack := stack.push job.lang slice.version (some extra) goal
        previous := some slice.version
  return (previous.isSome, { p with stack })

def recoverToPast (job : Job) (v symbol place count : Nat) (weight cost : Nat) :
    List PastState → Parser → Bool × Parser
  | [], p => (false, p)
  | entry :: rest, p =>
    let goOn := fun p => recoverToPast job v symbol place count weight cost rest p
    if entry.state = 0 || entry.place = place then goOn p
    else if (List.range count).any fun j =>
        p.stack.state j == entry.state && p.stack.place j == place then goOn p
    else
      let newCost := cost + entry.depth * Subtree.costPerSkippedTree +
        job.source.bytesBetween entry.place place * Subtree.costPerSkippedByte +
        job.source.rowsBetween entry.place place * Subtree.costPerSkippedLine
      let (isWorse, p) := p.betterExists v false newCost
      if isWorse then (false, p)
      else if (job.lang.actions entry.state symbol).isEmpty then goOn p
      else
        let depth := if 0 < weight then entry.depth + 1 else entry.depth
        let (done, p) := p.recoverTo job v depth entry.state
        if done then (true, p) else goOn p

def dropInactive (stack : Stack) (start : Nat) : Stack :=
  { stack with
    versions := stack.versions.zipIdx.filterMap fun (version, i) =>
      if i < start || stack.isActive i then some version else none }

def isAlwaysExtra (job : Job) (symbol : Nat) : Bool :=
  match (job.lang.actions 1 symbol).getLast? with
  | some .shiftExtra => true
  | _ => false

/-- Passes over a token: it is added to the tokens that were passed over before. -/
def skip (job : Job) (p : Parser) (v : Nat) (lookahead : Subtree) : Parser :=
  let token := if isAlwaysExtra job lookahead.symbol then
      lookahead.modify ({ · with isExtra := true }) else lookahead
  let single := Subtree.ofChildren job.lang job.source job.lang.errorRun 0 0 [token]
  let weight := p.stack.weightSinceError v
  let (run, stack) :=
    if 0 < weight then
      match p.stack.popCount v 1 with
      | (first :: _, stack) =>
        let stack := { stack with versions := stack.versions.take (first.version + 1) }
        let stack := stack.renumber first.version v
        (Subtree.ofChildren job.lang job.source job.lang.errorRun 0 0 (first.subtrees ++ [single]),
          stack)
      | ([], stack) => (single, stack)
    else (single, p.stack)
  { p with stack := stack.push job.lang v (some run) 0 }

/-- Mends a version that is in the state for errors: it goes back to a state that can take the token,
and a copy passes over the token. -/
def recover (job : Job) (p : Parser) (v : Nat) (lookahead : Subtree) : Parser :=
  let before := p.stack.count
  let p := p.mapStack (·.noteWeight v)
  let place := p.stack.place v
  let weight := p.stack.weightSinceError v
  let cost := p.stack.cost v
  let past := (p.stack.version v).past
  let (didRecover, p) :=
    if lookahead.symbol == job.lang.error then (false, p)
    else recoverToPast job v lookahead.symbol place before weight cost past p
  let p := p.mapStack (dropInactive · before)
  if lookahead.symbol = 0 then
    let error := Subtree.ofChildren job.lang job.source job.lang.error 0 place []
    let p := p.mapStack (·.push job.lang v (some error) 1)
    p.accept job v lookahead
  else if didRecover && maxVersions < p.stack.count then p.mapStack (·.halt v)
  else
    let newCost := cost + Subtree.costPerSkippedTree +
      job.source.bytesBetween lookahead.info.front lookahead.info.stop *
        Subtree.costPerSkippedByte +
      job.source.rowsBetween lookahead.info.front lookahead.info.stop *
        Subtree.costPerSkippedLine
    let (isWorse, p) := p.betterExists v false newCost
    if isWorse then p.mapStack (·.halt v) else p.skip job v lookahead

/-- The tokens that reductions are made for when one token is to follow. Nothing but the end of the
text may follow the end, so any token will do before it. -/
def tokensBefore (job : Job) (next : Nat) : List Nat :=
  if next = 0 then job.lang.tokenOrder.toList else [next]

def insertMissing (job : Job) (p : Parser) (v place next : Nat) : List Nat → Option Parser × Parser
  | [] => (none, p)
  | token :: rest =>
    let state := p.stack.state v
    let after := job.lang.next state token
    let helps := after != 0 && after != state &&
      match (job.lang.actions after next).head? with
      | some (.reduce _ _ _ _) => true
      | _ => false
    if helps then
      let (w, stack) := p.stack.copy v
      let stack := stack.push job.lang w (some (.missing token place)) after
      let (can, p) := reduceAll job (tokensBefore job next) (next != 0) w stack.count
        reductionRounds 0 w false { p with stack }
      if can then (some p, p) else insertMissing job p v place next rest
    else insertMissing job p v place next rest

/-- Lets an error begin in a version and in those that result from it by reductions, which are
merged; tells whether a missing token was put in on the way. -/
def beginErrors (job : Job) (v before count place next : Nat) :
    Nat → Nat → Bool → Parser → Parser
  | 0, _, _, p => p
  | fuel + 1, w, didInsert, p =>
    if count ≤ w then p
    else
      let (didInsert, p) :=
        if didInsert then (true, p)
        else match insertMissing job p w place next job.lang.tokenOrder.toList with
          | (some p, _) => (true, p)
          | (none, p) => (false, p)
      let p := p.mapStack (·.push job.lang w none 0)
      beginErrors job v before count place next fuel (if w = v then before else w + 1) didInsert p

def handleError (job : Job) (p : Parser) (v : Nat) (lookahead : Subtree) : Parser :=
  let before := p.stack.count
  let (_, p) := reduceAll job (tokensBefore job 0) false v before reductionRounds 0 v false p
  let count := p.stack.count
  let place := p.stack.place v
  let p := beginErrors job v before count place lookahead.symbol (count + 2) v false p
  let stack := (List.range (count - before)).foldl (fun (stack : Stack) _ =>
    (stack.merge? job.lang job.source v before).getD stack) p.stack
  let p := { p with stack := stack.recordPast v }
  p.recover job v lookahead

inductive Outcome where
  | done
  /-- Phrases were finished; the first new version is given, unless all were merged. -/
  | reduced (version : Option Nat)
  | stuck

def tryActions (job : Job) (v state : Nat) (lookahead : Subtree) :
    List Action → Outcome → Parser → Outcome × Parser
  | [], outcome, p => (outcome, p)
  | action :: rest, outcome, p =>
    match action with
    | .shift next isRepetition =>
      if isRepetition then tryActions job v state lookahead rest outcome p
      else
        let token := lookahead.modify ({ · with isExtra := false })
        (.done, p.mapStack (·.push job.lang v (some token) next))
    | .shiftExtra =>
      let token := lookahead.modify ({ · with isExtra := true })
      (.done, p.mapStack (·.push job.lang v (some token) state))
    | .reduce symbol count preference shape =>
      let (new, p) := reduce job p v symbol count preference shape
      let outcome := match new, outcome with
        | some w, _ => .reduced (some w)
        | none, .reduced w => .reduced w
        | none, _ => .reduced none
      tryActions job v state lookahead rest outcome p
    | .accept => (.done, p.accept job v lookahead)
    | .recover => (.done, p.recover job v lookahead)

def advance (job : Job) (v : Nat) : Nat → Subtree → Parser → Parser
  | 0, _, p => p
  | fuel + 1, lookahead, p =>
    let state := p.stack.state v
    let actions := job.lang.actions state lookahead.symbol
    match tryActions job v state lookahead actions .stuck p with
    | (.done, p) => p
    | (.reduced (some w), p) => advance job v fuel lookahead (p.mapStack (·.renumber w v))
    | (.reduced none, p) => p.mapStack (·.halt v)
    | (.stuck, p) =>
      let canBeName := lookahead.info.isKeyword && lookahead.symbol != job.lang.word &&
        !(job.lang.actions state job.lang.word).isEmpty
      if canBeName then
        advance job v fuel (lookahead.modify ({ · with symbol := job.lang.word })) p
      else if state = 0 then p.recover job v lookahead
      else p.mapStack (·.pause v lookahead)

def advanceAll (job : Job) (v : Nat) : Nat → Nat → Parser → Nat × Parser
  | 0, last, p => (last, p)
  | fuel + 1, last, p =>
    if !p.stack.isActive v then (last, p)
    else
      let (token, p) := p.lookahead job v (p.stack.state v)
      let p := advance job v (100 * (p.stack.nodes.size + 100)) token p
      let place := p.stack.place v
      if last < place || (0 < v && place = last) then (place, p)
      else advanceAll job v fuel last p

def advanceVersions (job : Job) : Nat → Nat → Nat → Parser → Nat × Parser
  | 0, _, last, p => (last, p)
  | fuel + 1, v, last, p =>
    if p.stack.count ≤ v then (last, p)
    else
      let (last, p) := advanceAll job v (job.source.size + 1000) last p
      advanceVersions job fuel (v + 1) last p

/-- Compares a version with the earlier ones from `j` on. Gives the place from which to go on. -/
def compareBack (job : Job) (own : Standing) : Nat → Nat → Nat → Stack → Parser → Nat × Stack
  | 0, _, i, stack, _ => (i + 1, stack)
  | fuel + 1, j, i, stack, p =>
    if i ≤ j then (i + 1, stack)
    else
      let other := ({ p with stack } : Parser).standing j
      match other.compare own with
      | .takeLeft => (i, stack.remove i)
      | .preferLeft | .equal =>
        match stack.merge? job.lang job.source j i with
        | some merged => (i, merged)
        | none => compareBack job own fuel (j + 1) i stack p
      | .preferRight =>
        match stack.merge? job.lang job.source j i with
        | some merged => (i, merged)
        | none => compareBack job own fuel (j + 1) i (stack.swap i j) p
      | .takeRight => compareBack job own fuel j (i - 1) (stack.remove j) p

/-- Leaves out versions that are given up or much worse than another one, merges what can be merged
and puts better ones first. Gives the least cost of a version that is not in error. -/
def condense (job : Job) : Nat → Nat → Option Nat → Parser → Option Nat × Parser
  | 0, _, least, p => (least, p)
  | fuel + 1, i, least, p =>
    if p.stack.count ≤ i then (least, p)
    else if p.stack.isHalted i then condense job fuel i least (p.mapStack (·.remove i))
    else
      let own := p.standing i
      let least := if own.isInError then least
        else some (match least with
          | some n => min n own.cost
          | none => own.cost)
      let (next, stack) := compareBack job own (p.stack.count + 1) 0 i p.stack p
      condense job fuel next least { p with stack }

/-- Mends the first version that waits, unless an earlier one goes on; the others that wait are left
out. -/
def resume (job : Job) : Nat → Nat → Nat → Bool → Option Nat → Parser → Option Nat × Parser
  | 0, _, _, _, least, p => (least, p)
  | fuel + 1, i, count, hasOther, least, p =>
    if count ≤ i then (least, p)
    else
      match (p.stack.version i).status with
      | .paused lookahead =>
        if !hasOther && p.accepted < maxVersions then
          let least := some (p.stack.cost i)
          let p := p.mapStack (·.modify i ({ · with status := .active }))
          let p := p.handleError job i lookahead
          resume job fuel (i + 1) count true least p
        else resume job fuel i (count - 1) hasOther least (p.mapStack (·.remove i))
      | _ => resume job fuel (i + 1) count true least p

def run (job : Job) : Nat → Nat → Parser → Parser
  | 0, _, p => p
  | fuel + 1, last, p =>
    let (last, p) := advanceVersions job (fuel + 1) 0 last p
    let p := (List.range p.stack.count).foldl (fun p v => p.mapStack (·.noteWeight v)) p
    let (least, p) := condense job (10 * (p.stack.count + 10)) 0 none p
    let p := p.mapStack fun stack => { stack with versions := stack.versions.take maxVersions }
    let (least, p) := resume job (p.stack.count + 1) 0 p.stack.count false least p
    let isDone := match p.finished, least with
      | some tree, some n => tree.cost < n
      | some _, none => true
      | none, _ => false
    if isDone || p.stack.count = 0 then p else run job fuel last p

end Parser

@[irreducible]
def Language.parse (lang : Language) (scanner : Scanner) (text : String) : Option SyntaxTree :=
  let source := Source.ofString text
  let job : Job := { lang, scanner, source }
  let start : Parser := { stack := Stack.start 1, finished := none, accepted := 0, cache := none }
  let p := Parser.run job (100 * source.size + 1000) 0 start
  p.finished.bind fun tree => (SyntaxTree.ofSubtree lang source none none tree).head?

end UsedSelectors.Parsing
