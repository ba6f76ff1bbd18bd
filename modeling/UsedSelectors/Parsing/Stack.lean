import UsedSelectors.Parsing.Subtree

/-!
# The stack of the parser

Several readings of a text are followed side by side, each one a version of the stack. Versions
share what they have in common: the stack is a graph whose links lead towards the start of the
text. Versions that come to the same state at the same place are merged, and a merged version has
several ways back.
-/

namespace UsedSelectors.Parsing

/-- A way back on the stack. Where an error began there is no subtree. -/
structure StackLink where
  target : Nat
  subtree : Option Subtree
  deriving Inhabited

structure StackNode where
  state : Nat
  place : Nat
  links : List StackLink
  cost : Nat
  weight : Nat
  preference : Int
  deriving Inhabited

inductive Status where
  | active
  | paused (lookahead : Subtree)
  | halted
  deriving Inhabited

/-- A state that a version was in before an error: how far back, where, and which state. -/
structure PastState where
  place : Nat
  depth : Nat
  state : Nat
  deriving Inhabited

structure Version where
  top : Nat
  weightAtError : Nat
  status : Status
  past : List PastState
  deriving Inhabited

structure Stack where
  nodes : Array StackNode
  versions : Array Version
  deriving Inhabited

structure Popped where
  version : Nat
  subtrees : List Subtree
  deriving Inhabited

namespace Stack

def start (state : Nat) : Stack :=
  ⟨#[⟨state, 0, [], 0, 0, 0⟩], #[⟨0, 0, .active, []⟩]⟩

def node (s : Stack) (i : Nat) : StackNode := s.nodes.getD i default

def version (s : Stack) (v : Nat) : Version := s.versions.getD v default

def top (s : Stack) (v : Nat) : StackNode := s.node (s.version v).top

def count (s : Stack) : Nat := s.versions.size

def state (s : Stack) (v : Nat) : Nat := (s.top v).state

def place (s : Stack) (v : Nat) : Nat := (s.top v).place

def isActive (s : Stack) (v : Nat) : Bool :=
  match (s.version v).status with
  | .active => true
  | _ => false

def isPaused (s : Stack) (v : Nat) : Bool :=
  match (s.version v).status with
  | .paused _ => true
  | _ => false

def isHalted (s : Stack) (v : Nat) : Bool :=
  match (s.version v).status with
  | .halted => true
  | _ => false

def modify (s : Stack) (v : Nat) (f : Version → Version) : Stack :=
  { s with versions := s.versions.modify v f }

def remove (s : Stack) (v : Nat) : Stack :=
  { s with versions := s.versions.eraseIdxIfInBounds v }

def halt (s : Stack) (v : Nat) : Stack := s.modify v ({ · with status := .halted })

def pause (s : Stack) (v : Nat) (lookahead : Subtree) : Stack :=
  let weight := (s.top v).weight
  s.modify v ({ · with status := .paused lookahead, weightAtError := weight })

def haltedCount (s : Stack) : Nat :=
  (List.range s.count).countP s.isHalted

def cost (s : Stack) (v : Nat) : Nat :=
  let top := s.top v
  let beginsError := top.state = 0 && match top.links with
    | link :: _ => link.subtree.isNone
    | [] => false
  if s.isPaused v || beginsError then top.cost + Subtree.costPerRecovery else top.cost

def weightSinceError (s : Stack) (v : Nat) : Nat := (s.top v).weight - (s.version v).weightAtError

def noteWeight (s : Stack) (v : Nat) : Stack :=
  let weight := (s.top v).weight
  s.modify v fun version => { version with weightAtError := min version.weightAtError weight }

/-- Puts a subtree on a version, which goes to a state. Without a subtree an error begins. -/
def push (lang : Language) (s : Stack) (v : Nat) (subtree : Option Subtree) (state : Nat) : Stack :=
  let old := s.top v
  let link : StackLink := ⟨(s.version v).top, subtree⟩
  let new : StackNode := match subtree with
    | some t =>
      { state, place := t.info.stop, links := [link], cost := old.cost + t.cost
        weight := old.weight + t.weight lang, preference := old.preference + t.info.preference }
    | none => { old with state, links := [link] }
  let i := s.nodes.size
  let s := { s with nodes := s.nodes.push new }
  s.modify v fun version =>
    { version with
      top := i
      weightAtError := if subtree.isNone then new.weight else version.weightAtError }

def maxLinks : Nat := 8

def linkPreference (s : Stack) (link : StackLink) : Int :=
  (s.node link.target).preference + ((link.subtree.map (·.info.preference)).getD 0)

def sameSubtree (source : Source) : Option Subtree → Option Subtree → Bool
  | none, none => true
  | some a, some b => a.isEquivalent source b
  | _, _ => false

/-- Gives a node another way back. A way that an old one can stand for is joined with it; `fuel`
bounds how far back nodes are joined. -/
def addLink (lang : Language) (source : Source) : Nat → Nat → StackLink → Stack → Stack
  | 0, _, _, s => s
  | fuel + 1, i, link, s =>
    if link.target = i then s
    else
      let links := (s.node i).links
      let target := s.node link.target
      let candidates := links.zipIdx.filter fun (old, _) => sameSubtree source old.subtree link.subtree
      let isJoinable := fun (old : StackLink) =>
        let other := s.node old.target
        old.target == link.target ||
          (other.state == target.state && other.place == target.place && other.cost == target.cost)
      match candidates.find? (fun entry => isJoinable entry.1) with
      | some (old, k) =>
        if old.target = link.target then
          let preference := fun (l : StackLink) => (l.subtree.map (·.info.preference)).getD 0
          if preference old < preference link then
            { s with nodes := s.nodes.modify i fun n =>
                { n with
                  links := n.links.set k { old with subtree := link.subtree }
                  preference := target.preference + preference link } }
          else s
        else
          let s := target.links.foldl
            (fun s other => addLink lang source fuel old.target other s) s
          let preference := s.linkPreference link
          { s with nodes := s.nodes.modify i fun n =>
              { n with preference := max n.preference preference } }
      | none =>
        if maxLinks ≤ links.length then s
        else
          let weight := target.weight + ((link.subtree.map (·.weight lang)).getD 0)
          let preference := s.linkPreference link
          { s with nodes := s.nodes.modify i fun n =>
              { n with
                links := n.links ++ [link]
                weight := max n.weight weight
                preference := max n.preference preference } }

def canMerge (s : Stack) (v w : Nat) : Bool :=
  let a := s.top v
  let b := s.top w
  s.isActive v && s.isActive w && a.state == b.state && a.place == b.place && a.cost == b.cost

def merge? (lang : Language) (source : Source) (s : Stack) (v w : Nat) : Option Stack :=
  if s.canMerge v w then
    let i := (s.version v).top
    let s := (s.top w).links.foldl
      (fun s link => addLink lang source (s.nodes.size + 1) i link s) s
    let top := s.node i
    let s := if top.state = 0 then s.modify v ({ · with weightAtError := top.weight }) else s
    some (s.remove w)
  else none

def renumber (s : Stack) (v w : Nat) : Stack :=
  if v = w then s
  else
    let new := s.version v
    let old := s.version w
    let new := if new.past.isEmpty then { new with past := old.past } else new
    ({ s with versions := s.versions.set! w new }).remove v

def copy (s : Stack) (v : Nat) : Nat × Stack :=
  (s.count, { s with versions := s.versions.push { s.version v with past := [] } })

def swap (s : Stack) (v w : Nat) : Stack :=
  { s with versions := s.versions.swapIfInBounds v w }

/-- A walk back on the stack: the node reached, the subtrees on the way, and how many of them were
no extras. -/
structure Walk where
  node : Nat
  /-- The subtrees, the first one of the text in front. -/
  subtrees : List Subtree
  count : Nat
  deriving Inhabited

structure Visit where
  take : Bool
  stop : Bool

def maxWalks : Nat := 64

def Walk.step (walk : Walk) (link : StackLink) : Walk :=
  match link.subtree with
  | some t =>
    ⟨link.target, t :: walk.subtrees, if t.info.isExtra then walk.count else walk.count + 1⟩
  | none => ⟨link.target, walk.subtrees, walk.count + 1⟩

/-- Goes back from a version in all ways, a link at a time for each walk. `visit` decides at each
node and may keep notes. The walks that are taken are listed in the order of taking. -/
def walkBack {σ : Type} (s : Stack) (v : Nat) (visit : Walk → σ → Visit × σ) (notes : σ) :
    List Walk × σ := Id.run do
  let mut walks : Array Walk := #[⟨(s.version v).top, [], 0⟩]
  let mut taken : Array Walk := #[]
  let mut notes := notes
  -- no walk is longer than the stack has nodes
  for _ in [0:s.nodes.size + 1] do
    if walks.isEmpty then break
    let mut kept : Array Walk := #[]
    let mut branched : Array Walk := #[]
    let total := walks.size
    let mut gone := 0
    for walk in walks do
      let links := (s.node walk.node).links
      let (act, more) := visit walk notes
      notes := more
      if act.take then taken := taken.push walk
      match links with
      | [] => gone := gone + 1
      | first :: others =>
        if act.stop then gone := gone + 1
        else
          for link in others do
            if total - gone + branched.size < maxWalks then
              branched := branched.push (walk.step link)
          kept := kept.push (walk.step first)
    walks := kept ++ branched
  return (taken.toList, notes)

/-- Makes a version for each walk that was taken; walks that end at the same node share one. -/
def addPopped (s : Stack) (v : Nat) (taken : List Walk) : List Popped × Stack :=
  taken.foldl (fun (found, s) walk =>
    match found.findIdx? (fun (p : Popped) => (s.version p.version).top == walk.node) with
    | some _ =>
      -- behind the last one of the same version
      let back := found.reverse
      let after := back.takeWhile fun p => (s.version p.version).top != walk.node
      let upTo := back.drop after.length
      let version := (upTo.head?.map (·.version)).getD 0
      (upTo.reverse ++ [⟨version, walk.subtrees⟩] ++ after.reverse, s)
    | none =>
      let version := { s.version v with top := walk.node, status := .active, past := [] }
      (found ++ [⟨s.count, walk.subtrees⟩], { s with versions := s.versions.push version }))
    ([], s)

def popCount (s : Stack) (v count : Nat) : List Popped × Stack :=
  let (taken, _) := s.walkBack v
    (fun walk notes => (⟨walk.count == count, walk.count == count⟩, notes)) ()
  s.addPopped v taken

def popAll (s : Stack) (v : Nat) : List Popped × Stack :=
  let (taken, _) := s.walkBack v
    (fun walk notes => (⟨(s.node walk.node).links.isEmpty, false⟩, notes)) ()
  s.addPopped v taken

/-- Goes back over an error at the top of a version, if there is one; gives its subtrees. -/
def popError (lang : Language) (s : Stack) (v : Nat) : List Subtree × Stack :=
  let isError := fun (t : Subtree) => t.symbol == lang.error
  if (s.top v).links.any (fun link => (link.subtree.map isError).getD false) then
    let (taken, _) := s.walkBack v
      (fun walk (found : Bool) =>
        match walk.subtrees.getLast? with
        | some t => if !found && isError t then (⟨true, true⟩, true) else (⟨false, true⟩, found)
        | none => (⟨false, false⟩, found)) false
    match s.addPopped v taken with
    | (first :: _, s) => (first.subtrees, s.renumber first.version v)
    | ([], s) => ([], s)
  else ([], s)

def maxPastDepth : Nat := 16

def notePast (node : StackNode) (depth : Nat) (past : Array PastState) : Array PastState :=
  let same := past.toList.reverse.takeWhile fun entry => depth ≤ entry.depth
  if same.any fun entry => entry.depth == depth && entry.state == node.state then past
  else past.push ⟨node.place, depth, node.state⟩

def recordPast (s : Stack) (v : Nat) : Stack :=
  let (_, past) := s.walkBack v
    (fun walk past =>
      if maxPastDepth < walk.count then (⟨false, true⟩, past)
      else (⟨false, false⟩, notePast (s.node walk.node) walk.count past)) (#[] : Array PastState)
  s.modify v ({ · with past := past.toList })

/-- Whether a version has read anything since its last error; `fuel` bounds the way back. -/
def hasAdvancedFrom (s : Stack) (weightAtError : Nat) : Nat → StackNode → Bool
  | 0, _ => false
  | fuel + 1, node =>
    match node.links with
    | [] => false
    | link :: _ => match link.subtree with
      | none => false
      | some t =>
        if t.info.front < t.info.stop then true
        else if weightAtError < node.weight && t.cost = 0 then
          hasAdvancedFrom s weightAtError fuel (s.node link.target)
        else false

def hasAdvanced (s : Stack) (v : Nat) : Bool :=
  (s.top v).cost = 0 ||
    s.hasAdvancedFrom (s.version v).weightAtError (s.nodes.size + 1) (s.top v)

end Stack

end UsedSelectors.Parsing
