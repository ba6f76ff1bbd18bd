/-!
# Sets of characters

A set is kept as disjoint runs of code points in increasing order that do not touch, so two sets
have the same members exactly when they are equal.
-/

namespace UsedSelectors.Parsing

/-- A set of code points: increasing runs with a gap between neighbours. -/
structure CharSet where
  /-- The first and the last code point of each run. -/
  runs : List (Nat × Nat)
  deriving BEq, Hashable, Inhabited

namespace CharSet

def empty : CharSet := ⟨[]⟩

def isEmpty (s : CharSet) : Bool := s.runs.isEmpty

def contains (s : CharSet) (n : Nat) : Bool :=
  s.runs.any (fun run => run.1 ≤ n && n ≤ run.2)

/-- Joins runs that overlap or touch; the runs come in the order of their starts. -/
def joinRuns : List (Nat × Nat) → List (Nat × Nat)
  | [] => []
  | run :: rest =>
    match joinRuns rest with
    | [] => [run]
    | next :: more =>
      if next.1 ≤ run.2 + 1 then (run.1, max run.2 next.2) :: more else run :: next :: more

def ofRuns (runs : List (Nat × Nat)) : CharSet :=
  ⟨joinRuns (runs.mergeSort (fun a b => a.1 ≤ b.1))⟩

def ofString (s : String) : CharSet := ofRuns (s.toList.map (fun c => (c.toNat, c.toNat)))

def single (c : Char) : CharSet := ⟨[(c.toNat, c.toNat)]⟩

def range (first last : Char) : CharSet := ⟨[(first.toNat, last.toNat)]⟩

def union (s t : CharSet) : CharSet := ofRuns (s.runs ++ t.runs)

def cutRun (cut : Nat × Nat) (runs : List (Nat × Nat)) : List (Nat × Nat) :=
  runs.flatMap fun run =>
    if run.2 < cut.1 || cut.2 < run.1 then [run]
    else
      (if run.1 < cut.1 then [(run.1, cut.1 - 1)] else []) ++
        (if cut.2 < run.2 then [(cut.2 + 1, run.2)] else [])

def diff (s t : CharSet) : CharSet := ⟨t.runs.foldl (fun runs cut => cutRun cut runs) s.runs⟩

def inter (s t : CharSet) : CharSet :=
  ⟨s.runs.flatMap fun run => t.runs.filterMap fun other =>
    let first := max run.1 other.1
    let last := min run.2 other.2
    if first ≤ last then some (first, last) else none⟩

def all : CharSet := ⟨[(1, 0x10FFFF)]⟩

/-- Every code point that is not in a set; never U+0000. -/
def negate (s : CharSet) : CharSet := all.diff s

def meets (s t : CharSet) : Bool := !(s.inter t).isEmpty

end CharSet

end UsedSelectors.Parsing
