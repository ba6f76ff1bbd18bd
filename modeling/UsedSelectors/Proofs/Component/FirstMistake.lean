import UsedSelectors.Proofs.Component.Failures
import UsedSelectors.Proofs.Text.Position

/-!
# Which mistake is reported

A search for the first mistake leaves out children that are not suspect. It finds the mistake that
comes first, in pre-order, among the nodes that only suspect children lead to. When the flags of a
tree agree with its nodes, these are all the mistakes there are; so a module with a mistake fails at
its first one, whose place and wording are in the error, and a module without mistakes never fails
with a syntax error.
-/

namespace UsedSelectors.SyntaxTree

/-- A node stands at an address below another one, and every child on the way passes a test. -/
inductive ReachedVia (p : SyntaxTree → Bool) : SyntaxTree → Address → SyntaxTree → Prop where
  | here {t : SyntaxTree} : ReachedVia p t [] t
  | inside {t c u : SyntaxTree} {i : Nat} {a : Address} (child : t.children[i]? = some c)
      (passes : p c = true) (rest : ReachedVia p c a u) : ReachedVia p t (i :: a) u

/-- A mistake at a place with a property, and no other such mistake comes before it. -/
structure IsFirstMistake (P : Address → SyntaxTree → Prop) (a : Address) (t : SyntaxTree) :
    Prop where
  place : P a t
  isMistake : t.isMistake = true
  first : ∀ b u, P b u → u.isMistake = true → b ≠ a → a < b

/-- The flags of a tree agree with its nodes: a node is flagged exactly when it is a mistake or
there is one below it. -/
def FlagsAgree (root : SyntaxTree) : Prop :=
  ∀ a t, root.at? a = some t →
    (t.label.hasError = true ↔ ∃ b u, t.at? b = some u ∧ u.isMistake = true)

/-! ## Nodes that a test leads to -/

mutual

/-- The nodes of a tree that only children passing a test lead to, in pre-order. -/
def nodesVia (p : SyntaxTree → Bool) : SyntaxTree → List SyntaxTree
  | node label field cs => node label field cs :: nodesBelowVia p cs

def nodesBelowVia (p : SyntaxTree → Bool) : List SyntaxTree → List SyntaxTree
  | [] => []
  | c :: cs => if p c then nodesVia p c ++ nodesBelowVia p cs else nodesBelowVia p cs

end

theorem nodesBelowVia_eq (p : SyntaxTree → Bool) (cs : List SyntaxTree) :
    nodesBelowVia p cs = (cs.filter p).flatMap (nodesVia p) := by
  induction cs with
  | nil => rfl
  | cons c cs ih =>
      rw [nodesBelowVia]
      cases passes : p c with
      | true => rw [List.filter_cons_of_pos passes, List.flatMap_cons, ← ih, if_pos rfl]
      | false => rw [List.filter_cons_of_neg (by simp [passes]), ← ih, if_neg (by simp)]

theorem nodesVia_eq (p : SyntaxTree → Bool) (t : SyntaxTree) :
    nodesVia p t = t :: (t.children.filter p).flatMap (nodesVia p) := by
  cases t with
  | node label field cs => rw [nodesVia, nodesBelowVia_eq, children]

theorem reachedVia_nil_iff {p : SyntaxTree → Bool} {t u : SyntaxTree} :
    ReachedVia p t [] u ↔ u = t := by
  constructor
  · rintro ⟨⟩
    rfl
  · rintro rfl
    exact .here

theorem reachedVia_cons_iff {p : SyntaxTree → Bool} {t u : SyntaxTree} {i : Nat} {a : Address} :
    ReachedVia p t (i :: a) u ↔
      ∃ c, t.children[i]? = some c ∧ p c = true ∧ ReachedVia p c a u := by
  constructor
  · intro reached
    cases reached with
    | inside child passes rest => exact ⟨_, child, passes, rest⟩
  · rintro ⟨c, child, passes, rest⟩
    exact .inside child passes rest

/-- The nodes are listed in pre-order, each once. -/
theorem inOrder_nodesVia (p : SyntaxTree → Bool) (t : SyntaxTree) :
    InOrder (nodesVia p t) (ReachedVia p t) := by
  induction hsize : t.size using Nat.strongRecOn generalizing t with
  | ind size ih =>
      have below : ∀ c ∈ t.children, p c = true → InOrder (nodesVia p c) (ReachedVia p c) := by
        intro c hc _
        have := Component.size_le_of_mem hc
        have := t.size_eq
        exact ih c.size (by omega) c rfl
      rw [nodesVia_eq]
      refine ((InOrder.here t).append (InOrder.belowFilter below) ?_).congr fun a u => ?_
      · rintro _ _ _ _ ⟨rfl, _⟩ ⟨i, _, b, _, _, rfl, _⟩
        exact List.nil_lt_cons i b
      · cases a with
        | nil => simp [reachedVia_nil_iff]
        | cons i a =>
            rw [reachedVia_cons_iff]
            constructor
            · rintro (⟨impossible, _⟩ | ⟨_, c, _, child, passes, same, rest⟩)
              · cases impossible
              · cases same
                exact ⟨c, child, passes, rest⟩
            · rintro ⟨c, child, passes, rest⟩
              exact .inr ⟨i, c, a, child, passes, rfl, rest⟩

theorem InOrder.find?_eq_some_iff {nodes : List SyntaxTree} {P : Address → SyntaxTree → Prop}
    (h : InOrder nodes P) {q : SyntaxTree → Bool} {t : SyntaxTree} :
    nodes.find? q = some t ↔
      ∃ a, P a t ∧ q t = true ∧ ∀ b u, P b u → q u = true → b ≠ a → a < b := by
  obtain ⟨placed, rfl, sorted, mem⟩ := h
  rw [List.find?_map, Option.map_eq_some_iff]
  constructor
  · rintro ⟨⟨a, t⟩, found, rfl⟩
    obtain ⟨passes, before, after, rfl, fails⟩ := List.find?_eq_some_iff_append.mp found
    refine ⟨a, (mem a t).mp (by simp), passes, fun b u hu qu other => ?_⟩
    have hmem := (mem b u).mpr hu
    rcases List.mem_append.mp hmem with hbefore | hafter
    · have := fails (b, u) hbefore
      simp [qu] at this
    · rcases List.mem_cons.mp hafter with same | hafter
      · cases same
        exact absurd rfl other
      · obtain ⟨_, sortedAfter, _⟩ := List.pairwise_append.mp sorted
        exact (List.pairwise_cons.mp sortedAfter).1 (b, u) hafter
  · rintro ⟨a, ht, passes, first⟩
    obtain ⟨before, after, rfl⟩ := List.append_of_mem ((mem a t).mpr ht)
    refine ⟨(a, t), List.find?_eq_some_iff_append.mpr ⟨passes, before, after, rfl, ?_⟩, rfl⟩
    rintro ⟨b, u⟩ hbefore
    obtain ⟨_, _, across⟩ := List.pairwise_append.mp sorted
    have earlier : b < a := across (b, u) hbefore (a, t) List.mem_cons_self
    rw [Bool.not_eq_true', Bool.eq_false_iff]
    intro qu
    have hu : P b u := (mem b u).mp (List.mem_append_left _ hbefore)
    have other : b ≠ a := by
      rintro rfl
      exact List.lt_irrefl b earlier
    exact List.lt_asymm earlier (first b u hu qu other)

/-! ## The search -/

theorem firstMistakeIn_eq_find? (pending : List SyntaxTree) :
    firstMistakeIn pending = (pending.flatMap (nodesVia isSuspect)).find? isMistake := by
  induction pending using firstMistakeIn.induct with
  | case1 => rw [firstMistakeIn]; rfl
  | case2 t rest isMistake =>
      rw [firstMistakeIn, if_pos isMistake, List.flatMap_cons, nodesVia_eq, List.cons_append,
        List.find?_cons_of_pos isMistake]
  | case3 t rest notMistake ih =>
      rw [firstMistakeIn, if_neg notMistake, ih, List.flatMap_append, List.flatMap_cons,
        nodesVia_eq isSuspect t, List.cons_append, List.find?_cons_of_neg notMistake]

theorem firstMistake?_eq_some_iff {root t : SyntaxTree} :
    root.firstMistake? = some t ↔ ∃ a, IsFirstMistake (ReachedVia isSuspect root) a t := by
  rw [firstMistake?, firstMistakeIn_eq_find?, List.flatMap_singleton,
    (inOrder_nodesVia isSuspect root).find?_eq_some_iff]
  constructor
  · rintro ⟨a, place, isMistake, first⟩
    exact ⟨a, place, isMistake, first⟩
  · rintro ⟨a, place, isMistake, first⟩
    exact ⟨a, place, isMistake, first⟩

/-- The search finds nothing only if there is nothing that it could find. -/
theorem firstMistake?_eq_none_iff {root : SyntaxTree} :
    root.firstMistake? = none ↔ ∀ a t, ReachedVia isSuspect root a t → t.isMistake = false := by
  rw [firstMistake?, firstMistakeIn_eq_find?, List.flatMap_singleton, List.find?_eq_none]
  simp only [(inOrder_nodesVia isSuspect root).mem_iff, Bool.not_eq_true]
  constructor
  · intro none a t place
    exact none t ⟨a, place⟩
  · rintro none t ⟨a, place⟩
    exact none a t place

/-! ## Flags that agree -/

theorem ReachedVia.at? {p : SyntaxTree → Bool} {root t : SyntaxTree} {a : Address}
    (reached : ReachedVia p root a t) : root.at? a = some t := by
  induction reached with
  | here => rfl
  | inside child _ _ ih =>
      rw [SyntaxTree.at?, child]
      exact ih

theorem flagsAgree_node {label : SyntaxLabel} {field : Option String} {cs : List SyntaxTree} :
    (node label field cs).FlagsAgree ↔
      (label.hasError = true ↔
        (node label field cs).isMistake = true ∨ ∃ c ∈ cs, c.label.hasError = true) ∧
      ∀ c ∈ cs, c.FlagsAgree := by
  have belowIff (each : ∀ c ∈ cs, c.FlagsAgree) :
      (∃ a t, (node label field cs).at? a = some t ∧ t.isMistake = true) ↔
        (node label field cs).isMistake = true ∨ ∃ c ∈ cs, c.label.hasError = true := by
    constructor
    · rintro ⟨a, t, found, isMistake⟩
      cases a with
      | nil =>
          cases found
          exact .inl isMistake
      | cons i a =>
          obtain ⟨c, child, found⟩ := Option.bind_eq_some_iff.mp found
          have hc := List.mem_of_getElem? child
          exact .inr ⟨c, hc, (each c hc [] c rfl).mpr ⟨a, t, found, isMistake⟩⟩
    · rintro (isMistake | ⟨c, hc, flagged⟩)
      · exact ⟨[], _, rfl, isMistake⟩
      · obtain ⟨a, t, found, isMistake⟩ := (each c hc [] c rfl).mp flagged
        obtain ⟨i, child⟩ := List.mem_iff_getElem?.mp hc
        refine ⟨i :: a, t, ?_, isMistake⟩
        rw [at?, children, child]
        exact found
  unfold FlagsAgree at belowIff ⊢
  rw [forall_at?_node]
  constructor
  · rintro ⟨here, each⟩
    exact ⟨here.trans (belowIff each), each⟩
  · rintro ⟨here, each⟩
    exact ⟨here.trans (belowIff each).symm, each⟩

theorem FlagsAgree.child {root c : SyntaxTree} {i : Nat} (agree : root.FlagsAgree)
    (child : root.children[i]? = some c) : c.FlagsAgree := by
  intro a t found
  apply agree (i :: a) t
  rw [at?, child]
  exact found

theorem FlagsAgree.reachedVia {root t : SyntaxTree} {a : Address} (agree : root.FlagsAgree)
    (found : root.at? a = some t) (isMistake : t.isMistake = true) :
    ReachedVia isSuspect root a t := by
  induction a generalizing root with
  | nil =>
      cases found
      exact .here
  | cons i a ih =>
      obtain ⟨c, child, found⟩ := Option.bind_eq_some_iff.mp found
      have flagged : c.label.hasError = true := by
        apply (agree.child child [] c rfl).mpr
        exact ⟨a, t, found, isMistake⟩
      have suspect : c.isSuspect = true := by simp [isSuspect, flagged]
      exact .inside child suspect (ih (agree.child child) found)

theorem FlagsAgree.isFirstMistake_iff {root t : SyntaxTree} {a : Address}
    (agree : root.FlagsAgree) :
    IsFirstMistake (ReachedVia isSuspect root) a t ↔
      IsFirstMistake (fun b u => root.at? b = some u) a t := by
  constructor
  · rintro ⟨place, isMistake, first⟩
    refine ⟨place.at?, isMistake, fun b u found mistake other => ?_⟩
    exact first b u (agree.reachedVia found mistake) mistake other
  · rintro ⟨found, isMistake, first⟩
    refine ⟨agree.reachedVia found isMistake, isMistake, fun b u place mistake other => ?_⟩
    exact first b u place.at? mistake other

theorem FlagsAgree.firstMistake?_eq_some_iff {root t : SyntaxTree} (agree : root.FlagsAgree) :
    root.firstMistake? = some t ↔
      ∃ a, IsFirstMistake (fun b u => root.at? b = some u) a t := by
  rw [SyntaxTree.firstMistake?_eq_some_iff]
  simp only [agree.isFirstMistake_iff]

theorem FlagsAgree.exists_firstMistake? {root t : SyntaxTree} {a : Address}
    (agree : root.FlagsAgree) (found : root.at? a = some t) (isMistake : t.isMistake = true) :
    ∃ u, root.firstMistake? = some u := by
  cases none : root.firstMistake? with
  | some u => exact ⟨u, rfl⟩
  | none =>
      have := firstMistake?_eq_none_iff.mp none a t (agree.reachedVia found isMistake)
      rw [isMistake] at this
      cases this

end UsedSelectors.SyntaxTree

namespace UsedSelectors.Component

open SyntaxTree Attempts

variable {source : ByteArray} {root t : SyntaxTree}

/-- The error for a mistake at a node. -/
def Mistake.errorAt (mistake : Mistake) (source : ByteArray) (t : SyntaxTree) : ParseError :=
  ⟨"component", some mistake.message, some (t.label.row + 1), some (columnAt source t.label.start)⟩

/-- The row of each node of a tree counts the line feeds in front of it. -/
def CountsRows (source : ByteArray) (root : SyntaxTree) : Prop :=
  ∀ a t, root.at? a = some t → t.label.row + 1 = lineAt source t.label.start

theorem line_errorAt (mistake : Mistake) {a : Address} (counts : CountsRows source root)
    (found : root.at? a = some t) :
    (mistake.errorAt source t).line = some (lineAt source t.label.start : Int) := by
  rw [← counts a t found]
  rfl

theorem mistakeAt_eq_ok_iff {mistake : Mistake} :
    mistakeAt source t = .ok mistake ↔
      (t.label.isMissing = true ∧ mistake = .missing t.type) ∨
        (t.label.isMissing = false ∧ ∃ cs, t.text source = .ok cs ∧ mistake = .ofText cs) := by
  rw [mistakeAt]
  cases t.label.isMissing with
  | true => simp [eq_comm]
  | false =>
      simp only [Bool.false_eq_true, if_false, map_eq_ok_iff, false_and, true_and, false_or]
      simp only [eq_comm (a := mistake)]

theorem message_ne_of_mistakeAt {mistake : Mistake} (h : mistakeAt source t = .ok mistake) :
    mistake.message ≠ Mistake.unplaced.message := by
  have known : mistake ≠ .unplaced := by
    rintro rfl
    rcases mistakeAt_eq_ok_iff.mp h with ⟨_, impossible⟩ | ⟨_, cs, _, impossible⟩
    · cases impossible
    · rw [Mistake.ofText] at impossible
      split at impossible <;> cases impossible
  have differs (first rest : String) (other : first.toList.head? ≠ some 'i')
      (some : first.toList ≠ []) : first ++ rest ≠ Mistake.unplaced.message := by
    intro same
    apply other
    have heads := congrArg (fun s => s.toList.head?) same
    rw [String.toList_append, List.head?_append_of_ne_nil _ some] at heads
    rw [heads]
    rfl
  cases mistake with
  | unplaced => exact absurd rfl known
  | missing type => exact differs "missing " _ (by decide) (by decide)
  | unexpected snippet => exact differs "unexpected " _ (by decide) (by decide)
  | unexpectedToken => decide

theorem syntaxFailure_of_firstMistake? {mistake : Mistake} (found : root.firstMistake? = some t)
    (read : mistakeAt source t = .ok mistake) :
    syntaxFailure source root = .parse (mistake.errorAt source t) := by
  rw [syntaxFailure, found]
  dsimp only
  rw [read]
  rfl

theorem rootsOf_of_isFirstMistake {a : Address} {mistake : Mistake} (agree : root.FlagsAgree)
    (first : IsFirstMistake (fun b u => root.at? b = some u) a t)
    (read : mistakeAt source t = .ok mistake) :
    rootsOf source root = .error (.parse (mistake.errorAt source t)) := by
  have flagged : root.label.hasError = true :=
    (agree [] root rfl).mpr ⟨a, t, first.place, first.isMistake⟩
  have found : root.firstMistake? = some t := agree.firstMistake?_eq_some_iff.mpr ⟨a, first⟩
  rw [rootsOf, if_pos flagged, syntaxFailure_of_firstMistake? found read]

/--
When the flags of a tree agree with its nodes and the text of its first mistake can be decoded, the
module fails with a syntax error exactly if there is a mistake in the tree. The error has the line
and the column of the mistake that comes first in the whole tree, and says what is wrong there; the
line is the one that the mistake is on, if the rows of the tree are counted right.
Whatever the flags are, the search finds the first of those mistakes that suspect children lead to,
and nothing only if there are none.
-/
theorem rootsOf_firstMistake (source : ByteArray) (root : SyntaxTree) :
    (root.FlagsAgree →
      (∀ a t, IsFirstMistake (fun b u => root.at? b = some u) a t → t.label.isMissing = false →
        ∃ cs, t.text source = .ok cs) →
      ((∃ e, rootsOf source root = .error (.parse e)) ↔
        ∃ a t, root.at? a = some t ∧ t.isMistake = true) ∧
      ∀ e, rootsOf source root = .error (.parse e) →
        ∃ a t mistake, IsFirstMistake (fun b u => root.at? b = some u) a t ∧
          mistakeAt source t = .ok mistake ∧ mistake.message ≠ "invalid syntax" ∧
          e = mistake.errorAt source t ∧
          (CountsRows source root → e.line = some (lineAt source t.label.start : Int))) ∧
    (∀ t, root.firstMistake? = some t ↔ ∃ a, IsFirstMistake (ReachedVia isSuspect root) a t) ∧
    (root.firstMistake? = none ↔
      ∀ a t, ReachedVia isSuspect root a t → t.isMistake = false) := by
  refine ⟨fun agree decodes => ?_, fun t => firstMistake?_eq_some_iff, firstMistake?_eq_none_iff⟩
  have fails {a : Address} {t : SyntaxTree} (found : root.at? a = some t)
      (isMistake : t.isMistake = true) :
      ∃ b u mistake, IsFirstMistake (fun b u => root.at? b = some u) b u ∧
        mistakeAt source u = .ok mistake ∧
        rootsOf source root = .error (.parse (mistake.errorAt source u)) := by
    obtain ⟨u, hu⟩ := agree.exists_firstMistake? found isMistake
    obtain ⟨b, first⟩ := agree.firstMistake?_eq_some_iff.mp hu
    obtain ⟨mistake, read⟩ : ∃ mistake, mistakeAt source u = .ok mistake := by
      cases missing : u.label.isMissing with
      | true => exact ⟨_, mistakeAt_eq_ok_iff.mpr (.inl ⟨missing, rfl⟩)⟩
      | false =>
          obtain ⟨cs, text⟩ := decodes b u first missing
          exact ⟨_, mistakeAt_eq_ok_iff.mpr (.inr ⟨missing, cs, text, rfl⟩)⟩
    exact ⟨b, u, mistake, first, read, rootsOf_of_isFirstMistake agree first read⟩
  have hasMistake {e : ParseError} (failed : rootsOf source root = .error (.parse e)) :
      ∃ a t, root.at? a = some t ∧ t.isMistake = true := by
    apply (agree [] root rfl).mp
    cases flagged : root.label.hasError with
    | true => rfl
    | false => exact absurd failed (rootsOf_ne_parse flagged)
  constructor
  · constructor
    · rintro ⟨e, failed⟩
      exact hasMistake failed
    · rintro ⟨a, t, found, isMistake⟩
      obtain ⟨_, _, _, _, _, failed⟩ := fails found isMistake
      exact ⟨_, failed⟩
  · intro e failed
    obtain ⟨a, t, found, isMistake⟩ := hasMistake failed
    obtain ⟨b, u, mistake, first, read, failed'⟩ := fails found isMistake
    rw [failed] at failed'
    cases failed'
    refine ⟨b, u, mistake, first, read, message_ne_of_mistakeAt read, rfl, fun counts => ?_⟩
    exact line_errorAt mistake counts first.place

/-! ## A module with several mistakes -/

/-- A module that breaks the grammar on its second line, and once more after it. -/
def scatteredText : String := "a;\nb = ? ?"

/-- A tree for the module: an error with another one in it, and a mark that is missing. -/
def scatteredTree : SyntaxTree :=
  .node ⟨"program", true, false, true, 0, 10, 0⟩ none
    [plainNode "expression_statement" 0 2 none [plainNode "identifier" 0 1 none []],
      .node ⟨"expression_statement", true, false, true, 3, 10, 1⟩ none
        [.node ⟨"identifier", true, false, false, 3, 4, 1⟩ none [],
          .node ⟨"ERROR", true, false, true, 7, 10, 1⟩ none
            [.node ⟨"ERROR", true, false, true, 9, 10, 1⟩ none []],
          .node ⟨";", false, true, true, 10, 10, 1⟩ none []]]

theorem flagsAgree_scatteredTree : scatteredTree.FlagsAgree := by
  simp [scatteredTree, plainNode, flagsAgree_node, isMistake, SyntaxTree.type, SyntaxTree.label]

theorem countsRows_scatteredTree : CountsRows scatteredText.toUTF8 scatteredTree := by
  simp only [CountsRows, scatteredTree, plainNode, forall_at?_node, List.forall_mem_cons,
    List.not_mem_nil, IsEmpty.forall_iff, implies_true, and_true]
  decide +kernel

theorem exists_text_scatteredTree (a : Address) (t : SyntaxTree)
    (found : scatteredTree.at? a = some t) : ∃ cs, t.text scatteredText.toUTF8 = .ok cs := by
  have nodes : ∀ a u, scatteredTree.at? a = some u →
      (u.text scatteredText.toUTF8).isOk = true := by
    simp only [scatteredTree, plainNode, forall_at?_node, List.forall_mem_cons, List.not_mem_nil,
      IsEmpty.forall_iff, implies_true, and_true]
    decide +kernel
  have isOk := nodes a t found
  cases h : t.text scatteredText.toUTF8 with
  | ok cs => exact ⟨cs, rfl⟩
  | error e =>
      rw [h] at isOk
      cases isOk

/-- The module fails with the error for its first mistake, which is the outer error. -/
theorem rootsOf_firstMistake_scatteredTree :
    scatteredTree.FlagsAgree ∧
      (∀ a t, IsFirstMistake (fun b u => scatteredTree.at? b = some u) a t →
        t.label.isMissing = false → ∃ cs, t.text scatteredText.toUTF8 = .ok cs) ∧
      CountsRows scatteredText.toUTF8 scatteredTree ∧
      ((∃ e, rootsOf scatteredText.toUTF8 scatteredTree = .error (.parse e)) ↔
        ∃ a t, scatteredTree.at? a = some t ∧ t.isMistake = true) ∧
      ∀ e, rootsOf scatteredText.toUTF8 scatteredTree = .error (.parse e) →
        ∃ a t mistake, IsFirstMistake (fun b u => scatteredTree.at? b = some u) a t ∧
          mistakeAt scatteredText.toUTF8 t = .ok mistake ∧
          mistake.message ≠ "invalid syntax" ∧ e = mistake.errorAt scatteredText.toUTF8 t ∧
          e.line = some (lineAt scatteredText.toUTF8 t.label.start : Int) := by
  have decodes : ∀ a t, IsFirstMistake (fun b u => scatteredTree.at? b = some u) a t →
      t.label.isMissing = false → ∃ cs, t.text scatteredText.toUTF8 = .ok cs :=
    fun a t first _ => exists_text_scatteredTree a t first.place
  obtain ⟨whether, which⟩ :=
    (rootsOf_firstMistake scatteredText.toUTF8 scatteredTree).1 flagsAgree_scatteredTree decodes
  refine ⟨flagsAgree_scatteredTree, decodes, countsRows_scatteredTree, whether, fun e failed => ?_⟩
  obtain ⟨a, t, mistake, first, read, told, error, line⟩ := which e failed
  exact ⟨a, t, mistake, first, read, told, error, line countsRows_scatteredTree⟩

example : syntaxFailure scatteredText.toUTF8 scatteredTree =
    .parse ⟨"component", some "unexpected '? ?'", some 2, some 5⟩ := by
  decide +kernel

end UsedSelectors.Component
