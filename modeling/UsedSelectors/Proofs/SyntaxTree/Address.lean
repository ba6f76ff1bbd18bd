import Mathlib.Data.List.Sort
import UsedSelectors.Parsing.SyntaxTree

/-!
# Addresses in syntax trees

The address of a node is the list of child indices on the way to it from the root. Pre-order is the
order in which a node comes before its children and these come one after the other, each with all
that is inside it; on addresses it is the lexicographic order. `InOrder` says of a list of nodes
that it holds the nodes at the places with some property, each place once and in pre-order.
-/

namespace UsedSelectors.SyntaxTree

/-- The child indices on the way from the root to a node. -/
abbrev Address := List Nat

mutual

def addresses : SyntaxTree → List Address
  | node _ _ cs => [] :: addressesOf 0 cs

/-- The addresses of the nodes below children that are counted from an index on. -/
def addressesOf (i : Nat) : List SyntaxTree → List Address
  | [] => []
  | c :: cs => (addresses c).map (i :: ·) ++ addressesOf (i + 1) cs

end

def at? (t : SyntaxTree) : Address → Option SyntaxTree
  | [] => some t
  | i :: a => t.children[i]?.bind fun c => c.at? a

theorem at?_append (t : SyntaxTree) (a b : Address) :
    t.at? (a ++ b) = (t.at? a).bind fun u => u.at? b := by
  induction a generalizing t with
  | nil => rfl
  | cons i a ih =>
      rw [List.cons_append, at?, at?]
      cases t.children[i]? with
      | none => rfl
      | some c => exact ih c

theorem exists_at?_of_mem_children {t u c : SyntaxTree} {a : Address} (found : t.at? a = some u)
    (child : c ∈ u.children) : ∃ b, t.at? b = some c := by
  obtain ⟨i, hi⟩ := List.mem_iff_getElem?.mp child
  refine ⟨a ++ [i], ?_⟩
  rw [at?_append, found]
  simp [at?, hi]

theorem forall_at?_node {P : SyntaxTree → Prop} {label : SyntaxLabel} {field : Option String}
    {cs : List SyntaxTree} :
    (∀ a u, (node label field cs).at? a = some u → P u) ↔
      P (node label field cs) ∧ ∀ c ∈ cs, ∀ a u, c.at? a = some u → P u := by
  constructor
  · intro h
    refine ⟨h [] _ rfl, fun c hc a u found => ?_⟩
    obtain ⟨i, hi⟩ := List.mem_iff_getElem?.mp hc
    refine h (i :: a) u ?_
    rw [at?, children, hi]
    exact found
  · rintro ⟨here, below⟩ a u found
    cases a with
    | nil =>
        cases found
        exact here
    | cons i a =>
        obtain ⟨c, hc, found⟩ := Option.bind_eq_some_iff.mp found
        exact below c (List.mem_of_getElem? hc) a u found

/-! ## Pre-order -/

theorem head_of_mem_addressesOf {i : Nat} {cs : List SyntaxTree} {a : Address}
    (h : a ∈ addressesOf i cs) : ∃ j b, a = j :: b ∧ i ≤ j := by
  induction cs generalizing i with
  | nil => cases h
  | cons c cs ih =>
      rw [addressesOf] at h
      rcases List.mem_append.mp h with h | h
      · obtain ⟨b, _, rfl⟩ := List.mem_map.mp h
        exact ⟨i, b, rfl, Nat.le_refl i⟩
      · obtain ⟨j, b, rfl, hij⟩ := ih h
        exact ⟨j, b, rfl, by omega⟩

mutual

theorem pairwise_addresses (t : SyntaxTree) : t.addresses.Pairwise (· < ·) := by
  cases t with
  | node label field cs =>
      rw [addresses, List.pairwise_cons]
      refine ⟨?_, pairwise_addressesOf 0 cs⟩
      intro a ha
      obtain ⟨j, b, rfl, _⟩ := head_of_mem_addressesOf ha
      exact List.nil_lt_cons j b

theorem pairwise_addressesOf (i : Nat) (cs : List SyntaxTree) :
    (addressesOf i cs).Pairwise (· < ·) := by
  cases cs with
  | nil => exact List.Pairwise.nil
  | cons c cs =>
      rw [addressesOf, List.pairwise_append]
      refine ⟨?_, pairwise_addressesOf (i + 1) cs, ?_⟩
      · rw [List.pairwise_map]
        exact (pairwise_addresses c).imp fun h => List.cons_lt_cons_iff.mpr (.inr ⟨rfl, h⟩)
      · intro a ha b hb
        obtain ⟨a, _, rfl⟩ := List.mem_map.mp ha
        obtain ⟨j, b, rfl, hij⟩ := head_of_mem_addressesOf hb
        exact List.cons_lt_cons_iff.mpr (.inl (by omega))

end

mutual

/-- The addresses of a tree are those at which it has a node. -/
theorem mem_addresses_iff (t : SyntaxTree) (a : Address) : a ∈ t.addresses ↔ (t.at? a).isSome := by
  cases t with
  | node label field cs =>
      cases a with
      | nil => simp [addresses, at?]
      | cons j b =>
          simp only [addresses, List.mem_cons, reduceCtorEq, false_or, at?, children]
          rw [mem_addressesOf_iff]
          simp

theorem mem_addressesOf_iff (i : Nat) (cs : List SyntaxTree) (j : Nat) (b : Address) :
    j :: b ∈ addressesOf i cs ↔ i ≤ j ∧ (cs[j - i]?.bind fun c => c.at? b).isSome := by
  cases cs with
  | nil => simp [addressesOf]
  | cons c cs =>
      rw [addressesOf, List.mem_append, mem_addressesOf_iff (i + 1) cs]
      have here : j :: b ∈ (addresses c).map (i :: ·) ↔ j = i ∧ (c.at? b).isSome := by
        rw [← mem_addresses_iff c b]
        simp only [List.mem_map, List.cons.injEq]
        constructor
        · rintro ⟨_, hb, rfl, rfl⟩
          exact ⟨rfl, hb⟩
        · rintro ⟨rfl, hb⟩
          exact ⟨b, hb, rfl, rfl⟩
      rw [here]
      rcases Nat.lt_trichotomy j i with h | rfl | h
      · constructor
        · rintro (⟨rfl, _⟩ | ⟨hle, _⟩) <;> omega
        · rintro ⟨hle, _⟩
          omega
      · have : ¬ j + 1 ≤ j := by omega
        simp [this]
      · obtain ⟨k, rfl⟩ : ∃ k, j = i + (k + 1) := ⟨j - i - 1, by omega⟩
        have hk : i + (k + 1) - i = k + 1 := by omega
        have hk' : i + (k + 1) - (i + 1) = k := by omega
        rw [hk, hk', List.getElem?_cons_succ]
        constructor
        · rintro (⟨hji, _⟩ | ⟨_, found⟩)
          · omega
          · exact ⟨by omega, found⟩
        · rintro ⟨_, found⟩
          exact .inr ⟨by omega, found⟩

end

/-! ## Nodes in pre-order -/

/--
A list of nodes is that of the places with a property: each place gives one node, and the places
follow one another in pre-order.
-/
def InOrder (nodes : List SyntaxTree) (P : Address → SyntaxTree → Prop) : Prop :=
  ∃ placed : List (Address × SyntaxTree), placed.map Prod.snd = nodes ∧
    placed.Pairwise (fun p q => p.1 < q.1) ∧ ∀ a t, (a, t) ∈ placed ↔ P a t

namespace InOrder

variable {nodes others : List SyntaxTree} {P Q : Address → SyntaxTree → Prop}

theorem congr (h : InOrder nodes P) (same : ∀ a t, P a t ↔ Q a t) : InOrder nodes Q := by
  obtain ⟨placed, hnodes, sorted, mem⟩ := h
  exact ⟨placed, hnodes, sorted, fun a t => (mem a t).trans (same a t)⟩

theorem mem_iff (h : InOrder nodes P) {t : SyntaxTree} : t ∈ nodes ↔ ∃ a, P a t := by
  obtain ⟨placed, rfl, _, mem⟩ := h
  simp only [List.mem_map, Prod.exists, exists_eq_right, mem]

theorem nil (h : ∀ a t, ¬ P a t) : InOrder [] P :=
  ⟨[], rfl, .nil, fun a t => ⟨fun impossible => (nomatch impossible), fun p => (h a t p).elim⟩⟩

theorem here (t : SyntaxTree) : InOrder [t] (fun a u => a = [] ∧ u = t) :=
  ⟨[([], t)], rfl, List.pairwise_singleton .., fun a u => by simp⟩

theorem append (first : InOrder nodes P) (rest : InOrder others Q)
    (before : ∀ a t b u, P a t → Q b u → a < b) :
    InOrder (nodes ++ others) (fun a t => P a t ∨ Q a t) := by
  obtain ⟨placed, rfl, sorted, mem⟩ := first
  obtain ⟨placed', rfl, sorted', mem'⟩ := rest
  refine ⟨placed ++ placed', List.map_append, ?_, fun a t => ?_⟩
  · rw [List.pairwise_append]
    refine ⟨sorted, sorted', ?_⟩
    rintro ⟨a, t⟩ hp ⟨b, u⟩ hq
    exact before a t b u ((mem a t).mp hp) ((mem' b u).mp hq)
  · rw [List.mem_append, mem, mem']

theorem under (h : InOrder nodes P) (i : Nat) :
    InOrder nodes (fun a t => ∃ b, a = i :: b ∧ P b t) := by
  obtain ⟨placed, rfl, sorted, mem⟩ := h
  refine ⟨placed.map fun p => (i :: p.1, p.2), by rw [List.map_map]; rfl, ?_, fun a t => ?_⟩
  · rw [List.pairwise_map]
    exact sorted.imp fun h => List.cons_lt_cons_iff.mpr (.inr ⟨rfl, h⟩)
  · rw [List.mem_map]
    constructor
    · rintro ⟨⟨b, u⟩, hp, same⟩
      cases same
      exact ⟨b, rfl, (mem b u).mp hp⟩
    · rintro ⟨b, rfl, hb⟩
      exact ⟨(b, t), (mem b t).mpr hb, rfl⟩

theorem underAll (h : InOrder nodes P) (a : Address) :
    InOrder nodes (fun b t => ∃ c, b = a ++ c ∧ P c t) := by
  induction a with
  | nil => exact h.congr fun b t => by simp
  | cons i a ih =>
      refine (ih.under i).congr fun b t => ?_
      constructor
      · rintro ⟨_, rfl, c, rfl, hc⟩
        exact ⟨c, rfl, hc⟩
      · rintro ⟨c, rfl, hc⟩
        exact ⟨a ++ c, rfl, c, rfl, hc⟩

theorem picked {picked? : Option SyntaxTree} {g : SyntaxTree → List SyntaxTree}
    {R : SyntaxTree → Address → SyntaxTree → Prop} (spec : ∀ u, picked? = some u ↔ ∃ a, P a u)
    (unique : ∀ a b u v, P a u → P b v → a = b ∧ u = v)
    (h : ∀ a u, P a u → InOrder (g u) (R u)) :
    InOrder (picked?.toList.flatMap g) (fun c t => ∃ a u b, P a u ∧ R u b t ∧ c = a ++ b) := by
  cases hpicked : picked? with
  | none =>
      refine nil ?_
      rintro _ t ⟨a, u, b, hu, _⟩
      rw [(spec u).mpr ⟨a, hu⟩] at hpicked
      cases hpicked
  | some u =>
      obtain ⟨a, hu⟩ := (spec u).mp hpicked
      rw [Option.toList_some, List.flatMap_singleton]
      refine ((h a u hu).underAll a).congr fun c t => ?_
      constructor
      · rintro ⟨b, rfl, ht⟩
        exact ⟨a, u, b, hu, ht, rfl⟩
      · rintro ⟨a', u', b, hu', ht, rfl⟩
        obtain ⟨rfl, rfl⟩ := unique a a' u u' hu hu'
        exact ⟨b, rfl, ht⟩

theorem belowFrom (cs : List SyntaxTree) (g : SyntaxTree → List SyntaxTree)
    (R : SyntaxTree → Address → SyntaxTree → Prop) (h : ∀ c ∈ cs, InOrder (g c) (R c)) (k : Nat) :
    InOrder (cs.flatMap g)
      (fun a t => ∃ i c b, cs[i]? = some c ∧ a = (k + i) :: b ∧ R c b t) := by
  induction cs generalizing k with
  | nil => exact nil (by simp)
  | cons c cs ih =>
      have first := (h c List.mem_cons_self).under k
      have rest := ih (fun d hd => h d (List.mem_cons_of_mem _ hd)) (k + 1)
      rw [List.flatMap_cons]
      refine (first.append rest ?_).congr ?_
      · rintro _ t _ u ⟨b, rfl, _⟩ ⟨i, _, b', _, rfl, _⟩
        exact List.cons_lt_cons_iff.mpr (.inl (by omega))
      · intro a t
        constructor
        · rintro (⟨b, rfl, hb⟩ | ⟨i, d, b, hd, rfl, hb⟩)
          · exact ⟨0, c, b, rfl, rfl, hb⟩
          · exact ⟨i + 1, d, b, hd, by rw [show k + (i + 1) = k + 1 + i by omega], hb⟩
        · rintro ⟨i, d, b, hd, rfl, hb⟩
          cases i with
          | zero =>
              obtain rfl : c = d := Option.some.inj hd
              exact .inl ⟨b, rfl, hb⟩
          | succ i => exact .inr ⟨i, d, b, hd, by rw [show k + (i + 1) = k + 1 + i by omega], hb⟩

theorem belowFilter {t : SyntaxTree} {p : SyntaxTree → Bool} {g : SyntaxTree → List SyntaxTree}
    {R : SyntaxTree → Address → SyntaxTree → Prop}
    (h : ∀ c ∈ t.children, p c = true → InOrder (g c) (R c)) :
    InOrder ((t.children.filter p).flatMap g)
      (fun a u => ∃ i c b, t.children[i]? = some c ∧ p c = true ∧ a = i :: b ∧ R c b u) := by
  have all := belowFrom t.children (fun c => if p c then g c else [])
    (fun c b u => p c = true ∧ R c b u) (fun c hc => by
      cases hp : p c with
      | true => simpa using h c hc hp
      | false => simpa using nil (by simp)) 0
  have hsame : (t.children.filter p).flatMap g =
      t.children.flatMap fun c => if p c then g c else [] := by
    induction t.children with
    | nil => rfl
    | cons c cs ih => cases hp : p c <;> simp [hp, ih]
  rw [hsame]
  refine all.congr fun a u => ?_
  constructor
  · rintro ⟨i, c, b, hc, rfl, hp, hb⟩
    exact ⟨i, c, b, hc, hp, by rw [Nat.zero_add], hb⟩
  · rintro ⟨i, c, b, hc, hp, rfl, hb⟩
    exact ⟨i, c, b, hc, by rw [Nat.zero_add], hp, hb⟩

open Classical in
/--
What is read off the nodes in order is given one by one by the addresses of a tree at which there
is something to be read.
-/
theorem forall₂_filterMap {β : Type} {t : SyntaxTree} (h : InOrder nodes P)
    (placed : ∀ a u, P a u → t.at? a = some u) (read : SyntaxTree → Option β) :
    List.Forall₂ (fun a b => ∃ u, P a u ∧ read u = some b)
      (t.addresses.filter fun a => ∃ b u, P a u ∧ read u = some b) (nodes.filterMap read) := by
  obtain ⟨places, rfl, sorted, mem⟩ := h
  have sameAddresses : (t.addresses.filter fun a => ∃ b u, P a u ∧ read u = some b) =
      (places.filter fun p => (read p.2).isSome).map Prod.fst := by
    refine List.Pairwise.eq_of_mem_iff ((pairwise_addresses t).filter _)
      (List.pairwise_map.mpr (sorted.filter _)) fun a => ?_
    simp only [List.mem_filter, decide_eq_true_eq, List.mem_map, Prod.exists, exists_and_right,
      exists_eq_right, Option.isSome_iff_exists]
    constructor
    · rintro ⟨_, b, u, hu, hb⟩
      exact ⟨u, (mem a u).mpr hu, b, hb⟩
    · rintro ⟨u, hu, b, hb⟩
      have found := placed a u ((mem a u).mp hu)
      exact ⟨(mem_addresses_iff t a).mpr (by rw [found]; rfl), b, u, (mem a u).mp hu, hb⟩
  rw [sameAddresses, List.filterMap_map]
  have holds : ∀ p ∈ places, P p.1 p.2 := fun p hp => (mem p.1 p.2).mp hp
  clear sameAddresses mem sorted
  induction places with
  | nil => exact .nil
  | cons p places ih =>
      have rest := ih fun q hq => holds q (List.mem_cons_of_mem _ hq)
      rw [List.filter_cons, List.filterMap_cons]
      simp only [Function.comp_apply]
      cases hread : read p.2 with
      | none => exact rest
      | some b => exact .cons ⟨p.2, holds p List.mem_cons_self, hread⟩ rest

end InOrder

end UsedSelectors.SyntaxTree
