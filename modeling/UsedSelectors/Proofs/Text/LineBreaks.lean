import UsedSelectors.Text.Lines

/-!
# What becomes of line breaks

Line breaks are unified in two steps: a carriage return that a line feed follows is left out, and
then each carriage return that remains becomes a line feed. No carriage return is left, and a text
without any stays as it is.
-/

namespace UsedSelectors

/-- Leaves out each carriage return that a line feed follows at once. -/
def dropReturns : List Char → List Char
  | [] => []
  | '\r' :: '\n' :: rest => '\n' :: dropReturns rest
  | c :: rest => c :: dropReturns rest

/-- A line feed in place of a carriage return, and every other character. -/
def feedForReturn (c : Char) : Char := if c = '\r' then '\n' else c

theorem feedForReturn_of_ne {c : Char} (other : c ≠ '\r') : feedForReturn c = c := if_neg other

theorem dropReturns_cons {c : Char} {rest : List Char}
    (notBoth : c = '\r' → rest.head? ≠ some '\n') :
    dropReturns (c :: rest) = c :: dropReturns rest := by
  rw [dropReturns]
  rintro more rfl rfl
  exact notBoth rfl rfl

theorem unifyBreaksFrom_eq (done cs : List Char) :
    unifyBreaksFrom '\r' '\n' done cs = done.reverse ++ (dropReturns cs).map feedForReturn := by
  -- A pair is taken first, so a carriage return by itself has no line feed after it.
  induction done, cs using unifyBreaksFrom.induct '\r' '\n' with
  | case1 done => rw [unifyBreaksFrom, dropReturns, List.map_nil, List.append_nil]
  | case2 done c =>
      have alone : c = '\r' → ([] : List Char).head? ≠ some '\n' := by simp
      rw [unifyBreaksFrom, dropReturns_cons alone, dropReturns, List.reverse_cons]
      simp [feedForReturn]
  | case3 done c d rest isReturn isFeed ih =>
      rw [unifyBreaksFrom, if_pos isReturn, if_pos isFeed, ih, eq_of_beq isReturn,
        eq_of_beq isFeed, dropReturns, List.map_cons, List.reverse_cons, List.append_assoc]
      rfl
  | case4 done c d rest isReturn notFeed ih =>
      have alone : c = '\r' → (d :: rest).head? ≠ some '\n' := by
        rintro _ feed
        exact notFeed (beq_iff_eq.mpr (Option.some.inj feed))
      rw [unifyBreaksFrom, if_pos isReturn, if_neg notFeed, ih, dropReturns_cons alone,
        List.map_cons, List.reverse_cons, List.append_assoc, eq_of_beq isReturn]
      rfl
  | case5 done c d rest notReturn ih =>
      have other : c ≠ '\r' := mt beq_iff_eq.mpr notReturn
      rw [unifyBreaksFrom, if_neg notReturn, ih, dropReturns_cons (fun same => absurd same other),
        List.map_cons, List.reverse_cons, List.append_assoc, feedForReturn_of_ne other]
      rfl

theorem unifyLineBreaks_eq (cs : List Char) :
    unifyLineBreaks cs = (dropReturns cs).map feedForReturn :=
  unifyBreaksFrom_eq [] cs

theorem return_notMem_unifyBreaksFrom {α : Type} [BEq α] [LawfulBEq α]
    {carriageReturn lineFeed : α} (other : carriageReturn ≠ lineFeed) {done : List α}
    (clean : carriageReturn ∉ done) (items : List α) :
    carriageReturn ∉ unifyBreaksFrom carriageReturn lineFeed done items := by
  have longer {a : α} {done : List α} (differs : carriageReturn ≠ a)
      (clean : carriageReturn ∉ done) : carriageReturn ∉ a :: done :=
    mt List.mem_cons.mp (not_or.mpr ⟨differs, clean⟩)
  induction done, items using unifyBreaksFrom.induct carriageReturn lineFeed with
  | case1 done => rwa [unifyBreaksFrom, List.mem_reverse]
  | case2 done a =>
      rw [unifyBreaksFrom, List.mem_reverse]
      split
      · exact longer other clean
      · rename_i notReturn
        exact longer (fun same => notReturn (beq_iff_eq.mpr same.symm)) clean
  | case3 done a b rest isReturn isFeed ih =>
      rw [unifyBreaksFrom, if_pos isReturn, if_pos isFeed]
      exact ih (longer other clean)
  | case4 done a b rest isReturn notFeed ih =>
      rw [unifyBreaksFrom, if_pos isReturn, if_neg notFeed]
      exact ih (longer other clean)
  | case5 done a b rest notReturn ih =>
      rw [unifyBreaksFrom, if_neg notReturn]
      exact ih (longer (fun same => notReturn (beq_iff_eq.mpr same.symm)) clean)

theorem return_notMem_unifyLineBreaks (cs : List Char) : '\r' ∉ unifyLineBreaks cs :=
  return_notMem_unifyBreaksFrom (by decide) List.not_mem_nil cs

theorem Text.return_notMem_unifyLineBreaks (t : Text) :
    CodePoint.ofChar '\r' ∉ t.unifyLineBreaks :=
  return_notMem_unifyBreaksFrom (by decide) List.not_mem_nil t

theorem unifyLineBreaks_of_notMem {cs : List Char} (noReturn : '\r' ∉ cs) :
    unifyLineBreaks cs = cs := by
  rw [unifyLineBreaks_eq]
  induction cs with
  | nil => rfl
  | cons c cs ih =>
      obtain ⟨other, noReturn⟩ := not_or.mp (mt List.mem_cons.mpr noReturn)
      rw [dropReturns_cons fun isReturn => absurd isReturn.symm other, List.map_cons, ih noReturn,
        feedForReturn_of_ne (Ne.symm other)]

end UsedSelectors
