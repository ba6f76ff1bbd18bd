import Mathlib.Tactic.SplitIfs
import UsedSelectors.Json

/-!
# Values written one after the other

A value is written in front of a text in the same way whatever the text is. So an array is written
as its items, each on its own, with commas between them. Where strings are spelled without control
characters, a value is a single line.
-/

namespace UsedSelectors.Json

variable (spell : String → List Char)

theorem writeString_append (s : String) (rest : List Char) :
    writeString spell s rest = writeString spell s [] ++ rest := by
  rw [writeString, writeString, List.cons_append, List.append_assoc, List.singleton_append]

mutual

theorem write_append : (value : Json) → (rest : List Char) →
    value.write spell rest = value.write spell [] ++ rest
  | null, rest => rfl
  | number n, rest => by rw [write, write, writeNumber, writeNumber, List.append_nil]
  | string s, rest => by rw [write, write, writeString_append]
  | array items, rest => by
      rw [write, write, writeItems_append, writeItems_append items [']'], List.cons_append,
        List.append_assoc, List.singleton_append]
  | object members, rest => by
      rw [write, write, writeMembers_append, writeMembers_append members ['\x7d'],
        List.cons_append, List.append_assoc, List.singleton_append]

theorem writeItems_append : (items : List Json) → (rest : List Char) →
    writeItems spell items rest = writeItems spell items [] ++ rest
  | [], rest => rfl
  | item :: items, rest => by
      rw [writeItems, writeItems, write_append, write_append item (writeMoreItems spell items []),
        writeMoreItems_append, List.append_assoc]

theorem writeMoreItems_append : (items : List Json) → (rest : List Char) →
    writeMoreItems spell items rest = writeMoreItems spell items [] ++ rest
  | [], rest => rfl
  | item :: items, rest => by
      rw [writeMoreItems, writeMoreItems, write_append,
        write_append item (writeMoreItems spell items []), writeMoreItems_append, List.cons_append,
        List.append_assoc]

theorem writeMembers_append : (members : List (String × Json)) → (rest : List Char) →
    writeMembers spell members rest = writeMembers spell members [] ++ rest
  | [], rest => rfl
  | member :: members, rest => by
      rw [writeMembers, writeMembers, writeMember_append,
        writeMember_append member (writeMoreMembers spell members []), writeMoreMembers_append,
        List.append_assoc]

theorem writeMoreMembers_append : (members : List (String × Json)) → (rest : List Char) →
    writeMoreMembers spell members rest = writeMoreMembers spell members [] ++ rest
  | [], rest => rfl
  | member :: members, rest => by
      rw [writeMoreMembers, writeMoreMembers, writeMember_append,
        writeMember_append member (writeMoreMembers spell members []), writeMoreMembers_append,
        List.cons_append, List.append_assoc]

theorem writeMember_append : (member : String × Json) → (rest : List Char) →
    writeMember spell member rest = writeMember spell member [] ++ rest
  | (name, value), rest => by
      rw [writeMember, writeMember, writeString_append,
        writeString_append spell name (':' :: value.write spell []), write_append value rest,
        List.append_assoc, List.cons_append]

end

theorem writeMoreItems_eq_flatMap (items : List Json) :
    writeMoreItems spell items [] = items.flatMap fun item => ',' :: item.write spell [] := by
  induction items with
  | nil => rfl
  | cons item items ih =>
      rw [writeMoreItems, write_append, ih, List.flatMap_cons, List.cons_append]

theorem writeItems_eq_intercalate (items : List Json) :
    writeItems spell items [] = [','].intercalate (items.map (·.write spell [])) := by
  cases items with
  | nil => rfl
  | cons item items =>
      rw [writeItems, write_append, writeMoreItems_eq_flatMap]
      induction items generalizing item with
      | nil => simp
      | cons next items ih =>
          have later := ih next
          rw [List.map_cons] at later
          rw [List.flatMap_cons, List.map_cons, List.map_cons, List.intercalate_cons_cons, ← later]
          simp

/-! ## Control characters -/

/-- No character is a control character of ASCII below the space. -/
def NoControl (text : List Char) : Prop := ∀ c ∈ text, 0x20 ≤ c.toNat

theorem NoControl.cons {c : Char} {text : List Char} (here : 0x20 ≤ c.toNat)
    (rest : NoControl text) : NoControl (c :: text) :=
  List.forall_mem_cons.mpr ⟨here, rest⟩

theorem noControl_nil : NoControl [] := by simp [NoControl]

theorem toString_cases (n : Int) :
    (∃ m : Nat, n = m ∧ (toString n).toList = Nat.toDigits 10 m) ∨
      ∃ m : Nat, n = -m ∧ (toString n).toList = '-' :: Nat.toDigits 10 m := by
  cases n with
  | ofNat m => exact .inl ⟨m, rfl, Nat.toList_repr⟩
  | negSucc m =>
      refine .inr ⟨m + 1, rfl, ?_⟩
      rw [← Nat.toList_repr]
      exact String.toList_append

theorem noControl_toString (n : Int) : NoControl (toString n).toList := by
  have digits (m : Nat) : NoControl (Nat.toDigits 10 m) := by
    intro c hc
    have digit := Nat.isDigit_of_mem_toDigits (by decide) (by decide) hc
    simp only [Char.isDigit, Bool.and_eq_true, decide_eq_true_eq, ge_iff_le] at digit
    exact Nat.le_trans (by decide) (UInt32.le_iff_toNat_le.mp digit.1)
  rcases toString_cases n with ⟨m, _, same⟩ | ⟨m, _, same⟩
  · rw [same]
    exact digits m
  · rw [same]
    exact (digits m).cons (by decide)

variable {spell}

theorem noControl_writeString (clean : ∀ s, NoControl (spell s)) (s : String)
    {rest : List Char} (after : NoControl rest) :
    NoControl (writeString spell s rest) := by
  have ended : NoControl (spell s ++ '"' :: rest) :=
    List.forall_mem_append.mpr ⟨clean s, after.cons (by decide)⟩
  exact ended.cons (by decide)

mutual

theorem noControl_write (clean : ∀ s, NoControl (spell s)) : (value : Json) →
    {rest : List Char} → NoControl rest → NoControl (value.write spell rest)
  | null, _, after => (((after.cons (by decide)).cons (by decide)).cons (by decide)).cons (by decide)
  | number n, _, after => List.forall_mem_append.mpr ⟨noControl_toString n, after⟩
  | string s, _, after => noControl_writeString clean s after
  | array items, _, after =>
      (noControl_writeItems clean items (after.cons (by decide))).cons (by decide)
  | object members, _, after =>
      (noControl_writeMembers clean members (after.cons (by decide))).cons (by decide)

theorem noControl_writeItems (clean : ∀ s, NoControl (spell s)) : (items : List Json) →
    {rest : List Char} → NoControl rest → NoControl (writeItems spell items rest)
  | [], _, after => after
  | item :: items, _, after =>
      noControl_write clean item (noControl_writeMoreItems clean items after)

theorem noControl_writeMoreItems (clean : ∀ s, NoControl (spell s)) : (items : List Json) →
    {rest : List Char} → NoControl rest → NoControl (writeMoreItems spell items rest)
  | [], _, after => after
  | item :: items, _, after =>
      (noControl_write clean item (noControl_writeMoreItems clean items after)).cons (by decide)

theorem noControl_writeMembers (clean : ∀ s, NoControl (spell s)) :
    (members : List (String × Json)) → {rest : List Char} → NoControl rest →
      NoControl (writeMembers spell members rest)
  | [], _, after => after
  | (name, value) :: members, _, after =>
      noControl_writeString clean name ((noControl_write clean value
        (noControl_writeMoreMembers clean members after)).cons (by decide))

theorem noControl_writeMoreMembers (clean : ∀ s, NoControl (spell s)) :
    (members : List (String × Json)) → {rest : List Char} → NoControl rest →
      NoControl (writeMoreMembers spell members rest)
  | [], _, after => after
  | (name, value) :: members, _, after =>
      (noControl_writeString clean name ((noControl_write clean value
        (noControl_writeMoreMembers clean members after)).cons (by decide))).cons (by decide)

end

/-- What is written for a value is a single line. -/
theorem lineFeed_notMem_layout (clean : ∀ s, NoControl (spell s)) (value : Json) :
    '\n' ∉ (value.layout spell).toList := by
  rw [layout, String.toList_ofList]
  intro member
  have small : 0x20 ≤ '\n'.toNat := noControl_write clean value noControl_nil '\n' member
  revert small
  decide

/-! ## Arrays -/

theorem layout_array (spell : String → List Char) (items : List Json) :
    (array items).layout spell = "[" ++ ",".intercalate (items.map (layout spell)) ++ "]" := by
  apply String.toList_inj.mp
  rw [layout, write, writeItems_append, writeItems_eq_intercalate]
  simp [String.toList_intercalate, layout, Function.comp_def]

end UsedSelectors.Json
