import Mathlib.Data.List.Chain
import UsedSelectors.Proofs.Encoding.Writable
import UsedSelectors.Script.Escape
import UsedSelectors.Text.CodePoint

/-!
# Surrogate pairs and units of UTF-16

A code point is written as one or two units of sixteen bits. A text from which the two halves of no
code point beyond U+FFFF are left side by side is known by its units. Joining the halves of
surrogate pairs, from the front of a text on, leaves its units as they are and leaves no pair to be
joined; no surrogate is left exactly when the text is made of such pairs and of code points that are
no surrogates.
-/

/-! ## Units of UTF-16 -/

namespace UsedSelectors

abbrev CodeUnit := Fin 0x10000

namespace CodePoint

def ofUnit (u : CodeUnit) : CodePoint := ⟨u.val, by omega⟩

/-- The units of a code point. A surrogate is a unit of its own. -/
def units (c : CodePoint) : List CodeUnit :=
  if small : c.val < 0x10000 then [⟨c.val, small⟩]
  else
    have inside := c.isLt
    [⟨0xD800 + (c.val - 0x10000) / 0x400, by omega⟩,
      ⟨0xDC00 + (c.val - 0x10000) % 0x400, by omega⟩]

theorem isHighSurrogate_iff {c : CodePoint} :
    c.isHighSurrogate = true ↔ 0xD800 ≤ c.val ∧ c.val < 0xDC00 := by
  simp [isHighSurrogate]

theorem isLowSurrogate_iff {c : CodePoint} :
    c.isLowSurrogate = true ↔ 0xDC00 ≤ c.val ∧ c.val < 0xE000 := by
  simp [isLowSurrogate]

theorem units_of_small {c : CodePoint} (small : c.val < 0x10000) : c.units = [⟨c.val, small⟩] := by
  rw [units, dif_pos small]

theorem exists_units_of_big {c : CodePoint} (big : ¬ c.val < 0x10000) :
    ∃ high low : CodeUnit, c.units = [high, low] ∧ (ofUnit high).isHighSurrogate = true ∧
      (ofUnit low).isLowSurrogate = true ∧
      c.val = 0x10000 + (high.val - 0xD800) * 0x400 + (low.val - 0xDC00) := by
  have inside := c.isLt
  refine ⟨_, _, dif_neg big, ?_, ?_, ?_⟩
  · rw [isHighSurrogate_iff]
    dsimp only [ofUnit]
    omega
  · rw [isLowSurrogate_iff]
    dsimp only [ofUnit]
    omega
  · dsimp only
    omega

end CodePoint

namespace Text

/-- The units of a text. -/
def units (t : Text) : List CodeUnit := t.flatMap CodePoint.units

/-- No first half of a surrogate pair is directly followed by a second half. -/
def IsJoined (t : Text) : Prop :=
  t.IsChain fun c d => c.isHighSurrogate = true → d.isLowSurrogate = false

instance (t : Text) : Decidable t.IsJoined := by unfold IsJoined; infer_instance

theorem units_cons (c : CodePoint) (t : Text) : units (c :: t) = c.units ++ units t :=
  List.flatMap_cons

theorem isJoined_cons_iff {c : CodePoint} {t : Text} :
    IsJoined (c :: t) ↔
      (c.isHighSurrogate = true → ∀ d ∈ t.head?, d.isLowSurrogate = false) ∧ t.IsJoined := by
  rw [IsJoined, List.isChain_cons]
  exact and_congr_left fun _ => ⟨fun h high d hd => h d hd high, fun h d hd high => h high d hd⟩

end Text

end UsedSelectors

/-! ## Surrogates that are left alone -/

namespace UsedSelectors.Script.Escape

/-- Every surrogate of a text is the half of a pair. -/
inductive Paired : Text → Prop where
  | nil : Paired []
  | single {c : CodePoint} {rest : Text} (scalar : c.isSurrogate = false) (after : Paired rest) :
      Paired (c :: rest)
  | pair {high low : CodePoint} {rest : Text} (isHigh : high.isHighSurrogate = true)
      (isLow : low.isLowSurrogate = true) (after : Paired rest) : Paired (high :: low :: rest)

theorem isSurrogate_of_isHighSurrogate {c : CodePoint} (high : c.isHighSurrogate = true) :
    c.isSurrogate = true := by
  simp only [CodePoint.isHighSurrogate, Bool.and_eq_true, decide_eq_true_eq] at high
  simp only [CodePoint.isSurrogate, Bool.and_eq_true, decide_eq_true_eq]
  omega

theorem exists_pair? {high low : CodePoint} (isHigh : high.isHighSurrogate = true)
    (isLow : low.isLowSurrogate = true) :
    ∃ joined, pair? high low = some joined ∧ joined.isSurrogate = false := by
  rw [pair?, isHigh, isLow]
  simp only [CodePoint.isHighSurrogate, Bool.and_eq_true, decide_eq_true_eq] at isHigh
  simp only [CodePoint.isLowSurrogate, Bool.and_eq_true, decide_eq_true_eq] at isLow
  have inside : 0x10000 + (high.val - 0xD800) * 0x400 + (low.val - 0xDC00) < 0x110000 := by omega
  refine ⟨⟨_, inside⟩, by simp [CodePoint.ofNat?, inside], ?_⟩
  simp only [CodePoint.isSurrogate, Bool.and_eq_false_iff, decide_eq_false_iff_not]
  omega

theorem halves_of_pair? {c d joined : CodePoint} (h : pair? c d = some joined) :
    c.isHighSurrogate = true ∧ d.isLowSurrogate = true := by
  rw [pair?] at h
  split at h
  · rename_i halves
    exact Bool.and_eq_true_iff.mp halves
  · cases h

/-- After joining no surrogate is left exactly when each was the half of a pair. -/
theorem isScalar_joinPairs_iff {t : Text} : (joinPairs t).IsScalar ↔ Paired t := by
  induction t using joinPairs.induct with
  | case1 => exact iff_of_true Text.isScalar_nil .nil
  | case2 c =>
      rw [joinPairs, Text.isScalar_cons]
      constructor
      · rintro ⟨scalar, _⟩
        exact .single scalar .nil
      · intro paired
        cases paired with
        | single scalar _ => exact ⟨scalar, Text.isScalar_nil⟩
  | case3 c d rest joined found ih =>
      obtain ⟨isHigh, isLow⟩ := halves_of_pair? found
      obtain ⟨_, found', scalar⟩ := exists_pair? isHigh isLow
      obtain rfl := Option.some.inj (found.symm.trans found')
      rw [joinPairs, found]
      dsimp only
      rw [Text.isScalar_cons, ih]
      constructor
      · rintro ⟨_, after⟩
        exact .pair isHigh isLow after
      · intro paired
        cases paired with
        | single notSurrogate _ =>
            rw [isSurrogate_of_isHighSurrogate isHigh] at notSurrogate
            cases notSurrogate
        | pair _ _ after => exact ⟨scalar, after⟩
  | case4 c d rest notFound ih =>
      rw [joinPairs, notFound]
      dsimp only
      rw [Text.isScalar_cons, ih]
      constructor
      · rintro ⟨scalar, after⟩
        exact .single scalar after
      · intro paired
        cases paired with
        | single scalar after => exact ⟨scalar, after⟩
        | pair isHigh isLow _ =>
            obtain ⟨joined, found, _⟩ := exists_pair? isHigh isLow
            rw [notFound] at found
            cases found

/-- Where there are no surrogates there is nothing to join. -/
theorem joinPairs_of_isScalar {t : Text} (scalar : t.IsScalar) : joinPairs t = t := by
  induction t using joinPairs.induct with
  | case1 => rfl
  | case2 c => rfl
  | case3 c d rest joined found ih =>
      have isHigh := (halves_of_pair? found).1
      have notSurrogate := (Text.isScalar_cons.mp scalar).1
      rw [isSurrogate_of_isHighSurrogate isHigh] at notSurrogate
      cases notSurrogate
  | case4 c d rest notFound ih =>
      rw [joinPairs, notFound, ih (Text.isScalar_cons.mp scalar).2]

/-- The value of a literal has no surrogate exactly when the escapes of the literal leave none
alone. -/
theorem isScalar_decode_iff {cs : List Char} : (decode cs).IsScalar ↔ Paired (replace cs) :=
  isScalar_joinPairs_iff

/-! ## Joining and units -/

theorem val_of_pair? {high low joined : CodePoint} (found : pair? high low = some joined) :
    joined.val = 0x10000 + (high.val - 0xD800) * 0x400 + (low.val - 0xDC00) := by
  obtain ⟨isHigh, isLow⟩ := halves_of_pair? found
  rw [pair?, isHigh, isLow, Bool.and_self, if_pos rfl, CodePoint.ofNat?] at found
  split at found
  · obtain rfl := Option.some.inj found
    rfl
  · cases found

theorem units_of_pair? {high low joined : CodePoint} (found : pair? high low = some joined) :
    joined.units = high.units ++ low.units := by
  have value := val_of_pair? found
  obtain ⟨isHigh, isLow⟩ := halves_of_pair? found
  rw [CodePoint.isHighSurrogate_iff] at isHigh
  rw [CodePoint.isLowSurrogate_iff] at isLow
  have highSmall : high.val < 0x10000 := by omega
  have lowSmall : low.val < 0x10000 := by omega
  rw [CodePoint.units_of_small highSmall, CodePoint.units_of_small lowSmall, CodePoint.units,
    dif_neg (by omega)]
  simp only [List.cons_append, List.nil_append, List.cons.injEq, Fin.mk.injEq, and_true]
  omega

theorem units_joinPairs (t : Text) : (joinPairs t).units = t.units := by
  induction t using joinPairs.induct with
  | case1 => rfl
  | case2 c => rfl
  | case3 c d rest joined found ih =>
      rw [joinPairs, found]
      dsimp only
      rw [Text.units_cons, Text.units_cons, Text.units_cons, ih, units_of_pair? found,
        List.append_assoc]
  | case4 c d rest notFound ih =>
      rw [joinPairs, notFound]
      dsimp only
      rw [Text.units_cons, ih, ← Text.units_cons]

theorem not_isHighSurrogate_of_pair? {c d joined : CodePoint} (found : pair? c d = some joined) :
    joined.isHighSurrogate = false ∧ joined.isLowSurrogate = false := by
  obtain ⟨isHigh, isLow⟩ := halves_of_pair? found
  obtain ⟨_, found', scalar⟩ := exists_pair? isHigh isLow
  obtain rfl := Option.some.inj (found.symm.trans found')
  simp only [CodePoint.isSurrogate, Bool.and_eq_false_iff, decide_eq_false_iff_not] at scalar
  simp only [CodePoint.isHighSurrogate, CodePoint.isLowSurrogate, Bool.and_eq_false_iff,
    decide_eq_false_iff_not]
  omega

theorem head?_of_isLowSurrogate {t : Text} {d : CodePoint} (front : d ∈ (joinPairs t).head?)
    (isLow : d.isLowSurrogate = true) : d ∈ t.head? := by
  induction t using joinPairs.induct with
  | case1 => exact front
  | case2 c => exact front
  | case3 c e rest joined found ih =>
      rw [joinPairs, found] at front
      obtain rfl : joined = d := Option.some.inj front
      rw [(not_isHighSurrogate_of_pair? found).2] at isLow
      cases isLow
  | case4 c e rest notFound ih =>
      rw [joinPairs, notFound] at front
      exact front

theorem isJoined_joinPairs (t : Text) : (joinPairs t).IsJoined := by
  induction t using joinPairs.induct with
  | case1 => exact List.isChain_nil
  | case2 c => exact List.isChain_singleton c
  | case3 c d rest joined found ih =>
      rw [joinPairs, found]
      refine Text.isJoined_cons_iff.mpr ⟨fun isHigh => ?_, ih⟩
      rw [(not_isHighSurrogate_of_pair? found).1] at isHigh
      cases isHigh
  | case4 c d rest notFound ih =>
      rw [joinPairs, notFound]
      refine Text.isJoined_cons_iff.mpr ⟨fun isHigh e front => ?_, ih⟩
      rw [← Bool.not_eq_true]
      intro isLow
      obtain rfl : d = e := Option.some.inj (head?_of_isLowSurrogate front isLow)
      obtain ⟨joined, found, _⟩ := exists_pair? isHigh isLow
      rw [notFound] at found
      cases found

theorem joinPairs_cons {c : CodePoint} {t : Text}
    (alone : c.isHighSurrogate = true → ∀ d ∈ t.head?, d.isLowSurrogate = false) :
    joinPairs (c :: t) = c :: joinPairs t := by
  cases t with
  | nil => rfl
  | cons d rest =>
      cases found : pair? c d with
      | none => rw [joinPairs, found]
      | some joined =>
          obtain ⟨isHigh, isLow⟩ := halves_of_pair? found
          rw [alone isHigh d rfl] at isLow
          cases isLow

theorem head?_of_units {t : Text} {d : CodePoint} (front : d ∈ (t.units.map CodePoint.ofUnit).head?)
    (isLow : d.isLowSurrogate = true) : d ∈ t.head? := by
  cases t with
  | nil => cases front
  | cons c rest =>
      rw [Text.units_cons] at front
      by_cases small : c.val < 0x10000
      · rw [CodePoint.units_of_small small] at front
        exact front
      · obtain ⟨high, low, halves, isHigh, _⟩ := CodePoint.exists_units_of_big small
        rw [halves] at front
        obtain rfl : CodePoint.ofUnit high = d := Option.some.inj front
        rw [CodePoint.isHighSurrogate_iff] at isHigh
        rw [CodePoint.isLowSurrogate_iff] at isLow
        omega

theorem joinPairs_units {t : Text} (joined : t.IsJoined) :
    joinPairs (t.units.map CodePoint.ofUnit) = t := by
  induction t with
  | nil => rfl
  | cons c t ih =>
      obtain ⟨alone, joined⟩ := Text.isJoined_cons_iff.mp joined
      have rest := ih joined
      rw [Text.units_cons]
      by_cases small : c.val < 0x10000
      · rw [CodePoint.units_of_small small]
        have front : c.isHighSurrogate = true →
            ∀ d ∈ ((Text.units t).map CodePoint.ofUnit).head?, d.isLowSurrogate = false := by
          intro isHigh d first
          rw [← Bool.not_eq_true]
          intro isLow
          rw [alone isHigh d (head?_of_units first isLow)] at isLow
          cases isLow
        have whole := joinPairs_cons front
        rw [rest] at whole
        exact whole
      · obtain ⟨high, low, halves, isHigh, isLow, value⟩ := CodePoint.exists_units_of_big small
        obtain ⟨c', found, _⟩ := exists_pair? isHigh isLow
        have same : c' = c := by
          have value' : c'.val = c.val := (val_of_pair? found).trans value.symm
          cases c'
          cases c
          exact CodePoint.mk.injEq .. ▸ value'
        rw [halves]
        simp only [List.cons_append, List.nil_append, List.map_cons]
        rw [joinPairs, found]
        dsimp only
        rw [rest, same]

theorem joinPairs_eq_iff {s t : Text} :
    joinPairs s = t ↔ t.IsJoined ∧ t.units = s.units := by
  constructor
  · rintro rfl
    exact ⟨isJoined_joinPairs s, units_joinPairs s⟩
  · rintro ⟨joined, same⟩
    rw [← joinPairs_units joined, same, ← units_joinPairs s]
    exact (joinPairs_units (isJoined_joinPairs s)).symm

end UsedSelectors.Script.Escape
