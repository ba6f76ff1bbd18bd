import UsedSelectors.Encoding.Codec

/-!
# Texts that can be written

A text can be written exactly when none of its code points is a surrogate. Such texts are those of
strings, and what is written is the string.
-/

namespace UsedSelectors

namespace CodePoint

theorem isSurrogate_ofChar (c : Char) : (ofChar c).isSurrogate = false := by
  have valid : c.toNat.isValidChar := c.valid
  rw [Bool.eq_false_iff]
  intro surrogate
  obtain ⟨low, high⟩ := Bool.and_eq_true_iff.mp surrogate
  have low : 0xD800 ≤ c.toNat := of_decide_eq_true low
  have high : c.toNat < 0xE000 := of_decide_eq_true high
  rcases valid with below | ⟨above, _⟩ <;> omega

theorem toChar?_ofChar (c : Char) : (ofChar c).toChar? = some c := by
  have valid : (ofChar c).val.isValidChar := c.valid
  rw [toChar?, dif_pos valid]
  rfl

theorem toChar?_eq_some_iff {c : CodePoint} {d : Char} :
    c.toChar? = some d ↔ ofChar d = c := by
  constructor
  · intro h
    by_cases valid : c.val.isValidChar
    · rw [toChar?, dif_pos valid] at h
      cases h
      rfl
    · rw [toChar?, dif_neg valid] at h
      cases h
  · rintro rfl
    exact toChar?_ofChar d

theorem exists_ofChar {c : CodePoint} (h : c.isSurrogate = false) : ∃ d, ofChar d = c := by
  have bound := c.isLt
  simp only [isSurrogate, Bool.and_eq_false_iff, decide_eq_false_iff_not] at h
  have valid : c.val.isValidChar := by
    unfold Nat.isValidChar
    omega
  refine ⟨Char.ofNatAux c.val valid, ?_⟩
  obtain ⟨n, hn⟩ := c
  rfl

end CodePoint

namespace Text

/-- There are bytes for a text: a surrogate in it stands for a byte. -/
def IsEncodable (t : Text) : Prop := ∀ c ∈ t, c.isSurrogate = true → c.isEscapedByte = true

theorem IsScalar.isEncodable {t : Text} (h : t.IsScalar) : t.IsEncodable := by
  intro c member surrogate
  rw [h c member] at surrogate
  cases surrogate

theorem isScalar_nil : IsScalar [] := by simp [IsScalar]

theorem isScalar_cons {c : CodePoint} {t : Text} :
    IsScalar (c :: t) ↔ c.isSurrogate = false ∧ t.IsScalar := List.forall_mem_cons

theorem isScalar_append {a b : Text} : IsScalar (a ++ b) ↔ a.IsScalar ∧ b.IsScalar :=
  List.forall_mem_append

theorem isScalar_flatten {texts : List Text} :
    IsScalar texts.flatten ↔ ∀ t ∈ texts, t.IsScalar := by
  induction texts with
  | nil => simp [isScalar_nil]
  | cons t texts ih => rw [List.flatten_cons, isScalar_append, ih, List.forall_mem_cons]

theorem isScalar_ofChars (cs : List Char) : (ofChars cs).IsScalar := by
  intro c hc
  obtain ⟨d, _, rfl⟩ := List.mem_map.mp hc
  exact CodePoint.isSurrogate_ofChar d

theorem isScalar_ofString (s : String) : (ofString s).IsScalar := isScalar_ofChars s.toList

theorem IsScalar.exists_ofChars {t : Text} (h : t.IsScalar) : ∃ cs, ofChars cs = t := by
  induction t with
  | nil => exact ⟨[], rfl⟩
  | cons c t ih =>
      obtain ⟨scalar, rest⟩ := isScalar_cons.mp h
      obtain ⟨d, rfl⟩ := CodePoint.exists_ofChar scalar
      obtain ⟨cs, rfl⟩ := ih rest
      exact ⟨d :: cs, rfl⟩

theorem ofChars_append (a b : List Char) : ofChars (a ++ b) = ofChars a ++ ofChars b :=
  List.map_append

theorem ofString_append (a b : String) : ofString (a ++ b) = ofString a ++ ofString b := by
  rw [ofString, String.toList_append, ofChars_append]
  rfl

theorem ofChar_mem_ofString_iff {c : Char} {s : String} :
    CodePoint.ofChar c ∈ ofString s ↔ c ∈ s.toList := by
  constructor
  · intro member
    obtain ⟨d, inside, same⟩ := List.mem_map.mp member
    have back := CodePoint.toChar?_eq_some_iff.mpr same
    rw [CodePoint.toChar?_ofChar] at back
    cases back
    exact inside
  · exact List.mem_map_of_mem

theorem toChars?_eq_some_iff {t : Text} {cs : List Char} :
    t.toChars? = some cs ↔ ofChars cs = t := by
  rw [toChars?]
  induction t generalizing cs with
  | nil => cases cs <;> simp [ofChars]
  | cons c t ih =>
      simp only [List.mapM_cons, bind, Option.bind_eq_some_iff, CodePoint.toChar?_eq_some_iff, ih,
        pure, Option.some.injEq]
      constructor
      · rintro ⟨d, rfl, rest, rfl, rfl⟩
        rfl
      · intro same
        cases cs with
        | nil => cases same
        | cons d cs =>
            cases same
            exact ⟨d, rfl, cs, rfl, rfl⟩

theorem toString?_eq_some_iff {t : Text} {s : String} :
    t.toString? = some s ↔ ofString s = t := by
  rw [toString?, Option.map_eq_some_iff, ofString]
  constructor
  · rintro ⟨cs, chars, rfl⟩
    rw [String.toList_ofList]
    exact toChars?_eq_some_iff.mp chars
  · intro same
    exact ⟨s.toList, toChars?_eq_some_iff.mpr same, String.ofList_toList⟩

end Text

namespace Encoding

theorem surrogateFrom?_eq_none_iff (position : Nat) {t : Text} :
    surrogateFrom? false position t = none ↔ t.IsScalar := by
  induction t generalizing position with
  | nil => simp [surrogateFrom?, Text.isScalar_nil]
  | cons c t ih =>
      rw [Text.isScalar_cons, surrogateFrom?, Bool.false_and, Bool.not_false, Bool.and_true]
      cases c.isSurrogate <;> simp [ih]

theorem surrogateFrom?_true_eq_none_iff (position : Nat) {t : Text} :
    surrogateFrom? true position t = none ↔ t.IsEncodable := by
  induction t generalizing position with
  | nil => simp [surrogateFrom?, Text.IsEncodable]
  | cons c t ih =>
      rw [surrogateFrom?, Bool.true_and, Text.IsEncodable, List.forall_mem_cons]
      cases c.isSurrogate <;> cases c.isEscapedByte <;> simp [ih, Text.IsEncodable]

theorem writable_ofString (s : String) : writable (.ofString s) = .ok s := by
  have none : surrogateFrom? false 0 (.ofString s) = none :=
    (surrogateFrom?_eq_none_iff 0).mpr (Text.isScalar_ofString s)
  have chars : (Text.ofString s).filterMap CodePoint.toChar? = s.toList := by
    have back : CodePoint.toChar? ∘ CodePoint.ofChar = some := funext CodePoint.toChar?_ofChar
    rw [Text.ofString, Text.ofChars, List.filterMap_map, back, List.filterMap_some]
  rw [writable, none]
  dsimp only
  rw [chars, String.ofList_toList]

theorem ofString_injective {s t : String} (same : Text.ofString s = .ofString t) : s = t := by
  have written := writable_ofString s
  rw [same, writable_ofString] at written
  exact (Except.ok.inj written).symm

/-- A text can be written exactly when there is no surrogate in it. -/
theorem exists_writable_iff {t : Text} : (∃ s, writable t = .ok s) ↔ t.IsScalar := by
  constructor
  · rintro ⟨s, written⟩
    rw [← surrogateFrom?_eq_none_iff 0]
    cases h : surrogateFrom? false 0 t with
    | none => rfl
    | some e =>
        rw [writable, h] at written
        cases written
  · intro scalar
    obtain ⟨cs, rfl⟩ := scalar.exists_ofChars
    refine ⟨String.ofList cs, ?_⟩
    rw [← writable_ofString, Text.ofString, String.toList_ofList]

theorem writable_eq_ok_iff {t : Text} {s : String} : writable t = .ok s ↔ .ofString s = t := by
  constructor
  · intro written
    obtain ⟨cs, rfl⟩ := (exists_writable_iff.mp ⟨s, written⟩).exists_ofChars
    have same := writable_ofString (String.ofList cs)
    rw [Text.ofString, String.toList_ofList, written] at same
    cases same
    rw [Text.ofString, String.toList_ofList]
  · rintro rfl
    exact writable_ofString s

/-- A stream takes the texts without a surrogate, and no others. -/
def Stream.IsUtf8 (stream : Stream) : Prop := ∀ t, (∃ e, stream t = .error e) ↔ ¬ t.IsScalar

theorem Stream.isUtf8_utf8 : Stream.utf8.IsUtf8 := by
  intro t
  rw [← exists_writable_iff, Stream.utf8]
  cases writable t <;> simp [Except.map]

end Encoding

end UsedSelectors
