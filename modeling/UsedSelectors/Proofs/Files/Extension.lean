import UsedSelectors.Files.Path
import UsedSelectors.Proofs.Encoding.Writable
import UsedSelectors.Proofs.Text.Pieces
import UsedSelectors.Text.UpperCase

/-!
# Modes by extension

A path ends in a name: the last part between its slashes that leads anywhere. What follows the last
dot of that name is its extension, if there is something on both sides of the dot. The mode of a
file is known by its extension in any case of the letters, and by nothing else.
-/

namespace UsedSelectors

/-- What may follow a name without leading any further: slashes, and names that are one dot. -/
inductive LeadsNoFurther : Text → Prop where
  | nothing : LeadsNoFurther []
  | slash {rest : Text} (further : LeadsNoFurther rest) : LeadsNoFurther (.slash :: rest)
  | dot {rest : Text} (further : LeadsNoFurther rest) : LeadsNoFurther (.slash :: .dot :: rest)

structure EndsInName (cs name : Text) : Prop where
  cut : ∃ front back, cs = front ++ name ++ back ∧
    (front = [] ∨ ∃ directories, front = directories ++ [.slash]) ∧ LeadsNoFurther back
  noSlash : .slash ∉ name
  notEmpty : name ≠ []
  notDot : name ≠ [.dot]

/-- A name with something in front of a dot, and one of some extensions, in any case, after it. -/
def HasExtension (name : Text) (extensions : List String) : Prop :=
  ∃ (stem : Text) (ext : List Char), name = stem ++ .dot :: Text.ofChars ext ∧ stem ≠ [] ∧
    ∃ known ∈ extensions, ext.map Char.toLower = known.toList

inductive IsUnknownName : Text → Prop where
  | noDot {name : Text} (clean : .dot ∉ name) : IsUnknownName name
  | onlyDotFirst {rest : Text} (clean : .dot ∉ rest) : IsUnknownName (.dot :: rest)
  | dotLast (stem : Text) : IsUnknownName (stem ++ [.dot])
  | unlisted (stem : Text) {ext : Text} (last : .dot ∉ ext)
      (other : ∀ known ∈ ["html", "htm", "xhtml", "jsx", "js", "mjs"], ∀ cs : List Char,
        Text.ofChars cs = ext → cs.map Char.toLower ≠ known.toList) :
      IsUnknownName (stem ++ .dot :: ext)
  | foreign (stem : Text) {ext : Text} {c : CodePoint} (last : .dot ∉ ext) (member : c ∈ ext)
      (notAscii : 0x80 ≤ c.val) : IsUnknownName (stem ++ .dot :: ext)

variable {cs name back : Text}

/-! ## Last names -/

theorem LeadsNoFurther.append {more : Text} (further : LeadsNoFurther back)
    (still : LeadsNoFurther more) : LeadsNoFurther (back ++ more) := by
  induction further with
  | nothing => exact still
  | slash _ ih => exact ih.slash
  | dot _ ih => exact ih.dot

theorem EndsInName.append (ends : EndsInName cs name) (further : LeadsNoFurther back) :
    EndsInName (cs ++ back) name := by
  obtain ⟨⟨front, more, rfl, whole, still⟩, noSlash, notEmpty, notDot⟩ := ends
  refine ⟨⟨front, more ++ back, ?_, whole, still.append further⟩, noSlash, notEmpty, notDot⟩
  simp only [List.append_assoc]

theorem EndsInName.prepend (ends : EndsInName cs name) (directories : Text) :
    EndsInName (directories ++ .slash :: cs) name := by
  obtain ⟨⟨front, back, rfl, whole, further⟩, noSlash, notEmpty, notDot⟩ := ends
  refine ⟨⟨directories ++ .slash :: front, back, ?_, .inr ?_, further⟩, noSlash, notEmpty, notDot⟩
  · simp only [List.append_assoc, List.cons_append]
  · rcases whole with rfl | ⟨more, rfl⟩
    · exact ⟨directories, rfl⟩
    · refine ⟨directories ++ .slash :: more, ?_⟩
      simp only [List.append_assoc, List.cons_append]

namespace Path

theorem isStep_eq_true_iff : isStep name = true ↔ name ≠ [] ∧ name ≠ [.dot] := by
  simp [isStep]

theorem filter_pieces_append (further : LeadsNoFurther back) (noSlash : .slash ∉ name) :
    (pieces .slash (name ++ back)).filter isStep = [name].filter isStep := by
  induction further generalizing name with
  | nothing => rw [List.append_nil, pieces_of_not_mem noSlash]
  | @slash rest _ ih =>
      rw [pieces_append_cons noSlash, List.filter_cons, List.filter_cons,
        show pieces .slash rest = pieces .slash ([] ++ rest) from rfl, ih List.not_mem_nil]
      rfl
  | @dot rest _ ih =>
      rw [pieces_append_cons noSlash, List.filter_cons, List.filter_cons,
        show pieces .slash (.dot :: rest) = pieces .slash ([.dot] ++ rest) from rfl, ih (by decide)]
      rfl

theorem getLast?_names_of_endsInName (ends : EndsInName cs name) :
    ((pieces .slash cs).filter isStep).getLast? = some name := by
  obtain ⟨⟨front, back, rfl, whole, further⟩, noSlash, notEmpty, notDot⟩ := ends
  have last : (pieces .slash (name ++ back)).filter isStep = [name] := by
    rw [filter_pieces_append further noSlash,
      List.filter_cons_of_pos (isStep_eq_true_iff.mpr ⟨notEmpty, notDot⟩), List.filter_nil]
  rw [List.append_assoc]
  rcases whole with rfl | ⟨directories, rfl⟩
  · rw [List.nil_append, last]
    rfl
  · rw [List.append_assoc, List.singleton_append, pieces_append, List.filter_append, last,
      List.getLast?_concat]

theorem endsInName_of_isStep (step : isStep name = true) (noSlash : .slash ∉ name) :
    EndsInName name name := by
  obtain ⟨notEmpty, notDot⟩ := isStep_eq_true_iff.mp step
  refine ⟨⟨[], [], ?_, .inl rfl, .nothing⟩, noSlash, notEmpty, notDot⟩
  rw [List.nil_append, List.append_nil]

theorem leadsNoFurther_of_isStep (noStep : isStep name = false) :
    LeadsNoFurther (.slash :: name) := by
  by_cases empty : name = []
  · rw [empty]
    exact .slash .nothing
  · have dot : name = [.dot] := by
      by_contra notDot
      rw [isStep_eq_true_iff.mpr ⟨empty, notDot⟩] at noStep
      cases noStep
    rw [dot]
    exact .dot .nothing

theorem exists_endsInName (cs : Text) :
    (pieces .slash cs).filter isStep = [] ∨ ∃ name, EndsInName cs name := by
  -- The parts are looked at from the last one on, up to one that leads somewhere.
  induction length : cs.length using Nat.strongRecOn generalizing cs with
  | ind size ih =>
      by_cases member : .slash ∈ cs
      · obtain ⟨front, last, rfl, clean⟩ := exists_append_cons_not_mem member
        cases step : isStep last with
        | true => exact .inr ⟨last, (endsInName_of_isStep step clean).prepend front⟩
        | false =>
            have shorter : front.length < size := by
              rw [← length, List.length_append, List.length_cons]
              omega
            rcases ih front.length shorter front rfl with nothing | ⟨name, ends⟩
            · left
              rw [pieces_append, List.filter_append, nothing, pieces_of_not_mem clean,
                List.filter_cons_of_neg (by simp [step])]
              rfl
            · exact .inr ⟨name, ends.append (leadsNoFurther_of_isStep step)⟩
      · rw [pieces_of_not_mem member]
        cases step : isStep cs with
        | true => exact .inr ⟨cs, endsInName_of_isStep step member⟩
        | false => exact .inl (List.filter_cons_of_neg (by simp [step]))

theorem getLast?_names_eq_some_iff {text : Text} :
    (ofText text).names.getLast? = some name ↔ EndsInName text name := by
  rw [ofText]
  constructor
  · intro last
    rcases exists_endsInName text with nothing | ⟨other, ends⟩
    · rw [nothing] at last
      cases last
    · rw [getLast?_names_of_endsInName ends, Option.some_inj] at last
      rwa [← last]
  · exact getLast?_names_of_endsInName

end Path

/-! ## Extensions -/

theorem extension?_of_not_mem (clean : .dot ∉ name) : extension? name = none := by
  rw [extension?, pieces_of_not_mem clean]
  rfl

theorem extension?_append {stem ext : Text} (clean : .dot ∉ ext) :
    extension? (stem ++ .dot :: ext) = if stem = [] ∨ ext = [] then none else some ext := by
  rw [extension?, pieces_append, pieces_of_not_mem clean,
    List.reverse_append, List.reverse_singleton, List.singleton_append]
  have single : (pieces .dot stem).reverse = [[]] ↔ stem = [] := by
    rw [List.reverse_eq_iff, List.reverse_singleton, pieces_eq_singleton_nil_iff]
  cases reversed : (pieces .dot stem).reverse with
  | nil => exact absurd (List.reverse_eq_nil_iff.mp reversed) (pieces_ne_nil CodePoint.dot stem)
  | cons before earlier =>
      rw [reversed, List.cons.injEq] at single
      dsimp only
      simp only [Bool.or_eq_true, Bool.and_eq_true, List.isEmpty_iff, single, or_comm]

/-! ## Letters in any case -/

/-- The Kelvin sign, the only character outside ASCII that has a small letter in ASCII. -/
def kelvinSign : Char := Char.ofNat 0x212A

theorem isValidChar_lowerAsciiCode (c : Char) : (lowerAsciiCode c.toNat).isValidChar := by
  have valid : c.toNat.isValidChar := c.valid
  unfold lowerAsciiCode
  split
  · decide
  · split
    · rename_i capital
      rw [Bool.and_eq_true, decide_eq_true_iff, decide_eq_true_iff] at capital
      exact .inl (by omega)
    · exact valid

theorem CodePoint.lowerAscii_ofChar (c : Char) :
    (CodePoint.ofChar c).lowerAscii = .ofChar (UsedSelectors.lowerAscii c) := by
  rw [lowerAscii, ofChar, ofChar, CodePoint.mk.injEq, UsedSelectors.lowerAscii, Char.ofNat,
    dif_pos (isValidChar_lowerAsciiCode c)]
  rfl

theorem CodePoint.lowerAscii_eq_ofChar_iff {c : CodePoint} {d : Char} :
    c.lowerAscii = .ofChar d ↔ ∃ e, .ofChar e = c ∧ UsedSelectors.lowerAscii e = d := by
  constructor
  · intro lowered
    have scalar : c.isSurrogate = false := by
      rw [Bool.eq_false_iff]
      intro surrogate
      have unchanged : c.lowerAscii = c := by
        have low := of_decide_eq_true (Bool.and_eq_true_iff.mp surrogate).1
        have notKelvin : (c.val == 0x212A) = false := beq_eq_false_iff_ne.mpr (by omega)
        have notCapital : (decide (0x41 ≤ c.val) && decide (c.val ≤ 0x5A)) = false := by
          rw [Bool.and_eq_false_iff, decide_eq_false_iff_not, decide_eq_false_iff_not]
          omega
        have same : lowerAsciiCode c.val = c.val := by
          rw [lowerAsciiCode, notKelvin, notCapital]
          rfl
        cases c
        simp only [lowerAscii, same]
      rw [unchanged] at lowered
      rw [lowered, isSurrogate_ofChar] at surrogate
      cases surrogate
    obtain ⟨e, rfl⟩ := exists_ofChar scalar
    rw [lowerAscii_ofChar] at lowered
    have same := toChar?_eq_some_iff.mpr lowered
    rw [toChar?_ofChar] at same
    exact ⟨e, rfl, (Option.some.inj same).symm⟩
  · rintro ⟨e, rfl, rfl⟩
    exact lowerAscii_ofChar e

theorem map_lowerAscii_eq_ofChars_iff {ext : Text} {known : List Char} :
    ext.map CodePoint.lowerAscii = Text.ofChars known ↔
      ∃ cs, Text.ofChars cs = ext ∧ cs.map lowerAscii = known := by
  induction ext generalizing known with
  | nil => cases known <;> simp [Text.ofChars]
  | cons c ext ih =>
      constructor
      · intro lowered
        cases known with
        | nil => cases lowered
        | cons d known =>
            obtain ⟨first, rest⟩ := List.cons.inj lowered
            obtain ⟨e, rfl, rfl⟩ := CodePoint.lowerAscii_eq_ofChar_iff.mp first
            obtain ⟨cs, rfl, rfl⟩ := ih.mp rest
            exact ⟨e :: cs, rfl, rfl⟩
      · rintro ⟨cs, same, rfl⟩
        rw [← same, Text.ofChars, Text.ofChars, List.map_map, List.map_map]
        exact List.map_congr_left fun e _ => CodePoint.lowerAscii_ofChar e

theorem lowerAscii_of_ne {c : Char} (other : c ≠ kelvinSign) : lowerAscii c = c.toLower := by
  have notKelvin : ¬ (c.toNat == 0x212A) = true := by
    rw [beq_iff_eq]
    intro same
    rw [← Char.ofNat_toNat c, same] at other
    exact other rfl
  have letters : ∀ n < 91, 65 ≤ n → Char.ofNat (n + 32) = (Char.ofNat n).toLower := by decide
  rw [lowerAscii, lowerAsciiCode, if_neg notKelvin]
  by_cases capital : 65 ≤ c.toNat ∧ c.toNat ≤ 90
  · have same := letters c.toNat (by omega) capital.1
    rw [Char.ofNat_toNat] at same
    rw [if_pos (by simpa using capital), same]
  · have unchanged : c.toLower = c := by
      refine dif_neg fun isCapital => capital ?_
      have low : 65 ≤ c.toNat := UInt32.le_iff_toNat_le.mp isCapital.1
      have high : c.toNat ≤ 90 := UInt32.le_iff_toNat_le.mp isCapital.2
      exact ⟨low, high⟩
    rw [if_neg (by simpa using capital), unchanged, Char.ofNat_toNat]

/-- For a text of small ASCII letters, without a `k`, only the case of ASCII letters is ignored. -/
theorem map_lowerAscii_eq_iff {cs known : List Char} (noK : 'k' ∉ known)
    (noKelvin : kelvinSign ∉ known) :
    cs.map lowerAscii = known ↔ cs.map Char.toLower = known := by
  have same (other : kelvinSign ∉ cs) : cs.map lowerAscii = cs.map Char.toLower := by
    refine List.map_congr_left fun c member => lowerAscii_of_ne ?_
    rintro rfl
    exact other member
  constructor
  · rintro rfl
    rw [same]
    intro member
    exact noK (List.mem_map.mpr ⟨kelvinSign, member, by decide⟩)
  · rintro rfl
    rw [same]
    intro member
    exact noKelvin (List.mem_map.mpr ⟨kelvinSign, member, by decide⟩)

namespace Mode

theorem ofExtension?_eq_some_iff {mode : Mode} {ext : Text} :
    ofExtension? ext = some mode ↔ ∃ cs, Text.ofChars cs = ext ∧
      ∃ known ∈ mode.extensions, cs.map Char.toLower = known.toList := by
  have plain : ∀ mode : Mode, ∀ known ∈ mode.extensions,
      'k' ∉ known.toList ∧ kelvinSign ∉ known.toList := by
    intro mode
    cases mode <;> decide
  have apart : ∀ known ∈ markup.extensions, known ∉ component.extensions := by decide
  have known (mode : Mode) :
      (mode.extensions.map Text.ofString).contains (ext.map CodePoint.lowerAscii) = true ↔
        ∃ cs, Text.ofChars cs = ext ∧
          ∃ known ∈ mode.extensions, cs.map Char.toLower = known.toList := by
    rw [List.contains_iff_mem, List.mem_map]
    constructor
    · rintro ⟨known, listed, same⟩
      obtain ⟨noK, noKelvin⟩ := plain mode known listed
      obtain ⟨cs, spelled, lowered⟩ := map_lowerAscii_eq_ofChars_iff.mp same.symm
      exact ⟨cs, spelled, known, listed, (map_lowerAscii_eq_iff noK noKelvin).mp lowered⟩
    · rintro ⟨cs, spelled, known, listed, lowered⟩
      obtain ⟨noK, noKelvin⟩ := plain mode known listed
      refine ⟨known, listed, (map_lowerAscii_eq_ofChars_iff.mpr ⟨cs, spelled, ?_⟩).symm⟩
      exact (map_lowerAscii_eq_iff noK noKelvin).mpr lowered
  rw [← known, ofExtension?]
  constructor
  · exact List.find?_some
  · intro contains
    cases mode with
    | markup => rw [List.find?, contains]
    | component =>
        have outside : (markup.extensions.map Text.ofString).contains
            (ext.map CodePoint.lowerAscii) = false := by
          rw [Bool.eq_false_iff, ne_eq, List.contains_iff_mem, List.mem_map]
          rintro ⟨inMarkup, inside, same⟩
          obtain ⟨inComponent, listed, other⟩ := List.mem_map.mp (List.contains_iff_mem.mp contains)
          have one : inMarkup = inComponent :=
            Encoding.ofString_injective (same.trans other.symm)
          exact apart _ inside (one ▸ listed)
        rw [List.find?, outside, List.find?, contains]

theorem bind_ofExtension?_eq_some_iff {mode : Mode} :
    (extension? name).bind ofExtension? = some mode ↔ HasExtension name mode.extensions := by
  have plain : ∀ mode : Mode, ∀ known ∈ mode.extensions,
      '.' ∉ known.toList ∧ known.toList ≠ [] := by
    intro mode
    cases mode <;> decide
  constructor
  · intro found
    by_cases member : .dot ∈ name
    · obtain ⟨stem, ext, rfl, clean⟩ := exists_append_cons_not_mem member
      rw [extension?_append clean] at found
      split_ifs at found with empty
      · cases found
      · rw [not_or] at empty
        obtain ⟨cs, rfl, listed⟩ := ofExtension?_eq_some_iff.mp found
        exact ⟨stem, cs, rfl, empty.1, listed⟩
    · rw [extension?_of_not_mem member] at found
      cases found
  · rintro ⟨stem, ext, rfl, before, known, listed, same⟩
    obtain ⟨noDot, notEmpty⟩ := plain mode known listed
    have clean : .dot ∉ Text.ofChars ext := by
      rw [CodePoint.dot, ← String.toList_ofList (l := ext), ← Text.ofString,
        Text.ofChar_mem_ofString_iff, String.toList_ofList]
      intro member
      apply noDot
      rw [← same]
      exact List.mem_map.mpr ⟨'.', member, by decide⟩
    have after : Text.ofChars ext ≠ [] := by
      intro empty
      rw [List.map_eq_nil_iff.mp empty] at same
      exact notEmpty same.symm
    rw [extension?_append clean, if_neg (not_or.mpr ⟨before, after⟩)]
    exact ofExtension?_eq_some_iff.mpr ⟨ext, rfl, known, listed, same⟩

/-! ## Modes of paths -/

variable {text : Text} {mode : Mode}

theorem ofPath?_of_endsInName (ends : EndsInName text name) :
    ofPath? (Path.ofText text) = (extension? name).bind ofExtension? := by
  rw [ofPath?, Path.lastName, Path.getLast?_names_eq_some_iff.mpr ends]
  rfl

theorem ofPath?_of_nowhere (nowhere : ∀ name, ¬ EndsInName text name) :
    ofPath? (Path.ofText text) = none := by
  have noName : (Path.ofText text).names = [] := by
    rcases Path.exists_endsInName text with nothing | ⟨name, ends⟩
    · exact nothing
    · exact absurd ends (nowhere name)
  rw [ofPath?, Path.lastName, noName]
  decide

theorem ofPath?_eq_some_iff :
    ofPath? (Path.ofText text) = some mode ↔
      ∃ name, EndsInName text name ∧ HasExtension name mode.extensions := by
  constructor
  · intro found
    by_cases somewhere : ∃ name, EndsInName text name
    · obtain ⟨name, ends⟩ := somewhere
      rw [ofPath?_of_endsInName ends, bind_ofExtension?_eq_some_iff] at found
      exact ⟨name, ends, found⟩
    · rw [ofPath?_of_nowhere (not_exists.mp somewhere)] at found
      cases found
  · rintro ⟨name, ends, extension⟩
    rw [ofPath?_of_endsInName ends, bind_ofExtension?_eq_some_iff]
    exact extension

theorem map_toLower_ne_of_foreign {cs : List Char} {c : Char} (member : c ∈ cs)
    (notAscii : 0x80 ≤ c.toNat) {known : String} (listed : known ∈ mode.extensions) :
    cs.map Char.toLower ≠ known.toList := by
  have ascii : ∀ mode : Mode, ∀ known ∈ mode.extensions,
      known.toList.all (fun d => d.toNat < 0x80) = true := by
    intro mode
    cases mode <;> decide
  have unchanged : c.toLower = c := by
    apply dif_neg
    rintro ⟨_, high⟩
    have : c.toNat ≤ 90 := UInt32.le_iff_toNat_le.mp high
    omega
  intro same
  have inKnown : c ∈ known.toList := by
    rw [← same]
    exact List.mem_map.mpr ⟨c, member, unchanged⟩
  have small := List.all_eq_true.mp (ascii mode known listed) c inKnown
  rw [decide_eq_true_eq] at small
  omega

theorem exists_mem_extensions_iff {known : String} :
    (∃ mode : Mode, known ∈ mode.extensions) ↔
      known ∈ ["html", "htm", "xhtml", "jsx", "js", "mjs"] := by
  constructor
  · rintro ⟨mode, listed⟩
    revert known
    cases mode <;> decide
  · intro listed
    have either : ∀ known ∈ ["html", "htm", "xhtml", "jsx", "js", "mjs"],
        known ∈ markup.extensions ∨ known ∈ component.extensions := by decide
    rcases either known listed with inMarkup | inComponent
    · exact ⟨_, inMarkup⟩
    · exact ⟨_, inComponent⟩

theorem not_hasExtension_of_forall_ne {stem ext : Text} (last : .dot ∉ ext)
    (other : ∀ known ∈ mode.extensions, ∀ cs, Text.ofChars cs = ext →
      cs.map Char.toLower ≠ known.toList) :
    ¬ HasExtension (stem ++ .dot :: ext) mode.extensions := by
  intro extension
  rw [← bind_ofExtension?_eq_some_iff, extension?_append last] at extension
  split_ifs at extension
  · cases extension
  · obtain ⟨cs, spelled, known, listed, same⟩ := ofExtension?_eq_some_iff.mp extension
    exact other known listed cs spelled same

theorem isUnknownName_iff :
    IsUnknownName name ↔ ∀ mode : Mode, ¬ HasExtension name mode.extensions := by
  constructor
  · intro unknown mode
    cases unknown with
    | noDot clean =>
        rw [← bind_ofExtension?_eq_some_iff, extension?_of_not_mem clean]
        rintro ⟨⟩
    | @onlyDotFirst rest clean =>
        rw [← bind_ofExtension?_eq_some_iff, ← List.nil_append (.dot :: rest),
          extension?_append clean, if_pos (.inl rfl)]
        rintro ⟨⟩
    | dotLast stem =>
        rw [← bind_ofExtension?_eq_some_iff, extension?_append List.not_mem_nil,
          if_pos (.inr rfl)]
        rintro ⟨⟩
    | unlisted stem last other =>
        apply not_hasExtension_of_forall_ne last
        intro known listed
        exact other known (exists_mem_extensions_iff.mp ⟨mode, listed⟩)
    | foreign stem last member notAscii =>
        apply not_hasExtension_of_forall_ne last
        rintro known listed cs rfl
        obtain ⟨c, inside, rfl⟩ := List.mem_map.mp member
        exact map_toLower_ne_of_foreign inside notAscii listed
  · intro none
    by_cases member : .dot ∈ name
    · obtain ⟨stem, ext, rfl, clean⟩ := exists_append_cons_not_mem member
      by_cases noStem : stem = []
      · rw [noStem]
        exact .onlyDotFirst clean
      by_cases noExt : ext = []
      · rw [noExt]
        exact .dotLast stem
      refine .unlisted stem clean fun known inList cs spelled same => ?_
      obtain ⟨mode, listed⟩ := exists_mem_extensions_iff.mpr inList
      exact none mode ⟨stem, cs, by rw [spelled], noStem, known, listed, same⟩
    · exact .noDot member

/--
The mode of a path is known by the end of the name that the path ends in: by what follows the last
dot, without regard to the case of ASCII letters, if there is something in front of that dot. None
is known for a path that leads nowhere, nor for a name without a dot, with its only dot in front,
with a dot at its end, or with anything else than one of six extensions after its last dot.
Directories in front of a path with a name make no difference.
-/
theorem ofPath?_ofText (text : Text) :
    (ofPath? (Path.ofText text) = some .markup ↔
      ∃ name, EndsInName text name ∧ HasExtension name ["html", "htm", "xhtml"]) ∧
    (ofPath? (Path.ofText text) = some .component ↔
      ∃ name, EndsInName text name ∧ HasExtension name ["jsx", "js", "mjs"]) ∧
    (ofPath? (Path.ofText text) = none ↔
      (∀ name, ¬ EndsInName text name) ∨ ∃ name, EndsInName text name ∧ IsUnknownName name) ∧
    ∀ directories : Text, (∃ name, EndsInName text name) →
      ofPath? (Path.ofText (directories ++ .slash :: text)) = ofPath? (Path.ofText text) := by
  refine ⟨ofPath?_eq_some_iff, ofPath?_eq_some_iff, ?_, ?_⟩
  · constructor
    · intro none
      by_cases somewhere : ∃ name, EndsInName text name
      · obtain ⟨name, ends⟩ := somewhere
        refine .inr ⟨name, ends, isUnknownName_iff.mpr fun mode extension => ?_⟩
        have found := ofPath?_eq_some_iff.mpr ⟨name, ends, extension⟩
        rw [none] at found
        cases found
      · exact .inl (not_exists.mp somewhere)
    · rintro (nowhere | ⟨name, ends, unknown⟩)
      · exact ofPath?_of_nowhere nowhere
      · rw [ofPath?_of_endsInName ends, Option.eq_none_iff_forall_ne_some]
        intro mode found
        exact isUnknownName_iff.mp unknown mode (bind_ofExtension?_eq_some_iff.mp found)
  · rintro directories ⟨name, ends⟩
    rw [ofPath?_of_endsInName (ends.prepend directories), ofPath?_of_endsInName ends]

/-- A document in a directory, with an extension in mixed case and a step that leads no further. -/
theorem ofPath?_ofText_mixedCase :
    (∃ name, EndsInName (.ofString "page.v2.HtM/.") name) ∧
      ofPath? (Path.ofText (Text.ofString "site.js" ++ .slash :: Text.ofString "page.v2.HtM/.")) =
        ofPath? (Path.ofText (.ofString "page.v2.HtM/.")) ∧
      ofPath? (Path.ofText (.ofString "page.v2.HtM/.")) = some .markup := by
  have ends : EndsInName (.ofString "page.v2.HtM/.") (.ofString "page.v2.HtM") := by
    refine ⟨⟨[], [.slash, .dot], by decide, .inl rfl, .dot .nothing⟩, ?_, ?_, ?_⟩ <;> decide
  obtain ⟨isMarkup, _, _, sameBelow⟩ := ofPath?_ofText (.ofString "page.v2.HtM/.")
  refine ⟨⟨_, ends⟩, sameBelow (.ofString "site.js") ⟨_, ends⟩, isMarkup.mpr ⟨_, ends, ?_⟩⟩
  exact ⟨.ofString "page.v2", "HtM".toList, by decide, by decide, "htm", by decide, by decide⟩

end Mode

end UsedSelectors
