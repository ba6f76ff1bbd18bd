import UsedSelectors.Proofs.Attempts
import UsedSelectors.Proofs.Text.Numeral
import UsedSelectors.Settings

/-!
# The size limit

The size limit comes from one variable of the environment, and from no other. Whatever number this
variable spells, the limit is the number that is nearest to it inside the bounds. Settings are
refused only where the variable is set and spells no number.
-/

namespace UsedSelectors

open Attempts

variable {lower upper value other : Int}

theorem clamp_mono (le : value ≤ other) : clamp value lower upper ≤ clamp other lower upper :=
  max_le_max_left lower (min_le_min_left upper le)

namespace Settings

/-- The limit for a number: the number inside the bounds, and outside them the nearer bound. -/
structure IsLimitFor (n limit : Int) : Prop where
  inside : 1024 ≤ n → n ≤ 67108864 → limit = n
  below : n < 1024 → limit = 1024
  above : 67108864 < n → limit = 67108864

theorem isLimitFor_clamp (n : Int) : IsLimitFor n (clamp n minFileBytes maxFileBytesBound) where
  inside _ _ := by simp only [clamp, minFileBytes, maxFileBytesBound]; omega
  below _ := by simp only [clamp, minFileBytes, maxFileBytesBound]; omega
  above _ := by simp only [clamp, minFileBytes, maxFileBytesBound]; omega

theorem IsLimitFor.bounds {n limit : Int} (isLimit : IsLimitFor n limit) :
    1024 ≤ limit ∧ limit ≤ 67108864 := by
  obtain ⟨inside, below, above⟩ := isLimit
  omega

variable {environment : Environment} {text : String} {n : Int} {e : NumeralError}

/-! ## One variable -/

theorem map_maxFileBytes_ofEnvironment (environment : Environment) :
    (ofEnvironment environment).map maxFileBytes =
      ((environment.lookup maxFileBytesVariable).mapM readFileBytes).map
        (.ofOption defaultFileBytes) := by
  rw [ofEnvironment]
  cases (environment.lookup maxFileBytesVariable).mapM readFileBytes <;> rfl

theorem exists_ofEnvironment_of_unset (unset : environment.lookup maxFileBytesVariable = none) :
    ∃ settings, ofEnvironment environment = .ok settings ∧
      settings.maxFileBytes = ⟨defaultFileBytes, false⟩ := by
  have limit := map_maxFileBytes_ofEnvironment environment
  rw [unset] at limit
  exact map_eq_ok_iff.mp limit

theorem exists_ofEnvironment_of_read (given : environment.lookup maxFileBytesVariable = some text)
    (found : Numeral.read text = .ok n) :
    ∃ settings, ofEnvironment environment = .ok settings ∧
      settings.maxFileBytes = ⟨clamp n minFileBytes maxFileBytesBound, true⟩ := by
  have limit := map_maxFileBytes_ofEnvironment environment
  have read : readFileBytes text = .ok (clamp n minFileBytes maxFileBytesBound) := by
    rw [readFileBytes, found]
    rfl
  rw [given, Option.mapM_some, read] at limit
  exact map_eq_ok_iff.mp limit

theorem ofEnvironment_of_unread (given : environment.lookup maxFileBytesVariable = some text)
    (failed : Numeral.read text = .error e) : ofEnvironment environment = .error e := by
  have limit := map_maxFileBytes_ofEnvironment environment
  have read : readFileBytes text = .error e := by
    rw [readFileBytes, failed]
    rfl
  rw [given, Option.mapM_some, read] at limit
  exact map_eq_error_iff.mp limit

theorem exists_isLimitFor (given : environment.lookup maxFileBytesVariable = some text)
    (spells : Numeral.Spells text n) :
    ∃ settings, ofEnvironment environment = .ok settings ∧
      IsLimitFor n settings.maxFileBytes.value := by
  obtain ⟨settings, valid, limit⟩ :=
    exists_ofEnvironment_of_read given (Numeral.read_of_spells spells)
  refine ⟨settings, valid, ?_⟩
  rw [limit]
  exact isLimitFor_clamp n

theorem exists_error_of_forall_not_spells
    (given : environment.lookup maxFileBytesVariable = some text)
    (none : ∀ n, ¬Numeral.Spells text n) : ∃ e, ofEnvironment environment = .error e := by
  cases read : Numeral.read text with
  | ok n => exact absurd (Numeral.spells_of_read read) (none n)
  | error e => exact ⟨e, ofEnvironment_of_unread given read⟩

theorem limited_or_refused (environment : Environment) :
    (∃ settings, ofEnvironment environment = .ok settings ∧
      1024 ≤ settings.maxFileBytes.value ∧ settings.maxFileBytes.value ≤ 67108864) ∨
    ∃ text e, environment.lookup maxFileBytesVariable = some text ∧
      Numeral.read text = .error e ∧ ofEnvironment environment = .error e := by
  cases given : environment.lookup maxFileBytesVariable with
  | none =>
      obtain ⟨settings, valid, limit⟩ := exists_ofEnvironment_of_unset given
      exact .inl ⟨settings, valid, by rw [limit]; decide⟩
  | some text =>
      cases read : Numeral.read text with
      | ok n =>
          obtain ⟨settings, valid, limit⟩ :=
            exists_isLimitFor given (Numeral.spells_of_read read)
          exact .inl ⟨settings, valid, limit.bounds⟩
      | error e => exact .inr ⟨text, e, rfl, read, ofEnvironment_of_unread given read⟩

/--
An environment gives settings with a limit inside the bounds, unless its variable for the limit is
set to a text that is not read as a number. Every spelling of a number gives the limit for it, so a
greater number never gives a lower limit; a text that spells no number is refused, and with it
every text without digits, with a loose underscore, with a second sign or with too many digits.
Environments that agree on the variable have the same limit, or are refused for the same reason.
-/
theorem maxFileBytes_isLimitFor :
    (∀ environment,
      (∃ settings, ofEnvironment environment = .ok settings ∧
        1024 ≤ settings.maxFileBytes.value ∧ settings.maxFileBytes.value ≤ 67108864) ∨
      ∃ text e, environment.lookup maxFileBytesVariable = some text ∧
        Numeral.read text = .error e ∧ ofEnvironment environment = .error e) ∧
    (∀ environment text, environment.lookup maxFileBytesVariable = some text →
      (∀ n, Numeral.Spells text n → ∃ settings, ofEnvironment environment = .ok settings ∧
        IsLimitFor n settings.maxFileBytes.value) ∧
      ((∀ n, ¬Numeral.Spells text n) → ∃ e, ofEnvironment environment = .error e) ∧
      (Numeral.IsRuledOut text → ∃ e, ofEnvironment environment = .error e)) ∧
    (∀ environment other text more n m, environment.lookup maxFileBytesVariable = some text →
      other.lookup maxFileBytesVariable = some more → Numeral.Spells text n →
      Numeral.Spells more m → n ≤ m →
      ∃ settings others, ofEnvironment environment = .ok settings ∧
        ofEnvironment other = .ok others ∧
        settings.maxFileBytes.value ≤ others.maxFileBytes.value) ∧
    ∀ environment other : Environment,
      environment.lookup maxFileBytesVariable = other.lookup maxFileBytesVariable →
      (ofEnvironment environment).map maxFileBytes = (ofEnvironment other).map maxFileBytes := by
  refine ⟨limited_or_refused, ?_, ?_, ?_⟩
  · intro environment text given
    refine ⟨fun n => exists_isLimitFor given, exists_error_of_forall_not_spells given, ?_⟩
    intro ruledOut
    exact exists_error_of_forall_not_spells given fun n spells => spells.not_isRuledOut ruledOut
  · intro environment other text more n m given otherGiven spells otherSpells le
    obtain ⟨settings, valid, limit⟩ :=
      exists_ofEnvironment_of_read given (Numeral.read_of_spells spells)
    obtain ⟨others, otherValid, otherLimit⟩ :=
      exists_ofEnvironment_of_read otherGiven (Numeral.read_of_spells otherSpells)
    refine ⟨settings, others, valid, otherValid, ?_⟩
    rw [limit, otherLimit]
    exact clamp_mono le
  · intro environment other same
    rw [map_maxFileBytes_ofEnvironment, map_maxFileBytes_ofEnvironment, same]

/-! ## Some limits -/

def limitedTo (text : String) : Environment :=
  [(encodingVariable, "ascii"), (maxFileBytesVariable, text)]

theorem spells_mixedDigits : Numeral.Spells "\t+0_\u0662048\u00A0" 2048 := by
  have digit {c : Char} {value : Nat} (found : digitValue? c = some value) : IsDigit c value :=
    digitValue?_eq_some_iff.mp found
  refine ⟨['\t'], ['+'], ['0', '_', '\u0662', '0', '4', '8'], ['\u00A0'], false, [0, 2, 0, 4, 8],
    by decide, ?_, .plus, ?_, by decide, ?_, by decide⟩
  · exact List.forall_mem_singleton.mpr (.inl (by decide))
  · exact .nextGroup (digit (by decide)) (.next (digit (by decide)) (.next (digit (by decide))
      (.next (digit (by decide)) (.last (digit (by decide))))))
  · exact List.forall_mem_singleton.mpr (.inr (by decide))

theorem spells_minusSeven : Numeral.Spells "-7" (-7) :=
  ⟨[], ['-'], ['7'], [], true, [7], by decide, List.forall_mem_nil _, .minus,
    .last (digitValue?_eq_some_iff.mp (by decide)), by decide, List.forall_mem_nil _, by decide⟩

theorem isRuledOut_doubleUnderscore : Numeral.IsRuledOut "1__0" := by
  refine .looseUnderscore ['1'] ['_', '0'] (by decide) (.inr ?_)
  rintro ⟨_, ⟨⟩, value, digit⟩
  exact Numeral.not_isDigit_underscore value digit

/-- The limit is a number that is spelled, or the lower bound, or there is none. -/
theorem maxFileBytes_isLimitFor_mixedDigits :
    Numeral.Spells "\t+0_\u0662048\u00A0" 2048 ∧ Numeral.Spells "-7" (-7) ∧
    (∃ settings, ofEnvironment (limitedTo "\t+0_\u0662048\u00A0") = .ok settings ∧
      IsLimitFor 2048 settings.maxFileBytes.value) ∧
    (∃ settings others, ofEnvironment (limitedTo "-7") = .ok settings ∧
      ofEnvironment (limitedTo "\t+0_\u0662048\u00A0") = .ok others ∧
      settings.maxFileBytes.value ≤ others.maxFileBytes.value) ∧
    (Numeral.IsRuledOut "1__0" ∧ ∃ e, ofEnvironment (limitedTo "1__0") = .error e) ∧
    ((∀ n, ¬Numeral.Spells "1__0" n) ∧ ∃ e, ofEnvironment (limitedTo "1__0") = .error e) ∧
    (ofEnvironment (limitedTo "-7")).map maxFileBytes =
      (ofEnvironment [(maxFileBytesVariable, "-7")]).map maxFileBytes := by
  have noSpelling : ∀ n, ¬Numeral.Spells "1__0" n :=
    fun _ spells => spells.not_isRuledOut isRuledOut_doubleUnderscore
  obtain ⟨_, each, monotone, only⟩ := maxFileBytes_isLimitFor
  obtain ⟨spelled, _⟩ := each (limitedTo "\t+0_\u0662048\u00A0") _ rfl
  obtain ⟨_, unspelled, ruledOut⟩ := each (limitedTo "1__0") _ rfl
  exact ⟨spells_mixedDigits, spells_minusSeven, spelled _ spells_mixedDigits,
    monotone _ _ _ _ _ _ rfl rfl spells_minusSeven spells_mixedDigits (by decide),
    ⟨isRuledOut_doubleUnderscore, ruledOut isRuledOut_doubleUnderscore⟩,
    ⟨noSpelling, unspelled noSpelling⟩, only _ _ rfl⟩

example : (ofEnvironment (limitedTo "\t+0_\u0662048\u00A0")).map maxFileBytes =
    .ok ⟨2048, true⟩ := by
  decide

end Settings

end UsedSelectors
