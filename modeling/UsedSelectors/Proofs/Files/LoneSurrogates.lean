import UsedSelectors.Proofs.Component.LoneSurrogates
import UsedSelectors.Proofs.Files.FileReport
import UsedSelectors.Proofs.Markup.Values
import UsedSelectors.Proofs.Report.Printed

/-!
# Surrogates in the reports on files

The report on a document has no surrogate but in the path of the file. That on a module has one in a
selector as well, exactly when a surrogate is left alone in an attribute that is reached, of a kind
that is asked for.
-/

namespace UsedSelectors

open Component Attempts

def KindChoice.Asks (choice : KindChoice) (kind : SelectorKind) : Prop :=
  choice = .all ∨ choice = .only kind

theorem KindChoice.forall_mem_restrict {choice : KindChoice} {selectors : SelectorKind → List Text}
    {p : Text → Prop} :
    (∀ selector ∈ (choice.restrict ⟨selectors .className, selectors .ident⟩).classNames ++
        (choice.restrict ⟨selectors .className, selectors .ident⟩).ids, p selector) ↔
      ∀ kind, choice.Asks kind → ∀ selector ∈ selectors kind, p selector := by
  rw [List.forall_mem_append, SelectorKind.forall_iff]
  obtain _ | (_ | _) := choice <;> simp [restrict, Asks]

/-! ## Messages -/

theorem Text.isScalar_quoted (t : Text) : t.quoted.IsScalar := Text.isScalar_ofChars _

namespace FileSystem

variable {system : FileSystem} {host : Host} {parsers : Parsers} {settings : Settings}
  {choice : KindChoice} {path : Path} {outcome : FileOutcome} {format : ReportFormat}

theorem eq_of_tooLarge {p : Path} {size : Nat} {limit : Int}
    (read : system.textOf host settings path = .error (.tooLarge p size limit)) : p = path := by
  unfold textOf sourceText at read
  split at read
  · cases read
  · split at read
    · cases read
      rfl
    · exact absurd read textOfTree_ne_tooLarge

/-- Of all messages about files that are not read, only that about the size shows the path as it
stands. -/
theorem isScalar_message_of_unread {e : ReadError} (scalar : path.text.IsScalar)
    (read : system.textOf host settings path = .error e) : e.message.IsScalar := by
  have quoted (text : String) (p : Path) : (Text.ofString text ++ p.text.quoted).IsScalar :=
    Text.isScalar_append.mpr ⟨Text.isScalar_ofString text, Text.isScalar_quoted p.text⟩
  cases e with
  | path p fault =>
      cases fault with
      | missing => exact quoted _ p
      | notDirectory => exact quoted _ p
      | tooLong => exact quoted _ p
      | zeroInPath => exact Text.isScalar_ofString _
      | unencodable => exact Text.isScalar_ofString _
  | tooLarge p size limit =>
      obtain rfl := eq_of_tooLarge read
      exact Text.isScalar_append.mpr ⟨scalar, Text.isScalar_ofString _⟩
  | directory p => exact quoted _ p
  | charset => exact Text.isScalar_ofString _
  | decode => exact Text.isScalar_ofString _

/-! ## Selectors -/

/-- A file is read as a module that follows the grammar, and a surrogate is left alone in an
attribute of it that is reached. -/
inductive HasLoneSurrogate (system : FileSystem) (host : Host) (parsers : Parsers)
    (settings : Settings) (choice : KindChoice) (path : Path) : Prop where
  | intro {script : String} {A : SyntaxTree} {kind : SelectorKind}
      (inMode : settings.modeOf? path = some Mode.component.name)
      (read : system.textOf host settings path = .ok (.ofString script))
      (noError : (parsers.script script).label.hasError = false) (asked : choice.Asks kind)
      (reached : A ∈ reachedAttributes (parsers.script script))
      (lone : Component.HasLoneSurrogate script.toUTF8 kind A) :
      HasLoneSurrogate system host parsers settings choice path

/-- The trees of a file give selectors without surrogates unless the file is a module in which one
is left alone. -/
theorem forall_walk_isScalar_iff (reads : host.readers = parsers.readers) {mode : Mode}
    {contents : Text} {roots : List Node} (inMode : settings.modeOf? path = some mode.name)
    (read : system.textOf host settings path = .ok contents)
    (grown : host.readers mode contents = .ok roots) :
    (∀ kind, choice.Asks kind → ∀ selector ∈ mode.order.walk kind roots, selector.IsScalar) ↔
      ¬ HasLoneSurrogate system host parsers settings choice path := by
  rw [reads] at grown
  cases mode with
  | markup =>
      cases grown
      refine iff_of_true (fun kind _ selector => Markup.isScalar_of_mem_walkLevels) ?_
      rintro ⟨inMode', _⟩
      cases Mode.name_injective (Option.some.inj (inMode.symm.trans inMode'))
  | component =>
      obtain ⟨script, rfl, parsed⟩ := Parsers.exists_rootsOf_of_readers grown
      constructor
      · rintro scalar ⟨_, read', _, asked, reached, lone⟩
        have same := Encoding.ofString_injective (Except.ok.inj (read.symm.trans read'))
        subst same
        exact (forall_walkPre_isScalar parsed).mp (scalar _ asked) _ reached lone
      · intro notLone kind asked
        refine (forall_walkPre_isScalar parsed).mpr fun A reached lone => ?_
        exact notLone (.intro inMode read (rootsOf_eq_ok_iff.mp parsed).1 asked reached lone)

theorem not_hasLoneSurrogate_of_failed (reads : host.readers = parsers.readers) {mode : Mode}
    {contents : Text} {e : ParseError} (inMode : settings.modeOf? path = some mode.name)
    (read : system.textOf host settings path = .ok contents)
    (fails : host.readers mode contents = .error (.parse e)) :
    ¬ HasLoneSurrogate system host parsers settings choice path := by
  rintro ⟨inMode', read', noError, _⟩
  cases Mode.name_injective (Option.some.inj (inMode.symm.trans inMode'))
  cases read.symm.trans read'
  rw [reads, Parsers.readers_component_ofString] at fails
  exact rootsOf_ne_parse noError fails

/-- The selectors in the report on a file have no surrogates unless one is left alone in it. -/
theorem Extracts.selectors_isScalar_iff (reads : host.readers = parsers.readers)
    (h : Extracts system host settings choice path outcome) :
    (∀ selector ∈ outcome.report.classNames ++ outcome.report.ids, selector.IsScalar) ↔
      ¬ HasLoneSurrogate system host parsers settings choice path := by
  have none : ∀ selector ∈ ([] : List Text) ++ [], selector.IsScalar := List.forall_mem_nil _
  cases h with
  | unknown noMode =>
      refine iff_of_true none ?_
      rintro ⟨inMode, _⟩
      cases noMode.symm.trans inMode
  | unread inMode read =>
      refine iff_of_true none ?_
      rintro ⟨_, read', _⟩
      cases read.symm.trans read'
  | failed inMode read fails =>
      exact iff_of_true none (not_hasLoneSurrogate_of_failed reads inMode read fails)
  | extracted inMode read grown =>
      exact KindChoice.forall_mem_restrict.trans
        (forall_walk_isScalar_iff reads inMode read grown)

/-! ## Reports -/

theorem Extracts.isScalar_error (scalar : path.text.IsScalar)
    (h : Extracts system host settings choice path outcome) :
    ∀ message ∈ outcome.report.error, message.IsScalar := by
  intro message member
  cases h with
  | unknown =>
      cases member
      exact Text.isScalar_ofString _
  | unread inMode read =>
      cases member
      exact isScalar_message_of_unread scalar read
  | failed =>
      cases member
      exact Text.isScalar_ofString _
  | extracted => cases member

/-- What keeps the report on a file from being printed: a surrogate in its path, where the path is
printed, or one that is left alone in the file. -/
def Unprintable (system : FileSystem) (host : Host) (parsers : Parsers) (settings : Settings)
    (choice : KindChoice) (format : ReportFormat) (path : Path) (outcome : FileOutcome) : Prop :=
  (¬ path.text.IsScalar ∧ (format = .text → outcome.report.lines ≠ [])) ∨
    HasLoneSurrogate system host parsers settings choice path

theorem Extracts.isPrintable_iff (reads : host.readers = parsers.readers)
    (h : Extracts system host settings choice path outcome) :
    outcome.report.IsPrintable format ↔
      ¬ Unprintable system host parsers settings choice format path outcome := by
  have written : outcome.report.IsWritable ↔
      path.text.IsScalar ∧ ¬ HasLoneSurrogate system host parsers settings choice path := by
    rw [← h.selectors_isScalar_iff reads, ← h.path_eq]
    refine ⟨fun writable => ⟨writable.path, writable.selectors⟩, fun ⟨scalar, selectors⟩ => ?_⟩
    exact ⟨scalar, selectors, h.isScalar_error (h.path_eq ▸ scalar)⟩
  rw [Unprintable, not_or]
  cases format with
  | text =>
      rw [Report.isPrintable_text_iff, h.path_eq, h.selectors_isScalar_iff reads]
      refine and_congr_left fun _ => ?_
      rw [not_and', not_not]
      simp
  | json => simpa [Report.IsPrintable] using written
  | jsonLines => simpa [Report.IsPrintable] using written

end FileSystem

end UsedSelectors
