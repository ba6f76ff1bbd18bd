import UsedSelectors.Proofs.Encoding.Writable
import UsedSelectors.Proofs.Files.FileReport

/-!
# Complaints about files

A file that is left out or fails has an error in its report and one record of a warning or an error
that names its path; any other file has neither. What comes of a file depends on nothing but what
its path leads to, and where all files are read in one mode even the path is of no consequence,
except in the message about a file that is too large.
-/

namespace UsedSelectors

def Log.Record.isComplaint (record : Log.Record) : Bool :=
  record.severity = .warning || record.severity = .error

/-- Reports that differ in the path, and in an error that names it. -/
structure Report.DiffersByPath (a b : Report) : Prop where
  mode : a.mode = b.mode
  classNames : a.classNames = b.classNames
  ids : a.ids = b.ids
  error : a.error = b.error ∨ ∃ (size : Nat) (limit : Int),
    a.error = some (a.path ++ Text.ofString s!" is {size} bytes (limit {limit})") ∧
      b.error = some (b.path ++ Text.ofString s!" is {size} bytes (limit {limit})")

namespace FileSystem

/-- The error of a file and what is logged about it. -/
inductive Complaint (system : FileSystem) (host : Host) (settings : Settings) (path : Path) :
    Text → Log.Record → Prop where
  | extension (noMode : settings.modeOf? path = none) :
      Complaint system host settings path (.ofString "unknown file extension")
        ⟨.warning, FileOutcome.runLogger, .ofString "Skipping " ++ path.text ++ .ofString ": " ++
          .ofString "unknown extension, pass --mode"⟩
  | unread {name : String} {e : ReadError} (inMode : settings.modeOf? path = some name)
      (read : system.textOf host settings path = .error e) :
      Complaint system host settings path e.message ⟨.warning, FileOutcome.runLogger,
        .ofString "Skipping " ++ path.text ++ .ofString ": " ++ e.message⟩
  | grammar {mode : Mode} {contents : Text} {e : ParseError}
      (inMode : settings.modeOf? path = some mode.name)
      (read : system.textOf host settings path = .ok contents)
      (fails : host.readers mode contents = .error (.parse e)) :
      Complaint system host settings path (.ofString e.message) ⟨.error, FileOutcome.runLogger,
        .ofString "Extraction failed for " ++ path.text ++ .ofString (": " ++ e.message)⟩

variable {system other : FileSystem} {host : Host} {settings : Settings} {choice : KindChoice}
  {path p q : Path} {outcome : FileOutcome} {bytes : List UInt8}

/-! ## What is logged about a file -/

theorem Extracts.exists_complaint (h : Extracts system host settings choice path outcome) :
    (outcome.report.error = none ∧ outcome.records.filter Log.Record.isComplaint = []) ∨
      ∃ error record, outcome.report.error = some error ∧ outcome.report.classNames = [] ∧
        outcome.report.ids = [] ∧ outcome.records.filter Log.Record.isComplaint = [record] ∧
          Complaint system host settings path error record := by
  cases h with
  | unknown noMode => exact .inr ⟨_, _, rfl, rfl, rfl, rfl, .extension noMode⟩
  | unread inMode read => exact .inr ⟨_, _, rfl, rfl, rfl, rfl, .unread inMode read⟩
  | failed inMode read fails => exact .inr ⟨_, _, rfl, rfl, rfl, rfl, .grammar inMode read fails⟩
  | extracted _ _ _ quiet =>
      refine .inl ⟨rfl, List.filter_eq_nil_iff.mpr fun record member => ?_⟩
      rw [Log.Record.isComplaint, quiet record member]
      exact Bool.false_ne_true

/-! ## Unknown extensions -/

theorem ne_of_mem {t : Text} {words : String} (c : Char) (inside : .ofChar c ∈ t)
    (outside : c ∉ words.toList) : t ≠ .ofString words := by
  rintro rfl
  exact outside (Text.ofChar_mem_ofString_iff.mp inside)

theorem ofString_ne_of_mem {text words : String} (c : Char) (inside : c ∈ text.toList)
    (outside : c ∉ words.toList) : Text.ofString text ≠ .ofString words :=
  ne_of_mem c (Text.ofChar_mem_ofString_iff.mpr inside) outside

/-- The error of a file that is left out is not that of an unknown extension, if no encoding of the
registry says so of the bytes of the file. -/
theorem message_ne_of_unread {e : ReadError} (skipped : e.isSkipped = true)
    (distinct : ∀ fault, e = .decode (.registered fault) →
      fault.message ≠ "unknown file extension") :
    e.message ≠ .ofString "unknown file extension" := by
  have quoted (text : String) (p : Path) (bracket : '[' ∈ text.toList) :
      .ofString text ++ p.text.quoted ≠ .ofString "unknown file extension" :=
    ne_of_mem '[' (List.mem_append_left _ (Text.ofChar_mem_ofString_iff.mpr bracket)) (by simp)
  cases e with
  | path p fault =>
      cases fault with
      | missing => exact quoted _ p (by simp)
      | notDirectory => exact quoted _ p (by simp)
      | tooLong => exact quoted _ p (by simp)
      | zeroInPath => cases skipped
      | unencodable => cases skipped
  | tooLarge p size limit =>
      have bracket : .ofChar '(' ∈ Text.ofString s!" is {size} bytes (limit {limit})" :=
        Text.ofChar_mem_ofString_iff.mpr (by simp [toString])
      exact ne_of_mem '(' (List.mem_append_right _ bracket) (by simp)
  | directory p => exact quoted _ p (by simp)
  | charset error =>
      cases error with
      | unknown name =>
          change Text.ofString s!"unknown encoding: {name}" ≠ _
          exact ofString_ne_of_mem 'c' (by simp [toString]) (by simp)
      | notText name =>
          change Text.ofString
            s!"'{name}' is not a text encoding; use codecs.open() to handle arbitrary codecs" ≠ _
          exact ofString_ne_of_mem 'c' (by simp [toString]) (by simp)
      | zeroInName => cases skipped
  | decode error =>
      cases error with
      | undecodable error =>
          change Text.ofString
            s!"'{error.codec}' codec can't decode {_}: {error.reason.message}" ≠ _
          exact ofString_ne_of_mem 'c' (by simp [toString]) (by simp)
      | noByteOrder => cases skipped
      | registered fault => exact fun same => distinct fault rfl (Encoding.ofString_injective same)

theorem message_ne_of_grammar (e : ParseError) :
    Text.ofString e.message ≠ .ofString "unknown file extension" :=
  ofString_ne_of_mem 'p' (by simp [ParseError.message]) (by simp)

/-- No encoding of a registry says of bytes what is said of an unknown extension. -/
def IsDistinct (registry : Encoding.Registry) : Prop :=
  ∀ name decode bytes fault, registry name = some decode → decode bytes = .error fault →
    fault.message ≠ "unknown file extension"

theorem exists_of_registered {fault : Encoding.CodecFault}
    (read : system.textOf host settings path = .error (.decode (.registered fault))) :
    ∃ name decode bytes, host.registry name = some decode ∧ decode bytes = .error fault := by
  unfold textOf sourceText at read
  split at read
  · cases read
  · split at read
    · cases read
    · rcases textOfTree_error_cases read with same | ⟨_, same⟩ | ⟨_, _, _, fails, same⟩ |
        ⟨name, decode, bytes, _, isRegistered, fails, same⟩
      · cases same
      · cases same
      · cases same
        exact absurd fails Encoding.Charset.decode_ne_registered
      · cases same
        exact ⟨name, decode, bytes, isRegistered, fails⟩

theorem Extracts.error_ne_unknownExtension (distinct : IsDistinct host.registry) {name : String}
    (inMode : settings.modeOf? path = some name)
    (h : Extracts system host settings choice path outcome) :
    outcome.report.error ≠ some (.ofString "unknown file extension") := by
  intro same
  cases h with
  | unknown noMode => cases inMode.symm.trans noMode
  | unread _ read skipped =>
      refine message_ne_of_unread skipped ?_ (Option.some.inj same)
      rintro fault rfl
      obtain ⟨name, decode, bytes, isRegistered, fails⟩ := exists_of_registered read
      exact distinct name decode bytes fault isRegistered fails
  | failed => exact message_ne_of_grammar _ (Option.some.inj same)
  | extracted => cases same

/-! ## What a report depends on -/

theorem textOf_congr
    (same : (system.find path).map Place.tree = (other.find path).map Place.tree) :
    system.textOf host settings path = other.textOf host settings path := by
  rw [textOf, textOf, sourceText, sourceText]
  cases here : system.find path with
  | error fault =>
      cases there : other.find path with
      | error fault' =>
          rw [here, there] at same
          cases same
          rfl
      | ok place =>
          rw [here, there] at same
          cases same
  | ok place =>
      cases there : other.find path with
      | error fault' =>
          rw [here, there] at same
          cases same
      | ok place' =>
          rw [here, there] at same
          have sameTree : place.tree = place'.tree := Except.ok.inj same
          dsimp only
          rw [sameTree]

theorem extractFile_congr
    (same : (system.find path).map Place.tree = (other.find path).map Place.tree) :
    system.extractFile host settings choice path = other.extractFile host settings choice path := by
  have sameText : system.textOf host settings path = other.textOf host settings path :=
    textOf_congr same
  unfold textOf at sameText
  rw [extractFile, extractFile, sameText]

theorem textOfTree_file (p q : Path) (registry : Encoding.Registry) (encoding : String)
    (bytes : List UInt8) : textOfTree registry p encoding (.file bytes) =
      textOfTree registry q encoding (.file bytes) := by
  unfold textOfTree
  cases Encoding.Charset.ofName encoding with
  | error e => cases e <;> rfl
  | ok charset => rfl

theorem differsByPath_of_sameText (sameMode : settings.modeOf? p = settings.modeOf? q)
    (sameText : system.textOf host settings p = system.textOf host settings q)
    (h : system.extractFile host settings choice p = .ok outcome) :
    ∃ second, system.extractFile host settings choice q = .ok second ∧
      outcome.report.DiffersByPath second.report := by
  cases inMode : settings.modeOf? p with
  | none =>
      rw [extractFile_of_noMode inMode] at h
      cases h
      exact ⟨_, extractFile_of_noMode (sameMode ▸ inMode), rfl, rfl, rfl, .inl rfl⟩
  | some name =>
      have inMode' := sameMode.symm.trans inMode
      cases read : system.textOf host settings p with
      | error e =>
          rw [extractFile_of_unread inMode read] at h
          rw [extractFile_of_unread inMode' (sameText.symm.trans read)]
          split at h
          · rename_i skipped
            cases h
            exact ⟨_, if_pos skipped, rfl, rfl, rfl, .inl rfl⟩
          · cases h
      | ok contents =>
          obtain ⟨mode, rfl⟩ := exists_mode_of_extractFile inMode read h
          rw [extractFile_of_read inMode read, FileOutcome.ofContents] at h
          rw [extractFile_of_read inMode' (sameText.symm.trans read), FileOutcome.ofContents]
          split at h
          · cases h
            exact ⟨_, rfl, rfl, rfl, rfl, .inl rfl⟩
          · cases h
            exact ⟨_, rfl, rfl, rfl, rfl, .inl rfl⟩
          · cases h

/-- Where one mode is chosen for all files, files of the same bytes differ by their paths only. -/
theorem differsByPath_of_sameBytes {name : String} (chosen : settings.mode.value = .named name)
    (first : system.HasBytes p bytes) (second : system.HasBytes q bytes)
    (h : system.extractFile host settings choice p = .ok outcome) :
    ∃ second, system.extractFile host settings choice q = .ok second ∧
      outcome.report.DiffersByPath second.report := by
  have inMode (path : Path) : settings.modeOf? path = some name := by
    rw [Settings.modeOf?, chosen]
  have readFirst : system.textOf host settings p = _ := sourceText_of_hasBytes first _ _ _
  have readSecond : system.textOf host settings q = _ := sourceText_of_hasBytes second _ _ _
  -- The size is tested before anything else, and no other message names the path.
  by_cases large : settings.maxFileBytes.value < bytes.length
  · rw [if_pos large] at readFirst readSecond
    rw [extractFile_of_unread (inMode p) readFirst] at h
    cases h
    refine ⟨_, extractFile_of_unread (inMode q) readSecond, rfl, rfl, rfl, ?_⟩
    exact .inr ⟨bytes.length, settings.maxFileBytes.value, rfl, rfl⟩
  · rw [if_neg large] at readFirst readSecond
    refine differsByPath_of_sameText ((inMode p).trans (inMode q).symm) ?_ h
    rw [readFirst, readSecond]
    exact textOfTree_file p q _ _ bytes

end FileSystem

end UsedSelectors
