import UsedSelectors.Builtin
import UsedSelectors.Proofs.Files.Complaints
import UsedSelectors.Proofs.Files.Expansion

/-!
# The files of several paths

The files of a list of paths are those that each of them stands for, path by path, but each file is
listed in its first spelling only. So further paths add files without a change to those that are
listed already, and a list of files stands for itself.
-/

namespace UsedSelectors.FileSystem

open Attempts

/-- The files of a list of paths. -/
structure Collected (system : FileSystem) (paths files : List Path) : Prop where
  areFiles : ∀ file ∈ files, (system.fileAt? file).isSome
  distinct : (files.map system.fileAt?).Nodup
  denoted_iff : ∀ names, some names ∈ files.map system.fileAt? ↔
    ∃ path ∈ paths, ∃ file, system.StandsFor path file ∧ system.fileAt? file = some names
  firsts : ∃ found, List.Forall₂ system.Expands paths found ∧
    KeepsFirsts system.fileAt? found.flatten files
  sorted : ∀ before path after, paths = before ++ path :: after →
    ∃ earlier new, system.sourceFiles before = .ok earlier ∧
      system.sourceFiles (before ++ [path]) = .ok (earlier ++ new) ∧ earlier ++ new <+: files ∧
        (∀ file ∈ new, system.StandsFor path file) ∧ new.Pairwise fun a b => a.names < b.names
  append : ∀ others more, system.sourceFiles others = .ok more →
    system.sourceFiles (paths ++ others) =
      .ok (files ++ more.filter (system.fileAt? · ∉ files.map system.fileAt?))
  again : system.sourceFiles files = .ok files
  known : ∀ path ∈ paths, system.IsDirectory path → ∀ file ∈ files,
    system.StandsFor path file → ∀ host settings choice outcome, IsDistinct host.registry →
      system.extractFile host settings choice file = .ok outcome →
        outcome.report.error ≠ some (.ofString "unknown file extension")

variable {system : FileSystem} {path : Path} {paths files : List Path} {listed : List SourceFile}

/-! ## Listing each file once -/

def isNew (listed : List SourceFile) (file : SourceFile) : Bool :=
  decide (file.names ∉ listed.map SourceFile.names)

theorem addNew_cons (listed : List SourceFile) (file : SourceFile) (files : List SourceFile) :
    addNew listed (file :: files) =
      addNew (if isNew listed file then listed ++ [file] else listed) files := by
  have present : (listed.any fun other => other.names == file.names) = !isNew listed file := by
    rw [Bool.eq_iff_iff]
    simp [isNew]
  rw [addNew, present]
  cases isNew listed file <;> rfl

theorem addNew_append (listed files more : List SourceFile) :
    addNew listed (files ++ more) = addNew (addNew listed files) more := by
  induction files generalizing listed with
  | nil => rfl
  | cons file files ih => rw [List.cons_append, addNew_cons, addNew_cons, ih]

theorem isNew_append_filter (listed more : List SourceFile) (file : SourceFile) :
    isNew (listed ++ more.filter (isNew listed)) file = (isNew listed file && isNew more file) := by
  rw [Bool.eq_iff_iff, Bool.and_eq_true]
  simp only [isNew, decide_eq_true_iff, List.map_append, List.mem_append, List.mem_map,
    List.mem_filter, not_or]
  refine and_congr_right fun newToListed => not_congr ⟨?_, ?_⟩
  · rintro ⟨other, ⟨member, _⟩, same⟩
    exact ⟨other, member, same⟩
  · rintro ⟨other, member, same⟩
    exact ⟨other, ⟨member, same ▸ newToListed⟩, same⟩

theorem addNew_append_filter (listed more files : List SourceFile) :
    addNew (listed ++ more.filter (isNew listed)) files =
      listed ++ (addNew more files).filter (isNew listed) := by
  induction files generalizing more with
  | nil => rfl
  | cons file files ih =>
      rw [addNew_cons, addNew_cons, isNew_append_filter]
      cases newToMore : isNew more file with
      | false =>
          rw [Bool.and_false]
          exact ih more
      | true =>
          -- Of a file that is new to the others, the filter decides.
          have longer := ih (more ++ [file])
          rw [List.filter_append, ← List.append_assoc] at longer
          cases newToListed : isNew listed file with
          | false =>
              rw [List.filter_cons_of_neg (by simp [newToListed]), List.filter_nil,
                List.append_nil] at longer
              exact longer
          | true =>
              rw [List.filter_cons_of_pos newToListed, List.filter_nil] at longer
              exact longer

theorem addNew_eq (listed files : List SourceFile) :
    addNew listed files = listed ++ (addNew [] files).filter (isNew listed) := by
  have whole := addNew_append_filter listed [] files
  rwa [List.filter_nil, List.append_nil] at whole

theorem addNew_of_nodup {files : List SourceFile}
    (nodup : ((listed ++ files).map SourceFile.names).Nodup) :
    addNew listed files = listed ++ files := by
  induction files generalizing listed with
  | nil => rw [addNew, List.append_nil]
  | cons file files ih =>
      rw [List.append_cons] at nodup ⊢
      have new : isNew listed file = true := by
        rw [List.map_append, List.map_append, List.append_assoc] at nodup
        have apart := (List.nodup_append'.mp nodup).2.2
        rw [isNew, decide_eq_true_iff]
        intro member
        exact apart member List.mem_cons_self
      rw [addNew_cons, if_pos new, ih nodup]

theorem isNew_iff (located : ∀ file ∈ listed, system.IsLocated file) {file : SourceFile}
    (here : system.IsLocated file) :
    isNew listed file = true ↔
      system.fileAt? file.path ∉ (listed.map SourceFile.path).map system.fileAt? := by
  have same : (listed.map SourceFile.path).map system.fileAt? =
      (listed.map SourceFile.names).map some := by
    rw [List.map_map, List.map_map]
    exact List.map_congr_left located
  rw [isNew, decide_eq_true_iff, same, here]
  simp

theorem isLocated_addNew {files : List SourceFile}
    (located : ∀ file ∈ listed, system.IsLocated file)
    (more : ∀ file ∈ files, system.IsLocated file) :
    ∀ file ∈ addNew listed files, system.IsLocated file := by
  induction files generalizing listed with
  | nil => exact located
  | cons file files ih =>
      obtain ⟨first, more⟩ := List.forall_mem_cons.mp more
      rw [addNew_cons]
      refine ih ?_ more
      split
      · exact List.forall_mem_append.mpr ⟨located, List.forall_mem_singleton.mpr first⟩
      · exact located

/-- Each file is listed where it occurs first. -/
theorem keepsFirsts_addNew {items : List Path} {files : List SourceFile}
    (keeps : KeepsFirsts system.fileAt? items (listed.map SourceFile.path))
    (located : ∀ file ∈ listed, system.IsLocated file)
    (more : ∀ file ∈ files, system.IsLocated file) :
    KeepsFirsts system.fileAt? (items ++ files.map SourceFile.path)
      ((addNew listed files).map SourceFile.path) := by
  induction files generalizing items listed with
  | nil =>
      rw [List.map_nil, List.append_nil]
      exact keeps
  | cons file files ih =>
      obtain ⟨first, more⟩ := List.forall_mem_cons.mp more
      rw [addNew_cons, List.map_cons, List.append_cons]
      split
      · rename_i new
        refine ih ?_ ?_ more
        · rw [List.map_append]
          exact keeps.fresh ((isNew_iff located first).mp new)
        · exact List.forall_mem_append.mpr ⟨located, List.forall_mem_singleton.mpr first⟩
      · rename_i old
        rw [isNew_iff located first, not_not] at old
        exact ih (keeps.again old) located more

theorem addNew_sublist (listed files : List SourceFile) :
    (addNew listed files).Sublist (listed ++ files) := by
  induction files generalizing listed with
  | nil => rw [addNew, List.append_nil]
  | cons file files ih =>
      rw [addNew_cons]
      split
      · have longer := ih (listed ++ [file])
        rwa [List.append_assoc] at longer
      · exact (ih listed).trans ((List.Sublist.refl listed).append (List.sublist_cons_self _ _))

/-! ## The files of several paths -/

theorem sourceFilesFrom_eq (system : FileSystem) (listed : List SourceFile) (paths : List Path) :
    system.sourceFilesFrom listed paths =
      (paths.mapM system.sourceFilesAt).map fun found => addNew listed found.flatten := by
  induction paths generalizing listed with
  | nil => rfl
  | cons path paths ih =>
      rw [sourceFilesFrom, List.mapM_cons]
      cases system.sourceFilesAt path with
      | error missing => rfl
      | ok files =>
          change system.sourceFilesFrom (addNew listed files) paths = _
          rw [ih]
          cases paths.mapM system.sourceFilesAt with
          | error missing => rfl
          | ok found =>
              change Except.ok (addNew (addNew listed files) found.flatten) =
                Except.ok (addNew listed (files ++ found.flatten))
              rw [addNew_append]

theorem sourceFiles_eq_ok_iff : system.sourceFiles paths = .ok files ↔
    ∃ found, List.Forall₂ (fun path files => system.sourceFilesAt path = .ok files) paths found ∧
      (addNew [] found.flatten).map SourceFile.path = files := by
  rw [sourceFiles, sourceFilesFrom_eq, map_eq_ok_iff]
  simp only [map_eq_ok_iff, mapM_eq_ok_iff]
  constructor
  · rintro ⟨_, ⟨found, each, rfl⟩, same⟩
    exact ⟨found, each, same⟩
  · rintro ⟨found, each, same⟩
    exact ⟨_, ⟨found, each, rfl⟩, same⟩

variable {each : List (List SourceFile)}

theorem isLocated_of_forall₂ (sound : system.root.IsSound system.limits.longestName)
    (listed : List.Forall₂ (fun path files => system.sourceFilesAt path = .ok files) paths each) :
    ∀ file ∈ each.flatten, system.IsLocated file := by
  intro file member
  obtain ⟨found, isFound, member⟩ := List.mem_flatten.mp member
  obtain ⟨path, _, here⟩ := exists_mem_of_forall₂ listed isFound
  exact (sourceFilesAt_spec sound here).2 file member

theorem keepsFirsts_of_forall₂ (sound : system.root.IsSound system.limits.longestName)
    (listed : List.Forall₂ (fun path files => system.sourceFilesAt path = .ok files) paths each) :
    ∃ found, List.Forall₂ system.Expands paths found ∧
      KeepsFirsts system.fileAt? found.flatten
        ((addNew [] each.flatten).map SourceFile.path) := by
  refine ⟨each.map (List.map SourceFile.path), ?_, ?_⟩
  · rw [List.forall₂_map_right_iff]
    exact listed.imp fun _ _ here => (sourceFilesAt_spec sound here).1
  · rw [← List.map_flatten]
    exact keepsFirsts_addNew .nil (List.forall_mem_nil _) (isLocated_of_forall₂ sound listed)

theorem sourceFiles_append (sound : system.root.IsSound system.limits.longestName)
    {others more : List Path}
    (first : system.sourceFiles paths = .ok files) (second : system.sourceFiles others = .ok more) :
    system.sourceFiles (paths ++ others) =
      .ok (files ++ more.filter (system.fileAt? · ∉ files.map system.fileAt?)) := by
  obtain ⟨found, each, rfl⟩ := sourceFiles_eq_ok_iff.mp first
  obtain ⟨foundMore, eachMore, rfl⟩ := sourceFiles_eq_ok_iff.mp second
  refine sourceFiles_eq_ok_iff.mpr ⟨found ++ foundMore, List.rel_append each eachMore, ?_⟩
  have located := isLocated_addNew (List.forall_mem_nil _) (isLocated_of_forall₂ sound each)
  have locatedMore := isLocated_addNew (List.forall_mem_nil _) (isLocated_of_forall₂ sound eachMore)
  rw [List.flatten_append, addNew_append, addNew_eq, List.map_append, List.filter_map]
  congr 2
  refine List.filter_congr fun file member => ?_
  rw [Bool.eq_iff_iff, isNew_iff located (locatedMore file member)]
  exact decide_eq_true_iff.symm

theorem sorted_of_sourceFiles_singleton (sound : system.root.IsSound system.limits.longestName)
    (listed : system.sourceFiles [path] = .ok files) :
    (∀ file ∈ files, system.StandsFor path file) ∧ files.Pairwise fun a b => a.names < b.names := by
  obtain ⟨_, _ | ⟨here, _ | _⟩, rfl⟩ := sourceFiles_eq_ok_iff.mp listed
  rename_i found
  have expands := (sourceFilesAt_spec sound here).1
  have sub : ((addNew [] found).map SourceFile.path).Sublist (found.map SourceFile.path) :=
    (addNew_sublist [] found).map _
  rw [List.flatten_singleton]
  exact ⟨fun file member => (expands.mem_iff file).mp (sub.subset member),
    expands.sorted.sublist sub⟩

theorem sourceFiles_self (areFiles : ∀ file ∈ files, (system.fileAt? file).isSome)
    (distinct : (files.map system.fileAt?).Nodup) : system.sourceFiles files = .ok files := by
  let entry (file : Path) : SourceFile := ⟨file, (system.fileAt? file).getD []⟩
  have denoted : ∀ file ∈ files, system.fileAt? file = some (entry file).names := by
    intro file member
    obtain ⟨names, denoted⟩ := Option.isSome_iff_exists.mp (areFiles file member)
    rw [denoted]
    simp [entry, denoted]
  have nodup : ((files.map entry).map SourceFile.names).Nodup := by
    have same : files.map system.fileAt? = ((files.map entry).map SourceFile.names).map some := by
      rw [List.map_map, List.map_map]
      exact List.map_congr_left denoted
    rw [same] at distinct
    exact distinct.of_map
  refine sourceFiles_eq_ok_iff.mpr ⟨files.map fun file => [entry file], ?_, ?_⟩
  · rw [List.forall₂_map_right_iff, List.forall₂_same]
    exact fun file member => sourceFilesAt_of_fileAt? (denoted file member)
  · rw [← List.flatMap_def, ← List.map_eq_flatMap, addNew_of_nodup nodup, List.nil_append,
      List.map_map]
    exact List.map_id _

/-! ## Everything together -/

theorem error_ne_of_found {file : Path} {host : Host} {settings : Settings} {choice : KindChoice}
    {outcome : FileOutcome} (directory : system.IsDirectory path)
    (stands : system.StandsFor path file) (distinct : IsDistinct host.registry)
    (reported : system.extractFile host settings choice file = .ok outcome) :
    outcome.report.error ≠ some (.ofString "unknown file extension") := by
  have inMode : ∃ name, settings.modeOf? file = some name := by
    rw [Settings.modeOf?]
    cases stands with
    | itself isFile => exact absurd directory (not_isDirectory_of_isSome isFile)
    | below _ _ _ known =>
        obtain ⟨mode, ofPath⟩ := Option.isSome_iff_exists.mp known
        rw [ofPath]
        split
        · exact ⟨_, rfl⟩
        · exact ⟨_, rfl⟩
  obtain ⟨name, inMode⟩ := inMode
  exact (extracts_of_extractFile reported).error_ne_unknownExtension distinct inMode

theorem mem_flatten_iff {found : List (List Path)}
    (expands : List.Forall₂ system.Expands paths found) (file : Path) :
    file ∈ found.flatten ↔ ∃ path ∈ paths, system.StandsFor path file := by
  induction expands with
  | nil => simp
  | cons here _ ih =>
      rw [List.flatten_cons, List.mem_append, here.mem_iff, ih]
      simp

theorem exists_sorted (sound : system.root.IsSound system.limits.longestName)
    {before after : List Path}
    (listed : system.sourceFiles (before ++ path :: after) = .ok files) :
    ∃ earlier new, system.sourceFiles before = .ok earlier ∧
      system.sourceFiles (before ++ [path]) = .ok (earlier ++ new) ∧ earlier ++ new <+: files ∧
        (∀ file ∈ new, system.StandsFor path file) ∧
          new.Pairwise fun a b => a.names < b.names := by
  have present := (exists_sourceFiles_iff system _).mp ⟨files, listed⟩
  rw [List.forall_mem_append, List.forall_mem_cons] at present
  obtain ⟨presentBefore, presentHere, presentAfter⟩ := present
  obtain ⟨earlier, ofBefore⟩ := (exists_sourceFiles_iff system _).mpr presentBefore
  obtain ⟨single, ofPath⟩ :=
    (exists_sourceFiles_iff system _).mpr (List.forall_mem_singleton.mpr presentHere)
  obtain ⟨later, ofAfter⟩ := (exists_sourceFiles_iff system _).mpr presentAfter
  have upToHere := sourceFiles_append sound ofBefore ofPath
  have whole := sourceFiles_append sound upToHere ofAfter
  rw [List.append_assoc, List.singleton_append, listed] at whole
  obtain ⟨stands, sorted⟩ := sorted_of_sourceFiles_singleton sound ofPath
  refine ⟨earlier, _, ofBefore, upToHere, ⟨_, (Except.ok.inj whole).symm⟩, ?_, sorted.filter _⟩
  exact fun file member => stands file (List.mem_of_mem_filter member)

theorem collected (sound : system.root.IsSound system.limits.longestName)
    (listed : system.sourceFiles paths = .ok files) :
    system.Collected paths files := by
  obtain ⟨each, here, same⟩ := sourceFiles_eq_ok_iff.mp listed
  obtain ⟨found, expands, keeps⟩ := keepsFirsts_of_forall₂ sound here
  have located := isLocated_addNew (List.forall_mem_nil _) (isLocated_of_forall₂ sound here)
  have areFiles : ∀ file ∈ files, (system.fileAt? file).isSome := by
    rw [← same, List.forall_mem_map]
    exact fun file member => Option.isSome_of_eq_some (located file member)
  rw [same] at keeps
  refine {
    areFiles := areFiles
    distinct := keeps.nodup
    denoted_iff := fun names => ?_
    firsts := ⟨found, expands, keeps⟩
    sorted := fun before path after same => exists_sorted sound (same ▸ listed)
    append := fun others more second => sourceFiles_append sound listed second
    again := sourceFiles_self areFiles keeps.nodup
    known := fun path _ directory file _ stands host settings choice outcome distinct reported =>
      error_ne_of_found directory stands distinct reported }
  rw [← keeps.mem_map_iff, List.mem_map]
  simp only [mem_flatten_iff expands]
  constructor
  · rintro ⟨file, ⟨path, member, stands⟩, denoted⟩
    exact ⟨path, member, file, stands, denoted⟩
  · rintro ⟨path, member, file, stands, denoted⟩
    exact ⟨file, ⟨path, member, stands⟩, denoted⟩

/--
Listing the files of paths fails exactly if a path fails, and tells what is wrong with the first
path that does: that it leads nowhere, that it is too long, or that the search through it does not
get to the end. Otherwise the files are collected: each file is listed that is given or lies below a
given directory and has a known extension, in its first spelling and place, those of one directory
in order. Listing is idempotent, and further paths add what is new.
-/
theorem sourceFiles_spec (system : FileSystem)
    (sound : system.root.IsSound system.limits.longestName) (paths : List Path) :
    ((∃ e, system.sourceFiles paths = .error e) ↔
        ∃ path ∈ paths, ∃ fault, system.Fails path fault) ∧
      (∀ e, system.sourceFiles paths = .error e →
        ∃ path, First (fun p => ∃ fault, system.Fails p fault) paths path ∧
          system.Fails path e) ∧
      (∀ path, system.sourceFiles paths = .error (.missing path) ↔
        First (fun p => ∃ fault, system.Fails p fault) paths path ∧ system.IsMissing path) ∧
      ((∀ path ∈ paths, ∀ fault, ¬ system.Fails path fault) →
        ∃ files, system.sourceFiles paths = .ok files ∧ system.Collected paths files) := by
  have failing : system.IsFailing = fun p => ∃ fault, system.Fails p fault :=
    funext fun p => propext (exists_fails_iff sound).symm
  refine ⟨?_, ?_, fun path => ?_, fun good => ?_⟩
  · simp only [exists_fails_iff sound]
    rcases sourceFiles_cases system paths with ⟨path, fault, first, _, fails⟩ | ⟨good, _, listed⟩
    · obtain ⟨before, after, rfl, _, here⟩ := first
      exact iff_of_true ⟨fault, fails⟩ ⟨path, List.mem_append_right _ List.mem_cons_self, here⟩
    · refine iff_of_false ?_ ?_
      · rintro ⟨e, fails⟩
        cases listed.symm.trans fails
      · rintro ⟨path, member, here⟩
        exact good path member here
  · intro e fails
    rcases sourceFiles_cases system paths with
      ⟨path, fault, first, isFault, fails'⟩ | ⟨_, _, listed⟩
    · cases fails.symm.trans fails'
      exact ⟨path, failing ▸ first, fails_of_sourceFilesAt sound isFault⟩
    · cases fails.symm.trans listed
  · rw [← failing]
    exact sourceFiles_eq_missing_iff
  · have good : ∀ path ∈ paths, ¬ system.IsFailing path := by
      rw [failing]
      exact fun path member => not_exists.mpr (good path member)
    obtain ⟨files, listed⟩ := (exists_sourceFiles_iff system paths).mpr good
    exact ⟨files, listed, collected sound listed⟩

/-- A directory `site` with files of several extensions, and a file beside it. -/
def siteSystem : FileSystem :=
  ⟨.directory 4096
    [(.ofString "site", .directory 4096
      [(.ofString "b.html", .file []),
        (.ofString "sub", .directory 4096
          [(.ofString "x.txt", .file []), (.ofString "c.HTM", .file [])]),
        (.ofString "a.js", .file [])]),
      (.ofString "notes.txt", .file [])], [], .builtin⟩

/-- The directory and one of its files in another spelling in front of it, a file of no known
extension, and the directory below it. -/
def sitePaths : List Path :=
  ["site/sub/../b.html", "site", "notes.txt", "site/sub"].map Path.ofString

theorem isSound_siteSystem : siteSystem.root.IsSound siteSystem.limits.longestName := by
  refine .cons (by decide) (.ofString (by decide)) ?_
    (.cons (by decide) (.ofString (by decide)) (.file []) (.empty 4096))
  refine .cons (by decide) (.ofString (by decide)) (.file [])
    (.cons (by decide) (.ofString (by decide)) ?_
      (.cons (by decide) (.ofString (by decide)) (.file []) (.empty 4096)))
  exact .cons (by decide) (.ofString (by decide)) (.file [])
    (.cons (by decide) (.ofString (by decide)) (.file []) (.empty 4096))

/-- Each file of the directory is listed once. -/
theorem sourceFiles_spec_siteSystem :
    siteSystem.root.IsSound siteSystem.limits.longestName ∧
      (∀ path ∈ sitePaths, ∀ fault, ¬ siteSystem.Fails path fault) ∧
        ∃ files, siteSystem.sourceFiles sitePaths = .ok files ∧
          siteSystem.Collected sitePaths files := by
  have found : (siteSystem.sourceFiles sitePaths).isOk = true := by decide +kernel
  have good : ∀ path ∈ sitePaths, ∀ fault, ¬ siteSystem.Fails path fault := by
    cases listed : siteSystem.sourceFiles sitePaths with
    | error e =>
        rw [listed] at found
        cases found
    | ok files =>
        intro path member fault fails
        have failing := (exists_fails_iff isSound_siteSystem).mp ⟨fault, fails⟩
        exact (exists_sourceFiles_iff siteSystem sitePaths).mp ⟨files, listed⟩ path member failing
  exact ⟨isSound_siteSystem, good,
    (sourceFiles_spec siteSystem isSound_siteSystem sitePaths).2.2.2 good⟩

/-! ## A name that is too long -/

def emptySystem : FileSystem := ⟨.directory 4096 [], [], .builtin⟩

def longPath : Path := .ofText (List.replicate 256 (.ofChar 'a'))

/-- The path leads nowhere, but this is not what is told. -/
theorem sourceFiles_longPath :
    emptySystem.root.IsSound emptySystem.limits.longestName ∧
      emptySystem.LeadsNowhere longPath ∧
        emptySystem.sourceFiles [longPath] = .error (.search (.tooLong longPath)) :=
  ⟨.empty 4096, by decide +kernel, by decide +kernel⟩

end UsedSelectors.FileSystem
