import UsedSelectors.Files.SourceFiles
import UsedSelectors.Proofs.Files.Descent

/-!
# Paths that give no files

Files are listed path by path, so the first path that fails is the one that is told of, and there is
a list of files exactly when no path fails. A path fails if it leads nowhere, and also if a search
through what it leads to does not get to the end.
-/

namespace UsedSelectors

open Attempts

namespace FileTree

/-- Names lead down from a tree to another. -/
inductive Holds : FileTree → List Text → FileTree → Prop where
  | here (tree : FileTree) : Holds tree [] tree
  | inside {size : Nat} {entries : List (Text × FileTree)} {name : Text} {tree inner : FileTree}
      {names : List Text} (member : (name, tree) ∈ entries) (holds : Holds tree names inner) :
      Holds (.directory size entries) (name :: names) inner

/-- What a search below a path comes up against in a tree. -/
inductive Obstructs (limits : FileLimits) (path : Path) (depth : Nat) (tree : FileTree) :
    SearchFault → Prop where
  | deep {names : List Text} {size : Nat} {entries : List (Text × FileTree)}
      (holds : tree.Holds names (.directory size entries)) (deep : depth ≤ names.length) :
      Obstructs limits path depth tree .tooDeep
  | long {names : List Text} {inner : FileTree} (holds : tree.Holds names inner)
      (long : limits.longestPath < (path.append names).text.byteCount) :
      Obstructs limits path depth tree (.tooLong (path.append names))

variable {limits : FileLimits} {path : Path} {depth size : Nat} {tree inner : FileTree}
  {entries : List (Text × FileTree)} {name : Text} {names : List Text} {fault : SearchFault}

/-! ## Searches -/

theorem mem_files_iff_holds : names ∈ tree.files ↔ ∃ bytes, tree.Holds names (.file bytes) := by
  constructor
  · intro listed
    induction names generalizing tree with
    | nil =>
        cases tree with
        | file bytes => exact ⟨bytes, .here _⟩
        | directory size entries =>
            obtain ⟨_, _, _, _, _, impossible⟩ := mem_files_directory_iff.mp listed
            cases impossible
    | cons name names ih =>
        cases tree with
        | file bytes =>
            rw [files, List.mem_singleton] at listed
            cases listed
        | directory size entries =>
            obtain ⟨_, tree, member, _, inside, same⟩ := mem_files_directory_iff.mp listed
            cases same
            obtain ⟨bytes, holds⟩ := ih inside
            exact ⟨bytes, .inside member holds⟩
  · rintro ⟨bytes, holds⟩
    generalize isFile : file bytes = inner at holds
    induction holds with
    | here tree =>
        cases isFile
        exact List.mem_singleton_self _
    | inside member _ ih =>
        exact mem_files_directory_iff.mpr ⟨_, _, member, _, ih isFile, rfl⟩

theorem Obstructs.of_entry (member : (name, tree) ∈ entries)
    (h : tree.Obstructs limits (path.append [name]) depth fault) :
    (directory size entries).Obstructs limits path (depth + 1) fault := by
  cases h with
  | deep holds deep => exact .deep (.inside member holds) (Nat.succ_le_succ deep)
  | long holds long =>
      rw [Path.append_append] at long ⊢
      exact .long (.inside member holds) long

theorem searchFaultIn?_eq (limits : FileLimits) (path : Path) (depth : Nat)
    (entries : List (Text × FileTree)) :
    searchFaultIn? limits path depth entries =
      entries.findSome? fun entry => entry.2.searchFault? limits (path.append [entry.1]) depth := by
  induction entries with
  | nil => rfl
  | cons entry entries ih =>
      rw [searchFaultIn?, searchFaultBelow?, List.findSome?_cons, ih]
      cases entry.2.searchFault? limits (path.append [entry.1]) depth <;> rfl

theorem searchFault?_directory (limits : FileLimits) (path : Path) (depth size : Nat)
    (entries : List (Text × FileTree)) :
    (directory size entries).searchFault? limits path (depth + 1) =
      (limits.entryFault? path entries).or (entries.findSome? fun entry =>
        entry.2.searchFault? limits (path.append [entry.1]) depth) := by
  rw [searchFault?, searchFaultIn?_eq]

theorem exists_of_entryFault? (named : ∀ entry ∈ entries, entry.1.IsEntryName limits.longestName)
    (h : limits.entryFault? path entries = some fault) :
    ∃ entry ∈ entries, fault = .tooLong (path.append [entry.1]) ∧
      limits.longestPath < (path.append [entry.1]).text.byteCount := by
  obtain ⟨name, listed, found⟩ := List.exists_of_findSome?_eq_some h
  obtain ⟨entry, member, rfl⟩ := List.mem_map.mp listed
  split at found
  · rename_i long
    cases found
    refine ⟨entry, member, rfl, long.resolve_left ?_⟩
    exact Nat.not_lt_of_le (named entry member).short
  · cases found

theorem IsSound.obstructs_of_searchFault? (sound : tree.IsSound limits.longestName)
    (h : tree.searchFault? limits path depth = some fault) :
    tree.Obstructs limits path depth fault := by
  induction sound generalizing path depth with
  | file bytes => cases h
  | directory distinct named below ih =>
      cases depth with
      | zero =>
          cases h
          exact .deep (.here _) (Nat.zero_le _)
      | succ depth =>
          rw [searchFault?_directory, Option.or_eq_some_iff] at h
          rcases h with atEntry | ⟨_, inEntry⟩
          · obtain ⟨⟨name, tree⟩, member, rfl, long⟩ := exists_of_entryFault? named atEntry
            exact .long (.inside member (.here _)) long
          · obtain ⟨⟨name, tree⟩, member, found⟩ := List.exists_of_findSome?_eq_some inEntry
            exact (ih _ member found).of_entry member

theorem searched_of_holds (h : tree.searchFault? limits path depth = none)
    (holds : tree.Holds names inner) :
    (inner.isDirectory = true → names.length < depth) ∧
      (names ≠ [] → (path.append names).text.byteCount ≤ limits.longestPath) := by
  induction holds generalizing path depth with
  | here tree =>
      refine ⟨fun isDirectory => ?_, fun some => absurd rfl some⟩
      cases tree with
      | file bytes => cases isDirectory
      | directory size entries =>
          cases depth with
          | zero => cases h
          | succ depth => exact Nat.succ_pos depth
  | @inside size entries name tree inner names member holds ih =>
      cases depth with
      | zero => cases h
      | succ depth =>
          rw [searchFault?_directory, Option.or_eq_none_iff, List.findSome?_eq_none_iff] at h
          obtain ⟨atEntries, inEntries⟩ := h
          obtain ⟨shallow, short⟩ := ih (inEntries _ member)
          refine ⟨fun isDirectory => Nat.succ_lt_succ (shallow isDirectory), fun _ => ?_⟩
          by_cases last : names = []
          · subst last
            have asked := List.findSome?_eq_none_iff.mp atEntries name
              (List.mem_map.mpr ⟨_, member, rfl⟩)
            by_contra long
            rw [if_pos (.inr (Nat.lt_of_not_le long))] at asked
            cases asked
          · have here := short last
            rw [Path.append_append] at here
            exact here

end FileTree

namespace FileSystem

/-! ## Paths that fail -/

def LeadsNowhere (system : FileSystem) (path : Path) : Prop :=
  ∃ fault, system.find path = .error fault

instance (system : FileSystem) (path : Path) : Decidable (system.LeadsNowhere path) :=
  decidable_of_iff ((system.find path).toOption = none) (by
    unfold LeadsNowhere
    cases system.find path <;> simp [Except.toOption])

/-- A path leads nowhere, and not because it is too long. -/
def IsMissing (system : FileSystem) (path : Path) : Prop :=
  ∃ fault, system.find path = .error fault ∧ fault ≠ .tooLong

/-- A path gives no files. -/
inductive Fails (system : FileSystem) (path : Path) : CollectFault → Prop where
  | missing (missing : system.IsMissing path) : Fails system path (.missing path)
  | tooLong (leads : system.find path = .error .tooLong) :
      Fails system path (.search (.tooLong path))
  | search {place : Place} {fault : SearchFault} (leads : system.find path = .ok place)
      (obstructs : place.tree.Obstructs system.limits path system.limits.searchDepth fault) :
      Fails system path (.search fault)

/-- A path has a property, and those before it do not. -/
def First (p : Path → Prop) (paths : List Path) (path : Path) : Prop :=
  ∃ before after, paths = before ++ path :: after ∧ (∀ q ∈ before, ¬ p q) ∧ p path

theorem First.unique {p : Path → Prop} {paths : List Path} {path other : Path}
    (one : First p paths path) (two : First p paths other) : path = other := by
  classical
  have find {path : Path} (isFirst : First p paths path) :
      paths.find? (decide <| p ·) = some path := by
    obtain ⟨before, after, same, earlier, here⟩ := isFirst
    rw [List.find?_eq_some_iff_append]
    refine ⟨decide_eq_true here, before, after, same, fun q member => ?_⟩
    simpa using earlier q member
  exact Option.some.inj ((find one).symm.trans (find two))

variable {system : FileSystem} {path : Path} {place : Place} {paths : List Path}
  {listed : List SourceFile} {fault : CollectFault}

/-- The search through a place gets to the end exactly when nothing is in its way. -/
theorem exists_obstructs_iff (found : system.find path = .ok place)
    (sound : place.IsSound system.limits.longestName) :
    (∃ fault, place.tree.searchFault? system.limits path system.limits.searchDepth = some fault) ↔
      ∃ fault, place.tree.Obstructs system.limits path system.limits.searchDepth fault := by
  constructor
  · rintro ⟨fault, fails⟩
    exact ⟨fault, sound.here.obstructs_of_searchFault? fails⟩
  · rintro ⟨fault, obstructs⟩
    rw [← Option.isSome_iff_exists, ← Option.ne_none_iff_isSome]
    intro none
    cases obstructs with
    | deep holds deep =>
        have shallow := (FileTree.searched_of_holds none holds).1 rfl
        omega
    | @long names inner holds long =>
        by_cases here : names = []
        · subst here
          have short := (FileLimits.textFault?_eq_none_iff.mp (textFault?_of_find found)).2.2
          rw [Path.append_nil] at long
          omega
        · have short := (FileTree.searched_of_holds none holds).2 here
          omega

/-- What comes of one path: its first fault, or files if it has none. -/
theorem sourceFilesAt_cases (sound : system.root.IsSound system.limits.longestName)
    (path : Path) :
    (∃ fault, system.Fails path fault ∧ system.sourceFilesAt path = .error fault) ∨
      ((∀ fault, ¬ system.Fails path fault) ∧ ∃ files, system.sourceFilesAt path = .ok files) := by
  unfold sourceFilesAt
  cases leads : system.find path with
  | error fault =>
      left
      by_cases long : fault = .tooLong
      · subst long
        exact ⟨_, .tooLong leads, rfl⟩
      · refine ⟨_, .missing ⟨fault, leads, long⟩, ?_⟩
        cases fault <;> first | rfl | exact absurd rfl long
  | ok place =>
      have placeSound := isSound_of_find sound leads
      have gets := exists_obstructs_iff leads placeSound
      dsimp only
      cases searched :
          place.tree.searchFault? system.limits path system.limits.searchDepth with
      | some fault =>
          have obstructs := placeSound.here.obstructs_of_searchFault? searched
          refine .inl ⟨_, .search leads obstructs, ?_⟩
          -- A search of a file is never at fault.
          cases isDirectory : place.tree.isDirectory with
          | true => rfl
          | false =>
              cases here : place.tree with
              | file bytes =>
                  rw [here] at searched
                  cases searched
              | directory =>
                  rw [here] at isDirectory
                  cases isDirectory
      | none =>
          rw [searched] at gets
          refine .inr ⟨fun fault fails => ?_, ?_⟩
          · cases fails with
            | missing missing =>
                obtain ⟨_, found, _⟩ := missing
                cases leads.symm.trans found
            | tooLong found => cases leads.symm.trans found
            | search found obstructs =>
                cases leads.symm.trans found
                obtain ⟨_, impossible⟩ := gets.mpr ⟨_, obstructs⟩
                cases impossible
          · split
            · exact ⟨_, rfl⟩
            · exact ⟨_, rfl⟩

theorem fails_of_sourceFilesAt (sound : system.root.IsSound system.limits.longestName)
    (h : system.sourceFilesAt path = .error fault) : system.Fails path fault := by
  rcases sourceFilesAt_cases sound path with ⟨other, fails, found⟩ | ⟨_, _, found⟩
  · cases found.symm.trans h
    exact fails
  · cases found.symm.trans h

theorem exists_fails_iff (sound : system.root.IsSound system.limits.longestName) :
    (∃ fault, system.Fails path fault) ↔ ∃ fault, system.sourceFilesAt path = .error fault := by
  rcases sourceFilesAt_cases sound path with ⟨fault, fails, found⟩ | ⟨good, files, found⟩
  · exact iff_of_true ⟨fault, fails⟩ ⟨fault, found⟩
  · refine iff_of_false (not_exists.mpr good) ?_
    rintro ⟨fault, impossible⟩
    cases found.symm.trans impossible

theorem sourceFilesAt_eq_missing_iff {missing : Path} :
    system.sourceFilesAt path = .error (.missing missing) ↔
      path = missing ∧ system.IsMissing path := by
  unfold sourceFilesAt
  constructor
  · intro h
    split at h
    · cases h
    · rename_i fault notLong leads
      cases h
      exact ⟨rfl, fault, leads, notLong⟩
    · split at h
      · split at h <;> cases h
      · cases h
  · rintro ⟨rfl, fault, leads, notLong⟩
    rw [leads]
    cases fault <;> first | rfl | exact absurd rfl notLong

theorem not_leadsNowhere_of_sourceFilesAt {files : List SourceFile}
    (h : system.sourceFilesAt path = .ok files) : ¬ system.LeadsNowhere path := by
  rintro ⟨fault, leads⟩
  rw [sourceFilesAt, leads] at h
  cases fault <;> cases h

/-! ## Several paths -/

def IsFailing (system : FileSystem) (path : Path) : Prop :=
  ∃ fault, system.sourceFilesAt path = .error fault

theorem sourceFilesFrom_cases (system : FileSystem) (listed : List SourceFile)
    (paths : List Path) :
    (∃ path fault, First system.IsFailing paths path ∧ system.sourceFilesAt path = .error fault ∧
      system.sourceFilesFrom listed paths = .error fault) ∨
    ((∀ path ∈ paths, ¬ system.IsFailing path) ∧
      ∃ files, system.sourceFilesFrom listed paths = .ok files) := by
  induction paths generalizing listed with
  | nil => exact .inr ⟨List.forall_mem_nil _, listed, rfl⟩
  | cons path paths ih =>
      rw [sourceFilesFrom]
      cases found : system.sourceFilesAt path with
      | error fault =>
          have here : system.IsFailing path := ⟨fault, found⟩
          exact .inl ⟨path, fault, ⟨[], paths, rfl, List.forall_mem_nil _, here⟩, found, rfl⟩
      | ok files =>
          have good : ¬ system.IsFailing path := by
            rintro ⟨fault, impossible⟩
            cases found.symm.trans impossible
          rcases ih (addNew listed files) with
            ⟨later, fault, ⟨before, after, rfl, earlier, here⟩, isFault, fails⟩ | ⟨rest, all⟩
          · refine .inl ⟨later, fault, ⟨path :: before, after, rfl, ?_, here⟩, isFault, fails⟩
            exact List.forall_mem_cons.mpr ⟨good, earlier⟩
          · exact .inr ⟨List.forall_mem_cons.mpr ⟨good, rest⟩, all⟩

/-- Of several paths the first one that fails is told of. -/
theorem sourceFiles_cases (system : FileSystem) (paths : List Path) :
    (∃ path fault, First system.IsFailing paths path ∧ system.sourceFilesAt path = .error fault ∧
      system.sourceFiles paths = .error fault) ∨
    ((∀ path ∈ paths, ¬ system.IsFailing path) ∧
      ∃ files, system.sourceFiles paths = .ok files) := by
  rw [sourceFiles]
  rcases sourceFilesFrom_cases system [] paths with
    ⟨path, fault, first, isFault, fails⟩ | ⟨good, files, found⟩
  · exact .inl ⟨path, fault, first, isFault, map_eq_error_iff.mpr fails⟩
  · exact .inr ⟨good, _, map_eq_ok_iff.mpr ⟨files, found, rfl⟩⟩

theorem exists_sourceFiles_iff (system : FileSystem) (paths : List Path) :
    (∃ files, system.sourceFiles paths = .ok files) ↔ ∀ path ∈ paths, ¬ system.IsFailing path := by
  rcases sourceFiles_cases system paths with ⟨path, fault, first, _, fails⟩ | ⟨good, listed⟩
  · obtain ⟨before, after, rfl, _, here⟩ := first
    rw [fails]
    refine iff_of_false nofun fun good => ?_
    exact good path (List.mem_append_right _ List.mem_cons_self) here
  · exact iff_of_true listed good

theorem sourceFiles_eq_missing_iff :
    system.sourceFiles paths = .error (.missing path) ↔
      First system.IsFailing paths path ∧ system.IsMissing path := by
  rcases sourceFiles_cases system paths with
    ⟨first, fault, isFirst, isFault, fails⟩ | ⟨good, _, listed⟩
  · rw [fails]
    constructor
    · intro same
      cases same
      obtain ⟨rfl, missing⟩ := sourceFilesAt_eq_missing_iff.mp isFault
      exact ⟨isFirst, missing⟩
    · rintro ⟨other, missing⟩
      obtain rfl := other.unique isFirst
      cases isFault.symm.trans (sourceFilesAt_eq_missing_iff.mpr ⟨rfl, missing⟩)
      rfl
  · rw [listed]
    refine iff_of_false nofun ?_
    rintro ⟨⟨before, after, rfl, _, fails⟩, _⟩
    exact good path (List.mem_append_right _ List.mem_cons_self) fails

end FileSystem

end UsedSelectors
