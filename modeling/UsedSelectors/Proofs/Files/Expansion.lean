import Mathlib.Data.List.Lex
import UsedSelectors.Proofs.Files.SourceFiles

/-!
# What one path stands for

A path to a file stands for itself. A path to a directory stands for all paths that lead down from
it to a file with a known extension, in the order of their names.
-/

namespace UsedSelectors

instance : LinearOrder CodePoint where
  le a b := a.val ≤ b.val
  le_refl a := Nat.le_refl a.val
  le_trans _ _ _ := Nat.le_trans
  le_antisymm a b first second := by
    have same : a.val = b.val := Nat.le_antisymm first second
    cases a
    cases b
    cases same
    rfl
  le_total a b := Nat.le_total a.val b.val
  lt_iff_le_not_ge a b := Nat.lt_iff_le_and_not_ge
  toDecidableLE a b := inferInstanceAs (Decidable (a.val ≤ b.val))

namespace FileSystem

/-- The file that a path denotes, by the names that lead to it from the root. -/
def fileAt? (system : FileSystem) (path : Path) : Option (List Text) :=
  match system.find path with
  | .error _ => none
  | .ok place => if place.tree.isDirectory then none else some place.names

def IsDirectory (system : FileSystem) (path : Path) : Prop :=
  ∃ place, system.find path = .ok place ∧ place.tree.isDirectory = true

/-- A path stands for a path to a file: for itself, or for one that leads down from it and has a
known extension. -/
inductive StandsFor (system : FileSystem) (path : Path) : Path → Prop where
  | itself (isFile : (system.fileAt? path).isSome) : StandsFor system path path
  | below {names : List Text} (directory : system.IsDirectory path)
      (down : Place.parentName ∉ names)
      (isFile : (system.fileAt? (path.append names)).isSome)
      (known : (Mode.ofPath? (path.append names)).isSome) :
      StandsFor system path (path.append names)

/-- The paths that a path stands for, in the order of their names. -/
structure Expands (system : FileSystem) (path : Path) (found : List Path) : Prop where
  mem_iff : ∀ file, file ∈ found ↔ system.StandsFor path file
  sorted : found.Pairwise fun a b => a.names < b.names

variable {system : FileSystem} {path : Path} {place : Place} {names : List Text}
  {found : List SourceFile}

/-! ## The file of a path -/

theorem fileAt?_eq_some_iff : system.fileAt? path = some names ↔
    ∃ place, system.find path = .ok place ∧ place.tree.isDirectory = false ∧
      place.names = names := by
  rw [fileAt?]
  cases system.find path with
  | error fault => simp
  | ok place => cases place.tree.isDirectory <;> simp

theorem not_isDirectory_of_isSome (isFile : (system.fileAt? path).isSome) :
    ¬ system.IsDirectory path := by
  rintro ⟨place, leads, isDirectory⟩
  obtain ⟨_, denoted⟩ := Option.isSome_iff_exists.mp isFile
  obtain ⟨other, leads', isFile, _⟩ := fileAt?_eq_some_iff.mp denoted
  cases leads.symm.trans leads'
  cases isDirectory.symm.trans isFile

def IsSearched (system : FileSystem) (path : Path) (place : Place) : Prop :=
  place.tree.searchFault? system.limits path system.limits.searchDepth = none

/-- What names lead down to is denoted by the path with these names after it, if a search gets
there. -/
theorem fileAt?_append (sound : place.IsSound system.limits.longestName)
    (found : system.find path = .ok place) (searched : system.IsSearched path place)
    (hasFile : place.HasFile system.limits.longestName names) :
    system.fileAt? (path.append names) = some (place.names ++ names) := by
  have listed := (Place.mem_files_iff sound.here).mpr hasFile
  obtain ⟨bytes, holds⟩ := FileTree.mem_files_iff_holds.mp listed
  have front := textFault?_of_find found
  have noFault : system.limits.textFault? (path.append names) = none := by
    by_cases here : names = []
    · rw [here, Path.append_nil]
      exact front
    · refine FileLimits.textFault?_append front (sound.here.isEntryName_of_mem_files listed) ?_
      exact (FileTree.searched_of_holds searched holds).2 here
  obtain ⟨down, inner, leads, isFile⟩ := hasFile
  refine fileAt?_eq_some_iff.mpr ⟨inner, ?_, isFile, Place.names_of_follow down leads⟩
  rw [find_append found noFault]
  exact leads

theorem hasFile_of_isSome_fileAt? (found : system.find path = .ok place)
    (down : Place.parentName ∉ names) (isFile : (system.fileAt? (path.append names)).isSome) :
    place.HasFile system.limits.longestName names := by
  obtain ⟨_, denoted⟩ := Option.isSome_iff_exists.mp isFile
  obtain ⟨inner, leads, isFile, _⟩ := fileAt?_eq_some_iff.mp denoted
  rw [find_append found (textFault?_of_find leads)] at leads
  exact ⟨down, inner, leads, isFile⟩

/-! ## The files that one path stands for -/

/-- A listed file is the one that its path denotes. -/
def IsLocated (system : FileSystem) (file : SourceFile) : Prop :=
  system.fileAt? file.path = some file.names

theorem mem_sourceFilesBelow_iff (sound : place.IsSound system.limits.longestName)
    (file : SourceFile) :
    file ∈ sourceFilesBelow path place ↔
      ∃ names, place.HasFile system.limits.longestName names ∧
        file = ⟨path.append names, place.names ++ names⟩ ∧ (Mode.ofPath? file.path).isSome := by
  rw [sourceFilesBelow, List.mem_filter, List.mem_map]
  constructor
  · rintro ⟨⟨names, member, rfl⟩, known⟩
    exact ⟨names, (Place.mem_files_iff sound.here).mp (List.mem_mergeSort.mp member), rfl, known⟩
  · rintro ⟨names, hasFile, rfl, known⟩
    refine ⟨⟨names, List.mem_mergeSort.mpr ?_, rfl⟩, known⟩
    exact (Place.mem_files_iff sound.here).mpr hasFile

theorem sorted_mergeSort_namesLe {items : List (List Text)} (nodup : items.Nodup) :
    (items.mergeSort namesLe).Pairwise fun a b => a < b := by
  have le_iff (a b : List Text) : namesLe a b = true ↔ a ≤ b := by simp [namesLe]
  have sorted : (items.mergeSort namesLe).Pairwise fun a b => namesLe a b = true := by
    apply List.pairwise_mergeSort
    · intro a b c first second
      rw [le_iff] at first second ⊢
      exact first.trans second
    · intro a b
      rw [Bool.or_eq_true, le_iff, le_iff]
      exact le_total a b
  have different : (items.mergeSort namesLe).Nodup :=
    (List.mergeSort_perm items namesLe).nodup_iff.mpr nodup
  refine (sorted.and different).imp ?_
  rintro a b ⟨least, differs⟩
  exact lt_of_le_of_ne ((le_iff a b).mp least) differs

theorem sorted_sourceFilesBelow (sound : place.IsSound system.limits.longestName) :
    ((sourceFilesBelow path place).map SourceFile.path).Pairwise fun a b => a.names < b.names := by
  rw [List.pairwise_map, sourceFilesBelow]
  refine List.Pairwise.filter _ (List.pairwise_map.mpr ?_)
  exact (sorted_mergeSort_namesLe sound.here.nodup_files).imp fun before =>
    List.append_left_lt before

theorem isLocated_sourceFilesBelow (sound : place.IsSound system.limits.longestName)
    (leads : system.find path = .ok place) (searched : system.IsSearched path place) :
    ∀ file ∈ sourceFilesBelow path place, system.IsLocated file := by
  intro file member
  obtain ⟨names, hasFile, rfl, _⟩ := (mem_sourceFilesBelow_iff sound file).mp member
  exact fileAt?_append sound leads searched hasFile

theorem expands_of_directory (sound : place.IsSound system.limits.longestName)
    (leads : system.find path = .ok place) (searched : system.IsSearched path place)
    (isDirectory : place.tree.isDirectory = true) :
    system.Expands path ((sourceFilesBelow path place).map SourceFile.path) where
  sorted := sorted_sourceFilesBelow sound
  mem_iff file := by
    rw [List.mem_map]
    constructor
    · rintro ⟨entry, member, rfl⟩
      have denoted := isLocated_sourceFilesBelow sound leads searched entry member
      obtain ⟨names, hasFile, rfl, known⟩ := (mem_sourceFilesBelow_iff sound entry).mp member
      exact .below ⟨place, leads, isDirectory⟩ hasFile.1 (Option.isSome_of_eq_some denoted) known
    · intro stands
      cases stands with
      | itself isFile =>
          exact absurd ⟨place, leads, isDirectory⟩ (not_isDirectory_of_isSome isFile)
      | @below names _ down isFile known =>
          have hasFile := hasFile_of_isSome_fileAt? leads down isFile
          exact ⟨⟨path.append names, place.names ++ names⟩,
            (mem_sourceFilesBelow_iff sound _).mpr ⟨names, hasFile, rfl, known⟩, rfl⟩

theorem expands_of_file (isFile : (system.fileAt? path).isSome) : system.Expands path [path] where
  sorted := List.pairwise_singleton _ _
  mem_iff file := by
    rw [List.mem_singleton]
    constructor
    · rintro rfl
      exact .itself isFile
    · intro stands
      cases stands with
      | itself => rfl
      | below directory => exact absurd directory (not_isDirectory_of_isSome isFile)

theorem sourceFilesAt_of_fileAt? (denoted : system.fileAt? path = some names) :
    system.sourceFilesAt path = .ok [⟨path, names⟩] := by
  obtain ⟨place, leads, isFile, rfl⟩ := fileAt?_eq_some_iff.mp denoted
  rw [sourceFilesAt, leads]
  dsimp only
  rw [isFile, if_neg Bool.false_ne_true]

/-- The files at a path are those that the path stands for. -/
theorem sourceFilesAt_spec (sound : system.root.IsSound system.limits.longestName)
    (listed : system.sourceFilesAt path = .ok found) :
    system.Expands path (found.map SourceFile.path) ∧ ∀ file ∈ found, system.IsLocated file := by
  unfold sourceFilesAt at listed
  split at listed
  · cases listed
  · cases listed
  · rename_i place leads
    have placeSound := isSound_of_find sound leads
    split at listed
    · rename_i isDirectory
      split at listed
      · cases listed
      · rename_i searched
        cases listed
        exact ⟨expands_of_directory placeSound leads searched isDirectory,
          isLocated_sourceFilesBelow placeSound leads searched⟩
    · rename_i notDirectory
      cases listed
      have denoted : system.fileAt? path = some place.names :=
        fileAt?_eq_some_iff.mpr ⟨place, leads, Bool.eq_false_iff.mpr notDirectory, rfl⟩
      exact ⟨expands_of_file (Option.isSome_of_eq_some denoted),
        List.forall_mem_singleton.mpr denoted⟩

end FileSystem

end UsedSelectors
