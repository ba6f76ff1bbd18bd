import UsedSelectors.Files.FileSystem
import UsedSelectors.Proofs.Attempts
import UsedSelectors.Proofs.Encoding.Writable
import UsedSelectors.Proofs.Lists

/-!
# Going down in file trees

Names without `..` lead down from a place, and the names of the place they lead to are those of the
first place with these after them. The files that a tree lists are just those that can be reached in
this way, each of them once.
-/

namespace UsedSelectors

open Attempts

/-- A name that a path can follow down. -/
structure Text.IsEntryName (longestName : Nat) (name : Text) : Prop where
  down : name ≠ Place.parentName
  noZero : CodePoint.zero ∉ name
  encodable : name.IsEncodable
  short : name.byteCount ≤ longestName

/-- Each directory of a tree has its names once, and a path can follow all of them down. -/
inductive FileTree.IsSound (longestName : Nat) : FileTree → Prop where
  | file (bytes : List UInt8) : IsSound longestName (.file bytes)
  | directory {size : Nat} {entries : List (Text × FileTree)}
      (distinct : (entries.map Prod.fst).Nodup)
      (named : ∀ entry ∈ entries, entry.1.IsEntryName longestName)
      (below : ∀ entry ∈ entries, IsSound longestName entry.2) :
      IsSound longestName (.directory size entries)

theorem Text.IsEntryName.ofString {longestName : Nat} {name : String}
    (h : name ≠ ".." ∧ '\x00' ∉ name.toList ∧ (Text.ofString name).byteCount ≤ longestName) :
    (Text.ofString name).IsEntryName longestName where
  down same := h.1 (Encoding.ofString_injective same)
  noZero member := h.2.1 (Text.ofChar_mem_ofString_iff.mp member)
  encodable := (Text.isScalar_ofString name).isEncodable
  short := h.2.2

namespace FileTree.IsSound

variable {longestName size : Nat}

theorem empty (size : Nat) : IsSound longestName (.directory size []) :=
  .directory List.nodup_nil (List.forall_mem_nil _) (List.forall_mem_nil _)

theorem cons {name : Text} {tree : FileTree} {entries : List (Text × FileTree)}
    (fresh : name ∉ entries.map Prod.fst) (named : name.IsEntryName longestName)
    (inner : tree.IsSound longestName) (rest : IsSound longestName (.directory size entries)) :
    IsSound longestName (.directory size ((name, tree) :: entries)) := by
  cases rest with
  | directory distinct others below =>
      exact .directory (List.nodup_cons.mpr ⟨fresh, distinct⟩)
        (List.forall_mem_cons.mpr ⟨named, others⟩) (List.forall_mem_cons.mpr ⟨inner, below⟩)

end FileTree.IsSound

namespace Place

/-- Names lead from a place down to a file. -/
def HasFile (longestName : Nat) (place : Place) (names : List Text) : Prop :=
  parentName ∉ names ∧
    ∃ found, place.follow longestName names = .ok found ∧ found.tree.isDirectory = false

structure IsSound (longestName : Nat) (place : Place) : Prop where
  here : place.tree.IsSound longestName
  above : ∀ step ∈ place.above, step.2.IsSound longestName

variable {longestName : Nat} {place next : Place} {name : Text} {names : List Text}

/-! ## Following names -/

theorem follow_append (place : Place) (names more : List Text) :
    place.follow longestName (names ++ more) =
      place.follow longestName names >>= fun next => next.follow longestName more := by
  induction names generalizing place with
  | nil => rfl
  | cons name names ih =>
      rw [List.cons_append, follow, follow]
      cases place.enter longestName name with
      | error fault => rfl
      | ok next => exact ih next

theorem enter_eq_ok_iff (down : name ≠ parentName) :
    place.enter longestName name = .ok next ↔ ∃ size entries,
      place.tree = .directory size entries ∧ name.byteCount ≤ longestName ∧
        ∃ tree, entries.lookup name = some tree ∧
          next = ⟨(name, place.tree) :: place.above, tree⟩ := by
  unfold enter
  cases place.tree with
  | file bytes => simp
  | directory size entries =>
      dsimp only
      rw [if_neg down]
      by_cases long : longestName < name.byteCount
      · rw [if_pos long]
        refine iff_of_false nofun ?_
        rintro ⟨_, _, _, short, _⟩
        omega
      · rw [if_neg long]
        cases looked : entries.lookup name with
        | none => simp [looked]
        | some tree => simp [looked, eq_comm, Nat.le_of_not_lt long]

theorem names_of_enter (down : name ≠ parentName)
    (entered : place.enter longestName name = .ok next) : next.names = place.names ++ [name] := by
  obtain ⟨_, entries, _, _, tree, _, rfl⟩ := (enter_eq_ok_iff down).mp entered
  rw [Place.names, List.map_cons, List.reverse_cons]
  rfl

theorem names_of_follow (down : parentName ∉ names)
    (followed : place.follow longestName names = .ok next) :
    next.names = place.names ++ names := by
  induction names generalizing place with
  | nil =>
      cases followed
      rw [List.append_nil]
  | cons name names ih =>
      obtain ⟨notAbove, down⟩ := not_or.mp (mt List.mem_cons.mpr down)
      obtain ⟨middle, entered, followed⟩ := bind_eq_ok_iff.mp followed
      rw [ih down followed, names_of_enter (Ne.symm notAbove) entered, List.append_assoc]
      rfl

theorem IsSound.enter (sound : place.IsSound longestName)
    (entered : place.enter longestName name = .ok next) : next.IsSound longestName := by
  by_cases up : name = parentName
  · unfold Place.enter at entered
    split at entered
    · cases entered
    · rw [if_pos up] at entered
      split at entered
      · cases entered
        exact sound
      · rename_i parent above isAbove
        cases entered
        have all := sound.above
        rw [isAbove] at all
        obtain ⟨first, rest⟩ := List.forall_mem_cons.mp all
        exact ⟨first, rest⟩
  · obtain ⟨_, entries, isDirectory, _, tree, found, rfl⟩ := (enter_eq_ok_iff up).mp entered
    have here := sound.here
    refine ⟨?_, List.forall_mem_cons.mpr ⟨here, sound.above⟩⟩
    rw [isDirectory] at here
    cases here with
    | directory distinct named below => exact below _ ((mem_iff_lookup distinct).mpr found)

theorem IsSound.follow (sound : place.IsSound longestName)
    (followed : place.follow longestName names = .ok next) : next.IsSound longestName := by
  induction names generalizing place with
  | nil =>
      cases followed
      exact sound
  | cons name names ih =>
      obtain ⟨middle, entered, followed⟩ := bind_eq_ok_iff.mp followed
      exact ih (sound.enter entered) followed

end Place

/-! ## The files of a tree -/

namespace FileTree

variable {longestName size : Nat} {tree : FileTree} {entries : List (Text × FileTree)}
  {names : List Text}

theorem filesOf_eq (entries : List (Text × FileTree)) :
    filesOf entries = entries.flatMap filesBelow := by
  induction entries with
  | nil => rw [filesOf, List.flatMap_nil]
  | cons entry entries ih => rw [filesOf, List.flatMap_cons, ih]

theorem mem_files_directory_iff :
    names ∈ (directory size entries).files ↔
      ∃ name tree, (name, tree) ∈ entries ∧ ∃ more ∈ tree.files, name :: more = names := by
  rw [files, filesOf_eq, List.mem_flatMap]
  constructor
  · rintro ⟨⟨name, tree⟩, member, listed⟩
    rw [filesBelow, List.mem_map] at listed
    exact ⟨name, tree, member, listed⟩
  · rintro ⟨name, tree, member, listed⟩
    refine ⟨(name, tree), member, ?_⟩
    rw [filesBelow, List.mem_map]
    exact listed

theorem IsSound.nodup_files (sound : tree.IsSound longestName) : tree.files.Nodup := by
  induction sound with
  | file bytes =>
      rw [files]
      exact List.nodup_singleton _
  | directory distinct named below ih =>
      rw [files, filesOf_eq, List.nodup_flatMap]
      constructor
      · rintro ⟨name, tree⟩ member
        rw [filesBelow]
        exact (ih _ member).map (List.cons_injective)
      · refine (List.pairwise_map.mp distinct).imp ?_
        rintro ⟨name, tree⟩ ⟨other, another⟩ differs names here there
        rw [filesBelow, List.mem_map] at here there
        obtain ⟨more, _, rfl⟩ := here
        obtain ⟨rest, _, same⟩ := there
        exact differs (List.cons.inj same).1.symm

theorem IsSound.isEntryName_of_mem_files (sound : tree.IsSound longestName)
    (listed : names ∈ tree.files) : ∀ name ∈ names, name.IsEntryName longestName := by
  induction sound generalizing names with
  | file bytes =>
      rw [files, List.mem_singleton] at listed
      rw [listed]
      exact List.forall_mem_nil _
  | directory distinct named below ih =>
      obtain ⟨name, tree, member, more, inside, rfl⟩ := mem_files_directory_iff.mp listed
      exact List.forall_mem_cons.mpr ⟨named _ member, ih _ member inside⟩

end FileTree

theorem Place.mem_files_iff {longestName : Nat} {place : Place} {names : List Text}
    (sound : place.tree.IsSound longestName) :
    names ∈ place.tree.files ↔ place.HasFile longestName names := by
  induction names generalizing place with
  | nil =>
      cases here : place.tree with
      | file bytes => simp [HasFile, follow, FileTree.files, here, FileTree.isDirectory]
      | directory size entries =>
          rw [FileTree.mem_files_directory_iff]
          simp [HasFile, follow, here, FileTree.isDirectory]
  | cons name names ih =>
      cases here : place.tree with
      | file bytes =>
          rw [FileTree.files, HasFile, follow, enter, here]
          simp [bind, Except.bind]
      | directory size entries =>
          rw [here] at sound
          cases sound with
          | directory distinct named below =>
          have inside {tree : FileTree} (member : (name, tree) ∈ entries) :
              names ∈ tree.files ↔
                HasFile longestName ⟨(name, place.tree) :: place.above, tree⟩ names :=
            @ih ⟨(name, place.tree) :: place.above, tree⟩ (below _ member)
          rw [FileTree.mem_files_directory_iff]
          constructor
          · rintro ⟨_, tree, member, _, listed, same⟩
            cases same
            obtain ⟨notAbove, _, _, short⟩ := named _ member
            obtain ⟨down, found, leads, isFile⟩ := (inside member).mp listed
            have entered := (enter_eq_ok_iff notAbove).mpr
              ⟨size, entries, here, short, tree, (mem_iff_lookup distinct).mp member, rfl⟩
            refine ⟨mt List.mem_cons.mp (not_or.mpr ⟨Ne.symm notAbove, down⟩), found, ?_, isFile⟩
            exact bind_eq_ok_iff.mpr ⟨_, entered, leads⟩
          · rintro ⟨down, found, leads, isFile⟩
            obtain ⟨notAbove, down⟩ := not_or.mp (mt List.mem_cons.mpr down)
            obtain ⟨middle, entered, leads⟩ := bind_eq_ok_iff.mp leads
            obtain ⟨_, others, isDirectory, _, tree, looked, rfl⟩ :=
              (enter_eq_ok_iff (Ne.symm notAbove)).mp entered
            cases here.symm.trans isDirectory
            have member := (mem_iff_lookup distinct).mpr looked
            exact ⟨name, tree, member, names, (inside member).mpr ⟨down, found, leads, isFile⟩, rfl⟩

/-! ## The text of a path -/

theorem forall_mem_intercalate {p : CodePoint → Prop} {separator : Text}
    (between : ∀ c ∈ separator, p c) (texts : List Text) :
    (∀ c ∈ separator.intercalate texts, p c) ↔ ∀ t ∈ texts, ∀ c ∈ t, p c := by
  induction texts with
  | nil => simp
  | cons t texts ih =>
      cases texts with
      | nil => simp
      | cons next texts =>
          rw [List.intercalate_cons_cons, List.forall_mem_append, List.forall_mem_append, ih,
            and_iff_left between, List.forall_mem_cons (l := next :: texts)]

namespace Path

variable {path : Path} {names : List Text}

theorem forall_mem_text_iff {p : CodePoint → Prop} (slash : p .slash) (dot : p .dot) :
    (∀ c ∈ path.text, p c) ↔ ∀ name ∈ path.names, ∀ c ∈ name, p c := by
  have root : ∀ c ∈ path.root.text, p c := by
    cases path.root <;> simp [PathRoot.text, slash]
  rw [text]
  split
  · rename_i empty
    simp [empty.2, dot]
  · rw [List.forall_mem_append, and_iff_right root]
    exact forall_mem_intercalate (List.forall_mem_singleton.mpr slash) path.names

theorem append_append (path : Path) (names more : List Text) :
    (path.append names).append more = path.append (names ++ more) := by
  rw [append, append, append, List.append_assoc]

theorem append_nil (path : Path) : path.append [] = path := by
  rw [append, List.append_nil]

theorem isEncodable_text_iff :
    path.text.IsEncodable ↔ ∀ name ∈ path.names, name.IsEncodable :=
  forall_mem_text_iff (by decide) (by decide)

theorem zero_notMem_text_iff :
    CodePoint.zero ∉ path.text ↔ ∀ name ∈ path.names, CodePoint.zero ∉ name := by
  have distinct {t : Text} : CodePoint.zero ∉ t ↔ ∀ c ∈ t, c ≠ .zero :=
    List.forall_mem_ne'.symm
  simp only [distinct]
  exact forall_mem_text_iff (by decide) (by decide)

end Path

theorem FileLimits.textFault?_eq_none_iff {limits : FileLimits} {path : Path} :
    limits.textFault? path = none ↔ path.text.IsEncodable ∧ CodePoint.zero ∉ path.text ∧
      path.text.byteCount ≤ limits.longestPath := by
  rw [textFault?, ← Encoding.surrogateFrom?_true_eq_none_iff 0]
  cases Encoding.surrogateFrom? true 0 path.text with
  | some e => simp
  | none =>
      by_cases zero : CodePoint.zero ∈ path.text
      · simp [zero]
      · simp [zero]

theorem FileLimits.textFault?_append {limits : FileLimits} {path : Path} {names : List Text}
    (noFault : limits.textFault? path = none)
    (named : ∀ name ∈ names, name.IsEntryName limits.longestName)
    (short : (path.append names).text.byteCount ≤ limits.longestPath) :
    limits.textFault? (path.append names) = none := by
  obtain ⟨encodable, noZero, _⟩ := textFault?_eq_none_iff.mp noFault
  rw [Path.isEncodable_text_iff] at encodable
  rw [Path.zero_notMem_text_iff] at noZero
  refine textFault?_eq_none_iff.mpr ⟨Path.isEncodable_text_iff.mpr ?_,
    Path.zero_notMem_text_iff.mpr ?_, short⟩
  · exact List.forall_mem_append.mpr ⟨encodable, fun name member => (named name member).encodable⟩
  · exact List.forall_mem_append.mpr ⟨noZero, fun name member => (named name member).noZero⟩

namespace FileSystem

variable {system : FileSystem} {path : Path} {place : Place} {names : List Text}

/-! ## Places of paths -/

def namesFromRoot (system : FileSystem) (path : Path) : List Text :=
  match path.root with
  | .relative => system.workingDirectory ++ path.names
  | _ => path.names

theorem namesFromRoot_append (system : FileSystem) (path : Path) (names : List Text) :
    system.namesFromRoot (path.append names) = system.namesFromRoot path ++ names := by
  rw [namesFromRoot, namesFromRoot, Path.append]
  cases path.root <;> simp

theorem find_eq_follow (noFault : system.limits.textFault? path = none) :
    system.find path =
      Place.follow system.limits.longestName ⟨[], system.root⟩ (system.namesFromRoot path) := by
  rw [find, noFault, namesFromRoot]
  cases path.root <;> rfl

theorem textFault?_of_find (found : system.find path = .ok place) :
    system.limits.textFault? path = none := by
  rw [find] at found
  split at found
  · cases found
  · assumption

theorem find_append (found : system.find path = .ok place)
    (noFault : system.limits.textFault? (path.append names) = none) :
    system.find (path.append names) = place.follow system.limits.longestName names := by
  rw [find_eq_follow (textFault?_of_find found)] at found
  rw [find_eq_follow noFault, namesFromRoot_append, Place.follow_append, found]
  rfl

theorem isSound_of_find (sound : system.root.IsSound system.limits.longestName)
    (found : system.find path = .ok place) : place.IsSound system.limits.longestName := by
  rw [find_eq_follow (textFault?_of_find found)] at found
  exact Place.IsSound.follow ⟨sound, List.forall_mem_nil _⟩ found

end FileSystem

end UsedSelectors
