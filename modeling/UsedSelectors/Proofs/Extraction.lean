import UsedSelectors.Extraction
import UsedSelectors.Proofs.Attempts

/-!
# Both kinds from one reading

A mode is known by its name. Selectors of both kinds come from one reading of the source: whatever
the way to read it, they are those that come from a reading for each kind, and an extraction fails
just as the reading does.
-/

namespace UsedSelectors

namespace Mode

theorem ofName_name (mode : Mode) : ofName mode.name = .ok mode := by
  cases mode <;> rfl

theorem eq_name_of_ofName {mode : Mode} {name : String} (h : ofName name = .ok mode) :
    name = mode.name := by
  unfold ofName at h
  split at h
  · rename_i same
    cases h
    exact same
  · split at h
    · rename_i same
      cases h
      exact same
    · cases h

theorem name_injective {mode other : Mode} (same : mode.name = other.name) : mode = other := by
  have found := ofName_name mode
  rw [same, ofName_name] at found
  exact (Except.ok.inj found).symm

theorem ofName_eq_error {name : String} (unknown : ∀ mode : Mode, mode.name ≠ name) :
    ofName name = .error ⟨name⟩ := by
  rw [ofName, if_neg (unknown .markup).symm, if_neg (unknown .component).symm]

end Mode

theorem SelectorKind.forall_iff {p : SelectorKind → Prop} :
    (∀ kind, p kind) ↔ p .className ∧ p .ident := by
  constructor
  · exact fun all => ⟨all _, all _⟩
  · rintro ⟨className, ident⟩ (_ | _)
    · exact className
    · exact ident

/-- What is left of an extraction when only some kinds are asked for. -/
def KindChoice.restrict : KindChoice → Extraction → Extraction
  | .all, extraction => extraction
  | .only .className, extraction => ⟨extraction.classNames, []⟩
  | .only .ident, extraction => ⟨[], extraction.ids⟩

namespace TreeSource

open Attempts

variable {source : TreeSource} {contents : Text} {failure : Component.Failure}

theorem extractKind_eq_error_iff (kind : SelectorKind) :
    source.extractKind kind contents = .error failure ↔ source.roots contents = .error failure :=
  map_eq_error_iff

theorem extract_eq_error_iff :
    source.extract contents = .error failure ↔ source.roots contents = .error failure :=
  map_eq_error_iff

theorem extract_eq_ok_iff {found : Extraction} :
    source.extract contents = .ok found ↔
      source.extractKind .className contents = .ok found.classNames ∧
        source.extractKind .ident contents = .ok found.ids := by
  constructor
  · intro extracted
    obtain ⟨roots, read, rfl⟩ := map_eq_ok_iff.mp extracted
    exact ⟨map_eq_ok_iff.mpr ⟨roots, read, rfl⟩, map_eq_ok_iff.mpr ⟨roots, read, rfl⟩⟩
  · rintro ⟨classNames, ids⟩
    obtain ⟨roots, read, classesOf⟩ := map_eq_ok_iff.mp classNames
    obtain ⟨again, readAgain, idsOf⟩ := map_eq_ok_iff.mp ids
    have same : roots = again := Except.ok.inj (read.symm.trans readAgain)
    subst same
    refine map_eq_ok_iff.mpr ⟨roots, read, ?_⟩
    rw [classesOf, idsOf]

theorem extractChoice_eq_map (choice : KindChoice) :
    source.extractChoice choice contents = (source.extract contents).map choice.restrict := by
  cases extracted : source.extract contents with
  | error failure =>
      have fails := extract_eq_error_iff.mp extracted
      have byKind (kind : SelectorKind) := (extractKind_eq_error_iff kind).mpr fails
      obtain _ | _ | _ := choice
      · exact extracted
      · exact map_eq_error_iff.mpr (byKind .className)
      · exact map_eq_error_iff.mpr (byKind .ident)
  | ok found =>
      obtain ⟨classNames, ids⟩ := extract_eq_ok_iff.mp extracted
      obtain _ | _ | _ := choice
      · exact extracted
      · exact map_eq_ok_iff.mpr ⟨_, classNames, rfl⟩
      · exact map_eq_ok_iff.mpr ⟨_, ids, rfl⟩

theorem extractChoice_eq_error_iff {choice : KindChoice} :
    source.extractChoice choice contents = .error failure ↔
      source.roots contents = .error failure := by
  rw [extractChoice_eq_map, map_eq_error_iff, extract_eq_error_iff]

theorem extractChoice_eq_ok_iff {choice : KindChoice} {found : Extraction} :
    source.extractChoice choice contents = .ok found ↔ ∃ roots, source.roots contents = .ok roots ∧
      choice.restrict ⟨source.order.walk .className roots, source.order.walk .ident roots⟩ =
        found := by
  rw [extractChoice_eq_map, map_eq_ok_iff]
  simp only [extract, map_eq_ok_iff, exists_exists_and_eq_and]

end TreeSource

end UsedSelectors
