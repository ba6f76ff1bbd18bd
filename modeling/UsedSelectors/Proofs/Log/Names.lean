import UsedSelectors.Log
import UsedSelectors.Proofs.Text.Pieces

/-!
# The names above a name

Above a dotted name are the names in front of its dots. If no part of the name is empty they are
all found, the nearest one first, and each of them has those found after it above itself.
-/

namespace UsedSelectors.Log

/-- A name goes on with a dot and more after the name above it. -/
def IsAbove (above name : String) : Prop := ∃ rest, name = above ++ "." ++ rest

def HasParts (name : String) : Prop := ∀ part ∈ pieces '.' name.toList, part ≠ []

/-- A name that a logger can be asked for by: it is made of parts, and it does not stand for the
logger above all others. -/
structure IsLoggerName (name : String) : Prop where
  parts : HasParts name
  notTop : name ≠ "root"

def IsOfProject (name : String) : Prop := name = "selector_extractor" ∨
  IsAbove "selector_extractor" name

theorem isAbove_iff {above name : String} :
    IsAbove above name ↔ ∃ rest, name.toList = above.toList ++ '.' :: rest := by
  constructor
  · rintro ⟨rest, rfl⟩
    exact ⟨rest.toList, by simp⟩
  · rintro ⟨rest, same⟩
    refine ⟨String.ofList rest, String.toList_inj.mp ?_⟩
    simp [same]

theorem IsAbove.trans {top above name : String} (first : IsAbove top above)
    (second : IsAbove above name) : IsAbove top name := by
  obtain ⟨between, rfl⟩ := first
  obtain ⟨rest, rfl⟩ := second
  exact ⟨between ++ "." ++ rest, by simp only [String.append_assoc]⟩

theorem HasParts.above {above name : String} (parts : HasParts name) (h : IsAbove above name) :
    HasParts above := by
  obtain ⟨rest, same⟩ := isAbove_iff.mp h
  intro part hpart
  apply parts
  rw [same, pieces_append]
  exact List.mem_append_left _ hpart

theorem HasParts.ne_empty {name : String} (parts : HasParts name) : name ≠ "" := by
  rintro rfl
  exact parts [] (by decide) rfl

theorem HasParts.apart {name : String} (parts : HasParts name) (a b : List Char) :
    name.toList.reverse ≠ a ++ '.' :: '.' :: b := by
  intro same
  have forward : name.toList = (b.reverse ++ '.' :: []) ++ '.' :: a.reverse := by
    rw [← List.reverse_reverse name.toList, same]
    simp
  refine parts [] ?_ rfl
  rw [forward, pieces_append, pieces_append]
  simp [pieces]

theorem isProjectName_iff {name : String} : isProjectName name = true ↔ IsOfProject name := by
  have begins : (projectName ++ ".").toList <+: name.toList ↔
      IsAbove "selector_extractor" name := by
    rw [isAbove_iff]
    constructor
    · rintro ⟨rest, same⟩
      exact ⟨rest, by rw [← same]; simp [projectName]⟩
    · rintro ⟨rest, same⟩
      exact ⟨rest, by rw [same]; simp [projectName]⟩
  rw [IsOfProject, ← begins, isProjectName, Bool.or_eq_true, decide_eq_true_iff,
    List.isPrefixOf_iff_prefix, projectName]

theorem not_isTopName_of_isOfProject {name : String} (h : IsOfProject name) :
    isTopName name = false := by
  rcases h with rfl | ⟨rest, rfl⟩
  · decide
  · simp only [isTopName, Bool.or_eq_false_iff, decide_eq_false_iff_not]
    constructor
    · intro same
      have := congrArg (fun s => s.toList.head?) same
      revert this
      simp
    · intro same
      have := congrArg (fun s => s.toList.head?) same
      revert this
      simp

theorem IsLoggerName.not_isTopName {name : String} (h : IsLoggerName name) :
    isTopName name = false := by
  simp only [isTopName, Bool.or_eq_false_iff, decide_eq_false_iff_not]
  exact ⟨h.parts.ne_empty, h.notTop⟩

/-! ## The names that are found -/

theorem mem_namesAboveRev_iff {cs above : List Char}
    (apart : ∀ a b, cs ≠ a ++ '.' :: '.' :: b) :
    above ∈ namesAboveRev cs ↔ above ≠ [] ∧ ∃ rest, cs = rest ++ '.' :: above.reverse := by
  fun_induction namesAboveRev cs with
  | case1 => simp
  | case2 c rest ih =>
      have notDot : c ≠ '.' := by
        rintro rfl
        exact apart [] rest rfl
      have found := ih (fun a b same => apart ('.' :: c :: a) b (by rw [same]; rfl))
      rw [List.mem_cons, found]
      constructor
      · rintro (rfl | ⟨notEmpty, more, rfl⟩)
        · exact ⟨by simp, [], by simp⟩
        · exact ⟨notEmpty, '.' :: c :: more, rfl⟩
      · rintro ⟨notEmpty, more, same⟩
        rcases more with _ | ⟨x, _ | ⟨y, more⟩⟩
        · left
          have tail := (List.cons.inj same).2
          rw [tail, List.reverse_reverse]
        · exact absurd (List.cons.inj (List.cons.inj same).2).1 notDot
        · exact .inr ⟨notEmpty, more, (List.cons.inj (List.cons.inj same).2).2⟩
  | case3 x rest noMore ih =>
      have found := ih (fun a b same => apart (x :: a) b (by rw [same]; rfl))
      rw [found]
      constructor
      · rintro ⟨notEmpty, more, rfl⟩
        exact ⟨notEmpty, x :: more, rfl⟩
      · rintro ⟨notEmpty, more, same⟩
        cases more with
        | nil =>
            obtain ⟨rfl, tail⟩ := List.cons.inj same
            cases reversed : above.reverse with
            | nil => exact absurd (List.reverse_eq_nil_iff.mp reversed) notEmpty
            | cons c more => exact (noMore c more rfl (tail.trans reversed)).elim
        | cons y more => exact ⟨notEmpty, more, (List.cons.inj same).2⟩

theorem pairwise_namesAboveRev {cs : List Char} (apart : ∀ a b, cs ≠ a ++ '.' :: '.' :: b) :
    (namesAboveRev cs).Pairwise fun near far => ∃ rest, near = far ++ '.' :: rest := by
  fun_induction namesAboveRev cs with
  | case1 => exact .nil
  | case2 c rest ih =>
      have apart' : ∀ a b, rest ≠ a ++ '.' :: '.' :: b :=
        fun a b same => apart ('.' :: c :: a) b (by rw [same]; rfl)
      refine .cons (fun far hfar => ?_) (ih apart')
      obtain ⟨_, more, rfl⟩ := (mem_namesAboveRev_iff apart').mp hfar
      exact ⟨more.reverse ++ [c], by simp⟩
  | case3 x rest _ ih => exact ih (fun a b same => apart (x :: a) b (by rw [same]; rfl))

theorem mem_namesAbove_iff {name above : String} (parts : HasParts name) :
    above ∈ namesAbove name ↔ IsAbove above name := by
  rw [namesAbove, List.mem_map, isAbove_iff]
  constructor
  · rintro ⟨cs, hcs, rfl⟩
    obtain ⟨_, rest, same⟩ := (mem_namesAboveRev_iff parts.apart).mp hcs
    refine ⟨rest.reverse, ?_⟩
    rw [← List.reverse_reverse name.toList, same]
    simp
  · rintro ⟨rest, same⟩
    have notEmpty := (parts.above (isAbove_iff.mpr ⟨rest, same⟩)).ne_empty
    refine ⟨above.toList, (mem_namesAboveRev_iff parts.apart).mpr ⟨?_, rest.reverse, ?_⟩,
      String.ofList_toList⟩
    · intro empty
      exact notEmpty (String.toList_inj.mp empty)
    · rw [same]
      simp

theorem pairwise_namesAbove {name : String} (parts : HasParts name) :
    (namesAbove name).Pairwise fun near far => IsAbove far near := by
  rw [namesAbove, List.pairwise_map]
  refine (pairwise_namesAboveRev parts.apart).imp fun {near far} h => ?_
  obtain ⟨rest, rfl⟩ := h
  exact isAbove_iff.mpr ⟨rest, by simp⟩

end UsedSelectors.Log
