/-
# Where assets go

The names of assets are not trusted.  A sink that writes below a directory takes exactly the names
that are relative and have no segment of two dots (`resolve?_eq_some_iff`), and such a name leads
downwards from the directory, whatever stands there (`locationOf_resolved`).
-/

import FigureForm.Asset.Sink
import FigureForm.Proofs.Locations

open FigureForm.Path

namespace FigureForm

namespace Path

/-- A continued path ends with what continues it. -/
theorem suffix_join (base path : String) : path.toList <:+ (join base path).toList := by
  rw [join]
  split
  · exact List.suffix_refl _
  · split
    · exact List.suffix_refl _
    · split
      · rw [String.toList_append]
        exact List.suffix_append _ _
      · rw [String.toList_append]
        exact List.suffix_append _ _

/-- What a path ends with and what contains no slash, its last segment ends with. -/
theorem suffix_lastSegment {ending : List Char} {path : String} (without : '/' ∉ ending)
    (ends : ending <:+ path.toList) : ending <:+ lastSegment path :=
  Pieces.suffix_getLast_split without ends

end Path

namespace AssetSink

/-- Whether a component of a path stays where the path starts or goes down from there. -/
def isSafeComponent : Component → Bool
  | .name _ | .current => true
  | .root | .parent => false

theorem isSafeComponent_component? (segment : List Char) :
    (∀ component ∈ component? segment, isSafeComponent component = true) ↔
      segment ≠ ['.', '.'] := by
  rw [component?]
  by_cases silent : isSilent segment = true
  · rw [if_pos silent]
    have notUp : segment ≠ ['.', '.'] := by
      rintro rfl
      exact absurd silent (by decide)
    simp [notUp]
  · rw [if_neg silent]
    split
    next isUp => simp [isUp, isSafeComponent]
    next notUp => simp [notUp, isSafeComponent]

theorem isSafeComponent_firstComponent? {segment : List Char} {slash : Bool}
    (notRoot : segment = [] → slash = false) :
    (∀ component ∈ firstComponent? segment slash, isSafeComponent component = true) ↔
      segment ≠ ['.', '.'] := by
  rw [firstComponent?]
  by_cases empty : segment = []
  · simp [empty, notRoot empty]
  · rw [if_neg (by simpa using empty)]
    split
    next isDot => simp [isDot, isSafeComponent]
    next => exact isSafeComponent_component? segment

/-- A relative path is safe exactly when it never goes up. -/
theorem isSafe_iff {path : String} (relative : isAbsolute path = false) :
    isSafe path = true ↔ ∀ segment ∈ segments path, segment ≠ ['.', '.'] := by
  have whole : isSafe path = (components path).all isSafeComponent := rfl
  rw [whole, components]
  cases cut : segments path with
  | nil => exact absurd cut (segments_ne_nil path)
  | cons first rest =>
    have notRoot : first = [] → (!rest.isEmpty) = false := by
      intro empty
      by_contra some
      refine absurd (isAbsolute_iff.mpr ⟨rest, ?_, ?_⟩) (Bool.eq_false_iff.mp relative)
      · simpa using some
      · rw [cut, empty]
    have own := isSafeComponent_firstComponent? notRoot
    have later : (∀ component ∈ rest.filterMap component?, isSafeComponent component = true) ↔
        ∀ segment ∈ rest, segment ≠ ['.', '.'] := by
      simp only [List.mem_filterMap, ← isSafeComponent_component?]
      constructor
      · intro all segment among component meant
        exact all component ⟨segment, among, meant⟩
      · rintro each component ⟨segment, among, meant⟩
        exact each segment among component meant
    dsimp only
    rw [List.all_append, Bool.and_eq_true, List.all_eq_true, List.all_eq_true, later,
      List.forall_mem_cons, ← own]
    simp only [Option.mem_toList, Option.mem_def]

/-- A sink resolves the names that are relative and never go up, to the path of the name behind that
of its directory. -/
theorem resolve?_eq_some_iff {base name path : String} :
    resolve? base name = some path ↔
      name ≠ "" ∧ isAbsolute name = false ∧ (∀ segment ∈ segments name, segment ≠ ['.', '.']) ∧
        path = join base name := by
  rw [resolve?]
  by_cases absolute : isAbsolute name = true
  · simp [absolute]
  · have relative := Bool.eq_false_iff.mpr absolute
    rw [← isSafe_iff relative, relative]
    by_cases empty : name = ""
    · simp [empty]
    · have notEmpty : name.isEmpty = false := by simpa using empty
      by_cases safe : isSafe name = true
      · simp [notEmpty, safe, empty, eq_comm]
      · simp [safe]

/-- A resolved name leads downwards from where the directory leads. -/
theorem locationOf_resolved {base name path : String} (resolved : resolve? base name = some path)
    (tree : FileTree) :
    tree.locationOf path = tree.locationOf base ++
      ((segments name).filter fun segment => !isSilent segment).map String.ofList := by
  obtain ⟨-, relative, downwards, rfl⟩ := resolve?_eq_some_iff.mp resolved
  rw [tree.locationOf_join base relative, FileTree.along_downwards downwards]

end AssetSink

end FigureForm
