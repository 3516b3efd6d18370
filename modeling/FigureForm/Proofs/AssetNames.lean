/-
# Names below a directory

What the sink below a directory makes of a name, said of paths alone.  The steps of a path are its
components without dots; a name is taken exactly when it is relative and has no segment of two dots,
and then it only adds its own names to the steps of the directory.  Nothing is said of links, which
paths do not show.
-/

import FigureForm.Asset.Icons
import FigureForm.Proofs.AssetPaths
import FigureForm.Proofs.PathComponents

open FigureForm.Path

namespace FigureForm

namespace Path

/-- What a path says, without the dots that say nothing. -/
def steps (path : String) : List Component :=
  (components path).filter fun component => component ≠ .current

/-- But for dots, what says something at the start of a path does so anywhere. -/
theorem filter_spoken (path : String) :
    (spoken path).filter (· ≠ ['.']) = ((segments path).filter (· ≠ ['.'])).filter (· ≠ []) := by
  rw [spoken]
  cases segments path with
  | nil => rfl
  | cons first rest =>
    dsimp only
    rw [List.filter_comm, List.filter_cons, List.filter_cons, List.filter_filter]
    simp only [Bool.and_self]

/-- The steps of a path are the root, for an absolute one, and what its segments say. -/
theorem steps_eq (path : String) :
    steps path =
      (if isAbsolute path = true then [.root] else []) ++ (segments path).filterMap component? := by
  have told : (fun component => decide (component ≠ .current)) ∘ meaning = (· ≠ ['.']) :=
    funext fun segment => decide_eq_decide.mpr (not_congr meaning_eq_current_iff)
  rw [steps, components_eq, List.filter_append, List.filter_map, told, filter_spoken,
    ← filterMap_component?]
  congr 1
  split <;> rfl

/-- A relative path behind a base adds its steps to those of the base. -/
theorem steps_join (base : String) {path : String} (relative : isAbsolute path = false) :
    steps (join base path) = steps base ++ (segments path).filterMap component? := by
  obtain ⟨front, joined, own⟩ := segments_join base relative
  have same : (segments base).filterMap component? = front.filterMap component? := by
    rcases own with own | own
    · rw [own]
    · rw [own, List.filterMap_append]
      exact List.append_nil _
  rw [steps_eq, isAbsolute_join base relative, joined, List.filterMap_append, ← List.append_assoc,
    ← same, ← steps_eq]

/-- Segments that do not go up say the names among them. -/
theorem filterMap_component?_of_downwards {segments : List (List Char)}
    (downwards : ∀ segment ∈ segments, segment ≠ ['.', '.']) :
    segments.filterMap component? =
      (segments.filter fun segment => !isSilent segment).map fun segment =>
        .name (String.ofList segment) := by
  induction segments with
  | nil => rfl
  | cons segment rest ih =>
    obtain ⟨notUp, later⟩ := List.forall_mem_cons.mp downwards
    by_cases silent : isSilent segment = true
    · rw [List.filterMap_cons, component?, if_pos silent,
        List.filter_cons_of_neg (by simpa using silent)]
      exact ih later
    · rw [List.filterMap_cons, component?, if_neg silent, if_neg notUp,
        List.filter_cons_of_pos (by simpa using silent), List.map_cons]
      exact congrArg _ (ih later)

end Path

namespace AssetSink

/-- The names in an asset name, which are its segments but for silent ones. -/
def namesIn (name : String) : List String :=
  ((segments name).filter fun segment => !isSilent segment).map String.ofList

/-- The file of an icon has a name, whatever the action is called. -/
theorem namesIn_iconFileName_ne_nil (action : Action) : namesIn action.iconFileName ≠ [] := by
  have ends : ['.', 'p', 'n', 'g'] <:+ action.iconFileName.toList := by
    rw [Action.iconFileName, String.toList_append]
    exact List.suffix_append _ _
  have isName := isName_of_suffix 'p' (suffix_lastSegment (by decide) ends) (by decide) (by decide)
  have last : lastSegment action.iconFileName ∈ segments action.iconFileName :=
    List.getLast_mem (segments_ne_nil _)
  have named : lastSegment action.iconFileName ∈
      (segments action.iconFileName).filter fun segment => !isSilent segment :=
    List.mem_filter.mpr ⟨last, by rw [isName.1]; rfl⟩
  exact List.ne_nil_of_mem (List.mem_map_of_mem named)

/-- No name leads out of the directory of a sink.  A name is taken exactly when it is not empty, does
not start with a slash and has no segment of two dots.  The steps of its path are then those of the
directory and behind them the names in it, of which the file of an icon has at least one.  For every
other name nothing is stored: the request is refused as it is, with all files as they are, and
nothing counts as stored there. -/
theorem resolve?_stays_below (base name : String) :
    ((∃ path, resolve? base name = some path) ↔
        name ≠ "" ∧ isAbsolute name = false ∧ ['.', '.'] ∉ segments name) ∧
      (∀ path, resolve? base name = some path →
        steps path = steps base ++ (namesIn name).map .name ∧
        ∀ action : Action, name = action.iconFileName → steps path ≠ steps base) ∧
      (resolve? base name = none → ∀ content tree,
        (directory base).store name content tree = (tree, .error (.leavesDirectory name)) ∧
        (directory base).isStored name tree = false) := by
  refine ⟨?_, fun path resolved => ?_, fun refused content tree => ?_⟩
  · constructor
    · rintro ⟨path, resolved⟩
      obtain ⟨some, relative, downwards, -⟩ := resolve?_eq_some_iff.mp resolved
      exact ⟨some, relative, fun among => downwards _ among rfl⟩
    · rintro ⟨some, relative, notUp⟩
      refine ⟨_, resolve?_eq_some_iff.mpr ⟨some, relative, ?_, rfl⟩⟩
      rintro segment among rfl
      exact notUp among
  · obtain ⟨-, relative, downwards, rfl⟩ := resolve?_eq_some_iff.mp resolved
    have added : steps (join base name) = steps base ++ (namesIn name).map .name := by
      rw [steps_join base relative, filterMap_component?_of_downwards downwards, namesIn,
        List.map_map]
      rfl
    refine ⟨added, ?_⟩
    rintro action rfl same
    rw [added, List.append_right_eq_self, List.map_eq_nil_iff] at same
    exact namesIn_iconFileName_ne_nil action same
  · constructor
    · rw [directory]
      dsimp only
      rw [storeBelow, refused]
    · rw [directory]
      dsimp only
      rw [refused]

/-- Dots inside a name are no steps, and neither are slashes side by side. -/
theorem resolve?_stays_below_dotted :
    resolve? "out/" "./a//..png" = some "out/./a//..png" ∧
      steps "out/./a//..png" = [.name "out", .name "a", .name "..png"] ∧
      steps "out/./a//..png" ≠ steps "out/" ∧
      ∀ content tree, (directory "out/").store "./a/../b.png" content tree =
        (tree, .error (.leavesDirectory "./a/../b.png")) := by
  have resolved : resolve? "out/" "./a//..png" = some "out/./a//..png" := by decide
  have refused : resolve? "out/" "./a/../b.png" = none := by decide
  obtain ⟨added, strictly⟩ := (resolve?_stays_below "out/" "./a//..png").2.1 _ resolved
  refine ⟨resolved, added.trans (by decide), strictly ⟨"./a//.", "", Raster.empty⟩ (by decide),
    fun content tree => ?_⟩
  exact ((resolve?_stays_below "out/" "./a/../b.png").2.2 refused content tree).1

end AssetSink

end FigureForm
