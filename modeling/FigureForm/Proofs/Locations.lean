/-
# Where paths lead

In a tree without links a path leads to a location that its segments alone decide: names go down,
two dots go up, and silent segments stay.  `locationOf` says so without looking at what stands on the
way, and whenever the walk through the tree succeeds it ends there (`eq_along_of_walk`).  So the
location of a continued path follows from the path in front (`locationOf_join`), and the parent of a
path that ends in a name leads to the directory of that name (`exists_parent`).
-/

import FigureForm.Proofs.Segments
import FigureForm.Storage.FileTree

open FigureForm.Path

namespace FigureForm

namespace Path

/-- The last segment of a path. -/
def lastSegment (path : String) : List Char :=
  (segments path).getLast (segments_ne_nil path)

/-- Whether a segment is the name of an entry in a directory. -/
def IsName (segment : List Char) : Prop :=
  isSilent segment = false ∧ segment ≠ ['.', '.']

theorem segments_eq (path : String) :
    segments path = (segments path).dropLast ++ [lastSegment path] :=
  (List.dropLast_append_getLast (segments_ne_nil path)).symm

theorem getLast?_segments (path : String) : (segments path).getLast? = some (lastSegment path) :=
  List.getLast?_eq_some_getLast (segments_ne_nil path)

/-- Segments without the silent ones at their end, and those. -/
theorem exists_silent_end (segments : List (List Char)) :
    ∃ silentEnd, segments = (dropSilent segments.reverse).reverse ++ silentEnd ∧
      ∀ segment ∈ silentEnd, isSilent segment = true := by
  refine ⟨(segments.reverse.takeWhile isSilent).reverse, ?_, fun segment among => ?_⟩
  · rw [dropSilent, ← List.reverse_append, List.takeWhile_append_dropWhile, List.reverse_reverse]
  · exact List.all_eq_true.mp List.all_takeWhile _ (List.mem_reverse.mp among)

/-- The segments of a path that was put together from a first segment and later ones. -/
theorem segments_ofReversed {first : List Char} {above : List (List Char)}
    (without : ∀ segment ∈ first :: above, '/' ∉ segment)
    (notRoot : ¬ (first.isEmpty ∧ (dropSilent above.reverse).isEmpty)) :
    segments (ofReversed first (dropSilent above.reverse)) =
      first :: (dropSilent above.reverse).reverse := by
  rw [ofReversed, if_neg notRoot]
  refine segments_ofSegments (List.cons_ne_nil _ _) fun segment among => ?_
  obtain rfl | later := List.mem_cons.mp among
  · exact without segment List.mem_cons_self
  · have kept := (List.dropWhile_sublist isSilent).subset (List.mem_reverse.mp later)
    exact without segment (List.mem_cons_of_mem _ (List.mem_reverse.mp kept))

/-- A segment with an ending in which there is more than dots is a name. -/
theorem isName_of_suffix {segment ending : List Char} (c : Char) (ends : ending <:+ segment)
    (among : c ∈ ending) (notDot : c ≠ '.') : IsName segment := by
  have inside : c ∈ segment := ends.subset among
  constructor
  · rw [isSilent, Bool.or_eq_false_iff]
    constructor
    · exact List.isEmpty_eq_false_iff.mpr (List.ne_nil_of_mem inside)
    · apply beq_eq_false_iff_ne.mpr
      rintro rfl
      exact notDot (List.mem_singleton.mp inside)
  · rintro rfl
    simp [notDot] at inside

end Path

namespace FileTree

/-- Where segments lead from a location, whatever stands there. -/
def along (location : Location) : List (List Char) → Location
  | [] => location
  | segment :: rest =>
    if isSilent segment then along location rest
    else if segment = ['.', '.'] then along location.dropLast rest
    else along (location ++ [String.ofList segment]) rest

/-- Where a path leads, whatever stands there. -/
def locationOf (tree : FileTree) (path : String) : Location :=
  along (tree.startOf path) (segments path)

theorem along_append (location : Location) (first second : List (List Char)) :
    along location (first ++ second) = along (along location first) second := by
  induction first generalizing location with
  | nil => rfl
  | cons segment rest ih =>
    rw [List.cons_append, along, along]
    split
    · exact ih location
    · split
      · exact ih location.dropLast
      · exact ih (location ++ [String.ofList segment])

theorem along_name {segment : List Char} (isName : IsName segment) (location : Location) :
    along location [segment] = location ++ [String.ofList segment] := by
  rw [along, isName.1, if_neg Bool.false_ne_true, if_neg isName.2, along]

/-- Segments whose last is a name lead to the entry of that name where the others lead. -/
theorem along_segments {path : String} (isName : IsName (lastSegment path)) (location : Location) :
    along location (segments path) = along location (segments path).dropLast ++
      [String.ofList (lastSegment path)] := by
  conv_lhs => rw [segments_eq, along_append, along_name isName]

theorem along_silent {segments : List (List Char)} (silent : ∀ segment ∈ segments, isSilent segment)
    (location : Location) : along location segments = location := by
  induction segments with
  | nil => rfl
  | cons segment rest ih =>
    rw [along, if_pos (silent segment List.mem_cons_self)]
    exact ih fun other among => silent other (List.mem_cons_of_mem _ among)

/-- Silent segments at the end lead nowhere else. -/
theorem along_dropSilent (segments : List (List Char)) (location : Location) :
    along location (dropSilent segments.reverse).reverse = along location segments := by
  obtain ⟨silentEnd, cut, silent⟩ := exists_silent_end segments
  conv_rhs => rw [cut, along_append, along_silent silent]

/-- Segments none of which is two dots lead downwards, through the names among them. -/
theorem along_downwards {segments : List (List Char)}
    (downwards : ∀ segment ∈ segments, segment ≠ ['.', '.']) (location : Location) :
    along location segments =
      location ++ (segments.filter fun segment => !isSilent segment).map String.ofList := by
  induction segments generalizing location with
  | nil => rw [along, List.filter_nil, List.map_nil, List.append_nil]
  | cons segment rest ih =>
    have later := ih fun other among => downwards other (List.mem_cons_of_mem _ among)
    rw [along]
    by_cases silent : isSilent segment = true
    · rw [if_pos silent, List.filter_cons_of_neg (by simpa using silent), later]
    · rw [if_neg silent, if_neg (downwards segment List.mem_cons_self),
        List.filter_cons_of_pos (by simpa using silent), later, List.map_cons, List.append_assoc]
      rfl

/-- A walk that succeeds ends where the segments lead. -/
theorem eq_along_of_walk {tree : FileTree} {location found : Location}
    {segments : List (List Char)} (walked : tree.walk location segments = .ok found) :
    found = along location segments := by
  induction segments generalizing location with
  | nil => exact (Except.ok.inj walked).symm
  | cons segment rest ih =>
    rw [walk] at walked
    rw [along]
    split
    next silent =>
      rw [if_pos silent] at walked
      exact ih walked
    next notSilent =>
      rw [if_neg notSilent] at walked
      split
      next isUp =>
        rw [if_pos isUp] at walked
        exact ih walked
      next notUp =>
        rw [if_neg notUp] at walked
        dsimp only at walked
        cases looked : tree.lookup location (String.ofList segment) with
        | error fault =>
          rw [looked] at walked
          cases walked
        | ok entry =>
          rw [looked] at walked
          cases entry with
          | directory => exact ih walked
          | file content => cases walked

variable (tree : FileTree)

/-- A path starts at the root exactly when an empty segment stands in front of another one. -/
theorem startOf_eq {path : String} {first : List Char} {rest : List (List Char)}
    (cut : segments path = first :: rest) :
    tree.startOf path = if first = [] ∧ rest ≠ [] then [] else tree.workingDirectory := by
  have absolute : isAbsolute path = true ↔ first = [] ∧ rest ≠ [] := by
    rw [isAbsolute_iff, cut]
    constructor
    · rintro ⟨rest, some, same⟩
      cases same
      exact ⟨rfl, some⟩
    · rintro ⟨rfl, some⟩
      exact ⟨rest, some, rfl⟩
  by_cases isAbsolute : isAbsolute path = true
  · rw [startOf, if_pos isAbsolute, if_pos (absolute.mp isAbsolute)]
  · rw [startOf, if_neg isAbsolute, if_neg fun both => isAbsolute (absolute.mpr both)]

theorem locationOf_of_isName {path : String} (isName : IsName (lastSegment path)) :
    tree.locationOf path = along (tree.startOf path) (segments path).dropLast ++
      [String.ofList (lastSegment path)] :=
  along_segments isName _

theorem locationOf_ne_nil {path : String} (isName : IsName (lastSegment path)) :
    tree.locationOf path ≠ [] := by
  rw [tree.locationOf_of_isName isName]
  exact List.append_ne_nil_of_right_ne_nil _ (List.cons_ne_nil _ _)

/-- A relative path behind a directory leads where its segments lead from there. -/
theorem locationOf_join (base : String) {path : String} (relative : isAbsolute path = false) :
    tree.locationOf (join base path) = along (tree.locationOf base) (segments path) := by
  obtain ⟨front, joined, own⟩ := segments_join base relative
  have start : tree.startOf (join base path) = tree.startOf base := by
    rw [startOf, isAbsolute_join base relative, startOf]
  rw [locationOf, start, joined, along_append, locationOf]
  rcases own with own | own
  · rw [own]
  · rw [own, along_append]
    rfl

/-- Where a path of a first segment and later ones leads. -/
theorem locationOf_ofReversed {first : List Char} {above : List (List Char)}
    (without : ∀ segment ∈ first :: above, '/' ∉ segment) :
    tree.locationOf (ofReversed first (dropSilent above.reverse)) =
      along (if first = [] then [] else tree.workingDirectory) (first :: above) := by
  have trimmed (location : Location) :
      along location (first :: (dropSilent above.reverse).reverse) =
        along location (first :: above) := by
    rw [along, along, along_dropSilent, along_dropSilent, along_dropSilent]
  rw [← trimmed]
  by_cases root : first.isEmpty ∧ (dropSilent above.reverse).isEmpty
  · rw [ofReversed, if_pos root, List.isEmpty_iff.mp root.1, List.isEmpty_iff.mp root.2]
    rfl
  · have cut := segments_ofReversed without root
    rw [locationOf, tree.startOf_eq cut, cut]
    by_cases empty : first = []
    · have some : (dropSilent above.reverse).reverse ≠ [] := by
        intro none
        exact root ⟨List.isEmpty_iff.mpr empty, List.isEmpty_iff.mpr (by simpa using none)⟩
      rw [if_pos ⟨empty, some⟩, if_pos empty]
    · rw [if_neg fun both => empty both.1, if_neg empty]

/-- A path that ends in a name has a parent, which leads to the directory of that name. -/
theorem exists_parent {path : String} (isName : IsName (lastSegment path)) :
    ∃ parent, parent? path = some parent ∧
      tree.locationOf parent = along (tree.startOf path) (segments path).dropLast := by
  have whole := segments_eq path
  cases cut : segments path with
  | nil => exact absurd cut (segments_ne_nil path)
  | cons first rest =>
    rw [cut] at whole
    rw [parent?, cut]
    dsimp only
    obtain rfl | ⟨above, last, rfl⟩ := List.eq_nil_or_concat rest
    · have isLast : first = lastSegment path := by simpa using whole
      have notEmpty : first.isEmpty = false := by
        rw [isLast]
        exact (Bool.or_eq_false_iff.mp isName.1).1
      refine ⟨"", ?_, ?_⟩
      · rw [List.reverse_nil, dropSilent, List.dropWhile_nil, notEmpty]
        rfl
      · rw [tree.startOf_eq cut, if_neg fun both => both.2 rfl]
        rfl
    · have isLast : last = lastSegment path := by
        rw [List.concat_eq_append, ← List.cons_append, List.dropLast_concat] at whole
        exact List.singleton_inj.mp (List.append_cancel_left whole)
      have notSilent : isSilent last = false := by
        rw [isLast]
        exact isName.1
      refine ⟨ofReversed first (dropSilent above.reverse), ?_, ?_⟩
      · rw [List.concat_eq_append, List.reverse_append, List.reverse_singleton, List.singleton_append,
          dropSilent, List.dropWhile_cons_of_neg (by simpa using notSilent)]
      · have without : ∀ segment ∈ first :: above, '/' ∉ segment := by
          intro segment among
          have inPath : segment ∈ segments path := by
            rw [cut, List.concat_eq_append, ← List.cons_append]
            exact List.mem_append_left _ among
          exact Pieces.not_mem_of_mem_split inPath
        rw [tree.locationOf_ofReversed without, tree.startOf_eq cut, List.concat_eq_append,
          ← List.cons_append, List.dropLast_concat]
        by_cases empty : first = []
        · rw [if_pos empty, if_pos ⟨empty, by simp⟩]
        · rw [if_neg empty, if_neg fun both => empty both.1]

end FileTree

end FigureForm
