/-
# Components of paths

What a path says, against the paths in front of its last name and behind a name that continues it.
Of the segments only some are `spoken`: empty ones and dots behind the start say nothing
(`components_eq`).  A path with a file name has a parent, which says everything but that name
(`exists_parent_of_fileName?`), and a name behind a path only adds itself (`components_join`).
A file name falls into a stem and an extension at its last dot (`splitName_cases`).
-/

import FigureForm.Proofs.Locations

namespace FigureForm

namespace Pieces

variable {separator : Char}

theorem join_concat {front : List (List Char)} (some : front ≠ []) (last : List Char) :
    join separator (front ++ [last]) = join separator front ++ separator :: last := by
  fun_induction join separator front with
  | case1 => exact absurd rfl some
  | case2 piece => rfl
  | case3 piece next pieces ih =>
    have later := ih (List.cons_ne_nil _ _)
    rw [List.cons_append] at later
    rw [List.cons_append, List.cons_append, join, later, List.append_assoc, List.cons_append]

end Pieces

namespace Path

variable {path name : String}

/-! ## What the segments say -/

/-- The segments that say something.  Empty ones never do, and dots only at the very start. -/
def spoken (path : String) : List (List Char) :=
  match segments path with
  | [] => []
  | first :: rest => (first :: rest.filter (· ≠ ['.'])).filter (· ≠ [])

/-- What a segment says that says something. -/
def meaning (segment : List Char) : Component :=
  if segment = ['.'] then .current
  else if segment = ['.', '.'] then .parent
  else .name (String.ofList segment)

theorem isSilent_iff {segment : List Char} :
    isSilent segment = true ↔ segment = [] ∨ segment = ['.'] := by
  simp [isSilent]

theorem isName_iff {segment : List Char} :
    IsName segment ↔ segment ≠ [] ∧ segment ≠ ['.'] ∧ segment ≠ ['.', '.'] := by
  rw [IsName, Bool.eq_false_iff, ne_eq, isSilent_iff, not_or, and_assoc]

theorem filterMap_component? (segments : List (List Char)) :
    segments.filterMap component? =
      ((segments.filter (· ≠ ['.'])).filter (· ≠ [])).map meaning := by
  induction segments with
  | nil => rfl
  | cons segment rest ih =>
    by_cases silent : isSilent segment = true
    · rw [List.filterMap_cons, component?, if_pos silent, ih]
      rcases isSilent_iff.mp silent with rfl | rfl <;> rfl
    · have told := not_or.mp (mt isSilent_iff.mpr silent)
      have known : component? segment = some (meaning segment) := by
        rw [component?, if_neg silent, meaning, if_neg told.2]
        split <;> rfl
      rw [List.filterMap_cons, known, ih, List.filter_cons_of_pos (by simpa using told.2),
        List.filter_cons_of_pos (by simpa using told.1), List.map_cons]

theorem components_cons {first : List Char} {rest : List (List Char)}
    (cut : segments path = first :: rest) :
    components path = (firstComponent? first (!rest.isEmpty)).toList ++ rest.filterMap component? := by
  rw [components, cut]

/-- What a path says: the root, if it is absolute, and then its spoken segments. -/
theorem components_eq (path : String) :
    components path = (if isAbsolute path = true then [.root] else []) ++ (spoken path).map meaning := by
  cases cut : segments path with
  | nil => exact absurd cut (segments_ne_nil path)
  | cons first rest =>
    rw [components_cons cut, filterMap_component?, spoken, cut]
    dsimp only
    by_cases empty : first = []
    · subst empty
      have absolute : isAbsolute path = !rest.isEmpty := by
        rw [Bool.eq_iff_iff, isAbsolute_iff, cut]
        simp
      rw [absolute, List.filter_cons_of_neg (by simp)]
      cases rest <;> rfl
    · have relative : ¬ isAbsolute path = true := by
        rw [isAbsolute_iff, cut]
        rintro ⟨others, -, same⟩
        exact empty (List.cons.inj same).1
      have known : firstComponent? first (!rest.isEmpty) = some (meaning first) := by
        rw [firstComponent?, if_neg (by simpa using empty), meaning]
        split
        · rfl
        next notDot =>
          rw [component?, if_neg (mt isSilent_iff.mp (by simp [empty, notDot]))]
          split <;> rfl
      rw [if_neg relative, known, List.filter_cons_of_pos (by simpa using empty)]
      rfl

theorem meaning_eq_current_iff {segment : List Char} :
    meaning segment = .current ↔ segment = ['.'] := by
  rw [meaning]
  by_cases isDot : segment = ['.']
  · simp [isDot]
  · by_cases isUp : segment = ['.', '.'] <;> simp [isDot, isUp]

theorem meaning_eq_name_iff {segment : List Char} :
    meaning segment = .name name ↔
      segment ≠ ['.'] ∧ segment ≠ ['.', '.'] ∧ name = String.ofList segment := by
  rw [meaning]
  by_cases isDot : segment = ['.']
  · simp [isDot]
  · by_cases isUp : segment = ['.', '.'] <;> simp [isDot, isUp, eq_comm]

theorem mem_of_mem_spoken {segment : List Char} (among : segment ∈ spoken path) :
    segment ∈ segments path ∧ segment ≠ [] := by
  rw [spoken] at among
  split at among
  next => cases among
  next first rest cut =>
    obtain ⟨inPath, notEmpty⟩ := List.mem_filter.mp among
    rw [cut]
    refine ⟨?_, by simpa using notEmpty⟩
    obtain rfl | later := List.mem_cons.mp inPath
    · exact List.mem_cons_self
    · exact List.mem_cons_of_mem _ (List.mem_filter.mp later).1

/-- A path has no file name exactly when nothing is spoken, or last a dot or two dots. -/
theorem fileName?_eq_none_iff :
    fileName? path = none ↔ (spoken path).getLast? = none ∨ (spoken path).getLast? = some ['.'] ∨
      (spoken path).getLast? = some ['.', '.'] := by
  rw [fileName?, components_eq, List.getLast?_append, List.getLast?_map]
  cases (spoken path).getLast? with
  | none => by_cases absolute : isAbsolute path = true <;> simp [absolute]
  | some segment =>
    rw [Option.map_some, Option.some_or, meaning]
    by_cases isDot : segment = ['.']
    · simp [isDot]
    · by_cases isUp : segment = ['.', '.'] <;> simp [isDot, isUp]

theorem getLast?_components (named : fileName? path = some name) :
    (components path).getLast? = some (.name name) := by
  rw [fileName?] at named
  split at named
  next text last =>
    cases named
    exact last
  next => cases named

/-! ## The path in front of a file name -/

/-- Silent segments at the end say nothing. -/
theorem filterMap_dropSilent (segments : List (List Char)) :
    (dropSilent segments.reverse).reverse.filterMap component? = segments.filterMap component? := by
  obtain ⟨silentEnd, cut, silent⟩ := exists_silent_end segments
  have nothing : silentEnd.filterMap component? = [] := by
    refine List.filterMap_eq_nil_iff.mpr fun segment among => ?_
    rw [component?, if_pos (silent segment among)]
  conv_rhs => rw [cut, List.filterMap_append, nothing, List.append_nil]

theorem firstComponent?_of_ne_nil {first : List Char} (some : first ≠ []) (slash : Bool) :
    firstComponent? first slash = firstComponent? first true := by
  have notEmpty : ¬ first.isEmpty = true := by simpa using some
  rw [firstComponent?, firstComponent?, if_neg notEmpty, if_neg notEmpty]

/-- What a path of a first segment and later ones says. -/
theorem components_ofReversed {first : List Char} {above : List (List Char)}
    (without : ∀ segment ∈ first :: above, '/' ∉ segment) :
    components (ofReversed first (dropSilent above.reverse)) =
      (firstComponent? first true).toList ++ above.filterMap component? := by
  rw [← filterMap_dropSilent above]
  by_cases root : first.isEmpty ∧ (dropSilent above.reverse).isEmpty
  · rw [ofReversed, if_pos root, List.isEmpty_iff.mp root.1, List.isEmpty_iff.mp root.2]
    rfl
  · have cut : segments (ofReversed first (dropSilent above.reverse)) =
        first :: (dropSilent above.reverse).reverse :=
      segments_ofReversed without root
    rw [components_cons cut]
    by_cases empty : first = []
    · have some : (!(dropSilent above.reverse).reverse.isEmpty) = true := by
        simpa [empty] using root
      rw [some]
    · rw [firstComponent?_of_ne_nil empty]

/-- A path with a file name has a parent, which says everything but that name. -/
theorem exists_parent_of_fileName? (named : fileName? path = some name) :
    ∃ parent, parent? path = some parent ∧ components path = components parent ++ [.name name] := by
  have last := getLast?_components named
  cases cut : segments path with
  | nil => exact absurd cut (segments_ne_nil path)
  | cons first rest =>
    rw [components_cons cut] at last ⊢
    rw [parent?, cut]
    dsimp only
    have told := filterMap_dropSilent rest
    cases kept : dropSilent rest.reverse with
    | nil =>
      -- Only the first segment says anything, so that it is the name.
      rw [kept, List.reverse_nil, List.filterMap_nil] at told
      rw [← told, List.append_nil] at last ⊢
      have notEmpty : ¬ first.isEmpty = true := by
        intro empty
        rw [firstComponent?, if_pos empty] at last
        split at last <;> cases last
      cases said : firstComponent? first (!rest.isEmpty) with
      | none =>
        rw [said] at last
        cases last
      | some component =>
        rw [said] at last
        cases last
        exact ⟨"", if_neg notEmpty, rfl⟩
    | cons segment above =>
      have speaks : ¬ isSilent segment = true := by
        have head := List.head?_dropWhile_not isSilent rest.reverse
        rw [← dropSilent, kept] at head
        exact Bool.eq_false_iff.mp head
      rw [kept, List.reverse_cons, List.filterMap_append] at told
      rw [← told, ← List.append_assoc] at last ⊢
      obtain ⟨component, meant⟩ : ∃ component, component? segment = some component := by
        rw [component?, if_neg speaks]
        split <;> exact ⟨_, rfl⟩
      have alone : [segment].filterMap component? = [component] := List.filterMap_cons_some meant
      rw [alone, List.getLast?_concat] at last
      obtain rfl := Option.some.inj last
      have inRest : ∀ other ∈ above.reverse, other ∈ rest := by
        intro other among
        have inKept : other ∈ dropSilent rest.reverse := by
          rw [kept]
          exact List.mem_cons_of_mem _ (List.mem_reverse.mp among)
        exact List.mem_reverse.mp ((List.dropWhile_sublist isSilent).subset inKept)
      have without : ∀ other ∈ first :: above.reverse, '/' ∉ other := by
        intro other among
        have inPath : other ∈ segments path := by
          rw [cut]
          exact List.cons_subset_cons first inRest among
        exact Pieces.not_mem_of_mem_split inPath
      have slash : (!rest.isEmpty) = true := by
        cases rest with
        | nil => cases kept
        | cons => rfl
      have said := components_ofReversed without
      rw [List.reverse_reverse] at said
      exact ⟨_, rfl, by rw [said, alone, slash]⟩

/-! ## A name behind a path -/

/-- Whether a text is a name in one piece, as it can stand behind a slash. -/
def IsPlainName (name : String) : Prop :=
  '/' ∉ name.toList ∧ IsName name.toList

namespace IsPlainName

variable (plain : IsPlainName name)
include plain

theorem segments_eq : segments name = [name.toList] :=
  Pieces.split_of_not_mem plain.1

theorem not_isAbsolute : isAbsolute name = false := by
  rw [Bool.eq_false_iff]
  intro absolute
  obtain ⟨rest, some, cut⟩ := isAbsolute_iff.mp absolute
  rw [plain.segments_eq] at cut
  exact some (List.cons.inj cut).2.symm

theorem meaning_eq : meaning name.toList = .name name := by
  obtain ⟨-, notDot, notUp⟩ := isName_iff.mp plain.2
  exact meaning_eq_name_iff.mpr ⟨notDot, notUp, String.ofList_toList.symm⟩

theorem spoken_join (base : String) : spoken (join base name) = spoken base ++ [name.toList] := by
  obtain ⟨notEmpty, notDot, -⟩ := isName_iff.mp plain.2
  obtain ⟨front, joined, inFront⟩ := segments_join base plain.not_isAbsolute
  rw [plain.segments_eq] at joined
  rw [spoken, joined, spoken]
  cases front with
  | nil =>
    rcases inFront with none | isEmpty
    · exact absurd none (segments_ne_nil base)
    · rw [isEmpty]
      simp [notEmpty]
  | cons first more =>
    by_cases empty : first = []
    · rcases inFront with same | isEmpty
      · simp [same, empty, notEmpty, notDot]
      · simp [isEmpty, empty, notEmpty, notDot]
    · rcases inFront with same | isEmpty
      · simp [same, empty, notEmpty, notDot]
      · simp [isEmpty, empty, notEmpty, notDot]

/-- A name behind a path adds itself to what the path says. -/
theorem components_join (base : String) :
    components (join base name) = components base ++ [.name name] := by
  rw [components_eq, components_eq, isAbsolute_join base plain.not_isAbsolute, plain.spoken_join,
    List.map_append, List.map_singleton, plain.meaning_eq, List.append_assoc]

end IsPlainName

/-- A file name is in one piece. -/
theorem isPlainName_of_fileName? (named : fileName? path = some name) : IsPlainName name := by
  have last := getLast?_components named
  rw [components_eq, List.getLast?_append, List.getLast?_map] at last
  cases told : (spoken path).getLast? with
  | none =>
    rw [told, Option.map_none, Option.none_or] at last
    split at last <;> cases last
  | some segment =>
    rw [told, Option.map_some, Option.some_or, Option.some_inj, meaning_eq_name_iff] at last
    obtain ⟨notDot, notUp, rfl⟩ := last
    obtain ⟨inPath, notEmpty⟩ := mem_of_mem_spoken (List.mem_of_getLast? told)
    rw [IsPlainName, String.toList_ofList]
    exact ⟨Pieces.not_mem_of_mem_split inPath, isName_iff.mpr ⟨notEmpty, notDot, notUp⟩⟩

theorem fileName?_of_components {front : List Component}
    (said : components path = front ++ [.name name]) : fileName? path = some name := by
  rw [fileName?, said, List.getLast?_concat]

/-- A last segment that is a name is the last one spoken. -/
theorem getLast?_spoken (isName : IsName (lastSegment path)) :
    (spoken path).getLast? = some (lastSegment path) := by
  obtain ⟨notEmpty, notDot, -⟩ := isName_iff.mp isName
  have whole := segments_eq path
  rw [spoken]
  cases cut : segments path with
  | nil => exact absurd cut (segments_ne_nil path)
  | cons first rest =>
    rw [cut] at whole
    dsimp only
    obtain rfl | ⟨above, segment, rfl⟩ := List.eq_nil_or_concat rest
    · obtain rfl : first = lastSegment path := by simpa using whole
      simp [notEmpty]
    · obtain rfl : segment = lastSegment path := by
        rw [List.concat_eq_append, ← List.cons_append, List.dropLast_concat] at whole
        exact List.singleton_inj.mp (List.append_cancel_left whole)
      have kept : (first :: (above.concat (lastSegment path)).filter (· ≠ ['.'])).filter (· ≠ []) =
          (first :: above.filter (· ≠ ['.'])).filter (· ≠ []) ++ [lastSegment path] := by
        by_cases empty : first = [] <;> simp [empty, notEmpty, notDot]
      rw [kept, List.getLast?_concat]

theorem fileName?_of_isName (isName : IsName (lastSegment path)) :
    fileName? path = some (String.ofList (lastSegment path)) := by
  obtain ⟨-, notDot, notUp⟩ := isName_iff.mp isName
  rw [fileName?, components_eq, List.getLast?_append, List.getLast?_map, getLast?_spoken isName,
    Option.map_some, meaning_eq_name_iff.mpr ⟨notDot, notUp, rfl⟩, Option.some_or]

/-! ## Stems and extensions -/

/-- A name is its own stem, or it is a stem, a dot and an extension without dots. -/
theorem splitName_cases (name : String) :
    splitName name = (name, none) ∨
      ∃ stem extension, splitName name = (stem, some extension) ∧ stem ≠ "" ∧
        name = stem ++ "." ++ extension ∧ '.' ∉ extension.toList := by
  have some := Pieces.split_ne_nil '.' name.toList
  have whole := List.dropLast_append_getLast some
  have joined := Pieces.join_split '.' name.toList
  rw [splitName]
  split
  next => exact .inl rfl
  next stemmed =>
    have front : (Pieces.split '.' name.toList).dropLast ≠ [] := by
      intro none
      rw [none] at stemmed
      exact stemmed rfl
    rw [← whole, Pieces.join_concat front] at joined
    rw [List.getLast?_eq_some_getLast some, Option.map_some]
    refine .inr ⟨_, _, rfl, ?_, ?_, ?_⟩
    · simpa [← String.toList_inj] using stemmed
    · rw [← String.toList_inj]
      simp [joined]
    · rw [String.toList_ofList]
      exact Pieces.not_mem_of_mem_split (List.getLast_mem some)

end Path

end FigureForm
