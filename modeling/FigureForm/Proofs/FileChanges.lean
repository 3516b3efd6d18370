/-
# Changes of file trees

What a file operation may change: directories may appear where nothing was, and files may be written
at given locations where no directory is.  `ChangesOnly` says that nothing else is different; it holds
across any number of operations, and a walk that succeeds before such changes leads to the same place
after them.  Making directories writes no file at all, and writing a file writes the one at the
location of its path, which reads back.
-/

import FigureForm.Proofs.Locations
import FigureForm.Proofs.Outcome

open FigureForm.Path

namespace FigureForm

/-- What may become of what stands at a location, where a file may be written or not. -/
inductive FileEntry.Becomes (writable : Prop) : Option FileEntry → Option FileEntry → Prop
  | kept (entry : Option FileEntry) : Becomes writable entry entry
  | made : Becomes writable none (some .directory)
  | written (allowed : writable) {before : Option FileEntry} (content : ByteArray)
      (notDirectory : before ≠ some .directory) : Becomes writable before (some (.file content))

namespace FileEntry.Becomes

variable {writable : Prop} {before between after : Option FileEntry}

theorem trans (first : Becomes writable before between)
    (second : Becomes writable between after) : Becomes writable before after := by
  cases second with
  | kept => exact first
  | made =>
    cases first with
    | kept => exact .made
  | written allowed content notDirectory =>
    cases first with
    | kept => exact .written allowed content notDirectory
    | made => exact absurd rfl notDirectory
    | written _ _ earlier => exact .written allowed content earlier

theorem mono {other : Prop} (wider : writable → other) (becomes : Becomes writable before after) :
    Becomes other before after := by
  cases becomes with
  | kept => exact .kept _
  | made => exact .made
  | written allowed content notDirectory => exact .written (wider allowed) content notDirectory

/-- A directory stays one. -/
theorem of_directory (becomes : Becomes writable (some .directory) after) :
    after = some .directory := by
  cases becomes with
  | kept => rfl
  | written _ _ notDirectory => exact absurd rfl notDirectory

/-- A file that may not be written stays as it is. -/
theorem of_file {content : ByteArray} (spared : ¬ writable)
    (becomes : Becomes writable (some (.file content)) after) : after = some (.file content) := by
  cases becomes with
  | kept => rfl
  | written allowed _ _ => exact absurd allowed spared

end FileEntry.Becomes

namespace FileTree

theorem lookup_eq_ok_iff {tree : FileTree} {location : Location} {name : String}
    {entry : FileEntry} :
    tree.lookup location name = .ok entry ↔
      name.utf8ByteSize ≤ longestName ∧ tree.get? (location ++ [name]) = some entry := by
  rw [lookup]
  by_cases long : longestName < name.utf8ByteSize
  · rw [if_pos long]
    simp [Nat.not_le.mpr long]
  · rw [if_neg long]
    cases tree.get? (location ++ [name]) <;> simp [Nat.not_lt.mp long]

theorem lookup_eq_notFound {tree : FileTree} {location : Location} {name : String}
    (missing : tree.lookup location name = .error .notFound) :
    name.utf8ByteSize ≤ longestName ∧ tree.get? (location ++ [name]) = none := by
  rw [lookup] at missing
  by_cases long : longestName < name.utf8ByteSize
  · rw [if_pos long] at missing
    cases missing
  · rw [if_neg long] at missing
    cases there : tree.get? (location ++ [name]) with
    | none => exact ⟨Nat.not_lt.mp long, rfl⟩
    | some entry =>
      rw [there] at missing
      cases missing

theorem target_eq_ok_iff {tree : FileTree} {path : String} {segments : List (List Char)}
    {target : Target} :
    tree.target path segments = .ok target ↔
      checkPath path = .ok () ∧
        tree.walk (tree.startOf path) segments.dropLast = .ok target.directory ∧
        target.segment = segments.getLast?.getD [] := by
  rw [FileTree.target]
  simp only [bind_eq_ok_iff]
  constructor
  · rintro ⟨⟨⟩, checked, directory, walked, same⟩
    cases same
    exact ⟨checked, walked, rfl⟩
  · rintro ⟨checked, walked, same⟩
    refine ⟨(), checked, target.directory, walked, ?_⟩
    rw [← same]
    rfl

theorem Target.isName_iff {target : Target} : target.isName = true ↔ IsName target.segment := by
  simp [Target.isName, IsName]

/-- A path reads as a file exactly when its last segment is the name of a file in the directory in
front of it. -/
theorem read_eq_ok_iff {tree : FileTree} {path : String} {content : ByteArray} :
    tree.read path = .ok content ↔
      checkPath path = .ok () ∧ IsName (lastSegment path) ∧
        ∃ directory, tree.walk (tree.startOf path) (segments path).dropLast = .ok directory ∧
          tree.lookup directory (String.ofList (lastSegment path)) = .ok (.file content) := by
  rw [FileTree.read, entryAt]
  simp only [bind_eq_ok_iff, target_eq_ok_iff, getLast?_segments, Option.getD_some]
  constructor
  · rintro ⟨entry, ⟨⟨directory, segment⟩, ⟨checked, walked, same⟩, found⟩, isFile⟩
    dsimp only at same walked
    subst same
    cases entry with
    | directory => cases isFile
    | file other =>
      cases isFile
      by_cases isName : Target.isName ⟨directory, lastSegment path⟩ = true
      · rw [if_pos isName] at found
        exact ⟨checked, Target.isName_iff.mp isName, directory, walked, found⟩
      · rw [if_neg isName] at found
        cases found
  · rintro ⟨checked, isName, directory, walked, found⟩
    refine ⟨.file content, ⟨⟨directory, lastSegment path⟩, ⟨checked, walked, rfl⟩, ?_⟩, rfl⟩
    have named : Target.isName ⟨directory, lastSegment path⟩ = true := Target.isName_iff.mpr isName
    rw [if_pos named]
    exact found

/-- Whether one tree becomes another one by making directories and writing files, the files at
writable locations only. -/
structure ChangesOnly (writable : Location → Prop) (before after : FileTree) : Prop where
  workingDirectory : after.workingDirectory = before.workingDirectory
  entry : ∀ location,
    FileEntry.Becomes (writable location) (before.get? location) (after.get? location)

namespace ChangesOnly

variable {writable : Location → Prop} {before between after : FileTree}

theorem refl (writable : Location → Prop) (tree : FileTree) : ChangesOnly writable tree tree :=
  ⟨rfl, fun _ => .kept _⟩

theorem trans (first : ChangesOnly writable before between)
    (second : ChangesOnly writable between after) : ChangesOnly writable before after :=
  ⟨second.workingDirectory.trans first.workingDirectory,
    fun location => (first.entry location).trans (second.entry location)⟩

theorem mono {others : Location → Prop} (wider : ∀ location, writable location → others location)
    (changes : ChangesOnly writable before after) : ChangesOnly others before after :=
  ⟨changes.workingDirectory, fun location => (changes.entry location).mono (wider location)⟩

section

variable (changes : ChangesOnly writable before after)
include changes

theorem startOf (path : String) : after.startOf path = before.startOf path := by
  rw [FileTree.startOf, changes.workingDirectory, FileTree.startOf]

theorem locationOf (path : String) : after.locationOf path = before.locationOf path := by
  rw [FileTree.locationOf, changes.startOf, FileTree.locationOf]

theorem lookup_directory {location : Location} {name : String}
    (found : before.lookup location name = .ok .directory) :
    after.lookup location name = .ok .directory := by
  obtain ⟨short, there⟩ := lookup_eq_ok_iff.mp found
  have stays := changes.entry (location ++ [name])
  rw [there] at stays
  exact lookup_eq_ok_iff.mpr ⟨short, stays.of_directory⟩

theorem lookup_file {location : Location} {name : String} {content : ByteArray}
    (spared : ¬ writable (location ++ [name]))
    (found : before.lookup location name = .ok (.file content)) :
    after.lookup location name = .ok (.file content) := by
  obtain ⟨short, there⟩ := lookup_eq_ok_iff.mp found
  have stays := changes.entry (location ++ [name])
  rw [there] at stays
  exact lookup_eq_ok_iff.mpr ⟨short, stays.of_file spared⟩

/-- A walk that succeeded before leads to the same place after. -/
theorem walk {location found : Location} {segments : List (List Char)}
    (walked : before.walk location segments = .ok found) :
    after.walk location segments = .ok found := by
  induction segments generalizing location with
  | nil => exact walked
  | cons segment rest ih =>
    rw [FileTree.walk] at walked ⊢
    split
    next silent =>
      rw [if_pos silent] at walked
      exact ih walked
    next notSilent =>
      rw [if_neg notSilent] at walked
      split
      next isUp =>
        rw [if_pos isUp] at walked
        exact ih walked
      next notUp =>
        rw [if_neg notUp] at walked
        obtain ⟨entry, looked, further⟩ := bind_eq_ok_iff.mp walked
        cases entry with
        | file content => cases further
        | directory =>
          show (after.lookup location (String.ofList segment) >>= _) = _
          rw [changes.lookup_directory looked]
          exact ih further

/-- A file that may not be written reads the same after. -/
theorem read {path : String} {content : ByteArray} (spared : ¬ writable (before.locationOf path))
    (readable : before.read path = .ok content) : after.read path = .ok content := by
  obtain ⟨checked, isName, directory, walked, found⟩ := read_eq_ok_iff.mp readable
  rw [before.locationOf_of_isName isName, ← eq_along_of_walk walked] at spared
  rw [← changes.startOf] at walked
  exact read_eq_ok_iff.mpr
    ⟨checked, isName, directory, changes.walk walked, changes.lookup_file spared found⟩

end

end ChangesOnly

/-! ## Making directories -/

section

variable {tree : FileTree} (writable : Location → Prop)

theorem changesOnly_set_directory {location : Location} (notRoot : location ≠ [])
    (free : tree.get? location = none) :
    ChangesOnly writable tree (tree.set location .directory) where
  workingDirectory := rfl
  entry other := by
    rw [get?_set tree notRoot]
    split
    next same =>
      rw [← same, free]
      exact .made
    next => exact .kept _

theorem changesOnly_set_file {location : Location} (notRoot : location ≠ [])
    (allowed : writable location) (notDirectory : tree.get? location ≠ some .directory)
    (content : ByteArray) : ChangesOnly writable tree (tree.set location (.file content)) where
  workingDirectory := rfl
  entry other := by
    rw [get?_set tree notRoot]
    split
    next same =>
      subst same
      exact .written allowed content notDirectory
    next => exact .kept _

theorem Target.location_ne_nil (target : Target) : target.location ≠ [] :=
  List.append_ne_nil_of_right_ne_nil _ (List.cons_ne_nil _ _)

theorem changesOnly_makeDirectory {path : String} {extended : FileTree}
    (made : tree.makeDirectory path = .ok extended) : ChangesOnly writable tree extended := by
  obtain ⟨target, -, further⟩ := bind_eq_ok_iff.mp made
  split at further
  · cases looked : tree.lookup target.directory target.name with
    | ok entry =>
      rw [looked] at further
      cases further
    | error fault =>
      rw [looked] at further
      cases fault with
      | notFound =>
        cases further
        exact changesOnly_set_directory writable target.location_ne_nil
          (lookup_eq_notFound looked).2
      | _ => cases further
  · cases further

theorem changesOnly_ensureDirectory (tree : FileTree) (path : String) :
    ChangesOnly writable tree (tree.ensureDirectory path).1 := by
  rw [ensureDirectory]
  cases made : tree.makeDirectory path with
  | ok extended => exact changesOnly_makeDirectory writable made
  | error fault => exact .refl writable tree

theorem changesOnly_makeDirectoriesTo (tree : FileTree) (first : List Char)
    (above : List (List Char)) :
    ChangesOnly writable tree (tree.makeDirectoriesTo first above).1 := by
  induction above with
  | nil => exact changesOnly_ensureDirectory writable tree _
  | cons segment above ih =>
    rw [makeDirectoriesTo]
    split
    · exact ih
    · dsimp only
      split
      · split
        next extended made =>
          rw [made] at ih
          exact ih.trans (changesOnly_ensureDirectory writable extended _)
        next => exact ih
      · exact changesOnly_ensureDirectory writable tree _

/-- Making directories writes no file. -/
theorem changesOnly_makeDirectories (tree : FileTree) (path : String) :
    ChangesOnly writable tree (tree.makeDirectories path).1 := by
  rw [makeDirectories]
  split
  · exact .refl writable tree
  · split
    · exact .refl writable tree
    · exact changesOnly_makeDirectoriesTo writable tree _ _

end

/-! ## Writing files -/

theorem trimSlashes_eq {segments : List (List Char)}
    (untouched : ¬ (trimSlashes segments).length < segments.length) :
    trimSlashes segments = segments := by
  have asLong : segments.reverse.length ≤ (segments.reverse.dropWhile List.isEmpty).length := by
    rw [trimSlashes, List.length_reverse] at untouched
    rw [List.length_reverse]
    exact Nat.not_lt.mp untouched
  rw [trimSlashes, (List.dropWhile_sublist _).eq_of_length_le asLong, List.reverse_reverse]

/-- A file is written where there is a file or nothing, under a name that is not too long. -/
theorem eq_set_of_written {tree written : FileTree} {target : Target} {content : ByteArray}
    (done : (match tree.lookup target.directory target.name with
      | .ok .directory => .error .isDirectory
      | .ok (.file _) | .error .notFound => .ok (tree.set target.location (.file content))
      | .error fault => .error fault) = Except.ok written) :
    target.name.utf8ByteSize ≤ longestName ∧ tree.get? target.location ≠ some .directory ∧
      written = tree.set target.location (.file content) := by
  split at done
  next => cases done
  next found =>
    obtain ⟨short, there⟩ := lookup_eq_ok_iff.mp found
    rw [Target.location, there]
    exact ⟨short, nofun, (Except.ok.inj done).symm⟩
  next missing =>
    obtain ⟨short, there⟩ := lookup_eq_notFound missing
    rw [Target.location, there]
    exact ⟨short, nofun, (Except.ok.inj done).symm⟩
  next => cases done

/-- A path to which a file was written ends in a name; the others of its segments lead to a
directory, and under the name a file stands there now. -/
theorem exists_directory_of_write {tree written : FileTree} {path : String} {content : ByteArray}
    (done : tree.write path content = .ok written) :
    checkPath path = .ok () ∧ IsName (lastSegment path) ∧
      ∃ directory, tree.walk (tree.startOf path) (segments path).dropLast = .ok directory ∧
        (String.ofList (lastSegment path)).utf8ByteSize ≤ longestName ∧
        tree.get? (directory ++ [String.ofList (lastSegment path)]) ≠ some .directory ∧
        written = tree.set (directory ++ [String.ofList (lastSegment path)]) (.file content) := by
  obtain ⟨⟨directory, segment⟩, found, further⟩ := bind_eq_ok_iff.mp done
  obtain ⟨checked, walked, isLast⟩ := target_eq_ok_iff.mp found
  split at further
  · cases further
  next fits =>
    rw [Bool.or_eq_true, decide_eq_true_eq, not_or] at fits
    obtain ⟨named, untouched⟩ := fits
    rw [trimSlashes_eq untouched] at walked isLast
    rw [getLast?_segments, Option.getD_some] at isLast
    dsimp only at isLast walked
    subst isLast
    have isName : Target.isName ⟨directory, lastSegment path⟩ = true := by simpa using named
    have now := @eq_set_of_written tree written ⟨directory, lastSegment path⟩ content further
    exact ⟨checked, Target.isName_iff.mp isName, directory, walked, now⟩

/-- A path to which a file was written ends in a name, and leads to a location where no directory
was; there the file stands now, and reads back. -/
theorem write_eq_ok {tree written : FileTree} {path : String} {content : ByteArray}
    (done : tree.write path content = .ok written) :
    IsName (lastSegment path) ∧ tree.get? (tree.locationOf path) ≠ some .directory ∧
      written = tree.set (tree.locationOf path) (.file content) ∧
      written.read path = .ok content := by
  obtain ⟨checked, isName, directory, walked, short, notDirectory, same⟩ :=
    exists_directory_of_write done
  have location : tree.locationOf path = directory ++ [String.ofList (lastSegment path)] := by
    rw [tree.locationOf_of_isName isName, ← eq_along_of_walk walked]
  have notRoot := tree.locationOf_ne_nil isName
  rw [← location] at notDirectory same
  subst same
  have changes := changesOnly_set_file (fun _ => True) notRoot trivial notDirectory content
  refine ⟨isName, notDirectory, rfl, read_eq_ok_iff.mpr ⟨checked, isName, directory, ?_, ?_⟩⟩
  · rw [changes.startOf]
    exact changes.walk walked
  · rw [lookup_eq_ok_iff, get?_set tree notRoot, if_pos location]
    exact ⟨short, rfl⟩

/-- Writing a file changes nothing but the file at the location of its path. -/
theorem changesOnly_write {tree written : FileTree} {path : String} {content : ByteArray}
    (done : tree.write path content = .ok written) :
    ChangesOnly (· = tree.locationOf path) tree written := by
  obtain ⟨isName, notDirectory, rfl, -⟩ := write_eq_ok done
  exact changesOnly_set_file (· = tree.locationOf path) (tree.locationOf_ne_nil isName) rfl
    notDirectory content

end FileTree

end FigureForm
