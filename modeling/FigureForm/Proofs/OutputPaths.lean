/-
# The place of the output

The output of a conversion stands beside its input: its path has the same parent, and its name is the
stem of the input with the suffix and the extension of the settings behind it.  The stem ends in front
of the last dot of the name, so the two names are the same only when nothing is added to the stem and
the extension stays (`outputName_eq_iff`).  In a file tree the two paths lead into one directory, where
different names are different places, and writing the one file leaves the other as it is.
-/

import FigureForm.Conversion.Settings
import FigureForm.Proofs.FileChanges
import FigureForm.Proofs.PathComponents

open FigureForm.Path

namespace FigureForm

namespace Settings

variable {settings : Settings} {input name : String}

/-- The output has the name of the input exactly when the settings add nothing to the stem and keep
the extension. -/
theorem outputName_eq_iff :
    settings.outputName (splitName name).1 = name ↔
      settings.outputSuffix = "" ∧ (splitName name).2 = some settings.outputExtension := by
  rcases splitName_cases name with whole | ⟨stem, extension, cut, -, rfl, noDot⟩
  · -- A name without extension is too short for what is put behind it.
    rw [whole]
    refine iff_of_false (fun same => ?_) fun both => Option.some_ne_none _ both.2.symm
    have long := congrArg String.length same
    simp only [outputName, String.length_append] at long
    have dot : ".".length = 1 := rfl
    omega
  · rw [cut, outputName, ← String.toList_inj, ← String.toList_inj]
    simp only [String.toList_append, List.append_assoc, List.append_cancel_left_eq]
    constructor
    · intro same
      cases suffix : settings.outputSuffix.toList with
      | nil =>
        rw [suffix, List.nil_append] at same
        exact ⟨rfl, congrArg some (String.toList_inj.mp (List.append_cancel_left same)).symm⟩
      | cons c rest =>
        -- The dot in front of the own extension would stand inside that of the name.
        rw [suffix, List.cons_append] at same
        have later : rest ++ '.' :: settings.outputExtension.toList = extension.toList :=
          (List.cons.inj same).2
        exact absurd (later ▸ List.mem_append_right rest List.mem_cons_self) noDot
    · rintro ⟨none, same⟩
      rw [none, Option.some.inj same]
      rfl

theorem isPlainName_outputName {stem : String} (plainStem : '/' ∉ stem.toList) (someStem : stem ≠ "")
    (plainSuffix : '/' ∉ settings.outputSuffix.toList)
    (plainExtension : '/' ∉ settings.outputExtension.toList)
    (someExtension : settings.outputExtension ≠ "") : IsPlainName (settings.outputName stem) := by
  have written : (settings.outputName stem).toList =
      stem.toList ++ (settings.outputSuffix.toList ++ '.' :: settings.outputExtension.toList) := by
    simp [outputName]
  have stemLength := List.length_pos_iff.mpr (mt String.toList_eq_nil_iff.mp someStem)
  have extensionLength := List.length_pos_iff.mpr (mt String.toList_eq_nil_iff.mp someExtension)
  have long : 3 ≤ (settings.outputName stem).toList.length := by
    rw [written, List.length_append, List.length_append, List.length_cons]
    omega
  have notShort {segment : List Char} (short : segment.length < 3) :
      (settings.outputName stem).toList ≠ segment := by
    rintro rfl
    omega
  exact ⟨by simp [written, plainStem, plainSuffix, plainExtension],
    isName_iff.mpr ⟨notShort (by decide), notShort (by decide), notShort (by decide)⟩⟩

/-- The stem of a name in one piece is not empty, and it contains no slash. -/
theorem isPlainStem (plain : IsPlainName name) :
    '/' ∉ (splitName name).1.toList ∧ (splitName name).1 ≠ "" := by
  rcases splitName_cases name with whole | ⟨stem, extension, cut, someStem, rfl, -⟩
  · rw [whole]
    exact ⟨plain.1, mt String.toList_eq_nil_iff.mpr (isName_iff.mp plain.2).1⟩
  · rw [cut]
    refine ⟨fun slash => plain.1 ?_, someStem⟩
    simp [slash]

/-- An input with a file name has a path for the output: the name of the output behind the parent of
the input. -/
theorem outputPath_of_fileName? (settings : Settings) (named : fileName? input = some name) :
    ∃ parent, parent? input = some parent ∧ components input = components parent ++ [.name name] ∧
      settings.outputPath input = .ok (join parent (settings.outputName (splitName name).1)) := by
  obtain ⟨parent, isParent, said⟩ := exists_parent_of_fileName? named
  refine ⟨parent, isParent, said, ?_⟩
  rw [outputPath, stem?, named, Option.map_some]
  dsimp only
  rw [isParent]

theorem outputPath_eq_error_iff {settings : Settings} :
    (∃ fault, settings.outputPath input = .error fault) ↔ fileName? input = none := by
  cases named : fileName? input with
  | none =>
    rw [outputPath, stem?, named]
    exact ⟨fun _ => rfl, fun _ => ⟨_, rfl⟩⟩
  | some name =>
    obtain ⟨parent, -, -, found⟩ := settings.outputPath_of_fileName? named
    rw [found]
    constructor
    · rintro ⟨fault, failed⟩
      cases failed
    · intro none
      cases none

end Settings

/-! ## Places of the input and the output -/

namespace FileTree

variable {tree : FileTree} {path : String}

/-- What reads as a file stands under its file name where its parent leads. -/
theorem exists_name_of_read {content : ByteArray} (readable : tree.read path = .ok content) :
    ∃ parent name, parent? path = some parent ∧ fileName? path = some name ∧
      tree.locationOf path = tree.locationOf parent ++ [name] := by
  obtain ⟨-, isName, -⟩ := read_eq_ok_iff.mp readable
  obtain ⟨parent, isParent, directory⟩ := tree.exists_parent isName
  exact ⟨parent, _, isParent, fileName?_of_isName isName, by
    rw [tree.locationOf_of_isName isName, directory]⟩

/-- A name behind a path leads to the entry of that name where the path leads. -/
theorem locationOf_join_name (base : String) {name : String} (plain : IsPlainName name) :
    tree.locationOf (join base name) = tree.locationOf base ++ [name] := by
  rw [tree.locationOf_join base plain.not_isAbsolute, plain.segments_eq, along_name plain.2,
    String.ofList_toList]

end FileTree

namespace Settings

/-- The output stands beside the input.  Let the suffix and the extension be without slashes, and the
extension not empty.  Only an input without a file name has no output: one that says nothing behind
the root, or last a dot or two dots.  In every other case the output has the parent of the input, and
its name is the stem of the input with suffix, dot and extension behind it.  The two paths say the
same exactly when the suffix is empty and the input has the extension of the settings; unless that is
so, as with the standard suffix, an input that can be read reads the same after the output was
written. -/
theorem outputPath_beside_input (settings : Settings) (input : String)
    (plainSuffix : '/' ∉ settings.outputSuffix.toList)
    (plainExtension : '/' ∉ settings.outputExtension.toList)
    (someExtension : settings.outputExtension ≠ "") :
    ((∃ fault, settings.outputPath input = .error fault) ↔
        (spoken input).getLast? = none ∨ (spoken input).getLast? = some ['.'] ∨
          (spoken input).getLast? = some ['.', '.']) ∧
      ∀ output, settings.outputPath input = .ok output →
        (∃ parent outputParent, parent? input = some parent ∧
          parent? output = some outputParent ∧ components outputParent = components parent) ∧
        (∃ stem, stem? input = some stem ∧ fileName? output =
          some (stem ++ settings.outputSuffix ++ "." ++ settings.outputExtension)) ∧
        (components output = components input ↔
          settings.outputSuffix = "" ∧ extension? input = some settings.outputExtension) ∧
        (¬ (settings.outputSuffix = "" ∧ extension? input = some settings.outputExtension) →
          ∀ (tree written : FileTree) (content form : ByteArray),
            tree.read input = .ok content → tree.write output form = .ok written →
              written.read input = .ok content) := by
  refine ⟨outputPath_eq_error_iff.trans fileName?_eq_none_iff, fun output found => ?_⟩
  obtain ⟨name, named⟩ : ∃ name, fileName? input = some name := by
    refine Option.ne_none_iff_exists'.mp fun none => ?_
    obtain ⟨fault, failed⟩ := outputPath_eq_error_iff.mpr none
    rw [failed] at found
    cases found
  obtain ⟨parent, isParent, said, same⟩ := settings.outputPath_of_fileName? named
  obtain rfl : join parent (settings.outputName (splitName name).1) = output := by
    rw [same] at found
    exact Except.ok.inj found
  have isStem : stem? input = some (splitName name).1 := by rw [stem?, named, Option.map_some]
  have isExtension : extension? input = (splitName name).2 := by
    rw [extension?, named, Option.bind_some]
  have plain : IsPlainName (settings.outputName (splitName name).1) := by
    obtain ⟨plainStem, someStem⟩ := isPlainStem (isPlainName_of_fileName? named)
    exact isPlainName_outputName plainStem someStem plainSuffix plainExtension someExtension
  have told := plain.components_join parent
  have isName := fileName?_of_components told
  rw [isExtension, ← outputName_eq_iff]
  refine ⟨?_, ⟨_, isStem, isName⟩, ?_, ?_⟩
  · obtain ⟨outputParent, isOutputParent, whole⟩ := exists_parent_of_fileName? isName
    rw [told] at whole
    exact ⟨parent, outputParent, isParent, isOutputParent, (List.append_cancel_right whole).symm⟩
  · rw [told, said, List.append_cancel_left_eq, List.singleton_inj, Component.name.injEq]
  · intro different tree written content form readable done
    refine (FileTree.changesOnly_write done).read (fun place => different ?_) readable
    obtain ⟨ownParent, ownName, isOwnParent, isOwnName, location⟩ :=
      FileTree.exists_name_of_read readable
    rw [isParent] at isOwnParent
    rw [named] at isOwnName
    cases isOwnParent
    cases isOwnName
    rw [location, FileTree.locationOf_join_name parent plain] at place
    exact (List.singleton_inj.mp (List.append_cancel_left place)).symm

/-- Settings that ask for the output in the place of an input with the right extension. -/
def inPlace : Settings :=
  { standard with outputSuffix := "", outputExtension := "fig" }

/-- A tree with nothing but one figure. -/
def oneFigure : FileTree :=
  ⟨[], [([".main.fig"], .file "{}".toUTF8)]⟩

/-- A name may begin with a dot, and silent segments do not make a path another one.  With the
standard settings the figure stays. -/
theorem outputPath_beside_input_dotted :
    ('/' ∉ inPlace.outputSuffix.toList ∧ '/' ∉ inPlace.outputExtension.toList ∧
        inPlace.outputExtension ≠ "") ∧
      inPlace.outputPath "./.main.fig/." = .ok "./.main.fig" ∧
      components "./.main.fig" = components "./.main.fig/." ∧
      ('/' ∉ standard.outputSuffix.toList ∧ '/' ∉ standard.outputExtension.toList ∧
        standard.outputExtension ≠ "") ∧
      standard.outputPath ".main.fig" = .ok ".main_build.ui" ∧
      ∃ written, oneFigure.write ".main_build.ui" "<ui/>".toUTF8 = .ok written ∧
        written.read ".main.fig" = .ok "{}".toUTF8 := by
  have isInPlace : inPlace.outputPath "./.main.fig/." = .ok "./.main.fig" := by decide
  have isBeside : standard.outputPath ".main.fig" = .ok ".main_build.ui" := by decide
  have same := ((outputPath_beside_input inPlace "./.main.fig/." (by decide) (by decide)
    (by decide)).2 _ isInPlace).2.2.1.mpr (by decide)
  have kept := ((outputPath_beside_input standard ".main.fig" (by decide) (by decide)
    (by decide)).2 _ isBeside).2.2.2 (by decide)
  refine ⟨by decide, isInPlace, same, by decide, isBeside, _, rfl, ?_⟩
  exact kept oneFigure _ _ "<ui/>".toUTF8 rfl rfl

end Settings

end FigureForm
