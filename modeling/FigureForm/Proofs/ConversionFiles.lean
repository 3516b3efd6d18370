/-
# Which files a conversion touches

A conversion of a file either fails and leaves every file and directory as it was, or it writes the
form to the output path and then icons beside it.  Of the files only the output and those at the
places of icons change.  The names of icons come from the figure and may hold any separators and dots;
still they lead below the directory of the output, and never to the output itself, because the one
name ends in `.png` and the other in `.ui`.  So the form reads back in the end, whatever became of the
icons.
-/

import FigureForm.Conversion.Converter
import FigureForm.Proofs.AssetPaths
import FigureForm.Proofs.FileChanges
import FigureForm.Proofs.IconStorage
import FigureForm.Proofs.WidgetCount

open FigureForm.Path

namespace FigureForm

/-! ## Storing icons -/

namespace AssetSink

/-- Whether a location is that of an asset with a name below a directory. -/
def IsPlaceOf (tree : FileTree) (base name : String) (location : Location) : Prop :=
  ∃ path, resolve? base name = some path ∧ location = tree.locationOf path

theorem IsPlaceOf.of_changesOnly {writable : Location → Prop} {before after : FileTree}
    (changes : before.ChangesOnly writable after) {base name : String} {location : Location}
    (place : IsPlaceOf after base name location) : IsPlaceOf before base name location := by
  obtain ⟨path, resolved, rfl⟩ := place
  exact ⟨path, resolved, changes.locationOf path⟩

theorem changesOnly_write_resolved {base name path : String} {content : ByteArray}
    {tree extended written : FileTree} (resolved : resolve? base name = some path)
    (made : tree.ChangesOnly (IsPlaceOf tree base name) extended)
    (done : extended.write path content = .ok written) :
    tree.ChangesOnly (IsPlaceOf tree base name) written := by
  refine made.trans ((FileTree.changesOnly_write done).mono ?_)
  rintro location rfl
  exact ⟨path, resolved, made.locationOf path⟩

/-- Storing an asset below a directory writes no other file. -/
theorem changesOnly_storeBelow (base name : String) (content : ByteArray) (tree : FileTree) :
    tree.ChangesOnly (IsPlaceOf tree base name) (storeBelow base name content tree).1 := by
  rw [storeBelow]
  cases resolved : resolve? base name with
  | none => exact .refl _ tree
  | some path =>
    dsimp only
    cases Path.parent? path with
    | none =>
      dsimp only
      cases done : tree.write path content with
      | error cause => exact .refl _ tree
      | ok written => exact changesOnly_write_resolved resolved (.refl _ tree) done
    | some parent =>
      have made := FileTree.changesOnly_makeDirectories (IsPlaceOf tree base name) tree parent
      dsimp only
      rcases prepared : tree.makeDirectories parent with ⟨extended, result⟩
      rw [prepared] at made
      cases result with
      | error cause => exact made
      | ok =>
        dsimp only
        cases done : extended.write path content with
        | error cause => exact made
        | ok written => exact changesOnly_write_resolved resolved made done

/-- The places of assets lie below the directory. -/
theorem IsPlaceOf.below {tree : FileTree} {base name : String} {location : Location}
    (place : IsPlaceOf tree base name location) : tree.locationOf base <+: location := by
  obtain ⟨path, resolved, rfl⟩ := place
  rw [locationOf_resolved resolved]
  exact List.prefix_append _ _

end AssetSink

/-- Whether a location is that of the image file of an action's icon below a directory. -/
def IsIconPlace (tree : FileTree) (base : String) (actions : List Action) (location : Location) :
    Prop :=
  ∃ action ∈ actions, action.hasIcon = true ∧
    AssetSink.IsPlaceOf tree base action.iconFileName location

namespace IsIconPlace

variable {base : String} {actions : List Action} {location : Location}

theorem of_changesOnly {writable : Location → Prop} {before after : FileTree}
    (changes : before.ChangesOnly writable after)
    (place : IsIconPlace after base actions location) : IsIconPlace before base actions location := by
  obtain ⟨action, among, hasIcon, own⟩ := place
  exact ⟨action, among, hasIcon, own.of_changesOnly changes⟩

theorem cons {tree : FileTree} (place : IsIconPlace tree base actions location) (action : Action) :
    IsIconPlace tree base (action :: actions) location := by
  obtain ⟨other, among, hasIcon, own⟩ := place
  exact ⟨other, List.mem_cons_of_mem _ among, hasIcon, own⟩

theorem below {tree : FileTree} (place : IsIconPlace tree base actions location) :
    tree.locationOf base <+: location := by
  obtain ⟨action, -, -, own⟩ := place
  exact own.below

end IsIconPlace

namespace Icons

theorem changesOnly_storeIcon (base : String) (action : Action) (tree : FileTree) :
    tree.ChangesOnly (AssetSink.IsPlaceOf tree base action.iconFileName)
      (storeIcon (.directory base) action tree).1 := by
  rw [storeIcon]
  split
  · exact .refl _ tree
  · exact AssetSink.changesOnly_storeBelow base action.iconFileName _ tree

/-- Storing icons below a directory writes no files but theirs.  The induction is on the actions; the
places are the same in every tree on the way, because none of them changes where paths start. -/
theorem changesOnly_store (base : String) (actions : List Action) (tree : FileTree) :
    tree.ChangesOnly (IsIconPlace tree base actions) (store (.directory base) actions tree).1 := by
  induction actions generalizing tree with
  | nil => exact .refl _ tree
  | cons action rest ih =>
    by_cases pixels : action.hasIcon = true
    · have own := changesOnly_storeIcon base action tree
      rw [store_cons_of_hasIcon _ _ pixels]
      refine (own.mono fun location place => ?_).trans ((ih _).mono fun location place => ?_)
      · exact ⟨action, List.mem_cons_self, pixels, place⟩
      · exact (place.of_changesOnly own).cons action
    · rw [store, if_neg pixels]
      exact (ih tree).mono fun location place => place.cons action

end Icons

/-! ## The places of the output and of icons -/

namespace FileTree

/-- A path that ends in something more than dots, without a slash, leads to an entry whose name has
that ending. -/
theorem exists_name_of_suffix (tree : FileTree) {path : String} {ending : List Char} (c : Char)
    (ends : ending <:+ path.toList) (without : '/' ∉ ending) (among : c ∈ ending)
    (notDot : c ≠ '.') :
    ∃ directory name, tree.locationOf path = directory ++ [name] ∧ ending <:+ name.toList := by
  have lastEnds := suffix_lastSegment without ends
  have isName := isName_of_suffix c lastEnds among notDot
  refine ⟨_, _, tree.locationOf_of_isName isName, ?_⟩
  rw [String.toList_ofList]
  exact lastEnds

end FileTree

/-- The ending of the names of image files. -/
def imageEnding : List Char :=
  ['.', 'p', 'n', 'g']

/-- The ending of the names of forms. -/
def formEnding : List Char :=
  ['.', 'u', 'i']

theorem exists_name_of_isIconPlace {tree : FileTree} {base : String} {actions : List Action}
    {location : Location} (place : IsIconPlace tree base actions location) :
    ∃ directory name, location = directory ++ [name] ∧ imageEnding <:+ name.toList := by
  obtain ⟨action, -, -, path, resolved, rfl⟩ := place
  obtain ⟨-, -, -, rfl⟩ := AssetSink.resolve?_eq_some_iff.mp resolved
  have named : imageEnding <:+ action.iconFileName.toList := by
    rw [Action.iconFileName, String.toList_append]
    exact List.suffix_append _ _
  exact tree.exists_name_of_suffix 'g' (named.trans (suffix_join base _)) (by decide) (by decide)
    (by decide)

theorem Settings.suffix_outputPath {settings : Settings} (isForm : settings.outputExtension = "ui")
    {input output : String} (found : settings.outputPath input = .ok output) :
    formEnding <:+ output.toList := by
  have named (stem : String) : formEnding <:+ (settings.outputName stem).toList := by
    rw [outputName, isForm, String.toList_append, String.toList_append, List.append_assoc]
    exact List.suffix_append _ _
  rw [outputPath] at found
  split at found
  · cases found
  · dsimp only at found
    split at found
    · cases found
      exact (named _).trans (suffix_join _ _)
    · cases found
      exact named _

theorem not_isIconPlace_of_form {tree : FileTree} {base output : String} {actions : List Action}
    (ends : formEnding <:+ output.toList) :
    ¬ IsIconPlace tree base actions (tree.locationOf output) := by
  intro place
  obtain ⟨directory, name, here, isForm⟩ :=
    tree.exists_name_of_suffix 'i' ends (by decide) (by decide) (by decide)
  obtain ⟨other, icon, there, front, isImage⟩ := exists_name_of_isIconPlace place
  obtain rfl : name = icon := by
    rw [here] at there
    exact List.singleton_inj.mp (List.append_inj_right' there rfl)
  obtain ⟨front', isForm⟩ := isForm
  have last := congrArg List.getLast? (isForm.trans isImage.symm)
  simp [formEnding, imageEnding] at last

/-! ## Conversions -/

namespace Converter

/-- A conversion fails and leaves the state as it was, or the dump has a form, which is written to
the output path before its icons are stored. -/
theorem convert_cases {σ : Type} (converter : Converter) (storage : Storage σ) (dump : Dump)
    (output : String) (state : σ) :
    (∃ fault, (converter.convert storage dump output state).2.value = .error fault ∧
      (converter.convert storage dump output state).1 = state) ∨
    ∃ noted written report, (converter.formOf dump).value = .ok noted ∧
      storage.write output noted.value.render.toUTF8 state = .ok written ∧
      (converter.convert storage dump output state).2.value = .ok report ∧
      report.output = output ∧
      (converter.convert storage dump output state).1 =
        (converter.storeIcons storage.sink noted.value written).1 := by
  rw [convert]
  dsimp only
  cases built : (converter.formOf dump).value with
  | error fault => exact .inl ⟨_, rfl, rfl⟩
  | ok noted =>
    dsimp only
    cases stored : storage.write output noted.value.render.toUTF8 state with
    | error fault => exact .inl ⟨_, rfl, rfl⟩
    | ok written => exact .inr ⟨noted, written, _, rfl, stored, rfl, rfl, rfl⟩

/-- Storing the icons of a form below a directory writes no files but theirs. -/
theorem changesOnly_storeIcons (converter : Converter) (base : String) (form : Form)
    (tree : FileTree) :
    tree.ChangesOnly (IsIconPlace tree base form.actions)
      (converter.storeIcons (.directory base) form tree).1 := by
  rw [storeIcons]
  split
  · exact Icons.changesOnly_store base form.actions tree
  · exact .refl _ tree

/-- A conversion of a file fails and leaves the tree as it was, or the file held a dump with a form,
which was written to the output path before the icons were stored beside it. -/
theorem convertFile_cases (converter : Converter) (input : String) (tree : FileTree) :
    (∃ fault, (converter.convertFile input tree).2.value = .error fault ∧
      (converter.convertFile input tree).1 = tree) ∨
    ∃ dump noted written report, converter.settings.outputPath input = .ok report.output ∧
      Dump.ofFile tree input = .ok dump ∧ (converter.formOf dump).value = .ok noted ∧
      tree.write report.output noted.value.render.toUTF8 = .ok written ∧
      (converter.convertFile input tree).2.value = .ok report ∧
      (converter.convertFile input tree).1 = (converter.storeIcons
        (.directory ((Path.parent? report.output).getD "")) noted.value written).1 := by
  rw [convertFile]
  split
  · exact .inl ⟨_, rfl, rfl⟩
  · cases found : converter.settings.outputPath input with
    | error fault => exact .inl ⟨_, rfl, rfl⟩
    | ok output =>
      cases loaded : Dump.ofFile tree input with
      | error fault => exact .inl ⟨_, rfl, rfl⟩
      | ok dump =>
        dsimp only
        obtain ⟨fault, failed, same⟩ |
            ⟨noted, written, report, built, stored, reported, rfl, final⟩ :=
          converter.convert_cases (.files ((Path.parent? output).getD "")) dump output tree
        · rw [failed]
          exact .inl ⟨fault, rfl, same⟩
        · rw [reported]
          exact .inr ⟨dump, noted, written, report, rfl, rfl, built, stored, rfl, final⟩

/-- A conversion of a file touches its own outputs only.  When it fails, every file and directory is
as it was.  When it succeeds, the file held a dump with a form, and whatever the actions are called,
the output path reads as the text of that form after all icons were stored; the places of icons lie
below the directory of the output and are none of them the output; and between the trees before and
after nothing else differs but directories that were made where nothing was. -/
theorem convertFile_touches_own_outputs (converter : Converter)
    (isForm : converter.settings.outputExtension = "ui") (input : String) (tree : FileTree) :
    (∀ fault, (converter.convertFile input tree).2.value = .error fault →
      (converter.convertFile input tree).1 = tree) ∧
    ∀ report, (converter.convertFile input tree).2.value = .ok report →
      ∃ dump noted directory name, converter.settings.outputPath input = .ok report.output ∧
        Dump.ofFile tree input = .ok dump ∧ (converter.formOf dump).value = .ok noted ∧
        tree.locationOf report.output = directory ++ [name] ∧
        (converter.convertFile input tree).1.read report.output =
          .ok noted.value.render.toUTF8 ∧
        (∀ location,
          IsIconPlace tree ((Path.parent? report.output).getD "") noted.value.actions location →
            directory <+: location ∧ location ≠ tree.locationOf report.output) ∧
        tree.ChangesOnly (fun location => location = tree.locationOf report.output ∨
            IsIconPlace tree ((Path.parent? report.output).getD "") noted.value.actions location)
          (converter.convertFile input tree).1 := by
  obtain ⟨fault, failed, same⟩ |
      ⟨dump, noted, written, report, found, loaded, built, stored, reported, final⟩ :=
    convertFile_cases converter input tree
  · refine ⟨fun _ _ => same, fun report reported => ?_⟩
    rw [failed] at reported
    cases reported
  refine ⟨fun fault failed => ?_, fun other told => ?_⟩
  · rw [reported] at failed
    cases failed
  rw [reported] at told
  cases told
  have ends := Settings.suffix_outputPath isForm found
  have isName := isName_of_suffix 'i' (suffix_lastSegment (by decide) ends) (by decide) (by decide)
  obtain ⟨parent, isParent, parentLocation⟩ := tree.exists_parent isName
  have base : (Path.parent? report.output).getD "" = parent := by rw [isParent]; rfl
  rw [base] at final ⊢
  obtain ⟨-, -, -, reads⟩ := FileTree.write_eq_ok stored
  have own := FileTree.changesOnly_write stored
  have icons := converter.changesOnly_storeIcons parent noted.value written
  have iconPlaces : ∀ location, IsIconPlace written parent noted.value.actions location →
      IsIconPlace tree parent noted.value.actions location :=
    fun location place => place.of_changesOnly own
  refine ⟨dump, noted, _, _, found, loaded, built, tree.locationOf_of_isName isName, ?_,
    fun location place => ⟨?_, ?_⟩, ?_⟩
  · rw [final]
    exact icons.read (not_isIconPlace_of_form ends) reads
  · rw [← parentLocation]
    exact place.below
  · rintro rfl
    exact not_isIconPlace_of_form ends place
  · rw [final]
    exact (own.mono fun _ => .inl).trans (icons.mono fun location place =>
      .inr (iconPlaces location place))

/-- The text of a window with a tool bar, which has one entry whose name is a path. -/
def pathTaggedText : String :=
  "\x7b\"hgS_\":\x7b\"properties\":\x7b\"Position\":[0,0,9,9]\x7d,\"children\":[" ++
    "\x7b\"type\":\"uitoolbar\",\"properties\":\x7b\x7d,\"children\":[" ++
    "\x7b\"type\":\"uitoggletool\",\"properties\":\x7b\"Tag\":\"a/b\"," ++
    "\"CData\":[[[0,1,0]]]\x7d\x7d]\x7d]\x7d\x7d"

/-- A tree with nothing but that text. -/
def pathTaggedFiles : FileTree :=
  ⟨[], [(["figure"], .file pathTaggedText.toUTF8)]⟩

/-- The icon of one green pixel goes into a directory that is made below that of the form, and the
form reads back. -/
theorem convertFile_touches_own_outputs_pathTagged :
    usual.settings.outputExtension = "ui" ∧
      ∃ report dump noted, (usual.convertFile "figure" pathTaggedFiles).2.value = .ok report ∧
        report.output = "figure_build.ui" ∧ report.icons = 1 ∧
        Dump.ofFile pathTaggedFiles "figure" = .ok dump ∧ (usual.formOf dump).value = .ok noted ∧
        (usual.convertFile "figure" pathTaggedFiles).1.read "figure_build.ui" =
          .ok noted.value.render.toUTF8 ∧
        (usual.convertFile "figure" pathTaggedFiles).1.get? ["a"] = some .directory ∧
        ∃ image, (usual.convertFile "figure" pathTaggedFiles).1.read "a/b.png" = .ok image ∧
          Png.decode? image = some ⟨1, 1, #[⟨0, 255, 0, 255⟩], rfl⟩ := by
  have outcome : (usual.convertFile "figure" pathTaggedFiles).2.value.toOption.map
      (fun report => (report.output, report.icons,
        (usual.convertFile "figure" pathTaggedFiles).1.get? ["a"],
        ((usual.convertFile "figure" pathTaggedFiles).1.read "a/b.png").toOption.map Png.decode?)) =
      some ("figure_build.ui", 1, some .directory,
        some (some ⟨1, 1, #[⟨0, 255, 0, 255⟩], rfl⟩)) := by
    decide +kernel
  obtain ⟨report, reported, seen⟩ := exists_ok_of_map_toOption outcome
  obtain ⟨named, seen⟩ := Prod.mk.inj seen
  obtain ⟨icons, seen⟩ := Prod.mk.inj seen
  obtain ⟨below, stored⟩ := Prod.mk.inj seen
  obtain ⟨dump, noted, -, -, -, loaded, built, -, reads, -⟩ :=
    (convertFile_touches_own_outputs usual rfl "figure" pathTaggedFiles).2 report reported
  rw [named] at reads
  exact ⟨rfl, report, dump, noted, reported, named, icons, loaded, built, reads, below,
    exists_ok_of_map_toOption stored⟩

end Converter

end FigureForm
