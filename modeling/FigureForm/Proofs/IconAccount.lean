/-
# The account of stored icons

Storing the icons of actions asks a sink for one file after the other, whatever it answers
(`store_eq`).  The account is read off the answers: how many of the icons were stored, and which were
not, so that no icon is missing from it.  The sink in memory stores them all, and of those with one
name the last one stays.  A conversion that has written its form does not fail any more; its icons
add to the report, and nothing else in it depends on them.
-/

import FigureForm.Proofs.IconStorage
import FigureForm.Proofs.WidgetCount

namespace FigureForm

variable {σ : Type}

/-! ## One answer for each request -/

/-- A sink asked for everything in a list: its last state, and its answers in order. -/
def AssetSink.storeAll (sink : AssetSink σ) :
    List (String × ByteArray) → σ → σ × List (Except AssetFault Unit)
  | [], state => (state, [])
  | (name, content) :: rest, state =>
    let (next, answer) := sink.store name content state
    let (last, answers) := storeAll sink rest next
    (last, answer :: answers)

namespace Icons

/-- The icons that were not stored, by the answers to the requests for them. -/
def failuresAmong : List Action → List (Except AssetFault Unit) → List IconFailure
  | action :: actions, .error fault :: answers =>
    ⟨action.name, .asset fault⟩ :: failuresAmong actions answers
  | _ :: actions, .ok () :: answers => failuresAmong actions answers
  | _, _ => []

end Icons

/-- Whether an account is that of some answers to requests for the icons of actions: its failures are
the refused ones in order, and no icon is missing from it. -/
structure StoredIcons.Covers (icons : StoredIcons) (asked : List Action)
    (answers : List (Except AssetFault Unit)) : Prop where
  answered : answers.length = asked.length
  failures : icons.failures = Icons.failuresAmong asked answers
  total : icons.stored + icons.failures.length = asked.length

theorem StoredIcons.Covers.cons {icons : StoredIcons} {asked : List Action}
    {answers : List (Except AssetFault Unit)} (covers : icons.Covers asked answers)
    (action : Action) (answer : Except AssetFault Unit) :
    (icons.including action (answer.mapError .asset)).Covers (action :: asked)
      (answer :: answers) := by
  obtain ⟨answered, failures, total⟩ := covers
  have answered : (answer :: answers).length = (action :: asked).length := by
    rw [List.length_cons, answered, List.length_cons]
  cases answer with
  | ok =>
    refine ⟨answered, failures, ?_⟩
    show icons.stored + 1 + icons.failures.length = asked.length + 1
    omega
  | error fault =>
    refine ⟨answered, congrArg (List.cons _) failures, ?_⟩
    show icons.stored + (icons.failures.length + 1) = asked.length + 1
    omega

namespace Icons

/-- Storing icons is asking for all of them, and its account is that of the answers.  The induction is
on the actions, with any state that the earlier ones lead to. -/
theorem store_covers (sink : AssetSink σ) (actions : List Action) (state : σ) :
    (store sink actions state).1 = (sink.storeAll (requests actions) state).1 ∧
      (store sink actions state).2.Covers (actions.filter Action.hasIcon)
        (sink.storeAll (requests actions) state).2 := by
  induction actions generalizing state with
  | nil => exact ⟨rfl, rfl, rfl, rfl⟩
  | cons action rest ih =>
    by_cases pixels : action.hasIcon = true
    · obtain ⟨final, covers⟩ := ih (storeIcon sink action state).1
      have own : storeIcon sink action state =
          ((sink.store action.iconFileName ⟨(Png.fileBytes action.icon).toArray⟩ state).1,
            (sink.store action.iconFileName ⟨(Png.fileBytes action.icon).toArray⟩ state).2.mapError
              .asset) := by
        rw [storeIcon, Png.encode_eq_ok pixels]
      rw [store_cons_of_hasIcon _ _ pixels, List.filter_cons_of_pos pixels,
        requests_cons_of_hasIcon pixels, AssetSink.storeAll]
      rw [own] at final covers ⊢
      exact ⟨final, covers.cons action _⟩
    · rw [store, if_neg pixels, requests_cons_of_not_hasIcon pixels,
        List.filter_cons_of_neg pixels]
      exact ih state

end Icons

/-! ## The sink in memory -/

/-- Entries put one after the other. -/
def Dictionary.putAll {α : Type} (entries dictionary : List (String × α)) : List (String × α) :=
  entries.foldl (fun dictionary entry => put entry.1 entry.2 dictionary) dictionary

/-- Of the entries with one name the last one is found. -/
theorem Dictionary.get?_putAll {α : Type} (name : String) (entries dictionary : List (String × α)) :
    get? name (putAll entries dictionary) =
      ((entries.reverse.find? fun entry => entry.1 = name).map Prod.snd).or
        (get? name dictionary) := by
  induction entries generalizing dictionary with
  | nil => rfl
  | cons entry rest ih =>
    have step : putAll (entry :: rest) dictionary =
        putAll rest (put entry.1 entry.2 dictionary) := rfl
    rw [step, ih, get?_put, List.reverse_cons, List.find?_append, Option.map_or, Option.or_assoc]
    by_cases same : entry.1 = name
    · rw [if_pos same, List.find?_singleton, if_pos (decide_eq_true same)]
      rfl
    · rw [if_neg same, List.find?_singleton, if_neg (by simpa using same)]
      rfl

/-- The sink in memory takes everything that has a name. -/
theorem AssetSink.storeAll_memory {requests : List (String × ByteArray)}
    (named : ∀ request ∈ requests, request.1.isEmpty = false) (assets : Assets) :
    memory.storeAll requests assets =
      (Dictionary.putAll requests assets, requests.map fun _ => .ok ()) := by
  induction requests generalizing assets with
  | nil => rfl
  | cons request rest ih =>
    obtain ⟨first, others⟩ := List.forall_mem_cons.mp named
    have own : memory.store request.1 request.2 assets =
        (Dictionary.put request.1 request.2 assets, .ok ()) :=
      if_neg (by rw [first]; exact Bool.false_ne_true)
    rw [storeAll, own]
    dsimp only
    rw [ih others]
    rfl

namespace Icons

/-- The last of the actions with icons whose icon has a file of some name. -/
def lastNamed? (name : String) (actions : List Action) : Option Action :=
  (actions.filter Action.hasIcon).reverse.find? fun action => action.iconFileName = name

theorem isEmpty_iconFileName (action : Action) : action.iconFileName.isEmpty = false := by
  rw [Action.iconFileName]
  simp

theorem failuresAmong_of_all_ok (actions : List Action) (requests : List (String × ByteArray)) :
    failuresAmong actions (requests.map fun _ => .ok ()) = [] := by
  induction actions generalizing requests with
  | nil => cases requests <;> rfl
  | cons action rest ih =>
    cases requests with
    | nil => rfl
    | cons request others => exact ih others

/-- In memory every icon is stored, and of those with files of one name the last one is found; what has
another name stays as it was. -/
theorem store_memory (actions : List Action) (assets : Assets) :
    (store .memory actions assets).2.failures = [] ∧ ∀ name,
      (∀ action, lastNamed? name actions = some action → ∃ content,
        Png.encode action.icon = .ok content ∧
          Dictionary.get? name (store .memory actions assets).1 = some content) ∧
      (lastNamed? name actions = none →
        Dictionary.get? name (store .memory actions assets).1 = Dictionary.get? name assets) := by
  have named : ∀ request ∈ requests actions, request.1.isEmpty = false := by
    intro request among
    obtain ⟨action, -, rfl⟩ := List.mem_map.mp among
    exact isEmpty_iconFileName action
  obtain ⟨final, -, failures, -⟩ := store_covers .memory actions assets
  rw [AssetSink.storeAll_memory named] at final failures
  have found (name : String) : Dictionary.get? name (store .memory actions assets).1 =
      ((lastNamed? name actions).map fun action =>
        ⟨(Png.fileBytes action.icon).toArray⟩).or (Dictionary.get? name assets) := by
    rw [final, Dictionary.get?_putAll, requests, ← List.map_reverse, List.find?_map, Option.map_map]
    rfl
  refine ⟨failures.trans (failuresAmong_of_all_ok _ _), fun name => ⟨fun action last => ?_, ?_⟩⟩
  · have among := List.mem_reverse.mp (List.mem_of_find?_eq_some last)
    obtain ⟨-, pixels⟩ := List.mem_filter.mp among
    exact ⟨_, Png.encode_eq_ok pixels, by rw [found, last]; rfl⟩
  · intro none
    rw [found, none]
    rfl

end Icons

/-! ## Conversions with and without icons -/

namespace Converter

/-- The converter that does or does not write icons. -/
def withIcons (wanted : Bool) (converter : Converter) : Converter :=
  { converter with settings := { converter.settings with writeIcons := wanted } }

section

variable {converter : Converter} {storage : Storage σ} {dump : Dump} {output : String}
  {state written : σ} {form : Noted Form} (built : (converter.formOf dump).value = .ok form)
  (stored : storage.write output form.value.render.toUTF8 state = .ok written)
include built stored

/-- Whether icons are wanted decides nothing before the form is written. -/
theorem convert_withIcons (wanted : Bool) :
    (converter.withIcons wanted).convert storage dump output state =
      let icons := (converter.withIcons wanted).storeIcons storage.sink form.value written
      (icons.1, ⟨.ok ⟨output, form.value.widgetCount, icons.2.stored,
        form.notes ++ icons.2.failures.map iconRemark⟩, (converter.formOf dump).lines⟩) := by
  have same : (converter.withIcons wanted).formOf dump = converter.formOf dump := rfl
  rw [convert, same, built]
  dsimp only
  rw [stored]

end

/-- Storing icons is advisory, and all icons are accounted for.  For any actions, a sink is asked for
the image files of those with icons, in their order and whatever it answers; it ends in the state
after all these requests, and the account is that of its answers.  In memory every icon is stored
under its name.  A conversion whose form is written succeeds, and with icons it gives the same report
as without, but for the number of icons stored and one remark for each of the others, which follow
those on the form. -/
theorem convert_accounts_for_icons :
    (∀ (σ : Type) (sink : AssetSink σ) (actions : List Action) (state : σ),
      (Icons.store sink.recording actions (state, [])).1.2 = Icons.requests actions ∧
      List.Forall₂ Icons.IsRequestFor (actions.filter Action.hasIcon) (Icons.requests actions) ∧
      (Icons.store sink actions state).1 = (sink.storeAll (Icons.requests actions) state).1 ∧
      (Icons.store sink actions state).2.Covers (actions.filter Action.hasIcon)
        (sink.storeAll (Icons.requests actions) state).2) ∧
    (∀ (actions : List Action) (assets : Assets),
      (Icons.store .memory actions assets).2.failures = [] ∧ ∀ name,
        (∀ action, Icons.lastNamed? name actions = some action → ∃ content,
          Png.encode action.icon = .ok content ∧
            Dictionary.get? name (Icons.store .memory actions assets).1 = some content) ∧
        (Icons.lastNamed? name actions = none →
          Dictionary.get? name (Icons.store .memory actions assets).1 =
            Dictionary.get? name assets)) ∧
    ∀ (σ : Type) (converter : Converter) (storage : Storage σ) (dump : Dump) (output : String)
      (state written : σ) (form : Noted Form), (converter.formOf dump).value = .ok form →
      storage.write output form.value.render.toUTF8 state = .ok written →
      (converter.withIcons false).convert storage dump output state =
        (written, ⟨.ok ⟨output, form.value.widgetCount, 0, form.notes⟩,
          (converter.formOf dump).lines⟩) ∧
      ∃ final icons, Icons.store storage.sink form.value.actions written = (final, icons) ∧
        (converter.withIcons true).convert storage dump output state =
          (final, ⟨.ok ⟨output, form.value.widgetCount, icons.stored,
            form.notes ++ icons.failures.map iconRemark⟩, (converter.formOf dump).lines⟩) ∧
        icons.stored + (icons.failures.map iconRemark).length =
          (form.value.actions.filter Action.hasIcon).length := by
  refine ⟨fun σ sink actions state => ?_, Icons.store_memory, ?_⟩
  · obtain ⟨final, covers⟩ := Icons.store_covers sink actions state
    refine ⟨?_, Icons.requests_isRequestFor actions, final, covers⟩
    rw [Icons.store_recording, List.nil_append]
  · intro σ converter storage dump output state written form built stored
    refine ⟨?_, _, _, rfl, convert_withIcons built stored true, ?_⟩
    · have noIcons : (converter.withIcons false).storeIcons storage.sink form.value written =
          (written, ⟨0, []⟩) := rfl
      rw [convert_withIcons built stored, noIcons]
      dsimp only
      rw [List.map_nil, List.append_nil]
    · rw [List.length_map]
      exact (Icons.store_covers storage.sink form.value.actions written).2.total

/-- Two entries of a tool bar with icons of one pixel, the first of which has a slash in its name, and
one entry without an icon. -/
def slashedTools : Record :=
  [Figure.describedComponent "uitoolbar" []
    [Figure.describedComponent "uitoggletool"
        [("CData", .matrix ⟨1, 1, 3, #[0, 1, 0], rfl⟩), ("Tag", .text "a/b")] [],
      Figure.describedComponent "uitoggletool" [("Tag", .text "bare")] [],
      Figure.describedComponent "uitoggletool"
        [("CData", .matrix ⟨1, 1, 3, #[0, 0, 1], rfl⟩), ("Tag", .text "save")] []]]

/-- A storage that keeps the form and the icons in memory, but no icon with a slash in its name. -/
def flatStorage : Storage (Option ByteArray × Assets) where
  write _ content := fun (_, assets) => .ok (some content, assets)
  sink := {
    name := "flat"
    store := fun name content (form, assets) =>
      if '/' ∈ name.toList then ((form, assets), .error (.invalidName name))
      else
        let (stored, result) := AssetSink.memory.store name content assets
        ((form, stored), result)
    isStored := fun name (_, assets) => AssetSink.memory.isStored name assets }

/-- One of the two icons is stored and the other is remarked on behind the remarks on the form; without
icons the same form is written, with the remarks on it alone. -/
theorem convert_accounts_for_icons_slashed :
    ∃ form, (usual.formOf (Figure.windowDump "pixels" slashedTools)).value = .ok form ∧
      (form.value.actions.filter Action.hasIcon).length = 2 ∧
      ((usual.withIcons false).convert flatStorage (Figure.windowDump "pixels" slashedTools)
        "form.ui" (none, [])).2.value = .ok ⟨"form.ui", form.value.widgetCount, 0, form.notes⟩ ∧
      ((usual.withIcons true).convert flatStorage (Figure.windowDump "pixels" slashedTools)
        "form.ui" (none, [])).2.value = .ok ⟨"form.ui", form.value.widgetCount, 1,
          form.notes ++ [iconRemark ⟨"a/b", .asset (.invalidName "a/b.png")⟩]⟩ := by
  have facts : (usual.formOf (Figure.windowDump "pixels" slashedTools)).value.toOption.map
      (fun form => ((form.value.actions.filter Action.hasIcon).length,
        (Icons.store flatStorage.sink form.value.actions
          (some form.value.render.toUTF8, [])).2)) =
      some (2, ⟨1, [⟨"a/b", .asset (.invalidName "a/b.png")⟩]⟩) := by
    decide +kernel
  obtain ⟨form, built, facts⟩ := exists_ok_of_map_toOption facts
  obtain ⟨two, account⟩ := Prod.mk.inj facts
  obtain ⟨without, final, icons, stores, with', -⟩ := convert_accounts_for_icons.2.2 _ usual
    flatStorage (Figure.windowDump "pixels" slashedTools) "form.ui" (none, [])
    (some form.value.render.toUTF8, []) form built rfl
  rw [stores] at account
  refine ⟨form, built, two, by rw [without], ?_⟩
  rw [with', show icons = _ from account]
  rfl

end Converter

end FigureForm
