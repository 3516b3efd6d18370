/-
# What a sink is asked to store

A sink that keeps a record of what it is asked to store behaves like the sink itself.  From its
record one sees that storing the icons of actions asks for each icon with pixels once, in the order
of the actions, whether or not earlier icons could be stored.
-/

import Mathlib.Data.List.Forall2
import FigureForm.Asset.Icons
import FigureForm.Proofs.ImageFile

namespace FigureForm

variable {σ : Type}

/-- The sink that also keeps in order the names and contents that it was asked to store, whether or
not that worked. -/
def AssetSink.recording (sink : AssetSink σ) : AssetSink (σ × List (String × ByteArray)) where
  name := sink.name
  store name content := fun (state, record) =>
    let (next, result) := sink.store name content state
    ((next, record ++ [(name, content)]), result)
  isStored name := fun (state, _) => sink.isStored name state

/-- The account of stored icons with one more action in front of those that it covers. -/
def StoredIcons.including (others : StoredIcons) (action : Action) :
    Except IconWriteFault Unit → StoredIcons
  | .ok () => { others with stored := others.stored + 1 }
  | .error fault => { others with failures := ⟨action.name, fault⟩ :: others.failures }

namespace Icons

/-- What a sink is asked to store for the icons of actions. -/
def requests (actions : List Action) : List (String × ByteArray) :=
  (actions.filter Action.hasIcon).map fun action =>
    (action.iconFileName, ⟨(Png.fileBytes action.icon).toArray⟩)

theorem requests_cons_of_hasIcon {action : Action} (pixels : action.hasIcon = true)
    (rest : List Action) :
    requests (action :: rest) =
      (action.iconFileName, ⟨(Png.fileBytes action.icon).toArray⟩) :: requests rest := by
  rw [requests, List.filter_cons_of_pos pixels, List.map_cons, requests]

theorem requests_cons_of_not_hasIcon {action : Action} (noPixels : ¬ action.hasIcon = true)
    (rest : List Action) : requests (action :: rest) = requests rest := by
  rw [requests, List.filter_cons_of_neg noPixels, requests]

section

variable (sink : AssetSink σ) (state : σ)

/-- The icons behind the first are stored in the state that the first leads to, with whatever
result. -/
theorem store_cons_of_hasIcon {action : Action} (pixels : action.hasIcon = true)
    (rest : List Action) :
    store sink (action :: rest) state =
      ((store sink rest (storeIcon sink action state).1).1,
        (store sink rest (storeIcon sink action state).1).2.including action
          (storeIcon sink action state).2) := by
  rw [store, if_pos pixels]
  generalize storeIcon sink action state = outcome
  obtain ⟨next, result⟩ := outcome
  cases result <;> rfl

theorem storeIcon_recording {action : Action} (pixels : action.hasIcon = true)
    (record : List (String × ByteArray)) :
    storeIcon sink.recording action (state, record) =
      (((storeIcon sink action state).1,
          record ++ [(action.iconFileName, ⟨(Png.fileBytes action.icon).toArray⟩)]),
        (storeIcon sink action state).2) := by
  rw [storeIcon, storeIcon, Png.encode_eq_ok pixels]
  rfl

/-- With a record kept, the same icons are stored with the same results, and what was asked for is
added to the record. -/
theorem store_recording (actions : List Action) (record : List (String × ByteArray)) :
    store sink.recording actions (state, record) =
      (((store sink actions state).1, record ++ requests actions),
        (store sink actions state).2) := by
  induction actions generalizing state record with
  | nil => simp [store, requests]
  | cons action rest ih =>
    by_cases pixels : action.hasIcon = true
    · rw [store_cons_of_hasIcon _ _ pixels, store_cons_of_hasIcon _ _ pixels,
        storeIcon_recording _ _ pixels, ih, requests_cons_of_hasIcon pixels, List.append_assoc,
        List.singleton_append]
    · rw [store, store, if_neg pixels, if_neg pixels, ih, requests_cons_of_not_hasIcon pixels]

end

/-- A request to store an image file of an action's icon under the name that the icon has. -/
structure IsRequestFor (action : Action) (request : String × ByteArray) : Prop where
  name : request.1 = action.iconFileName
  encoded : Png.encode action.icon = .ok request.2
  decoded : Png.Fits action.icon → Png.decode? request.2 = some action.icon

theorem requests_isRequestFor (actions : List Action) :
    List.Forall₂ IsRequestFor (actions.filter Action.hasIcon) (requests actions) := by
  rw [requests, List.forall₂_map_right_iff, List.forall₂_same]
  intro action member
  obtain ⟨-, pixels⟩ := List.mem_filter.mp member
  exact ⟨rfl, Png.encode_eq_ok pixels, Png.decode?_fileBytes⟩

end Icons

end FigureForm
