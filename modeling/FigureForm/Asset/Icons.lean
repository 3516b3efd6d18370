/-
# Storing icons

The icons of a form's actions are stored as image files beside the form.  An icon without pixels is
passed over, and one that cannot be stored does not keep the others from being stored.
-/

import FigureForm.Asset.Sink
import FigureForm.Image.Png
import FigureForm.Widget.Node

namespace FigureForm

/-- Why an icon was not written. -/
inductive IconWriteFault
  | image (fault : ImageFault)
  | asset (fault : AssetFault)
  deriving DecidableEq, Repr

/-- What is said about an icon that was not written. -/
def IconWriteFault.message : IconWriteFault → String
  | image fault => "Icon encoding error: " ++ fault.message
  | asset fault => "Storing asset failed: " ++ fault.message

/-- An icon that was not written, with the name of its action. -/
structure IconFailure where
  action : String
  fault : IconWriteFault
  deriving DecidableEq, Repr

/-- How many icons were stored, and which were not. -/
structure StoredIcons where
  stored : Nat
  failures : List IconFailure
  deriving DecidableEq, Repr

namespace Icons

variable {σ : Type}

/-- Stores the icon of one action. -/
def storeIcon (sink : AssetSink σ) (action : Action) (state : σ) : σ × Except IconWriteFault Unit :=
  match Png.encode action.icon with
  | .error fault => (state, .error (.image fault))
  | .ok content =>
    let (next, result) := sink.store action.iconFileName content state
    (next, result.mapError .asset)

/-- Stores the icons of actions in order. -/
def store (sink : AssetSink σ) : List Action → σ → σ × StoredIcons
  | [], state => (state, ⟨0, []⟩)
  | action :: rest, state =>
    if action.hasIcon then
      let (next, result) := storeIcon sink action state
      let (last, others) := store sink rest next
      match result with
      | .ok () => (last, { others with stored := others.stored + 1 })
      | .error fault => (last, { others with failures := ⟨action.name, fault⟩ :: others.failures })
    else store sink rest state

end Icons

end FigureForm
