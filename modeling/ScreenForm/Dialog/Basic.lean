import ScreenForm.Dialog.Panel

/-!
# Dialogs

A dialog is a panel with handlers of its own, over the form of a console. A
`DialogPlan` says what to show; the dialog is built when it opens. What handlers
and end callbacks are is left open: `H` and `E` stand for them.
-/

namespace ScreenForm

structure DialogPlan (H E : Type) where
  description : String
  /-- Palette text to lay over the palette of dialogs. -/
  palette : Option String := none
  /-- A header in place of the one that is described. -/
  header : Option String := none
  width : Nat := 40
  height : Option Nat := none
  strings : StringTable := {}
  handler : Option H := none
  /-- What to do when the dialog has ended. -/
  onEnd : Option E := none

structure Dialog (H E : Type) extends Panel where
  /-- The handlers, the top one first. -/
  handlers : List H
  onEnd : Option E

namespace DialogPlan

variable {H E : Type}

/-- The palette of a dialog over the one that dialogs share. -/
def paletteOver (plan : DialogPlan H E) (base : Palette) : Except StyleError Palette :=
  match plan.palette with
  | some text => (Layer.parse text).map base.addLayer
  | none => .ok base

def build (plan : DialogPlan H E) (base : Palette) : Except FormError (Dialog H E) := do
  let palette ← liftError (plan.paletteOver base)
  let form ← Form.parse plan.description palette plan.strings
  return { Panel.ofForm form plan.header plan.width plan.height with
    handlers := plan.handler.toList
    onEnd := plan.onEnd }

end DialogPlan

end ScreenForm
