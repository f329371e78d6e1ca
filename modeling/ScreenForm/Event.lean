/-!
# Events

The kinds of events that a description can bind to responders.
-/

namespace ScreenForm

inductive EventKind where
  | press
  | edit
  | focus
  | key
  deriving Repr, DecidableEq, Inhabited

namespace EventKind

def all : List EventKind :=
  [press, edit, focus, key]

def name : EventKind → String
  | press => "press"
  | edit => "edit"
  | focus => "focus"
  | key => "key"

def ofName? (name : String) : Option EventKind :=
  all.find? (·.name = name)

theorem ofName?_name (k : EventKind) : ofName? k.name = some k := by
  cases k <;> decide

end EventKind

/-- The responders bound to the events of one widget, at most one for each kind. -/
structure Bindings where
  press : Option String := none
  edit : Option String := none
  focus : Option String := none
  key : Option String := none
  deriving Repr, DecidableEq, Inhabited

namespace Bindings

def get? (b : Bindings) : EventKind → Option String
  | .press => b.press
  | .edit => b.edit
  | .focus => b.focus
  | .key => b.key

def set (b : Bindings) (kind : EventKind) (responder : String) : Bindings :=
  match kind with
  | .press => { b with press := some responder }
  | .edit => { b with edit := some responder }
  | .focus => { b with focus := some responder }
  | .key => { b with key := some responder }

/-- The bindings in the order of the event kinds. -/
def toList (b : Bindings) : List (EventKind × String) :=
  EventKind.all.filterMap fun kind => (b.get? kind).map (kind, ·)

@[simp] theorem get?_set (b : Bindings) (k k' : EventKind) (r : String) :
    (b.set k r).get? k' = if k' = k then some r else b.get? k' := by
  cases k <;> cases k' <;> rfl

theorem mem_toList {b : Bindings} {k : EventKind} {r : String} :
    (k, r) ∈ b.toList ↔ b.get? k = some r := by
  cases k <;> simp [toList, EventKind.all]

end Bindings

end ScreenForm
