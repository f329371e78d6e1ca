import ScreenForm.Description.Leaf
import ScreenForm.Proofs.Description.Fault
/-!
# What the markers of a line say

`Marker.leading` lists the markers at the front of a text, and
`Attributes.Gathers` says which of them the attributes that are read from it keep. Of
names, styles and bindings none is lost, but of two keys with the same sign only
the last one is kept. `Line.markers` lists those of a line.
-/

namespace ScreenForm.Description

namespace Marker

/-- The markers at the front of a text, up to the first thing that is no marker. -/
def leading (line : Nat) (cs : List Char) : List Marker :=
  match h : next? line (Text.trimStart cs) with
  | .ok (some (m, rest)) =>
    have : rest.length < cs.length :=
      Nat.lt_of_lt_of_le (length_of_next? h) (Token.length_dropWhile_le Text.isBlank cs)
    m :: leading line rest
  | _ => []
termination_by cs.length

def id? : Marker → Option String
  | id name => some name
  | _ => none

def style? : Marker → Option String
  | style name => some name
  | _ => none

def info? : Marker → Option String
  | info key => some key
  | _ => none

def tooltip? : Marker → Option String
  | tooltip key => some key
  | _ => none

/-- The responder that events of this kind are bound to. -/
def responder? (kind : EventKind) : Marker → Option String
  | event k responder => if k = kind then some responder else none
  | _ => none

attribute [simp] id? style? info? tooltip? responder?

variable {n : Nat} {cs rest : List Char} {m : Marker}

theorem leading_of_some (h : next? n (Text.trimStart cs) = .ok (some (m, rest))) :
    leading n cs = m :: leading n rest := by
  rw [leading]
  split
  · next h' =>
    rw [h] at h'
    cases h'
    rfl
  · next hne => exact absurd h (hne m rest)

theorem leading_of_none (h : next? n (Text.trimStart cs) = .ok none) : leading n cs = [] := by
  rw [leading]
  split
  · next h' =>
    rw [h] at h'
    cases h'
  · rfl

end Marker

namespace Attributes

/-- The attributes are what these markers say. -/
structure Gathers (a : Attributes) (ms : List Marker) : Prop where
  id : a.id.toList = ms.filterMap Marker.id?
  styles : a.styles = ms.filterMap Marker.style?
  info : a.info = (ms.filterMap Marker.info?).getLast?
  tooltip : a.tooltip = (ms.filterMap Marker.tooltip?).getLast?
  events : ∀ kind, (a.events.get? kind).toList = ms.filterMap (Marker.responder? kind)

variable {a a' : Attributes} {ms : List Marker} {m : Marker} {n : Nat} {cs : List Char}

theorem gathers_nil : Gathers {} [] := ⟨rfl, rfl, rfl, rfl, fun kind => by cases kind <;> rfl⟩

theorem Gathers.add (h : a.Gathers ms) (ha : a.add n m = .ok a') : a'.Gathers (ms ++ [m]) := by
  cases m with
  | id name =>
    simp only [Attributes.add] at ha
    split at ha
    · cases ha
    · next hnone =>
      cases ha
      have hid : a.id = none := by simpa using hnone
      have hold : ms.filterMap Marker.id? = [] := by rw [← h.id, hid, Option.toList_none]
      constructor <;> simp [hold, h.styles, h.info, h.tooltip, h.events]
  | style name =>
    cases ha
    constructor <;> simp [h.id, h.styles, h.info, h.tooltip, h.events]
  | info key =>
    cases ha
    constructor <;> simp [h.id, h.styles, h.tooltip, h.events]
  | tooltip key =>
    cases ha
    constructor <;> simp [h.id, h.styles, h.info, h.events]
  | event kind responder =>
    simp only [Attributes.add] at ha
    split at ha
    · cases ha
    · next hnone =>
      cases ha
      have hget : a.events.get? kind = none := by simpa using hnone
      have hold : ms.filterMap (Marker.responder? kind) = [] := by rw [← h.events, hget, Option.toList_none]
      constructor
      case events =>
        intro k
        by_cases hk : k = kind
        · subst hk
          simp [hold]
        · simp [hk, Ne.symm hk, h.events]
      all_goals simp [h.id, h.styles, h.info, h.tooltip]

theorem gathers_addMarkers (a : Attributes) (cs : List Char) : ∀ ms, a.Gathers ms → ∀ x, a.addMarkers n cs = .ok x →
    x.1.Gathers (ms ++ Marker.leading n cs) := by
  fun_induction Attributes.addMarkers a n cs with
  | case1 a cs trimmed e hnext =>
    intro ms h x hx
    cases hx
  | case2 a cs trimmed hnext =>
    intro ms h x hx
    cases hx
    rwa [Marker.leading_of_none hnext, List.append_nil]
  | case3 a cs trimmed m rest hnext hlt ih =>
    intro ms h x hx
    obtain ⟨b, hb, hx⟩ := Except.bind_eq_ok.1 hx
    rw [Marker.leading_of_some hnext, ← List.singleton_append, ← List.append_assoc]
    exact ih b _ (h.add hb) x hx

/-- The attributes of a text are what the markers at its front say. -/
theorem gathers_parse {arguments : Arguments} (h : Attributes.parse cs n = .ok (a, arguments)) :
    a.Gathers (Marker.leading n cs) := by
  obtain ⟨⟨b, rest⟩, hscan, h⟩ := Except.bind_eq_ok.1 h
  obtain ⟨_, -, h⟩ := Except.bind_eq_ok.1 h
  cases h
  exact gathers_addMarkers _ _ [] gathers_nil _ hscan

end Attributes

/-! ## Lines -/

namespace Line

/-- The part of a line after what it shows, where its markers and its arguments stand. -/
def details : Line → List Char
  | command .text data | command .header data | command .footer data =>
    ((Text.splitAtWord textSeparator data).map (·.2)).getD []
  | command .button data | command .checkBox data | command .radioButton data =>
    ((bracketed? data).map (·.2)).getD []
  | command .edit data => (((Text.splitOnce '[' data).bind fun r => Text.splitOnce ']' r.2).map (·.2)).getD []
  | command .divider data | command (.opening _) data | rule _ data => data
  | command .closing _ | comment | blank => []

def markers (n : Nat) (line : Line) : List Marker :=
  Marker.leading n line.details

/-- Whether the widget of a line can produce events of this kind. -/
def produces : Line → EventKind → Bool
  | command .button _, .press | command .checkBox _, .press | command .radioButton _, .press => true
  | command .edit _, .edit => true
  | _, .press | _, .edit => false
  | _, .focus | _, .key => true

/-- Whether a line describes a widget: it is no comment and does not end a container. -/
def describes : Line → Bool
  | comment | command .closing _ => false
  | _ => true

theorem markers_of_describes_eq_false {line : Line} (h : line.describes = false) (n : Nat) : line.markers n = [] := by
  cases line with
  | comment => exact Marker.leading_of_none rfl
  | command opcode data =>
    cases opcode with
    | closing => exact Marker.leading_of_none rfl
    | _ => cases h
  | _ => cases h

end Line

theorem Attributes.gathers_markers {a : Attributes} {arguments : Arguments} {n : Nat} {rest : List Char} {line : Line}
    (h : Attributes.parse rest n = .ok (a, arguments)) (hrest : line.details = rest) : a.Gathers (line.markers n) := by
  rw [Line.markers, hrest]
  exact gathers_parse h

/-- The markers of a numbered line. A line that cannot be read has none. -/
def markersOf (numbered : List Char × Nat) : List Marker :=
  ((Line.parse numbered.2 numbered.1).toOption.map (·.markers numbered.2)).getD []

theorem markersOf_eq {l : List Char × Nat} {line : Line} (h : Line.parse l.2 l.1 = .ok line) :
    markersOf l = line.markers l.2 := by
  rw [markersOf, h]
  rfl

end ScreenForm.Description
