import ScreenForm.Description.Argument

/-!
# Markers

A line of a description can give its widget a name, styles, texts for the
footer and bindings, each with a marker of its own:

    #name @style ?INFO !TOOLTIP &event=responder

`Marker.next?` reads the marker at the front of a text, and `Attributes.scan`
all of them, up to the first thing that is no marker.
-/

namespace ScreenForm.Description

inductive Marker where
  | id (name : String)
  | style (name : String)
  | info (key : String)
  | tooltip (key : String)
  | event (kind : EventKind) (responder : String)
  deriving Repr, DecidableEq, Inhabited

/-- What the markers of a line say. -/
structure Attributes where
  id : Option String := none
  /-- Style names, of which an earlier one wins. -/
  styles : List String := []
  info : Option String := none
  tooltip : Option String := none
  events : Bindings := {}
  deriving Repr, DecidableEq, Inhabited

namespace Marker

/-- The written form of a marker. -/
def written : Marker → String
  | id name => "#" ++ name
  | style name => "@" ++ name
  | info key => "?" ++ key
  | tooltip key => "!" ++ key
  | event kind responder => "&" ++ kind.name ++ "=" ++ responder

/-- The marker that a sign and a name make. -/
def ofSign? : Char → String → Option Marker
  | '#', name => some (id name)
  | '@', name => some (style name)
  | '?', name => some (info name)
  | '!', name => some (tooltip name)
  | _, _ => none

/-- The binding whose `&` has been read, and the text after it. -/
def nextEvent (line : Nat) (cs : List Char) : Except SyntaxError (Marker × List Char) :=
  let event := cs.takeWhile isNameChar
  let rest := cs.dropWhile isNameChar
  match event, rest with
  | _ :: _, '=' :: rest =>
    let responder := rest.takeWhile isNameChar
    if responder.isEmpty then
      .error (.malformedAttribute (String.ofList ('&' :: event ++ ['='])) line)
    else
      match EventKind.ofName? (String.ofList event) with
      | some kind => .ok (.event kind (String.ofList responder), rest.dropWhile isNameChar)
      | none => .error (.unknownEvent (String.ofList event) line)
  | _, _ =>
    .error (.malformedAttribute (String.ofList ('&' :: cs.takeWhile (!Text.isBlank ·))) line)

/-- The marker at the front of a text, if there is one, and the text after it. A sign without a
name is no marker, but an `&` has to be one. -/
def next? (line : Nat) : List Char → Except SyntaxError (Option (Marker × List Char))
  | [] => .ok none
  | '&' :: cs => (nextEvent line cs).map some
  | sign :: cs =>
    let name := cs.takeWhile isNameChar
    if name.isEmpty then .ok none
    else .ok ((ofSign? sign (String.ofList name)).map (·, cs.dropWhile isNameChar))

theorem length_of_nextEvent {line : Nat} {cs rest : List Char} {m : Marker}
    (h : nextEvent line cs = .ok (m, rest)) : rest.length < cs.length := by
  simp only [nextEvent] at h
  split at h
  · next tail _ hrest =>
    split at h
    · simp at h
    · split at h
      · simp only [Except.ok.injEq, Prod.mk.injEq] at h
        have hcs := Token.length_dropWhile_le isNameChar cs
        have htail := Token.length_dropWhile_le isNameChar tail
        rw [hrest] at hcs
        rw [← h.2]
        simp at hcs
        omega
      · simp at h
  · simp at h

theorem length_of_next? {line : Nat} {cs rest : List Char} {m : Marker}
    (h : next? line cs = .ok (some (m, rest))) : rest.length < cs.length := by
  unfold next? at h
  split at h
  · simp at h
  · next cs =>
    match hr : nextEvent line cs with
    | .error _ => simp [hr, Except.map] at h
    | .ok r =>
      simp only [hr, Except.map, Except.ok.injEq, Option.some.injEq] at h
      have := length_of_nextEvent (h ▸ hr)
      simp
      omega
  · next sign cs _ =>
    dsimp only at h
    split at h
    · simp at h
    · simp only [Except.ok.injEq, Option.map_eq_some_iff, Prod.mk.injEq] at h
      obtain ⟨_, _, _, rfl⟩ := h
      exact Nat.lt_succ_of_le (Token.length_dropWhile_le ..)

end Marker

namespace Attributes

/-- Adds what a marker says. A second name, and a second binding of the same kind of event, are
errors. -/
def add (a : Attributes) (line : Nat) (m : Marker) : Except SyntaxError Attributes :=
  match m with
  | .id name =>
    if a.id.isSome then .error (.malformedAttribute m.written line)
    else .ok { a with id := some name }
  | .style name => .ok { a with styles := a.styles ++ [name] }
  | .info key => .ok { a with info := some key }
  | .tooltip key => .ok { a with tooltip := some key }
  | .event kind responder =>
    if (a.events.get? kind).isSome then .error (.malformedAttribute m.written line)
    else .ok { a with events := a.events.set kind responder }

/-- Adds the markers at the front of a text, and gives the text after them. -/
def addMarkers (a : Attributes) (line : Nat) (cs : List Char) :
    Except SyntaxError (Attributes × List Char) :=
  let trimmed := Text.trimStart cs
  match h : Marker.next? line trimmed with
  | .error e => .error e
  | .ok none => .ok (a, trimmed)
  | .ok (some (m, rest)) =>
    have : rest.length < cs.length :=
      Nat.lt_of_lt_of_le (Marker.length_of_next? h) (Token.length_dropWhile_le Text.isBlank cs)
    (a.add line m).bind fun a => addMarkers a line rest
termination_by cs.length

/-- The attributes at the front of a text, and the text after them. -/
def scan (cs : List Char) (line : Nat) : Except SyntaxError (Attributes × List Char) :=
  addMarkers {} line cs

/-- The attributes in a text and the arguments after them. -/
def parse (cs : List Char) (line : Nat) : Except SyntaxError (Attributes × Arguments) := do
  let (attributes, rest) ← scan cs line
  return (attributes, ← Arguments.parse rest line)

end Attributes

end ScreenForm.Description
