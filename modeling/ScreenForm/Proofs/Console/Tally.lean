import ScreenForm.Proofs.Console.Message
/-!
# Requests to stop

The journal of a console holds what each handler has made of its context. A handler
can only ask the console to stop by a call on it, so what the console knows of a
stop is what it has been asked for in its deeds (`Tallies`).
-/

namespace ScreenForm

open Relation (ReflTransGen)

variable {H E W α β : Type} {R : Form → Form → Prop}

/-! ## Requests to stop -/

namespace Control

/-- Whether a stop is requested, and the message for it. -/
def request (k : Control H E) : Bool × Option String := (k.stopRequested, k.finalMessage)

/-- What requests with these messages make of it. -/
def heard (messages : List (Option String)) (request : Bool × Option String) : Bool × Option String :=
  messages.foldl (fun _ message => (true, message)) request

theorem heard_append (ms ms' : List (Option String)) (request : Bool × Option String) :
    heard (ms ++ ms') request = heard ms' (heard ms request) :=
  List.foldl_append

theorem heard_concat (ms : List (Option String)) (message : Option String) (request : Bool × Option String) :
    heard (ms ++ [message]) request = (true, message) := by
  rw [heard_append]
  rfl

theorem heard_fst {ms : List (Option String)} {request : Bool × Option String} (h : request.1 = true) :
    (heard ms request).1 = true := by
  rcases List.eq_nil_or_concat ms with rfl | ⟨ms, m, rfl⟩
  · exact h
  · rw [List.concat_eq_append, heard_concat]

end Control

namespace Context

variable {c c' : Context H E} {ms : List (Option String)}

/-- Calls on a context, with the messages of those that ask the console to stop. -/
inductive Asks (R : Form → Form → Prop) (c : Context H E) : List (Option String) → Context H E → Prop
  | none : Asks R c [] c
  | stop {ms : List (Option String)} {c' : Context H E} (asks : Asks R c ms c') (message : Option String) :
      Asks R c (ms ++ [message]) (c'.stop message)
  | other {ms : List (Option String)} {c' c'' : Context H E} (asks : Asks R c ms c') (call : Call R c' c'')
      (silent : c''.control.request = c'.control.request) : Asks R c ms c''

theorem Call.stop_or_silent (h : Call R c c') :
    (∃ message, c' = c.stop message) ∨ c'.control.request = c.control.request := by
  cases h with
  | stop message => exact .inl ⟨message, rfl⟩
  | form | setInfo | setTooltip => exact .inr rfl
  | openDialog asked =>
    unfold Context.openDialog at asked
    split at asked
    · cases asked
    · cases asked
      exact .inr rfl
  | endDialog asked =>
    unfold Context.endDialog at asked
    split at asked
    · cases asked
      exact .inr rfl
    · cases asked

theorem exists_asks (h : ReflTransGen (Call R) c c') : ∃ ms, Asks R c ms c' := by
  induction h with
  | refl => exact ⟨[], .none⟩
  | tail _ call ih =>
    obtain ⟨ms, hms⟩ := ih
    rcases call.stop_or_silent with ⟨message, rfl⟩ | silent
    · exact ⟨_, hms.stop message⟩
    · exact ⟨ms, hms.other call silent⟩

theorem Asks.heard (h : Asks R c ms c') : c'.control.request = Control.heard ms c.control.request := by
  induction h with
  | none => rfl
  | stop asks message ih => rw [Control.heard_concat]; rfl
  | other asks call silent ih => rw [silent, ih]

end Context

/-- In the course of the deed the console was asked to stop with these messages, in this order. -/
def Entry.Asks (R : Form → Form → Prop) (e : Entry H E) (ms : List (Option String)) : Prop :=
  match e.deed.context? with
  | some c => ∃ c', c.Asks R ms c' ∧ c'.control = e.after.control
  | none => ms = []

/-- In the course of these deeds, the last of them first, the console was asked to stop with these messages, the
first of them first. -/
inductive Asked (R : Form → Form → Prop) : List (Entry H E) → List (Option String) → Prop
  | nil : Asked R [] []
  | cons {e : Entry H E} {es : List (Entry H E)} {ms ms' : List (Option String)} (asks : e.Asks R ms')
      (asked : Asked R es ms) :
      Asked R (e :: es) (ms ++ ms')

theorem asked_iff_given {es : List (Entry H E)} {ms : List (Option String)} :
    Asked R es ms ↔ Given (Context.Asks R) es ms := by
  induction es generalizing ms with
  | nil =>
    constructor
    · rintro ⟨⟩
      rfl
    · rintro rfl
      exact .nil
  | cons e es ih =>
    constructor
    · rintro (_ | ⟨asks, asked⟩)
      exact ⟨_, _, rfl, ih.1 asked, asks⟩
    · rintro ⟨ms₁, ms₂, rfl, asked, asks⟩
      exact .cons asks (ih.2 asked)

theorem Context.telling_asks :
    Telling R (H := H) (E := E) (Context.Asks R) Control.request Control.heard where
  nil _ := rfl
  append := Control.heard_append
  calls := exists_asks
  acts := Asks.heard

namespace Console

variable {c c' c'' : Console H E}

/-- What the console knows of a stop is what handlers and end callbacks have asked for since it was `c`. -/
def Tallies (R : Form → Form → Prop) (c c' : Console H E) : Prop :=
  ∃ es, c'.journal = es ++ c.journal ∧ (∃ ms, Asked R es ms) ∧
    ∀ ms, Asked R es ms → c'.control.request = Control.heard ms c.control.request

theorem tallies_iff_follows : c.Tallies R c' ↔ c.Follows (Context.Asks R) Control.request Control.heard c' := by
  simp only [Tallies, Follows, asked_iff_given]

theorem tallies_of_eq (hj : c'.journal = c.journal) (hr : c'.control.request = c.control.request) : c.Tallies R c' :=
  tallies_iff_follows.2 (follows_of_eq Context.telling_asks hj hr)

theorem Tallies.trans (h : c.Tallies R c') (h' : c'.Tallies R c'') : c.Tallies R c'' :=
  tallies_iff_follows.2
    ((tallies_iff_follows.1 h).trans Context.telling_asks (tallies_iff_follows.1 h'))

/-- A request to stop stays. -/
theorem Tallies.stopRequested (h : c.Tallies R c') (hs : c.control.stopRequested = true) :
    c'.control.stopRequested = true := by
  obtain ⟨es, -, ⟨ms, hms⟩, hall⟩ := h
  exact (congrArg Prod.fst (hall ms hms)).trans (Control.heard_fst hs)

end Console

end ScreenForm
