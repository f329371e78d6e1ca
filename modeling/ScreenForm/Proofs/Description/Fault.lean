import Mathlib.Tactic.Common
import ScreenForm.Form.Assembly
/-!
# Where a description fails

What is wrong with the attributes, the arguments or the text of a line is an
error at that line, and never one of the bracket structure. `AtLine n` says so
of an error, and `FailsOnly` of a result. The number of the line goes nowhere
else: a line that is read under another number gives the same, or the same error
with that number (`Rereads`).
-/

namespace ScreenForm

/-- An error, if there is one, satisfies `P`. -/
def FailsOnly {ε α : Type} (P : ε → Prop) (x : Except ε α) : Prop := ∀ e, x = .error e → P e

namespace FailsOnly

variable {ε α β : Type} {P : ε → Prop}

theorem ok (a : α) : FailsOnly P (.ok a) := by intro e h; cases h

theorem error {e : ε} (h : P e) : FailsOnly P (.error e : Except ε α) := by intro e' he; cases he; exact h

theorem bind {x : Except ε α} {f : α → Except ε β} (hx : FailsOnly P x) (hf : ∀ a, FailsOnly P (f a)) :
    FailsOnly P (x >>= f) := by
  cases x with
  | ok a => exact hf a
  | error e => exact .error (hx e rfl)

theorem mono {Q : ε → Prop} {x : Except ε α} (h : ∀ e, P e → Q e) (hx : FailsOnly P x) : FailsOnly Q x :=
  fun e he => h e (hx e he)

end FailsOnly

/-- Two computations that end in errors, or in results, of which the relation holds. -/
inductive Parallel {ε ε' α β : Type} (S : ε → ε' → Prop) (R : α → β → Prop) : Except ε α → Except ε' β → Prop
  | ok {a : α} {b : β} (h : R a b) : Parallel S R (.ok a) (.ok b)
  | error {e : ε} {e' : ε'} (h : S e e') : Parallel S R (.error e) (.error e')

namespace Parallel

variable {ε ε' η η' α β γ δ : Type} {S : ε → ε' → Prop} {T : η → η' → Prop} {R : α → β → Prop} {Q : γ → δ → Prop}

theorem bind {x : Except ε α} {y : Except ε' β} {f : α → Except ε γ} {g : β → Except ε' δ} (h : Parallel S R x y)
    (hfg : ∀ a b, R a b → Parallel S Q (f a) (g b)) : Parallel S Q (x >>= f) (y >>= g) := by
  cases h with
  | ok h => exact hfg _ _ h
  | error h => exact .error h

theorem map {x : Except ε α} {y : Except ε' β} {f : α → γ} {g : β → δ} (h : Parallel S R x y)
    (hfg : ∀ a b, R a b → Q (f a) (g b)) : Parallel S Q (x.map f) (y.map g) := by
  cases h with
  | ok h => exact .ok (hfg _ _ h)
  | error h => exact .error h

theorem lift [Coe ε FormError] [Coe ε' FormError] {U : FormError → FormError → Prop} {x : Except ε α} {y : Except ε' β}
    (h : Parallel S R x y) (hU : ∀ e e', S e e' → U e e') : Parallel U R (liftError x) (liftError y) := by
  cases h with
  | ok h => exact .ok h
  | error h => exact .error (hU _ _ h)

theorem failsOnly {P : ε → Prop} {x : Except ε α} {y : Except ε' β} (h : Parallel S R x y) (hP : ∀ e e', S e e' → P e) :
    FailsOnly P x := by
  cases h with
  | ok h => exact .ok _
  | error h => exact .error (hP _ _ h)

end Parallel

/-- A result of one of two functions on results that are no errors. -/
theorem Except.bind_eq_ok {ε α β : Type} {x : Except ε α} {f : α → Except ε β} {b : β} :
    x >>= f = .ok b ↔ ∃ a, x = .ok a ∧ f a = .ok b := by
  constructor
  · intro h
    cases x with
    | ok a => exact ⟨a, rfl, h⟩
    | error e => cases h
  · rintro ⟨a, rfl, h⟩
    exact h

theorem Except.map_eq_ok {ε α β : Type} {x : Except ε α} {f : α → β} {b : β} :
    x.map f = .ok b ↔ ∃ a, x = .ok a ∧ f a = b := by
  cases x with
  | ok a => simp [Except.map]
  | error e => simp [Except.map]

theorem Except.toOption_eq_some {ε α : Type} {x : Except ε α} {a : α} : x.toOption = some a ↔ x = .ok a := by
  cases x <;> simp [Except.toOption]

theorem liftError_eq_ok {ε α : Type} [Coe ε FormError] {x : Except ε α} {a : α} :
    liftError x = .ok a ↔ x = .ok a := by
  cases x <;> simp [liftError]

/-- The error is at line `n`, and no closing line without an open container. -/
def SyntaxError.AtLine (n : Nat) (e : SyntaxError) : Prop :=
  e.line? = some n ∧ ∀ m, e ≠ .unbalancedEnd m

/-- The same error where the lines have other numbers. -/
def SyntaxError.reline (f : Nat → Nat) : SyntaxError → SyntaxError
  | unrecognizedWidget opcode line => .unrecognizedWidget opcode (f line)
  | malformedAttribute text line => .malformedAttribute text (f line)
  | unknownEvent event line => .unknownEvent event (f line)
  | malformedArguments text reason line => .malformedArguments text reason (f line)
  | unsupportedArgument name widget line => .unsupportedArgument name widget (f line)
  | invalidArgument name widget expected line => .invalidArgument name widget expected (f line)
  | malformedButton text line => .malformedButton text (f line)
  | malformedEdit text line => .malformedEdit text (f line)
  | unbalancedEnd line => .unbalancedEnd (f line)
  | endWithArguments text line => .endWithArguments text (f line)
  | unclosedContainer depth => .unclosedContainer depth
  | duplicateHeader line => .duplicateHeader (f line)
  | duplicateFooter line => .duplicateFooter (f line)

namespace Description

/-- What is read at line `n`, and again where the lines have other numbers, is the same, or fails with the same error
at its line. -/
def Rereads {α : Type} (f : Nat → Nat) (n : Nat) : Except SyntaxError α → Except SyntaxError α → Prop :=
  Parallel (fun e e' => e.AtLine n ∧ e' = e.reline f) Eq

namespace Rereads

variable {α β : Type} {f : Nat → Nat} {n : Nat} {x y : Except SyntaxError α}

theorem ok (a : α) : Rereads f n (.ok a) (.ok a) := Parallel.ok rfl

theorem error {e : SyntaxError} (h : e.AtLine n) :
    Rereads f n (.error e : Except SyntaxError α) (.error (e.reline f)) :=
  Parallel.error ⟨h, rfl⟩

theorem bind {g g' : α → Except SyntaxError β} (h : Rereads f n x y) (hg : ∀ a, Rereads f n (g a) (g' a)) :
    Rereads f n (x >>= g) (y >>= g') :=
  Parallel.bind h fun a _ hab => hab ▸ hg a

theorem map (g : α → β) (h : Rereads f n x y) : Rereads f n (x.map g) (y.map g) :=
  Parallel.map h fun _ _ hab => congrArg g hab

theorem eq_mapError (h : Rereads f n x y) : y = x.mapError (·.reline f) := by
  cases h with
  | ok h => exact congrArg _ h.symm
  | error h => exact congrArg _ h.2

theorem failsOnly (h : Rereads f n x y) : FailsOnly (SyntaxError.AtLine n) x :=
  Parallel.failsOnly h fun _ _ he => he.1

end Rereads

/-! ## Arguments -/

/-- Two readers do the same with all arguments, at line `n` and where the lines have other numbers. -/
def ReadsAlike {α : Type} (f : Nat → Nat) (n : Nat) (reader reader' : ArgumentReader α) : Prop :=
  ∀ args, Rereads f n (reader.run.run args).1 (reader'.run.run args).1 ∧
    (reader'.run.run args).2 = (reader.run.run args).2

namespace ReadsAlike

variable {α β : Type} {f : Nat → Nat} {n : Nat}

theorem pure (a : α) : ReadsAlike f n (Pure.pure a) (Pure.pure a) := fun _ => ⟨.ok a, rfl⟩

theorem throw {e : SyntaxError} (h : e.AtLine n) :
    ReadsAlike f n (MonadExcept.throw e : ArgumentReader α) (MonadExcept.throw (e.reline f)) := fun _ => ⟨.error h, rfl⟩

theorem bind {r r' : ArgumentReader α} {g g' : α → ArgumentReader β} (hr : ReadsAlike f n r r')
    (hg : ∀ a, ReadsAlike f n (g a) (g' a)) : ReadsAlike f n (r >>= g) (r' >>= g') := by
  intro args
  obtain ⟨hfirst, hargs⟩ := hr args
  rw [ExceptT.run_bind, StateT.run_bind, ExceptT.run_bind, StateT.run_bind]
  rcases hx : r.run.run args with ⟨x, left⟩
  rcases hx' : r'.run.run args with ⟨x', left'⟩
  rw [hx, hx'] at hfirst hargs
  obtain rfl : left' = left := hargs
  cases hfirst with
  | ok h =>
    cases h
    exact hg _ _
  | error h => exact ⟨Parallel.error h, rfl⟩

theorem take? (name : String) : ReadsAlike f n (ArgumentReader.take? name) (ArgumentReader.take? name) :=
  fun _ => ⟨.ok _, rfl⟩

theorem takePositional? : ReadsAlike f n ArgumentReader.takePositional? ArgumentReader.takePositional? :=
  fun _ => ⟨.ok _, rfl⟩

theorem takeAs? (convert : Literal → Option α) (expected name widget : String) :
    ReadsAlike f n (ArgumentReader.takeAs? convert expected name widget n)
      (ArgumentReader.takeAs? convert expected name widget (f n)) := by
  unfold ArgumentReader.takeAs?
  refine (take? name).bind fun literal => ?_
  split
  · exact .pure _
  · split
    · exact .pure _
    · exact .throw ⟨rfl, nofun⟩

theorem takeBool? (name widget : String) :
    ReadsAlike f n (ArgumentReader.takeBool? name widget n) (ArgumentReader.takeBool? name widget (f n)) :=
  takeAs? _ _ name widget

theorem takeNat? (name widget : String) :
    ReadsAlike f n (ArgumentReader.takeNat? name widget n) (ArgumentReader.takeNat? name widget (f n)) :=
  takeAs? _ _ name widget

theorem takeText? (name widget : String) :
    ReadsAlike f n (ArgumentReader.takeText? name widget n) (ArgumentReader.takeText? name widget (f n)) :=
  takeAs? _ _ name widget

theorem takeAlign (default : Align) (widget : String) :
    ReadsAlike f n (takeAlign default widget n) (takeAlign default widget (f n)) := by
  unfold Description.takeAlign
  refine (takeText? _ _).bind fun name => ?_
  split
  · exact .pure _
  · split
    · exact .pure _
    · exact .throw ⟨rfl, nofun⟩

theorem finish (widget : String) :
    ReadsAlike f n (ArgumentReader.finish widget n) (ArgumentReader.finish widget (f n)) := by
  intro args
  unfold ArgumentReader.finish
  rw [ExceptT.run_bind, StateT.run_bind, ExceptT.run_bind, StateT.run_bind]
  rcases args with ⟨_ | ⟨extra, _⟩, _ | ⟨⟨name, _⟩, _⟩⟩
  · exact ⟨.ok _, rfl⟩
  all_goals exact ⟨.error ⟨rfl, nofun⟩, rfl⟩

end ReadsAlike

variable {f : Nat → Nat} {n : Nat}

theorem rereads_readAll {α : Type} (args : Arguments) (widget : String) {reader reader' : ArgumentReader α}
    (h : ReadsAlike f n reader reader') :
    Rereads f n (args.readAll widget n reader) (args.readAll widget (f n) reader') :=
  ((h.bind fun a => (ReadsAlike.finish widget).bind fun _ => .pure a) args).1

theorem readsAlike_arrangement (kind : ContainerKind) (count widest : Nat) :
    ReadsAlike f n (kind.arrangement count widest n) (kind.arrangement count widest (f n)) := by
  cases kind with
  | pile => exact .pure _
  | columns => exact (ReadsAlike.takeNat? _ _).bind fun _ => .pure _
  | grid =>
    exact (ReadsAlike.takeNat? _ _).bind fun _ => (ReadsAlike.takeNat? _ _).bind fun _ =>
      (ReadsAlike.takeNat? _ _).bind fun _ => (ReadsAlike.takeAlign _ _).bind fun _ => .pure _
  | list => exact (ReadsAlike.takeNat? _ _).bind fun _ => (ReadsAlike.takeBool? _ _).bind fun _ => .pure _

/-! ## Attributes -/

theorem rereads_nextEvent (cs : List Char) : Rereads f n (Marker.nextEvent n cs) (Marker.nextEvent (f n) cs) := by
  unfold Marker.nextEvent
  dsimp only
  split
  · split
    · exact .error ⟨rfl, nofun⟩
    · split
      · exact .ok _
      · exact .error ⟨rfl, nofun⟩
  · exact .error ⟨rfl, nofun⟩

theorem rereads_next? (cs : List Char) : Rereads f n (Marker.next? n cs) (Marker.next? (f n) cs) := by
  unfold Marker.next?
  split
  · exact .ok _
  · exact (rereads_nextEvent _).map _
  · dsimp only
    split
    · exact .ok _
    · exact .ok _

theorem rereads_add (a : Attributes) (m : Marker) : Rereads f n (a.add n m) (a.add (f n) m) := by
  cases m <;> simp only [Attributes.add] <;> (try split) <;> first | exact .ok _ | exact .error ⟨rfl, nofun⟩

section

variable {a : Attributes} {m : Marker} {cs rest : List Char}

theorem Attributes.addMarkers_of_error {e : SyntaxError} (h : Marker.next? n (Text.trimStart cs) = .error e) :
    a.addMarkers n cs = .error e := by
  rw [addMarkers]
  dsimp only
  split <;> simp_all

theorem Attributes.addMarkers_of_none (h : Marker.next? n (Text.trimStart cs) = .ok none) :
    a.addMarkers n cs = .ok (a, Text.trimStart cs) := by
  rw [addMarkers]
  dsimp only
  split <;> simp_all

theorem Attributes.addMarkers_of_some (h : Marker.next? n (Text.trimStart cs) = .ok (some (m, rest))) :
    a.addMarkers n cs = (a.add n m).bind (·.addMarkers n rest) := by
  rw [addMarkers]
  dsimp only
  split
  · next h' =>
    rw [h] at h'
    cases h'
  · next h' =>
    rw [h] at h'
    cases h'
  · next h' =>
    rw [h] at h'
    cases h'
    rfl

end

theorem rereads_addMarkers (a : Attributes) (cs : List Char) :
    Rereads f n (a.addMarkers n cs) (a.addMarkers (f n) cs) := by
  have hagain := (rereads_next? (f := f) (n := n) (Text.trimStart cs)).eq_mapError
  fun_induction Attributes.addMarkers a n cs with
  | case1 a cs trimmed e h =>
    rw [h] at hagain
    rw [Attributes.addMarkers_of_error hagain]
    exact .error ((rereads_next? (f := f) trimmed).failsOnly e h)
  | case2 a cs trimmed h =>
    rw [h] at hagain
    rw [Attributes.addMarkers_of_none hagain]
    exact .ok _
  | case3 a cs trimmed m rest h hlt ih =>
    rw [h] at hagain
    rw [Attributes.addMarkers_of_some hagain]
    exact (rereads_add a m).bind fun a => ih a (rereads_next? _).eq_mapError

theorem rereads_parseArguments (cs : List Char) : Rereads f n (Arguments.parse cs n) (Arguments.parse cs (f n)) := by
  unfold Arguments.parse
  cases Arguments.read cs with
  | ok args => exact .ok _
  | error reason => exact .error ⟨rfl, nofun⟩

theorem rereads_parseAttributes (cs : List Char) : Rereads f n (Attributes.parse cs n) (Attributes.parse cs (f n)) :=
  (rereads_addMarkers {} cs).bind fun _ => (rereads_parseArguments _).bind fun _ => .ok _

/-! ## Leaves -/

theorem rereads_text (data : List Char) : Rereads f n (Leaf.text n data) (Leaf.text (f n) data) := by
  unfold Leaf.text
  split
  exact (rereads_parseAttributes _).bind fun _ => (rereads_readAll _ _ (.takeAlign _ _)).bind fun _ => .ok _

theorem rereads_button (data : List Char) : Rereads f n (Leaf.button n data) (Leaf.button (f n) data) := by
  unfold Leaf.button
  split
  · exact (rereads_parseAttributes _).bind fun _ => (rereads_readAll _ _ (.pure ())).bind fun _ => .ok _
  · exact .error ⟨rfl, nofun⟩

theorem rereads_edit (data : List Char) : Rereads f n (Leaf.edit n data) (Leaf.edit (f n) data) := by
  unfold Leaf.edit
  dsimp only
  split
  · exact .error ⟨rfl, nofun⟩
  · exact (rereads_parseAttributes _).bind fun _ => (rereads_readAll _ _ (.takeBool? _ _)).bind fun _ => .ok _

theorem rereads_checkBox (data : List Char) : Rereads f n (Leaf.checkBox n data) (Leaf.checkBox (f n) data) := by
  unfold Leaf.checkBox
  split
  · exact .error ⟨rfl, nofun⟩
  · exact (rereads_parseAttributes _).bind fun _ => (rereads_readAll _ _ (.takeBool? _ _)).bind fun _ => .ok _

theorem rereads_radioButton (data : List Char) :
    Rereads f n (Leaf.radioButton n data) (Leaf.radioButton (f n) data) := by
  unfold Leaf.radioButton
  split
  · exact .error ⟨rfl, nofun⟩
  · refine (rereads_parseAttributes _).bind fun _ => (rereads_readAll _ _ ?_).bind fun _ => .ok _
    exact (ReadsAlike.takeText? _ _).bind fun _ => (ReadsAlike.takeBool? _ _).bind fun _ => .pure _

theorem readsAlike_dividerOf (fill : Char) : ReadsAlike f n (Leaf.dividerOf n fill) (Leaf.dividerOf (f n) fill) :=
  (ReadsAlike.takeNat? _ _).bind fun _ => (ReadsAlike.takeNat? _ _).bind fun _ => .pure _

theorem readsAlike_takeFill : ReadsAlike f n (Leaf.takeFill n) (Leaf.takeFill (f n)) := by
  unfold Leaf.takeFill
  refine ReadsAlike.takePositional?.bind fun literal => ?_
  split
  · exact .pure _
  · split
    · exact .pure _
    · exact .throw ⟨rfl, nofun⟩

theorem rereads_divider (data : List Char) : Rereads f n (Leaf.divider n data) (Leaf.divider (f n) data) :=
  (rereads_parseAttributes _).bind fun _ =>
    (rereads_readAll _ _ (readsAlike_takeFill.bind fun fill => readsAlike_dividerOf fill)).bind fun _ => .ok _

theorem rereads_rule (fill : Char) (data : List Char) :
    Rereads f n (Leaf.rule n fill data) (Leaf.rule (f n) fill data) := by
  unfold Leaf.rule
  refine (rereads_parseAttributes _).bind fun ⟨attributes, args⟩ => ?_
  dsimp only
  split
  · exact .error ⟨rfl, nofun⟩
  · exact (rereads_readAll _ _ (readsAlike_dividerOf fill)).bind fun _ => .ok _

theorem rereads_parseLine (raw : List Char) : Rereads f n (Line.parse n raw) (Line.parse (f n) raw) := by
  unfold Line.parse Line.ofTrimmed
  split
  · exact .ok _
  · exact .ok _
  · dsimp only
    split
    · exact .ok _
    · split
      · exact .ok _
      · exact .error ⟨rfl, nofun⟩
  · exact .error ⟨rfl, nofun⟩

end Description

end ScreenForm
