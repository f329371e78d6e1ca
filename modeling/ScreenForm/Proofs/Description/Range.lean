import ScreenForm.Proofs.Description.Grammar
import ScreenForm.Proofs.Form.Growth
import ScreenForm.Proofs.Widget.Sized
/-!
# Numbers in the arguments of a line

An integer that does not fit into a word is refused where its token is read, so
all that a list of arguments holds are in range (`Arguments.inRange_parse`), and
stay so while a reader takes some away (`Leaf.Draws`). A number that it takes is
less than two to the power of 63, so the widgets of lines are `Widget.Sized`.
-/

namespace ScreenForm.Description

/-! ## Tokens -/

/-- An integer fits into a word. -/
def Literal.InRange : Literal → Prop
  | int n => Number.fitsWord n
  | _ => True

theorem Literal.inRange_ofWord (w : String) : (Literal.ofWord w).InRange := by
  unfold ofWord
  split
  · trivial
  · split <;> trivial

/-- A number that is not negative. -/
theorem Literal.InRange.asNat? {l : Literal} (h : l.InRange) {n : Nat} (hn : l.asNat? = some n) : n < 2 ^ 63 := by
  unfold Literal.asNat? at hn
  split at hn
  · cases hn
    have hle : (n : Int) ≤ 9223372036854775807 := of_decide_eq_true (Bool.and_eq_true_iff.1 h).2
    omega
  · cases hn

namespace Token

def InRange : Token → Prop
  | literal value => value.InRange
  | _ => True

theorem inRange_numberOf? {cs : List Char} {l : Literal} (h : numberOf? cs = some l) : l.InRange := by
  unfold numberOf? at h
  dsimp only at h
  split at h
  · obtain ⟨hfits, h⟩ := Option.ite_none_right_eq_some.1 h
    cases h
    exact hfits
  · cases h
    trivial
  · cases h

theorem inRange_ofNumber (cs : List Char) : Yields InRange (ofNumber cs) := by
  unfold ofNumber
  split
  · next h => exact .ok (inRange_numberOf? h)
  · exact .error _

theorem inRange_next (c : Char) (cs : List Char) : Yields (fun r => r.1.InRange) (next c cs) := by
  unfold next
  split
  · exact .ok trivial
  split
  · exact .ok trivial
  split
  · intro r hr
    obtain ⟨_, -, rfl⟩ := Except.map_eq_ok.1 hr
    trivial
  split
  · intro r hr
    obtain ⟨t, ht, rfl⟩ := Except.map_eq_ok.1 hr
    exact inRange_ofNumber _ t ht
  split
  · exact .ok trivial
  · exact .error _

theorem inRange_scan (cs : List Char) : Yields (fun ts => ∀ t ∈ ts, t.InRange) (scan cs) := by
  fun_induction scan cs with
  | case1 => exact .ok (List.forall_mem_nil _)
  | case2 c cs hblank ih => exact ih
  | case3 c cs hblank e hnext => exact .error e
  | case4 c cs hblank t rest hnext hlt ih =>
    intro ts hts
    obtain ⟨ts, hrest, rfl⟩ := Except.map_eq_ok.1 hts
    exact List.forall_mem_cons.2 ⟨inRange_next c cs _ hnext, ih ts hrest⟩

theorem InRange.value {t : Token} (h : t.InRange) : Yields Literal.InRange t.value := by
  cases t with
  | literal value => exact .ok h
  | word w => exact .ok (Literal.inRange_ofWord w)
  | _ => exact .error _

end Token

/-! ## Lists of arguments -/

namespace Arguments

/-- All integers among the arguments fit into a word. -/
structure InRange (args : Arguments) : Prop where
  positional : ∀ l ∈ args.positional, l.InRange
  keyword : ∀ p ∈ args.keyword, p.2.InRange

variable {args : Arguments}

theorem mem_of_mem_dropComma {t : Token} {ts : List Token} (h : t ∈ dropComma ts) : t ∈ ts := by
  unfold dropComma at h
  split at h
  · exact List.mem_cons_of_mem _ h
  · exact h

theorem InRange.addTokens (h : args.InRange) {ts : List Token} (hts : ∀ t ∈ ts, t.InRange) :
    Yields InRange (args.addTokens ts) := by
  fun_induction Arguments.addTokens args ts with
  | case1 args => exact .ok h
  | case2 args name => exact .error _
  | case3 args name t ts ih =>
    simp only [List.forall_mem_cons] at hts
    refine .bind_of hts.2.2.1.value fun value hvalue => ?_
    split
    · exact .error _
    · refine ih value ?_ fun t ht => hts.2.2.2 t (mem_of_mem_dropComma ht)
      refine ⟨h.positional, fun p hp => ?_⟩
      rcases List.mem_append.1 hp with hp | hp
      · exact h.keyword p hp
      · exact List.mem_singleton.1 hp ▸ hvalue
  | case4 => exact .error _
  | case5 args t ts _ _ hempty ih =>
    rw [List.forall_mem_cons] at hts
    refine .bind_of hts.1.value fun value hvalue => ?_
    refine ih value ⟨fun l hl => ?_, h.keyword⟩ fun t ht => hts.2 t (mem_of_mem_dropComma ht)
    rcases List.mem_append.1 hl with hl | hl
    · exact h.positional l hl
    · exact List.mem_singleton.1 hl ▸ hvalue

theorem inRange_parse (cs : List Char) (line : Nat) : Yields InRange (parse cs line) := by
  intro args hargs
  unfold parse at hargs
  cases hread : read cs with
  | error e => simp [hread, Except.mapError] at hargs
  | ok args' =>
    simp only [hread, Except.mapError, Except.ok.injEq] at hargs
    subst hargs
    obtain ⟨ts, hts, hadd⟩ := Except.bind_eq_ok.1 hread
    exact InRange.addTokens ⟨by simp, by simp⟩ (Token.inRange_scan cs ts hts) _ hadd

theorem InRange.find? (h : args.InRange) {name : String} {l : Literal} (hl : args.find? name = some l) : l.InRange := by
  obtain ⟨before, after, heq, -⟩ := List.lookup_eq_some_iff.1 hl
  exact h.keyword (name, l) (by simp [heq])

theorem InRange.erase (h : args.InRange) (name : String) : (args.erase name).InRange :=
  ⟨h.positional, fun p hp => h.keyword p (List.mem_of_mem_eraseP hp)⟩

end Arguments

theorem Attributes.inRange_parse (cs : List Char) (line : Nat) :
    Yields (fun r => r.2.InRange) (Attributes.parse cs line) :=
  .bind fun _ => .bind_of (Arguments.inRange_parse _ line) fun _ h => .ok h

/-! ## Readers -/

namespace Leaf

/-- From arguments in range a reader gives what satisfies `Q`, and it leaves arguments in range. -/
def Draws {α : Type} (Q : α → Prop) (reader : ArgumentReader α) : Prop :=
  ∀ args : Arguments, args.InRange → Yields Q (reader.run.run args).1 ∧ (reader.run.run args).2.InRange

namespace Draws

variable {α β : Type} {Q : α → Prop} {R : β → Prop}

theorem pure {a : α} (h : Q a) : Draws Q (Pure.pure a) := fun _ hargs => ⟨.ok h, hargs⟩

theorem throw (e : SyntaxError) : Draws Q (MonadExcept.throw e : ArgumentReader α) := fun _ hargs => ⟨.error e, hargs⟩

theorem bind {r : ArgumentReader α} {f : α → ArgumentReader β} (hr : Draws Q r) (hf : ∀ a, Q a → Draws R (f a)) :
    Draws R (r >>= f) := by
  intro args hargs
  rw [ExceptT.run_bind, StateT.run_bind]
  obtain ⟨hyields, hleft⟩ := hr args hargs
  rcases hx : r.run.run args with ⟨e | a, args'⟩
  · rw [hx] at hleft
    exact ⟨.error e, hleft⟩
  · rw [hx] at hyields hleft
    exact hf a (hyields a rfl) args' hleft

theorem take? (name : String) : Draws (fun l => ∀ v, l = some v → v.InRange) (ArgumentReader.take? name) :=
  fun _ hargs => ⟨.ok fun _ hv => hargs.find? hv, hargs.erase name⟩

theorem takePositional? :
    Draws (fun l => ∀ v, l = some v → v.InRange) ArgumentReader.takePositional? := by
  refine fun args hargs => ⟨.ok fun v hv => hargs.positional v (List.mem_of_head? hv), ?_, hargs.keyword⟩
  exact fun l hl => hargs.positional l (List.mem_of_mem_tail hl)

theorem takeNat? (name widget : String) (line : Nat) :
    Draws (fun n => n.getD 0 < 2 ^ 63) (ArgumentReader.takeNat? name widget line) := by
  unfold ArgumentReader.takeNat? ArgumentReader.takeAs?
  refine (take? name).bind fun literal hliteral => ?_
  split
  · exact .pure (by decide)
  · next l =>
    split
    · next n hn => exact .pure ((hliteral l rfl).asNat? hn)
    · exact .throw _

theorem readAll {reader : ArgumentReader α} (h : Draws Q reader) {args : Arguments} (hargs : args.InRange)
    (widget : String) (line : Nat) : Yields Q (args.readAll widget line reader) := by
  intro a ha
  unfold Arguments.readAll at ha
  dsimp only at ha
  rw [ExceptT.run_bind, StateT.run_bind] at ha
  obtain ⟨hyields, -⟩ := h args hargs
  rcases hx : reader.run.run args with ⟨_ | b, args'⟩
  · rw [hx] at ha
    cases ha
  · rw [hx] at ha hyields
    -- The check for arguments that are left over changes nothing of the result.
    have hg : Gives (· = b) (do ArgumentReader.finish widget line; return b) := .bind fun _ => .pure rfl
    exact hg args' a ha ▸ hyields b rfl

end Draws

/-! ## Widgets of lines -/

def Sized (leaf : Leaf) : Prop := leaf.widget.Sized

variable {n : Nat}

theorem sized_text (data : List Char) : Yields Sized (Leaf.text n data) := by
  unfold Leaf.text
  split
  exact .bind fun _ => .bind fun _ => .ok trivial

theorem sized_button (data : List Char) : Yields Sized (Leaf.button n data) := by
  unfold Leaf.button
  split
  · exact .bind fun _ => .bind fun _ => .ok trivial
  · exact .error _

theorem sized_edit (data : List Char) : Yields Sized (Leaf.edit n data) := by
  unfold Leaf.edit
  dsimp only
  split
  · exact .error _
  · exact .bind fun _ => .bind fun _ => .ok (Edit.sized_ofText ..)

theorem sized_checkBox (data : List Char) : Yields Sized (Leaf.checkBox n data) := by
  unfold Leaf.checkBox
  split
  · exact .error _
  · exact .bind fun _ => .bind fun _ => .ok trivial

theorem sized_radioButton (data : List Char) : Yields Sized (Leaf.radioButton n data) := by
  unfold Leaf.radioButton
  split
  · exact .error _
  · exact .bind fun _ => .bind fun _ => .ok trivial

theorem draws_dividerOf (fill : Char) : Draws Widget.Sized (dividerOf n fill) :=
  (Draws.takeNat? "top" "Divider" n).bind fun _ htop =>
    (Draws.takeNat? "bottom" "Divider" n).bind fun _ hbottom => .pure ⟨htop, hbottom⟩

theorem draws_takeFill : Draws (fun _ => True) (takeFill n) := by
  unfold takeFill
  refine Draws.takePositional?.bind fun literal _ => ?_
  split
  · exact .pure trivial
  · split
    · exact .pure trivial
    · exact .throw _

theorem sized_divider (data : List Char) : Yields Sized (Leaf.divider n data) :=
  .bind_of (Attributes.inRange_parse data n) fun _ hargs =>
    .bind_of ((draws_takeFill.bind fun fill _ => draws_dividerOf fill).readAll hargs _ _) fun _ h => .ok h

theorem sized_rule (fill : Char) (data : List Char) : Yields Sized (Leaf.rule n fill data) := by
  unfold Leaf.rule
  refine .bind_of (Attributes.inRange_parse data n) fun ⟨attributes, args⟩ hargs => ?_
  dsimp only
  split
  · exact .error _
  · exact .bind_of ((draws_dividerOf fill).readAll hargs _ _) fun _ h => .ok h

end Leaf

/-- All numbers of a container are cut off at the size of a screen. -/
theorem ContainerKind.gives_sized (kind : ContainerKind) (count widest line : Nat) :
    Leaf.Gives Arrangement.Sized (kind.arrangement count widest line) := by
  have hclamp (n : Nat) : clampCells n ≤ maxCells := Nat.min_le_right ..
  cases kind with
  | pile => exact .pure trivial
  | columns =>
    refine .bind fun gap => .pure ⟨fun w hw => ?_, hclamp _⟩
    rw [List.eq_of_mem_replicate hw]
    decide
  | grid => exact .bind fun _ => .bind fun _ => .bind fun _ => .bind fun _ => .pure ⟨hclamp _, hclamp _, hclamp _⟩
  | list =>
    refine .bind fun height => .bind fun _ => .pure ?_
    cases height with
    | none => exact Nat.zero_le _
    | some height => exact hclamp height

end ScreenForm.Description
