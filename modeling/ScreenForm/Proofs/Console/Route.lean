import ScreenForm.Proofs.Console.Focus
import ScreenForm.Proofs.Console.Lifecycle
/-!
# The form that events go to

The generation of a console grows with every dialog that opens or closes, and
with nothing else. So as long as it is the same, events go to the same form,
which has only been used (`Path.stays`).
-/

namespace ScreenForm

open Relation (ReflTransGen)

variable {H E W : Type} {R : Form → Form → Prop}

/-! ## What has been done in between -/

namespace Console

variable {c c' c'' : Console H E} {kind : Deed H E → Bool} {es es' : List (Entry H E)}

/-- What `c'` has done of this kind since it was `c`, the last deed first. -/
def Done (kind : Deed H E → Bool) (es : List (Entry H E)) (c c' : Console H E) : Prop :=
  ∃ deeds, c'.journal = deeds ++ c.journal ∧ deeds.filter (kind ·.deed) = es

theorem Done.trans (h : Done kind es c c') (h' : Done kind es' c' c'') : Done kind (es' ++ es) c c'' := by
  obtain ⟨deeds, hj, rfl⟩ := h
  obtain ⟨deeds', hj', rfl⟩ := h'
  exact ⟨deeds' ++ deeds, by rw [hj', hj, List.append_assoc], List.filter_append ..⟩

theorem done_nil (h : c'.journal = c.journal) : Done kind [] c c' := ⟨[], h, rfl⟩

theorem done_become {deed : Deed H E} {after : Console H E} (h : kind deed = false) :
    Done kind [] c (c.become deed after) :=
  ⟨[⟨deed, c.stage, after.stage⟩], rfl, by simp [h]⟩

theorem done_become_self {deed : Deed H E} {after : Console H E} (h : kind deed) :
    Done kind [⟨deed, c.stage, after.stage⟩] c (c.become deed after) :=
  ⟨[⟨deed, c.stage, after.stage⟩], rfl, by simp [h]⟩

theorem Done.unique (h : Done kind es c c') (h' : Done kind es' c c') : es = es' := by
  obtain ⟨deeds, hj, rfl⟩ := h
  obtain ⟨deeds', hj', rfl⟩ := h'
  rw [List.append_cancel_right (hj.symm.trans hj')]

end Console

/-! ## Routes -/

/-- Whether events go to another form from this deed on. -/
def Deed.swaps : Deed H E → Bool
  | opened _ | closed _ => true
  | _ => false

namespace Console

variable {c c' c'' : Console H E}

/-- Events go to the form that they went to before, which is now what `R` makes of it. -/
structure Stays (R : Form → Form → Prop) (c c' : Console H E) : Prop where
  generation : c'.generation = c.generation
  swaps : Done Deed.swaps [] c c'
  /-- It is the form of the same dialog, or there still is none. -/
  hold : c'.stage.hold? = c.stage.hold?
  form : ReflTransGen R c.routedForm c'.routedForm

/-- A dialog has opened or closed. -/
structure Swapped (c c' : Console H E) : Prop where
  generation : c.generation < c'.generation
  swaps : ∃ es, Done Deed.swaps es c c' ∧ es ≠ []

theorem Stays.refl (c : Console H E) : c.Stays R c := ⟨rfl, done_nil rfl, rfl, .refl⟩

theorem Stays.trans (h : c.Stays R c') (h' : c'.Stays R c'') : c.Stays R c'' :=
  ⟨h'.generation.trans h.generation, h.swaps.trans h'.swaps, h'.hold.trans h.hold, h.form.trans h'.form⟩

theorem Stays.swapped (h : c.Stays R c') (h' : c'.Swapped c'') : c.Swapped c'' := by
  obtain ⟨hg, es, hd, hne⟩ := h'
  refine ⟨h.generation ▸ hg, es ++ [], h.swaps.trans hd, ?_⟩
  rwa [List.append_nil]

theorem Swapped.trans (h : c.Swapped c') (h' : c'.Stays R c'' ∨ c'.Swapped c'') : c.Swapped c'' := by
  obtain ⟨hg, es, hd, hne⟩ := h
  rcases h' with h' | ⟨hg', es', hd', -⟩
  · exact ⟨h'.generation.symm ▸ hg, es, hd.trans h'.swaps, hne⟩
  · exact ⟨Nat.lt_trans hg hg', es' ++ es, hd.trans hd', by simp [hne]⟩

theorem generation_setRoutedForm (c : Console H E) (form : Form) :
    (c.setRoutedForm form).generation = c.generation := by
  unfold setRoutedForm
  split <;> rfl

theorem generation_setRoutedHandlers (c : Console H E) (handlers : List H) :
    (c.setRoutedHandlers handlers).generation = c.generation := by
  unfold setRoutedHandlers
  split <;> rfl

theorem routedForm_setRoutedForm (c : Console H E) (form : Form) : (c.setRoutedForm form).routedForm = form := by
  cases hd : c.dialog <;> simp only [setRoutedForm, routedForm, hd]

theorem routedForm_setRoutedHandlers (c : Console H E) (handlers : List H) :
    (c.setRoutedHandlers handlers).routedForm = c.routedForm := by
  cases hd : c.dialog <;> simp only [setRoutedHandlers, routedForm, hd]

theorem setRoutedForm_routedForm (c : Console H E) : c.setRoutedForm c.routedForm = c := by
  unfold setRoutedForm routedForm
  cases c
  dsimp only
  split <;> simp_all

theorem setRoutedHandlers_routedHandlers (c : Console H E) : c.setRoutedHandlers c.routedHandlers = c := by
  unfold setRoutedHandlers routedHandlers
  cases c
  dsimp only
  split <;> simp_all

/-- A deed that swaps no forms keeps the route if what comes of it does. -/
theorem Stays.become {deed : Deed H E} {after : Console H E} (hd : deed.swaps = false)
    (hg : after.generation = c.generation) (hh : after.stage.hold? = c.stage.hold?)
    (hf : ReflTransGen R c.routedForm after.routedForm) : c.Stays R (c.become deed after) :=
  ⟨hg, done_become hd, hh, hf⟩

end Console

theorem Deed.Calls.swaps_eq_false {handler : H} {context : Context H E} {deed : Deed H E}
    (h : deed.Calls handler context) : deed.swaps = false := by
  cases h <;> rfl

/-! ## Moves -/

variable {s s' : Session H E W}

/-- Nothing but the opening and the closing of a dialog turns events to another form. -/
theorem Move.stays_or_swapped (hu : ∀ f u, R f (f.use u)) (hm : Move R s s') :
    s.console.Stays R s'.console ∨ s.console.Swapped s'.console := by
  cases hm with
  | aside same screen world =>
    refine .inl ⟨same.generation, Console.done_nil same.journal, same.hold?, ?_⟩
    simp only [Console.routedForm, same.form, same.dialog]
    exact .refl
  | used u =>
    refine .inl ⟨Console.generation_setRoutedForm .., Console.done_nil (Console.journal_setRoutedForm ..),
      Console.hold?_setRoutedForm .., ?_⟩
    rw [Console.routedForm_setRoutedForm]
    exact .single (hu _ u)
  | asked top kind responder world => exact .inl (.become rfl rfl rfl .refl)
  | @acted _ below _ deed called context calls handler' world =>
    refine .inl (.become called.swaps_eq_false ?_ (Console.hold?_acted s.console deed context (handler' :: below)) ?_)
    · exact (Console.generation_setRoutedHandlers ..).trans (Console.generation_setRoutedForm ..)
    · have hform := Context.form_of_calls calls
      rwa [← Console.routedForm_setRoutedForm s.console context.form,
        ← Console.routedForm_setRoutedHandlers _ (handler' :: below)] at hform
  | endDropped | planned | endAsked | planDropped => exact .inl ⟨rfl, Console.done_nil rfl, rfl, .refl⟩
  | ended requested dialog onEnd =>
    exact .inr ⟨Nat.lt_succ_self _, _, Console.done_become_self rfl, List.cons_ne_nil _ _⟩
  | @endedWith d _ requested dialog onEnd _ calls world =>
    have hclosed : Console.Done Deed.swaps _ s.console (s.console.detach d) := Console.done_become_self rfl
    exact .inr ⟨Nat.lt_succ_self _, _, hclosed.trans (Console.done_become rfl), List.cons_ne_nil _ _⟩
  | @opened plan d settled pending built =>
    have hopened : Console.Done Deed.swaps _ s.console.takePlan (s.console.takePlan.attach d) :=
      Console.done_become_self rfl
    exact .inr ⟨Nat.lt_succ_self _, _, hopened, List.cons_ne_nil _ _⟩

theorem Path.stays_or_swapped (hu : ∀ f u, R f (f.use u)) (hp : Path R s s') :
    s.console.Stays R s'.console ∨ s.console.Swapped s'.console := by
  -- Once a dialog has opened or closed, the generation is past the one of before for good.
  induction hp with
  | refl => exact .inl (.refl _)
  | tail _ hm ih =>
    rcases ih with ih | ih
    · exact (hm.stays_or_swapped hu).imp ih.trans ih.swapped
    · exact .inr (ih.trans (hm.stays_or_swapped hu))

/-- In one generation events go to one form. -/
theorem Path.stays (hu : ∀ f u, R f (f.use u)) (hp : Path R s s')
    (hg : s'.console.generation = s.console.generation) : s.console.Stays R s'.console :=
  (hp.stays_or_swapped hu).resolve_right fun h => Nat.ne_of_gt h.generation hg

/-- As long as no dialog opens or closes, it is one generation. -/
theorem Path.stays_of_done (hu : ∀ f u, R f (f.use u)) (hp : Path R s s')
    (hs : Console.Done Deed.swaps [] s.console s'.console) : s.console.Stays R s'.console := by
  refine (hp.stays_or_swapped hu).resolve_right fun h => ?_
  obtain ⟨es, hes, hne⟩ := h.swaps
  exact hne (hes.unique hs)

/-! ## Uses -/

/-- The widgets of a form stay the same widgets however it is used. -/
theorem Form.fixed_of_uses {f f' : Form} (h : ReflTransGen Form.Used f f') : f'.tree.fixed = f.tree.fixed :=
  Stable.uses (P := fun g => g.tree.fixed = f.tree.fixed) (fun g u hg => (g.fixed_use u).trans hg) h rfl

end ScreenForm
