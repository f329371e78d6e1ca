import ScreenForm.Proofs.Console.Route
/-!
# What a step tells of an edit

A step remembers the text of the edit that has the focus when its batch of input
comes, and looks at that edit again when the batch is done. So it tells of at most one
edit (`step_edits`). It tells of that one whenever its text has changed, as long as
no dialog has opened or closed meanwhile (`step_tells_focused`).
-/

namespace ScreenForm

open Relation (ReflTransGen)

variable {H E W α β : Type} {R : Form → Form → Prop}

/-- Whether the deed tells a handler of an edit. -/
def Deed.isEdit : Deed H E → Bool
  | told _ _ _ _ (.edit ..) => true
  | _ => false

/-! ## What tells of no edit -/

namespace SessionM

/-- Whatever this does, it tells no handler of an edit. -/
def Tacit (m : SessionM H E W α) : Prop :=
  ∀ s, Console.Done Deed.isEdit [] s.console (m.after s).console

variable {m : SessionM H E W α} {f : α → SessionM H E W β}

theorem run_eq_after {s : Session H E W} {a : α} (h : (m.run.run s).1 = .ok a) : m.run.run s = (.ok a, m.after s) :=
  Prod.ext h rfl

theorem done_bind {es : List (Entry H E)} {s : Session H E W}
    (hm : Console.Done Deed.isEdit es s.console (m.after s).console) (hf : ∀ a, (f a).Tacit) :
    Console.Done Deed.isEdit es s.console ((m >>= f).after s).console := by
  unfold after at hm ⊢
  rw [run_bind]
  rcases h : m.run.run s with ⟨_ | a, s'⟩ <;> rw [h] at hm
  · exact hm
  · exact hm.trans (hf a s')

theorem Tacit.bind (hm : m.Tacit) (hf : ∀ a, (f a).Tacit) : (m >>= f).Tacit := fun s => done_bind (hm s) hf

theorem tacit_pure (a : α) : (pure a : SessionM H E W α).Tacit := fun _ => Console.done_nil rfl

theorem tacit_throw (e : FormError) : (throw e : SessionM H E W α).Tacit := fun _ => Console.done_nil rfl

theorem run_console (f : Console H E → SessionM H E W α) (s : Session H E W) :
    (console >>= f).run.run s = (f s.console).run.run s := rfl

theorem after_get (f : Session H E W → SessionM H E W α) (s : Session H E W) :
    ((get : SessionM H E W (Session H E W)) >>= f).after s = (f s).after s := rfl

theorem tacit_console {f : Console H E → SessionM H E W α} (h : ∀ c, (f c).Tacit) : (console >>= f).Tacit :=
  fun s => h s.console s

theorem tacit_modifyConsole {f : Console H E → Console H E} (h : ∀ c, Console.Done Deed.isEdit [] c (f c)) :
    (modifyConsole f : SessionM H E W Unit).Tacit :=
  fun s => h s.console

theorem Tacit.tryCatch {h : FormError → SessionM H E W α} (hm : m.Tacit) (hh : ∀ e, (h e).Tacit) :
    (tryCatch m h).Tacit := by
  intro s
  have hs := hm s
  unfold after at hs ⊢
  rw [run_tryCatch]
  rcases hr : m.run.run s with ⟨e | a, s'⟩ <;> rw [hr] at hs
  · exact hs.trans (hh e s')
  · exact hs

theorem tacit_actWith {handler : H} {below : List H} {deed : Context H E → Deed H E} {act : Act H E W α}
    (h : ∀ context, (deed context).isEdit = false) : (actWith handler below deed act).Tacit := by
  intro s
  rw [after_actWith]
  exact Console.done_become (h _)

end SessionM

namespace Console

open SessionM

variable (b : Behaviour H E W)

theorem tacit_dispatch (widget : Nat) {event : Event} (h : event.kind ≠ .edit) : (dispatch b widget event).Tacit := by
  refine tacit_console fun c => ?_
  split
  · exact tacit_pure _
  split
  · split
    · exact tacit_pure _
    · exact tacit_throw _
  · refine Tacit.bind (fun s => done_become rfl) fun answer => ?_
    split
    · refine tacit_actWith fun _ => ?_
      cases event <;> first | rfl | exact absurd rfl h
    · split
      · exact tacit_pure _
      · exact tacit_throw _

theorem tacit_fallbackKey (key : Key) : (fallbackKey b key).Tacit := by
  refine tacit_console fun c => ?_
  split
  · exact tacit_pure _
  · exact (tacit_actWith fun _ => rfl).bind fun _ => tacit_pure _

theorem tacit_applyEnd : (applyEnd b).Tacit := by
  refine tacit_console fun c => ?_
  split
  · split
    · exact tacit_modifyConsole fun _ => done_nil rfl
    · next d _ =>
      refine (tacit_modifyConsole fun _ => done_become rfl).bind fun _ => ?_
      split
      · intro s
        rw [after_takeLeave]
        exact done_become rfl
      · exact tacit_pure _
  · exact tacit_pure _

theorem tacit_applyOpen : (applyOpen : SessionM H E W Unit).Tacit := by
  refine tacit_console fun c => ?_
  split
  · exact tacit_pure _
  · refine Tacit.bind (fun s => done_nil rfl) fun _ => ?_
    split
    · exact tacit_throw _
    · exact tacit_modifyConsole fun _ => done_become rfl

theorem tacit_applyRequests : (applyRequests b).Tacit :=
  (tacit_applyEnd b).bind fun _ => tacit_applyOpen

theorem tacit_fireFocus : (fireFocus b).Tacit := by
  refine tacit_console fun c => ?_
  dsimp only
  split
  · refine Tacit.bind (tacit_modifyConsole fun _ => done_nil rfl) fun _ => ?_
    split
    · exact tacit_pure _
    · refine ((tacit_dispatch b _ (by decide)).bind fun _ => tacit_pure _).tryCatch fun e => ?_
      split
      · exact tacit_pure _
      · exact tacit_throw _
  · exact tacit_pure _

theorem tacit_setRoutedTree (tree : Tree) : (modifyConsole (·.setRoutedTree tree) : SessionM H E W Unit).Tacit :=
  tacit_modifyConsole fun _ => done_nil (journal_setRoutedForm ..)

theorem tacit_passKey (key : Key) : (passKey b key).Tacit := by
  refine tacit_console fun c => ?_
  dsimp only
  refine (tacit_setRoutedTree _).bind fun _ => ?_
  split
  · exact tacit_pure _
  · exact (tacit_dispatch b _ (by decide)).bind fun _ => tacit_pure _
  · intro s
    rw [after_console]
    split
    · next moved hm =>
      obtain ⟨d, -, hm⟩ := Option.bind_eq_some_iff.1 hm
      obtain ⟨tree, -, rfl⟩ := Option.map_eq_some_iff.1 hm
      exact tacit_setRoutedTree tree s
    · exact tacit_fallbackKey b key s

theorem tacit_handleKey (key : Key) : (handleKey b key).Tacit := by
  refine tacit_console fun c => ?_
  split
  · exact tacit_passKey b key
  · refine (tacit_dispatch b _ (by simp [Event.kind])).bind fun response => ?_
    cases response with
    | handled => exact tacit_pure _
    | notHandled => exact tacit_passKey b key

theorem tacit_handleInput (input : Input) : (handleInput b input).Tacit := by
  cases input with
  | resize columns rows => exact tacit_modifyConsole fun _ => done_nil rfl
  | key key => exact (tacit_handleKey b key).bind fun _ => tacit_applyRequests b

theorem tacit_handleBatch (inputs : List Input) : (handleBatch b inputs).Tacit := by
  induction inputs with
  | nil => exact tacit_pure _
  | cons input rest ih =>
    refine (tacit_handleInput b input).bind fun _ => tacit_console fun c => ?_
    split
    · exact ih
    · exact tacit_pure _

theorem tacit_drawFrame : (drawFrame : SessionM H E W Unit).Tacit := by
  refine (tacit_modifyConsole fun c => done_nil (aside_refreshFooter c).journal).bind fun _ => ?_
  exact Tacit.bind (fun _ => done_nil rfl) fun _ => tacit_modifyConsole fun _ => done_nil rfl

theorem tacit_pollBatch : (pollBatch : SessionM H E W (List Input)).Tacit := by
  intro s
  rw [pollBatch, after_get]
  split <;> exact done_nil rfl

/-! ## A step, part by part -/

/-- What a step does up to its batch of input, if it comes to one. -/
def receive : SessionM H E W (Option (List Input)) := do
  fireFocus b
  applyRequests b
  modifyConsole (·.heedStop)
  if !(← console).control.stopRequested then
    drawFrame
    return some (← pollBatch)
  else return none

/-- What a step does when its batch of input is done. -/
def settle (snapshot : Option (Nat × Nat × String)) : SessionM H E W Unit := do
  match snapshot with
  | some snapshot =>
    fireEdit b snapshot
    applyRequests b
  | none => pure ()
  modifyConsole (·.heedStop)

theorem step_eq : step b = (do
    match ← receive b with
    | none => return ()
    | some batch =>
      let snapshot := (← console).editSnapshot
      handleBatch b batch
      settle b snapshot) := by
  unfold step receive
  simp only [bind_assoc]
  refine bind_congr fun _ => bind_congr fun _ => bind_congr fun _ => bind_congr fun c => ?_
  split
  · simp only [bind_assoc, pure_bind]
    refine bind_congr fun _ => bind_congr fun batch => bind_congr fun c => bind_congr fun _ => ?_
    unfold settle
    cases c.editSnapshot <;> rfl
  · simp only [pure_bind]

/-- The deed tells the top handler of the edit, through the responder that it is bound to. -/
def TellsOf (c : Console H E) (widget : Nat) (before after : String) (deed : Deed H E) : Prop :=
  ∃ handler below responder, c.routedHandlers = handler :: below ∧
    (c.routedForm.tree.about widget).events.edit = some responder ∧
    deed = .told handler c.context responder widget (.edit before after)

theorem TellsOf.unique {c : Console H E} {widget widget' : Nat} {before before' after after' : String} {deed : Deed H E}
    (h : TellsOf c widget before after deed) (h' : TellsOf c widget' before' after' deed) :
    widget = widget' ∧ before = before' ∧ after = after' := by
  obtain ⟨_, _, _, -, -, rfl⟩ := h
  obtain ⟨_, _, _, -, -, hdeed⟩ := h'
  cases hdeed
  exact ⟨rfl, rfl, rfl⟩

theorem done_tell (handler : H) (below : List H) (responder : String) (widget : Nat) (before after : String)
    (s : Session H E W) : ∃ e, e.deed = .told handler s.console.context responder widget (.edit before after) ∧
      Done Deed.isEdit [e] s.console
        ((SessionM.tell b handler below responder widget (.edit before after)).after s).console := by
  rw [SessionM.tell, after_actWith]
  exact ⟨_, rfl, done_become_self rfl⟩

theorem dispatch_edit (widget : Nat) (before after : String) (s : Session H E W) :
    (∃ e, TellsOf s.console widget before after e.deed ∧
      Done Deed.isEdit [e] s.console ((dispatch b widget (.edit before after)).after s).console) ∨
    Done Deed.isEdit [] s.console ((dispatch b widget (.edit before after)).after s).console ∧
      ((s.console.routedForm.tree.about widget).events.edit.isSome →
        ∃ e, ((dispatch b widget (.edit before after)).run.run s).1 = .error e) := by
  unfold SessionM.after
  rw [dispatch, run_console]
  dsimp only [Event.kind, Bindings.get?]
  split
  · next hr => exact .inr ⟨done_nil rfl, by simp [hr]⟩
  · next responder hr =>
    split
    · exact .inr ⟨done_nil rfl, fun _ => ⟨_, rfl⟩⟩
    · next handler below hh =>
      -- The handler is asked for the responder first, which goes into the journal too.
      obtain ⟨s', hi, hc⟩ : ∃ s' : Session H E W, (implements b handler .edit responder).run.run s =
          (.ok ((b.implements handler .edit responder).run s.world).1, s') ∧
          s'.console = s.console.become (.asked handler .edit responder) s.console := ⟨_, rfl, rfl⟩
      have hasked : Done Deed.isEdit [] s.console s'.console := hc ▸ done_become rfl
      rw [run_bind, hi]
      dsimp only
      split
      · obtain ⟨e, he, htold⟩ := done_tell b handler below responder widget before after s'
        refine .inl ⟨e, ⟨handler, below, responder, hh, hr, ?_⟩, hasked.trans htold⟩
        rw [he, hc]
        rfl
      · exact .inr ⟨hasked, fun _ => ⟨_, rfl⟩⟩

/-- The edit of the snapshot is to be told of: its text has changed, and it is of the generation. -/
structure Due (c : Console H E) (snapshot : Option (Nat × Nat × String)) (widget : Nat) (before after : String) :
    Prop where
  snapshot : snapshot = some (c.generation, widget, before)
  text : (c.routedForm.tree.widget widget).editText? = some after
  changed : before ≠ after

variable {b} {snapshot : Option (Nat × Nat × String)} {widget : Nat} {before after : String} {q : Session H E W}

theorem settle_of_due (h : q.console.Due snapshot widget before after) : (settle b snapshot).run.run q =
    (do
      let _ ← dispatch b widget (.edit before after)
      applyRequests b
      modifyConsole (·.heedStop) : SessionM H E W Unit).run.run q := by
  obtain ⟨rfl, ht, hne⟩ := h
  have hfire : (fireEdit b (q.console.generation, widget, before)).run.run q =
      (do let _ ← dispatch b widget (.edit before after) : SessionM H E W Unit).run.run q := by
    show (if q.console.generation = q.console.generation then _ else _ : SessionM H E W Unit).run.run q = _
    rw [if_pos rfl, ht]
    dsimp only
    rw [if_pos hne.symm]
  rw [settle, run_bind, hfire, run_bind, run_bind]
  rcases (dispatch b widget (.edit before after)).run.run q with ⟨_ | _, q'⟩ <;> rfl

theorem done_settle_of_not_due (h : ∀ widget before after, ¬ q.console.Due snapshot widget before after) :
    Done Deed.isEdit [] q.console ((settle b snapshot).after q).console := by
  cases snapshot with
  | none => exact done_nil (aside_heedStop _).journal
  | some snapshot =>
    obtain ⟨generation, widget, before⟩ := snapshot
    refine done_bind ?_ fun _ => (tacit_applyRequests b).bind fun _ =>
      tacit_modifyConsole fun c => done_nil (aside_heedStop c).journal
    rw [fireEdit, after_console]
    split
    · next hg =>
      split
      · exact done_nil rfl
      · next after ht =>
        split
        · next hne => exact absurd ⟨by rw [hg], ht, Ne.symm hne⟩ (h widget before after)
        · exact done_nil rfl
    · exact done_nil rfl

theorem done_settle_of_due (h : q.console.Due snapshot widget before after) :
    (∃ e, TellsOf q.console widget before after e.deed ∧
      Done Deed.isEdit [e] q.console ((settle b snapshot).after q).console) ∨
    Done Deed.isEdit [] q.console ((settle b snapshot).after q).console ∧
      ((q.console.routedForm.tree.about widget).events.edit.isSome → ∃ e, ((settle b snapshot).run.run q).1 = .error e) := by
  have htacit : Tacit (do applyRequests b; modifyConsole (·.heedStop) : SessionM H E W Unit) :=
    (tacit_applyRequests b).bind fun _ => tacit_modifyConsole fun c => done_nil (aside_heedStop c).journal
  rw [SessionM.after, settle_of_due h]
  rcases dispatch_edit b widget before after q with ⟨e, he, hdone⟩ | ⟨hdone, herr⟩
  · exact .inl ⟨e, he, done_bind hdone fun _ => htacit⟩
  · refine .inr ⟨done_bind hdone fun _ => htacit, fun hbound => ?_⟩
    obtain ⟨e, he⟩ := herr hbound
    rw [run_bind]
    rcases hrun : (dispatch b widget (.edit before after)).run.run q with ⟨_ | _, q'⟩ <;> rw [hrun] at he <;> cases he
    exact ⟨e, rfl⟩

theorem tacit_receive (b : Behaviour H E W) : (receive b).Tacit := by
  refine (tacit_fireFocus b).bind fun _ => (tacit_applyRequests b).bind fun _ => ?_
  refine (tacit_modifyConsole fun c => done_nil (aside_heedStop c).journal).bind fun _ => tacit_console fun c => ?_
  split
  · exact tacit_drawFrame.bind fun _ => tacit_pollBatch.bind fun _ => tacit_pure _
  · exact tacit_pure _

/-- A step from `s` has come to this batch of input in `p`, and has handled it in `q`. -/
structure Handles (b : Behaviour H E W) (s : Session H E W) (batch : List Input) (p q : Session H E W) : Prop where
  received : (receive b).run.run s = (.ok (some batch), p)
  handled : (handleBatch b batch).run.run p = (.ok (), q)

theorem handles_of_ok {s : Session H E W} {batch : List Input}
    (received : ((receive b).run.run s).1 = .ok (some batch))
    (handled : ((handleBatch b batch).run.run ((receive b).after s)).1 = .ok ()) :
    Handles b s batch ((receive b).after s) ((handleBatch b batch).after ((receive b).after s)) :=
  ⟨run_eq_after received, run_eq_after handled⟩

namespace Handles

variable {s p : Session H E W} {batch : List Input} (h : Handles b s batch p q)
include h

theorem run_step : (step b).run.run s = (settle b p.console.editSnapshot).run.run q := by
  rw [step_eq, run_bind, h.received]
  show (handleBatch b batch >>= fun _ => settle b p.console.editSnapshot).run.run p = _
  rw [run_bind, h.handled]

theorem done : Done Deed.isEdit [] s.console q.console := by
  have hs := tacit_receive b s
  have ht := tacit_handleBatch b batch p
  rw [SessionM.after, h.received] at hs
  rw [SessionM.after, h.handled] at ht
  exact hs.trans ht

/-- A step tells of an edit only if it is due. -/
theorem done_step : ∃ es, Done Deed.isEdit es s.console ((step b).after s).console ∧
    (es = [] ∨ ∃ e widget before after, es = [e] ∧ q.console.Due p.console.editSnapshot widget before after ∧
      TellsOf q.console widget before after e.deed) := by
  rw [SessionM.after, h.run_step]
  by_cases hdue : ∃ widget before after, q.console.Due p.console.editSnapshot widget before after
  · obtain ⟨widget, before, after, hd⟩ := hdue
    rcases done_settle_of_due (b := b) hd with ⟨e, he, hdone⟩ | ⟨hdone, -⟩
    · exact ⟨[e], h.done.trans hdone, .inr ⟨e, widget, before, after, rfl, hd, he⟩⟩
    · exact ⟨[], h.done.trans hdone, .inl rfl⟩
  · exact ⟨[], h.done.trans (done_settle_of_not_due (by simpa using hdue)), .inl rfl⟩

/-- An edit that is due and bound is told of, unless there is an error. -/
theorem done_step_of_due {t : Session H E W} (ht : (step b).run.run s = (.ok (), t))
    (hd : q.console.Due p.console.editSnapshot widget before after)
    (hbound : (q.console.routedForm.tree.about widget).events.edit.isSome) :
    ∃ e, TellsOf q.console widget before after e.deed ∧ Done Deed.isEdit [e] s.console t.console := by
  rw [h.run_step] at ht
  rcases done_settle_of_due (b := b) hd with ⟨e, he, hdone⟩ | ⟨-, herr⟩
  · rw [SessionM.after, ht] at hdone
    exact ⟨e, he, h.done.trans hdone⟩
  · -- With a binding only an error keeps the edit from being told of.
    obtain ⟨e, he⟩ := herr hbound
    rw [ht] at he
    cases he

theorem path (hb : b.ActsBy R) : Path R p q := by
  have hp : Path R p ((handleBatch b batch).after p) := leads_handleBatch hb batch
  rwa [SessionM.after, h.handled] at hp

end Handles

/-- Without a batch of input, or if there is an error with it, a step tells of no edit. -/
theorem done_step_of_not_handles {s : Session H E W} (h : ∀ batch p q, ¬ Handles b s batch p q) :
    Done Deed.isEdit [] s.console ((step b).after s).console := by
  have hs := tacit_receive b s
  rw [SessionM.after] at hs ⊢
  rw [step_eq, run_bind]
  rcases hp : (receive b).run.run s with ⟨_ | _ | batch, p⟩ <;> rw [hp] at hs
  · exact hs
  · exact hs
  · have ht := tacit_handleBatch b batch p
    rw [SessionM.after] at ht
    show Done _ _ _ ((handleBatch b batch >>= fun _ => settle b p.console.editSnapshot).run.run p).2.console
    rw [run_bind]
    rcases hq : (handleBatch b batch).run.run p with ⟨_ | _, q⟩ <;> rw [hq] at ht
    · exact hs.trans ht
    · exact absurd ⟨hp, hq⟩ (h batch p q)

/-! ## The edit that had the focus -/

theorem editSnapshot_eq_some {c : Console H E} {generation : Nat} :
    c.editSnapshot = some (generation, widget, before) ↔ generation = c.generation ∧ c.focused? = some widget ∧
      (c.routedForm.tree.widget widget).editText? = some before := by
  simp only [editSnapshot, Option.bind_eq_bind, Option.bind_eq_some_iff, Option.pure_def, Option.some.injEq,
    Prod.mk.injEq]
  constructor
  · rintro ⟨id, hid, text, htext, rfl, rfl, rfl⟩
    exact ⟨rfl, hid, htext⟩
  · rintro ⟨rfl, hid, htext⟩
    exact ⟨widget, hid, before, htext, rfl, rfl, rfl⟩

/-- While a form is only used, an edit of it stays one. -/
theorem lt_size_of_editSnapshot {c c' : Console H E} {generation : Nat} (h : c.Stays Form.Used c')
    (hs : c.editSnapshot = some (generation, widget, before)) :
    widget < c'.routedForm.tree.size ∧ (c'.routedForm.tree.widget widget).isEditable := by
  obtain ⟨-, -, ht⟩ := editSnapshot_eq_some.1 hs
  have he : (c'.routedForm.tree.widget widget).isEditable := by
    rw [Tree.isEditable_eq_of_fixed (Form.fixed_of_uses h.form)]
    exact Widget.isEditable_of_editText? ht
  exact ⟨Tree.lt_size_of_isFocusable (Widget.isFocusable_of_isEditable he), he⟩

/-- The deed tells of the edit that had the focus in `p`, with its text then and its text in `q`. -/
structure Reports (p q : Console H E) (widget : Nat) (before after : String) (deed : Deed H E) : Prop where
  told : TellsOf q widget before after deed
  focused : p.focused? = some widget
  textBefore : (p.routedForm.tree.widget widget).editText? = some before
  textAfter : (q.routedForm.tree.widget widget).editText? = some after
  changed : before ≠ after
  stays : p.Stays Form.Used q
  lt_size : widget < q.routedForm.tree.size

end Console

open Console SessionM

/-- Each step tells of at most one edit, and that is the one that had the focus when the batch of input came,
with its text then and its text now that the batch is done, which is another. The form that it belongs to is
still the one that events go to, so it is there to be told of. -/
theorem step_edits {b : Behaviour H E W} (hb : b.ActsBy Form.Used) (s : Session H E W) :
    (∃ es, Done Deed.isEdit es s.console ((step b).after s).console ∧
      (es = [] ∨ ∃ e batch p q widget before after, es = [e] ∧ Handles b s batch p q ∧
        Reports p.console q.console widget before after e.deed)) ∧
    ∀ batch p q, Handles b s batch p q → q.console.generation = p.console.generation →
      p.console.Stays Form.Used q.console ∧
      ∀ generation widget before, p.console.editSnapshot = some (generation, widget, before) →
        widget < q.console.routedForm.tree.size ∧ (q.console.routedForm.tree.widget widget).isEditable := by
  have hstays {batch : List Input} {p q : Session H E W} (h : Handles b s batch p q)
      (hg : q.console.generation = p.console.generation) : p.console.Stays Form.Used q.console :=
    (h.path hb).stays (fun f u => ⟨u, rfl⟩) hg
  refine ⟨?_, fun batch p q h hg => ⟨hstays h hg, fun _ _ _ => lt_size_of_editSnapshot (hstays h hg)⟩⟩
  by_cases hbatch : ∃ batch p q, Handles b s batch p q
  · obtain ⟨batch, p, q, h⟩ := hbatch
    obtain ⟨es, hes, rfl | ⟨e, widget, before, after, rfl, hd, he⟩⟩ := h.done_step
    · exact ⟨[], hes, .inl rfl⟩
    · -- The snapshot is of the generation of now, so the widget is one of the form of now.
      obtain ⟨hg, hf, ht⟩ := editSnapshot_eq_some.1 hd.snapshot
      have hs := hstays h hg
      exact ⟨[e], hes, .inr ⟨e, batch, p, q, widget, before, after, rfl, h, he, hf, ht, hd.text, hd.changed, hs,
        (lt_size_of_editSnapshot hs hd.snapshot).1⟩⟩
  · exact ⟨[], done_step_of_not_handles (by simpa using hbatch), .inl rfl⟩

/-- A session of an application with two edits that are bound, and a button that opens a dialog, before this
batch of keys comes. -/
def Session.withEdits (batch : List Input) : Session AppHandler Unit Unit :=
  let form := ((Form.parse "Edt A [x] #a &edit=changed\nEdt B [y] #b &edit=changed\nBtn [Ask] #ask &press=ask"
    {} {}).toOption).getD default
  let app : App := {
    config := {
      ui := "edits"
      palette := none
      dialogPalette := none
      strings := []
      logFile := none
      logLevel := "info"
      dialogs := [("ask", { ui := "ask" })]
      directory := "" }
    files := .ofList [("ask", "Txt Sure?")] }
  let console : Console AppHandler Unit := {
    form
    handlers := []
    dialog := none
    control := {}
    dialogBase := form.palette.addLayer {}
    running := false
    size := (0, 0)
    lastFocus := none
    generation := 0 }
  Demand.performAll App.behaviour [.pushHandler (.console app)] ⟨console, { (default : Screen) with queue := [batch] }, ()⟩

theorem Session.reachable_withEdits (batch : List Input) : (withEdits batch).Reachable App.behaviour :=
  ⟨_, "", _, _, rfl, rfl⟩

theorem step_edits_typed :
    let s := Session.withEdits [.key { code := .char 'w' }, .key { code := .char 'z' }]
    ∃ es, Done Deed.isEdit es s.console ((step App.behaviour).after s).console ∧ es.length = 1 ∧
      (es = [] ∨ ∃ e batch p q widget before after, es = [e] ∧ Handles App.behaviour s batch p q ∧
        Reports p.console q.console widget before after e.deed) := by
  intro s
  obtain ⟨es, hes, hcases⟩ := (step_edits (App.behaviour_actsBy _) s).1
  obtain ⟨deeds, hd, rfl⟩ := hes
  have hdeeds : deeds = ((step App.behaviour).after s).console.journal := (hd.trans (List.append_nil _)).symm
  exact ⟨_, ⟨deeds, hd, rfl⟩, hdeeds ▸ by decide +kernel, hcases⟩

/-- If the edit that has the focus when the batch of input comes has another text when it is done, the step
tells of it, once, as long as no dialog has opened or closed. No other edit is told of, and none that has the
same text again. -/
theorem step_tells_focused {b : Behaviour H E W} (hb : b.ActsBy fun _ _ => True) {s p q t : Session H E W}
    {batch : List Input} (h : Handles b s batch p q) (ht : (step b).run.run s = (.ok (), t)) :
    ∃ es, Done Deed.isEdit es s.console t.console ∧
      (∀ widget before after responder, p.console.focused? = some widget →
        (q.console.routedForm.tree.about widget).events.edit = some responder →
        (p.console.routedForm.tree.widget widget).editText? = some before →
        (q.console.routedForm.tree.widget widget).editText? = some after → before ≠ after →
        Done Deed.swaps [] p.console q.console →
        ∃ e, es = [e] ∧ TellsOf q.console widget before after e.deed) ∧
      ∀ widget, p.console.focused? ≠ some widget ∨
          (p.console.routedForm.tree.widget widget).editText? = (q.console.routedForm.tree.widget widget).editText? →
        ∀ e ∈ es, ∀ before after, ¬ TellsOf q.console widget before after e.deed := by
  obtain ⟨es, hes, hcases⟩ := h.done_step
  rw [SessionM.after, ht] at hes
  refine ⟨es, hes, fun widget before after responder hf hr hbefore hafter hne hswaps => ?_,
    fun widget hw e hmem before after he => ?_⟩
  · have hg := ((h.path hb).stays_of_done (fun _ _ => trivial) hswaps).generation
    have hd : q.console.Due p.console.editSnapshot widget before after :=
      ⟨editSnapshot_eq_some.2 ⟨hg, hf, hbefore⟩, hafter, hne⟩
    obtain ⟨e, he, hdone⟩ := h.done_step_of_due ht hd (Option.isSome_of_eq_some hr)
    exact ⟨e, hes.unique hdone, he⟩
  · rcases hcases with rfl | ⟨_, _, _, _, rfl, hd, htold⟩
    · cases hmem
    · obtain rfl := List.mem_singleton.1 hmem
      obtain ⟨rfl, rfl, rfl⟩ := htold.unique he
      obtain ⟨-, hf, hbefore⟩ := editSnapshot_eq_some.1 hd.snapshot
      rcases hw with hw | hw
      · exact hw hf
      · rw [hbefore, hd.text] at hw
        exact hd.changed (Option.some.inj hw)

theorem step_tells_focused_typed :
    let batch : List Input := [.key { code := .char 'z' }]
    let s := Session.withEdits batch
    ∃ p q t es, Handles App.behaviour s batch p q ∧ (step App.behaviour).run.run s = (.ok (), t) ∧
      Done Deed.isEdit es s.console t.console ∧ ∃ e, es = [e] ∧ TellsOf q.console 0 "x" "xz" e.deed := by
  intro batch s
  let p := (receive App.behaviour).after s
  let q := (handleBatch App.behaviour batch).after p
  obtain ⟨hp, hq, ht, hf, hbound, hbefore, hafter, hg⟩ :
      ((receive App.behaviour).run.run s).1 = .ok (some batch) ∧
      ((handleBatch App.behaviour batch).run.run p).1 = .ok () ∧ ((step App.behaviour).run.run s).1 = .ok () ∧
      p.console.focused? = some 0 ∧ (q.console.routedForm.tree.about 0).events.edit = some "changed" ∧
      (p.console.routedForm.tree.widget 0).editText? = some "x" ∧
      (q.console.routedForm.tree.widget 0).editText? = some "xz" ∧
      q.console.generation = p.console.generation := by decide +kernel
  have h : Handles App.behaviour s batch p q := handles_of_ok hp hq
  have hstays := (h.path (App.behaviour_actsBy fun _ _ => True)).stays (fun _ _ => trivial) hg
  have hstep : (step App.behaviour).run.run s = (.ok (), (step App.behaviour).after s) := run_eq_after ht
  obtain ⟨es, hes, htells, -⟩ := step_tells_focused (App.behaviour_actsBy _) h hstep
  have hchanged : "x" ≠ "xz" := by decide
  have htold := htells 0 "x" "xz" "changed" hf hbound hbefore hafter hchanged hstays.swaps
  exact ⟨p, q, (step App.behaviour).after s, es, h, hstep, hes, htold⟩

/-- The step that handles this batch in the application with two edits gives one of them another text, but tells
of none. -/
structure Misses (batch : List Input) (widget : Nat) (p q t : Session AppHandler Unit Unit) : Prop where
  reachable : (Session.withEdits batch).Reachable App.behaviour
  handles : Handles App.behaviour (Session.withEdits batch) batch p q
  ends : (step App.behaviour).run.run (Session.withEdits batch) = (.ok (), t)
  bound : (p.console.form.tree.about widget).events.edit = some "changed"
  changed : (p.console.form.tree.widget widget).editText? ≠ (q.console.form.tree.widget widget).editText?
  silent : Done Deed.isEdit [] (Session.withEdits batch).console t.console

theorem misses_of_run {batch : List Input} {widget : Nat} {s p q : Session AppHandler Unit Unit}
    (hs : s = Session.withEdits batch) (hp : p = (receive App.behaviour).after s)
    (hq : q = (handleBatch App.behaviour batch).after p)
    (hrun : ((receive App.behaviour).run.run s).1 = .ok (some batch) ∧
      ((handleBatch App.behaviour batch).run.run p).1 = .ok () ∧ ((step App.behaviour).run.run s).1 = .ok () ∧
      (p.console.form.tree.about widget).events.edit = some "changed" ∧
      (p.console.form.tree.widget widget).editText? ≠ (q.console.form.tree.widget widget).editText? ∧
      (((step App.behaviour).after s).console.journal.filter (·.deed.isEdit)).length = 0) :
    Misses batch widget p q ((step App.behaviour).after s) := by
  subst hs hp hq
  obtain ⟨hp, hq, ht, hbound, htext, hedits⟩ := hrun
  exact ⟨Session.reachable_withEdits _, handles_of_ok hp hq, run_eq_after ht, hbound, htext, _,
    (List.append_nil _).symm, List.length_eq_zero_iff.1 hedits⟩

/-- An edit that only gets the focus in the course of the batch is not told of, and none is if a dialog opens, even
though no handler changes a form. -/
theorem step_misses_edit : App.behaviour.ActsBy (fun _ _ => False) ∧
    (∃ p q t, Misses [.key { code := .down }, .key { code := .char 'z' }] 1 p q t ∧
      Done Deed.swaps [] p.console q.console) ∧
    ∃ p q t, Misses [.key { code := .char 'w' }, .key { code := .down }, .key { code := .down },
        .key { code := .enter }] 0 p q t ∧
      p.console.focused? = some 0 := by
  refine ⟨App.behaviour_actsBy _, ⟨_, _, _, misses_of_run rfl rfl rfl (by decide +kernel), ?_⟩,
    ⟨_, _, _, misses_of_run rfl rfl rfl (by decide +kernel), by decide +kernel⟩⟩
  -- Within one generation no dialog has opened or closed.
  refine (Path.stays (fun _ _ => trivial) (leads_handleBatch (App.behaviour_actsBy fun _ _ => True) _) ?_).swaps
  decide +kernel

end ScreenForm
