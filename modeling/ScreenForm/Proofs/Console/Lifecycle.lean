import ScreenForm.Proofs.App.Handlers
import ScreenForm.Proofs.Console.Turn
/-!
# The life of a dialog

A console has one dialog at most. The requests of handlers, and the failures
between them, never bring it out of order (`Stage.Orderly`): what is asked for
fits the dialog that is shown. So the journal of a console is a `History`: a
dialog opens where there is none, it closes because that was asked for, and its
end callback runs right then, and at no other time (`reachable_lifecycle`).
-/

namespace ScreenForm

open Relation (ReflTransGen)

variable {H E W κ : Type} {R : Form → Form → Prop} {b : Behaviour H E W}

/-! ## Order -/

/-- What is asked for fits the dialog that is shown. -/
structure Stage.Orderly (st : Stage H E) : Prop where
  shown : st.control.dialogShown = st.dialog.isSome
  ends : st.control.endRequested = true → st.dialog.isSome
  pends : st.control.pending.isSome → st.dialog = none ∨ st.control.endRequested = true

/-- What is asked for fits whether a dialog is shown. This is all that calls on a context get to see
of the order. -/
structure Control.Orderly (k : Control H E) : Prop where
  ends : k.endRequested = true → k.dialogShown = true
  pends : k.pending.isSome → k.dialogShown = false ∨ k.endRequested = true

theorem Stage.orderly_iff {st : Stage H E} :
    st.Orderly ↔ st.control.dialogShown = st.dialog.isSome ∧ st.control.Orderly := by
  constructor
  · intro h
    refine ⟨h.shown, fun he => h.shown.trans (h.ends he), fun hp => (h.pends hp).imp_left fun hd => ?_⟩
    rw [h.shown, hd, Option.isSome_none]
  · rintro ⟨hs, hc⟩
    refine ⟨hs, fun he => hs ▸ hc.ends he, fun hp => (hc.pends hp).imp_left fun hd => ?_⟩
    rwa [hs, Option.isSome_eq_false_iff, Option.isNone_iff_eq_none] at hd

theorem Stage.Orderly.pending_eq_none {st : Stage H E} (h : st.Orderly) (hd : st.dialog.isSome)
    (he : st.control.endRequested = false) : st.control.pending = none := by
  by_contra hp
  rcases h.pends (Option.isSome_iff_ne_none.2 hp) with hn | hr
  · simp [hn] at hd
  · simp [hr] at he

theorem Context.Call.orderly {c c' : Context H E} (h : Call R c c') (hc : c.control.Orderly) : c'.control.Orderly := by
  cases h with
  | form | setInfo | setTooltip | stop => exact ⟨hc.ends, hc.pends⟩
  | openDialog asked =>
    unfold Context.openDialog at asked
    split at asked
    · cases asked
    · next hfree =>
      cases asked
      refine ⟨hc.ends, fun _ => ?_⟩
      simp only [Bool.or_eq_true, Bool.and_eq_true, Bool.not_eq_true', not_or, not_and, Bool.not_eq_false] at hfree
      by_cases hs : c.control.dialogShown = true
      · exact .inr (hfree.1 hs)
      · exact .inl (Bool.eq_false_iff.2 hs)
  | endDialog asked =>
    unfold Context.endDialog at asked
    split at asked
    · next hs =>
      cases asked
      exact ⟨fun _ => hs, fun _ => .inr rfl⟩
    · cases asked

theorem Context.orderly_of_calls {c c' : Context H E} (h : ReflTransGen (Call R) c c') (hc : c.control.Orderly) :
    c'.control.Orderly := by
  induction h with
  | refl => exact hc
  | tail _ hcall ih => exact hcall.orderly ih

/-! ## What a dialog holds back -/

/-- What a console keeps to itself while a dialog is shown, and the end callback that is to run then. -/
structure Hold (H E : Type) where
  form : Form
  handlers : List H
  onEnd : Option E

namespace Stage

/-- What is held back if a dialog is shown. -/
def hold? (st : Stage H E) : Option (Hold H E) :=
  st.dialog.map fun d => ⟨st.form, st.handlers, d.onEnd⟩

/-- The handlers that events go to. -/
def routedHandlers (st : Stage H E) : List H :=
  match st.dialog with
  | some d => d.handlers
  | none => st.handlers

/-- What the handlers that events go to get to see. -/
def context (st : Stage H E) : Context H E :=
  match st.dialog with
  | some d => ⟨d.form, st.control, .dialog⟩
  | none => ⟨st.form, st.control, .console⟩

/-- The stage without its dialog, which has ended. -/
def detached (st : Stage H E) : Stage H E :=
  { st with dialog := none, control := { st.control with endRequested := false, dialogShown := false } }

/-- The stage with a new dialog. -/
def attached (st : Stage H E) (d : Dialog H E) : Stage H E :=
  { st with dialog := some d, control := { st.control with dialogShown := true } }

variable {st st' : Stage H E}

theorem hold?_eq_none : st.hold? = none ↔ st.dialog = none := Option.map_eq_none_iff

theorem hold?_eq_some {d : Dialog H E} (h : st.dialog = some d) : st.hold? = some ⟨st.form, st.handlers, d.onEnd⟩ := by
  rw [hold?, h, Option.map_some]

theorem isSome_dialog_congr (h : st'.hold? = st.hold?) : st'.dialog.isSome = st.dialog.isSome := by
  have hs := congrArg Option.isSome h
  rwa [hold?, hold?, Option.isSome_map, Option.isSome_map] at hs

/-- The order is a matter of the control as long as the dialog stays. -/
theorem Orderly.congr (h : st.Orderly) (hold : st'.hold? = st.hold?) (hc : st'.control.Orderly)
    (hs : st'.control.dialogShown = st.control.dialogShown) : st'.Orderly :=
  orderly_iff.2 ⟨hs.trans (h.shown.trans (isSome_dialog_congr hold).symm), hc⟩

end Stage

namespace Console

theorem context_stage (c : Console H E) : c.stage.context = c.context := by
  unfold Stage.context context routedForm scope stage
  cases c.dialog <;> rfl

theorem hold?_setRoutedForm (c : Console H E) (form : Form) : (c.setRoutedForm form).stage.hold? = c.stage.hold? := by
  unfold setRoutedForm
  split <;> simp [stage, Stage.hold?, *]

theorem hold?_setRoutedHandlers (c : Console H E) (handlers : List H) :
    (c.setRoutedHandlers handlers).stage.hold? = c.stage.hold? := by
  unfold setRoutedHandlers
  split <;> simp [stage, Stage.hold?, *]

theorem hold?_acted (c : Console H E) (deed : Deed H E) (context : Context H E) (handlers : List H) :
    (c.acted deed context handlers).stage.hold? = c.stage.hold? :=
  (hold?_setRoutedHandlers ..).trans (hold?_setRoutedForm ..)

theorem control_setRoutedForm (c : Console H E) (form : Form) : (c.setRoutedForm form).control = c.control := by
  unfold setRoutedForm
  split <;> rfl

variable {c c' : Console H E}

theorem Aside.hold? (h : c.Aside c') : c'.stage.hold? = c.stage.hold? := by
  simp only [Stage.hold?, stage, h.form, h.handlers, h.dialog]

theorem Aside.orderly (h : c.Aside c') (ho : c.stage.Orderly) : c'.stage.Orderly := by
  refine ho.congr h.hold? ⟨fun he => ?_, fun hp => ?_⟩ h.dialogShown
  · exact h.dialogShown.trans ((Stage.orderly_iff.1 ho).2.ends (h.endRequested.symm.trans he))
  · exact ((Stage.orderly_iff.1 ho).2.pends (h.pending ▸ hp)).imp h.dialogShown.trans h.endRequested.trans

theorem orderly_setRoutedForm (h : c.stage.Orderly) (form : Form) : (c.setRoutedForm form).stage.Orderly := by
  refine h.congr (hold?_setRoutedForm ..) ?_ (congrArg Control.dialogShown (control_setRoutedForm ..))
  exact (congrArg Control.Orderly (control_setRoutedForm ..)).mpr (Stage.orderly_iff.1 h).2

/-- After the top handler has acted, what is asked for still fits. -/
theorem orderly_acted (h : c.stage.Orderly) {context : Context H E} (calls : ReflTransGen (Context.Call R) c.context context)
    (deed : Deed H E) (handlers : List H) : (c.acted deed context handlers).stage.Orderly :=
  h.congr (hold?_acted ..) (Context.orderly_of_calls calls (Stage.orderly_iff.1 h).2) (Context.dialogShown_of_calls calls)

end Console

theorem Move.orderly {s s' : Session H E W} (hm : Move R s s') (h : s.console.Always Stage.Orderly) :
    s'.console.Always Stage.Orderly := by
  have hst := h.stage
  cases hm with
  | aside same screen world => exact h.congr same.journal (same.orderly hst)
  | used u => exact h.congr (Console.journal_setRoutedForm ..) (Console.orderly_setRoutedForm hst _)
  | asked top kind responder world => exact h.become hst
  | @acted _ below _ deed _ _ calls handler' => exact h.become (Console.orderly_acted hst calls deed (handler' :: below))
  | endDropped requested dialog => exact h.congr rfl ⟨hst.shown, nofun, fun _ => .inl dialog⟩
  | ended requested dialog onEnd => exact h.become ⟨rfl, nofun, fun _ => .inl rfl⟩
  | @endedWith d _ _ _ _ _ calls world =>
    -- The end callback starts from a console that is in order again, without a dialog.
    have hdetached : (s.console.detach d).stage.Orderly := ⟨rfl, nofun, fun _ => .inl rfl⟩
    have hdetach : (s.console.detach d).Always Stage.Orderly := h.become hdetached
    refine hdetach.become (Stage.orderly_iff.2 ⟨Context.dialogShown_of_calls calls, ?_⟩)
    exact Context.orderly_of_calls calls (Stage.orderly_iff.1 hdetached).2
  | planned plan dialog => exact h.congr rfl ⟨hst.shown, hst.ends, fun _ => .inl dialog⟩
  | endAsked dialog => exact h.congr rfl ⟨hst.shown, fun _ => dialog, fun _ => .inr rfl⟩
  | planDropped settled => exact h.congr rfl ⟨hst.shown, hst.ends, nofun⟩
  | opened settled pending built =>
    -- The plan is taken before the dialog is there, so nothing is pending over it.
    have htaken : s.console.takePlan.Always Stage.Orderly := h.congr rfl ⟨hst.shown, hst.ends, nofun⟩
    exact htaken.become ⟨rfl, fun _ => rfl, nofun⟩

theorem Demand.Edit.orderly {s s' : Session H E W} (he : Demand.Edit s s') (h : s.console.Always Stage.Orderly) :
    s'.console.Always Stage.Orderly := by
  have hst := h.stage
  cases he with
  | form | handlers => exact h.congr rfl ⟨hst.shown, hst.ends, hst.pends⟩

/-! ## Histories -/

/-- What a console has done, the last deed first, since it held back `start`, and what it holds back
then. Of that we look at `view`. -/
inductive History (b : Behaviour H E W) (view : Hold H E → κ) (start : Option κ) : List (Entry H E) → Option κ → Prop
  | nil : History b view start [] start
  /-- Of all handlers only the top one of what is shown is called. -/
  | called {past : List (Entry H E)} {held : Option κ} (history : History b view start past held) {e : Entry H E}
      (before : e.before.hold?.map view = held) (after : e.after.hold?.map view = held) {handler : H} {below : List H}
      (top : e.before.routedHandlers = handler :: below) (call : e.deed.Calls handler e.before.context) :
      History b view start (e :: past) held
  /-- A dialog opens where there is none. -/
  | opened {past : List (Entry H E)} (history : History b view start past none) {st : Stage H E}
      (free : st.dialog = none) (d : Dialog H E) :
      History b view start (⟨.opened d, st, st.attached d⟩ :: past) (some (view ⟨st.form, st.handlers, d.onEnd⟩))
  /-- A dialog closes when its end was asked for. -/
  | closed {past : List (Entry H E)} {held : κ} (history : History b view start past (some held)) {st : Stage H E}
      {d : Dialog H E} (dialog : st.dialog = some d) (before : st.hold?.map view = some held)
      (requested : st.control.endRequested = true) (onEnd : d.onEnd = none) :
      History b view start (⟨.closed d, st, st.detached⟩ :: past) none
  /-- Its end callback runs right then, with the console for its scope and the dialog gone, and makes of the form and
  the control what is left. -/
  | closedWith {past : List (Entry H E)} {held : κ} (history : History b view start past (some held)) {st : Stage H E}
      {d : Dialog H E} (dialog : st.dialog = some d) (before : st.hold?.map view = some held)
      (requested : st.control.endRequested = true) {callback : E} (onEnd : d.onEnd = some callback)
      {after : Stage H E}
      (took : Entry.Took b
        ⟨.tookLeave callback ⟨st.form, st.detached.control, .console⟩ d.form, st.detached, after⟩) :
      History b view start
        (⟨.tookLeave callback ⟨st.form, st.detached.control, .console⟩ d.form, st.detached, after⟩ ::
          ⟨.closed d, st, st.detached⟩ :: past) none

/-- Since it had this journal and held back `start`, the console has a history, given that end callbacks took leave as
they do. -/
def Console.Records (b : Behaviour H E W) (view : Hold H E → κ) (start : Option κ) (journal : List (Entry H E))
    (c : Console H E) : Prop :=
  ∃ deeds, c.journal = deeds ++ journal ∧
    ((∀ e ∈ deeds, e.Took b) → History b view start deeds (c.stage.hold?.map view))

namespace Console

variable {view : Hold H E → κ} {start : Option κ} {journal : List (Entry H E)} {c c' : Console H E}

theorem Records.congr (h : c.Records b view start journal) (hj : c'.journal = c.journal)
    (hold : c'.stage.hold?.map view = c.stage.hold?.map view) : c'.Records b view start journal := by
  obtain ⟨deeds, hd, hh⟩ := h
  exact ⟨deeds, hj.trans hd, fun htook => hold ▸ hh htook⟩

theorem Records.called (h : c.Records b view start journal) {deed : Deed H E} {after : Console H E}
    (hold : after.stage.hold? = c.stage.hold?) {handler : H} {below : List H}
    (top : c.routedHandlers = handler :: below) (call : deed.Calls handler c.context) :
    (c.become deed after).Records b view start journal := by
  obtain ⟨deeds, hd, hh⟩ := h
  rw [← context_stage] at call
  have hafter : after.stage.hold?.map view = c.stage.hold?.map view := congrArg _ hold
  refine ⟨⟨deed, c.stage, after.stage⟩ :: deeds, congrArg _ hd, fun htook => ?_⟩
  exact hafter ▸ (hh (List.forall_mem_of_forall_mem_cons htook)).called rfl hafter top call

end Console

theorem Move.records {view : Hold H E → κ} {start : Option κ} {journal : List (Entry H E)} {s s' : Session H E W}
    (hm : Move R s s') (ho : s.console.stage.Orderly) (h : s.console.Records b view start journal) :
    s'.console.Records b view start journal := by
  cases hm with
  | aside same screen world =>
    exact h.congr same.journal (congrArg _ same.hold?)
  | used u => exact h.congr (Console.journal_setRoutedForm ..) (congrArg _ (Console.hold?_setRoutedForm ..))
  | asked top kind responder world => exact h.called rfl top (.asked kind responder)
  | @acted _ below top deed call context calls handler' world =>
    exact h.called (Console.hold?_acted s.console deed context (handler' :: below)) top call
  | endDropped requested dialog => exact h.congr rfl rfl
  | @ended d requested dialog onEnd =>
    obtain ⟨deeds, hd, hh⟩ := h
    have hold : s.console.stage.hold?.map view = some _ := congrArg _ (Stage.hold?_eq_some dialog)
    rw [hold] at hh
    refine ⟨_ :: deeds, congrArg _ hd, fun htook => ?_⟩
    exact (hh (List.forall_mem_of_forall_mem_cons htook)).closed dialog hold requested onEnd
  | endedWith requested dialog onEnd calls world =>
    obtain ⟨deeds, hd, hh⟩ := h
    have hold : s.console.stage.hold?.map view = some _ := congrArg _ (Stage.hold?_eq_some dialog)
    rw [hold] at hh
    refine ⟨_ :: _ :: deeds, congrArg _ (congrArg _ hd), fun htook => ?_⟩
    rw [List.forall_mem_cons, List.forall_mem_cons] at htook
    exact (hh htook.2.2).closedWith dialog hold requested onEnd htook.1
  | planned plan dialog => exact h.congr rfl rfl
  | endAsked dialog => exact h.congr rfl rfl
  | planDropped settled => exact h.congr rfl rfl
  | @opened plan d settled pending built =>
    -- A console in order has a dialog pending only if it shows none or is about to end it.
    have free : s.console.dialog = none := by
      rcases ho.pends (Option.isSome_of_eq_some pending) with hd | hr
      · exact hd
      · exact absurd hr (by simp [Console.stage, settled])
    obtain ⟨deeds, hd, hh⟩ := h
    rw [Stage.hold?_eq_none.2 free] at hh
    refine ⟨_ :: deeds, congrArg _ hd, fun htook => ?_⟩
    exact (hh (List.forall_mem_of_forall_mem_cons htook)).opened
      (show s.console.takePlan.stage.dialog = none from free) d

theorem Demand.Edit.records {start : Option (Option E)} {journal : List (Entry H E)} {s s' : Session H E W}
    (he : Demand.Edit s s') (h : s.console.Records b Hold.onEnd start journal) :
    s'.console.Records b Hold.onEnd start journal := by
  cases he with
  | form | handlers => exact h.congr rfl (by simp [Stage.hold?, Console.stage, Function.comp_def])

/-! ## Leave -/

namespace Deed

/-- The end callback that ran, with the form of the dialog that it took leave of. -/
def leave? : Deed H E → Option (E × Form)
  | tookLeave callback _ form => some (callback, form)
  | _ => none

/-- The end callback that was due, as its dialog had closed. -/
def due? : Deed H E → Option (E × Form)
  | closed d => d.onEnd.map (·, d.form)
  | _ => none

theorem Calls.leave?_eq_none {handler : H} {context : Context H E} {deed : Deed H E} (h : deed.Calls handler context) :
    deed.leave? = none ∧ deed.due? = none := by
  cases h <;> exact ⟨rfl, rfl⟩

end Deed

/-- The end callbacks that ran are those of the dialogs that closed, each once and in their order. -/
theorem History.leaves {view : Hold H E → κ} {start held : Option κ} {deeds : List (Entry H E)}
    (h : History b view start deeds held) : deeds.filterMap (·.deed.leave?) = deeds.filterMap (·.deed.due?) := by
  induction h with
  | nil => rfl
  | called history before after top call ih =>
    obtain ⟨hleave, hdue⟩ := call.leave?_eq_none
    simpa [List.filterMap_cons, hleave, hdue] using ih
  | opened history free d ih => exact ih
  | closed history dialog before requested onEnd ih => simpa [Deed.leave?, Deed.due?, onEnd] using ih
  | closedWith history dialog before requested onEnd took ih => simpa [Deed.leave?, Deed.due?, onEnd] using ih

/-! ## Runs -/

/-- While a dialog is shown and not to end, no request is to be met. -/
theorem Stage.Orderly.applyRequests {s : Session H E W} (h : s.console.stage.Orderly) (hd : s.console.dialog.isSome)
    (he : s.console.control.endRequested = false) : (Console.applyRequests b).after s = s := by
  have hp : s.console.control.pending = none := h.pending_eq_none hd he
  rw [Console.applyRequests, SessionM.after, SessionM.run_bind, Console.run_applyEnd he]
  show (Console.applyOpen : SessionM H E W Unit).after s = s
  rw [Console.applyOpen, SessionM.after_console, hp]
  rfl

/-- A host gets there from a new console by some demands. -/
def Session.Reachable (b : Behaviour H E W) (t : Session H E W) : Prop :=
  ∃ form dialogPalette s demands, Console.ofForm form dialogPalette = .ok s.console ∧
    t = Demand.performAll b demands s

theorem Session.Reachable.orderly (hb : b.ActsBy R) {t : Session H E W} (h : t.Reachable b) :
    t.console.Always Stage.Orderly := by
  obtain ⟨form, dialogPalette, s, demands, hs, rfl⟩ := h
  exact Demand.performAll_keeps (P := fun s => s.console.Always Stage.Orderly) hb (fun _ _ h hm => hm.orderly h)
    (fun _ _ h he => he.orderly h) demands (Console.always_of_ofForm hs ⟨rfl, nofun, nofun⟩)

theorem Session.Reachable.records (hb : b.ActsBy R) {t : Session H E W} (h : t.Reachable b) :
    History b Hold.onEnd none t.console.journal (t.console.stage.hold?.map Hold.onEnd) := by
  obtain ⟨form, dialogPalette, s, demands, hs, rfl⟩ := h
  obtain ⟨base, hc⟩ := Console.eq_of_ofForm hs
  have hjournal : s.console.journal = [] := by rw [hc]
  have hstart : s.console.Records b Hold.onEnd none [] := ⟨[], hjournal, fun _ => by rw [hc]; exact .nil⟩
  obtain ⟨-, deeds, hd, hh⟩ := Demand.performAll_keeps
    (P := fun s => s.console.Always Stage.Orderly ∧ s.console.Records b Hold.onEnd none []) hb
    (fun _ _ h hm => ⟨hm.orderly h.1, hm.records h.1.stage h.2⟩) (fun _ _ h he => ⟨he.orderly h.1, he.records h.2⟩)
    demands ⟨Console.always_of_ofForm hs ⟨rfl, nofun, nofun⟩, hstart⟩
  obtain ⟨deeds', hd', htook⟩ := Demand.performAll_leaves (b := b) demands s
  rw [List.append_nil] at hd
  rw [hjournal, List.append_nil, hd] at hd'
  rw [hd]
  exact hh (hd' ▸ htook)

/-- On all ways to a session, and in the session itself, a dialog is shown exactly if the control says so,
its end is asked for only if it is shown, and another one is pending only if there is none or its end is
asked for. So a dialog is never put in the place of another: each one opens where there is none, closes
because its end is asked for, and is taken leave of right then, once and at no other time. -/
theorem reachable_lifecycle (hb : b.ActsBy fun _ _ => True) {t : Session H E W} (h : t.Reachable b) :
    (∀ st ∈ t.console.stages, st.Orderly) ∧
    History b Hold.onEnd none t.console.journal (t.console.dialog.map (·.onEnd)) ∧
    t.console.journal.filterMap (·.deed.leave?) = t.console.journal.filterMap (·.deed.due?) ∧
    (t.console.dialog.isSome → t.console.control.endRequested = false → (Console.applyRequests b).after t = t) := by
  have hr := h.records hb
  refine ⟨h.orderly hb, ?_, hr.leaves, (h.orderly hb).stage.applyRequests⟩
  rwa [Stage.hold?, Option.map_map] at hr

theorem reachable_lifecycle_confirmed :
    let c : Console AppHandler Unit :=
      { form := default, handlers := [], dialog := none, control := {}, dialogBase := ⟨[{}]⟩, running := false,
        size := (0, 0), lastFocus := none, generation := 0 }
    let plan : DialogPlan AppHandler Unit :=
      { description := "Btn [OK] #ok &press=ok", handler := some .dialog, onEnd := some () }
    let t := Demand.performAll App.behaviour [.openDialog plan, .press "ok"] ⟨c, default, ()⟩
    t.Reachable App.behaviour ∧ t.console.journal.length = 5 ∧ t.console.dialog.isNone ∧
      (∀ st ∈ t.console.stages, st.Orderly) ∧
      History App.behaviour Hold.onEnd none t.console.journal (t.console.dialog.map (·.onEnd)) := by
  intro c plan t
  have ht : t.Reachable App.behaviour := ⟨default, "", ⟨c, default, ()⟩, _, rfl, rfl⟩
  have h := reachable_lifecycle (App.behaviour_actsBy _) ht
  exact ⟨ht, by decide +kernel, by decide +kernel, h.1, h.2.1⟩

end ScreenForm
