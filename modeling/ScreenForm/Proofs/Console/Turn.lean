import ScreenForm.Proofs.Console.Demand
import ScreenForm.Proofs.Console.Obey
/-!
# Turns

The loop of a console goes from one event to the next: the event is met, and then the
requests that it has led to. In between there are only frames to draw, input to take and
the like. So all that a host asks of a console is one call, or a sequence of such turns
(`Demand.perform_turns`).
-/

namespace ScreenForm

open Relation (ReflTransGen)

variable {H E W α β : Type} {R : Form → Form → Prop} {b : Behaviour H E W}

open Console in
/-- One turn of the loop: an event with the requests that it leads to, or something that neither forms nor handlers nor
requests have a part in. -/
inductive Turn (b : Behaviour H E W) (s : Session H E W) : Session H E W → Prop
  | aside {c : Console H E} (same : s.console.Aside c) (screen : Screen) : Turn b s ⟨c, screen, s.world⟩
  | focusEvent : Turn b s ((do fireFocus b; applyRequests b : SessionM H E W Unit).after s)
  | key (key : Key) : Turn b s ((handleInput b (.key key)).after s)
  | editEvent (snapshot : Nat × Nat × String) :
      Turn b s ((do fireEdit b snapshot; applyRequests b : SessionM H E W Unit).after s)

/-- Whether the demand is one call, which does not come back to the loop. -/
def Demand.isCall : Demand H E W → Bool
  | openDialog _ | endDialog | press _ | focus _ | stop _ | use .dialog _ | wait .. => true
  | _ => false

/-- One turn of the loop, or one call of the host. -/
inductive Happens (b : Behaviour H E W) (s : Session H E W) : Session H E W → Prop
  | turn {t : Session H E W} (turn : Turn b s t) : Happens b s t
  | called {demand : Demand H E W} (call : demand.isCall = true) : Happens b s ((demand.perform b).after s)

/-- What happens one after the other. -/
abbrev Trail (b : Behaviour H E W) : Session H E W → Session H E W → Prop := ReflTransGen (Happens b)

/-! ## The loop, turn by turn -/

namespace SessionM

/-- From this session it goes on by turns of the loop. -/
def Turns (b : Behaviour H E W) (m : SessionM H E W α) (s : Session H E W) : Prop := ReflTransGen (Turn b) s (m.after s)

variable {s : Session H E W} {m : SessionM H E W α} {f : α → SessionM H E W β}

theorem turns_pure (a : α) : Turns b (pure a) s := .refl

theorem turns_throw (e : FormError) : Turns b (throw e : SessionM H E W α) s := .refl

theorem turns_console {f : Console H E → SessionM H E W α} (h : Turns b (f s.console) s) :
    Turns b (console >>= f) s := h

theorem turns_aside {f : Console H E → Console H E} (h : s.console.Aside (f s.console)) :
    Turns b (modifyConsole f : SessionM H E W Unit) s :=
  .single (.aside h s.screen)

theorem Turns.bind (hm : Turns b m s) (hf : ∀ a s', m.run.run s = (.ok a, s') → Turns b (f a) s') :
    Turns b (m >>= f) s := by
  unfold Turns after at hm ⊢
  rw [run_bind]
  rcases h : m.run.run s with ⟨_ | a, s'⟩ <;> rw [h] at hm
  · exact hm
  · exact hm.trans (hf a s' h)

theorem Turns.tryCatch {h : FormError → SessionM H E W α} (hm : Turns b m s)
    (hh : ∀ e s', m.run.run s = (.error e, s') → Turns b (h e) s') : Turns b (tryCatch m h) s := by
  unfold Turns after at hm ⊢
  rw [run_tryCatch]
  rcases hr : m.run.run s with ⟨e | a, s'⟩ <;> rw [hr] at hm
  · exact hm.trans (hh e s' hr)
  · exact hm

end SessionM

namespace Console

open SessionM

variable {s p q : Session H E W}

theorem turns_handleBatch (inputs : List Input) : Turns b (handleBatch b inputs) s := by
  induction inputs generalizing s with
  | nil => exact turns_pure _
  | cons input rest ih =>
    have hinput : Turns b (handleInput b input) s := by
      cases input with
      | resize columns rows =>
        exact turns_aside (f := fun c => { c with size := (columns, rows) }) ⟨rfl, rfl, rfl, rfl, rfl, rfl, rfl, rfl⟩
      | key key => exact .single (.key key)
    refine hinput.bind fun _ s' _ => turns_console ?_
    split
    · exact ih
    · exact turns_pure _

theorem turns_drawFrame : Turns b (drawFrame : SessionM H E W Unit) s := by
  refine (turns_aside (aside_refreshFooter _)).bind fun _ s' _ => ?_
  refine Turns.bind (.single (.aside (.refl s'.console) _)) fun _ _ _ => ?_
  exact turns_aside ⟨rfl, rfl, rfl, rfl, rfl, rfl, rfl, rfl⟩

theorem turns_pollBatch : Turns b (pollBatch : SessionM H E W (List Input)) s := by
  refine Turns.bind (m := get) .refl fun s' _ h => ?_
  cases h
  split
  · exact turns_throw _
  · exact .single (.aside (.refl s.console) _)

theorem turns_step : Turns b (step b) s := by
  -- The two turns of a step end with the requests, so they are taken together with those.
  unfold step
  rw [← bind_assoc]
  refine Turns.bind (.single .focusEvent) fun _ _ _ => ?_
  refine (turns_aside (aside_heedStop _)).bind fun _ _ _ => turns_console ?_
  split
  · refine turns_drawFrame.bind fun _ _ _ => turns_pollBatch.bind fun batch _ _ => turns_console ?_
    refine (turns_handleBatch batch).bind fun _ _ _ => ?_
    split
    · next snapshot _ =>
      dsimp only
      rw [← bind_assoc]
      exact Turns.bind (.single (.editEvent snapshot)) fun _ _ _ => turns_aside (aside_heedStop _)
    · exact turns_aside (aside_heedStop _)
  · exact turns_pure _

theorem turns_stepWhileRunning (n : Nat) : Turns b (stepWhileRunning b n) s := by
  induction n generalizing s with
  | zero => exact turns_pure _
  | succ n ih =>
    refine turns_console ?_
    split
    · exact turns_step.bind fun _ _ _ => ih
    · exact turns_pure _

theorem turns_run : Turns b (run b) s := by
  have hstart : Turns b (start : SessionM H E W Unit) s := turns_aside (f := fun c => { c with
    size := s.screen.size
    control := { c.control with stopRequested := false, finalMessage := none }
    running := true }) ⟨rfl, rfl, rfl, rfl, rfl, rfl, rfl, rfl⟩
  refine hstart.bind fun _ s' _ => Turns.bind (m := get) .refl fun s'' _ _ => ?_
  refine (Turns.tryCatch (turns_stepWhileRunning _) fun e _ _ => ?_).bind fun _ _ _ => turns_console ?_
  · refine (turns_aside ⟨rfl, rfl, rfl, rfl, rfl, rfl, rfl, rfl⟩).bind fun _ _ _ => turns_throw _
  · refine Turns.bind (turns_aside ⟨rfl, rfl, rfl, rfl, rfl, rfl, rfl, rfl⟩) fun _ _ _ => turns_pure _

theorem run_handleBatch_cons (input : Input) (rest : List Input) (s : Session H E W) :
    (handleBatch b (input :: rest)).run.run s = match (handleInput b input).run.run s with
      | (.ok (), q) => if q.console.control.stopRequested then (.ok (), q) else (handleBatch b rest).run.run q
      | (.error e, q) => (.error e, q) := by
  rw [handleBatch, run_bind]
  rcases (handleInput b input).run.run s with ⟨_ | _, q⟩
  · rfl
  · dsimp only
    show (if (!q.console.control.stopRequested) = true then handleBatch b rest else pure ()).run.run q = _
    cases q.console.control.stopRequested <;> rfl

/-- As long as no stop is requested, the rest of the batch is handled. -/
theorem run_handleBatch_append {before : List Input} (h : (handleBatch b before).run.run p = (.ok (), q))
    (hgoes : q.console.control.stopRequested = false) (rest : List Input) :
    (handleBatch b (before ++ rest)).run.run p = (handleBatch b rest).run.run q := by
  induction before generalizing p with
  | nil =>
    cases h
    rfl
  | cons input before ih =>
    rw [run_handleBatch_cons] at h
    rw [List.cons_append, run_handleBatch_cons]
    rcases hi : (handleInput b input).run.run p with ⟨_ | _, p'⟩ <;> rw [hi] at h
    · cases h
    · dsimp only at h ⊢
      split at h
      · next hs =>
        cases h
        simp [hs] at hgoes
      · next hs => rw [if_neg hs, ih h]

end Console

namespace Demand

open SessionM

variable {s s' : Session H E W} {demand : Demand H E W}

/-- What a host asks of a console beyond calls is a sequence of turns. -/
theorem perform_turns (hown : demand.isOwn = false) (hcall : demand.isCall = false) (s : Session H E W) :
    ReflTransGen (Turn b) s ((demand.perform b).after s) := by
  cases demand with
  | step => exact Console.turns_step
  | run => exact Turns.bind Console.turns_run fun _ _ _ => turns_pure _
  | batch inputs => exact Console.turns_handleBatch inputs
  | focusEvent => exact .single .focusEvent
  | editEvent snapshot => exact .single (.editEvent snapshot)
  | use scope u =>
    cases scope with
    | console => cases hown
    | dialog => cases hcall
  | pushHandler | popHandler => cases hown
  | openDialog | endDialog | press | focus | stop | wait => cases hcall

theorem perform_trail (hown : demand.isOwn = false) (s : Session H E W) : Trail b s ((demand.perform b).after s) := by
  cases hcall : demand.isCall with
  | true => exact .single (.called hcall)
  | false =>
    have hturn : Turn b ≤ Happens b := fun _ _ => .turn
    exact ReflTransGen.mono hturn _ _ (perform_turns hown hcall s)

theorem performAll_trail {demands : List (Demand H E W)} (h : ∀ demand ∈ demands, demand.isOwn = false)
    (s : Session H E W) : Trail b s (performAll b demands s) := by
  induction demands generalizing s with
  | nil => exact .refl
  | cons demand demands ih =>
    rw [List.forall_mem_cons] at h
    exact (perform_trail h.1 s).trans (ih h.2 _)

theorem isOwn_of_isCall (h : demand.isCall = true) : demand.isOwn = false := by
  cases demand with
  | use scope u =>
    cases scope with
    | console => cases h
    | dialog => rfl
  | pushHandler | popHandler => cases h
  | _ => rfl

end Demand

section

open SessionM Console

variable {s s' : Session H E W}

theorem Turn.path (hb : b.ActsBy R) (h : Turn b s s') : Path R s s' := by
  cases h with
  | aside same screen => exact .single (.aside same screen s.world)
  | focusEvent => exact (leads_fireFocus hb).bind fun _ _ _ => leads_applyRequests hb
  | key key => exact leads_handleInput hb (.key key)
  | editEvent snapshot => exact (leads_fireEdit hb snapshot).bind fun _ _ _ => leads_applyRequests hb

theorem Happens.path (hb : b.ActsBy R) (h : Happens b s s') : Path R s s' := by
  cases h with
  | turn turn => exact turn.path hb
  | called call => exact Demand.perform_path hb (Demand.isOwn_of_isCall call) s

end

/-! ## Taking leave -/

/-- If an end callback takes leave, what the deed makes of the console is what the callback makes of its form and its
control. -/
def Entry.Took (b : Behaviour H E W) (e : Entry H E) : Prop :=
  match e.deed with
  | .tookLeave callback context dialog =>
    context = ⟨e.before.form, e.before.control, .console⟩ ∧ ∃ world,
      let left := ((b.onEnd callback dialog).run.run ⟨context, world⟩).2.context
      e.after = { e.before with form := left.form, control := left.control }
  | _ => True

/-- All end callbacks that have taken leave since did so. -/
def Session.Leaves (b : Behaviour H E W) (s s' : Session H E W) : Prop :=
  ∃ deeds, s'.console.journal = deeds ++ s.console.journal ∧ ∀ e ∈ deeds, e.Took b

namespace Session.Leaves

variable {s s' s'' : Session H E W}

theorem of_eq (h : s'.console.journal = s.console.journal) : s.Leaves b s' := ⟨[], h, List.forall_mem_nil _⟩

theorem trans (h : s.Leaves b s') (h' : s'.Leaves b s'') : s.Leaves b s'' := by
  obtain ⟨deeds, hj, htook⟩ := h
  obtain ⟨deeds', hj', htook'⟩ := h'
  exact ⟨deeds' ++ deeds, by rw [hj', hj, List.append_assoc], List.forall_mem_append.2 ⟨htook', htook⟩⟩

theorem become (deed : Deed H E) (after : Console H E) {world : W}
    (h : Entry.Took b ⟨deed, s.console.stage, after.stage⟩) :
    s.Leaves b ⟨s.console.become deed after, s.screen, world⟩ :=
  ⟨[⟨deed, s.console.stage, after.stage⟩], rfl, List.forall_mem_singleton.2 h⟩

end Session.Leaves

theorem Console.admits_leaves (b : Behaviour H E W) : Admits b (Session.Leaves b) fun _ => True where
  refl _ := .of_eq rfl
  trans := .trans
  mute _ _ h := .of_eq h.journal
  asked s handler kind responder := .become (.asked handler kind responder) s.console trivial
  told s handler below responder widget event _ := by
    rw [SessionM.tell, SessionM.after_actWith]
    exact .become _ _ trivial
  offered s handler below key := by
    rw [SessionM.offer, SessionM.after_actWith]
    exact .become _ _ trivial
  closed s d _ _ := .become (.closed d) _ trivial
  left s callback dialog := by
    rw [SessionM.after_takeLeave]
    exact .become _ _ ⟨rfl, s.world, rfl⟩
  opened s d := .become (.opened d) _ trivial
  runtime _ := trivial
  raised _ _ := trivial
  built _ _ _ _ := trivial

section

open SessionM Console

variable {s s' : Session H E W}

theorem Turn.leaves (h : Turn b s s') : s.Leaves b s' := by
  have ha := admits_leaves b
  cases h with
  | aside same screen => exact .of_eq same.journal
  | focusEvent => exact ((obeys_fireFocus ha.calls).bind ha.trans fun _ _ _ => obeys_applyRequests ha).after
  | key key => exact (obeys_handleInput ha (.key key)).after
  | editEvent snapshot =>
    exact ((obeys_fireEdit ha.calls snapshot).bind ha.trans fun _ _ _ => obeys_applyRequests ha).after

theorem Happens.leaves (h : Happens b s s') : s.Leaves b s' := by
  have ha := admits_leaves b
  cases h with
  | turn turn => exact turn.leaves
  | @called demand call =>
    cases demand with
    | openDialog plan => exact (obeys_openDialog ha plan).after
    | endDialog => exact (obeys_endDialog ha).after
    | press name => exact ((obeys_press ha name).bind ha.trans fun _ _ _ => obeys_pure ha.refl _).after
    | focus d =>
      refine .of_eq ?_
      show ((s.console.stepFocus? d).getD s.console).journal = s.console.journal
      unfold stepFocus?
      cases s.console.routedForm.tree.stepFocus? s.console.routedForm.root d with
      | none => rfl
      | some tree => exact journal_setRoutedForm ..
    | stop message => exact .of_eq rfl
    | use scope u =>
      cases scope with
      | console => cases call
      | dialog => exact .of_eq rfl
    | wait screen world => exact .of_eq rfl
    | step | run | batch | focusEvent | editEvent | pushHandler | popHandler => cases call

theorem Trail.leaves (h : Trail b s s') : s.Leaves b s' := by
  induction h with
  | refl => exact .of_eq rfl
  | tail _ hstep ih => exact ih.trans hstep.leaves

theorem Demand.performAll_leaves (demands : List (Demand H E W)) (s : Session H E W) :
    s.Leaves b (performAll b demands s) := by
  induction demands generalizing s with
  | nil => exact .of_eq rfl
  | cons demand demands ih =>
    refine Session.Leaves.trans ?_ (ih _)
    cases hown : demand.isOwn with
    | false => exact (perform_trail hown s).leaves
    | true =>
      cases demand with
      | use scope u =>
        cases scope with
        | console => exact .of_eq rfl
        | dialog => cases hown
      | pushHandler | popHandler => exact .of_eq rfl
      | _ => cases hown

end

end ScreenForm
