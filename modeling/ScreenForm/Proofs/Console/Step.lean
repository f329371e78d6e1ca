import ScreenForm.Proofs.Console.EditEvent
import ScreenForm.Proofs.Console.Obey
import ScreenForm.Proofs.Console.Tally
/-!
# How a step comes out

The events of a step leave the screen alone and only stop the console on request
(`Attends`). So a step either takes a batch of input, and the console runs on, or
there is a request to stop (`step_ok`), or it fails (`step_error`).
-/

namespace ScreenForm

variable {H E W α β : Type} {R : Form → Form → Prop}

/-! ## No form fails for want of input -/

/-- The error does not say that the input is exhausted. -/
abbrev FormError.Supplied (e : FormError) : Prop := e ≠ .inputExhausted

section

open Description

theorem failsOnly_liftSupplied {ε α : Type} [Coe ε FormError] (h : ∀ e : ε, (Coe.coe e : FormError).Supplied)
    (x : Except ε α) : FailsOnly FormError.Supplied (liftError x) := by
  cases x with
  | ok a => exact .ok a
  | error e => exact .error (h e)

theorem supplied_reading {α : Type} (x : Except SyntaxError α) : FailsOnly FormError.Supplied (liftError x) :=
  failsOnly_liftSupplied (fun _ h => by cases h) x

theorem supplied_style {α : Type} (x : Except StyleError α) : FailsOnly FormError.Supplied (liftError x) :=
  failsOnly_liftSupplied (fun _ h => by cases h) x

theorem supplied_runtime {α : Type} (x : Except RuntimeError α) : FailsOnly FormError.Supplied (liftError x) :=
  failsOnly_liftSupplied (fun _ h => by cases h) x

namespace Assembly

variable (a : Assembly) (n : Nat)

theorem supplied_addRead (read : Except SyntaxError Leaf) : FailsOnly FormError.Supplied (a.addRead read n) :=
  (supplied_reading _).bind fun _ => supplied_runtime _

theorem supplied_addHeader (data : List Char) : FailsOnly FormError.Supplied (a.addHeader n data) := by
  unfold addHeader
  dsimp only
  split
  · exact .error nofun
  · exact (supplied_reading _).bind fun _ => (supplied_runtime _).bind fun _ => .ok _

theorem supplied_addFooter (data : List Char) : FailsOnly FormError.Supplied (a.addFooter n data) := by
  unfold addFooter
  dsimp only
  split
  · exact .error nofun
  · exact (supplied_reading _).bind fun _ => (supplied_runtime _).bind fun _ => .ok _

theorem supplied_closeContainer (data : List Char) : FailsOnly FormError.Supplied (a.closeContainer n data) := by
  unfold closeContainer
  dsimp only
  split
  · exact .error nofun
  split
  · exact .error nofun
  · exact (supplied_reading _).bind fun _ => supplied_runtime _

theorem supplied_addLine (l : List Char × Nat) : FailsOnly FormError.Supplied (a.addLine l) := by
  refine (supplied_reading _).bind fun line => ?_
  cases line with
  | comment => exact .ok _
  | blank => exact .ok _
  | rule fill data => exact supplied_addRead a _ _
  | command opcode data =>
    cases opcode with
    | header => exact supplied_addHeader a _ data
    | footer => exact supplied_addFooter a _ data
    | radioButton => exact (supplied_reading _).bind fun _ => supplied_runtime _
    | opening kind => exact supplied_reading _
    | closing => exact supplied_closeContainer a _ data
    | _ => exact supplied_addRead a _ _

theorem supplied_foldlM (lines : List (List Char × Nat)) : FailsOnly FormError.Supplied (lines.foldlM addLine a) := by
  induction lines generalizing a with
  | nil => exact .ok _
  | cons l lines ih => exact (supplied_addLine a l).bind fun _ => ih _

theorem supplied_finish : FailsOnly FormError.Supplied a.finish := by
  unfold finish
  split
  · exact .error nofun
  · exact .ok _

end Assembly

theorem Form.supplied_parse (description : String) (palette : Palette) (strings : StringTable) :
    FailsOnly FormError.Supplied (parse description palette strings) :=
  (supplied_runtime _).bind fun _ => (Assembly.supplied_foldlM _ _).bind fun _ => Assembly.supplied_finish _

theorem DialogPlan.supplied_build (plan : DialogPlan H E) (base : Palette) :
    FailsOnly FormError.Supplied (plan.build base) :=
  (supplied_style _).bind fun _ => (Form.supplied_parse plan.description _ plan.strings).bind fun _ => .ok _

end

/-! ## What events leave alone -/

/-- The screen is as it was, the console runs if it did, and it knows of a stop what it was asked for. -/
structure Session.Attends (R : Form → Form → Prop) (s s' : Session H E W) : Prop where
  screen : s'.screen = s.screen
  running : s'.console.running = s.console.running
  tallies : s.console.Tallies R s'.console

namespace Console

open SessionM

variable {b : Behaviour H E W} {s q : Session H E W}

theorem admits_attends (hb : b.ActsBy R) :
    Admits b (Session.Attends R) fun e => e = .inputExhausted → b.Raises e := by
  have hfollows := admits_follows (F := fun e => e = .inputExhausted → b.Raises e) Context.telling_asks hb
    (fun h => Prod.ext h.stopRequested h.finalMessage) (fun _ => nofun) (fun _ h _ => h)
    fun plan base e h he => absurd he (plan.supplied_build base e h)
  refine hfollows.mono (fun h => ?_) fun h h' => ?_
  · exact ⟨h.screen, h.running, tallies_iff_follows.2 h.console⟩
  · exact ⟨h'.screen.trans h.screen, h'.running.trans h.running, h.tallies.trans h'.tallies⟩

/-! ## A step, event by event -/

/-- What a step does before it draws: the focus event. -/
def greet (b : Behaviour H E W) : SessionM H E W Unit := do
  fireFocus b
  applyRequests b

/-- What a step does when its batch of input is done: the edit event. -/
def conclude (b : Behaviour H E W) (snapshot : Option (Nat × Nat × String)) : SessionM H E W Unit := do
  match snapshot with
  | some snapshot =>
    fireEdit b snapshot
    applyRequests b
  | none => pure ()

/-- The session with the console stopped, if that is requested. -/
def heeded (s : Session H E W) : Session H E W := { s with console := s.console.heedStop }

/-- The session with its next frame drawn. -/
def drawn (s : Session H E W) : Session H E W := (drawFrame : SessionM H E W Unit).after s

theorem settle_eq (b : Behaviour H E W) (snapshot : Option (Nat × Nat × String)) :
    settle b snapshot = (do conclude b snapshot; modifyConsole (·.heedStop)) := by
  cases snapshot with
  | none => simp only [settle, conclude, pure_bind]
  | some snapshot => simp only [settle, conclude, bind_assoc]

theorem run_settle (snapshot : Option (Nat × Nat × String)) (q : Session H E W) :
    (settle b snapshot).run.run q = match (conclude b snapshot).run.run q with
      | (.ok (), t) => (.ok (), heeded t)
      | (.error e, t) => (.error e, t) := by
  rw [settle_eq, run_bind]
  rcases (conclude b snapshot).run.run q with ⟨_ | _, t⟩ <;> rfl

theorem stopRequested_heedStop (c : Console H E) : c.heedStop.control.stopRequested = c.control.stopRequested := by
  unfold heedStop
  split <;> rfl

theorem heedStop_of_not_requested {c : Console H E} (h : c.control.stopRequested = false) : c.heedStop = c := by
  unfold heedStop
  rw [if_neg (by simp [h])]

theorem run_pollBatch (s : Session H E W) : (pollBatch : SessionM H E W (List Input)).run.run s =
    match s.screen.poll? with
      | none => (.error .inputExhausted, s)
      | some (batch, screen) => (.ok batch, { s with screen }) := by
  show (match s.screen.poll? with
    | none => throw .inputExhausted
    | some (batch, screen) => do set { s with screen }; return batch : SessionM H E W (List Input)).run.run s = _
  cases s.screen.poll? <;> rfl

theorem run_receive (b : Behaviour H E W) (s : Session H E W) : (receive b).run.run s = match (greet b).run.run s with
      | (.error e, q) => (.error e, q)
      | (.ok (), q) =>
        if q.console.control.stopRequested then (.ok none, heeded q)
        else match (drawn q).screen.poll? with
          | none => (.error .inputExhausted, drawn q)
          | some (batch, screen) => (.ok (some batch), { drawn q with screen }) := by
  have heq : receive b = (do
      greet b
      modifyConsole (·.heedStop)
      if !(← console).control.stopRequested then
        drawFrame
        return some (← pollBatch)
      else return none) := by simp only [receive, greet, bind_assoc]
  rw [heq, run_bind]
  rcases (greet b).run.run s with ⟨e | _, q⟩
  · rfl
  · dsimp only
    rw [run_bind]
    show (console >>= _ : SessionM H E W (Option (List Input))).run.run (heeded q) = _
    rw [run_console, heeded, stopRequested_heedStop]
    cases hs : q.console.control.stopRequested with
    | true => rw [if_neg (by simp), if_pos rfl]; rfl
    | false =>
      rw [if_pos (by simp), if_neg (by simp), heedStop_of_not_requested hs, run_bind]
      show (pollBatch >>= fun batch => pure (some batch) : SessionM H E W (Option (List Input))).run.run (drawn q) = _
      rw [run_bind, run_pollBatch]
      cases (drawn q).screen.poll? <;> rfl

end Console

namespace Screen

variable {s s' : Screen}

theorem queue_draw (s : Screen) (render? : Buffer → Option Buffer) : (s.draw render?).queue = s.queue := by
  have hfitted : s.fitted.queue = s.queue := by
    unfold fitted
    split <;> rfl
  unfold draw
  dsimp only
  split <;> exact hfitted

theorem queue_applyResize (inputs : List Input) (s : Screen) : (inputs.foldl applyResize s).queue = s.queue := by
  induction inputs generalizing s with
  | nil => rfl
  | cons input rest ih =>
    rw [List.foldl_cons, ih]
    cases input <;> rfl

theorem queue_of_poll? {batch : List Input} (h : s.poll? = some (batch, s')) : s.queue = batch :: s'.queue := by
  unfold poll? at h
  split at h
  · cases h
  · next first rest hq =>
    cases h
    rw [hq, queue_applyResize]

end Screen

namespace Console

open SessionM

variable {b : Behaviour H E W} (hb : b.ActsBy R) {s p q t : Session H E W} {e : FormError} {batch : List Input}

theorem tallies_heeded (s : Session H E W) : s.console.Tallies R (heeded s).console := by
  refine tallies_of_eq (aside_heedStop _).journal (Prod.ext (stopRequested_heedStop _) ?_)
  unfold heeded heedStop
  split <;> rfl

theorem tallies_drawn (s : Session H E W) : s.console.Tallies R (drawn s).console := by
  have h := silent_refreshFooter s.console
  exact tallies_of_eq h.journal (Prod.ext h.stopRequested h.finalMessage)

/-- A step goes on while no stop is requested, and heeds it at its end. -/
theorem heeded_cases (s : Session H E W) :
    (heeded s).console.control.stopRequested = true ∧ (heeded s).console.running = false ∨
      s.console.control.stopRequested = false ∧ heeded s = s := by
  cases hs : s.console.control.stopRequested with
  | true =>
    refine .inl ⟨(stopRequested_heedStop _).trans hs, ?_⟩
    rw [heeded, heedStop, if_pos hs]
  | false =>
    refine .inr ⟨rfl, ?_⟩
    rw [heeded, heedStop_of_not_requested hs]

section

variable {Q : Session H E W → Session H E W → Prop} {F : FormError → Prop} (ha : Admits b Q F)
include ha

theorem obeys_greet (s : Session H E W) : Obeys Q F (greet b) s :=
  (obeys_fireFocus ha.calls).bind ha.trans fun _ _ _ => obeys_applyRequests ha

theorem obeys_conclude (snapshot : Option (Nat × Nat × String)) (s : Session H E W) :
    Obeys Q F (conclude b snapshot) s := by
  cases snapshot with
  | none => exact obeys_pure ha.refl _
  | some snapshot => exact (obeys_fireEdit ha.calls _).bind ha.trans fun _ _ _ => obeys_applyRequests ha

end

include hb

theorem receive_none (h : (receive b).run.run s = (.ok none, q)) : q.console.control.stopRequested = true ∧
    q.console.running = false ∧ q.screen = s.screen ∧ s.console.Tallies R q.console := by
  obtain ⟨hattends, -⟩ := obeys_greet (admits_attends hb) s
  rw [SessionM.after] at hattends
  rw [run_receive] at h
  rcases hg : (greet b).run.run s with ⟨e' | _, g⟩ <;> rw [hg] at h hattends
  · cases h
  · dsimp only at h
    split at h
    · next hs =>
      cases h
      rcases heeded_cases g with ⟨hstop, hrun⟩ | ⟨hstop, -⟩
      · exact ⟨hstop, hrun, hattends.screen, hattends.tallies.trans (tallies_heeded g)⟩
      · simp [hs] at hstop
    · split at h <;> cases h

theorem receive_some (h : (receive b).run.run s = (.ok (some batch), p)) : p.console.control.stopRequested = false ∧
    p.console.running = s.console.running ∧ s.screen.queue = batch :: p.screen.queue ∧
      s.console.Tallies R p.console := by
  obtain ⟨hattends, -⟩ := obeys_greet (admits_attends hb) s
  rw [SessionM.after] at hattends
  rw [run_receive] at h
  rcases hg : (greet b).run.run s with ⟨e' | _, g⟩ <;> rw [hg] at h hattends
  · cases h
  · dsimp only at h
    split at h
    · cases h
    · next hs =>
      split at h
      · cases h
      · next batch' screen hpoll =>
        cases h
        have hsilent := silent_refreshFooter g.console
        refine ⟨?_, ?_, ?_, hattends.tallies.trans (tallies_drawn g)⟩
        · rw [Bool.not_eq_true] at hs
          exact hsilent.stopRequested.trans hs
        · exact hsilent.running.trans hattends.running
        · rw [← Screen.queue_of_poll? hpoll, ← hattends.screen]
          exact (Screen.queue_draw _ _).symm

theorem attends_handleBatch (h : (handleBatch b batch).run.run p = (.ok (), q)) : p.Attends R q := by
  have hattends := (obeys_handleBatch (admits_attends hb) batch (s := p)).after
  rwa [SessionM.after, h] at hattends

/-- The console is stopped because that was requested, or it runs if it did. -/
theorem settle_ok {snapshot : Option (Nat × Nat × String)} (h : (settle b snapshot).run.run q = (.ok (), t)) :
    t.screen = q.screen ∧ q.console.Tallies R t.console ∧
      (t.console.control.stopRequested = true ∧ t.console.running = false ∨
        t.console.control.stopRequested = false ∧ t.console.running = q.console.running) := by
  have hattends := (obeys_conclude (admits_attends hb) snapshot q).after
  rw [SessionM.after] at hattends
  rw [run_settle] at h
  rcases hc : (conclude b snapshot).run.run q with ⟨e' | _, g⟩ <;> rw [hc] at h hattends
  · cases h
  · cases h
    refine ⟨hattends.screen, hattends.tallies.trans (tallies_heeded g), ?_⟩
    rcases heeded_cases g with hstop | ⟨hstop, heq⟩
    · exact .inl hstop
    · rw [heq]
      exact .inr ⟨hstop, hattends.running⟩

theorem step_ok (hrun : s.console.running = true) (h : (step b).run.run s = (.ok (), t)) :
    s.console.Tallies R t.console ∧
      (t.console.control.stopRequested = true ∧ t.console.running = false ∨
        t.console.control.stopRequested = false ∧ t.console.running = true ∧
          ∃ batch, s.screen.queue = batch :: t.screen.queue) := by
  rw [step_eq, run_bind] at h
  rcases hr : (receive b).run.run s with ⟨e | _ | batch, p⟩ <;> rw [hr] at h
  · cases h
  · cases h
    obtain ⟨hstop, hrun, -, htallies⟩ := receive_none hb hr
    exact ⟨htallies, .inl ⟨hstop, hrun⟩⟩
  · obtain ⟨-, hkeep, hqueue, htallies⟩ := receive_some hb hr
    replace h : (handleBatch b batch >>= fun _ => settle b p.console.editSnapshot).run.run p = (.ok (), t) := h
    rw [run_bind] at h
    rcases hh : (handleBatch b batch).run.run p with ⟨e | _, q⟩ <;> rw [hh] at h
    · cases h
    · have hattends := attends_handleBatch hb hh
      obtain ⟨hscreen, htallies', hend⟩ := settle_ok hb h
      refine ⟨htallies.trans (hattends.tallies.trans htallies'), hend.imp_right fun ⟨hstop, hrunning⟩ => ?_⟩
      refine ⟨hstop, hrunning.trans (hattends.running.trans (hkeep.trans hrun)), batch, ?_⟩
      rw [hscreen, hattends.screen]
      exact hqueue

end Console

end ScreenForm
