import ScreenForm.Proofs.Console.Frame
import ScreenForm.Proofs.Console.Stop
/-!
# Text for the footer of one frame

What handlers and end callbacks say for the footer is shown in the next frame,
and in no other one. Of what they say for one side of it the last text counts, and
where they say nothing, the keys of the focused widget fill in (`performAll_footer`).
-/

namespace ScreenForm

open Relation (ReflTransGen)

variable {H E W α β : Type} {R : Form → Form → Prop}

/-! ## Remarks -/

/-- A text for one side of the footer. -/
inductive Remark where
  | info (text : String)
  | tooltip (text : String)

namespace Remark

def info? : Remark → Option String
  | info text => some text
  | tooltip _ => none

def tooltip? : Remark → Option String
  | info _ => none
  | tooltip text => some text

end Remark

namespace FooterText

/-- The last remark for each side. -/
def ofRemarks (rs : List Remark) : FooterText :=
  ⟨(rs.filterMap Remark.info?).getLast?, (rs.filterMap Remark.tooltip?).getLast?⟩

/-- Each side by itself: where there is no text, the other one. -/
def or (t u : FooterText) : FooterText := ⟨t.info.or u.info, t.tooltip.or u.tooltip⟩

@[simp] theorem empty_or (t : FooterText) : or {} t = t := by simp [or]

@[simp] theorem or_empty (t : FooterText) : t.or {} = t := by simp [or]

@[simp] theorem ofRemarks_nil : ofRemarks [] = {} := rfl

theorem or_assoc (t u v : FooterText) : (t.or u).or v = t.or (u.or v) := by
  simp only [or, Option.or_assoc]

theorem ofRemarks_append (rs rs' : List Remark) : ofRemarks (rs ++ rs') = (ofRemarks rs').or (ofRemarks rs) := by
  simp only [ofRemarks, or, List.filterMap_append, List.getLast?_append]

theorem ofRemarks_info (rs : List Remark) (text : String) :
    ofRemarks (rs ++ [.info text]) = { ofRemarks rs with info := some text } := by
  rw [ofRemarks_append]
  rfl

theorem ofRemarks_tooltip (rs : List Remark) (text : String) :
    ofRemarks (rs ++ [.tooltip text]) = { ofRemarks rs with tooltip := some text } := by
  rw [ofRemarks_append]
  rfl

end FooterText

/-! ## What is said -/

def Control.footerText (k : Control H E) : FooterText := ⟨k.info, k.tooltip⟩

namespace Context

variable {c c' : Context H E} {rs : List Remark}

/-- Calls on a context, with the remarks that are made among them. -/
inductive Utters (R : Form → Form → Prop) (c : Context H E) : List Remark → Context H E → Prop
  | nothing : Utters R c [] c
  | info {rs : List Remark} {c' : Context H E} (utters : Utters R c rs c') (text : String) :
      Utters R c (rs ++ [.info text]) (c'.setInfo text)
  | tooltip {rs : List Remark} {c' : Context H E} (utters : Utters R c rs c') (text : String) :
      Utters R c (rs ++ [.tooltip text]) (c'.setTooltip text)
  | form {rs : List Remark} {c' : Context H E} (utters : Utters R c rs c') {form : Form} (changed : R c'.form form) :
      Utters R c rs { c' with form }
  | stop {rs : List Remark} {c' : Context H E} (utters : Utters R c rs c') (message : Option String) :
      Utters R c rs (c'.stop message)
  | openDialog {rs : List Remark} {c' c'' : Context H E} (utters : Utters R c rs c') {plan : DialogPlan H E}
      (asked : c'.openDialog plan = .ok c'') : Utters R c rs c''
  | endDialog {rs : List Remark} {c' c'' : Context H E} (utters : Utters R c rs c') (asked : c'.endDialog = .ok c'') :
      Utters R c rs c''

theorem exists_utters (h : ReflTransGen (Call R) c c') : ∃ rs, Utters R c rs c' := by
  induction h with
  | refl => exact ⟨[], .nothing⟩
  | tail _ call ih =>
    obtain ⟨rs, utters⟩ := ih
    cases call with
    | form changed => exact ⟨rs, utters.form changed⟩
    | setInfo text => exact ⟨_, utters.info text⟩
    | setTooltip text => exact ⟨_, utters.tooltip text⟩
    | stop message => exact ⟨rs, utters.stop message⟩
    | openDialog asked => exact ⟨rs, utters.openDialog asked⟩
    | endDialog asked => exact ⟨rs, utters.endDialog asked⟩

/-- The last remarks are kept for the footer. -/
theorem Utters.footerText (h : Utters R c rs c') :
    c'.control.footerText = (FooterText.ofRemarks rs).or c.control.footerText := by
  induction h with
  | nothing => rw [FooterText.ofRemarks_nil, FooterText.empty_or]
  | @info rs c' _ text ih =>
    rw [FooterText.ofRemarks_info]
    exact congrArg (fun t : FooterText => { t with info := some text }) ih
  | @tooltip rs c' _ text ih =>
    rw [FooterText.ofRemarks_tooltip]
    exact congrArg (fun t : FooterText => { t with tooltip := some text }) ih
  | form _ _ ih => exact ih
  | stop _ _ ih => exact ih
  | openDialog _ asked ih =>
    unfold Context.openDialog at asked
    split at asked <;> cases asked
    exact ih
  | endDialog _ asked ih =>
    unfold Context.endDialog at asked
    split at asked <;> cases asked
    exact ih

end Context

theorem Context.telling_utters : Telling R (H := H) (E := E) (Context.Utters R) Control.footerText
    fun rs t => (FooterText.ofRemarks rs).or t where
  nil := FooterText.empty_or
  append rs rs' t := by rw [FooterText.ofRemarks_append, FooterText.or_assoc]
  calls := exists_utters
  acts := Utters.footerText

namespace Console

variable {c c' c'' : Console H E}

/-- Of what has been said since the console was `c`, the last remarks are kept for the footer. -/
abbrev Voices (R : Form → Form → Prop) (c c' : Console H E) : Prop :=
  c.Follows (Context.Utters R) Control.footerText (fun rs t => (FooterText.ofRemarks rs).or t) c'

theorem voices_of_eq (hj : c'.journal = c.journal) (hf : c'.footerText = c.footerText) : c.Voices R c' :=
  follows_of_eq Context.telling_utters hj hf

theorem Voices.refl (c : Console H E) : c.Voices R c := voices_of_eq rfl rfl

theorem Voices.trans (h : c.Voices R c') (h' : c'.Voices R c'') : c.Voices R c'' :=
  Follows.trans Context.telling_utters h h'

end Console

/-- The screen is as it was, and of what has been said the last remarks are kept for the footer. -/
structure Session.Voices (R : Form → Form → Prop) (s s' : Session H E W) : Prop where
  screen : s'.screen = s.screen
  console : s.console.Voices R s'.console

/-! ## Frames -/

namespace Screen

/-- The screen after the next batch of input, if there is one. -/
def polled (s : Screen) : Screen := (s.poll?.map (·.2)).getD s

theorem draws_applyResize (inputs : List Input) (s : Screen) : (inputs.foldl applyResize s).draws = s.draws := by
  induction inputs generalizing s with
  | nil => rfl
  | cons input rest ih =>
    rw [List.foldl_cons, ih]
    cases input <;> rfl

theorem draws_polled (s : Screen) : s.polled.draws = s.draws := by
  unfold polled poll?
  split
  · rfl
  · exact draws_applyResize ..

theorem draws_draw (s : Screen) (render? : Buffer → Option Buffer) : (s.draw render?).draws = s.draws + 1 := by
  have hfitted : s.fitted.draws = s.draws := by
    unfold fitted
    split <;> rfl
  unfold draw
  dsimp only
  split <;> exact congrArg (· + 1) hfitted

end Screen

namespace Console

open SessionM

/-- The string that a key of the focused widget stands for. -/
def hint? (c : Console H E) (key : Meta → Option String) : Option String := do
  let id ← c.focused?
  let key ← key (c.routedForm.tree.about id)
  (c.routedForm.string key).toOption

/-- What the focused widget of the form that events go to has for the footer. -/
def hints (c : Console H E) : FooterText := ⟨c.hint? (·.info), c.hint? (·.tooltip)⟩

theorem footerText_refreshFooter (c : Console H E) : c.refreshFooter.footerText = c.footerText.or c.hints := by
  unfold refreshFooter hints hint?
  cases c.focused? with
  | none => simp [FooterText.or]
  | some id => rfl

theorem render?_refreshFooter (c : Console H E) : c.refreshFooter.render? = c.render? := by
  have h := aside_refreshFooter c
  unfold render?
  rw [h.form, h.dialog]

/-- Without a dialog over it, what is painted for the footer can be read in its row. -/
theorem render?_footer {c : Console H E} {text : FooterText} {b painted : Buffer} (h : c.render? text b = some painted)
    (hd : c.dialog = none) {width height : Nat} (hb : b.OfSize width height) (hwidth : width ≤ maxCells)
    (hheight : height ≠ 0) (hmax : height ≤ maxCells) :
    let footer := (Frame.areas c.form text (.ofSize width height)).2.2
    (∀ info, text.info = some info → Buffer.drawnWidth info.toList ≤ width →
      (∀ tooltip, text.tooltip = some tooltip → Buffer.drawnWidth info.toList ≤ Frame.tooltipColumn footer tooltip) →
      painted.Spells 0 footer.y (Buffer.visibleClusters info.toList)) ∧
    ∀ tooltip, text.tooltip = some tooltip →
      Frame.tooltipColumn footer tooltip + Buffer.drawnWidth tooltip.toList ≤ width →
      painted.Spells (Frame.tooltipColumn footer tooltip) footer.y (Buffer.visibleClusters tooltip.toList) := by
  rw [render?, hd, Frame.render?] at h
  split at h
  · cases h
    exact Frame.paintForm_footer c.form true hb hwidth hheight hmax
  · cases h

variable {b : Behaviour H E W} {s s' p q t : Session H E W}

/-- The session in which a step from `s` draws a frame, if it comes to that. -/
def frame? (b : Behaviour H E W) (s : Session H E W) : Option (Session H E W) :=
  match (greet b).run.run s with
  | (.ok (), p) => if p.console.control.stopRequested then none else some p
  | (.error _, _) => none

theorem screen_drawn (p : Session H E W) :
    (drawn p).screen = p.screen.draw (p.console.render? (p.console.footerText.or p.console.hints)) := by
  rw [← footerText_refreshFooter, ← render?_refreshFooter]
  rfl

theorem footerText_drawn (p : Session H E W) : (drawn p).console.footerText = {} := rfl

theorem voices_heedStop (c : Console H E) : c.Voices R c.heedStop := by
  refine voices_of_eq (aside_heedStop c).journal ?_
  unfold heedStop
  split <;> rfl

theorem admits_voices (hb : b.ActsBy R) : Admits b (Session.Voices R) fun _ => True := by
  have hfollows := admits_follows Context.telling_utters hb (fun h => h.footerText) (fun _ => trivial)
    (fun _ _ => trivial) fun _ _ _ _ => trivial
  refine hfollows.mono (fun h => ?_) fun h h' => ?_
  · exact ⟨h.screen, h.console⟩
  · exact ⟨h'.screen.trans h.screen, h.console.trans h'.console⟩

/-! ## Steps -/

theorem frame?_eq_some : frame? b s = some p ↔
    (greet b).run.run s = (.ok (), p) ∧ p.console.control.stopRequested = false := by
  unfold frame?
  constructor
  · intro h
    split at h
    · next hgreet =>
      split at h
      · cases h
      · next hgoes =>
        cases h
        exact ⟨hgreet, Bool.eq_false_iff.2 hgoes⟩
    · cases h
  · rintro ⟨hgreet, hgoes⟩
    rw [hgreet]
    exact if_neg (by simp [hgoes])

theorem after_step_of_frame (h : frame? b s = some p) : (step b).after s = match (drawn p).screen.poll? with
      | none => drawn p
      | some (batch, screen) => (do
          handleBatch b batch
          settle b (drawn p).console.editSnapshot : SessionM H E W Unit).after { drawn p with screen } := by
  obtain ⟨hgreet, hgoes⟩ := frame?_eq_some.1 h
  rw [step_eq, SessionM.after, run_bind, run_receive, hgreet]
  dsimp only
  rw [if_neg (by simp [hgoes])]
  cases (drawn p).screen.poll? <;> rfl

theorem after_step_of_no_frame (h : frame? b s = none) :
    (step b).after s = (greet b).after s ∨ (step b).after s = heeded ((greet b).after s) := by
  unfold frame? at h
  rw [step_eq, SessionM.after, run_bind, run_receive, SessionM.after]
  rcases hgreet : (greet b).run.run s with ⟨e | _, q⟩ <;> rw [hgreet] at h
  · exact .inl rfl
  · dsimp only at h ⊢
    split at h
    · next hs =>
      rw [if_pos hs]
      exact .inr rfl
    · cases h

variable (hb : b.ActsBy R)
include hb

theorem voices_greet (s : Session H E W) : s.Voices R ((greet b).after s) := (obeys_greet (admits_voices hb) s).after

theorem voices_settle (snapshot : Option (Nat × Nat × String)) (q : Session H E W) :
    q.Voices R ((settle b snapshot).after q) := by
  rw [settle_eq]
  have hheed (q : Session H E W) : Obeys (Session.Voices R) (fun _ => True) (modifyConsole (·.heedStop)) q :=
    ⟨⟨rfl, voices_heedStop _⟩, nofun⟩
  exact ((obeys_conclude (admits_voices hb) snapshot q).bind (admits_voices hb).trans fun _ q' _ => hheed q').after

/-- A step that does not come to a frame leaves the screen alone. -/
theorem step_of_no_frame (h : frame? b s = none) : s.Voices R ((step b).after s) := by
  have hgreet := voices_greet hb s
  rcases after_step_of_no_frame h with heq | heq
  · rw [heq]
    exact hgreet
  · rw [heq]
    exact ⟨hgreet.screen, hgreet.console.trans (voices_heedStop _)⟩

/-- A step that comes to a frame draws it, takes a batch of input if there is one, and draws no other. -/
theorem step_of_frame (h : frame? b s = some p) : s.Voices R p ∧
    ((step b).after s).screen = (drawn p).screen.polled ∧ (drawn p).console.Voices R ((step b).after s).console := by
  refine ⟨?_, ?_⟩
  · have hgreet := voices_greet hb s
    rwa [SessionM.after, (frame?_eq_some.1 h).1] at hgreet
  · rw [after_step_of_frame h, Screen.polled]
    cases (drawn p).screen.poll? with
    | none => exact ⟨rfl, .refl _⟩
    | some next =>
      obtain ⟨batch, screen⟩ := next
      have hsettle : Obeys (Session.Voices R) (fun _ => True)
          (do handleBatch b batch; settle b (drawn p).console.editSnapshot) { drawn p with screen } :=
        (obeys_handleBatch (admits_voices hb) batch).bind (admits_voices hb).trans fun _ q _ =>
          ⟨voices_settle hb _ q, fun _ _ => trivial⟩
      exact ⟨hsettle.after.screen, hsettle.after.console⟩

end Console

/-! ## Films -/

namespace Session

variable {q s t t' p : Session H E W} {ps : List (Session H E W)}

/-- The frame of `p` shows what has been said since `q`, and where nothing has been, what the focused widget has for
the footer. No text for the footer is left then. -/
def Shows (R : Form → Form → Prop) (q p : Session H E W) : Prop :=
  ∃ es, p.console.journal = es ++ q.console.journal ∧ (∃ rs, Given (Context.Utters R) es rs) ∧
    ∀ rs, Given (Context.Utters R) es rs →
      (Console.drawn p).screen =
        p.screen.draw (p.console.render? ((FooterText.ofRemarks rs).or p.console.hints)) ∧
      (Console.drawn p).console.footerText = {}

/-- From the first session, which has no text for the footer, to the last one, these are the sessions in which frames
are drawn. Each frame shows what has been said since the one before it, and what has been said since the last one is
still to be shown. -/
inductive Film (R : Form → Form → Prop) : Session H E W → List (Session H E W) → Session H E W → Prop
  | rest {q t : Session H E W} (fresh : q.console.footerText = {}) (waits : q.console.Voices R t.console) : Film R q [] t
  | frame {q p t : Session H E W} {ps : List (Session H E W)} (shows : Shows R q p)
      (film : Film R (Console.drawn p) ps t) : Film R q (p :: ps) t

theorem shows_of_voices (hq : q.console.footerText = {}) (h : q.console.Voices R p.console) : Shows R q p := by
  obtain ⟨es, hj, hrs, hall⟩ := h
  refine ⟨es, hj, hrs, fun rs hrs => ⟨?_, Console.footerText_drawn p⟩⟩
  have htext : p.console.footerText = (FooterText.ofRemarks rs).or q.console.footerText := hall rs hrs
  rw [Console.screen_drawn, htext, hq, FooterText.or_empty]

theorem Film.extend (h : Film R q ps t) (ht : t.console.Voices R t'.console) : Film R q ps t' := by
  induction h with
  | rest fresh waits => exact .rest fresh (waits.trans ht)
  | frame shows _ ih => exact .frame shows (ih ht)

theorem Film.draw (h : Film R q ps t) (hp : t.console.Voices R p.console) :
    Film R q (ps ++ [p]) (Console.drawn p) := by
  induction h with
  | rest fresh waits =>
    have hrest : Film R (Console.drawn p) [] (Console.drawn p) := .rest (Console.footerText_drawn p) (.refl _)
    exact .frame (shows_of_voices fresh (waits.trans hp)) hrest
  | frame shows _ ih => exact .frame shows (ih hp)

end Session

namespace Demand

open Console Session

variable {b : Behaviour H E W} {q s : Session H E W} {ps : List (Session H E W)}

/-- The sessions in which a running console draws frames, within so many steps. -/
def framesWithin (b : Behaviour H E W) : Nat → Session H E W → List (Session H E W)
  | 0, _ => []
  | n + 1, s =>
    if s.console.running then
      (frame? b s).toList ++ match (Console.step b).run.run s with
        | (.ok (), t) => framesWithin b n t
        | (.error _, _) => []
    else []

/-- The sessions in which a demand draws frames. -/
def frames (b : Behaviour H E W) (s : Session H E W) : Demand H E W → List (Session H E W)
  | step => (frame? b s).toList
  | run => framesWithin b (s.screen.queue.length + 1) (ready s)
  | _ => []

/-- The sessions in which some demands draw frames. -/
def allFrames (b : Behaviour H E W) : List (Demand H E W) → Session H E W → List (Session H E W)
  | [], _ => []
  | demand :: demands, s => demand.frames b s ++ allFrames b demands ((demand.perform b).after s)

/-- What holds of no step, and of one more step if it holds of the rest, holds of a loop of steps and the frames drawn
in it. -/
theorem framesWithin_induct {P : Session H E W → List (Session H E W) → Session H E W → Prop} (stop : ∀ s, P s [] s)
    (step : ∀ s ps t, P ((Console.step b).after s) ps t → P s ((frame? b s).toList ++ ps) t) (n : Nat)
    (s : Session H E W) : P s (framesWithin b n s) ((stepWhileRunning b n).after s) := by
  induction n generalizing s with
  | zero => exact stop s
  | succ n ih =>
    rw [framesWithin]
    cases hrun : s.console.running with
    | false =>
      rw [if_neg (by simp), SessionM.after, run_stepWhileRunning_stopped _ hrun]
      exact stop s
    | true =>
      rw [if_pos rfl]
      refine step s _ _ ?_
      rw [SessionM.after, SessionM.after, run_stepWhileRunning_succ n hrun]
      rcases (Console.step b).run.run s with ⟨e | _, t⟩
      · exact stop t
      · exact ih t

/-- Whether the demand leaves the screen alone. -/
def isBlind : Demand H E W → Bool
  | step | run | wait .. => false
  | _ => true

theorem frames_of_isBlind {demand : Demand H E W} (h : demand.isBlind = true) (s : Session H E W) :
    demand.frames b s = [] := by
  cases demand <;> first | rfl | cases h

theorem voices_perform (hb : b.ActsBy R) {demand : Demand H E W} (h : demand.isBlind = true) (s : Session H E W) :
    s.Voices R ((demand.perform b).after s) := by
  have ha := admits_voices hb
  cases demand with
  | openDialog plan => exact (obeys_openDialog ha plan).after
  | endDialog => exact (obeys_endDialog ha).after
  | press name => exact ((obeys_press ha name).bind ha.trans fun _ _ _ => SessionM.obeys_pure ha.refl _).after
  | focus d =>
    refine ⟨rfl, ?_⟩
    show s.console.Voices R ((s.console.stepFocus? d).getD s.console)
    unfold stepFocus?
    cases s.console.routedForm.tree.stepFocus? s.console.routedForm.root d with
    | none => exact .refl _
    | some tree =>
      have hmute := mute_setRoutedForm s.console { s.console.routedForm with tree }
      exact voices_of_eq hmute.journal hmute.footerText
  | batch inputs => exact (obeys_handleBatch ha inputs).after
  | focusEvent => exact (obeys_greet ha s).after
  | editEvent snapshot => exact (obeys_conclude ha (some snapshot) s).after
  | use scope u => cases scope <;> exact ⟨rfl, voices_of_eq rfl rfl⟩
  | stop | pushHandler | popHandler => exact ⟨rfl, voices_of_eq rfl rfl⟩
  | step | run | wait => cases h

theorem after_perform_run (s : Session H E W) : ((run : Demand H E W).perform b).after s = (outcome
    ((stepWhileRunning b (s.screen.queue.length + 1)).run.run (ready s))).2 := by
  rw [← run_run]
  show (Console.run b >>= fun _ => pure ()).after s = _
  rw [SessionM.after, SessionM.run_bind]
  rcases (Console.run b).run.run s with ⟨_ | _, t⟩ <;> rfl

end Demand

namespace Session

open Console Demand

variable {b : Behaviour H E W} (hb : b.ActsBy R) {q s : Session H E W} {ps : List (Session H E W)}
include hb

/-- A step goes on with the film, by one frame if it draws. -/
theorem Film.step (h : Film R q ps s) : Film R q (ps ++ (frame? b s).toList) ((Console.step b).after s) := by
  cases hf : frame? b s with
  | none =>
    rw [Option.toList_none, List.append_nil]
    exact h.extend (step_of_no_frame hb hf).console
  | some p =>
    obtain ⟨hvoices, -, hafter⟩ := step_of_frame hb hf
    exact (h.draw hvoices.console).extend hafter

theorem Film.stepWhileRunning (n : Nat) (h : Film R q ps s) :
    Film R q (ps ++ framesWithin b n s) ((stepWhileRunning b n).after s) := by
  refine framesWithin_induct (P := fun s qs t => ∀ ps, Film R q ps s → Film R q (ps ++ qs) t)
    (fun s ps h => ?_) (fun s qs t ih ps h => ?_) n s ps h
  · rw [List.append_nil]
    exact h
  · rw [← List.append_assoc]
    exact ih _ (h.step hb)

theorem Film.perform (h : Film R q ps s) (demand : Demand H E W) :
    Film R q (ps ++ demand.frames b s) ((demand.perform b).after s) := by
  cases hd : demand.isBlind with
  | true =>
    rw [frames_of_isBlind hd, List.append_nil]
    exact h.extend (voices_perform hb hd s).console
  | false =>
    cases demand with
    | step => exact h.step hb
    | run =>
      have hready : s.console.Voices R (ready s).console := voices_of_eq rfl rfl
      have hloop := (h.extend hready).stepWhileRunning hb (s.screen.queue.length + 1)
      rw [after_perform_run]
      refine hloop.extend ?_
      rw [SessionM.after]
      rcases (Console.stepWhileRunning b (s.screen.queue.length + 1)).run.run (ready s) with ⟨_ | _, t⟩
      · exact voices_of_eq rfl rfl
      · exact voices_of_eq rfl rfl
    | wait screen world =>
      show Film R q (ps ++ []) { s with screen, world }
      rw [List.append_nil]
      exact h.extend (.refl s.console)
    | _ => cases hd

theorem Film.performAll (demands : List (Demand H E W)) (h : Film R q ps s) :
    Film R q (ps ++ allFrames b demands s) (performAll b demands s) := by
  induction demands generalizing ps s with
  | nil =>
    rw [allFrames, List.append_nil]
    exact h
  | cons demand demands ih =>
    rw [allFrames, ← List.append_assoc]
    exact ih (h.perform hb demand)

end Session

namespace Demand

open Console Session

variable {b : Behaviour H E W} (hb : b.ActsBy R) {s : Session H E W}
include hb

theorem screen_step (s : Session H E W) : ((Console.step b).after s).screen =
    (frame? b s).elim s.screen fun p => (drawn p).screen.polled := by
  cases hf : frame? b s with
  | none => exact (step_of_no_frame hb hf).screen
  | some p => exact (step_of_frame hb hf).2.1

theorem draws_step (s : Session H E W) :
    ((Console.step b).after s).screen.draws = s.screen.draws + (frame? b s).toList.length := by
  rw [screen_step hb]
  cases hf : frame? b s with
  | none => rfl
  | some p =>
    show (drawn p).screen.polled.draws = s.screen.draws + 1
    rw [Screen.draws_polled, screen_drawn, Screen.draws_draw, (step_of_frame hb hf).1.screen]

/-- No frame is drawn but those that are listed. -/
theorem draws_perform {demand : Demand H E W} (h : ∀ screen world, demand ≠ .wait screen world) (s : Session H E W) :
    ((demand.perform b).after s).screen.draws = s.screen.draws + (demand.frames b s).length := by
  cases hd : demand.isBlind with
  | true =>
    rw [frames_of_isBlind hd, (voices_perform hb hd s).screen]
    rfl
  | false =>
    cases demand with
    | step => exact draws_step hb s
    | run =>
      have hloop := framesWithin_induct (b := b)
        (P := fun s ps t => t.screen.draws = s.screen.draws + ps.length) (fun _ => rfl)
        (fun s ps t ih => by rw [ih, draws_step hb, List.length_append, Nat.add_assoc])
        (s.screen.queue.length + 1) (ready s)
      rw [after_perform_run]
      refine Eq.trans ?_ hloop
      rw [SessionM.after]
      rcases (stepWhileRunning b (s.screen.queue.length + 1)).run.run (ready s) with ⟨_ | _, t⟩ <;> rfl
    | wait screen world => exact absurd rfl (h screen world)
    | _ => cases hd

end Demand

/-- From a new console on, each frame that is drawn shows for each side of the footer the last text that a handler or
an end callback has set since the frame before it, or if there was none, what the key of the focused widget of the form
that events go to stands for, if it has one. No text is left after a frame: what is set later is shown in the next one.
A step draws one frame at most, right after its focus event, and no other demand but a run, which is made of steps,
draws any. -/
theorem performAll_footer {b : Behaviour H E W} (hb : b.ActsBy R) {form : Form} {dialogPalette : String}
    {s : Session H E W} (hs : Console.ofForm form dialogPalette = .ok s.console) (demands : List (Demand H E W)) :
    Session.Film R s (Demand.allFrames b demands s) (Demand.performAll b demands s) ∧
      (∀ t : Session H E W, ((Console.step b).after t).screen =
        (Console.frame? b t).elim t.screen fun p => (Console.drawn p).screen.polled) ∧
      ∀ (demand : Demand H E W) (t : Session H E W), (∀ screen world, demand ≠ .wait screen world) →
        ((demand.perform b).after t).screen.draws = t.screen.draws + (demand.frames b t).length := by
  refine ⟨?_, Demand.screen_step hb, fun demand t h => Demand.draws_perform hb h t⟩
  have hfresh : s.console.footerText = {} := by
    obtain ⟨base, hc⟩ := Console.eq_of_ofForm hs
    rw [hc]
    rfl
  have hfilm : Session.Film R s [] s := .rest hfresh (.refl _)
  exact hfilm.performAll hb demands

/-- The button has a text for the footer, and so has the edit of the dialog that it opens. When the dialog ends, its
end callback has something to say, which is shown once. -/
theorem performAll_footer_asked :
    let strings : StringTable := ⟨[("hint", "Press it"), ("hold", "Type it")]⟩
    let form := ((Form.parse "Btn [Ask] #ask &press=ask ?hint" {} strings).toOption).getD default
    let app : App := {
      config := {
        ui := "edits"
        palette := none
        dialogPalette := none
        strings := strings.entries
        logFile := none
        logLevel := "info"
        dialogs := [("ask", { ui := "ask" })]
        directory := "" }
      files := .ofList [("ask", "Edt V [y] #v ?hold")] }
    let c : Console AppHandler Unit :=
      { form, handlers := [], dialog := none, control := {}, dialogBase := form.palette.addLayer {}, running := false,
        size := (0, 0), lastFocus := none, generation := 0 }
    let screen : Screen :=
      { (default : Screen) with queue := [[.key { code := .enter }], [.key { code := .escape }], [.key { code := .tab }]] }
    let demands : List (Demand AppHandler Unit Unit) := [.pushHandler (.console app), .run]
    let frames := Demand.allFrames App.behaviour demands ⟨c, screen, ()⟩
    frames.map (fun p => (p.console.dialog.isSome, (p.console.footerText.or p.console.hints).info)) =
        [(false, some "Press it"), (true, some "Type it"), (false, some "v=y"), (false, some "Press it")] ∧
      Session.Film (fun _ _ => True) ⟨c, screen, ()⟩ frames (Demand.performAll App.behaviour demands ⟨c, screen, ()⟩) := by
  intro strings form app c screen demands frames
  have hs : Console.ofForm form "" = .ok (⟨c, screen, ()⟩ : Session AppHandler Unit Unit).console := rfl
  exact ⟨by decide +kernel, (performAll_footer (App.behaviour_actsBy _) hs demands).1⟩

end ScreenForm
