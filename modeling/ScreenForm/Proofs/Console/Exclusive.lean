import ScreenForm.Proofs.Console.Lifecycle
/-!
# What a dialog leaves alone

As long as a dialog is shown, the form and the handlers of the console stay as
they are, and no handler but the top one of the dialog is called (`Kept`). What
ends it leaves the form that was there when it opened, or what its end callback
makes of that, and the console goes on with it (`Ends`). This holds of the
console as it is between one event and the next (`reachable_exclusive`).
-/

namespace ScreenForm

open Relation (ReflTransGen)

variable {H E W α β : Type} {R : Form → Form → Prop} {b : Behaviour H E W}

/-! ## Outings -/

/-- The deed is a call of the top handler of the dialog, which gets to see the dialog only, and `k` is
held back before and after it. -/
structure Entry.Confined (k : Hold H E) (e : Entry H E) : Prop where
  before : e.before.hold? = some k
  after : e.after.hold? = some k
  call : ∃ d top below, e.before.dialog = some d ∧ d.handlers = top :: below ∧
    e.deed.Calls top ⟨d.form, e.before.control, .dialog⟩

/-- How the dialog ends that has held `k` back, with the stage and the world that it leaves. The form is the one held
back, or what the end callback makes of it. -/
inductive Ending (b : Behaviour H E W) (k : Hold H E) : List (Entry H E) → Stage H E → W → Prop
  | closed {st : Stage H E} {d : Dialog H E} (dialog : st.dialog = some d) (before : st.hold? = some k)
      (onEnd : k.onEnd = none) (world : W) :
      Ending b k [⟨.closed d, st, st.detached⟩] ⟨k.form, k.handlers, none, st.detached.control⟩ world
  | closedWith {st : Stage H E} {d : Dialog H E} (dialog : st.dialog = some d) (before : st.hold? = some k)
      {callback : E} (onEnd : k.onEnd = some callback) (world : W) {farewell : Farewell H E W}
      (took : farewell = ((b.onEnd callback d.form).run.run ⟨⟨k.form, st.detached.control, .console⟩, world⟩).2)
      {left : Stage H E} (stage : left = ⟨farewell.context.form, k.handlers, none, farewell.context.control⟩) :
      Ending b k
        [⟨.tookLeave callback ⟨k.form, st.detached.control, .console⟩ d.form, st.detached, left⟩,
          ⟨.closed d, st, st.detached⟩] left farewell.world

/-- Nothing comes of the requests from here on, or a dialog opens. -/
structure Session.Opens (opening : List (Entry H E)) (s q : Session H E W) : Prop where
  journal : q.console.journal = opening ++ s.console.journal
  form : q.console.form = s.console.form
  handlers : q.console.handlers = s.console.handlers
  world : q.world = s.world
  shown : opening = [] ∧ q.console.dialog = s.console.dialog ∨
    ∃ d st, opening = [⟨.opened d, st, st.attached d⟩] ∧ q.console.dialog = some d ∧
      st.form = s.console.form ∧ st.handlers = s.console.handlers

/-- What happens leaves `k` held back, and only the top handler of the dialog is called. -/
structure Kept (b : Behaviour H E W) (k : Hold H E) (p q : Session H E W) : Prop where
  happens : Happens b p q
  before : p.console.stage.hold? = some k
  after : q.console.stage.hold? = some k
  calls : ∃ deeds, q.console.journal = deeds ++ p.console.journal ∧ ∀ e ∈ deeds, e.Confined k

/-- What happens ends the dialog that has held `k` back, and perhaps opens another one right then. The console goes on
with what the end has left. -/
structure Ends (b : Behaviour H E W) (k : Hold H E) (p q : Session H E W) : Prop where
  happens : Happens b p q
  before : p.console.stage.hold? = some k
  ends : ∃ (during ending opening : List (Entry H E)) (m : Session H E W), (∀ e ∈ during, e.Confined k) ∧
    m.console.journal = ending ++ (during ++ p.console.journal) ∧
    Ending b k ending m.console.stage m.world ∧ m.Opens opening q
  focus : q.console.dialog = none → q.console.form = k.form →
    q.console.focused? = k.form.tree.focused? k.form.root

/-- What can have happened since a dialog was shown that holds `k` back. -/
inductive Outing (b : Behaviour H E W) (k : Hold H E) (s : Session H E W) : Session H E W → Prop
  | shown {t : Session H E W} (kept : ReflTransGen (Kept b k) s t) (held : t.console.stage.hold? = some k) :
      Outing b k s t
  | ended {p q t : Session H E W} (kept : ReflTransGen (Kept b k) s p) (ends : Ends b k p q) (later : Trail b q t) :
      Outing b k s t

/-! ## Events -/

/-- What comes of an event before the requests are met: only the top handler of what is shown is called. -/
structure Session.Heeds (s s' : Session H E W) : Prop where
  hold : s'.console.stage.hold? = s.console.stage.hold?
  orderly : s.console.stage.Orderly → s'.console.stage.Orderly
  calls : ∃ deeds, s'.console.journal = deeds ++ s.console.journal ∧ ∀ e ∈ deeds,
    e.before.hold? = s.console.stage.hold? ∧ e.after.hold? = s.console.stage.hold? ∧
      ∃ top below, e.before.routedHandlers = top :: below ∧ e.deed.Calls top e.before.context

namespace Session.Heeds

variable {s s' s'' : Session H E W} {k : Hold H E}

theorem of_eq (hold : s'.console.stage.hold? = s.console.stage.hold?) (hj : s'.console.journal = s.console.journal)
    (ho : s.console.stage.Orderly → s'.console.stage.Orderly) : s.Heeds s' :=
  ⟨hold, ho, [], hj, List.forall_mem_nil _⟩

theorem refl (s : Session H E W) : s.Heeds s := .of_eq rfl rfl id

theorem trans (h : s.Heeds s') (h' : s'.Heeds s'') : s.Heeds s'' := by
  obtain ⟨hold, ho, deeds, hj, hcalls⟩ := h
  obtain ⟨hold', ho', deeds', hj', hcalls'⟩ := h'
  refine ⟨hold'.trans hold, ho' ∘ ho, deeds' ++ deeds, by rw [hj', hj, List.append_assoc], ?_⟩
  rw [hold] at hcalls'
  exact List.forall_mem_append.2 ⟨hcalls', hcalls⟩

theorem become (deed : Deed H E) (after : Console H E) {world : W} {handler : H} {below : List H}
    (top : s.console.routedHandlers = handler :: below) (call : deed.Calls handler s.console.context)
    (hold : after.stage.hold? = s.console.stage.hold?) (ho : s.console.stage.Orderly → after.stage.Orderly) :
    s.Heeds ⟨s.console.become deed after, s.screen, world⟩ := by
  rw [← Console.context_stage] at call
  refine ⟨hold, ho, [⟨deed, s.console.stage, after.stage⟩], rfl, List.forall_mem_singleton.2 ?_⟩
  exact ⟨rfl, hold, handler, below, top, call⟩

theorem acted {deed : Deed H E} {context : Context H E} {handler handler' : H} {below : List H} {world : W}
    (top : s.console.routedHandlers = handler :: below) (call : deed.Calls handler s.console.context)
    (calls : ReflTransGen (Context.Call R) s.console.context context) :
    s.Heeds ⟨s.console.acted deed context (handler' :: below), s.screen, world⟩ :=
  .become deed _ top call (Console.hold?_acted s.console deed context (handler' :: below)) fun ho =>
    Console.orderly_acted ho calls deed (handler' :: below)

/-- Over a dialog, all calls are confined to it. -/
theorem confined (h : s.Heeds s') (hk : s.console.stage.hold? = some k) :
    ∃ deeds, s'.console.journal = deeds ++ s.console.journal ∧ ∀ e ∈ deeds, e.Confined k := by
  obtain ⟨-, -, deeds, hj, hcalls⟩ := h
  refine ⟨deeds, hj, fun e he => ?_⟩
  obtain ⟨before, after, handler, below, top, call⟩ := hcalls e he
  rw [hk] at before after
  obtain ⟨d, hd, -⟩ := Option.map_eq_some_iff.1 before
  rw [Stage.routedHandlers, hd] at top
  rw [Stage.context, hd] at call
  exact ⟨before, after, d, handler, below, hd, top, call⟩

end Session.Heeds

theorem Console.admitsCalls_heeds (hb : b.ActsBy R) : AdmitsCalls b Session.Heeds fun _ => True where
  refl := .refl
  trans := .trans
  routed s form := .of_eq (hold?_setRoutedForm ..) (journal_setRoutedForm ..) fun ho => orderly_setRoutedForm ho form
  marked s lastFocus := .of_eq rfl rfl id
  asked s handler below kind responder top :=
    .become (.asked handler kind responder) s.console top (.asked kind responder) rfl id
  told s handler below responder widget event top _ := by
    rw [SessionM.tell, SessionM.after_actWith]
    exact .acted top (.told responder widget event)
      (hb.respond responder widget event ⟨handler, s.console.context, s.world⟩)
  offered s handler below key top := by
    rw [SessionM.offer, SessionM.after_actWith]
    exact .acted top (.offered key) (hb.fallback key ⟨handler, s.console.context, s.world⟩)
  runtime _ := trivial
  raised _ _ := trivial

/-! ## Requests -/

/-- What comes of the requests that an event has left. -/
inductive Session.Grants (b : Behaviour H E W) (s : Session H E W) : Session H E W → Prop
  | stays : s.Grants b s
  | opens (free : s.console.dialog = none) {opening : List (Entry H E)} {q : Session H E W}
      (opens : s.Opens opening q) : s.Grants b q
  | ends {d : Dialog H E} (dialog : s.console.dialog = some d) {ending opening : List (Entry H E)}
      {m q : Session H E W} (journal : m.console.journal = ending ++ s.console.journal)
      (ending : Ending b ⟨s.console.form, s.console.handlers, d.onEnd⟩ ending m.console.stage m.world)
      (opens : m.Opens opening q) : s.Grants b q

section

variable {s q : Session H E W} {d : Dialog H E} {st st' : Stage H E}

theorem Session.Opens.opened {opening : List (Entry H E)} (h : s.Opens opening q) (hd : ⟨.opened d, st, st'⟩ ∈ opening) :
    q.console.dialog = some d ∧ q.console.form = st.form ∧ q.console.handlers = st.handlers := by
  rcases h.shown with ⟨rfl, -⟩ | ⟨d', st'', rfl, hshown, hform, hhandlers⟩
  · cases hd
  · cases List.mem_singleton.1 hd
    exact ⟨hshown, h.form.trans hform.symm, h.handlers.trans hhandlers.symm⟩

theorem Ending.not_opened {k : Hold H E} {ending : List (Entry H E)} {left : Stage H E} {world : W}
    (h : Ending b k ending left world) : ⟨.opened d, st, st'⟩ ∉ ending := by
  cases h <;> simp

/-- A dialog that opens is shown over the form that was there right then. -/
theorem Session.Grants.opened (h : s.Grants b q) : ∃ settled, q.console.journal = settled ++ s.console.journal ∧
    ∀ d st st', ⟨.opened d, st, st'⟩ ∈ settled →
      q.console.dialog = some d ∧ q.console.form = st.form ∧ q.console.handlers = st.handlers := by
  cases h with
  | stays => exact ⟨[], rfl, fun _ _ _ hd => by cases hd⟩
  | opens free opens => exact ⟨_, opens.journal, fun _ _ _ => opens.opened⟩
  | @ends d' dialog ending opening m _ journal hending opens =>
    refine ⟨opening ++ ending, by rw [opens.journal, journal, List.append_assoc], fun d st st' hd => ?_⟩
    exact opens.opened ((List.mem_append.1 hd).resolve_right hending.not_opened)

end

namespace Console

open SessionM

variable {s p q : Session H E W}

theorem opens_applyOpen (s : Session H E W) :
    ∃ opening, s.Opens opening ((applyOpen : SessionM H E W Unit).after s) := by
  rw [applyOpen, after_console]
  split
  · exact ⟨[], rfl, rfl, rfl, rfl, .inl ⟨rfl, rfl⟩⟩
  · next plan _ =>
    split
    · exact ⟨[], rfl, rfl, rfl, rfl, .inl ⟨rfl, rfl⟩⟩
    · next d _ => exact ⟨_, rfl, rfl, rfl, rfl, .inr ⟨d, s.console.takePlan.stage, rfl, rfl, rfl, rfl⟩⟩

/-- The end of a dialog that was asked for. -/
theorem ending_applyEnd (he : s.console.control.endRequested = true) {d : Dialog H E} (hd : s.console.dialog = some d) :
    ∃ ending, ((applyEnd b).after s).console.journal = ending ++ s.console.journal ∧
      Ending b ⟨s.console.form, s.console.handlers, d.onEnd⟩ ending ((applyEnd b).after s).console.stage
        ((applyEnd b).after s).world := by
  have hold : s.console.stage.hold? = some ⟨s.console.form, s.console.handlers, d.onEnd⟩ := Stage.hold?_eq_some hd
  rw [after_applyEnd, if_pos he, hd]
  cases hon : d.onEnd with
  | none =>
    rw [hon] at hold
    simp only [hon]
    exact ⟨_, rfl, .closed (show s.console.stage.dialog = some d from hd) hold rfl s.world⟩
  | some callback =>
    rw [hon] at hold
    simp only [hon, after_takeLeave]
    exact ⟨_, rfl, .closedWith (show s.console.stage.dialog = some d from hd) hold rfl s.world rfl rfl⟩

theorem grants_applyRequests (ho : s.console.stage.Orderly) : s.Grants b ((applyRequests b).after s) := by
  cases hd : s.console.dialog with
  | none =>
    have he : s.console.control.endRequested = false := by
      by_contra he
      have hs := ho.ends (Bool.not_eq_false _ ▸ he)
      simp [stage, hd] at hs
    obtain ⟨opening, hopens⟩ := opens_applyOpen s
    rw [applyRequests, after, run_bind, run_applyEnd he]
    exact .opens hd hopens
  | some d =>
    cases he : s.console.control.endRequested with
    | false =>
      rw [ho.applyRequests (by simp [hd]) he]
      exact .stays
    | true =>
      obtain ⟨ending, hj, hending⟩ := ending_applyEnd (b := b) he hd
      rw [after] at hj hending
      rw [applyRequests, after, run_bind]
      -- If the end callback fails, nothing is opened.
      rcases hr : (applyEnd b).run.run s with ⟨_ | _, m⟩ <;> rw [hr] at hj hending
      · exact .ends hd hj hending ⟨rfl, rfl, rfl, rfl, .inl ⟨rfl, rfl⟩⟩
      · obtain ⟨opening, hopens⟩ := opens_applyOpen m
        exact .ends hd hj hending hopens

theorem after_bind_pure (m : SessionM H E W α) (f : α → β) (s : Session H E W) :
    (do let a ← m; pure (f a)).after s = m.after s := by
  rw [after, run_bind, after]
  rcases m.run.run s with ⟨_ | _, _⟩ <;> rfl

end Console

/-- An event is met, and then perhaps the requests that it has led to. -/
def Session.Answers (b : Behaviour H E W) (s s' : Session H E W) : Prop :=
  ∃ met, s.Heeds met ∧ (s' = met ∨ s' = (Console.applyRequests b).after met)

theorem Session.Heeds.answers {s s' : Session H E W} (h : s.Heeds s') : s.Answers b s' := ⟨s', h, .inl rfl⟩

namespace Console

open SessionM

variable {p : Session H E W}

/-- The requests are met if the event does not fail. -/
theorem answers_requests {m : SessionM H E W α} (h : Obeys Session.Heeds (fun _ => True) m p)
    {next : α → SessionM H E W β} (hnext : ∀ a s, (next a).after s = (applyRequests b).after s) :
    p.Answers b ((m >>= next).after p) := by
  have hafter := h.after
  rw [after] at hafter
  rw [after, run_bind]
  rcases hr : m.run.run p with ⟨_ | a, s⟩ <;> rw [hr] at hafter
  · exact hafter.answers
  · exact ⟨s, hafter, .inr (hnext a s)⟩

theorem answers_openDialog (b : Behaviour H E W) (plan : DialogPlan H E) (p : Session H E W) :
    p.Answers b ((openDialog b plan).after p) := by
  rw [openDialog, after_console]
  dsimp only
  split
  · exact (Session.Heeds.refl p).answers
  · next free =>
    have hdialog : p.console.dialog = none := by simpa using free
    have hasks : Obeys Session.Heeds (fun _ => True)
        (modifyControl fun control => { control with pending := some plan }) p :=
      ⟨.of_eq rfl rfl fun ho => ⟨ho.shown, ho.ends, fun _ => .inl hdialog⟩, fun _ _ => trivial⟩
    exact answers_requests hasks fun _ _ => rfl

theorem answers_endDialog (b : Behaviour H E W) (p : Session H E W) : p.Answers b ((endDialog b).after p) := by
  rw [endDialog, after_console]
  dsimp only
  split
  · exact (Session.Heeds.refl p).answers
  · next shown =>
    have hdialog : p.console.dialog.isSome := Option.isSome_iff_ne_none.2 (by simpa using shown)
    have hasks : Obeys Session.Heeds (fun _ => True)
        (modifyControl fun control => { control with endRequested := true }) p :=
      ⟨.of_eq rfl rfl fun ho => ⟨ho.shown, fun _ => hdialog, fun _ => .inr rfl⟩, fun _ _ => trivial⟩
    exact answers_requests hasks fun _ _ => rfl

theorem answers_press (hb : b.ActsBy R) (name : String) (p : Session H E W) :
    p.Answers b ((press b name).after p) := by
  have ha := admitsCalls_heeds hb
  rw [press, after_console]
  split
  · exact (Session.Heeds.refl p).answers
  · split
    · exact (Session.Heeds.refl p).answers
    · -- The response waits until the requests are met.
      rw [← bind_assoc]
      refine answers_requests ?_ fun response _ => after_bind_pure _ (fun _ => response) _
      exact (obeys_setRoutedTree ha _).bind ha.trans fun _ _ _ => obeys_dispatch ha _ _

end Console

section

open SessionM Console

variable {p q t : Session H E W} {k : Hold H E}

theorem Turn.answers (hb : b.ActsBy R) (h : Turn b p q) : p.Answers b q := by
  have ha := admitsCalls_heeds hb
  cases h with
  | aside same screen =>
    apply Session.Heeds.answers
    exact .of_eq same.hold? same.journal same.orderly
  | focusEvent => exact answers_requests (obeys_fireFocus ha) fun _ _ => rfl
  | key key => exact answers_requests (obeys_handleKey ha key) fun _ _ => rfl
  | editEvent snapshot => exact answers_requests (obeys_fireEdit ha snapshot) fun _ _ => rfl

theorem Happens.answers (hb : b.ActsBy R) (h : Happens b p q) : p.Answers b q := by
  cases h with
  | turn turn => exact turn.answers hb
  | @called demand call =>
    cases demand with
    | openDialog plan => exact answers_openDialog b plan p
    | endDialog => exact answers_endDialog b p
    | press name =>
      have hpress := answers_press hb name p
      rwa [← after_bind_pure (press b name) fun _ => ()] at hpress
    | focus d =>
      apply Session.Heeds.answers
      show p.Heeds { p with console := (p.console.stepFocus? d).getD p.console }
      unfold stepFocus?
      cases p.console.routedForm.tree.stepFocus? p.console.routedForm.root d with
      | none => exact .refl p
      | some tree => exact (admitsCalls_heeds hb).routed p _
    | stop message =>
      apply Session.Heeds.answers
      exact .of_eq rfl rfl fun ho => ⟨ho.shown, ho.ends, ho.pends⟩
    | use scope u =>
      cases scope with
      | console => cases call
      | dialog =>
        have hold : (p.console.dialog.map fun d => { d with form := d.form.use u }).map
            (fun d => (⟨p.console.form, p.console.handlers, d.onEnd⟩ : Hold H E)) = p.console.stage.hold? := by
          rw [Option.map_map]
          rfl
        apply Session.Heeds.answers
        exact .of_eq hold rfl fun ho => ho.congr hold (Stage.orderly_iff.1 ho).2 rfl
    | wait screen world =>
      apply Session.Heeds.answers
      exact .of_eq rfl rfl id
    | step | run | batch | focusEvent | editEvent | pushHandler | popHandler => cases call

/-- Whatever happens while a dialog is shown, it either stays or ends. -/
theorem Happens.kept_or_ends (hb : b.ActsBy R) (ho : p.console.stage.Orderly) (h : Happens b p q)
    (hk : p.console.stage.hold? = some k) : Kept b k p q ∨ Ends b k p q := by
  obtain ⟨m, hm, rfl | rfl⟩ := h.answers hb
  · exact .inl ⟨h, hk, hm.hold.trans hk, hm.confined hk⟩
  -- The event itself leaves the dialog in its place. Only the requests after it can end it.
  · have hmk : m.console.stage.hold? = some k := hm.hold.trans hk
    obtain ⟨during, hj, hconfined⟩ := hm.confined hk
    generalize hq : (applyRequests b).after m = q at h ⊢
    have hgrants : m.Grants b q := hq ▸ grants_applyRequests (hm.orderly ho)
    cases hgrants with
    | stays => exact .inl ⟨h, hk, hmk, during, hj, hconfined⟩
    | opens free => simp [Stage.hold?, stage, free] at hmk
    | @ends d dialog ending opening m' _ journal hending hopens =>
      rw [Stage.hold?_eq_some (d := d) dialog] at hmk
      cases hmk
      rw [hj] at journal
      refine .inr ⟨h, hk, ⟨during, ending, opening, m', hconfined, journal, hending, hopens⟩, fun hn hf => ?_⟩
      rw [focused?, routedForm, hn, hf]

theorem Happens.opened (hb : b.ActsBy R) (ho : p.console.stage.Orderly) (h : Happens b p q) {deeds : List (Entry H E)}
    (hj : q.console.journal = deeds ++ p.console.journal) {d : Dialog H E} {st st' : Stage H E}
    (hd : ⟨.opened d, st, st'⟩ ∈ deeds) :
    q.console.dialog = some d ∧ q.console.form = st.form ∧ q.console.handlers = st.handlers := by
  obtain ⟨m, hm, hq⟩ := h.answers hb
  obtain ⟨during, hjm, hcalls⟩ := hm.calls
  -- An event is a matter of calls, which open nothing.
  have hduring : ⟨.opened d, st, st'⟩ ∉ during := fun hmem => by
    obtain ⟨-, -, _, _, -, call⟩ := hcalls _ hmem
    cases call
  rcases hq with rfl | rfl
  · rw [hjm] at hj
    exact absurd (List.append_cancel_right hj ▸ hd) hduring
  · obtain ⟨settled, hs, hopened⟩ := (grants_applyRequests (b := b) (hm.orderly ho)).opened
    rw [hs, hjm, ← List.append_assoc] at hj
    rw [← List.append_cancel_right hj] at hd
    exact hopened d st st' ((List.mem_append.1 hd).resolve_right hduring)

theorem Path.orderly (h : Path R p q) (ho : p.console.Always Stage.Orderly) : q.console.Always Stage.Orderly :=
  h.keeps (P := fun s => s.console.Always Stage.Orderly) (fun _ _ hs hm => hm.orderly hs) ho

theorem Trail.orderly (hb : b.ActsBy R) (h : Trail b p q) (ho : p.console.Always Stage.Orderly) :
    q.console.Always Stage.Orderly := by
  induction h with
  | refl => exact ho
  | tail _ hstep ih => exact Path.orderly (hstep.path hb) ih

/-- Since a dialog is shown, either it still is, or it has ended. -/
theorem Trail.outing (hb : b.ActsBy R) (h : Trail b p t) (ho : p.console.Always Stage.Orderly)
    (hk : p.console.stage.hold? = some k) : Outing b k p t := by
  induction h with
  | refl => exact .shown .refl hk
  | @tail t t' htrail hstep ih =>
    cases ih with
    | shown kept held =>
      rcases hstep.kept_or_ends hb (Trail.orderly hb htrail ho).stage held with hkept | hends
      · exact .shown (kept.tail hkept) hkept.after
      · exact .ended kept hends .refl
    | ended kept ends later => exact .ended kept ends (later.tail hstep)

end

/-! ## Without a dialog -/

/-- The deed is a call of the top handler of the console, which gets to see the form of the console. -/
structure Entry.Own (e : Entry H E) : Prop where
  before : e.before.dialog = none
  after : e.after.dialog = none
  call : ∃ top below, e.before.handlers = top :: below ∧ e.deed.Calls top ⟨e.before.form, e.before.control, .console⟩

theorem Entry.Own.of_hold? {e : Entry H E} (before : e.before.hold? = none) (after : e.after.hold? = none) {handler : H}
    {below : List H} (top : e.before.routedHandlers = handler :: below) (call : e.deed.Calls handler e.before.context) :
    e.Own := by
  rw [Stage.hold?_eq_none] at before after
  rw [Stage.routedHandlers, before] at top
  rw [Stage.context, before] at call
  exact ⟨before, after, handler, below, top, call⟩

/-- Until a dialog opens, all calls are the console's own. -/
theorem History.own_until_opened {deeds : List (Entry H E)} {held : Option (Hold H E)} (h : History b id none deeds held) :
    ∃ later own, deeds = later ++ own ∧ (∀ e ∈ own, e.Own) ∧
      (later = [] ∧ held = none ∨ ∃ later' d st, later = later' ++ [⟨.opened d, st, st.attached d⟩]) := by
  induction h with
  | nil => exact ⟨[], [], rfl, List.forall_mem_nil _, .inl ⟨rfl, rfl⟩⟩
  | @called past held history e before after handler below top call ih =>
    obtain ⟨later, own, rfl, hown, ⟨rfl, rfl⟩ | ⟨later', d, st, rfl⟩⟩ := ih
    · rw [Option.map_id_fun, id] at before after
      exact ⟨[], e :: own, rfl, List.forall_mem_cons.2 ⟨.of_hold? before after top call, hown⟩, .inl ⟨rfl, rfl⟩⟩
    · exact ⟨_ :: _, own, rfl, hown, .inr ⟨_ :: later', d, st, rfl⟩⟩
  | opened history free d ih =>
    obtain ⟨later, own, rfl, hown, ⟨rfl, -⟩ | ⟨later', d', st, rfl⟩⟩ := ih
    · exact ⟨[_], own, rfl, hown, .inr ⟨[], d, _, rfl⟩⟩
    · exact ⟨_ :: _, own, rfl, hown, .inr ⟨_ :: later', d', st, rfl⟩⟩
  | closed history dialog before requested onEnd ih =>
    obtain ⟨later, own, rfl, hown, ⟨-, hn⟩ | ⟨later', d', st, rfl⟩⟩ := ih
    · cases hn
    · exact ⟨_ :: _, own, rfl, hown, .inr ⟨_ :: later', d', st, rfl⟩⟩
  | closedWith history dialog before requested onEnd took ih =>
    obtain ⟨later, own, rfl, hown, ⟨-, hn⟩ | ⟨later', d', st, rfl⟩⟩ := ih
    · cases hn
    · exact ⟨_ :: _ :: _, own, rfl, hown, .inr ⟨_ :: _ :: later', d', st, rfl⟩⟩

/-! ## Runs -/

theorem Path.records {s s' : Session H E W} (h : Path R s s') (ho : s.console.Always Stage.Orderly) :
    s'.console.Records b id s.console.stage.hold? s.console.journal := by
  induction h with
  | refl => exact ⟨[], rfl, fun _ => by simpa using History.nil⟩
  | tail hp hm ih => exact hm.records (Path.orderly hp ho).stage ih

/-- What a host asks of a console, without going past a dialog to what is the console's own, comes about by calls and
turns of the loop. While a dialog is shown, each of these leaves the form of the console and its handlers as they are
and calls the top handler of the dialog only, or it ends the dialog. The console then goes on with the form that was
there when the dialog opened, or with what the end callback has made of that, and with the focus in it. What is left of
a batch of input when the dialog has ended goes to the console. -/
theorem reachable_exclusive (hb : b.ActsBy fun _ _ => True) {s : Session H E W} (h : s.Reachable b) :
    (∀ demands : List (Demand H E W), (∀ demand ∈ demands, demand.isOwn = false) →
      Trail b s (Demand.performAll b demands s)) ∧
    (∀ (demand : Demand H E W) p, demand.isOwn = false → demand.isCall = false →
      ReflTransGen (Turn b) p ((demand.perform b).after p)) ∧
    (∀ p, Trail b s p →
      (∀ d, p.console.dialog = some d →
        let k : Hold H E := ⟨p.console.form, p.console.handlers, d.onEnd⟩
        (∀ q, Happens b p q → Kept b k p q ∨ Ends b k p q) ∧ ∀ t, Trail b p t → Outing b k p t) ∧
      ∀ q deeds d st st', Happens b p q → q.console.journal = deeds ++ p.console.journal →
        ⟨.opened d, st, st'⟩ ∈ deeds →
        q.console.dialog = some d ∧ q.console.form = st.form ∧ q.console.handlers = st.handlers) ∧
    ∀ inputs rest t, (Console.handleBatch b inputs).run.run s = (.ok (), t) →
      t.console.control.stopRequested = false → t.console.dialog = none →
      (Console.handleBatch b (inputs ++ rest)).run.run s = (Console.handleBatch b rest).run.run t ∧
        t.console.routedForm = t.console.form ∧
        ∃ later own, ((Console.handleBatch b rest).after t).console.journal = later ++ own ++ t.console.journal ∧
          (∀ e ∈ own, e.Own) ∧ (later = [] ∨ ∃ later' d st, later = later' ++ [⟨.opened d, st, st.attached d⟩]) := by
  have hs := h.orderly hb
  refine ⟨fun demands hown => Demand.performAll_trail hown s, fun demand p hown hcall => Demand.perform_turns hown hcall p,
    fun p hp => ?_, fun inputs rest t hr hgoes hn => ?_⟩
  · have ho := Trail.orderly hb hp hs
    refine ⟨fun d hd => ⟨fun q hq => ?_, fun t ht => ?_⟩, fun q deeds d st st' hq hj hd => ?_⟩
    · exact hq.kept_or_ends hb ho.stage (Stage.hold?_eq_some hd)
    · exact Trail.outing hb ht ho (Stage.hold?_eq_some hd)
    · exact hq.opened hb ho.stage hj hd
  · have ht : Path _ s ((Console.handleBatch b inputs).after s) := Console.leads_handleBatch hb inputs
    rw [SessionM.after, hr] at ht
    obtain ⟨deeds, hd, hh⟩ := (Console.leads_handleBatch hb rest).records (ht.orderly hs)
    obtain ⟨deeds', hd', htook⟩ := (Console.obeys_handleBatch (Console.admits_leaves b) rest).after
    cases List.append_cancel_right (hd.symm.trans hd')
    have hh := hh htook
    rw [Stage.hold?_eq_none.2 hn] at hh
    obtain ⟨later, own, rfl, hown, hlater⟩ := hh.own_until_opened
    exact ⟨Console.run_handleBatch_append hr hgoes rest, by rw [Console.routedForm, hn], later, own, hd, hown,
      hlater.imp_left And.left⟩

theorem reachable_exclusive_escaped :
    let c : Console AppHandler Unit :=
      { form := default, handlers := [], dialog := none, control := {}, dialogBase := ⟨[{}]⟩, running := false,
        size := (0, 0), lastFocus := none, generation := 0 }
    let plan : DialogPlan AppHandler Unit :=
      { description := "Btn [OK] #ok &press=ok", handler := some .dialog, onEnd := some () }
    let s := Demand.performAll App.behaviour [.openDialog plan] ⟨c, default, ()⟩
    let escape : List Input := [.key { code := .escape }]
    let t := (Console.handleBatch App.behaviour escape).after s
    s.Reachable App.behaviour ∧ t.console.dialog = none ∧
      (∃ d, s.console.dialog = some d ∧
        Outing App.behaviour ⟨s.console.form, s.console.handlers, d.onEnd⟩ s
          (Demand.performAll App.behaviour [.press "ok"] s)) ∧
      (Console.handleBatch App.behaviour (escape ++ escape)).run.run s =
        (Console.handleBatch App.behaviour escape).run.run t := by
  intro c plan s escape t
  have hs : s.Reachable App.behaviour := ⟨default, "", ⟨c, default, ()⟩, _, rfl, rfl⟩
  have hsome : s.console.dialog.isSome := by decide +kernel
  have hnone : t.console.dialog.isNone := by decide +kernel
  have hok : ((Console.handleBatch App.behaviour escape).run.run s).1.isOk := by decide +kernel
  have hgoes : t.console.control.stopRequested = false := by decide +kernel
  obtain ⟨htrail, -, hexclusive, hbatch⟩ := reachable_exclusive (App.behaviour_actsBy _) hs
  obtain ⟨d, hd⟩ := Option.isSome_iff_exists.1 hsome
  have houting := ((hexclusive s .refl).1 d hd).2 _ (htrail [.press "ok"] (by simp [Demand.isOwn]))
  have hr : (Console.handleBatch App.behaviour escape).run.run s = (.ok (), t) := by
    cases he : ((Console.handleBatch App.behaviour escape).run.run s).1 with
    | error e => simp [he, Except.isOk, Except.toBool] at hok
    | ok => exact Prod.ext he rfl
  have ht : t.console.dialog = none := Option.isNone_iff_eq_none.1 hnone
  exact ⟨hs, ht, ⟨d, hd, houting⟩, (hbatch escape escape t hr hgoes ht).1⟩

end ScreenForm
