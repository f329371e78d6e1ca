import ScreenForm.Proofs.Console.Step
import ScreenForm.Proofs.Console.Turn
/-!
# What is left of a step once a stop is requested

The console can be asked to stop when a widget gets the focus, at any key and when an
edit is told, and also when a dialog ends. From there on, nothing is left of the step
but to tell of the edit and to take leave of dialogs (`winds_of_meets`).
-/

namespace ScreenForm

variable {H E W α β : Type} {R : Form → Form → Prop}

/-! ## What is left of a step -/

/-- A deed of a console that has no more events to meet than the one of an edit. -/
def Entry.Closing (e : Entry H E) : Prop :=
  match e.deed with
  | .asked _ kind _ => kind = .edit
  | .told _ _ _ _ event => event.kind = .edit
  | .offered .. => False
  | .opened _ => True
  | .closed d => e.before.dialog = some d ∧ e.before.control.endRequested = true
  | .tookLeave .. => True

/-- Nothing is drawn and no input is taken. A handler is told of so many edits at most, and an end callback is only
called where the end of its dialog was requested. -/
structure Session.Winds (edits : Nat) (s s' : Session H E W) : Prop where
  screen : s'.screen = s.screen
  deeds : ∃ es, s'.console.journal = es ++ s.console.journal ∧ (∀ e ∈ es, e.Closing) ∧
    (es.filter (·.deed.isEdit)).length ≤ edits ∧ es.filterMap (·.deed.leave?) = es.filterMap (·.deed.due?)

namespace Session.Winds

variable {n n' : Nat} {s s' s'' : Session H E W}

theorem of_eq (hscreen : s'.screen = s.screen) (hj : s'.console.journal = s.console.journal) : s.Winds n s' :=
  ⟨hscreen, [], hj, List.forall_mem_nil _, Nat.zero_le _, rfl⟩

theorem trans (h : s.Winds n s') (h' : s'.Winds n' s'') : s.Winds (n + n') s'' := by
  obtain ⟨hscreen, es, hj, hclosing, hedits, hleave⟩ := h
  obtain ⟨hscreen', es', hj', hclosing', hedits', hleave'⟩ := h'
  refine ⟨hscreen'.trans hscreen, es' ++ es, by rw [hj', hj, List.append_assoc], ?_, ?_, ?_⟩
  · exact List.forall_mem_append.2 ⟨hclosing', hclosing⟩
  · rw [List.filter_append, List.length_append]
    omega
  · rw [List.filterMap_append, List.filterMap_append, hleave, hleave']

theorem mono (h : s.Winds n s') (hle : n ≤ n') : s.Winds n' s' := by
  obtain ⟨hscreen, es, hj, hclosing, hedits, hleave⟩ := h
  exact ⟨hscreen, es, hj, hclosing, Nat.le_trans hedits hle, hleave⟩

/-- One deed that is neither the end of a dialog nor its end callback. -/
theorem become {deed : Deed H E} {after : Console H E} {world : W}
    (hc : Entry.Closing ⟨deed, s.console.stage, after.stage⟩) (hedit : deed.isEdit = true → 1 ≤ n)
    (hleave : deed.leave? = none) (hdue : deed.due? = none) :
    s.Winds n ⟨s.console.become deed after, s.screen, world⟩ := by
  refine ⟨rfl, [⟨deed, s.console.stage, after.stage⟩], rfl, by simpa using hc, ?_, by simp [hleave, hdue]⟩
  cases hd : deed.isEdit with
  | true => simpa [hd] using hedit hd
  | false => simp [hd]

end Session.Winds

namespace Console

open SessionM

variable {b : Behaviour H E W} {s p q q' t : Session H E W} {e : FormError} {batch : List Input}

theorem winds_bind {m : SessionM H E W α} {f : α → SessionM H E W β} {n k : Nat} (hm : s.Winds n (m.after s))
    (hf : ∀ a s', m.run.run s = (.ok a, s') → s'.Winds k ((f a).after s')) : s.Winds (n + k) ((m >>= f).after s) := by
  rw [SessionM.after] at hm
  rw [SessionM.after, run_bind]
  rcases h : m.run.run s with ⟨e | a, s'⟩ <;> rw [h] at hm
  · exact hm.mono (Nat.le_add_right ..)
  · exact hm.trans (hf a s' h)

theorem winds_applyEnd (s : Session H E W) : s.Winds 0 ((applyEnd b).after s) := by
  rw [after_applyEnd]
  split
  · next hrequested =>
    split
    · exact .of_eq rfl rfl
    · next d hd =>
      have hclosing : Entry.Closing ⟨.closed d, s.console.stage, (s.console.detach d).stage⟩ := ⟨hd, hrequested⟩
      split
      · next hnone =>
        refine ⟨rfl, [⟨.closed d, s.console.stage, (s.console.detach d).stage⟩], rfl, by simpa using hclosing,
          Nat.le_refl 0, ?_⟩
        simp [Deed.leave?, Deed.due?, hnone]
      · next callback hsome =>
        rw [after_takeLeave]
        refine ⟨rfl, [⟨.tookLeave callback _ d.form, (s.console.detach d).stage, _⟩,
          ⟨.closed d, s.console.stage, (s.console.detach d).stage⟩], rfl, ?_, Nat.le_refl 0, ?_⟩
        · simpa [Entry.Closing] using hclosing
        · simp [Deed.leave?, Deed.due?, hsome]
  · exact .of_eq rfl rfl

theorem winds_applyOpen (s : Session H E W) : s.Winds 0 ((applyOpen : SessionM H E W Unit).after s) := by
  rw [applyOpen, after_console]
  split
  · exact .of_eq rfl rfl
  · refine winds_bind (n := 0) (k := 0) (.of_eq rfl rfl) fun _ s' _ => ?_
    split
    · exact .of_eq rfl rfl
    · next d _ =>
      show s'.Winds 0 ⟨s'.console.attach d, s'.screen, s'.world⟩
      exact .become trivial (fun h => by cases h) rfl rfl

theorem winds_applyRequests (s : Session H E W) : s.Winds 0 ((applyRequests b).after s) :=
  winds_bind (winds_applyEnd s) fun _ s' _ => winds_applyOpen s'

/-- Perhaps the requests that it led to have been met too. -/
def Settles (b : Behaviour H E W) (q q' : Session H E W) : Prop :=
  q' = q ∨ (applyRequests b).run.run q = (.ok (), q')

variable (hb : b.ActsBy R)
include hb

/-- From there on the requests are met, and the stop is still requested. -/
theorem Settles.cases (h : Settles b q q') (hstop : q'.console.control.stopRequested = true) :
    (∃ e g, (applyRequests b).run.run q = (.error e, g) ∧ q'.Winds 0 g) ∨
      ∃ g, (applyRequests b).run.run q = (.ok (), g) ∧ g.console.control.stopRequested = true ∧ q'.Winds 0 g := by
  rcases h with rfl | h
  · have hwinds := winds_applyRequests (b := b) q'
    have hattends := (obeys_applyRequests (admits_attends hb) (s := q')).after
    rw [SessionM.after] at hwinds hattends
    rcases hr : (applyRequests b).run.run q' with ⟨e | _, g⟩ <;> rw [hr] at hwinds hattends
    · exact .inl ⟨e, g, rfl, hwinds⟩
    · exact .inr ⟨g, rfl, hattends.tallies.stopRequested hstop, hwinds⟩
  · exact .inr ⟨q', h, hstop, .of_eq rfl rfl⟩

end Console

end ScreenForm
