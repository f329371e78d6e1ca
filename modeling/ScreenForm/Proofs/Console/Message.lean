import ScreenForm.Proofs.Console.Obey
/-!
# Messages of deeds

The journal of a console holds what each handler has made of its context, not which calls
it made. What can be read off the calls of one deed can be read off those of many
(`Given`), and so what the calls do to a part of the control is told by the journal
(`Follows`), whatever events the console meets (`admits_follows`).
-/

namespace ScreenForm

open Relation (ReflTransGen)

variable {H E W μ σ : Type} {R : Form → Form → Prop} {C : Context H E → List μ → Context H E → Prop}
  {part : Control H E → σ} {act : List μ → σ → σ}

/-- The context that a handler or an end callback was called with. -/
def Deed.context? : Deed H E → Option (Context H E)
  | told _ context .. => some context
  | offered _ context _ => some context
  | tookLeave _ context _ => some context
  | _ => none

/-- In the course of the deed these messages were given, in this order. -/
def Entry.Gives (C : Context H E → List μ → Context H E → Prop) (e : Entry H E) (ms : List μ) : Prop :=
  match e.deed.context? with
  | some c => ∃ c', C c ms c' ∧ c'.control = e.after.control
  | none => ms = []

/-- In the course of these deeds, the last of them first, these messages were given, the first of them first. -/
def Given (C : Context H E → List μ → Context H E → Prop) : List (Entry H E) → List μ → Prop
  | [], ms => ms = []
  | e :: es, ms => ∃ ms₁ ms₂, ms = ms₁ ++ ms₂ ∧ Given C es ms₁ ∧ e.Gives C ms₂

theorem given_append {es es' : List (Entry H E)} {ms : List μ} :
    Given C (es' ++ es) ms ↔ ∃ ms₁ ms₂, ms = ms₁ ++ ms₂ ∧ Given C es ms₁ ∧ Given C es' ms₂ := by
  induction es' generalizing ms with
  | nil => simp [Given]
  | cons e es' ih =>
    simp only [List.cons_append, Given, ih]
    constructor
    · rintro ⟨_, ms₃, rfl, ⟨ms₁, ms₂, rfl, h₁, h₂⟩, h₃⟩
      exact ⟨ms₁, ms₂ ++ ms₃, List.append_assoc .., h₁, ms₂, ms₃, rfl, h₂, h₃⟩
    · rintro ⟨ms₁, _, rfl, h₁, ms₂, ms₃, rfl, h₂, h₃⟩
      exact ⟨ms₁ ++ ms₂, ms₃, (List.append_assoc ..).symm, ⟨ms₁, ms₂, rfl, h₁, h₂⟩, h₃⟩

/-- All calls on a context can be read as messages, and these say what the calls have done to a part of its control. -/
structure Telling (R : Form → Form → Prop) (C : Context H E → List μ → Context H E → Prop) (part : Control H E → σ)
    (act : List μ → σ → σ) : Prop where
  nil : ∀ x, act [] x = x
  append : ∀ ms ms' x, act (ms ++ ms') x = act ms' (act ms x)
  calls : ∀ {c c' : Context H E}, ReflTransGen (Context.Call R) c c' → ∃ ms, C c ms c'
  acts : ∀ {c c' : Context H E} {ms : List μ}, C c ms c' → part c'.control = act ms (part c.control)

namespace Console

variable {c c' c'' : Console H E}

/-- The part of the control is what the messages that were given since the console was `c` have made of it. -/
def Follows (C : Context H E → List μ → Context H E → Prop) (part : Control H E → σ) (act : List μ → σ → σ)
    (c c' : Console H E) : Prop :=
  ∃ es, c'.journal = es ++ c.journal ∧ (∃ ms, Given C es ms) ∧
    ∀ ms, Given C es ms → part c'.control = act ms (part c.control)

variable (ht : Telling R C part act)
include ht

theorem follows_of_eq (hj : c'.journal = c.journal) (hp : part c'.control = part c.control) :
    c.Follows C part act c' := by
  refine ⟨[], hj, ⟨[], rfl⟩, ?_⟩
  rintro _ rfl
  rw [hp, ht.nil]

theorem Follows.trans (h : c.Follows C part act c') (h' : c'.Follows C part act c'') : c.Follows C part act c'' := by
  obtain ⟨es, hj, ⟨ms, hms⟩, hall⟩ := h
  obtain ⟨es', hj', ⟨ms', hms'⟩, hall'⟩ := h'
  refine ⟨es' ++ es, by rw [hj', hj, List.append_assoc], ⟨ms ++ ms', given_append.2 ⟨ms, ms', rfl, hms, hms'⟩⟩, ?_⟩
  intro ms hms
  obtain ⟨ms₁, ms₂, rfl, h₁, h₂⟩ := given_append.1 hms
  rw [hall' ms₂ h₂, hall ms₁ h₁, ht.append]

omit ht in
theorem follows_become {deed : Deed H E} {after : Console H E}
    (hgives : ∃ ms, Entry.Gives C ⟨deed, c.stage, after.stage⟩ ms)
    (hall : ∀ ms, Entry.Gives C ⟨deed, c.stage, after.stage⟩ ms → part after.control = act ms (part c.control)) :
    c.Follows C part act (c.become deed after) := by
  obtain ⟨ms, hms⟩ := hgives
  refine ⟨[⟨deed, c.stage, after.stage⟩], rfl, ⟨ms, [], ms, rfl, rfl, hms⟩, ?_⟩
  rintro _ ⟨_, ms, rfl, rfl, hms⟩
  exact hall ms hms

/-- A deed that calls nobody. -/
theorem follows_mute {deed : Deed H E} {after : Console H E} (hd : deed.context? = none)
    (hp : part after.control = part c.control) : c.Follows C part act (c.become deed after) := by
  refine follows_become ⟨[], by simp [Entry.Gives, hd]⟩ fun ms h => ?_
  obtain rfl : ms = [] := by simpa [Entry.Gives, hd] using h
  rw [hp, ht.nil]

/-- A deed that calls a handler or an end callback, which acts by calls on its context. -/
theorem follows_called {deed : Deed H E} {after : Console H E} {context context' : Context H E}
    (hd : deed.context? = some context) (hbefore : context.control = c.control)
    (calls : ReflTransGen (Context.Call R) context context') (hafter : after.control = context'.control) :
    c.Follows C part act (c.become deed after) := by
  refine follows_become ?_ fun ms h => ?_
  · obtain ⟨ms, hms⟩ := ht.calls calls
    refine ⟨ms, ?_⟩
    rw [Entry.Gives, hd]
    exact ⟨context', hms, hafter.symm⟩
  · rw [Entry.Gives, hd] at h
    obtain ⟨c', hms, hc'⟩ := h
    rw [← hbefore, ← ht.acts hms, hc']
    rfl

end Console

/-- The screen is as it was, the console runs if it did, and the part of the control is what the messages that were
given meanwhile have made of it. -/
structure Session.Follows (C : Context H E → List μ → Context H E → Prop) (part : Control H E → σ)
    (act : List μ → σ → σ) (s s' : Session H E W) : Prop where
  screen : s'.screen = s.screen
  running : s'.console.running = s.console.running
  console : s.console.Follows C part act s'.console

/-- So it is with all that is done to meet an event, if handlers act by calls, and the console leaves the part alone. -/
theorem Console.admits_follows {b : Behaviour H E W} {F : FormError → Prop} (ht : Telling R C part act)
    (hb : b.ActsBy R) (alone : ∀ {c c' : Console H E}, c.Mute c' → part c'.control = part c.control)
    (runtime : ∀ e, F (.runtimeError e)) (raised : ∀ e, b.Raises e → F e)
    (built : ∀ (plan : DialogPlan H E) base e, plan.build base = .error e → F e) :
    Admits b (Session.Follows C part act) F where
  refl s := ⟨rfl, rfl, follows_of_eq ht rfl rfl⟩
  trans h h' := ⟨h'.screen.trans h.screen, h'.running.trans h.running, h.console.trans ht h'.console⟩
  mute s c h := ⟨rfl, h.running, follows_of_eq ht h.journal (alone h)⟩
  asked s handler kind responder := ⟨rfl, rfl, follows_mute ht rfl rfl⟩
  told s handler below responder widget event _ := by
    rw [SessionM.tell, SessionM.after_actWith]
    exact ⟨rfl, running_acted .., follows_called ht rfl rfl (hb.respond _ _ _ ⟨handler, s.console.context, s.world⟩) rfl⟩
  offered s handler below key := by
    rw [SessionM.offer, SessionM.after_actWith]
    exact ⟨rfl, running_acted .., follows_called ht rfl rfl (hb.fallback _ ⟨handler, s.console.context, s.world⟩) rfl⟩
  closed s d _ _ := ⟨rfl, rfl, follows_mute ht rfl (alone ⟨⟨rfl, rfl, rfl, rfl⟩, rfl⟩)⟩
  left s callback dialog := by
    rw [SessionM.after_takeLeave]
    exact ⟨rfl, rfl, follows_called ht rfl rfl (hb.onEnd _ _ ⟨s.console.leaving, s.world⟩) rfl⟩
  opened s d := ⟨rfl, rfl, follows_mute ht rfl (alone ⟨⟨rfl, rfl, rfl, rfl⟩, rfl⟩)⟩
  runtime := runtime
  raised := raised
  built := built

end ScreenForm
