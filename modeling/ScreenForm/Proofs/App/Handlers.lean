import ScreenForm.App.Handlers
import ScreenForm.Proofs.Console.Move
/-!
# The handlers of an application act by calls

All that the handlers and the end callback of an application do with their
context is to call it, and none of them changes the form (`App.behaviour_actsBy`).
-/

namespace ScreenForm

open Relation (ReflTransGen)

variable {H E W α β : Type} {R : Form → Form → Prop}

/-! ## Acts -/

namespace Act

/-- Whatever this does, it does to its context by calls. -/
def Calling (R : Form → Form → Prop) (m : Act H E W α) : Prop :=
  ∀ scene, ReflTransGen (Context.Call R) scene.context (m.run.run scene).2.context

theorem calling_pure (a : α) : (pure a : Act H E W α).Calling R := fun _ => .refl

theorem calling_change {f : Context H E → Context H E} (h : ∀ c, Context.Call R c (f c)) :
    (change f : Act H E W Unit).Calling R :=
  fun scene => .single (h scene.context)

theorem Calling.bind {m : Act H E W α} {f : α → Act H E W β} (hm : m.Calling R) (hf : ∀ a, (f a).Calling R) :
    (m >>= f).Calling R := by
  intro scene
  have hs := hm scene
  rw [ExceptT.run_bind, StateT.run_bind]
  rcases h : m.run.run scene with ⟨_ | a, scene'⟩ <;> rw [h] at hs
  · exact hs
  · exact hs.trans (hf a scene')

theorem calling_get {f : Scene H E W → Act H E W β}
    (hf : ∀ scene, ReflTransGen (Context.Call R) scene.context ((f scene).run.run scene).2.context) :
    (get >>= f).Calling R :=
  hf

/-- What fails leaves the context as it is. -/
theorem calling_attempt {f : Context H E → Except RuntimeError (Context H E)}
    (h : ∀ c c', f c = .ok c' → Context.Call R c c') : (attempt f : Act H E W Unit).Calling R := by
  refine calling_get fun scene => ?_
  split
  · next context hf => exact .single (h _ _ hf)
  · exact .refl

end Act

/-! ## The handlers -/

namespace App

theorem press_call {app : App} {handler : H} {onEnd : E} {responder : String} {widget : Nat} {c c' : Context H E}
    (h : app.press handler onEnd responder widget c = .ok c') : Context.Call R c c' := by
  unfold press at h
  dsimp only at h
  split at h
  · exact .openDialog h
  · cases h
    exact .setInfo _
  · split at h <;> cases h
    · exact .stop _
    · exact .setInfo _

theorem calling_respond (app : App) (handler : H) (onEnd : E) (responder : String) (widget : Nat) (event : Event) :
    (app.respond handler onEnd responder widget event : Act H E W Response).Calling R := by
  cases event with
  | press => exact (Act.calling_attempt fun _ _ => press_call).bind fun _ => Act.calling_pure _
  | edit before after => exact (Act.calling_change fun _ => .setTooltip _).bind fun _ => Act.calling_pure _
  | focus => exact Act.calling_pure _
  | key key => exact Act.calling_pure _

theorem calling_fallback (key : Key) : (fallback key : Act H E W Response).Calling R := by
  unfold fallback
  split
  · exact (Act.calling_change fun _ => .stop _).bind fun _ => Act.calling_pure _
  · exact Act.calling_pure _

theorem calling_respondInDialog : (respondInDialog : Act H E W Response).Calling R :=
  (Act.calling_attempt fun _ _ => .endDialog).bind fun _ => Act.calling_pure _

theorem calling_fallbackInDialog (key : Key) : (fallbackInDialog key : Act H E W Response).Calling R := by
  unfold fallbackInDialog
  split
  · exact calling_respondInDialog
  · exact Act.calling_pure _

theorem reportEdits_calls (f : Form) (c : Context H E) : ReflTransGen (Context.Call R) c (reportEdits f c) := by
  unfold reportEdits
  dsimp only
  split
  · exact .refl
  · exact .single (.setInfo _)

theorem behaviour_actsBy (R : Form → Form → Prop) : App.behaviour.ActsBy R where
  respond responder widget event := Act.calling_get fun scene => by
    cases scene.handler with
    | console app => exact calling_respond app _ _ responder widget event scene
    | dialog => exact calling_respondInDialog scene
  fallback key := Act.calling_get fun scene => by
    cases scene.handler with
    | console app => exact calling_fallback key scene
    | dialog => exact calling_fallbackInDialog key scene
  onEnd _ dialog farewell := reportEdits_calls dialog farewell.context

end App

end ScreenForm
