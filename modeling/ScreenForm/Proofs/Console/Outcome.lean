import ScreenForm.Proofs.Console.EditEvent
import ScreenForm.Proofs.Console.Obey
/-!
# What comes of a session

`SessionM.Comes` says of what a console does in which session it ends, with a
result or with an error. It is put together along the way that the console takes.
-/

namespace ScreenForm

variable {H E W α β : Type}

namespace SessionM

/-- From this session it comes to a result with such a session, or else to an error that leaves such a one. -/
structure Comes (Q : α → Session H E W → Prop) (F : FormError → Session H E W → Prop) (m : SessionM H E W α)
    (s : Session H E W) : Prop where
  ok : ∀ a s', m.run.run s = (.ok a, s') → Q a s'
  error : ∀ e s', m.run.run s = (.error e, s') → F e s'

variable {Q : α → Session H E W → Prop} {F F' : FormError → Session H E W → Prop} {Q' : β → Session H E W → Prop}
  {m : SessionM H E W α} {s : Session H E W}

theorem comes_of_ok {a : α} {s' : Session H E W} (hrun : m.run.run s = (.ok a, s')) (h : Q a s') : Comes Q F m s := by
  constructor <;> intro _ _ hrun' <;> cases hrun.symm.trans hrun'
  exact h

theorem comes_of_error {e : FormError} {s' : Session H E W} (hrun : m.run.run s = (.error e, s')) (h : F e s') :
    Comes Q F m s := by
  constructor <;> intro _ _ hrun' <;> cases hrun.symm.trans hrun'
  exact h

theorem Comes.mono (h : Comes Q F m s) {Q' : α → Session H E W → Prop} (hQ : ∀ a s', Q a s' → Q' a s')
    (hF : ∀ e s', F e s' → F' e s') : Comes Q' F' m s :=
  ⟨fun a s' hrun => hQ a s' (h.ok a s' hrun), fun e s' hrun => hF e s' (h.error e s' hrun)⟩

theorem Comes.bind {f : α → SessionM H E W β} (hm : Comes Q F m s) (hf : ∀ a s', Q a s' → Comes Q' F (f a) s') :
    Comes Q' F (m >>= f) s := by
  rcases hrun : m.run.run s with ⟨e | a, s'⟩
  · exact comes_of_error (by rw [run_bind, hrun]) (hm.error e s' hrun)
  · have h := hf a s' (hm.ok a s' hrun)
    constructor <;> intro r t ht <;> rw [run_bind, hrun] at ht
    · exact h.ok r t ht
    · exact h.error r t ht

theorem Comes.tryCatch {h : FormError → SessionM H E W α} (hm : Comes Q F m s)
    (hh : ∀ e s', F e s' → Comes Q F' (h e) s') : Comes Q F' (tryCatch m h) s := by
  rcases hrun : m.run.run s with ⟨e | a, s'⟩
  · have h := hh e s' (hm.error e s' hrun)
    constructor <;> intro r t ht <;> rw [run_tryCatch, hrun] at ht
    · exact h.ok r t ht
    · exact h.error r t ht
  · exact comes_of_ok (by rw [run_tryCatch, hrun]) (hm.ok a s' hrun)

end SessionM

end ScreenForm
