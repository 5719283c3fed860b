import Abacus.Proofs.Quitting

/-!
# A reset starts anew

A reset forgets everything but the limits and the wish to quit. If nobody has asked to quit, the
window is then what it was when it was opened, whatever came before, and whatever comes later leads
to the same as in a window that has just been opened.

- **Panels** (`Screen.Alike`): which panels are open is not reset, and nothing else depends on it.
- **Two runs** (`Screen.run_reset`): one that goes on behind a reset, and one that starts there.
-/

namespace Abacus

/-- A window with no wish to quit is new when it is reset. -/
theorem Window.reset_eq_new {limits : Limits} {w : Window} (kept : w.session.limits = limits)
    (running : w.quitting = false) : w.reset = .new limits := by
  have forgotten : w.reset = { new w.session.limits with quitting := w.quitting } := rfl
  rw [forgotten, kept, running]
  rfl

namespace Screen

variable {limits : Limits} {actions : List Action}

/-! ### Panels -/

/-- Whether two screens are the same but for which panels are open. -/
structure Alike (s s' : Screen) : Prop where
  window : s.window = s'.window
  closeRequests : s.closeRequests = s'.closeRequests

/-- **Step**: what a panel hides makes no difference to what is done. -/
theorem Alike.act {s s' : Screen} (h : s.Alike s') (a : Action) : (s.act a).Alike (s'.act a) := by
  obtain ⟨w, open₁, open₂, n⟩ := s
  obtain ⟨w', open₁', open₂', n'⟩ := s'
  obtain ⟨rfl, rfl⟩ := h
  cases a with
  | frame f =>
    obtain ⟨escape, enter, click⟩ := f
    cases click with
    | none => cases escape <;> cases enter <;> exact ⟨rfl, rfl⟩
    | some c =>
      cases c with
      | key k => cases escape <;> cases enter <;> exact ⟨rfl, rfl⟩
      | header p => cases p <;> cases escape <;> cases enter <;> exact ⟨rfl, rfl⟩
  | _ => exact ⟨rfl, rfl⟩

/-- **Run**: nor to what comes of it. -/
theorem Alike.foldl_act {s s' : Screen} (h : s.Alike s') (later : List Action) :
    (later.foldl Screen.act s).Alike (later.foldl Screen.act s') := by
  induction later generalizing s s' with
  | nil => exact h
  | cons a later ih => exact ih (h.act a)

/-! ### Resets -/

/-- What is done later depends on the window alone. -/
theorem alike_run_of_eq_new (anew : (run limits actions).window = .new limits)
    (later : List Action) : (run limits (actions ++ later)).Alike (run limits later) := by
  have running : (run limits actions).window.quitting = false := by
    rw [anew]
    rfl
  have start : (run limits actions).Alike (new limits) := ⟨anew, closeRequests_eq_zero running⟩
  rw [run_append]
  exact start.foldl_act later

/-- The window behind a frame in which the key for a reset was clicked. -/
theorem window_frame_reset {f : Frame} (clicked : f.click = some (.key .reset))
    (running : ((run limits actions).frame f).window.quitting = false) :
    ((run limits actions).frame f).window = .new limits := by
  obtain ⟨escape, enter, click⟩ := f
  obtain rfl : click = some (.key .reset) := clicked
  -- Escape and Enter come before the click, and what they do is forgotten as well
  have before :=
    ((reached_run limits actions).pressIf escape .clearEntry).drawEntry.pressIf enter .submit
  exact Window.reset_eq_new before.describes.limits_eq running

/-- **Restart**: as long as there is no wish to quit, a reset leaves the window as it was when it
was opened, with the same limits, and whatever is done later leads to the same window and to the
same requests for it to be closed as in a run that starts there. So does a frame with a click on the
key for it, whatever else happens in this frame. -/
theorem run_reset (limits : Limits) (actions : List Action) :
    ((run limits actions).window.quitting = false →
      (run limits actions).window.reset = .new limits ∧
        ∀ later, (run limits (actions ++ .reset :: later)).Alike (run limits later)) ∧
    ∀ f : Frame, f.click = some (.key .reset) →
      (run limits (actions ++ [.frame f])).window.quitting = false →
        (run limits (actions ++ [.frame f])).window = .new limits ∧
          ∀ later, (run limits (actions ++ .frame f :: later)).Alike (run limits later) := by
  constructor
  · intro running
    have anew : (run limits actions).window.reset = .new limits :=
      Window.reset_eq_new (reached_run limits actions).describes.limits_eq running
    refine ⟨anew, fun later => ?_⟩
    have behind : (run limits (actions ++ [.reset])).window = .new limits := by
      rw [run_concat]
      exact anew
    have goesOn := alike_run_of_eq_new behind later
    rwa [List.append_assoc] at goesOn
  · intro f clicked running
    have anew : (run limits (actions ++ [.frame f])).window = .new limits := by
      rw [run_concat] at running ⊢
      exact window_frame_reset clicked running
    refine ⟨anew, fun later => ?_⟩
    have goesOn := alike_run_of_eq_new anew later
    rwa [List.append_assoc] at goesOn

/-- A window with a variable, exchanges, a derivation and an entry, and limits of its own. -/
theorem run_reset_used :
    let limits : Limits := ⟨8, 64⟩
    let actions : List Action :=
      [.enterText "x = 3".toList, .submit, .enterText "x^2".toList, .frame { enter := true },
        .frame { click := some (.header .derivation) }, .enterText "y".toList]
    let later : List Action := [.enterText "x".toList, .submit]
    let f : Frame := { enter := true, click := some (.key .reset) }
    (run limits actions).window.quitting = false ∧
      (run limits actions).window.session.store ≠ .empty ∧
      (run limits actions).window.reset = .new limits ∧
      (run limits (actions ++ .reset :: later)).Alike (run limits later) ∧
      (run limits (actions ++ [.frame f])).window.quitting = false ∧
      (run limits (actions ++ [.frame f])).window = .new limits ∧
      (run limits (actions ++ .frame f :: later)).Alike (run limits later) := by
  intro limits actions later f
  have running : (run limits actions).window.quitting = false := by decide
  have running' : (run limits (actions ++ [.frame f])).window.quitting = false := by decide
  obtain ⟨called, clicked⟩ := run_reset limits actions
  obtain ⟨anew, goesOn⟩ := called running
  obtain ⟨anew', goesOn'⟩ := clicked f rfl running'
  exact ⟨running, by decide, anew, goesOn later, running', anew', goesOn' later⟩

end Screen

end Abacus
