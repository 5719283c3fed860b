import Abacus.Proofs.Conversation
import Abacus.Proofs.Record

/-!
# The wish to quit

Nothing but `/exit` ends a session, on the console or in the window. In the window it is sent by
Enter or by a key, within a frame that goes on with a click, and the window stays until a frame has
ended: what it leaves behind is a wish that no action takes back, not even a reset.

- **One line** (`Window.quitting_submit`): a submission adds the wish exactly when it sends `/exit`.
- **The wish** (`Record.Reached.quitting_iff`): it is there exactly when `/exit` was sent. A record
  only grows (`Record.requests_act`), so the wish stays (`Screen.quitting_append`).
- **Close requests** (`Screen.closeRequests_act`): a frame asks for the window to be closed exactly
  when it ends with the wish. So none has without it (`Screen.closeRequests_eq_zero`), and every
  frame does from then on (`Screen.closeRequests_append`).
-/

namespace Abacus

/-! ### The wish -/

/-- Only `/exit` is a wish to quit, and submitting takes none back. -/
theorem Window.quitting_submit {w : Window} (visible : w.entry.trim ≠ []) :
    w.submit.quitting = true ↔ w.quitting = true ∨ w.entry.trim = Command.exit.text := by
  have exit := w.session.reply_eq_farewell_iff w.entry.trim
  rw [Text.trim_trim] at exit
  rw [submit, if_neg visible, ← exit]
  dsimp only [clearEntry]
  rw [Bool.or_eq_true]
  cases (w.session.turn w.entry.trim).reply <;> simp

namespace Record

theorem Reached.quitting_iff {limits : Limits} {r : Record} {w : Window}
    (h : Reached limits r w) :
    w.quitting = true ↔ .line Command.exit.text ∈ r.requests := by
  induction h with
  | new => exact ⟨nofun, nofun⟩
  | typed _ s focus ih => exact ih
  | cleared _ ih =>
    rw [mem_ask, or_iff_left nofun]
    exact ih
  | restarted _ ih =>
    rw [mem_ask, or_iff_left nofun]
    exact ih
  | sent _ visible ih =>
    rw [Window.quitting_submit visible, mem_ask, Request.line.injEq]
    exact or_congr ih eq_comm

/-! Nothing that was asked for is taken back. -/

theorem requests_submit (r : Record) : r.requests <+: r.submit.requests := by
  rw [submit]
  split
  · exact List.prefix_rfl
  · exact List.prefix_append ..

theorem requests_press (r : Record) (k : Key) : r.requests <+: (r.press k).requests := by
  cases k with
  | clearEntry => exact List.prefix_rfl
  | clearHistory => exact List.prefix_append ..
  | reset => exact List.prefix_append ..
  | command c => exact requests_submit { r with entry := c.text }
  | erase => exact List.prefix_rfl
  | submit => exact r.requests_submit
  | insert c => exact List.prefix_rfl

theorem requests_foldl_press (ks : List Key) (r : Record) :
    r.requests <+: (ks.foldl press r).requests := by
  induction ks generalizing r with
  | nil => exact List.prefix_rfl
  | cons k ks ih => exact (r.requests_press k).trans (ih (r.press k))

theorem requests_act (r : Record) (a : Action) : r.requests <+: (r.act a).requests := by
  cases a with
  | enterText s => exact List.prefix_rfl
  | submit => exact r.requests_press .submit
  | clearEntry => exact r.requests_press .clearEntry
  | clearHistory => exact r.requests_press .clearHistory
  | reset => exact r.requests_press .reset
  | frame f => exact requests_foldl_press f.keys r

theorem requests_foldl_act (later : List Action) (r : Record) :
    r.requests <+: (later.foldl act r).requests := by
  induction later generalizing r with
  | nil => exact List.prefix_rfl
  | cons a later ih => exact (r.requests_act a).trans (ih (r.act a))

end Record

/-- Whether an action is a frame. -/
def Action.isFrame : Action → Bool
  | .frame _ => true
  | _ => false

namespace Screen

variable {limits : Limits} {actions : List Action}

theorem quitting_run_iff : (run limits actions).window.quitting = true ↔
    .line Command.exit.text ∈ (Record.ofActions actions).requests :=
  (reached_run limits actions).quitting_iff

/-- **Run**: a wish to quit stays. -/
theorem quitting_append (quitting : (run limits actions).window.quitting = true)
    (later : List Action) : (run limits (actions ++ later)).window.quitting = true := by
  rw [quitting_run_iff] at quitting ⊢
  rw [Record.ofActions, List.foldl_append]
  exact (Record.requests_foldl_act later _).subset quitting

/-! ### Close requests -/

theorem closeRequests_frame (s : Screen) (f : Frame) :
    (s.frame f).closeRequests
      = s.closeRequests + if (s.frame f).window.quitting then 1 else 0 := by
  obtain ⟨escape, enter, click⟩ := f
  cases click with
  | none => cases escape <;> cases enter <;> rfl
  | some c =>
    cases c with
    | key k => cases escape <;> cases enter <;> rfl
    | header p => cases p <;> cases escape <;> cases enter <;> rfl

/-- **Step**: only a frame that ends with the wish to quit asks for the window to be closed. -/
theorem closeRequests_act (s : Screen) (a : Action) :
    (s.act a).closeRequests
      = s.closeRequests + if a.isFrame && (s.act a).window.quitting then 1 else 0 := by
  cases a with
  | frame f => exact s.closeRequests_frame f
  | _ => rfl

/-- **Run**: no frame has asked for the window to be closed while there is no wish to quit. -/
theorem closeRequests_eq_zero (running : (run limits actions).window.quitting = false) :
    (run limits actions).closeRequests = 0 := by
  induction actions using List.reverseRecOn with
  | nil => rfl
  | append_singleton actions a ih =>
    have before : (run limits actions).window.quitting = false := by
      refine Bool.eq_false_iff.2 fun quitting => ?_
      rw [quitting_append quitting [a]] at running
      cases running
    rw [run_concat] at running ⊢
    rw [closeRequests_act, running, Bool.and_false]
    exact ih before

/-- **Run**: once there is a wish to quit, every frame asks for the window to be closed. -/
theorem closeRequests_append (quitting : (run limits actions).window.quitting = true)
    (later : List Action) : (run limits (actions ++ later)).closeRequests
      = (run limits actions).closeRequests + later.countP Action.isFrame := by
  induction later using List.reverseRecOn with
  | nil => rw [List.append_nil, List.countP_nil, Nat.add_zero]
  | append_singleton later a ih =>
    have still := quitting_append quitting (later ++ [a])
    rw [← List.append_assoc, run_concat] at still ⊢
    rw [closeRequests_act, still, Bool.and_true, ih, List.countP_append, List.countP_singleton,
      Nat.add_assoc]

/-- **The wish to quit**: whatever the user does, there is one exactly when some entry that was sent
was `/exit`, less the white space around it, and then it stays, whatever is done later. A frame asks
for the window to be closed exactly when there is a wish to quit at its end, and nothing else does:
so this has happened not once while there was none, and it happens in every later frame. In a
session no other line is answered with a farewell, and `/exit` always is. -/
theorem run_quits (limits : Limits) (actions : List Action) :
    ((run limits actions).window.quitting = true ↔
        .line "/exit".toList ∈ (Record.ofActions actions).requests) ∧
      ((run limits actions).window.quitting = false → (run limits actions).closeRequests = 0) ∧
      ((run limits actions).window.quitting = true → ∀ later,
        (run limits (actions ++ later)).window.quitting = true ∧
          (run limits (actions ++ later)).closeRequests
            = (run limits actions).closeRequests + later.countP Action.isFrame) ∧
      (∀ a, (run limits (actions ++ [a])).closeRequests = (run limits actions).closeRequests
        + if a.isFrame && (run limits (actions ++ [a])).window.quitting then 1 else 0) ∧
      ∀ (s : Session) (line : Text),
        (∃ text, (s.turn line).reply = .farewell text) ↔ line.trim = "/exit".toList := by
  refine ⟨quitting_run_iff, closeRequests_eq_zero, fun quitting later => ?_, fun a => ?_,
    fun s line => s.reply_eq_farewell_iff line⟩
  · exact ⟨quitting_append quitting later, closeRequests_append quitting later⟩
  · rw [run_concat]
    exact closeRequests_act _ a

/-- A frame in which `/exit` is sent and then the key for a reset is clicked. -/
theorem run_quits_reset :
    let limits := Limits.standard
    let front : List Action := [.enterText "1 + 1".toList, .frame { enter := true }, .clearHistory]
    let actions := front ++ [.enterText " /exit\t".toList,
      .frame { enter := true, click := some (.key .reset) }]
    let later : List Action := [.frame {}, .reset, .clearEntry, .frame { escape := true }]
    (run limits front).window.quitting = false ∧ (run limits front).closeRequests = 0 ∧
      (run limits actions).window.quitting = true ∧ (run limits actions).closeRequests = 1 ∧
      (run limits (actions ++ later)).window.quitting = true ∧
      (run limits (actions ++ later)).closeRequests = 3 := by
  intro limits front actions later
  have running : (run limits front).window.quitting = false := by decide
  have quitting : (run limits actions).window.quitting = true := by decide
  have one : (run limits actions).closeRequests = 1 := by decide
  obtain ⟨-, none, -⟩ := run_quits limits front
  obtain ⟨-, -, stays, -⟩ := run_quits limits actions
  obtain ⟨still, requests⟩ := stays quitting later
  rw [one] at requests
  exact ⟨running, none running, quitting, one, still, requests⟩

end Screen

end Abacus
