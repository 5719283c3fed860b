import Abacus.Proofs.History
import Abacus.Window.Screen
import Mathlib.Data.List.DropRight

/-!
# What the window remembers

Two keys of the window forget, and not the same: one forgets the exchanges and leaves the session
alone, the other starts both anew. So the exchanges on show and the variables on show reach back to
different moments, and a reply on show can depend on lines that are not.

- **Records** (`Record`): the entry field and what the window was asked for, told from the actions
  alone, without a session.
- **Last exchanges** (`Session.exchanges`, `Window.remember_rtake`): the exchanges that lines lead
  to, and how the last of them are kept.
- **Moves** (`Record.Reached`, `Screen.reached_run`): the few ways in which a window ever changes,
  each with what it does to the record. What is to be shown of all windows is shown of these.
- **Runs** (`Record.Describes`, `Screen.run_record`): the record of all actions tells the entry, the
  session and the history of the window.
-/

namespace Abacus

/-! ### Records -/

/-- Something that a window is asked for. -/
inductive Request where
  /-- A line is sent to the session; it is not blank and has no white space around it. -/
  | line (s : Text)
  /-- The exchanges are to be forgotten. -/
  | clear
  /-- The variables are to be forgotten as well. -/
  | reset
  deriving DecidableEq, Repr

/-- The line that is sent, if one is. -/
def Request.line? : Request → Option Text
  | .line s => some s
  | .clear | .reset => none

/-- The entry field, and what a window was asked for since it was opened. -/
structure Record where
  entry : Text := []
  requests : List Request := []
  deriving DecidableEq, Repr

/-- A control as a key; a header is none. -/
def Control.keys : Control → List Key
  | .key k => [k]
  | .header _ => []

/-- The keys that a frame amounts to. -/
def Frame.keys (f : Frame) : List Key :=
  (if f.escape then [.clearEntry] else []) ++ (if f.enter then [.submit] else [])
    ++ (f.click.map Control.keys).getD []

namespace Record

/-- The record once a request was made. -/
def ask (r : Record) (q : Request) : Record := { r with requests := r.requests ++ [q] }

/-- The record once the entry was sent; a blank one leaves an empty field only. -/
def submit (r : Record) : Record :=
  if r.entry.trim = [] then { r with entry := [] }
  else { r with entry := [] }.ask (.line r.entry.trim)

/-- The record once a key was pressed. -/
def press (r : Record) : Key → Record
  | .clearEntry => { r with entry := [] }
  | .clearHistory => r.ask .clear
  | .reset => { r with entry := [] }.ask .reset
  | .command c => { r with entry := c.text }.submit
  | .erase => { r with entry := r.entry.trimEnd.dropLast }
  | .submit => r.submit
  | .insert c => { r with entry := r.entry ++ [c] }

/-- The record after an action. -/
def act (r : Record) : Action → Record
  | .enterText s => { r with entry := s }
  | .submit => r.press .submit
  | .clearEntry => r.press .clearEntry
  | .clearHistory => r.press .clearHistory
  | .reset => r.press .reset
  | .frame f => f.keys.foldl press r

/-- The record of some actions. -/
def ofActions (actions : List Action) : Record :=
  actions.foldl act {}

/-- The lines among the last requests, as far back as these are `within`. -/
def lastLines (within : Request → Bool) (requests : List Request) : List Text :=
  (requests.rtakeWhile within).filterMap Request.line?

/-- The lines that were sent since the last reset. -/
def sinceReset (r : Record) : List Text :=
  lastLines (· ≠ .reset) r.requests

/-- The lines that were sent since the exchanges were last forgotten, with the variables or without
them. -/
def sinceClear (r : Record) : List Text :=
  lastLines (fun q => q ≠ .reset ∧ q ≠ .clear) r.requests

theorem mem_ask {r : Record} {q q' : Request} :
    q ∈ (r.ask q').requests ↔ q ∈ r.requests ∨ q = q' := by
  rw [ask, List.mem_append, List.mem_singleton]

theorem lastLines_concat (within : Request → Bool) (requests : List Request) (q : Request) :
    lastLines within (requests ++ [q])
      = if within q then lastLines within requests ++ q.line?.toList else [] := by
  rw [lastLines, List.rtakeWhile_concat]
  split
  · rw [List.filterMap_append]
    cases q <;> rfl
  · rfl

theorem sinceReset_ask (r : Record) (q : Request) :
    (r.ask q).sinceReset = match q with
      | .line s => r.sinceReset ++ [s]
      | .clear => r.sinceReset
      | .reset => [] := by
  rw [sinceReset, ask, lastLines_concat]
  cases q with
  | line s => rfl
  | clear => exact List.append_nil _
  | reset => rfl

theorem sinceClear_ask (r : Record) (q : Request) :
    (r.ask q).sinceClear = match q with
      | .line s => r.sinceClear ++ [s]
      | .clear | .reset => [] := by
  rw [sinceClear, ask, lastLines_concat]
  cases q <;> rfl

end Record

/-! ### Last exchanges -/

/-- The exchanges that lines lead to in a session that is new but for the lines `before`. -/
def Session.exchanges (limits : Limits) (before lines : List Text) : List Exchange :=
  lines.mapIdx fun i line =>
    ⟨line, (((new limits).after (before ++ lines.take i)).turn line).reply.text?⟩

theorem Session.exchanges_concat (limits : Limits) (before lines : List Text) (line : Text) :
    exchanges limits before (lines ++ [line]) = exchanges limits before lines
      ++ [⟨line, (((new limits).after (before ++ lines)).turn line).reply.text?⟩] := by
  rw [exchanges, List.mapIdx_concat, List.take_left]
  congr 1
  rw [exchanges, List.mapIdx_eq_mapIdx_iff]
  intro i hi
  rw [List.take_append_of_le_length hi.le]

theorem Session.limits_after (limits : Limits) (lines : List Text) :
    ((new limits).after lines).limits = limits := by
  induction lines using List.reverseRecOn with
  | nil => rfl
  | append_singleton lines line ih => rw [after_concat, limits_turn, ih]

/-- What was forgotten before makes no difference to which exchanges are kept. -/
theorem Window.remember_rtake (exchanges : List Exchange) (e : Exchange) :
    remember (exchanges.rtake historyMax) e = (exchanges ++ [e]).rtake historyMax := by
  rw [show ∀ es, remember es e = (es ++ [e]).rtake historyMax from fun _ => rfl]
  generalize historyMax = n
  cases n with
  | zero => rw [List.rtake_zero, List.rtake_zero]
  | succ n =>
    rw [List.rtake_concat_succ, List.rtake_concat_succ]
    simp only [List.rtake_eq_reverse_take_reverse, List.reverse_reverse, List.take_take]
    rw [Nat.min_eq_left n.le_succ]

/-! ### Moves -/

namespace Record

/-- The windows that can come about, each with the record of how it did. Whether the focus is due is
in no record. -/
inductive Reached (limits : Limits) : Record → Window → Prop where
  | new : Reached limits {} (.new limits)
  /-- The entry is replaced or left as it was. -/
  | typed {r : Record} {w : Window} (before : Reached limits r w) (s : Text) (focus : Bool) :
      Reached limits { r with entry := s } { w with entry := s, focusDue := focus }
  | cleared {r : Record} {w : Window} (before : Reached limits r w) :
      Reached limits (r.ask .clear) w.clearHistory
  | restarted {r : Record} {w : Window} (before : Reached limits r w) :
      Reached limits ({ r with entry := [] }.ask .reset) w.reset
  | sent {r : Record} {w : Window} (before : Reached limits r w) (visible : w.entry.trim ≠ []) :
      Reached limits ({ r with entry := [] }.ask (.line w.entry.trim)) w.submit

namespace Reached

variable {limits : Limits} {r : Record} {w : Window}

theorem entry (h : Reached limits r w) : w.entry = r.entry := by
  induction h with
  | new => rfl
  | typed => rfl
  | cleared _ ih => exact ih
  | restarted => rfl
  | sent _ visible =>
    rw [Window.submit]
    split <;> rfl

theorem submit (h : Reached limits r w) : Reached limits r.submit w.submit := by
  rw [Record.submit, ← h.entry]
  by_cases blank : w.entry.trim = []
  · rw [if_pos blank, Window.submit, if_pos blank]
    exact h.typed [] true
  · rw [if_neg blank]
    exact h.sent blank

/-- **Step**: the record is told what the key does to the window. -/
theorem press (h : Reached limits r w) (k : Key) : Reached limits (r.press k) (w.press k) := by
  cases k with
  | clearEntry => exact h.typed [] true
  | clearHistory => exact h.cleared
  | reset => exact h.restarted
  | command c => exact (h.typed c.text w.focusDue).submit
  | erase =>
    rw [Record.press, ← h.entry]
    exact h.typed w.entry.trimEnd.dropLast true
  | submit => exact h.submit
  | insert c =>
    rw [Record.press, ← h.entry]
    exact h.typed (w.entry ++ [c]) true

/-- A key that a frame may have. -/
theorem pressIf {s : Screen} (h : Reached limits r s.window) (pressed : Bool) (k : Key) :
    Reached limits ((if pressed then [k] else []).foldl Record.press r)
      (if pressed then s.updateWindow (·.press k) else s).window := by
  cases pressed with
  | false => exact h
  | true => exact h.press k

theorem click {s : Screen} (h : Reached limits r s.window) (c : Control) :
    Reached limits (c.keys.foldl Record.press r) (s.click c).window := by
  cases c with
  | key k => exact h.press k
  | header p => cases p <;> exact h

/-- No record tells of the focus. -/
theorem drawEntry {s : Screen} (h : Reached limits r s.window) :
    Reached limits r s.drawEntry.window := by
  obtain ⟨entry, requests⟩ := r
  obtain rfl : s.window.entry = entry := h.entry
  exact h.typed s.window.entry false

/-- A frame does what its keys do, in their order, and nothing besides that a record tells. -/
theorem frame {s : Screen} (h : Reached limits r s.window) (f : Frame) :
    Reached limits (f.keys.foldl Record.press r) (s.frame f).window := by
  obtain ⟨escape, enter, clicked⟩ := f
  have entered := (h.pressIf escape .clearEntry).drawEntry.pressIf enter .submit
  rw [Frame.keys, List.foldl_append, List.foldl_append]
  cases clicked with
  | none => exact entered
  | some c => exact entered.click c

theorem act {s : Screen} (h : Reached limits r s.window) (a : Action) :
    Reached limits (r.act a) (s.act a).window := by
  cases a with
  | enterText t => exact h.typed t s.window.focusDue
  | submit => exact h.submit
  | clearEntry => exact h.typed [] true
  | clearHistory => exact h.cleared
  | reset => exact h.restarted
  | frame f => exact h.frame f

end Reached

end Record

namespace Screen

/-- The screen after some actions. -/
def run (limits : Limits) (actions : List Action) : Screen :=
  actions.foldl act (new limits)

theorem run_append (limits : Limits) (actions later : List Action) :
    run limits (actions ++ later) = later.foldl act (run limits actions) :=
  List.foldl_append

theorem run_concat (limits : Limits) (actions : List Action) (a : Action) :
    run limits (actions ++ [a]) = (run limits actions).act a :=
  run_append limits actions [a]

/-- **Run**: every window that comes about in a run is reached by the record of the run. -/
theorem reached_run (limits : Limits) (actions : List Action) :
    (Record.ofActions actions).Reached limits (run limits actions).window := by
  induction actions using List.reverseRecOn with
  | nil => exact .new
  | append_singleton actions a ih =>
    rw [Record.ofActions, List.foldl_append, run_concat]
    exact ih.act a

end Screen

/-! ### Runs -/

namespace Record

/-- Whether a record tells what a window has in its entry field, what its session was told, and
which exchanges are kept. -/
structure Describes (limits : Limits) (r : Record) (w : Window) : Prop where
  entry : w.entry = r.entry
  session : w.session = (Session.new limits).after r.sinceReset
  history : ∃ before, r.sinceReset = before ++ r.sinceClear ∧
    w.history = (Session.exchanges limits before r.sinceClear).rtake historyMax

namespace Describes

variable {limits : Limits} {r : Record} {w : Window}

theorem new (limits : Limits) : Describes limits {} (.new limits) :=
  ⟨rfl, rfl, [], rfl, (List.rtake_nil _).symm⟩

theorem typed (h : Describes limits r w) (s : Text) (focus : Bool) :
    Describes limits { r with entry := s } { w with entry := s, focusDue := focus } :=
  ⟨rfl, h.session, h.history⟩

theorem limits_eq (h : Describes limits r w) : w.session.limits = limits := by
  rw [h.session, Session.limits_after]

theorem clearHistory (h : Describes limits r w) :
    Describes limits (r.ask .clear) w.clearHistory := by
  refine ⟨h.entry, ?_, r.sinceReset, ?_, ?_⟩
  · rw [sinceReset_ask]
    exact h.session
  · rw [sinceReset_ask, sinceClear_ask, List.append_nil]
  · rw [sinceClear_ask]
    exact (List.rtake_nil _).symm

theorem reset (h : Describes limits r w) :
    Describes limits ({ r with entry := [] }.ask .reset) w.reset := by
  refine ⟨rfl, ?_, [], ?_, ?_⟩
  · rw [sinceReset_ask]
    exact congrArg Session.new h.limits_eq
  · rw [sinceReset_ask, sinceClear_ask, List.append_nil]
  · rw [sinceClear_ask]
    exact (List.rtake_nil _).symm

theorem submit (h : Describes limits r w) (visible : w.entry.trim ≠ []) :
    Describes limits ({ r with entry := [] }.ask (.line w.entry.trim)) w.submit := by
  obtain ⟨before, since, history⟩ := h.history
  have told : w.session = (Session.new limits).after (before ++ r.sinceClear) := by
    rw [h.session, since]
  rw [Window.submit, if_neg visible]
  refine ⟨rfl, ?_, before, ?_, ?_⟩
  · rw [sinceReset_ask, Session.after_concat]
    exact congrArg (fun s => (s.turn w.entry.trim).session) h.session
  · rw [sinceReset_ask, sinceClear_ask, ← List.append_assoc]
    exact congrArg (· ++ [w.entry.trim]) since
  · rw [sinceClear_ask, Session.exchanges_concat, ← Window.remember_rtake]
    dsimp only [Window.clearEntry]
    rw [history, told]
    rfl

end Describes

theorem Reached.describes {limits : Limits} {r : Record} {w : Window} (h : Reached limits r w) :
    Describes limits r w := by
  induction h with
  | new => exact .new limits
  | typed _ s focus ih => exact ih.typed s focus
  | cleared _ ih => exact ih.clearHistory
  | restarted _ ih => exact ih.reset
  | sent _ visible ih => exact ih.submit visible

end Record

namespace Screen

theorem describes_run (limits : Limits) (actions : List Action) :
    (Record.ofActions actions).Describes limits (run limits actions).window :=
  (reached_run limits actions).describes

/-- **Runs**: whatever the user does, the window has the exchanges of the lines that were sent since
they were last forgotten, the oldest first, and of these the last five hundred. The text of each is
what a new session shows for its line after all lines before it that were sent since the last reset,
and the variables on show are those of this session after all of them. -/
theorem run_record (limits : Limits) (actions : List Action) :
    let s := run limits actions
    let r := Record.ofActions actions
    s.window.entry = r.entry ∧
      (∃ before, r.sinceReset = before ++ r.sinceClear ∧
        s.window.history = (Session.exchanges limits before r.sinceClear).rtake 500) ∧
      s.window.history.length = min 500 r.sinceClear.length ∧
      s.window.session = (Session.new limits).after r.sinceReset ∧
      (s.variablesOpen = true →
        variableLabels ((Session.new limits).after r.sinceReset).store <:+: s.labels) := by
  intro s r
  obtain ⟨entry, session, before, since, history⟩ : r.Describes limits s.window :=
    describes_run limits actions
  refine ⟨entry, ⟨before, since, history⟩, ?_, session, fun shown => ?_⟩
  · rw [history, List.rtake, List.length_drop, Session.exchanges, List.length_mapIdx, historyMax]
    omega
  · rw [labels, if_pos shown, ← session]
    exact ⟨_, _, (List.append_assoc ..).symm⟩

/-- Forgetting the exchanges leaves the variables. -/
example :
    (run .standard [.enterText "x = 3 ".toList, .submit, .clearHistory, .enterText "x +".toList,
      .frame { click := some (.key (.insert '1')) }, .frame { enter := true }]).window.history
      = [⟨"x +1".toList, some "4".toList⟩] := by
  decide

end Screen

end Abacus
