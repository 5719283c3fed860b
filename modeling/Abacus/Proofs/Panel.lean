import Abacus.Proofs.Record

/-!
# The derivation on show

The derivation of the last answer is kept twice, by the session and by the window, and it is the
window's that is on show. A line that is sent copies the session's to the window, a command included
although it leaves the session's as it was; forgetting the exchanges empties only the window's. So
what was forgotten can come back without anything being evaluated.

- **Sessions** (`Session.derivation_turn`, `Session.derivation_after`): an answer is remembered with
  its derivation, a refusal without one, and commands leave alone what is remembered.
- **Copies** (`Record.Reached.derivation`): the window shows what the session remembers, unless no
  line was sent since the exchanges were forgotten.
- **Clears** (`Screen.run_cleared`): when a panel that was emptied stays empty.
-/

namespace Abacus

/-- There is a note for every derivation but the empty one. -/
theorem Derivation.sheet_eq_empty_iff {d : Derivation} : d.sheet = {} ↔ d = .none := by
  constructor
  · intro empty
    have note : d.sheet.note = [] := congrArg Sheet.note empty
    cases d with
    | none => rfl
    | assignment => cases note
    | reading => cases note
    | literal n => cases note
    | stages normalised tokens resolved postfixed => cases note
  · rintro rfl
    rfl

/-! ### Sessions -/

/-- Every answer to a line that is not blank has a derivation. -/
theorem Store.derivation_ne_none {store : Store} {limits : Limits} {line : Text} {answer : Answer}
    (visible : line.trim ≠ []) (h : (store.evaluate limits line).outcome = .ok answer) :
    answer.derivation ≠ .none := by
  obtain ⟨evaluation, course, evaluated⟩ := store.exists_course line
  rw [evaluated] at h
  cases course with
  | blank empty => exact absurd empty visible
  | assigned _ _ =>
    cases h
    intro none
    cases none
  | read _ _ =>
    cases h
    intro none
    cases none
  | literal _ =>
    cases h
    intro none
    cases none
  | @staged text resolved postfixed _ _ _ =>
    dsimp only [calculated, Report.outcome_after] at h
    cases value : Token.evaluate limits postfixed with
    | error e =>
      rw [value] at h
      cases h
    | ok v =>
      rw [value] at h
      cases h
      intro none
      cases none
  | refused _ _ _ => cases h

namespace Session

/-- Whether a line is evaluated with success: it is no command, and it is not refused. -/
def answers (s : Session) (line : Text) : Bool :=
  (Command.ofText? line.trim).isNone && (s.store.evaluate s.limits line).outcome.isOk

/-- The lines of a run that are evaluated with success when their turn comes. -/
def answered (s : Session) : List Text → List Text
  | [] => []
  | line :: lines =>
    let rest := answered (s.turn line).session lines
    if s.answers line then line :: rest else rest

/-- **Step**: an answer is remembered with its derivation, a refusal with none, and a command leaves
alone what is remembered. -/
theorem derivation_turn (s : Session) {line : Text} (visible : line.trim ≠ []) :
    (Command.ofText? line.trim ≠ none ∧ s.answers line = false ∧ (s.turn line).session = s) ∨
      (Command.ofText? line.trim = none ∧ s.answers line = true ∧
        (s.turn line).session.derivation ≠ .none) ∨
      (Command.ofText? line.trim = none ∧ s.answers line = false ∧
        (s.turn line).session.derivation = .none) := by
  rw [turn, answers]
  cases command : Command.ofText? line.trim with
  | some c =>
    left
    cases c <;> exact ⟨Option.some_ne_none _, rfl, rfl⟩
  | none =>
    right
    rw [evaluate, Store.evaluate_trim]
    dsimp only
    cases outcome : (s.store.evaluate s.limits line).outcome with
    | ok answer => exact .inl ⟨rfl, rfl, Store.derivation_ne_none visible outcome⟩
    | error e => exact .inr ⟨rfl, rfl, rfl⟩

/-- **Run**: where no line is evaluated with success, nothing is remembered exactly if nothing was
before or a line was evaluated at all. -/
theorem derivation_after {s : Session} {lines : List Text}
    (visible : ∀ line ∈ lines, Text.trim line ≠ []) (unanswered : s.answered lines = []) :
    (s.after lines).derivation = .none ↔
      s.derivation = .none ∨ ∃ line ∈ lines, Command.ofText? (Text.trim line) = none := by
  induction lines generalizing s with
  | nil => simp [after]
  | cons line lines ih =>
    obtain ⟨here, later⟩ := List.forall_mem_cons.1 visible
    rw [answered] at unanswered
    show ((s.turn line).session.after lines).derivation = .none ↔ _
    rw [List.exists_mem_cons_iff]
    rcases s.derivation_turn here with ⟨command, none, same⟩ | ⟨-, some, -⟩ | ⟨plain, none, empty⟩
    · rw [none, if_neg Bool.false_ne_true] at unanswered
      rw [ih later unanswered, same]
      simp only [command, false_or]
    · rw [some, if_pos rfl] at unanswered
      cases unanswered
    · rw [none, if_neg Bool.false_ne_true] at unanswered
      rw [ih later unanswered, empty]
      simp only [plain, true_or, or_true]

end Session

/-! ### Copies -/

namespace Record

/-- A line is sent without the white space around it, and not if it is blank. -/
theorem Reached.trim_eq {limits : Limits} {r : Record} {w : Window} (h : Reached limits r w) :
    ∀ line : Text, .line line ∈ r.requests → line.trim = line ∧ line ≠ [] := by
  induction h with
  | new => exact nofun
  | typed _ _ _ ih => exact ih
  | cleared _ ih => exact fun line inside => ih line ((mem_ask.1 inside).resolve_right nofun)
  | restarted _ ih => exact fun line inside => ih line ((mem_ask.1 inside).resolve_right nofun)
  | sent _ visible ih =>
    intro line inside
    rcases mem_ask.1 inside with old | new
    · exact ih line old
    · cases new
      exact ⟨Text.trim_trim _, visible⟩

theorem mem_of_mem_lastLines {within : Request → Bool} {requests : List Request} {line : Text}
    (h : line ∈ lastLines within requests) : .line line ∈ requests := by
  obtain ⟨q, inside, sent⟩ := List.mem_filterMap.1 h
  obtain rfl : q = .line line := by
    cases q with
    | line s => exact congrArg Request.line (Option.some.inj sent)
    | clear => cases sent
    | reset => cases sent
  exact (List.rtakeWhile_suffix within requests).subset inside

/-- The window shows what the session remembers, unless no line was sent since it was emptied. -/
theorem Reached.derivation {limits : Limits} {r : Record} {w : Window} (h : Reached limits r w) :
    w.derivation = if r.sinceClear = [] then .none else w.session.derivation := by
  induction h with
  | new => rfl
  | typed _ _ _ ih => exact ih
  | cleared _ _ =>
    rw [sinceClear_ask]
    rfl
  | restarted _ _ =>
    rw [sinceClear_ask]
    rfl
  | sent _ visible _ =>
    rw [sinceClear_ask, if_neg (List.append_ne_nil_of_right_ne_nil _ (List.cons_ne_nil _ _)),
      Window.submit, if_neg visible]

end Record

/-! ### Clears -/

/-- The lines that were sent since the last reset, up to when the exchanges were last forgotten. -/
def Record.beforeClear (r : Record) : List Text :=
  r.sinceReset.rdrop r.sinceClear.length

namespace Screen

/-- **Clears**: when no line was evaluated with success since the exchanges were last forgotten, the
panel is empty exactly if no line was sent since then, or some line that is no command was, or the
session had nothing to remember then. It never has right behind a reset, so what a reset empties
stays empty until there is an answer. -/
theorem run_cleared (limits : Limits) (actions : List Action)
    (unanswered : ((Session.new limits).after (Record.ofActions actions).beforeClear).answered
      (Record.ofActions actions).sinceClear = []) :
    let w := (run limits actions).window
    let r := Record.ofActions actions
    (w.derivation.sheet = {} ↔
        r.sinceClear = [] ∨ (∃ line ∈ r.sinceClear, Command.ofText? line = none) ∨
          ((Session.new limits).after r.beforeClear).derivation = .none) ∧
      (r.sinceReset = r.sinceClear → w.derivation.sheet = {}) := by
  intro w r
  have reached : r.Reached limits w := reached_run limits actions
  obtain ⟨before, since, -⟩ := reached.describes.history
  have split : r.beforeClear = before := by
    rw [Record.beforeClear, since, List.rdrop_append_length]
  have sent (line : Text) (inside : line ∈ r.sinceClear) : line.trim = line ∧ line ≠ [] :=
    reached.trim_eq line (Record.mem_of_mem_lastLines inside)
  have visible (line : Text) (inside : line ∈ r.sinceClear) : line.trim ≠ [] := by
    rw [(sent line inside).1]
    exact (sent line inside).2
  have trimmed : (∃ line ∈ r.sinceClear, Command.ofText? (Text.trim line) = none) ↔
      ∃ line ∈ r.sinceClear, Command.ofText? line = none := by
    refine exists_congr fun line => and_congr_right fun inside => ?_
    rw [(sent line inside).1]
  have shown : w.derivation.sheet = {} ↔
      r.sinceClear = [] ∨ (∃ line ∈ r.sinceClear, Command.ofText? line = none) ∨
        ((Session.new limits).after r.beforeClear).derivation = .none := by
    rw [Derivation.sheet_eq_empty_iff, reached.derivation, reached.describes.session, split, since,
      Session.after_append]
    by_cases quiet : r.sinceClear = []
    · rw [if_pos quiet]
      exact iff_of_true rfl (.inl quiet)
    · rw [if_neg quiet, Session.derivation_after visible (split ▸ unanswered), trimmed, or_comm]
      exact (or_iff_right quiet).symm
  refine ⟨shown, fun restarted => shown.2 (.inr (.inr ?_))⟩
  obtain rfl : before = [] := List.append_left_eq_self.1 (since.symm.trans restarted)
  rw [split]
  rfl

/-- Behind a clear, a refused line and a command leave the panel empty. -/
theorem run_cleared_refused :
    let actions : List Action :=
      [.enterText "1+1".toList, .submit, .clearHistory, .enterText "1 +".toList, .submit,
        .enterText "/help".toList, .frame { enter := true }]
    let r := Record.ofActions actions
    r.beforeClear = ["1+1".toList] ∧ r.sinceClear = ["1 +".toList, "/help".toList] ∧
      ((Session.new .standard).after r.beforeClear).answered r.sinceClear = [] ∧
      (run .standard actions).window.derivation.sheet = {} := by
  intro actions r
  have unanswered : ((Session.new .standard).after r.beforeClear).answered r.sinceClear = [] := by
    decide +kernel
  refine ⟨by decide, by decide, unanswered, ?_⟩
  exact (run_cleared .standard actions unanswered).1.2
    (.inr (.inl ⟨"1 +".toList, by decide, by decide⟩))

/-- A command alone brings back the derivation of an answer from before the clear. -/
theorem derivation_comes_back :
    let cleared : List Action := [.enterText "1+1".toList, .submit, .clearHistory]
    let later : List Action := [.frame { click := some (.key (.command .help)) }]
    let r := Record.ofActions (cleared ++ later)
    (run .standard cleared).window.derivation.sheet = {} ∧
      r.beforeClear = ["1+1".toList] ∧ r.sinceClear = ["/help".toList] ∧
      ((Session.new .standard).after r.beforeClear).answered r.sinceClear = [] ∧
      (run .standard (cleared ++ later)).window.derivation.sheet ≠ {} := by
  decide +kernel

end Screen

end Abacus
