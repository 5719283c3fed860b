import Abacus.Proofs.History
import Abacus.Proofs.Postorder
import Abacus.Proofs.Replacement
import Abacus.Text.Decimal.Lemmas

/-!
# Lines that start with a slash

The three commands start with a slash, and a line that does so and is none of them is taken for a
command that is not known. Which lines these are is decided in two places: the session looks for its
commands before it evaluates anything, and the evaluation looks for a `=` before it looks for a
slash. A line with both is an assignment that fails, and no command.

- **Refusals** (`Refusal.OfCalculation`, `Store.outcome_eq_unknownCommand_iff`): no calculation
  refuses a command, so the lines that are refused as one can be told from their text.
- **Replies** (`Session.Replies`): all that a session can reply to a line, and on what condition.
- **Unknown commands** (`Session.turn_unknownCommand`): which lines get the reply that says so.
-/

namespace Abacus

/-! ### Refusals -/

/-- Whether a calculation can end with a refusal: operators and operands out of place, a division by
zero, or a power. -/
def Refusal.OfCalculation : Refusal → Prop
  | .invalidExpression | .divisionByZero | .invalidExponent .. => True
  | _ => False

theorem Refusal.OfArithmetic.ofCalculation {e : Refusal} (h : e.OfArithmetic) :
    e.OfCalculation := by
  cases e with
  | divisionByZero => trivial
  | invalidExponent _ _ => trivial
  | _ => cases h

theorem Token.ofCalculation_of_evaluate {limits : Limits} {ts : List Token} {e : Refusal}
    (h : evaluate limits ts = .error e) : e.OfCalculation := by
  rcases evaluate_eq_error_iff.1 h with stops | ⟨rfl, -, -⟩
  · exact stops.ofArithmetic.ofCalculation
  · trivial

theorem Token.ofCalculation_of_outcome {limits : Limits} {ts : List Token} {e : Refusal}
    (h : outcome limits ts = .error e) : e.OfCalculation := by
  rcases bind_eq_error_iff.1 h with unconverted | ⟨ps, -, value⟩
  · obtain rfl := eq_of_toPostfix_eq_error unconverted
    trivial
  · exact ofCalculation_of_evaluate value

namespace Store

variable {store : Store} {limits : Limits} {line : Text}

theorem calculate_ne_unknownCommand (ts : List Token) (text : Text) :
    store.calculate limits ts ≠ .error (.unknownCommand text) := by
  intro h
  rw [calculate_eq_outcome] at h
  split at h
  · cases h
  · exact Token.ofCalculation_of_outcome h

theorem binding_ne_unknownCommand (text : Text) :
    store.binding line ≠ .error (.unknownCommand text) := by
  intro h
  rw [binding] at h
  split at h
  · cases h
  · next a _ =>
    cases source : a.source with
    | literal n =>
      rw [source] at h
      cases h
    | copy name =>
      rw [source, valueOf, read] at h
      cases value : store.get? name with
      | none =>
        rw [value] at h
        cases h
      | some v =>
        rw [value] at h
        cases h

/-- A line that starts with a slash and has no `=` is refused as a command. -/
theorem evaluate_of_slash (slash : line.trim.head? = some '/') (plain : '=' ∉ line) :
    store.evaluate limits line = ⟨.refuse (.unknownCommand line.trim), store⟩ := by
  obtain ⟨r, hr⟩ := List.head?_eq_some_iff.1 slash
  have visible : line.trim ≠ [] := by
    rw [hr]
    exact nofun
  have name : ¬ line.trim.isName = true := by
    rw [hr]
    intro name
    cases (Bool.and_eq_true_iff.1 (Bool.and_eq_true_iff.1 name).2).1
  exact (if_neg visible).trans <| (if_neg ((Text.mem_trim_iff rfl).not.2 plain)).trans <|
    (if_neg name).trans (if_pos slash)

/-- **Refused commands**: a line is refused as a command exactly when it starts with a slash and has
no `=`; the refusal is about the line without the white space around it. -/
theorem outcome_eq_unknownCommand_iff {text : Text} :
    (store.evaluate limits line).outcome = .error (.unknownCommand text) ↔
      text = line.trim ∧ line.trim.head? = some '/' ∧ '=' ∉ line := by
  constructor
  · intro refused
    by_cases blank : line.trim = []
    · rw [show store.evaluate limits line = _ from if_pos blank] at refused
      cases refused
    by_cases equals : '=' ∈ line
    · have assignment : store.evaluate limits line = _ :=
        (if_neg blank).trans (if_pos ((Text.mem_trim_iff rfl).2 equals))
      rw [assignment] at refused
      cases binding : store.binding line.trim with
      | error e =>
        rw [binding] at refused
        cases refused
        exact absurd binding (binding_ne_unknownCommand text)
      | ok b =>
        rw [binding] at refused
        cases refused
    by_cases slash : line.trim.head? = some '/'
    · rw [evaluate_of_slash slash equals] at refused
      cases refused
      exact ⟨rfl, slash, equals⟩
    · -- any other line is calculated
      have result : store.result limits line = .error (.unknownCommand text) := by
        rw [Store.result, refused]
        rfl
      rw [store.result_eq limits blank equals slash] at result
      split at result
      · cases calculated : store.calculate limits line.foldSigns.tokens with
        | error e =>
          rw [calculated] at result
          cases result
          exact absurd calculated (calculate_ne_unknownCommand _ text)
        | ok v =>
          rw [calculated] at result
          cases result
      · cases result
  · rintro ⟨rfl, slash, plain⟩
    rw [evaluate_of_slash slash plain]
    rfl

end Store

/-! ### Replies -/

theorem Command.ofText?_eq_none_iff {s : Text} :
    ofText? s = none ↔ ∀ c : Command, s ≠ c.text := by
  rw [Option.eq_none_iff_forall_ne_some]
  simp only [ne_eq, ofText?_eq_some_iff]

namespace Session

/-- What a session can reply to a line, and on what condition. -/
inductive Replies (s : Session) (line : Text) : Reply → Prop where
  | exit (command : line.trim = Command.exit.text) : Replies s line (.farewell farewellMessage)
  | help (command : line.trim = Command.help.text) : Replies s line (.display helpMessage)
  | print (command : line.trim = Command.print.text) : Replies s line (.display s.store.dump)
  | nothing {answer : Answer} (other : ∀ c : Command, line.trim ≠ c.text)
      (answered : (s.store.evaluate s.limits line).outcome = .ok answer)
      (value : answer.value? = none) : Replies s line .silence
  | value {answer : Answer} {v : Int} (other : ∀ c : Command, line.trim ≠ c.text)
      (answered : (s.store.evaluate s.limits line).outcome = .ok answer)
      (value : answer.value? = some v) : Replies s line (.display (Decimal.ofInt v))
  | refusal {e : Refusal} (other : ∀ c : Command, line.trim ≠ c.text)
      (refused : (s.store.evaluate s.limits line).outcome = .error e) :
      Replies s line (.display e.message)

theorem replies_turn (s : Session) (line : Text) : s.Replies line (s.turn line).reply := by
  cases command : Command.ofText? line.trim with
  | some c =>
    have text := Command.ofText?_eq_some_iff.1 command
    rw [turn, command]
    cases c with
    | exit => exact .exit text
    | help => exact .help text
    | print => exact .print text
  | none =>
    have other := Command.ofText?_eq_none_iff.1 command
    cases outcome : (s.store.evaluate s.limits line).outcome with
    | error e =>
      rw [reply_of_refused command outcome]
      exact .refusal other outcome
    | ok answer =>
      rw [reply_of_answered command outcome]
      cases value : answer.value? with
      | none => exact .nothing other outcome value
      | some v => exact .value other outcome value

end Session

/-! ### Unknown commands -/

theorem Refusal.message_eq_iff {e : Refusal} :
    e.message = "Unknown command".toList ↔ ∃ text, e = .unknownCommand text := by
  constructor
  · intro same
    cases e with
    | unknownCommand text => exact ⟨text, rfl⟩
    | unknownVariable name =>
      change "Unknown variable".toList = _ at same
      exact absurd same (by decide)
    | invalidExponent exponent cause =>
      change "Invalid exponent".toList = _ at same
      exact absurd same (by decide)
    | _ => exact absurd same (by decide)
  · rintro ⟨text, rfl⟩
    rfl

/-- The name in front of the `=` of an assignment starts with a letter. -/
theorem Assigns.head?_trim_ne {get : Text → Option Int} {line name : Text} {v : Int}
    (h : Assigns get line name v) : line.trim.head? ≠ some '/' := by
  have front {left right : Text} (letters : left.trim.isName = true) :
      (left ++ '=' :: right).trim.head? ≠ some '/' := by
    cases word : left.trim with
    | nil =>
      rw [word] at letters
      cases letters
    | cons c r =>
      have first := Text.head?_trim left
      rw [word] at first letters
      rw [Text.head?_trim, List.find?_append, ← first]
      rintro ⟨⟩
      cases (Bool.and_eq_true_iff.1 (Bool.and_eq_true_iff.1 letters).2).1
  cases h with
  | literal _ _ letters _ => exact front letters
  | copy _ _ letters _ _ => exact front letters

namespace Session

/-- A line that starts with a slash leaves the store as it was. -/
theorem store_turn_of_slash (s : Session) {line : Text} (slash : line.trim.head? = some '/') :
    (s.turn line).session.store = s.store := by
  rcases s.turn_cases line with ⟨-, name, v, assigns, -⟩ | ⟨-, -, same⟩
  · exact absurd slash assigns.head?_trim_ne
  · exact same

/-- **Unknown commands**: a line is refused as a command, with all of it but the white space around
it, exactly when it starts with a slash and has no `=`. So the reply that the command is unknown is
given to such lines, unless they are one of the three commands, and to no other. No line that starts
with a slash changes the store. -/
theorem turn_unknownCommand (s : Session) (line : Text) :
    (∀ text, (s.store.evaluate s.limits line).outcome = .error (.unknownCommand text) ↔
        text = line.trim ∧ line.trim.head? = some '/' ∧ '=' ∉ line) ∧
      ((s.turn line).reply = .display "Unknown command".toList ↔
        line.trim.head? = some '/' ∧ '=' ∉ line ∧ ∀ c : Command, line.trim ≠ c.text) ∧
      (line.trim.head? = some '/' → (s.turn line).session.store = s.store) := by
  refine ⟨fun text => Store.outcome_eq_unknownCommand_iff, ?_, s.store_turn_of_slash⟩
  constructor
  · intro unknown
    have replies := s.replies_turn line
    rw [unknown] at replies
    generalize shown : "Unknown command".toList = text at replies
    cases replies with
    | help _ => exact absurd shown (by decide)
    | print _ =>
      rw [Store.dump] at shown
      cases shown
    | value _ _ _ =>
      have letter : 'U' ∈ "Unknown command".toList := List.mem_cons_self ..
      rw [shown] at letter
      cases Decimal.isDigit_of_mem_ofInt letter (by decide)
    | refusal other refused =>
      obtain ⟨text, rfl⟩ := Refusal.message_eq_iff.1 shown.symm
      obtain ⟨-, slash, plain⟩ := Store.outcome_eq_unknownCommand_iff.1 refused
      exact ⟨slash, plain, other⟩
  · rintro ⟨slash, plain, other⟩
    have refused : (s.store.evaluate s.limits line).outcome = _ :=
      Store.outcome_eq_unknownCommand_iff.2 ⟨rfl, slash, plain⟩
    exact reply_of_refused (Command.ofText?_eq_none_iff.2 other) refused

/-- Not every line that starts with a slash and is no command gets the reply: with a `=` it is
refused as an assignment. -/
theorem slash_before_equals :
    let line : Text := "/a=1".toList
    line.trim.head? = some '/' ∧ (∀ c : Command, line.trim ≠ c.text) ∧
      ((new .standard).turn line).reply = .display "Invalid assignment".toList ∧
      ((new .standard).turn line).reply ≠ .display "Unknown command".toList ∧
      (Store.empty.evaluate .standard line).outcome = .error .invalidAssignment := by
  refine ⟨rfl, ?_, by decide, by decide, by decide⟩
  intro c
  cases c <;> decide

end Session

end Abacus
