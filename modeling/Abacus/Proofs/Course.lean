import Abacus.Evaluation
import Abacus.Proofs.Calculation

/-!
# The ways a line can go

There are few ways for a line to be answered or refused, and which of them it goes is decided before
the limits are looked at: they only come in where a postfix form is evaluated. `Store.Course` has
one constructor for each way and says under which condition a line goes it, what is reported of it
and which store it leaves behind; `Store.exists_course` says that every line goes one of them. What
a line does to the store, and what the limits do to a line, is read off from here.
-/

namespace Abacus

/-- Whether other limits might not have refused: the power of a negative exponent is refused under
any. -/
def Refusal.ByLimits : Refusal → Prop
  | .invalidExponent exponent _ => 0 ≤ exponent
  | _ => False

namespace Store

variable (store : Store)

/-- The report of a line that goes through every stage, from its normal form on. -/
def calculated (text : Text) (resolved postfixed : List Token) (limits : Limits) : Report Answer :=
  Report.after (.normalised text) <| Report.after (.postfixed postfixed) <|
    match Token.evaluate limits postfixed with
    | .error e => ⟨e.events, .error e⟩
    | .ok v => .answer ⟨some v, .stages text (Token.scan text) resolved postfixed⟩

/-- The ways that a line can go, each with what it leads to under any limits. -/
inductive Course (line : Text) : (Limits → Evaluation) → Prop where
  | blank (empty : line.trim = []) : Course line fun _ => ⟨.answer ⟨none, .none⟩, store⟩
  | assigned {name : Text} {v : Int} (equals : '=' ∈ line.trim)
      (binding : store.binding line.trim = .ok (name, v)) :
      Course line fun _ =>
        ⟨Report.after (.assigned name v) (.answer ⟨none, .assignment⟩), store.bind name v⟩
  | read {v : Int} (letters : line.trim.isName = true) (bound : store.get? line.trim = some v) :
      Course line fun _ => ⟨.answer ⟨some v, .reading⟩, store⟩
  | literal {n : Int} (negative : Normalised.ofText? line.trim = some (.literal n)) :
      Course line fun _ => ⟨.answer ⟨some n, .literal n⟩, store⟩
  | staged {text : Text} {resolved postfixed : List Token}
      (normal : Normalised.ofText? line.trim = some (.spaced text))
      (resolution : store.resolve (Token.scan text) = .ok resolved)
      (conversion : Token.toPostfix resolved = .ok postfixed) :
      Course line fun limits => ⟨calculated text resolved postfixed limits, store⟩
  | refused {e : Refusal} (events : List Event) (visible : line.trim ≠ []) (cause : ¬ e.ByLimits) :
      Course line fun _ => ⟨⟨events, .error e⟩, store⟩

theorem not_byLimits_of_read {name : Text} {e : Refusal} (h : store.read name = .error e) :
    ¬ e.ByLimits := by
  rw [read] at h
  split at h
  · cases h
  · obtain rfl := Except.error.inj h
    exact id

theorem not_byLimits_of_valueOf {source : Source} {e : Refusal}
    (h : store.valueOf source = .error e) : ¬ e.ByLimits := by
  cases source with
  | literal n => cases h
  | copy name => exact store.not_byLimits_of_read h

theorem not_byLimits_of_binding {line : Text} {e : Refusal} (h : store.binding line = .error e) :
    ¬ e.ByLimits := by
  rw [binding] at h
  split at h
  · obtain rfl := Except.error.inj h
    exact id
  · next a _ =>
    cases value : store.valueOf a.source with
    | ok v =>
      rw [value] at h
      cases h
    | error e' =>
      rw [value] at h
      obtain rfl : e' = e := Except.error.inj h
      exact store.not_byLimits_of_valueOf value

theorem not_byLimits_of_resolve {ts : List Token} {e : Refusal} (h : store.resolve ts = .error e) :
    ¬ e.ByLimits := by
  rw [resolve, substitute_eq] at h
  split at h
  · obtain rfl := Except.error.inj h
    exact id
  · cases h

/-- An expression goes the way of a lone negative number or through the stages, or is refused. -/
theorem exists_course_expression {line : Text} (visible : line.trim ≠ []) :
    ∃ evaluation, Course store line evaluation ∧ ∀ limits,
      ⟨(store.evaluateExpression limits line.trim).map fun a => ⟨some a.1, a.2⟩, store⟩
        = evaluation limits := by
  cases normal : Normalised.ofText? line.trim with
  | none =>
    refine ⟨_, .refused (e := .invalidExpression) [] visible id, fun limits => ?_⟩
    rw [evaluateExpression, normal]
    rfl
  | some form =>
    cases form with
    | literal n =>
      refine ⟨_, .literal normal, fun limits => ?_⟩
      rw [evaluateExpression, normal]
      rfl
    | spaced text =>
      have report (limits : Limits) : store.evaluateExpression limits line.trim
          = (store.evaluateSpaced limits text).after (.normalised text) := by
        rw [evaluateExpression, normal]
      cases resolution : store.resolve (Token.scan text) with
      | error e =>
        refine ⟨_, .refused [.normalised text] visible (store.not_byLimits_of_resolve resolution),
          fun limits => ?_⟩
        simp only [report, evaluateSpaced, resolution]
        rfl
      | ok resolved =>
        cases conversion : Token.toPostfix resolved with
        | error e =>
          obtain rfl := Token.eq_of_toPostfix_eq_error conversion
          refine ⟨_, .refused (e := .invalidExpression) [.normalised text] visible id,
            fun limits => ?_⟩
          simp only [report, evaluateSpaced, resolution, conversion]
          rfl
        | ok postfixed =>
          refine ⟨_, .staged normal resolution conversion, fun limits => ?_⟩
          simp only [report, evaluateSpaced, resolution, conversion, calculated]
          cases Token.evaluate limits postfixed <;> rfl

/-- Every line goes one of the ways, the same under all limits. -/
theorem exists_course (line : Text) :
    ∃ evaluation, Course store line evaluation ∧
      ∀ limits, store.evaluate limits line = evaluation limits := by
  by_cases empty : line.trim = []
  · exact ⟨_, .blank empty, fun limits => if_pos empty⟩
  by_cases equals : '=' ∈ line.trim
  · have split (limits : Limits) : store.evaluate limits line = _ :=
      (if_neg empty).trans (if_pos equals)
    cases binding : store.binding line.trim with
    | error e =>
      refine ⟨_, .refused [] empty (store.not_byLimits_of_binding binding), fun limits => ?_⟩
      rw [split, binding]
      rfl
    | ok b =>
      refine ⟨_, .assigned equals binding, fun limits => ?_⟩
      rw [split, binding]
  by_cases letters : line.trim.isName = true
  · have split (limits : Limits) : store.evaluate limits line = _ :=
      (if_neg empty).trans ((if_neg equals).trans (if_pos letters))
    cases bound : store.get? line.trim with
    | none =>
      refine ⟨_, .refused (e := .unknownVariable line.trim) [] empty id, fun limits => ?_⟩
      rw [split, read, bound]
      rfl
    | some v =>
      refine ⟨_, .read letters bound, fun limits => ?_⟩
      rw [split, read, bound]
  by_cases command : line.trim.head? = some '/'
  · exact ⟨_, .refused (e := .unknownCommand line.trim) [] empty id, fun limits =>
      (if_neg empty).trans ((if_neg equals).trans ((if_neg letters).trans (if_pos command)))⟩
  have split (limits : Limits) : store.evaluate limits line = _ :=
    (if_neg empty).trans ((if_neg equals).trans ((if_neg letters).trans (if_neg command)))
  by_cases balanced : line.trim.bracketsBalanced = true
  · obtain ⟨evaluation, course, expression⟩ := store.exists_course_expression empty
    exact ⟨evaluation, course, fun limits =>
      (split limits).trans ((if_pos balanced).trans (expression limits))⟩
  · exact ⟨_, .refused (e := .invalidExpression) [] empty id, fun limits =>
      (split limits).trans (if_neg balanced)⟩

end Store

end Abacus
