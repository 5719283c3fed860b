import Abacus.Bracket
import Abacus.Derivation
import Abacus.Normalised
import Abacus.Postfix
import Abacus.Report
import Abacus.Signs
import Abacus.Substitution

/-!
# Evaluation of a line

A line is blank, an assignment, the name of a variable, or an expression; a line that starts
with a slash is none of these and is refused. An expression goes through the stages

  normal form → tokens → values for names → signs worked off → postfix form → value.

- `Store.evaluate`: one line, from the raw text to what is reported of it and the store that it
  leaves behind.
- `Store.after`: this store alone.
-/

namespace Abacus

/-- The answer to a line: a value to show if there is one, and how it was reached. -/
structure Answer where
  value? : Option Int
  derivation : Derivation
  deriving DecidableEq, Repr

/-- What a line leads to, whether it is answered or refused. -/
structure Evaluation extends Report Answer where
  /-- The store after the line. -/
  store : Store

namespace Store

/-- The tokens with names and signs worked off. -/
def resolve (store : Store) (ts : List Token) : Except Refusal (List Token) :=
  (store.substitute ts).map Token.resolveSigns

/-- The value of a spaced text and its derivation. -/
def evaluateSpaced (store : Store) (limits : Limits) (text : Text) :
    Report (Int × Derivation) :=
  let tokens := Token.scan text
  match store.resolve tokens with
  | .error e => .refuse e
  | .ok resolved =>
    match Token.toPostfix resolved with
    | .error e => .refuse e
    | .ok postfixed =>
      Report.after (.postfixed postfixed) <|
        match Token.evaluate limits postfixed with
        | .error e => ⟨e.events, .error e⟩
        | .ok v => .answer (v, .stages text tokens resolved postfixed)

/-- The value of an expression and its derivation. -/
def evaluateExpression (store : Store) (limits : Limits) (line : Text) :
    Report (Int × Derivation) :=
  match Normalised.ofText? line with
  | none => .refuse .invalidExpression
  | some (.literal n) => .answer (n, .literal n)
  | some (.spaced text) => (store.evaluateSpaced limits text).after (.normalised text)

/-- The evaluation of a line. -/
def evaluate (store : Store) (limits : Limits) (line : Text) : Evaluation :=
  let s := line.trim
  if s = [] then ⟨.answer ⟨none, .none⟩, store⟩
  else if '=' ∈ s then
    match store.binding s with
    | .error e => ⟨.refuse e, store⟩
    | .ok (name, v) =>
      ⟨Report.after (.assigned name v) (.answer ⟨none, .assignment⟩), store.bind name v⟩
  else if s.isName then
    match store.read s with
    | .error e => ⟨.refuse e, store⟩
    | .ok v => ⟨.answer ⟨some v, .reading⟩, store⟩
  else if s.head? = some '/' then ⟨.refuse (.unknownCommand s), store⟩
  else if s.bracketsBalanced then
    ⟨(store.evaluateExpression limits s).map fun a => ⟨some a.1, a.2⟩, store⟩
  else ⟨.refuse .invalidExpression, store⟩

/-- The store after a line. -/
def after (store : Store) (limits : Limits) (line : Text) : Store :=
  (store.evaluate limits line).store

end Store

end Abacus
