import Abacus.Token

/-!
# Derivations

Next to a value the calculator shows how it was reached: the normal form of the line, its
tokens, the tokens with names and signs worked off, and the postfix form. An answer that was
reached by a shorter way has a note that says so.

- `Derivation`: how an answer was reached.
- `Derivation.sheet`: the texts that show it.
-/

namespace Abacus

/-- How the answer to a line was reached. -/
inductive Derivation where
  /-- There is nothing to show. -/
  | none
  | assignment
  /-- A variable was read. -/
  | reading
  /-- The line was a lone negative number. -/
  | literal (n : Int)
  /-- The line went through every stage. -/
  | stages (normalised : Text) (tokens resolved postfixed : List Token)
  deriving DecidableEq, Repr

/-- A derivation as it is shown: one text for each stage, and a note. -/
structure Derivation.Sheet where
  normalised : Text := []
  tokens : Text := []
  resolved : Text := []
  postfixed : Text := []
  note : Text := []
  deriving DecidableEq, Repr

/-- The texts that show a derivation. -/
def Derivation.sheet : Derivation → Derivation.Sheet
  | .none => {}
  | .assignment => { note := "Affectation".toList }
  | .reading => { note := "Lecture de variable".toList }
  | .literal n =>
    { normalised := Decimal.ofInt n
      note := "Entier signé seul : pipeline court-circuité.".toList }
  | .stages normalised tokens resolved postfixed =>
    { normalised
      tokens := Token.render tokens
      resolved := Token.render resolved
      postfixed := Token.render postfixed
      note := "Pipeline: normalise → jetons → résolution → RPN → pile.".toList }

end Abacus
