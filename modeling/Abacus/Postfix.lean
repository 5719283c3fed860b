import Abacus.Arithmetic
import Abacus.Token

/-!
# Postfix form

An expression without names and signs is turned into postfix form, every operator after its
two operands, and a postfix form is evaluated on a stack.

- `Yard`: the tokens sent out so far and the operators and brackets held back.
- `Token.toPostfix`: the postfix form of a list of tokens, or a refusal if the brackets do not
  match or a token is neither number, operator nor bracket. Operands and operators out of
  place pass through; the stack refuses them.
- `Token.evaluate`: the value of a postfix form, or the first error met.
-/

namespace Abacus

/-! ### From infix to postfix -/

/-- What is held back until its turn comes: an open bracket, or an operator whose right
operand is not complete. -/
inductive Held where
  | bracket
  | op (o : Operator)
  deriving DecidableEq, Repr

/-- The state of the conversion. -/
structure Yard where
  /-- The tokens sent out, the last one first. -/
  sent : List Token := []
  /-- What is held back, the last one first. -/
  held : List Held := []
  deriving DecidableEq, Repr

namespace Yard

/-- Sends out the operators on top that bind at least as tightly as `o`; this is what makes
every operator associate to the left. -/
def release (o : Operator) (sent : List Token) : List Held → Yard
  | .op top :: held =>
    if o.rank ≤ top.rank then release o (.op top :: sent) held else ⟨sent, .op top :: held⟩
  | held => ⟨sent, held⟩

/-- Sends out the operators above the innermost open bracket, and drops the bracket. -/
def close (sent : List Token) : List Held → Except Refusal Yard
  | .op top :: held => close (.op top :: sent) held
  | .bracket :: held => .ok ⟨sent, held⟩
  | [] => .error .invalidExpression

/-- Takes in one token. -/
def step (y : Yard) : Token → Except Refusal Yard
  | .number n => .ok { y with sent := .number n :: y.sent }
  | .opening => .ok { y with held := .bracket :: y.held }
  | .closing => close y.sent y.held
  | .op o =>
    let y' := release o y.sent y.held
    .ok { y' with held := .op o :: y'.held }
  | .name _ | .unknown _ => .error .invalidExpression

/-- Sends out all that is held back; no bracket may be among it. -/
def finish (sent : List Token) : List Held → Except Refusal (List Token)
  | .op top :: held => finish (.op top :: sent) held
  | .bracket :: _ => .error .invalidExpression
  | [] => .ok sent.reverse

end Yard

/-- The postfix form of a list of tokens. -/
def Token.toPostfix (ts : List Token) : Except Refusal (List Token) :=
  (ts.foldlM Yard.step {}).bind fun y => Yard.finish y.sent y.held

/-! ### Evaluation on a stack -/

/-- Takes in one token of a postfix form: a number is pushed, an operator replaces the two
topmost values by its result. -/
def Token.push (limits : Limits) (stack : List Int) : Token → Except Refusal (List Int)
  | .number n => .ok (n :: stack)
  | .op o =>
    match stack with
    | b :: a :: rest => (o.apply limits a b).map (· :: rest)
    | _ => .error .invalidExpression
  | _ => .error .invalidExpression

/-- The value of a postfix form: what it leaves on an empty stack, which has to be one value. -/
def Token.evaluate (limits : Limits) (ts : List Token) : Except Refusal Int :=
  match ts.foldlM (Token.push limits) [] with
  | .ok [v] => .ok v
  | .ok _ => .error .invalidExpression
  | .error e => .error e

end Abacus
