import Abacus.Token

/-!
# Signs in front of operands

A `+` or `-` is a *sign* where an operand is due: at the start, after an operator, after an
opening bracket. A run of signs counts as one, `-` if the number of `-` among them is odd. It is

- folded into a number that follows;
- in front of a bracket, dropped if it is `+`, and if it is `-` turned into a group of its own:
  `- ( … )` becomes `( -1 * ( … ) )`, one operand for whatever operator stands before it;
- in front of anything else kept as an operator, which the stack then refuses.

Signs are worked off in one pass that reads a token at a time.

- `Signs`: what the pass remembers; `Signs.step` is its step.
- `Token.resolveSigns`: the tokens with their signs worked off.
-/

namespace Abacus

/-- What is known in front of the next token. -/
structure Signs where
  /-- An operand is due. -/
  operandDue : Bool := true
  /-- A run of signs has been read and not yet worked off; `some true` is a negative one. -/
  pending : Option Bool := none
  /-- The number of brackets open in the input. -/
  depth : Nat := 0
  /-- The depths inside the negated groups that are open, the innermost first. -/
  groups : List Nat := []
  deriving DecidableEq, Repr

namespace Signs

/-- The operator that a run of signs amounts to. -/
def signOp (negative : Bool) : Token :=
  .op (if negative then .minus else .plus)

/-- Whether a token is a sign when an operand is due: `some true` for `-`, `some false` for
`+`. -/
def sign? : Token → Option Bool
  | .op .minus => some true
  | .op .plus => some false
  | _ => none

/-- Sends out a token that is no sign. A closing bracket that ends a negated group is sent out
twice. -/
def send (σ : Signs) : Token → List Token × Signs
  | .opening =>
    ([.opening], { σ with operandDue := true, pending := none, depth := σ.depth + 1 })
  | .closing =>
    let σ' := { σ with operandDue := false, pending := none, depth := σ.depth - 1 }
    match σ.groups with
    | g :: groups =>
      if g = σ.depth then ([.closing, .closing], { σ' with groups }) else ([.closing], σ')
    | [] => ([.closing], σ')
  | .op o => ([.op o], { σ with operandDue := true, pending := none })
  | t => ([t], { σ with operandDue := false, pending := none })

/-- Works off a pending run of signs together with the token after it, which is no sign. -/
def resolve (σ : Signs) (negative : Bool) : Token → List Token × Signs
  | .number n => σ.send (.number (if negative then -n else n))
  | .opening =>
    if negative then
      let (sent, σ') := { σ with groups := (σ.depth + 1) :: σ.groups }.send .opening
      (.opening :: .number (-1) :: .op .times :: sent, σ')
    else σ.send .opening
  | t =>
    let (sent, σ') := σ.send t
    (signOp negative :: sent, σ')

/-- Takes in one token, and says what is sent out for it. -/
def step (σ : Signs) (t : Token) : List Token × Signs :=
  match (if σ.operandDue then sign? t else none), σ.pending with
  | some negative, none => ([], { σ with pending := some negative })
  | some negative, some before => ([], { σ with pending := some (before ^^ negative) })
  | none, some negative => σ.resolve negative t
  | none, none => σ.send t

/-- What is sent out for a list of tokens; a run of signs at its end is kept. -/
def run (σ : Signs) : List Token → List Token
  | [] => (σ.pending.map signOp).toList
  | t :: ts =>
    let (sent, σ') := σ.step t
    sent ++ run σ' ts

end Signs

/-- The tokens with their signs worked off. -/
def Token.resolveSigns (ts : List Token) : List Token :=
  Signs.run {} ts

end Abacus
