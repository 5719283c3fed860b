import Abacus.Operator
import Abacus.Text.Decimal

/-!
# Tokens

A text whose units are separated by white space is read as one token per unit. Reading
refuses nothing: a unit of no known kind is an `unknown` token, which the later stages refuse.

- `Token.scan`: the tokens of a text.
- `Token.render`: the tokens as a text, one space between neighbours.
-/

namespace Abacus

/-- A unit of an expression. -/
inductive Token where
  /-- A number; a negative one arises only when a sign is folded into it. -/
  | number (n : Int)
  /-- The name of a variable. -/
  | name (s : Text)
  | op (o : Operator)
  | opening
  | closing
  /-- A unit that is none of the others. -/
  | unknown (s : Text)
  deriving DecidableEq, Repr

namespace Token

/-- The token of a unit that is one bracket or one operator. -/
def ofSymbol? : Char → Option Token
  | '(' => some .opening
  | ')' => some .closing
  | c => (Operator.ofChar? c).map .op

/-- The token of a unit that is no symbol: a numeral, a run of letters, or anything else. -/
def ofWord (s : Text) : Token :=
  if s.all Char.isDigit then .number (Decimal.value s)
  else if s.all Char.isAlpha then .name s
  else .unknown s

/-- The token of one unit. -/
def ofUnit : Text → Token
  | [c] => (ofSymbol? c).getD (ofWord [c])
  | s => ofWord s

/-- The tokens of a text whose units are separated by white space. -/
def scan (s : Text) : List Token :=
  s.pieces.map ofUnit

/-- The text of one token. -/
def text : Token → Text
  | .number n => Decimal.ofInt n
  | .name s => s
  | .op o => [o.symbol]
  | .opening => ['(']
  | .closing => [')']
  | .unknown s => s

/-- The texts of the tokens, with one space between neighbours. -/
def render (ts : List Token) : Text :=
  Text.unwords (ts.map text)

end Token

end Abacus
