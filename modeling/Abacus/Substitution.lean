import Abacus.Assignment
import Abacus.Token

/-!
# Values in the place of names

Before anything is calculated, every name in an expression gives way to its value. The store is
only read, and the leftmost name that has no value is the one that is reported.
-/

namespace Abacus.Store

/-- The token, with its value in the place of a name. -/
def substituteToken (s : Store) : Token → Except Refusal Token
  | .name name => (s.read name).map .number
  | t => .ok t

/-- The tokens, with their values in the place of names. -/
def substitute (s : Store) (ts : List Token) : Except Refusal (List Token) :=
  ts.mapM s.substituteToken

end Abacus.Store
