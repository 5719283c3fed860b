import Abacus.Proofs.Arithmetic
import Abacus.Proofs.Sentence
import Abacus.Store

/-!
# Expressions and what they mean

The meaning of a sentence is that of a tree of operations. The signs in front of an atom multiply
it by minus one as often as there is a `-` among them, before any operator is applied; operators of
a higher level bind more tightly, and operators of one level, the power included, associate to the
left.

- `Expr`: trees of operations that remember brackets and signs.
- `Expr.attach`: how one more operator and its right operand join an expression.
- `Expr.value`: the value under limits, left operand before right operand before operator.
- `Sentence.expr`, `Sentence.outcome`: the expression that a sentence is read as and what comes of
  it: the leftmost name without a value is reported before anything is calculated.
- `Expr.Layered`: every operand of an operator binds at least as tightly as its side asks for.
- `Sentence.layered_expr`: the expression of a sentence is layered.
-/

namespace Abacus

/-- An expression over words of type `α`. -/
inductive Expr (α : Type) where
  /-- A word behind a run of signs with so many `-` among them. -/
  | leaf (minuses : Nat) (a : α)
  /-- A bracketed expression behind a run of signs with so many `-` among them. -/
  | group (minuses : Nat) (e : Expr α)
  | binary (o : Operator) (l r : Expr α)

namespace Expr

variable {α : Type}

/-- The value of an expression under limits when `f` gives the values of its words. -/
def value (limits : Limits) (f : α → Int) : Expr α → Except Refusal Int
  | .leaf m a => .ok ((-1) ^ m * f a)
  | .group m e => (e.value limits f).map fun v => (-1) ^ m * v
  | .binary o l r =>
    (l.value limits f).bind fun a => (r.value limits f).bind fun b => o.value limits a b

/-- The expression with one more operator and right operand behind it. The operator takes the whole
expression as its left operand, unless that is an operation that binds less tightly: then it takes
the right operand of this operation only. -/
def attach (o : Operator) (u : Expr α) : Expr α → Expr α
  | .binary p l r =>
    if p.level < o.level then .binary p l (attach o u r) else .binary o (.binary p l r) u
  | e => .binary o e u

/-- The tokens of an expression when a sign is part of the number behind it, and a bracket that is
negated is multiplied by minus one in a bracket of its own. -/
def resolved (f : α → Int) : Expr α → List Token
  | .leaf m a => [.number ((-1) ^ m * f a)]
  | .group m e =>
    if m % 2 = 1 then
      .opening :: .number (-1) :: .op .times :: .opening :: (e.resolved f ++ [.closing, .closing])
    else .opening :: (e.resolved f ++ [.closing])
  | .binary o l r => l.resolved f ++ .op o :: r.resolved f

/-- The tokens of an expression with every operator behind its two operands. -/
def postfixed (f : α → Int) : Expr α → List Token
  | .leaf m a => [.number ((-1) ^ m * f a)]
  | .group m e =>
    if m % 2 = 1 then .number (-1) :: (e.postfixed f ++ [.op .times]) else e.postfixed f
  | .binary o l r => l.postfixed f ++ (r.postfixed f ++ [.op o])

/-- Whether the operators outside brackets have level `k` or more, and those of every right operand
a higher level than the operator in front of it. -/
def Layered : Nat → Expr α → Prop
  | _, .leaf _ _ => True
  | _, .group _ e => e.Layered 0
  | k, .binary o l r => k ≤ o.level ∧ l.Layered o.level ∧ r.Layered (o.level + 1)

/-! ### Attaching an operator -/

theorem resolved_attach (f : α → Int) (o : Operator) (u : Expr α) :
    ∀ e : Expr α, (attach o u e).resolved f = e.resolved f ++ .op o :: u.resolved f
  | .leaf _ _ => rfl
  | .group _ _ => rfl
  | .binary p l r => by
    rw [attach]
    split
    · rw [resolved, resolved_attach f o u r, resolved, List.append_assoc, List.cons_append]
    · rfl

theorem Layered.attach {o : Operator} {u : Expr α} (hu : u.Layered (o.level + 1)) :
    ∀ {e : Expr α} {k : Nat}, k ≤ o.level → e.Layered k → (attach o u e).Layered k
  | .leaf _ _, _, hk, h => ⟨hk, h, hu⟩
  | .group _ _, _, hk, h => ⟨hk, h, hu⟩
  | .binary p l r, k, hk, ⟨hp, hl, hr⟩ => by
    rw [Expr.attach]
    split
    · next lower => exact ⟨hp, hl, Layered.attach hu lower hr⟩
    · next lower => exact ⟨hk, ⟨Nat.le_of_not_lt lower, hl, hr⟩, hu⟩

/-! ### Signs -/

/-- An odd number of `-` negates. -/
theorem signed_of_odd {m : Nat} (h : m % 2 = 1) (n : Int) : (-1) ^ m * n = -n := by
  rw [neg_one_pow_eq_pow_mod_two, h, pow_one, neg_one_mul]

/-- An even number of `-` has no effect. -/
theorem signed_of_even {m : Nat} (h : ¬ m % 2 = 1) (n : Int) : (-1) ^ m * n = n := by
  rw [neg_one_pow_eq_pow_mod_two, Nat.mod_two_ne_one.1 h, pow_zero, one_mul]

end Expr

/-! ### The expression of a sentence -/

variable {γ α : Type}

/-- The number of `-` among signs. -/
def minuses (signs : List (Mark γ)) : Nat :=
  signs.countP Mark.negative

mutual

/-- The expression of an atom behind a run of signs with so many `-` among them. -/
def Atom.expr (m : Nat) : Atom γ α → Expr α
  | .word _ a => .leaf m a
  | .group _ x _ => .group m x.expr

/-- The expression that a sentence is read as. -/
def Sentence.expr : Sentence γ α → Expr α
  | .operand signs a => a.expr (minuses signs)
  | .binary x _ o signs a => .attach o (a.expr (minuses signs)) x.expr

end

/-- The token of a word whose value is known. -/
def Token.numberOf (f : α → Int) (a : α) : Token :=
  .number (f a)

/-- The value of a word, if it has one. -/
def Word.value? (store : Store) : Word → Option Int
  | .numeral s _ => some (Decimal.denoted s)
  | .name s _ => store.get? s

/-- The value of a word, names without a value counting as zero. -/
def Word.valueIn (store : Store) (w : Word) : Int :=
  (w.value? store).getD 0

/-- The word that a unit is, if it is one. -/
def Lexeme.word? : Lexeme α → Option α
  | .word a => some a
  | _ => none

/-- The words among units, from left to right. -/
def laidWords (l : List (γ × Lexeme α)) : List α :=
  l.filterMap fun p => p.2.word?

theorem laidWords_append (l m : List (γ × Lexeme α)) :
    laidWords (l ++ m) = laidWords l ++ laidWords m :=
  List.filterMap_append

theorem laidWords_signs (signs : List (Mark γ)) :
    laidWords (α := α) (signs.map Mark.laid) = [] := by
  rw [laidWords, List.filterMap_map]
  exact List.filterMap_eq_nil_iff.2 fun m _ => rfl

namespace Sentence

/-- The words of a sentence, from left to right. -/
def words (x : Sentence γ α) : List α :=
  laidWords x.laid

/-- What comes of a sentence: a refusal of the leftmost name without a value, or else the value of
its expression. -/
def outcome (store : Store) (limits : Limits) (x : Sentence γ Word) : Except Refusal Int :=
  match x.words.find? fun w => (w.value? store).isNone with
  | some w => .error (.unknownVariable w.text)
  | none => x.expr.value limits (Word.valueIn store)

end Sentence

mutual

theorem Atom.layered_expr (m k : Nat) : ∀ a : Atom γ α, (a.expr m).Layered k
  | .word _ _ => trivial
  | .group _ x _ => Sentence.layered_expr x

/-- The expression of a sentence is layered. -/
theorem Sentence.layered_expr : ∀ x : Sentence γ α, x.expr.Layered 0
  | .operand _ a => Atom.layered_expr _ _ a
  | .binary x _ _ _ a =>
    Expr.Layered.attach (Atom.layered_expr _ _ a) (Nat.zero_le _) (Sentence.layered_expr x)

end

end Abacus
