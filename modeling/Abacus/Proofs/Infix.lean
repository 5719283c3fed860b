import Abacus.Proofs.Postorder

/-!
# Trees in infix notation

A tree of operations can be written down in infix notation in many ways, for brackets may stand
around any part of it; some must. What a list of tokens spells is told by the usual grammar, in
which every operator associates to the left, the power included:

  sum = product | sum ('+' | '-') product,  product = power | product ('*' | '/') power,
  power = atom | power '^' atom,  atom = number | '(' sum ')'.

- `Phrase`, `Tree.Spelled`: the grammar, every phrase with the tree that it spells.
- `Tree.exists_spelled`: every tree can be spelled.
- `Tree.Spelled.read`: a phrase is the tokens of a layered expression, whose conversion is known
  already (`Token.toPostfix_resolved`).
- `Token.toPostfix_spelled`: the conversion brings every spelling of a tree to its postorder, and so
  there is no doubt about the tree.
-/

namespace Abacus

/-! ### The grammar -/

/-- The kinds of phrases, from the one that binds the loosest to the one that binds the tightest. -/
inductive Phrase where
  | sum
  | product
  | power
  | atom

/-- Whether tokens are a phrase of a kind and spell a tree. -/
inductive Tree.Spelled : Phrase → Tree → List Token → Prop where
  | number (n : Int) : Spelled .atom (.number n) [.number n]
  | brackets {t : Tree} {ts : List Token} (inside : Spelled .sum t ts) :
      Spelled .atom t (.opening :: (ts ++ [.closing]))
  | base {t : Tree} {ts : List Token} (atom : Spelled .atom t ts) : Spelled .power t ts
  | power {l r : Tree} {ls rs : List Token} (left : Spelled .power l ls)
      (right : Spelled .atom r rs) :
      Spelled .power (.operation .power l r) (ls ++ .op .power :: rs)
  | factor {t : Tree} {ts : List Token} (power : Spelled .power t ts) : Spelled .product t ts
  | product {o : Operator} {l r : Tree} {ls rs : List Token} (multiplies : o = .times ∨ o = .over)
      (left : Spelled .product l ls) (right : Spelled .power r rs) :
      Spelled .product (.operation o l r) (ls ++ .op o :: rs)
  | summand {t : Tree} {ts : List Token} (product : Spelled .product t ts) : Spelled .sum t ts
  | sum {o : Operator} {l r : Tree} {ls rs : List Token} (adds : o = .plus ∨ o = .minus)
      (left : Spelled .sum l ls) (right : Spelled .product r rs) :
      Spelled .sum (.operation o l r) (ls ++ .op o :: rs)

namespace Tree

/-- A phrase that binds tightly may stand where a looser one is due. -/
theorem Spelled.of_atom {t : Tree} {ts : List Token} (h : Spelled .atom t ts) :
    Spelled .sum t ts :=
  .summand (.factor (.base h))

/-- Every tree can be spelled: with brackets around it, if need be. -/
theorem exists_spelled (t : Tree) : ∃ ts, Spelled .atom t ts := by
  induction t with
  | number n => exact ⟨_, .number n⟩
  | operation o l r ihl ihr =>
    obtain ⟨ls, left⟩ := ihl
    obtain ⟨rs, right⟩ := ihr
    refine ⟨.opening :: ((ls ++ .op o :: rs) ++ [.closing]), .brackets ?_⟩
    cases o with
    | plus => exact .sum (.inl rfl) left.of_atom (.factor (.base right))
    | minus => exact .sum (.inr rfl) left.of_atom (.factor (.base right))
    | times => exact .summand (.product (.inl rfl) (.factor (.base left)) (.base right))
    | «over» => exact .summand (.product (.inr rfl) (.factor (.base left)) (.base right))
    | power => exact .summand (.factor (.power (.base left) right))

end Tree

/-! ### Phrases as expressions -/

/-- An expression whose operators bind tightly binds loosely as well. -/
theorem Expr.Layered.mono {α : Type} {e : Expr α} {j k : Nat} (le : j ≤ k) (h : e.Layered k) :
    e.Layered j := by
  cases e with
  | leaf m a => trivial
  | group m e => exact h
  | binary o l r => exact ⟨Nat.le_trans le h.1, h.2⟩

/-- The level that the operators of a phrase have at least, those in brackets aside. -/
def Phrase.level : Phrase → Nat
  | .sum => 1
  | .product => 2
  | .power => 3
  | .atom => 4

namespace Tree

/-- Whether tokens are those of an expression that binds with a level and has the postorder of a
tree for its postfix form. -/
def Read (k : Nat) (t : Tree) (ts : List Token) : Prop :=
  ∃ e : Expr Int, e.Layered k ∧ e.resolved id = ts ∧ e.postfixed id = t.postorder

theorem Read.mono {j k : Nat} {t : Tree} {ts : List Token} (le : j ≤ k) (h : Read k t ts) :
    Read j t ts := by
  obtain ⟨e, layered, tokens⟩ := h
  exact ⟨e, layered.mono le, tokens⟩

theorem Read.number (k : Nat) (n : Int) : Read k (.number n) [.number n] := by
  refine ⟨.leaf 0 n, trivial, ?_, ?_⟩
  · rw [Expr.resolved, pow_zero, one_mul]
    rfl
  · rw [Expr.postfixed, pow_zero, one_mul]
    rfl

theorem Read.brackets {t : Tree} {ts : List Token} (h : Read 0 t ts) (k : Nat) :
    Read k t (.opening :: (ts ++ [.closing])) := by
  obtain ⟨e, layered, rfl, same⟩ := h
  exact ⟨.group 0 e, layered, rfl, same⟩

/-- The left operand may be an operation of the same level, the right one may not. -/
theorem Read.operation {o : Operator} {k : Nat} {l r : Tree} {ls rs : List Token}
    (level : o.level = k) (left : Read k l ls) (right : Read (k + 1) r rs) :
    Read k (.operation o l r) (ls ++ .op o :: rs) := by
  subst level
  obtain ⟨e, layered, rfl, same⟩ := left
  obtain ⟨e', layered', rfl, same'⟩ := right
  refine ⟨.binary o e e', ⟨Nat.le_refl _, layered, layered'⟩, rfl, ?_⟩
  rw [Expr.postfixed, same, same']
  rfl

/-- A phrase is the tokens of an expression that binds as the phrase does. -/
theorem Spelled.read {p : Phrase} {t : Tree} {ts : List Token} (h : Spelled p t ts) :
    Read p.level t ts := by
  induction h with
  | number n => exact .number _ n
  | brackets _ ih => exact (ih.mono (Nat.zero_le _)).brackets _
  | base _ ih => exact ih.mono (by decide)
  | power _ _ left right => exact .operation rfl left right
  | factor _ ih => exact ih.mono (by decide)
  | product multiplies _ _ left right =>
    rcases multiplies with rfl | rfl
    · exact .operation rfl left right
    · exact .operation rfl left right
  | summand _ ih => exact ih.mono (by decide)
  | sum adds _ _ left right =>
    rcases adds with rfl | rfl
    · exact .operation rfl left right
    · exact .operation rfl left right

end Tree

/-! ### The conversion -/

namespace Token

open Abacus.Tree

theorem toPostfix_of_read {t : Tree} {ts : List Token} (h : Read 0 t ts) :
    toPostfix ts = .ok t.postorder := by
  obtain ⟨e, layered, rfl, same⟩ := h
  rw [toPostfix_resolved id layered, same]

/-- Tokens spell one tree at most, for they have one postfix form. -/
theorem eq_of_spelled {t t' : Tree} {ts : List Token} (h : Spelled .sum t ts)
    (h' : Spelled .sum t' ts) : t' = t := by
  have converted := toPostfix_of_read (h.read.mono (Nat.zero_le _))
  rw [toPostfix_of_read (h'.read.mono (Nat.zero_le _))] at converted
  exact postorder_injective (Except.ok.inj converted)

/-- **Conversion to postorder**. Every tree can be spelled in infix notation. However it is spelled,
with whatever brackets more than it needs, the conversion gives its postorder, and the tokens spell
no other tree. -/
theorem toPostfix_spelled (t : Tree) :
    (∃ ts, Spelled .sum t ts) ∧
      ∀ ts, Spelled .sum t ts →
        toPostfix ts = .ok t.postorder ∧ ∀ t', Spelled .sum t' ts → t' = t := by
  constructor
  · obtain ⟨ts, atom⟩ := t.exists_spelled
    exact ⟨ts, atom.of_atom⟩
  · intro ts spelled
    constructor
    · exact toPostfix_of_read (spelled.read.mono (Nat.zero_le _))
    · intro t' spelled'
      exact eq_of_spelled spelled spelled'

/-- `2 ^ 3 ^ 2 - ((-4)) * 5`, with two pairs of brackets more than it needs. -/
theorem toPostfix_spelled_brackets :
    let t : Tree := .operation .minus
      (.operation .power (.operation .power (.number 2) (.number 3)) (.number 2))
      (.operation .times (.number (-4)) (.number 5))
    let ts : List Token :=
      [.number 2, .op .power, .number 3, .op .power, .number 2, .op .minus, .opening, .opening,
        .number (-4), .closing, .closing, .op .times, .number 5]
    Spelled .sum t ts ∧
      toPostfix ts = .ok [.number 2, .number 3, .op .power, .number 2, .op .power, .number (-4),
        .number 5, .op .times, .op .minus] ∧
      ∀ t', Spelled .sum t' ts → t' = t := by
  intro t ts
  have four : Spelled .atom (.number (-4)) [.opening, .opening, .number (-4), .closing, .closing] :=
    .brackets (.of_atom (.brackets (.of_atom (.number (-4)))))
  have powers : Spelled .power
      (.operation .power (.operation .power (.number 2) (.number 3)) (.number 2))
      [.number 2, .op .power, .number 3, .op .power, .number 2] :=
    .power (.power (.base (.number 2)) (.number 3)) (.number 2)
  have spelled : Spelled .sum t ts :=
    .sum (.inr rfl) (.summand (.factor powers))
      (.product (.inl rfl) (.factor (.base four)) (.base (.number 5)))
  exact ⟨spelled, (toPostfix_spelled t).2 ts spelled⟩

end Token

end Abacus
