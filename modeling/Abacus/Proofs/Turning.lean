import Abacus.Proofs.Expression
import Abacus.Proofs.Writing

/-!
# Operators that folding turns

Folding does not know which sign of a run is an operator. Where an odd number of `-` touches a
binary `-`, it is folded into a `+`, and the operand behind it keeps as many signs less. That the
outcome is the same, in spite of this, has two reasons: `a - b` is `a + (-b)`, and the sign of an
operand passes through the products and quotients that the operand starts. It does not pass through
a power, so `5--2^2` and `5- -2^2` differ.

- `Sentence.turns`: the last operator of a sentence is turned.
- `Sentence.SameTurns`: two ways of writing turn the same operators in front of powers.
- `Sentence.Refolds`: what folding may make of a sentence.
- `Expr.Alike`: expressions that differ by turned operators only. `Alike.attach` says that one more
  operator keeps them alike, unless it is a power and would take a turned operand as its base;
  `Alike.value` says that their values agree up to sign.
- `Sentence.outcome_eq`: foldings with the same turns in front of powers have the same outcome.
-/

namespace Abacus

/-! ### Turned operators -/

section Turns

variable {γ α : Type}

/-- How many `-` of a run of signs touch each other and what is in front of the run. -/
def adjoining (g : γ → Gap) (signs : List (Mark γ)) : Nat :=
  (signs.takeWhile fun m => m.negative && (g m.gap).text.isEmpty).length

theorem adjoining_cons (g : γ → Gap) (m : Mark γ) (signs : List (Mark γ)) :
    adjoining g (m :: signs)
      = if m.negative && (g m.gap).text.isEmpty then adjoining g signs + 1 else 0 := by
  rw [adjoining, List.takeWhile_cons]
  split <;> rfl

/-- Whether the last operator of a sentence is a minus that folding turns into a plus. -/
def Sentence.turns (g : γ → Gap) : Sentence γ α → Bool
  | .operand _ _ => false
  | .binary _ _ o signs _ => o == .minus && adjoining g signs % 2 == 1

mutual

/-- The condition of `Sentence.SameTurns` inside an atom. -/
def Atom.SameTurns (g h : γ → Gap) : Atom γ α → Prop
  | .word _ _ => True
  | .group _ x _ => x.SameTurns g h

/-- Whether the operators in front of the bases of powers are turned in both ways of writing or in
none. -/
def Sentence.SameTurns (g h : γ → Gap) : Sentence γ α → Prop
  | .operand _ a => a.SameTurns g h
  | .binary x _ o _ a =>
    x.SameTurns g h ∧ a.SameTurns g h ∧ (o = .power → x.turns g = x.turns h)

end

mutual

/-- What folding may make of an atom. -/
def Atom.Refolds (g : γ → Gap) : Atom γ α → Atom Gap α → Prop
  | .word _ a, .word _ b => a = b
  | .group _ x _, .group _ y _ => x.Refolds g y
  | _, _ => False

/-- What folding may make of a sentence: the words and brackets stay, every run of signs keeps its
parity, and an operator that is turned gives a sign away. -/
def Sentence.Refolds (g : γ → Gap) : Sentence γ α → Sentence Gap α → Prop
  | .operand signs a, .operand signs' b =>
    minuses signs' % 2 = minuses signs % 2 ∧ a.Refolds g b
  | .binary x c o signs a, .binary y _ p signs' b =>
    let turned := (Sentence.binary x c o signs a).turns g
    x.Refolds g y ∧ a.Refolds g b ∧ p = (if turned then .plus else o) ∧
      minuses signs' % 2 = (minuses signs + turned.toNat) % 2
  | _, _ => False

end

mutual

theorem Atom.sameTurns_of_unraised {g h : γ → Gap} :
    ∀ {a : Atom γ α}, (∀ u ∈ a.laid, u.2 ≠ .op .power) → a.SameTurns g h
  | .word _ _, _ => trivial
  | .group _ x _, unraised =>
    Sentence.sameTurns_of_unraised (x := x) fun u hu =>
      unraised u (List.mem_cons_of_mem _ (List.mem_append_left _ hu))

/-- A sentence without powers has none in front of which an operator could be turned. -/
theorem Sentence.sameTurns_of_unraised {g h : γ → Gap} :
    ∀ {x : Sentence γ α}, (∀ u ∈ x.laid, u.2 ≠ .op .power) → x.SameTurns g h
  | .operand _ a, unraised =>
    Atom.sameTurns_of_unraised (a := a) fun u hu => unraised u (List.mem_append_right _ hu)
  | .binary x k o signs a, unraised => by
    have here : (k, Lexeme.op o) ∈ (Sentence.binary x k o signs a).laid := by
      rw [Sentence.laid]
      exact List.mem_append_right _ (List.mem_cons_self ..)
    refine ⟨Sentence.sameTurns_of_unraised fun u hu => ?_, ?_, fun power => ?_⟩
    · exact unraised u (List.mem_append_left _ hu)
    · refine Atom.sameTurns_of_unraised fun u hu => unraised u ?_
      rw [Sentence.laid]
      exact List.mem_append_right _ (List.mem_cons_of_mem _ (List.mem_append_right _ hu))
    · exact absurd (congrArg Lexeme.op power) (unraised _ here)

end

end Turns

/-! ### Expressions that differ by turned operators -/

namespace Expr

variable {α : Type}

/-- `Alike opposite last e e'`: the expressions `e` and `e'` differ by turned operators only, and
`opposite` tells whether they have opposite values; `last` tells this of their last operands. -/
inductive Alike : Bool → Bool → Expr α → Expr α → Prop where
  | leaf {opposite : Bool} {m m' : Nat} (a : α) : m' % 2 = (m + opposite.toNat) % 2 →
      Alike opposite opposite (.leaf m a) (.leaf m' a)
  | group {opposite last : Bool} {m m' : Nat} {e e' : Expr α} :
      m' % 2 = (m + opposite.toNat) % 2 → Alike false last e e' →
        Alike opposite opposite (.group m e) (.group m' e')
  | binary {opposite last last' : Bool} {o : Operator} {l l' r r' : Expr α} :
      (opposite = true → o.level = 2) → Alike opposite last l l' → Alike false last' r r' →
        Alike opposite last' (.binary o l r) (.binary o l' r')
  | turned {last last' : Bool} {o p : Operator} {l l' r r' : Expr α} : o.isSign = true →
      p.isSign = true → o ≠ p → Alike false last l l' → Alike true last' r r' →
        Alike false last' (.binary o l r) (.binary p l' r')

theorem level_of_isSign {o : Operator} (h : o.isSign = true) : o.level = 1 := by
  cases o <;> first | rfl | cases h

theorem one_le_level (o : Operator) : 1 ≤ o.level := by
  cases o <;> decide

/-- An operator of level two is what is left when the power is ruled out. -/
theorem level_eq_two {o : Operator} (power : o ≠ .power) (h : 2 ≤ o.level) : o.level = 2 := by
  cases o <;> simp_all [Operator.level]

/-- An operator that is also a sign takes all in front of it as its left operand. -/
theorem attach_of_isSign {o : Operator} (h : o.isSign = true) (u e : Expr α) :
    attach o u e = .binary o e u := by
  cases e with
  | binary p l r =>
    have loose : ¬ p.level < o.level := by
      have := one_le_level p
      rw [level_of_isSign h]
      omega
    rw [attach, if_neg loose]
  | _ => rfl

/-- One more operator keeps expressions alike, unless it is a power whose base has opposite
values. -/
theorem Alike.attach {o : Operator} {last : Bool} {u u' : Expr α} (hu : Alike false last u u') :
    ∀ {opposite last' : Bool} {e e' : Expr α}, Alike opposite last' e e' →
      (o = .power → last' = false) → (opposite = true → 2 ≤ o.level) →
        Alike opposite last (attach o u e) (attach o u' e') := by
  intro opposite last' e e' he
  induction he with
  | leaf a parity =>
    intro power tight
    refine .binary (fun opp => level_eq_two ?_ (tight opp)) (.leaf a parity) hu
    intro raised
    rw [opp] at power
    cases power raised
  | group parity he _ =>
    intro power tight
    refine .binary (fun opp => level_eq_two ?_ (tight opp)) (.group parity he) hu
    intro raised
    rw [opp] at power
    cases power raised
  | @binary opposite _ _ p l l' r r' level hl hr _ ih =>
    intro power tight
    rw [Expr.attach, Expr.attach]
    by_cases lower : p.level < o.level
    · rw [if_pos lower, if_pos lower]
      exact .binary level hl (ih power fun opp => absurd opp Bool.false_ne_true)
    · rw [if_neg lower, if_neg lower]
      -- opposite values are those of a product or quotient, and `o` binds as tightly as that
      refine .binary (fun opp => ?_) (.binary level hl hr) hu
      have := level opp
      have := tight opp
      omega
  | @turned _ _ p q l l' r r' hp hq ne hl hr _ ih =>
    intro power _
    rw [Expr.attach, Expr.attach, level_of_isSign hp, level_of_isSign hq]
    by_cases lower : 1 < o.level
    · -- the operator goes to the opposite operands, for which it binds tightly enough
      rw [if_pos lower, if_pos lower]
      exact .turned hp hq ne hl (ih power fun _ => lower)
    · rw [if_neg lower, if_neg lower]
      exact .binary (fun opp => absurd opp Bool.false_ne_true) (.turned hp hq ne hl hr) hu

/-- The number, or its opposite. -/
def signedBy (opposite : Bool) (v : Int) : Int :=
  if opposite then -v else v

theorem signed_eq {opposite : Bool} {m m' : Nat} (h : m' % 2 = (m + opposite.toNat) % 2) (v : Int) :
    (-1) ^ m' * v = signedBy opposite ((-1) ^ m * v) := by
  have parity : (-1 : Int) ^ m' = (-1) ^ (m + opposite.toNat) := by
    rw [neg_one_pow_eq_pow_mod_two, h, ← neg_one_pow_eq_pow_mod_two]
  rw [parity, pow_add]
  cases opposite <;> simp [signedBy]

/-- The sign of the left operand passes through a product or a quotient. -/
theorem result_signedBy (limits : Limits) {opposite : Bool} {o : Operator}
    (level : opposite = true → o.level = 2) (a b : Int) :
    o.value limits (signedBy opposite a) b = (o.value limits a b).map (signedBy opposite) := by
  cases opposite with
  | false =>
    show o.value limits a b = (o.value limits a b).map id
    cases o.value limits a b <;> rfl
  | true =>
    match o, level rfl with
    | .times, _ => exact congrArg Except.ok (Int.neg_mul a b)
    | .over, _ =>
      by_cases zero : b = 0
      · simp [Operator.value, Operator.refusal?, Operator.result?, zero, Except.map]
      · simp [Operator.value, Operator.refusal?, Operator.result?, zero, Except.map, signedBy,
          Int.neg_tdiv]

/-- A turned operator has the same result on the opposite of its right operand. -/
theorem result_turned (limits : Limits) {o p : Operator} (ho : o.isSign = true)
    (hp : p.isSign = true) (ne : o ≠ p) (a b : Int) :
    p.value limits a (-b) = o.value limits a b := by
  cases o with
  | plus =>
    cases p with
    | minus => exact congrArg Except.ok (Int.sub_neg a b)
    | plus => exact absurd rfl ne
    | _ => cases hp
  | minus =>
    cases p with
    | plus => exact congrArg Except.ok Int.sub_eq_add_neg.symm
    | minus => exact absurd rfl ne
    | _ => cases hp
  | _ => cases ho

/-- Expressions that are alike have values that agree up to sign, or the same refusal. -/
theorem Alike.value (limits : Limits) (f : α → Int) {opposite last : Bool} {e e' : Expr α}
    (h : Alike opposite last e e') :
    e'.value limits f = (e.value limits f).map (signedBy opposite) := by
  induction h with
  | leaf a parity => exact congrArg Except.ok (signed_eq parity (f a))
  | @group opposite last m m' e e' parity _ ih =>
    rw [Expr.value, Expr.value, ih]
    cases e.value limits f with
    | error refusal => rfl
    | ok v => exact congrArg Except.ok (signed_eq parity v)
  | @binary opposite _ _ o l l' r r' level _ _ ihl ihr =>
    rw [Expr.value, Expr.value, ihl, ihr]
    cases l.value limits f with
    | error refusal => rfl
    | ok a =>
      cases r.value limits f with
      | error refusal => rfl
      | ok b => exact result_signedBy limits level a b
  | @turned _ _ o p l l' r r' ho hp ne _ _ ihl ihr =>
    rw [Expr.value, Expr.value, ihl, ihr]
    cases l.value limits f with
    | error refusal => rfl
    | ok a =>
      cases r.value limits f with
      | error refusal => rfl
      | ok b =>
        show p.value limits a (-b) = (o.value limits a b).map id
        rw [result_turned limits ho hp ne]
        cases o.value limits a b <;> rfl

end Expr

/-! ### Foldings of one sentence -/

section Foldings

variable {γ α : Type}

mutual

theorem Atom.Refolds.words {g : γ → Gap} :
    ∀ {a : Atom γ α} {b : Atom Gap α}, a.Refolds g b → laidWords b.laid = laidWords a.laid
  | .word _ a, .word _ _, h => congrArg (· :: []) (Eq.symm h)
  | .group _ x _, .group _ y _, h => by
    have inner := Sentence.Refolds.words (x := x) (y := y) h
    show laidWords (y.laid ++ [_]) = laidWords (x.laid ++ [_])
    rw [laidWords_append, laidWords_append, inner]
    rfl
  | .word _ _, .group _ _ _, h => h.elim
  | .group _ _ _, .word _ _, h => h.elim

/-- Folding keeps the words. -/
theorem Sentence.Refolds.words {g : γ → Gap} :
    ∀ {x : Sentence γ α} {y : Sentence Gap α}, x.Refolds g y → laidWords y.laid = laidWords x.laid
  | .operand signs a, .operand signs' b, ⟨_, h⟩ => by
    have atoms := Atom.Refolds.words h
    rw [Sentence.laid, Sentence.laid, laidWords_append, laidWords_append, laidWords_signs,
      laidWords_signs, atoms]
  | .binary x c o signs a, .binary y c' p signs' b, ⟨hx, ha, _⟩ => by
    have left := Sentence.Refolds.words hx
    have right := Atom.Refolds.words ha
    rw [Sentence.laid, Sentence.laid, laidWords_append, laidWords_append, left]
    show _ ++ laidWords (signs'.map Mark.laid ++ b.laid)
      = _ ++ laidWords (signs.map Mark.laid ++ a.laid)
    rw [laidWords_append, laidWords_append, laidWords_signs, laidWords_signs, right]
  | .operand _ _, .binary _ _ _ _ _, h => h.elim
  | .binary _ _ _ _ _, .operand _ _, h => h.elim

end

/-- What becomes of an operator in two foldings: the same, and a power only if it was one, or two
different signs. -/
theorem turned_cases {o p q : Operator} {turned turned' : Bool} (minus : turned = true → o = .minus)
    (minus' : turned' = true → o = .minus) (hp : p = if turned then .plus else o)
    (hq : q = if turned' then .plus else o) :
    (turned = turned' ∧ p = q ∧ (p = .power → o = .power)) ∨
      ((turned != turned') = true ∧ p.isSign = true ∧ q.isSign = true ∧ p ≠ q) := by
  cases turned with
  | false =>
    cases turned' with
    | false => exact .inl ⟨rfl, hp.trans hq.symm, fun power => hp.symm.trans power⟩
    | true =>
      obtain rfl := minus' rfl
      rw [hp, hq]
      exact .inr ⟨rfl, rfl, rfl, nofun⟩
  | true =>
    obtain rfl := minus rfl
    cases turned' with
    | false =>
      rw [hp, hq]
      exact .inr ⟨rfl, rfl, rfl, nofun⟩
    | true =>
      rw [hp, hq]
      exact .inl ⟨rfl, rfl, nofun⟩

mutual

/-- Foldings of one atom behind signs whose parities differ as `opposite` tells. -/
theorem Atom.alike {g h : γ → Gap} (opposite : Bool) {m m' : Nat}
    (parity : m' % 2 = (m + opposite.toNat) % 2) :
    ∀ {a : Atom γ α} {b c : Atom Gap α}, a.Refolds g b → a.Refolds h c → a.SameTurns g h →
      Expr.Alike opposite opposite (b.expr m) (c.expr m')
  | .word _ a, .word _ b, .word _ c, hb, hc, _ => by
    obtain rfl : a = b := hb
    obtain rfl : a = c := hc
    exact .leaf a parity
  | .group _ x _, .group _ y _, .group _ z _, hy, hz, same =>
    .group parity (Sentence.alike (x := x) (y := y) (z := z) hy hz same)
  | .word _ _, .group _ _ _, _, hb, _, _ => hb.elim
  | .word _ _, .word _ _, .group _ _ _, _, hc, _ => hc.elim
  | .group _ _ _, .word _ _, _, hb, _, _ => hb.elim
  | .group _ _ _, .group _ _ _, .word _ _, _, hc, _ => hc.elim

/-- **Foldings of one sentence** are read as expressions that are alike, when the same operators are
turned in front of powers; their last operands are opposite when the last operator is turned in one
of them only. -/
theorem Sentence.alike {g h : γ → Gap} :
    ∀ {x : Sentence γ α} {y z : Sentence Gap α}, x.Refolds g y → x.Refolds h z →
      x.SameTurns g h → Expr.Alike false (x.turns g != x.turns h) y.expr z.expr
  | .operand signs a, .operand signs' b, .operand signs'' c, ⟨parity, hb⟩, ⟨parity', hc⟩, same =>
    Atom.alike false (parity'.trans parity.symm) hb hc same
  | .binary x k o signs a, .binary y _ p signs' b, .binary z _ q signs'' c,
      ⟨hy, hb, hp, parity⟩, ⟨hz, hc, hq, parity'⟩, ⟨same, same', power⟩ => by
    have left := Sentence.alike hy hz same
    have minus (g : γ → Gap) (turned : (Sentence.binary x k o signs a).turns g = true) :
        o = .minus := eq_of_beq (Bool.and_eq_true_iff.1 turned).1
    have operators := turned_cases (minus g) (minus h) hp hq
    generalize (Sentence.binary x k o signs a).turns g = turned at *
    generalize (Sentence.binary x k o signs a).turns h = turned' at *
    rcases operators with ⟨rfl, rfl, raised⟩ | ⟨alone, sign, sign', ne⟩
    · have right := Atom.alike false (parity'.trans parity.symm) hb hc same'
      rw [bne_self_eq_false]
      refine Expr.Alike.attach right left ?_ nofun
      intro base
      rw [power (raised base), bne_self_eq_false]
    · -- the one that is turned has given a sign away
      have difference : minuses signs'' % 2 = (minuses signs' + 1) % 2 := by
        cases turned <;> cases turned' <;> simp at alone parity parity' <;> omega
      have right := Atom.alike true difference hb hc same'
      rw [alone, Sentence.expr, Sentence.expr, Expr.attach_of_isSign sign,
        Expr.attach_of_isSign sign']
      exact .turned sign sign' ne left right
  | .operand _ _, .binary _ _ _ _ _, _, hy, _, _ => hy.elim
  | .operand _ _, .operand _ _, .binary _ _ _ _ _, _, hz, _ => hz.elim
  | .binary _ _ _ _ _, .operand _ _, _, hy, _, _ => hy.elim
  | .binary _ _ _ _ _, .binary _ _ _ _ _, .operand _ _, _, hz, _ => hz.elim

end

/-- Foldings of one sentence that turn the same operators in front of powers have the same
outcome. -/
theorem Sentence.outcome_eq (store : Store) (limits : Limits) {g h : γ → Gap}
    {x : Sentence γ Word} {y z : Sentence Gap Word} (hy : x.Refolds g y) (hz : x.Refolds h z)
    (same : x.SameTurns g h) : y.outcome store limits = z.outcome store limits := by
  have words : y.words = z.words := hy.words.trans hz.words.symm
  have value := (Sentence.alike hy hz same).value limits (Word.valueIn store)
  rw [outcome, outcome, words, value]
  cases y.expr.value limits (Word.valueIn store) <;> rfl

end Foldings

end Abacus
