import Abacus.Proofs.Calculation

/-!
# Sentences without signs

The tokens that are left of a sentence when names have given way to their values and signs are
worked off form a sentence again, one without signs and names, and it means what the sentence
meant. What became of a sign has to be told from where it stood: it went into the number behind it,
or into a product of its own around a bracket.

- `Quantity`: the words among tokens, numbers of either sign and names.
- `Sentence.SignFree`: no operand has a sign in front of it.
- `Sentence.unsigned`: the sentence that is left of one (`Sentence.tokens_unsigned`).
- `Expr.value_eq_of_resolved_eq`: the tokens of an expression leave no doubt about its value.
- `Store.resolve_sentence`: what is made of the tokens of a sentence is a sentence without signs,
  and however it is read it has the value of the first.
-/

namespace Abacus

/-! ### Quantities -/

/-- A token that stands for a number by itself. -/
inductive Quantity where
  | number (n : Int)
  | name (s : Text)
  deriving DecidableEq, Repr

namespace Quantity

/-- The token of a quantity. -/
def token : Quantity → Token
  | .number n => .number n
  | .name s => .name s

/-- The value of a quantity, if it has one. -/
def value? (store : Store) : Quantity → Option Int
  | .number n => some n
  | .name s => store.get? s

/-- The value of a quantity, names without a value counting as zero. -/
def valueIn (store : Store) (q : Quantity) : Int :=
  (q.value? store).getD 0

theorem isUnbound_token (store : Store) (q : Quantity) :
    store.isUnbound q.token = (q.value? store).isNone := by
  cases q <;> rfl

theorem valued_token (store : Store) (q : Quantity) :
    store.valued q.token = .number (q.valueIn store) := by
  cases q <;> rfl

end Quantity

/-- The tokens of a sentence are resolved where its names have values. -/
theorem Store.resolve_tokens {γ : Type} (store : Store) {x : Sentence γ Quantity}
    (bound : ∀ s, .name s ∈ x.words → (store.get? s).isSome = true) :
    store.resolve (x.tokens Quantity.token)
      = .ok (x.expr.resolved (Quantity.valueIn store)) := by
  have named (q : Quantity) (inside : q ∈ x.words) : ¬(q.value? store).isNone = true := by
    cases q with
    | number n => exact Bool.false_ne_true
    | name s =>
      intro unbound
      have absent : store.get? s = none := Option.isNone_iff_eq_none.1 unbound
      have present := bound s inside
      rw [absent] at present
      cases present
  refine store.resolve_eq_ok_iff.2 ⟨?_, ?_⟩
  · rw [Sentence.tokens, store.find?_isUnbound (Quantity.isUnbound_token store), ← Sentence.words,
      List.find?_eq_none.2 named]
    rfl
  · rw [store.map_valued (Quantity.valued_token store), Token.resolveSigns_tokens]

/-! ### Sentences without signs -/

variable {γ α : Type}

mutual

/-- Whether no operand inside an atom has a sign in front of it. -/
def Atom.SignFree : Atom γ α → Prop
  | .word _ _ => True
  | .group _ x _ => x.SignFree

/-- Whether no operand has a sign in front of it. -/
def Sentence.SignFree : Sentence γ α → Prop
  | .operand signs a => signs = [] ∧ a.SignFree
  | .binary x _ _ signs a => x.SignFree ∧ signs = [] ∧ a.SignFree

end

section Reading

variable (f : α → Int)

mutual

theorem Atom.resolved_of_signFree :
    ∀ {a : Atom γ α}, a.SignFree → (a.expr 0).resolved f = laidTokens (Token.numberOf f) a.laid
  | .word _ a, _ => by
    show [Token.number ((-1) ^ 0 * f a)] = [.number (f a)]
    rw [pow_zero, one_mul]
  | .group _ x _, free => by
    show Token.opening :: (x.expr.resolved f ++ [.closing]) = _
    rw [Sentence.resolved_of_signFree free, Atom.laid, laidTokens_cons, laidTokens_append]
    rfl

/-- A sentence without signs is read as an expression with the same tokens. -/
theorem Sentence.resolved_of_signFree :
    ∀ {x : Sentence γ α}, x.SignFree → x.expr.resolved f = laidTokens (Token.numberOf f) x.laid
  | .operand _ a, ⟨bare, free⟩ => by
    subst bare
    exact Atom.resolved_of_signFree free
  | .binary x _ o _ a, ⟨left, bare, free⟩ => by
    subst bare
    show (Expr.attach o (a.expr 0) x.expr).resolved f = _
    rw [Expr.resolved_attach, Sentence.resolved_of_signFree left, Atom.resolved_of_signFree free,
      Sentence.laid, laidTokens_append]
    rfl

end

/-! ### What is left of a sentence -/

mutual

/-- What is left of an atom behind a run of signs with so many `-` among them. -/
def Atom.unsigned (m : Nat) : Atom γ α → Atom Unit Int
  | .word _ a => .word () ((-1) ^ m * f a)
  | .group _ x _ =>
    if m % 2 = 1 then
      .group () (.binary (.operand [] (.word () (-1))) () .times [] (.group () x.unsigned ())) ()
    else .group () x.unsigned ()

/-- What is left of a sentence with its signs worked off, when `f` gives the values of its words. -/
def Sentence.unsigned : Sentence γ α → Sentence Unit Int
  | .operand signs a => .operand [] (a.unsigned (minuses signs))
  | .binary x _ o signs a => .binary x.unsigned () o [] (a.unsigned (minuses signs))

end

mutual

theorem Atom.signFree_unsigned (m : Nat) : ∀ a : Atom γ α, (a.unsigned f m).SignFree
  | .word _ _ => trivial
  | .group _ x _ => by
    have inner : (x.unsigned f).SignFree := Sentence.signFree_unsigned x
    rw [Atom.unsigned]
    split
    · exact ⟨⟨rfl, trivial⟩, rfl, inner⟩
    · exact inner

theorem Sentence.signFree_unsigned : ∀ x : Sentence γ α, (x.unsigned f).SignFree
  | .operand _ a => ⟨rfl, Atom.signFree_unsigned _ a⟩
  | .binary x _ _ _ a => ⟨Sentence.signFree_unsigned x, rfl, Atom.signFree_unsigned _ a⟩

end

mutual

theorem Atom.tokens_unsigned (m : Nat) :
    ∀ a : Atom γ α, laidTokens Token.number (a.unsigned f m).laid = (a.expr m).resolved f
  | .word _ _ => rfl
  | .group g x g' => by
    have inner : laidTokens Token.number (x.unsigned f).laid = x.expr.resolved f :=
      Sentence.tokens_unsigned x
    show _ = (Expr.group m x.expr).resolved f
    rw [Atom.unsigned, Expr.resolved, ← inner]
    split
    · simp [Atom.laid, Sentence.laid, Lexeme.token]
    · simp [Atom.laid, Lexeme.token]

/-- What is left of a sentence has the tokens of the expression that it is read as. -/
theorem Sentence.tokens_unsigned :
    ∀ x : Sentence γ α, (x.unsigned f).tokens Token.number = x.expr.resolved f
  | .operand _ a => Atom.tokens_unsigned _ a
  | .binary x _ o signs a => by
    have left : laidTokens Token.number (x.unsigned f).laid = x.expr.resolved f :=
      Sentence.tokens_unsigned x
    have right := Atom.tokens_unsigned (minuses signs) a
    show laidTokens Token.number ((x.unsigned f).laid ++
      ((), .op o) :: (a.unsigned f (minuses signs)).laid) = _
    rw [laidTokens_append, laidTokens_cons, left, right, Sentence.expr, Expr.resolved_attach]
    rfl

end

/-- With its signs worked off a sentence has no more signs to work off. -/
theorem Token.resolveSigns_resolved (x : Sentence γ α) :
    resolveSigns (x.expr.resolved f) = x.expr.resolved f := by
  rw [← x.tokens_unsigned f]
  calc resolveSigns ((x.unsigned f).tokens (numberOf id))
    _ = (x.unsigned f).expr.resolved id := resolveSigns_tokens id _
    _ = (x.unsigned f).tokens (numberOf id) :=
      Sentence.resolved_of_signFree id (x.signFree_unsigned f)

end Reading

/-! ### Meaning -/

/-- The tokens of an expression leave no doubt about its value: they have one postfix form. -/
theorem Expr.value_eq_of_resolved_eq {β : Type} {e : Expr α} {e' : Expr β} {f : α → Int}
    {g : β → Int} (layered : e.Layered 0) (layered' : e'.Layered 0)
    (same : e.resolved f = e'.resolved g) (limits : Limits) :
    e.value limits f = e'.value limits g := by
  have postfixed : e.postfixed f = e'.postfixed g := by
    have converted := Token.toPostfix_resolved f layered
    rw [same, Token.toPostfix_resolved g layered'] at converted
    exact (Except.ok.inj converted).symm
  rw [← Token.evaluate_postfixed, postfixed, Token.evaluate_postfixed]

namespace Store

/-- **Signs keep the meaning**: where its names have values, what is made of the tokens of a
sentence are the tokens of a sentence without signs and names; and any sentence with these tokens
has the value of the first, or its refusal, whatever the limits. -/
theorem resolve_sentence (store : Store) (x : Sentence γ Quantity)
    (bound : ∀ s, .name s ∈ x.words → (store.get? s).isSome = true) :
    ∃ resolved, store.resolve (x.tokens Quantity.token) = .ok resolved ∧
      (∃ y : Sentence Unit Int, y.SignFree ∧ y.tokens .number = resolved) ∧
      ∀ y : Sentence Unit Int, y.tokens .number = resolved → ∀ limits,
        y.expr.value limits id = x.expr.value limits (Quantity.valueIn store) := by
  refine ⟨x.expr.resolved (Quantity.valueIn store), store.resolve_tokens bound,
    ⟨x.unsigned (Quantity.valueIn store), x.signFree_unsigned _, x.tokens_unsigned _⟩, ?_⟩
  intro y spelled limits
  refine Expr.value_eq_of_resolved_eq y.layered_expr x.layered_expr ?_ limits
  have read : Token.resolveSigns (y.tokens .number) = y.expr.resolved id :=
    Token.resolveSigns_tokens id y
  rw [← read, spelled, Token.resolveSigns_resolved]

/-- The tokens of `-(2 ^ -x) ^ --3` where `x` is negative. -/
theorem resolve_sentence_negated :
    let store := empty.bind "x".toList (-2)
    let minus : Mark Unit := ⟨(), true⟩
    let power : Sentence Unit Quantity :=
      .binary (.operand [] (.word () (.number 2))) () .power [minus] (.word () (.name "x".toList))
    let x : Sentence Unit Quantity :=
      .binary (.operand [minus] (.group () power ())) () .power [minus, minus]
        (.word () (.number 3))
    let resolved : List Token :=
      [.opening, .number (-1), .op .times, .opening, .number 2, .op .power, .number 2, .closing,
        .closing, .op .power, .number 3]
    (∀ s, .name s ∈ x.words → (store.get? s).isSome = true) ∧
      store.resolve (x.tokens Quantity.token) = .ok resolved ∧
      ∃ y : Sentence Unit Int, y.SignFree ∧ y.tokens .number = resolved ∧
        y.expr.value .standard id = .ok (-64) := by
  intro store minus power x resolved
  have bound : ∀ s, .name s ∈ x.words → (store.get? s).isSome = true := by
    intro s inside
    have words : x.words = [.number 2, .name "x".toList, .number 3] := rfl
    obtain rfl : s = "x".toList := by simpa [words] using inside
    rfl
  obtain ⟨tokens, resolution, ⟨y, free, spelled⟩, meaning⟩ := store.resolve_sentence x bound
  have evaluated : store.resolve (x.tokens Quantity.token) = .ok resolved := by decide
  obtain rfl : tokens = resolved := Except.ok.inj (resolution.symm.trans evaluated)
  have value : x.expr.value .standard (Quantity.valueIn store) = .ok (-64) := by decide
  exact ⟨bound, resolution, y, free, spelled, (meaning y spelled .standard).trans value⟩

end Store

end Abacus
