import Abacus.Proofs.Course

/-!
# Limits refuse, and never alter

Limits stand in the way of powers and of nothing else. They can refuse one, but what is not refused
is exact: a value that a line has under some limits is the value of its postfix form in the
integers. So the outcome of a line can change with the limits only where they refuse it; wider
limits leave every other outcome as it is.

- **Exact values** (`Token.Denotes`): what a postfix form stands for, without a stack and without
  limits. A value under any limits is the exact one (`Token.denotes_of_evaluate`).
- **Operators** (`PowerOutcome`, `Operator.Outcome`): all that can come of a power, and of any
  operator.
- **Wider limits** (`Settles`): two runs on the stack agree up to the first refusal by the narrower
  limits, because an outcome that these did not refuse is the same under the wider ones, token after
  token.
- **Lines** (`Store.evaluate_of_wider`): both for a line, with all that it leads to.
-/

namespace Abacus

/-! ### Exact values -/

namespace Token

/-- Whether a postfix form stands for an integer: a number for itself, and two forms with an
operator behind them for the result of the operator. -/
inductive Denotes : List Token → Int → Prop where
  | number (n : Int) : Denotes [.number n] n
  | operation {ps qs : List Token} {a b v : Int} {o : Operator} (left : Denotes ps a)
      (right : Denotes qs b) (result : o.result? a b = some v) : Denotes (ps ++ (qs ++ [.op o])) v

/-- Takes in one token as `push` does, without limits. -/
def pushExact (stack : List Int) : Token → Option (List Int)
  | .number n => some (n :: stack)
  | .op o =>
    match stack with
    | b :: a :: rest => (o.result? a b).map (· :: rest)
    | _ => none
  | _ => none

theorem Denotes.foldlM_pushExact {ps : List Token} {v : Int} (h : Denotes ps v) :
    ∀ stack : List Int, ps.foldlM pushExact stack = some (v :: stack) := by
  induction h with
  | number n => exact fun _ => rfl
  | @operation ps qs a b v o _ _ result ihl ihr =>
    intro stack
    rw [List.foldlM_append, ihl]
    show (qs ++ [Token.op o]).foldlM pushExact (a :: stack) = _
    rw [List.foldlM_append, ihr]
    show ((o.result? a b).map (· :: stack)).bind _ = _
    rw [result]
    rfl

/-- A postfix form stands for one integer at most. -/
theorem Denotes.unique {ps : List Token} {v w : Int} (hv : Denotes ps v) (hw : Denotes ps w) :
    w = v := by
  have both := hw.foldlM_pushExact []
  rw [hv.foldlM_pushExact []] at both
  exact (List.singleton_inj.1 (Option.some.inj both)).symm

/-- What postfix forms that stand one behind the other stand for, the last one first. -/
inductive DenoteAll : List Token → List Int → Prop where
  | nil : DenoteAll [] []
  | cons {ps qs : List Token} {stack : List Int} {v : Int} (below : DenoteAll ps stack)
      (top : Denotes qs v) : DenoteAll (ps ++ qs) (v :: stack)

end Token

/-! ### Operators -/

/-- Whether limits admit a power that has to be computed. -/
structure Limits.Admits (limits : Limits) (base : Int) (n : Nat) : Prop where
  exponent : n ≤ limits.exponentMax.toNat
  bits : 1 < n → powerBits base n ≤ limits.bitsMax.toNat

/-- What can come of a power. -/
inductive PowerOutcome (limits : Limits) (base exponent : Int) : Except Refusal Int → Prop where
  | negative (below : exponent < 0) :
      PowerOutcome limits base exponent (.error (.invalidExponent exponent .negative))
  | value (nonneg : 0 ≤ exponent)
      (admitted : unitPower? base exponent.toNat = none → limits.Admits base exponent.toNat) :
      PowerOutcome limits base exponent (.ok (base ^ exponent.toNat))
  | refused (cause : PowerRefusal) (nonneg : 0 ≤ exponent)
      (computed : unitPower? base exponent.toNat = none)
      (refusal : ¬ limits.Admits base exponent.toNat) :
      PowerOutcome limits base exponent (.error (.invalidExponent exponent cause))

theorem powerOutcome (limits : Limits) (base exponent : Int) :
    PowerOutcome limits base exponent (power limits base exponent) := by
  unfold power
  by_cases below : exponent < 0
  · rw [if_pos below]
    exact .negative below
  have nonneg : 0 ≤ exponent := Int.not_lt.1 below
  rw [if_neg below]
  dsimp only
  split
  · next v unit =>
    rw [← unitPower?_eq unit]
    exact .value nonneg fun computed => by simp [unit] at computed
  next computed =>
  split
  · next above =>
    exact .refused .aboveMax nonneg computed fun admits =>
      absurd admits.exponent (Nat.not_le.2 above)
  next small =>
  split
  · next costly =>
    exact .refused _ nonneg computed fun admits =>
      absurd (admits.bits costly.1) (Nat.not_le.2 costly.2)
  · next cheap =>
    exact .value nonneg fun _ =>
      ⟨Nat.not_lt.1 small, fun more => Nat.not_lt.1 fun excess => cheap ⟨more, excess⟩⟩

/-- Whether an operator can refuse its operands for a cause. -/
def Refusal.OfArithmetic : Refusal → Prop
  | .divisionByZero | .invalidExponent .. => True
  | _ => False

namespace Operator

/-- What can come of an operator. -/
inductive Outcome (limits : Limits) (a b : Int) : Operator → Except Refusal Int → Prop where
  | sum : Outcome limits a b .plus (.ok (a + b))
  | difference : Outcome limits a b .minus (.ok (a - b))
  | product : Outcome limits a b .times (.ok (a * b))
  | quotient (nonzero : b ≠ 0) : Outcome limits a b .over (.ok (a.tdiv b))
  | divisionByZero (zero : b = 0) : Outcome limits a b .over (.error .divisionByZero)
  | power {r : Except Refusal Int} (outcome : PowerOutcome limits a b r) :
      Outcome limits a b .power r

theorem outcome_apply (limits : Limits) (o : Operator) (a b : Int) :
    Outcome limits a b o (o.apply limits a b) := by
  match o with
  | .plus => exact .sum
  | .minus => exact .difference
  | .times => exact .product
  | .over =>
    rw [apply]
    by_cases zero : b = 0
    · rw [if_pos zero]
      exact .divisionByZero zero
    · rw [if_neg zero]
      exact .quotient zero
  | .power => exact .power (powerOutcome limits a b)

theorem ofArithmetic_of_value {limits : Limits} {o : Operator} {a b : Int} {e : Refusal}
    (h : o.value limits a b = .error e) : e.OfArithmetic := by
  rw [value] at h
  split at h <;> cases h <;> trivial

/-- A result under limits is the one in the integers. -/
theorem result?_of_apply {limits : Limits} {o : Operator} {a b v : Int}
    (h : o.apply limits a b = .ok v) : o.result? a b = some v := by
  rw [apply_eq_value, value] at h
  split at h
  · cases h
  · next result =>
    cases h
    exact result
  · cases h

end Operator

namespace Token

/-- **Step**: the stack holds what the forms behind it stand for. -/
theorem DenoteAll.push {limits : Limits} {ps : List Token} {stack stack' : List Int} {t : Token}
    (h : DenoteAll ps stack) (step : push limits stack t = .ok stack') :
    DenoteAll (ps ++ [t]) stack' := by
  obtain ⟨n, rfl, rfl⟩ | ⟨o, a, b, rest, v, rfl, rfl, applied, rfl⟩ := push_cases step
  · exact h.cons (.number n)
  · cases h with
    | cons below right =>
      cases below with
      | cons below left =>
        rw [List.append_assoc, List.append_assoc]
        exact below.cons (.operation left right (Operator.result?_of_apply applied))

/-- **Run**: the same of many tokens. -/
theorem DenoteAll.foldlM_push {limits : Limits} :
    ∀ {ts ps : List Token} {stack stack' : List Int}, DenoteAll ps stack →
      ts.foldlM (Token.push limits) stack = .ok stack' → DenoteAll (ps ++ ts) stack'
  | [], ps, stack, stack', h, run => by
    cases run
    rwa [List.append_nil]
  | t :: ts, ps, stack, stack', h, run => by
    obtain ⟨next, step, later⟩ := bind_eq_ok_iff.1 run
    have all := (h.push step).foldlM_push later
    rwa [List.append_assoc] at all

theorem DenoteAll.denotes {ps : List Token} {v : Int} (h : DenoteAll ps [v]) : Denotes ps v := by
  cases h with
  | cons below top =>
    cases below
    exact top

/-- **Exactness**: the value of a postfix form under any limits is what it stands for. -/
theorem denotes_of_evaluate {limits : Limits} {ps : List Token} {v : Int}
    (h : evaluate limits ps = .ok v) : Denotes ps v := by
  rw [evaluate] at h
  split at h
  · next w run =>
    cases h
    exact (DenoteAll.nil.foldlM_push run).denotes
  · cases h
  · cases h

end Token

/-! ### Wider limits -/

/-- Whether limits allow no more than others. -/
structure Limits.Within (l l' : Limits) : Prop where
  exponent : l.exponentMax ≤ l'.exponentMax
  bits : l.bitsMax ≤ l'.bitsMax

theorem Limits.Admits.widen {l l' : Limits} (wider : l.Within l') {base : Int} {n : Nat}
    (h : l.Admits base n) : l'.Admits base n where
  exponent := Nat.le_trans h.exponent (UInt32.le_iff_toNat_le.1 wider.exponent)
  bits more := Nat.le_trans (h.bits more) (UInt64.le_iff_toNat_le.1 wider.bits)

/-- Whether `y` is what `x` is, unless `x` is a refusal by limits. -/
def Settles {α : Type} (x y : Except Refusal α) : Prop :=
  (∀ e, x = .error e → ¬ e.ByLimits) → y = x

theorem Settles.refl {α : Type} (x : Except Refusal α) : Settles x x :=
  fun _ => rfl

/-- What comes after something settled is settled when every continuation is. -/
theorem Settles.bind {α β : Type} {x y : Except Refusal α} {f g : α → Except Refusal β}
    (h : Settles x y) (rest : ∀ a, Settles (f a) (g a)) : Settles (x.bind f) (y.bind g) := by
  intro settled
  cases x with
  | error e =>
    rw [h fun e' he => settled e' (congrArg (Except.bind · f) he)]
    rfl
  | ok a =>
    rw [h nofun]
    exact rest a settled

section Wider

variable {l l' : Limits} (wider : l.Within l')
include wider

theorem settles_power (base exponent : Int) :
    Settles (power l base exponent) (power l' base exponent) := by
  intro settled
  have narrow := powerOutcome l base exponent
  have wide := powerOutcome l' base exponent
  generalize power l base exponent = x at narrow settled
  generalize power l' base exponent = y at wide
  cases narrow with
  | refused cause nonneg _ _ => exact absurd nonneg (settled _ rfl)
  | negative below =>
    cases wide with
    | negative _ => rfl
    | value nonneg _ => omega
    | refused _ nonneg _ _ => omega
  | value nonneg admitted =>
    -- what the narrower limits admitted the wider ones admit
    cases wide with
    | negative below => omega
    | value _ _ => rfl
    | refused _ _ computed refusal => exact absurd ((admitted computed).widen wider) refusal

theorem settles_apply (o : Operator) (a b : Int) : Settles (o.apply l a b) (o.apply l' a b) := by
  cases o with
  | power => exact settles_power wider a b
  | _ => exact .refl _

/-- **Step**: two runs with the same stack have the same stack after one more token. -/
theorem settles_push (stack : List Int) (t : Token) :
    Settles (Token.push l stack t) (Token.push l' stack t) := by
  cases t with
  | op o =>
    match stack with
    | b :: a :: rest => exact (settles_apply wider o a b).bind fun v => .refl (.ok (v :: rest))
    | [_] => exact .refl _
    | [] => exact .refl _
  | _ => exact .refl _

/-- **Run**: the same of many tokens. -/
theorem settles_foldlM_push :
    ∀ (ts : List Token) (stack : List Int),
      Settles (ts.foldlM (Token.push l) stack) (ts.foldlM (Token.push l') stack)
  | [], _ => .refl _
  | t :: ts, stack => (settles_push wider stack t).bind fun next => settles_foldlM_push ts next

theorem settles_evaluate (ts : List Token) :
    Settles (Token.evaluate l ts) (Token.evaluate l' ts) := by
  have run := settles_foldlM_push wider ts []
  intro settled
  rw [Token.evaluate] at settled ⊢
  have same : ts.foldlM (Token.push l') [] = ts.foldlM (Token.push l) [] := by
    refine run fun e refused => settled e ?_
    rw [refused]
  rw [same, Token.evaluate]

end Wider

/-! ### Lines -/

namespace Store

/-- **Monotonicity**: what narrower limits do not refuse, wider ones do not change. -/
theorem Course.settles {store : Store} {line : Text} {evaluation : Limits → Evaluation}
    (h : Course store line evaluation) {l l' : Limits} (wider : l.Within l')
    (settled : ∀ e, (evaluation l).outcome = .error e → ¬ e.ByLimits) :
    evaluation l' = evaluation l := by
  cases h with
  | @staged text resolved postfixed _ _ _ =>
    have same : Token.evaluate l' postfixed = Token.evaluate l postfixed := by
      refine settles_evaluate wider postfixed fun e refused => settled e ?_
      show (calculated text resolved postfixed l).outcome = _
      rw [calculated, refused]
      rfl
    dsimp only
    rw [calculated, calculated, same]
  | _ => rfl

/-- The value of a line that goes through every stage is the value of its postfix form. -/
theorem Course.evaluated {store : Store} {line : Text} {evaluation : Limits → Evaluation}
    (h : Course store line evaluation) {limits : Limits} {answer : Answer} {v : Int} {text : Text}
    {tokens resolved postfixed : List Token} (answered : (evaluation limits).outcome = .ok answer)
    (value : answer.value? = some v)
    (stages : answer.derivation = .stages text tokens resolved postfixed) :
    Token.evaluate limits postfixed = .ok v := by
  cases h with
  | staged _ _ _ =>
    dsimp only [calculated, Report.outcome_after] at answered
    split at answered
    · cases answered
    · next w evaluated =>
      cases answered
      cases value
      cases stages
      exact evaluated
  | refused => cases answered
  | _ =>
    cases answered
    cases stages

/-- **Exactness**: the value of a line that goes through every stage is what its postfix form stands
for. -/
theorem Course.denotes {store : Store} {line : Text} {evaluation : Limits → Evaluation}
    (h : Course store line evaluation) {limits : Limits} {answer : Answer} {v : Int} {text : Text}
    {tokens resolved postfixed : List Token} (answered : (evaluation limits).outcome = .ok answer)
    (value : answer.value? = some v)
    (stages : answer.derivation = .stages text tokens resolved postfixed) :
    Token.Denotes postfixed v :=
  Token.denotes_of_evaluate (h.evaluated answered value stages)

/-- **Limits refuse, and never alter**. A line that narrower limits do not refuse has the same
report under wider ones, and leaves the same store behind. Under any limits, the value of a line
that goes through every stage is the one integer that its postfix form stands for. -/
theorem evaluate_of_wider (store : Store) (line : Text) :
    (∀ l l' : Limits, l.exponentMax ≤ l'.exponentMax → l.bitsMax ≤ l'.bitsMax →
        (∀ exponent cause, 0 ≤ exponent →
          (store.evaluate l line).outcome ≠ .error (.invalidExponent exponent cause)) →
        store.evaluate l' line = store.evaluate l line ∧
          store.after l' line = store.after l line) ∧
      ∀ (limits : Limits) (answer : Answer) (v : Int) (text : Text)
        (tokens resolved postfixed : List Token),
        (store.evaluate limits line).outcome = .ok answer → answer.value? = some v →
        answer.derivation = .stages text tokens resolved postfixed →
        ∀ w, Token.Denotes postfixed w ↔ w = v := by
  obtain ⟨evaluation, course, same⟩ := store.exists_course line
  constructor
  · intro l l' exponent bits unrefused
    have settled : ∀ e, (evaluation l).outcome = .error e → ¬ e.ByLimits := by
      intro e refused byLimits
      rw [← same] at refused
      cases e with
      | invalidExponent exponent cause => exact unrefused exponent cause byLimits refused
      | _ => exact byLimits
    have unchanged : store.evaluate l' line = store.evaluate l line := by
      rw [same, same, course.settles ⟨exponent, bits⟩ settled]
    exact ⟨unchanged, congrArg Evaluation.store unchanged⟩
  · intro limits answer v text tokens resolved postfixed answered value stages w
    rw [same] at answered
    have denotes := course.denotes answered value stages
    constructor
    · exact denotes.unique
    · rintro rfl
      exact denotes

/-- A power of a power, within sixteen bits and under the standard limits. -/
theorem evaluate_of_wider_tower :
    (let narrow : Limits := ⟨5, 16⟩
     let answer : Answer :=
      ⟨some 4097, .stages "2 ^ 3 ^ 4 + 1".toList
        [.number 2, .op .power, .number 3, .op .power, .number 4, .op .plus, .number 1]
        [.number 2, .op .power, .number 3, .op .power, .number 4, .op .plus, .number 1]
        [.number 2, .number 3, .op .power, .number 4, .op .power, .number 1, .op .plus]⟩
     (empty.evaluate narrow "2^3^4+1".toList).outcome = .ok answer ∧
      empty.after narrow "2^3^4+1".toList = empty ∧
      (empty.evaluate .standard "2^3^4+1".toList = empty.evaluate narrow "2^3^4+1".toList ∧
        empty.after .standard "2^3^4+1".toList = empty.after narrow "2^3^4+1".toList) ∧
      ∀ w, Token.Denotes
        [.number 2, .number 3, .op .power, .number 4, .op .power, .number 1, .op .plus] w
          ↔ w = 4097) := by
  have answered : (empty.evaluate ⟨5, 16⟩ "2^3^4+1".toList).outcome = .ok _ := rfl
  refine ⟨answered, rfl, (evaluate_of_wider _ _).1 _ _ (by decide) (by decide) ?_,
    (evaluate_of_wider _ _).2 _ _ _ _ _ _ _ answered rfl rfl⟩
  intro exponent cause _ refused
  rw [answered] at refused
  cases refused

end Store

end Abacus
