import Abacus.Proofs.Line

/-!
# Which lines are accepted

No stage parses a line: brackets are counted, signs are worked off from left to right, the
conversion to postfix form lets operands and operators out of place pass, and the evaluation only
refuses what leaves other than one value on the stack. This module says which lines come through.

- `Token.juxtaposed`: two operands stand side by side, with no operator between them.
- `Signs.net_run_le`: where no operands are juxtaposed, signs leave at most one number more than
  operators, and exactly one more only of ordered tokens. `Signs.room` is how many more there can
  still be; `Signs.Step.net_le` is what one step does to it.
- **Accepted lines**: such a line is a sentence exactly when no operands are juxtaposed in it. The
  others, reverse notation among them, are accepted for their number of operators alone.
-/

namespace Abacus

namespace Token

/-! ### Operands side by side -/

/-- Whether an operand may start with a token. -/
def startsOperand : Token → Bool
  | .number _ | .name _ | .unknown _ | .opening => true
  | .op _ | .closing => false

/-- Whether an operand may end with a token. -/
def endsOperand : Token → Bool
  | .number _ | .name _ | .unknown _ | .closing => true
  | .op _ | .opening => false

/-- Whether two operands stand side by side, when `after` tells whether one has just ended. -/
def juxtaposed (after : Bool) : List Token → Bool
  | [] => false
  | t :: ts => (after && t.startsOperand) || juxtaposed t.endsOperand ts

/-- After a token that may stand where it does, an operand is due unless one has just ended. -/
theorem of_next_eq_some {due due' : Bool} {t : Token} (h : next due t = some due') :
    (!due && t.startsOperand) = false ∧ due' = !t.endsOperand := by
  cases due <;> cases t <;> simp_all [next, startsOperand, endsOperand]

/-- Among ordered tokens no operands are juxtaposed. -/
theorem juxtaposed_of_foldlM_next :
    ∀ {ts : List Token} {due due' : Bool}, ts.foldlM next due = some due' →
      juxtaposed (!due) ts = false
  | [], _, _, _ => rfl
  | t :: ts, due, due', h => by
    obtain ⟨due'', first, rest⟩ := Option.bind_eq_some_iff.1 h
    obtain ⟨apart, rfl⟩ := of_next_eq_some first
    have later := juxtaposed_of_foldlM_next rest
    rw [Bool.not_not] at later
    rw [juxtaposed, apart, later]
    rfl

/-- A token is worth no more than what may come before it less what may come after it, and as much
only where it may stand. -/
theorem weight_le {due : Bool} {t : Token} (apart : (!due && t.startsOperand) = false) :
    t.weight + (if !t.endsOperand then 1 else 0) ≤ (if due then 1 else 0) ∧
      (t.weight + (if !t.endsOperand then 1 else 0) = (if due then 1 else 0) →
        next due t = some (!t.endsOperand)) := by
  cases due <;> cases t <;> simp_all [weight, next, startsOperand, endsOperand]

theorem Merges.juxtaposed {ts us : List Token} (h : Merges ts us) (after : Bool) :
    Token.juxtaposed after ts = Token.juxtaposed after us := by
  induction h generalizing after with
  | nil => rfl
  | keep t _ ih => rw [Token.juxtaposed, Token.juxtaposed, ih]
  | sign _ _ _ _ ih =>
    have rest := ih false
    rw [Token.juxtaposed] at rest ⊢
    rw [Token.juxtaposed]
    simpa [startsOperand, endsOperand] using rest

end Token

theorem Text.juxtaposed_foldSigns (s : Text) (after : Bool) :
    Token.juxtaposed after s.foldSigns.tokens = Token.juxtaposed after s.tokens :=
  eq_foldSigns (fun _ _ h => h.juxtaposed after) s

theorem Store.juxtaposed_valued (store : Store) :
    ∀ (ts : List Token) (after : Bool),
      Token.juxtaposed after (ts.map store.valued) = Token.juxtaposed after ts
  | [], _ => rfl
  | t :: ts, after => by
    have starts : (store.valued t).startsOperand = t.startsOperand := by cases t <;> rfl
    have ends : (store.valued t).endsOperand = t.endsOperand := by cases t <;> rfl
    rw [List.map_cons, Token.juxtaposed, Token.juxtaposed, starts, ends,
      store.juxtaposed_valued ts]

/-! ### Counting through the signs -/

namespace Signs

open Token (weight net juxtaposed)

/-- How many more numbers than operators may still come. -/
def room (σ : Signs) : Int :=
  if σ.operandDue then 1 else 0

/-- A run of signs is read only where an operand is due. -/
def Settled (σ : Signs) : Prop :=
  σ.operandDue = false → σ.pending = none

theorem net_send (σ : Signs) (t : Token) : net (σ.send t).1 = t.weight := by
  cases t with
  | closing => rcases σ.send_closing_cases with ⟨-, sent⟩ | ⟨own, -, sent⟩ <;> rw [sent] <;> rfl
  | _ => rfl

theorem send_state (σ : Signs) (t : Token) :
    (σ.send t).2.operandDue = !t.endsOperand ∧ (σ.send t).2.pending = none := by
  cases t with
  | closing =>
    rcases σ.send_closing_cases with ⟨-, sent⟩ | ⟨own, -, sent⟩ <;> rw [sent] <;> exact ⟨rfl, rfl⟩
  | _ => exact ⟨rfl, rfl⟩

/-- After a step an operand is due unless one has just ended, and a run of signs is worked off
before it could get behind an operand. -/
theorem Step.state {σ σ' : Signs} {t : Token} {ts : List Token} (h : Step σ t ts σ') :
    σ'.operandDue = (!t.endsOperand) ∧ σ'.Settled := by
  cases h with
  | sign _ _ due =>
    refine ⟨due, fun behind => ?_⟩
    rw [due] at behind
    cases behind
  | token t front =>
    obtain ⟨due, pending⟩ := send_state σ t
    exact ⟨due, fun _ => pending⟩
  | number n => exact ⟨rfl, fun _ => rfl⟩
  | group => exact ⟨rfl, fun _ => rfl⟩

/-- **Step**: the numbers sent out less the operators sent out, and what may still come, are no more
than what could come before; if they are as many, the token may stand where it does. -/
theorem Step.net_le {σ σ' : Signs} {t : Token} {ts : List Token} (h : Step σ t ts σ')
    (apart : (!σ.operandDue && t.startsOperand) = false) :
    net ts + σ'.room ≤ σ.room ∧
      (net ts + σ'.room = σ.room → Token.next σ.operandDue t = some (!t.endsOperand)) := by
  obtain ⟨bound, fits⟩ := Token.weight_le apart
  obtain ⟨due, -⟩ := h.state
  -- what is sent out for a token other than a sign that is kept is worth no more than the token
  have counted (sent : net ts ≤ t.weight) :
      net ts + σ'.room ≤ σ.room ∧
        (net ts + σ'.room = σ.room → Token.next σ.operandDue t = some (!t.endsOperand)) := by
    rw [room, room, due]
    exact ⟨by omega, fun full => fits (by omega)⟩
  cases h with
  | sign sign _ operand =>
    rw [room, room, operand]
    exact ⟨Int.le_refl _, fun _ => by simp [Token.next, sign, Token.endsOperand]⟩
  | token t front =>
    refine counted ?_
    have sent := net_send σ t
    have operator (negative : Bool) : (signOp negative).weight = -1 := rfl
    cases front with
    | none => exact Int.le_of_eq sent
    | some negative =>
      show net (signOp negative :: (σ.send t).1) ≤ t.weight
      rw [Token.net_cons, operator]
      omega
  | number n => exact counted (Int.le_refl _)
  | group => exact counted (Int.le_refl _)

/-- **Run**: where no operands are juxtaposed, there are at most as many numbers more than operators
as may come, and as many only if the tokens are ordered. -/
theorem net_run_le :
    ∀ (ts : List Token) {σ : Signs}, σ.Settled → juxtaposed (!σ.operandDue) ts = false →
      net (σ.run ts) ≤ σ.room ∧
        (net (σ.run ts) = σ.room → ts.foldlM Token.next σ.operandDue = some false)
  | [], ⟨due, pending, d, groups⟩, settled, _ => by
    cases due with
    | false =>
      obtain rfl : pending = none := settled rfl
      exact ⟨Int.le_refl _, fun _ => rfl⟩
    | true =>
      cases pending with
      | none =>
        show (0 : Int) ≤ 1 ∧ ((0 : Int) = 1 → _)
        exact ⟨by decide, nofun⟩
      | some negative =>
        show (-1 : Int) ≤ 1 ∧ ((-1 : Int) = 1 → _)
        exact ⟨by decide, nofun⟩
  | t :: ts, σ, settled, apart => by
    obtain ⟨here, later⟩ := Bool.or_eq_false_iff.1 apart
    obtain ⟨due, settled'⟩ := (step_spec σ t).state
    obtain ⟨bound, fits⟩ := (step_spec σ t).net_le here
    obtain ⟨bound', fits'⟩ := net_run_le ts settled' (by rwa [due, Bool.not_not])
    have split : net (σ.run (t :: ts)) = net (σ.step t).1 + net ((σ.step t).2.run ts) :=
      Token.net_append ..
    refine ⟨by omega, fun full => ?_⟩
    -- nothing can be made up for, so both parts are as large as they can be
    have first : net (σ.step t).1 + (σ.step t).2.room = σ.room := by omega
    have rest : net ((σ.step t).2.run ts) = (σ.step t).2.room := by omega
    rw [List.foldlM_cons, fits first]
    show ts.foldlM Token.next (!t.endsOperand) = some false
    rw [← due]
    exact fits' rest

/-- Signs worked off leave one number more than operators only of ordered tokens, where no operands
are juxtaposed. -/
theorem ordered_of_net_resolveSigns {ts : List Token} (apart : juxtaposed false ts = false)
    (h : net (Token.resolveSigns ts) = 1) : Token.Ordered ts := by
  have settled : Settled {} := nofun
  obtain ⟨-, fits⟩ := net_run_le ts settled apart
  exact fits h

end Signs

/-! ### Accepted lines -/

namespace Store

/-- **Accepted lines**: the units of a line with a value form a sentence exactly when no operands
stand side by side in it. -/
theorem isSentence_iff_juxtaposed (store : Store) (limits : Limits) {line : Text} {v : Int}
    (assign : '=' ∉ line) (accepted : store.result limits line = .ok (some v)) :
    IsSentence line.units ↔ Token.juxtaposed false line.tokens = false := by
  have recognised := isSentence_iff fun u (hu : u ∈ line.units) => (Text.mem_units hu).1
  constructor
  · intro sentence
    have order : line.tokens.foldlM Token.next true = some false := (recognised.1 sentence).1
    exact Token.juxtaposed_of_foldlM_next order
  · intro apart
    obtain ⟨balance, -, value⟩ := store.of_result_eq_some limits assign accepted
    obtain ⟨-, postfixed, converted, evaluated⟩ := store.calculate_eq_ok_iff.1 value
    -- the number of values on the stack is all that the evaluation tells of the order
    have one : Token.net (Token.resolveSigns (line.foldSigns.tokens.map store.valued)) = 1 := by
      rw [← Token.net_toPostfix converted]
      exact Token.net_eq_one evaluated
    have apart' : Token.juxtaposed false (line.foldSigns.tokens.map store.valued) = false := by
      rw [store.juxtaposed_valued, line.juxtaposed_foldSigns]
      exact apart
    have order := Signs.ordered_of_net_resolveSigns apart' one
    rw [Token.Ordered, store.foldlM_next_valued, line.foldlM_next_foldSigns] at order
    exact recognised.2 ⟨order, balance⟩

/-- The equivalence, on a line whose operands stand side by side. -/
theorem isSentence_iff_juxtaposed_reverse :
    '=' ∉ "1 2 +".toList ∧ empty.result .standard "1 2 +".toList = .ok (some 3) ∧
      (IsSentence (Text.units "1 2 +".toList) ↔
        Token.juxtaposed false (Text.tokens "1 2 +".toList) = false) :=
  ⟨by decide, by decide, empty.isSentence_iff_juxtaposed .standard (by decide) (v := 3) (by decide)⟩

/-- Not every accepted line is a sentence: operands that stand side by side in front of their
operator are calculated with. -/
theorem accepts_reverse_notation :
    empty.result .standard "1 2 +".toList = .ok (some 3) ∧
      ¬ IsSentence (Text.units "1 2 +".toList) := by
  refine ⟨by decide, ?_⟩
  intro sentence
  have ne : ∀ u ∈ Text.units "1 2 +".toList, u ≠ [] := by decide
  obtain ⟨order, -⟩ := (isSentence_iff ne).1 sentence
  unfold Token.Ordered at order
  revert order
  decide

end Store

end Abacus
