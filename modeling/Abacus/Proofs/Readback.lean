import Abacus.Proofs.Acceptance
import Abacus.Proofs.Balance
import Abacus.Proofs.Course
import Abacus.Proofs.NormalForm
import Abacus.Proofs.Replacement
import Abacus.Proofs.Unsigned

/-!
# Resolved forms as lines

The tokens of a sentence with names and signs worked off are shown as a text, and that text is a
line like any other. A negative number is written in it with its sign attached, and is read as a
sign and a number; since it stands where an operand is due, the pass over the signs puts the two
together again. So the line has the value that was shown with it, and the same tokens are left of
it.

- **Tokens as they are read** (`Token.spelling`): what becomes of a token when its text is read.
- **Signs** (`Signs.run_spelling`): where an operand is due, the pass makes of a number and of its
  numeral the same, whatever it remembers. Elsewhere it does not, and ordered tokens have no number
  there.
- **Resolved tokens** (`Token.Resolved`) are read back as they are (`Store.outcome_render`,
  `Store.evaluate_resolved`); only a lone negative number takes the shortcut for it, and its stages
  are not shown.
-/

namespace Abacus

/-! ### Tokens as they are read -/

namespace Token

/-- The tokens that the text of a token is read as: a negative number is a sign and a number. -/
def spelling : Token → List Token
  | .number v => numeral v
  | t => [t]

theorem tokens_text {t : Token} (fit : t.convertible = true) : t.text.tokens = t.spelling := by
  cases t with
  | number v => exact Text.tokens_ofInt v
  | op o => exact Text.tokens_cons (ofSymbol?_symbol o) []
  | opening => rfl
  | closing => rfl
  | name s => cases fit
  | unknown s => cases fit

theorem convertible_of_mem_spelling {t u : Token} (fit : t.convertible = true)
    (h : u ∈ t.spelling) : u.convertible = true := by
  cases t with
  | number v =>
    cases v with
    | ofNat n => exact List.mem_singleton.1 h ▸ rfl
    | negSucc n => rcases List.mem_pair.1 h with rfl | rfl <;> rfl
  | _ => exact List.mem_singleton.1 h ▸ fit

theorem brackets_spelling (ts : List Token) : brackets (ts.flatMap spelling) = brackets ts := by
  induction ts with
  | nil => rfl
  | cons t ts ih =>
    rw [List.flatMap_cons, brackets_append, ih, ← List.singleton_append, brackets_append]
    congr 1
    cases t with
    | number v => cases v <;> rfl
    | _ => rfl

/-- A numeral may stand where its number may. -/
theorem foldlM_next_spelling {t : Token} {due due' : Bool} (h : next due t = some due') :
    t.spelling.foldlM next due = some due' := by
  cases t with
  | number v =>
    cases due with
    | true => cases v <;> exact h
    | false => cases h
  | _ => exact Option.bind_eq_some_iff.2 ⟨due', h, rfl⟩

theorem foldlM_next_flatMap_spelling :
    ∀ {ts : List Token} {due due' : Bool}, ts.foldlM next due = some due' →
      (ts.flatMap spelling).foldlM next due = some due'
  | [], _, _, h => h
  | t :: ts, due, due', h => by
    obtain ⟨between, first, rest⟩ := Option.bind_eq_some_iff.1 h
    rw [List.flatMap_cons, List.foldlM_append, foldlM_next_spelling first]
    exact foldlM_next_flatMap_spelling rest

end Token

/-! ### Signs -/

namespace Signs

open Token (spelling next)

/-- Where an operand is due, a number can be spelled out. -/
theorem run_spelling {σ : Signs} {t : Token} {due : Bool} (h : next σ.operandDue t = some due)
    (rest : List Token) : σ.run (t.spelling ++ rest) = σ.run (t :: rest) := by
  cases t with
  | number v =>
    cases v with
    | ofNat n => rfl
    | negSucc n =>
      obtain ⟨operand, pending, depth, groups⟩ := σ
      cases operand with
      | false => cases h
      | true =>
        -- the sign of the numeral is folded into the run of signs in front of it
        rcases pending with - | - | - <;> rfl
  | _ => rfl

theorem run_flatMap_spelling :
    ∀ {ts : List Token} {σ : Signs} {due : Bool}, ts.foldlM next σ.operandDue = some due →
      σ.run (ts.flatMap spelling) = σ.run ts
  | [], _, _, _ => rfl
  | t :: ts, σ, due, h => by
    obtain ⟨between, first, rest⟩ := Option.bind_eq_some_iff.1 h
    have state : (σ.step t).2.operandDue = between :=
      (step_spec σ t).state.1.trans (Token.of_next_eq_some first).2.symm
    rw [← state] at rest
    rw [List.flatMap_cons, run_spelling first]
    exact congrArg ((σ.step t).1 ++ ·) (run_flatMap_spelling rest)

end Signs

namespace Token

theorem resolveSigns_spelling {ts : List Token} (order : Ordered ts) :
    resolveSigns (ts.flatMap spelling) = resolveSigns ts :=
  Signs.run_flatMap_spelling order

/-- Ordered and balanced tokens are those of an expression, unless they are one name. -/
theorem isExpression_of_ordered {ts : List Token} (order : Ordered ts)
    (balanced : Bracket.balanced (brackets ts) = true) (composed : ∀ name, ts ≠ [.name name]) :
    IsExpression ts where
  visible := by
    rintro rfl
    cases order
  plain := unknown_not_mem_of_ordered order _
  composed := composed
  slashless := by
    intro slash
    obtain ⟨r, rfl⟩ := List.head?_eq_some_iff.1 slash
    cases order
  balanced := balanced

end Token

/-! ### Tokens as pieces -/

namespace Text

theorem isPiece_singleton {c : Char} (visible : isBlank c = false) : IsPiece [c] :=
  Undivided.isPiece (.inr (.inr ⟨c, rfl, visible⟩))

theorem isPiece_ofInt (v : Int) : IsPiece (Decimal.ofInt v) where
  visible := by
    refine ⟨?_, (Decimal.signedNumeral_ofInt v).visible⟩
    intro none
    have tokens := tokens_ofInt v
    rw [none] at tokens
    cases v <;> cases tokens
  folded := foldSigns_ofInt v
  apart := glued_of_forall fun c hc =>
    ((selfContained_bracketed_ofInt v).plain c (by simp [bracketed, hc])).1

end Text

theorem Token.isPiece_text {t : Token} (fit : t.convertible = true) : t.text.IsPiece := by
  cases t with
  | number v => exact Text.isPiece_ofInt v
  | op o => exact Text.isPiece_singleton (Text.isBlank_of_ofSymbol? (ofSymbol?_symbol o))
  | opening => exact Text.isPiece_singleton rfl
  | closing => exact Text.isPiece_singleton rfl
  | name s => cases fit
  | unknown s => cases fit

/-! ### Resolved tokens -/

namespace Token

/-- Whether tokens can be what is left of a sentence: each may stand where it does, brackets match,
there are only numbers, operators and brackets, and no signs to work off. -/
structure Resolved (ts : List Token) : Prop where
  order : Ordered ts
  balanced : Bracket.balanced (brackets ts) = true
  fit : ∀ t ∈ ts, t.convertible = true
  unsigned : resolveSigns ts = ts

variable {ts : List Token}

theorem Resolved.isPiece (h : Resolved ts) : ∀ u ∈ ts.map text, u.IsPiece := by
  intro u hu
  obtain ⟨t, ht, rfl⟩ := List.mem_map.1 hu
  exact isPiece_text (h.fit t ht)

theorem Resolved.tokens_render (h : Resolved ts) : (render ts).tokens = ts.flatMap spelling := by
  rw [render, Text.tokens_unwords, List.flatMap_map]
  exact List.flatMap_congr fun t ht => tokens_text (h.fit t ht)

theorem Resolved.fit_spelling (h : Resolved ts) :
    ∀ u ∈ ts.flatMap spelling, u.convertible = true := by
  intro u hu
  obtain ⟨t, ht, inside⟩ := List.mem_flatMap.1 hu
  exact convertible_of_mem_spelling (h.fit t ht) inside

theorem Resolved.isExpression_render (h : Resolved ts) : (render ts).IsExpression := by
  rw [Text.isExpression_iff, h.tokens_render]
  refine isExpression_of_ordered (foldlM_next_flatMap_spelling h.order)
    (by rw [brackets_spelling, h.balanced]) fun name single => ?_
  have named := h.fit_spelling (.name name) (single ▸ List.mem_singleton_self _)
  cases named

/-- What is read as a sign and a number is one negative number. -/
theorem Resolved.eq_number (h : Resolved ts) {m : Nat}
    (spelled : ts.flatMap spelling = [.op .minus, .number m]) :
    ts = [.number (-m)] ∧ (-m : Int) < 0 := by
  have number : ts = [.number (-m)] := by
    rw [← h.unsigned, ← resolveSigns_spelling h.order, spelled]
    rfl
  refine ⟨number, ?_⟩
  rw [number] at spelled
  cases m with
  | zero => cases spelled
  | succ m => omega

end Token

namespace Store

/-- Tokens without names are resolved alike in every store. -/
theorem resolve_of_convertible (store : Store) {ts : List Token}
    (fit : ∀ t ∈ ts, t.convertible = true) : store.resolve ts = .ok (Token.resolveSigns ts) := by
  refine store.resolve_of_nameless fun s hs => ?_
  cases fit _ hs

/-- What is left of the tokens of a sentence. -/
theorem resolved_of_resolve {store : Store} {line : Text} {resolved : List Token}
    (sentence : IsSentence line.units)
    (resolution : store.resolve line.foldSigns.tokens = .ok resolved) :
    Token.Resolved resolved := by
  have ne {s u : Text} (hu : u ∈ s.units) : u ≠ [] := (Text.mem_units hu).1
  obtain ⟨order, balanced⟩ := (isSentence_iff fun u => ne).1 sentence
  -- folding signs leaves a sentence
  have folded : IsSentence line.foldSigns.units :=
    (isSentence_iff fun u => ne).2
      ⟨(line.foldlM_next_foldSigns true).trans order, (line.brackets_foldSigns).symm ▸ balanced⟩
  obtain ⟨x, units⟩ := folded
  have left : x.expr.resolved (Word.valueIn store) = resolved := by
    obtain ⟨-, signs⟩ := store.resolve_eq_ok_iff.1 resolution
    rw [← signs, Text.tokens, ← units, x.map_ofUnit_units, store.map_valued store.valued_token,
      Token.resolveSigns_tokens]
  have converted := Token.toPostfix_resolved (Word.valueIn store) x.layered_expr
  obtain ⟨fit, balanced⟩ := Token.exists_toPostfix_iff.1 ⟨_, converted⟩
  subst left
  refine ⟨?_, balanced, fit, Token.resolveSigns_resolved _ x⟩
  rw [← x.tokens_unsigned]
  exact (x.unsigned _).foldlM_next fun _ => rfl

/-- **Tokens as a line**: the text of resolved tokens has their value in every store; and unless it
is a lone negative number, the same tokens are left of it again. -/
theorem outcome_render (store : Store) (limits : Limits) {ts postfixed : List Token} {v : Int}
    (h : Token.Resolved ts) (converted : Token.toPostfix ts = .ok postfixed)
    (value : Token.evaluate limits postfixed = .ok v) :
    ∃ again : Answer, (store.evaluate limits (Token.render ts)).outcome = .ok again ∧
      again.value? = some v ∧
      ((∀ n : Int, n < 0 → Token.render ts ≠ Decimal.ofInt n) →
        again.derivation.sheet.resolved = Token.render ts ∧
          again.derivation.sheet.postfixed = Token.render postfixed) := by
  rw [store.evaluate_of_isExpression limits h.isExpression_render, Token.render,
    Text.trim_unwords h.isPiece, evaluateExpression, Normalised.ofText?_unwords h.isPiece,
    ← Token.render, Normalised.ofUnits]
  cases lone : Normalised.literal? (Token.render ts).units with
  | some n =>
    obtain ⟨m, tokens, rfl⟩ := Normalised.tokens_of_literal lone
    obtain ⟨rfl, negative⟩ := h.eq_number (h.tokens_render.symm.trans tokens)
    obtain rfl : [.number (-m)] = postfixed := Except.ok.inj converted
    obtain rfl : (-m : Int) = v := Except.ok.inj value
    exact ⟨_, rfl, rfl, fun long => (long _ negative (Text.unwords_singleton _)).elim⟩
  | none =>
    have read : Token.scan (Text.unwords (Token.render ts).units) = ts.flatMap Token.spelling := by
      rw [Text.scan_unwords, h.tokens_render]
    have resolution : store.resolve (ts.flatMap Token.spelling) = .ok ts := by
      rw [store.resolve_of_convertible h.fit_spelling, Token.resolveSigns_spelling h.order,
        h.unsigned]
    refine ⟨⟨some v, .stages (Text.unwords (Token.render ts).units) (ts.flatMap Token.spelling) ts
      postfixed⟩, ?_, rfl, fun _ => ⟨rfl, rfl⟩⟩
    simp only [evaluateSpaced, read, resolution, converted, value]
    rfl

/-- **Resolved forms mean what was calculated**: when the line of a sentence has a value and its
resolved form is shown, that text is a line with the same value, in every store and under the same
limits; and unless it is a lone negative number, it has the same resolved and postfix forms. -/
theorem evaluate_resolved (store other : Store) (limits : Limits) {line shown : Text}
    {answer : Answer} {v : Int} (sentence : IsSentence line.units)
    (answered : (store.evaluate limits line).outcome = .ok answer) (value : answer.value? = some v)
    (resolved : answer.derivation.sheet.resolved = shown) (visible : shown ≠ []) :
    ∃ again : Answer, (other.evaluate limits shown).outcome = .ok again ∧ again.value? = some v ∧
      ((∀ n : Int, n < 0 → shown ≠ Decimal.ofInt n) →
        again.derivation.sheet.resolved = shown ∧
          again.derivation.sheet.postfixed = answer.derivation.sheet.postfixed) := by
  subst resolved
  obtain ⟨evaluation, course, evaluated⟩ := store.exists_course line
  rw [evaluated] at answered
  cases course with
  | blank _ => cases answered; exact absurd rfl visible
  | assigned _ _ => cases answered; exact absurd rfl visible
  | read _ _ => cases answered; exact absurd rfl visible
  | literal _ => cases answered; exact absurd rfl visible
  | refused _ _ _ => cases answered
  | @staged text resolved postfixed normal resolution conversion =>
    rw [Normalised.scan_of_spaced normal] at resolution
    rw [← Text.units_trim] at sentence
    have left := resolved_of_resolve sentence resolution
    simp only [calculated, Report.outcome_after] at answered
    cases outcome : Token.evaluate limits postfixed with
    | error e =>
      rw [outcome] at answered
      cases answered
    | ok w =>
      rw [outcome] at answered
      cases answered
      obtain rfl : w = v := Option.some.inj value
      exact other.outcome_render limits left conversion outcome

/-- Negative numbers behind a binary `-`, in front of a power and inside a negated group. -/
theorem evaluate_resolved_negative :
    let store := empty.bind "x".toList (-2)
    let line : Text := "3-x^2*-(1-x)".toList
    let shown : Text := "3 - -2 ^ 2 * ( -1 * ( 1 - -2 ) )".toList
    ∃ answer again : Answer, IsSentence line.units ∧
      (store.evaluate .standard line).outcome = .ok answer ∧ answer.value? = some 15 ∧
      answer.derivation.sheet.resolved = shown ∧ shown ≠ [] ∧
      (∀ n : Int, n < 0 → shown ≠ Decimal.ofInt n) ∧
      (empty.evaluate .standard shown).outcome = .ok again ∧ again.value? = some 15 ∧
      again.derivation.sheet.resolved = shown ∧
      again.derivation.sheet.postfixed = answer.derivation.sheet.postfixed := by
  intro store line shown
  have sentence : IsSentence line.units :=
    (isSentence_iff fun u hu => (Text.mem_units hu).1).2
      ⟨by unfold Token.Ordered; decide, by decide⟩
  have answered : (store.evaluate .standard line).outcome = .ok _ := rfl
  have long : ∀ n : Int, n < 0 → shown ≠ Decimal.ofInt n := by
    intro n _ lone
    have space : ' ' ∈ shown := by decide
    rw [lone] at space
    cases Decimal.isDigit_of_mem_ofInt space (by decide)
  obtain ⟨again, outcome, value, forms⟩ :=
    store.evaluate_resolved empty .standard sentence answered (v := 15) rfl (rfl : _ = shown)
      (by decide)
  exact ⟨_, again, sentence, answered, rfl, rfl, by decide, long, outcome, value, forms long⟩

end Store

end Abacus
