import Abacus.Evaluation
import Abacus.Proofs.Postfix
import Abacus.Proofs.SignResolution

/-!
# From tokens to a value

The stages behind the normal form, taken as one function of the tokens.

- `Store.calculate`: the value of tokens; `calculate_eq_ok_iff` names what every stage makes of
  them.
- `Store.substitute_eq`: names give way to their values, or the leftmost name without a value is
  reported.
- `Store.calculate_tokens`: the tokens of a sentence have its meaning. It is here that all the
  stages come together: the refusal of a name comes before any calculation, the signs worked off
  leave the tokens of the sentence's expression (`Token.resolveSigns_tokens`), and these have its
  value (`Token.toPostfix_resolved`, `Token.evaluate_postfixed`).
-/

namespace Abacus

namespace Store

variable (store : Store)

/-! ### Values for names -/

/-- Whether a token is a name without a value. -/
def isUnbound : Token → Bool
  | .name s => (store.get? s).isNone
  | _ => false

/-- The token with its value in the place of a name, a name without a value counting as zero. -/
def valued : Token → Token
  | .name s => .number ((store.get? s).getD 0)
  | t => t

theorem substituteToken_eq (t : Token) :
    store.substituteToken t
      = if store.isUnbound t then .error (.unknownVariable t.text) else .ok (store.valued t) := by
  cases t with
  | name s =>
    show (store.read s).map Token.number = _
    rw [read, isUnbound, valued]
    cases store.get? s <;> rfl
  | _ => rfl

/-- Names give way to their values unless one has none; then the leftmost of these is reported. -/
theorem substitute_eq (ts : List Token) :
    store.substitute ts = match ts.find? store.isUnbound with
      | some t => .error (.unknownVariable t.text)
      | none => .ok (ts.map store.valued) := by
  rw [substitute]
  induction ts with
  | nil => rfl
  | cons t ts ih =>
    rw [List.mapM_cons, ih, substituteToken_eq, List.find?_cons]
    cases store.isUnbound t with
    | true => rfl
    | false => cases ts.find? store.isUnbound <;> rfl

/-- Names and signs are worked off where every name has a value. -/
theorem resolve_eq_ok_iff {ts resolved : List Token} :
    store.resolve ts = .ok resolved ↔
      ts.find? store.isUnbound = none ∧
        Token.resolveSigns (ts.map store.valued) = resolved := by
  rw [resolve, substitute_eq]
  cases ts.find? store.isUnbound with
  | some t =>
    constructor
    · intro h
      cases h
    · rintro ⟨unbound, -⟩
      cases unbound
  | none =>
    constructor
    · intro h
      exact ⟨rfl, Except.ok.inj h⟩
    · rintro ⟨-, rfl⟩
      rfl

/-- Where every name has a value, there is something for the signs to be worked off in. -/
theorem resolve_of_bound {ts : List Token}
    (bound : ∀ s, .name s ∈ ts → (store.get? s).isSome = true) :
    store.resolve ts = .ok (Token.resolveSigns (ts.map store.valued)) := by
  refine store.resolve_eq_ok_iff.2 ⟨List.find?_eq_none.2 fun t ht unbound => ?_, rfl⟩
  cases t with
  | name s =>
    have missing : store.get? s = none := Option.isNone_iff_eq_none.1 unbound
    have found := bound s ht
    rw [missing] at found
    cases found
  | _ => cases unbound

/-- Tokens without names are treated alike in every store. -/
theorem resolve_of_nameless {ts : List Token} (nameless : ∀ s, .name s ∉ ts) :
    store.resolve ts = .ok (Token.resolveSigns ts) := by
  have kept : ∀ t ∈ ts, store.valued t = t := by
    intro t ht
    cases t with
    | name s => exact absurd ht (nameless s)
    | _ => rfl
  rw [store.resolve_of_bound fun s hs => absurd hs (nameless s), List.map_congr_left kept,
    List.map_id']

/-- A value is due where a name is. -/
theorem next_valued (due : Bool) (t : Token) :
    Token.next due (store.valued t) = Token.next due t := by
  cases t <;> rfl

theorem foldlM_next_valued (ts : List Token) (due : Bool) :
    (ts.map store.valued).foldlM Token.next due = ts.foldlM Token.next due := by
  rw [List.foldlM_map]
  simp only [next_valued]

theorem brackets_valued (ts : List Token) :
    Token.brackets (ts.map store.valued) = Token.brackets ts := by
  have kept : Bracket.ofToken? ∘ store.valued = Bracket.ofToken? := by
    funext t
    cases t <;> rfl
  rw [Token.brackets, List.filterMap_map, kept]
  rfl

/-! ### The value of tokens -/

/-- The value of tokens: names give way to their values, signs are worked off, and the postfix form
is evaluated. -/
def calculate (limits : Limits) (ts : List Token) : Except Refusal Int :=
  (store.resolve ts).bind fun resolved =>
    (Token.toPostfix resolved).bind fun postfixed => Token.evaluate limits postfixed

/-- Tokens have a value when every name does, and the tokens with their signs worked off have a
postfix form with that value. -/
theorem calculate_eq_ok_iff {limits : Limits} {ts : List Token} {v : Int} :
    store.calculate limits ts = .ok v ↔
      ts.find? store.isUnbound = none ∧
        ∃ postfixed, Token.toPostfix (Token.resolveSigns (ts.map store.valued)) = .ok postfixed ∧
          Token.evaluate limits postfixed = .ok v := by
  constructor
  · intro h
    obtain ⟨resolved, resolution, h⟩ := bind_eq_ok_iff.1 h
    obtain ⟨postfixed, converted, evaluated⟩ := bind_eq_ok_iff.1 h
    obtain ⟨bound, rfl⟩ := store.resolve_eq_ok_iff.1 resolution
    exact ⟨bound, postfixed, converted, evaluated⟩
  · rintro ⟨bound, postfixed, converted, evaluated⟩
    exact bind_eq_ok_iff.2 ⟨_, store.resolve_eq_ok_iff.2 ⟨bound, rfl⟩,
      bind_eq_ok_iff.2 ⟨postfixed, converted, evaluated⟩⟩

/-- The value of tokens whose names have values and that have a postfix form. -/
theorem calculate_of_toPostfix (limits : Limits) {ts postfixed : List Token}
    (bound : ts.find? store.isUnbound = none)
    (converted : Token.toPostfix (Token.resolveSigns (ts.map store.valued)) = .ok postfixed) :
    store.calculate limits ts = Token.evaluate limits postfixed := by
  rw [calculate, store.resolve_eq_ok_iff.2 ⟨bound, rfl⟩]
  show (Token.toPostfix (Token.resolveSigns (ts.map store.valued))).bind _ = _
  rw [converted]
  rfl

/-! ### The value of a sentence -/

variable {γ : Type}

/-- The leftmost name without a value is the first word without one, whatever the words are. -/
theorem find?_isUnbound {α : Type} {f : α → Token} {value? : α → Option Int}
    (unbound : ∀ a, store.isUnbound (f a) = (value? a).isNone) (l : List (γ × Lexeme α)) :
    (laidTokens f l).find? store.isUnbound
      = ((laidWords l).find? fun a => (value? a).isNone).map f := by
  induction l with
  | nil => rfl
  | cons p l ih =>
    obtain ⟨g, u⟩ := p
    rw [laidTokens_cons, List.find?_cons, laidWords, List.filterMap_cons, ih]
    cases u with
    | word a =>
      simp only [Lexeme.token, Lexeme.word?, List.find?_cons, unbound]
      cases (value? a).isNone <;> rfl
    | _ => rfl

/-- With values in the place of names, every word is read as a number. -/
theorem map_valued {α : Type} {f : α → Token} {g : α → Int}
    (valued : ∀ a, store.valued (f a) = .number (g a)) (x : Sentence γ α) :
    (x.tokens f).map store.valued = x.tokens (Token.numberOf g) := by
  rw [Sentence.tokens, laidTokens, List.map_map]
  refine List.map_congr_left fun p _ => ?_
  obtain ⟨-, u⟩ := p
  cases u with
  | word a => exact valued a
  | _ => rfl

theorem isUnbound_token (w : Word) : store.isUnbound w.token = (w.value? store).isNone := by
  cases w <;> rfl

theorem valued_token (w : Word) : store.valued w.token = .number (w.valueIn store) := by
  cases w with
  | numeral s hs => exact congrArg (fun n : Nat => Token.number n) (Decimal.value_eq_denoted s)
  | name s hs => rfl

/-- Only a name has no value. -/
theorem text_token {w : Word} (h : (w.value? store).isNone = true) : w.token.text = w.text := by
  cases w with
  | numeral s hs => cases h
  | name s hs => rfl

/-- **Meaning**: what the stages make of the tokens of a sentence is what the sentence means. -/
theorem calculate_tokens (limits : Limits) (x : Sentence γ Word) :
    store.calculate limits (x.tokens Word.token) = x.outcome store limits := by
  have find : (x.tokens Word.token).find? store.isUnbound
      = (x.words.find? fun w => (w.value? store).isNone).map Word.token :=
    store.find?_isUnbound store.isUnbound_token x.laid
  cases unbound : x.words.find? fun w => (w.value? store).isNone with
  | some w =>
    -- all names are looked up before anything is calculated
    have name := List.find?_some (p := fun w : Word => (w.value? store).isNone) unbound
    rw [calculate, resolve, substitute_eq, find, unbound, Sentence.outcome, unbound]
    show Except.error (Refusal.unknownVariable w.token.text) = _
    rw [store.text_token name]
  | none =>
    have converted : Token.toPostfix (Token.resolveSigns ((x.tokens Word.token).map store.valued))
        = .ok (x.expr.postfixed (Word.valueIn store)) := by
      rw [store.map_valued store.valued_token, Token.resolveSigns_tokens,
        Token.toPostfix_resolved _ x.layered_expr]
    rw [unbound] at find
    rw [store.calculate_of_toPostfix limits find converted, Token.evaluate_postfixed,
      Sentence.outcome, unbound]

end Store

end Abacus
