import Abacus.Proofs.Lexing

/-!
# Numerals wherever they stand

An integer is read in three places. An assignment reads a sign and digits at once; an expression is
cut into a sign and digits, and the pass over the signs puts them together; and the normal form has
a shortcut for a line that is a lone negative number. All of them read the same integer, the one
that the digits stand for in base ten, and what the printer writes is read as what was printed.

- **Tokens** (`Token.IsSigned`): what a signed numeral is cut into, however many digits it has, and
  which value the stages make of it (`Token.IsSigned.calculate_eq`).
- **Shortcut** (`Normalised.isSigned_of_literal`): it is taken for such tokens only, so that it
  leads where the stages that it leaves out would have led.
- **Entering** (`Store.Takes`, `Store.takes_numerals`): a line of its own and the right side of an
  assignment read alike.
-/

namespace Abacus

/-! ### Tokens -/

/-- Whether tokens are a number with one sign at most in front of it, and for which integer they
stand. -/
inductive Token.IsSigned : List Token → Int → Prop where
  | unsigned (n : Nat) : IsSigned [.number n] n
  | plus (n : Nat) : IsSigned [.op .plus, .number n] n
  | minus (n : Nat) : IsSigned [.op .minus, .number n] (-n)

namespace Token.IsSigned

variable {ts : List Token} {v : Int}

theorem ordered (h : IsSigned ts v) : Ordered ts := by
  cases h <;> rfl

theorem balanced (h : IsSigned ts v) : Bracket.balanced (brackets ts) = true := by
  cases h <;> rfl

/-- The pass over the signs puts sign and number together, and nothing is left to calculate. -/
theorem calculate_eq (h : IsSigned ts v) (store : Store) (limits : Limits) :
    store.calculate limits ts = .ok v := by
  cases h <;> rfl

end Token.IsSigned

namespace Text

variable {ds : Text}

theorem tokens_of_digits (digits : ds.Consists Char.isDigit) :
    tokens ds = [.number (Decimal.denoted ds)] := by
  rw [tokens, Undivided.units_eq (.inl digits), List.map_singleton,
    Token.ofUnit_numeral digits, Decimal.value_eq_denoted]

/-- A lone sign has nothing to be folded with. -/
theorem foldSigns_sign_digits {c : Char} (visible : isBlank c = false)
    (digits : ds.Consists Char.isDigit) : foldSigns (c :: ds) = c :: ds := by
  obtain ⟨d, r, rfl⟩ := List.exists_cons_of_ne_nil digits.1
  have first : isSign d = false :=
    isSign_of_isAlphanum (isAlphanum_of_isDigit (digits.2 d (List.mem_cons_self ..)))
  have sign : foldSigns [c] = [c] := Undivided.foldSigns_eq (.inr (.inr ⟨c, rfl, visible⟩))
  have split := foldSigns_append_of_head ⟨d, r, rfl, first⟩ [c]
  rwa [sign, Undivided.foldSigns_eq (.inl digits)] at split

end Text

namespace SignedNumeral

variable {s : Text} {v : Int}

theorem foldSigns_eq (h : SignedNumeral s v) : s.foldSigns = s := by
  cases h with
  | unsigned digits => exact Text.Undivided.foldSigns_eq (.inl digits)
  | plus digits => exact Text.foldSigns_sign_digits rfl digits
  | minus digits => exact Text.foldSigns_sign_digits rfl digits

/-- A signed numeral is cut into tokens that stand for the same integer. -/
theorem isSigned_tokens (h : SignedNumeral s v) : Token.IsSigned s.tokens v := by
  cases h with
  | unsigned digits =>
    rw [Text.tokens_of_digits digits]
    exact .unsigned _
  | plus digits =>
    rw [Text.tokens_cons (c := '+') rfl, Text.tokens_of_digits digits]
    exact .plus _
  | minus digits =>
    rw [Text.tokens_cons (c := '-') rfl, Text.tokens_of_digits digits]
    exact .minus _

end SignedNumeral

theorem Decimal.signedNumeral_ofInt (v : Int) : SignedNumeral (ofInt v) v :=
  readSigned?_eq_some_iff.1 (readSigned?_ofInt v)

/-! ### Shortcut -/

/-- The shortcut is taken for tokens that stand for the integer that it reads. -/
theorem Normalised.isSigned_of_literal {s : Text} {n : Int} (h : ofText? s = some (.literal n)) :
    Token.IsSigned s.foldSigns.tokens n := by
  rw [ofText?] at h
  split at h
  · cases h
  · rw [ofUnits] at h
    cases lone : literal? s.foldSigns.units with
    | none =>
      rw [lone] at h
      cases h
    | some m =>
      rw [lone] at h
      cases h
      obtain ⟨k, tokens, rfl⟩ := tokens_of_literal lone
      rw [tokens]
      exact .minus k

namespace Store

variable (store : Store) (limits : Limits)

/-- What the stages make of the spaced text, when the shortcut is not taken. -/
theorem outcome_evaluateSpaced_of_literal {s : Text} {n : Int}
    (h : Normalised.ofText? s = some (.literal n)) :
    (store.evaluateSpaced limits (Text.unwords s.foldSigns.units)).outcome.map Prod.fst
      = .ok n := by
  rw [outcome_evaluateSpaced, Text.scan_unwords]
  exact (Normalised.isSigned_of_literal h).calculate_eq store limits

/-! ### Entering -/

/-- Whether a text is taken for an integer: as a line it shows the integer, and behind a name and
an `=` it gives the name this value, which the name shows from then on. -/
structure Takes (text : Text) (v : Int) : Prop where
  shown : store.result limits text = .ok (some v)
  bound : ∀ name : Text, name.Consists Char.isAlpha →
    store.result limits (name ++ '=' :: text) = .ok none ∧
      (store.after limits (name ++ '=' :: text)).result limits name = .ok (some v)

variable {store}

/-- A name shows its value. -/
theorem result_of_bound {name : Text} {v : Int} (letters : name.Consists Char.isAlpha)
    (bound : store.get? name = some v) : store.result limits name = .ok (some v) := by
  obtain ⟨folded, tokens, glued⟩ := of_isName (Text.isName_iff.2 letters)
  rw [store.result_of_tokens limits tokens nofun (letters.not_mem rfl), folded, tokens,
    if_pos ⟨rfl, glued⟩, calculate_name, read, bound]
  rfl

theorem result_of_signed {line : Text} {v : Int} (folded : line.foldSigns = line)
    (signed : Token.IsSigned line.tokens v) : store.result limits line = .ok (some v) := by
  have sentence : IsSentence line.units :=
    (isSentence_iff fun u hu => (Text.mem_units hu).1).2 ⟨signed.ordered, signed.balanced⟩
  rw [store.result_of_isSentence limits sentence, folded, signed.calculate_eq]
  rfl

theorem assigns_of_numeral {name numeral : Text} {v : Int} (letters : name.Consists Char.isAlpha)
    (h : SignedNumeral numeral v) :
    Assigns store.get? (name ++ '=' :: numeral) name v :=
  assigns_iff.2 ⟨numeral, Assignment.written_append letters (.inr ⟨v, h⟩), .inr h⟩

/-- **Readers**: a signed numeral is taken for the integer that it stands for. -/
theorem takes_of_numeral {numeral : Text} {v : Int} (h : SignedNumeral numeral v) :
    store.Takes limits numeral v where
  shown := result_of_signed limits h.foldSigns_eq h.isSigned_tokens
  bound := by
    intro name letters
    have assigns : Assigns store.get? (name ++ '=' :: numeral) name v :=
      assigns_of_numeral letters h
    obtain ⟨answered, carried⟩ := evaluate_of_assigns assigns limits
    have known : (store.bind name v).get? name = some v := by rw [get?_bind, if_pos rfl]
    refine ⟨?_, ?_⟩
    · rw [result, answered]
      rfl
    · rw [carried]
      exact result_of_bound limits letters known

/-- **Numerals**: in every store and under all limits, digits with one sign at most in front of them
are taken for the integer that they stand for in base ten; where the shortcut for a lone negative
number is taken, the stages that it leaves out would have led to the same integer; and the text that
is displayed for an integer is taken for it. -/
theorem takes_numerals (store : Store) (limits : Limits) :
    (∀ numeral v, SignedNumeral numeral v → store.Takes limits numeral v) ∧
      (∀ s n, Normalised.ofText? s = some (.literal n) →
        (store.evaluateSpaced limits (Text.unwords s.foldSigns.units)).outcome.map Prod.fst
          = .ok n) ∧
      ∀ v, store.Takes limits (Decimal.ofInt v) v :=
  ⟨fun _ _ h => takes_of_numeral limits h,
    fun _ _ h => store.outcome_evaluateSpaced_of_literal limits h,
    fun v => takes_of_numeral limits (Decimal.signedNumeral_ofInt v)⟩

/-- Zeros in front, a run of signs that leaves one, and a name that had another value. -/
theorem takes_numerals_zeros :
    let store := empty.bind ['x'] 5
    store.Takes .standard "-0042".toList (-42) ∧
      (store.after .standard "x=-0042".toList).result .standard ['x'] = .ok (some (-42)) ∧
      Normalised.ofText? " ---\t07".toList = some (.literal (-7)) ∧
      (store.evaluateSpaced .standard "- 07".toList).outcome.map Prod.fst = .ok (-7) := by
  intro store
  obtain ⟨numerals, shortcut, -⟩ := store.takes_numerals .standard
  have digits : Text.Consists Char.isDigit "0042".toList := by decide
  have taken : store.Takes .standard "-0042".toList (-42) := numerals _ _ (.minus digits)
  have literal : Normalised.ofText? " ---\t07".toList = some (.literal (-7)) := by decide
  exact ⟨taken, (taken.bound ['x'] (Text.isName_iff.1 rfl)).2, literal, shortcut _ _ literal⟩

end Store

end Abacus
